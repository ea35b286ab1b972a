import Rdfa.Proofs.Document.Positions
import Rdfa.Proofs.Extractor.Partial
import Rdfa.Proofs.Session.LifeCycle
import Rdfa.Proofs.Session.Streaming

-- What the position in a report of malformed input means to the consumer that supplied the input: it is
-- the offset of the tag that is wrong, counted from behind a byte order mark.
namespace Rdfa

open Document Exchange

def Contact.chunk? : Contact → Option Bytes
  | .produced size (.ok chunk) => some (chunk.take size)
  | .produced _ (.error _) | .received _ _ _ | .declared _ _ _ => none

@[simp] theorem Contact.chunk?_offered (graph : Graph) (delivery : Delivery)
    (answer : Except Text Unit) : (offered graph delivery answer).chunk? = none := by
  cases delivery <;> rfl

theorem Contact.chunk?_of_told {contact : Contact} (told : contact.isProduction = false) :
    contact.chunk? = none := by
  match contact with
  | .produced _ _ => cases told
  | .received _ _ _ | .declared _ _ _ => rfl

def Contact.chunks (contacts : List Contact) : List Bytes := contacts.filterMap chunk?

namespace Bridge

variable {κ : Type} [Consumer κ] {b next last : Bridge (Logged κ)} {turn : Turn}
  {turns : List Turn}

omit [Consumer κ] in
theorem served_taken (b : Bridge (Logged κ)) {size room : Nat} (chunk : Bytes) (fits : room ≤ size) :
    (b.served room chunk).taken size = chunk.take room := by
  have short : (chunk.take room).length ≤ size := Nat.le_trans (List.length_take_le _ _) fits
  have whole : min (chunk.take room).length size = (chunk.take room).length := Nat.min_eq_left short
  unfold served Filled.taken
  dsimp only
  rw [whole, List.take_length, Nat.sub_self, List.replicate_zero, List.append_nil]

theorem Step.piece (step : Step b turn next) :
    turn.exchange.piece?.toList = Contact.chunks turn.contacts ∨
      turn.exchange.piece? = some [] ∧ Contact.chunks turn.contacts = [] ∧ next.ended = true := by
  cases step with
  | fillRefused _ => exact .inl rfl
  | fillEnded _ ended => exact .inr ⟨congrArg some (Filled.taken_of_nothing rfl _), rfl, ended⟩
  | fillEmpty _ _ _ => exact .inr ⟨congrArg some (Filled.taken_of_nothing rfl _), rfl, rfl⟩
  | inputFailed _ _ _ _ => exact .inl rfl
  | @inputRead size chunk _ _ _ _ _ =>
    have taken := b.served_taken chunk (Nat.min_le_left size b.capacity)
    exact .inl (congrArg (fun bytes => [bytes]) taken)
  | emissionRefused _ => exact .inl rfl
  | codeUnknown _ _ => exact .inl rfl
  | deliveryRefused _ _ _ => exact .inl (by simp [piece?, Contact.chunks])
  | deliveryTaken _ _ _ => exact .inl (by simp [piece?, Contact.chunks])

theorem Path.pieces (path : Path b turns last) :
    ∃ more, pieces (turns.map (·.exchange)) =
      Contact.chunks (turns.flatMap (·.contacts)) ++ List.replicate more [] := by
  induction path with
  | nil => exact ⟨0, rfl⟩
  | @cons b next last turn rest step later ih =>
    obtain ⟨more, others⟩ := ih
    have made : Exchange.pieces ((turn :: rest).map (·.exchange)) =
        turn.exchange.piece?.toList ++ Exchange.pieces (rest.map (·.exchange)) := by
      cases piece : turn.exchange.piece? <;> simp [Exchange.pieces, piece]
    have brought : Contact.chunks ((turn :: rest).flatMap (·.contacts)) =
        Contact.chunks turn.contacts ++ Contact.chunks (rest.flatMap (·.contacts)) :=
      List.filterMap_append
    rw [made, brought, others]
    rcases step.piece with same | ⟨none, unasked, ended⟩
    · exact ⟨more, by rw [same, List.append_assoc]⟩
    · have silent : Contact.chunks (rest.flatMap (·.contacts)) = [] := by
        rw [Contact.chunks, List.filterMap_eq_nil_iff]
        intro contact asked
        obtain ⟨later_turn, present, inside⟩ := List.mem_flatMap.mp asked
        exact Contact.chunk?_of_told (later.of_ended ended later_turn present contact inside)
      refine ⟨more + 1, ?_⟩
      rw [none, unasked, silent]
      rfl

end Bridge

namespace Extractor

variable {x : Extractor}

-- What is dropped in front of a document in these chunks. A mark that is cut is none.
def mark (chunks : List Bytes) : Bytes :=
  if [0xEF, 0xBB, 0xBF] <+: chunks.headD [] then [0xEF, 0xBB, 0xBF] else []

theorem mark_append_document (chunks : List Bytes) :
    mark chunks ++ document chunks = chunks.flatten := by
  cases chunks with
  | nil => rfl
  | cons chunk rest =>
    show mark (chunk :: rest) ++ (withoutMark chunk ++ rest.flatten) = chunk ++ rest.flatten
    rw [← List.append_assoc]
    congr 1
    unfold mark withoutMark
    by_cases marked : [0xEF, 0xBB, 0xBF] <+: chunk
    · obtain ⟨content, rfl⟩ := marked
      simp
    · simp [marked]

theorem document_append_nothing (chunks : List Bytes) (more : Nat) :
    document (chunks ++ List.replicate more []) = document chunks := by
  cases chunks with
  | nil => cases more <;> simp [document, withoutMark, List.replicate_succ]
  | cons chunk rest => simp [document]

theorem pointsAt_of_whole {bytes : Bytes} {malformation : Malformation}
    (failed : (x.whole bytes).malformation = some malformation)
    (ofStack : malformation.flaw.isOfStack = true) :
    ∃ before source, before ++ source <+: bytes ∧
      malformation.PointsAt x.processing x.base before source := by
  have under : ((Reading.initial x.base).read x.processing ([] ++ [])).Under [] [] :=
    Reading.under_initial x.base
  exact Reading.pointsAt_of_read under (Reading.malformation_of_close failed ofStack) ofStack

theorem malformation_of_verdict {r : Reading} {position : Nat} {detail : Text}
    (malformed : verdict r = .error (.fault (.malformed position detail))) :
    ∃ malformation, r.malformation = some malformation ∧ malformation.position = position ∧
      malformation.flaw.message = detail := by
  unfold verdict at malformed
  split at malformed
  · next malformation failed =>
    cases malformed
    exact ⟨malformation, failed, rfl, rfl⟩
  · cases malformed

end Extractor

theorem of_reported_malformed {result : Except Halt Unit} {position : Nat} {detail : Text}
    (malformed : reported result = .error (.engine (.malformed position detail))) :
    result = .error (.fault (.malformed position detail)) := by
  match result with
  | .ok () => cases malformed
  | .error .interrupted => cases malformed
  | .error (.fault fault) =>
    cases malformed
    rfl

-- What a reported position means in an input that came in these chunks.
structure Positioned (processing : Processing) (base : Text) (chunks : List Bytes) (position : Nat)
    (message : Text) : Prop where
  bracket : chunks.flatten[(Extractor.mark chunks).length + position]? = some 0x3C
  tag : ∃ malformation : Malformation, malformation.position = position ∧
    malformation.flaw.message = message ∧ ∃ before source,
      Extractor.mark chunks ++ before ++ source <+: chunks.flatten ∧
        malformation.PointsAt processing base before source

namespace Extractor

variable {x : Extractor}

theorem positioned_of_whole {chunks : List Bytes} {malformation : Malformation}
    (failed : (x.whole (document chunks)).malformation = some malformation)
    (ofStack : malformation.flaw.isOfStack = true) :
    Positioned x.processing x.base chunks malformation.position malformation.flaw.message := by
  obtain ⟨before, source, inside, points⟩ := pointsAt_of_whole failed ofStack
  have within : mark chunks ++ before ++ source <+: chunks.flatten := by
    rw [← mark_append_document chunks, List.append_assoc]
    exact (List.prefix_append_right_inj (mark chunks)).mpr inside
  refine ⟨?_, malformation, rfl, rfl, before, source, within, points⟩
  obtain ⟨rest, bracket⟩ := List.head?_eq_some_iff.mp points.bracket
  obtain ⟨after, whole⟩ := within
  rw [← whole, bracket, points.position, ← List.length_append]
  simp

end Extractor

namespace Session

variable {κ : Type} [Consumer κ] {s : Session κ} {position : Nat}

theorem result_of_malformed {engine : Engine} {binding : Binding κ} (ready : s.Ready engine binding)
    {detail : Text} (malformed : s.run.outcome = .error (.engine (.malformed position detail))) :
    (engine.run (s.watched binding)).result = .error (.fault (.malformed position detail)) := by
  have final := (run_path ready).first_failure_final rfl (engine.run (s.watched binding)).result
  rw [← run_settled ready] at final
  cases found : s.turns.find? (·.exchange.isRefused) with
  | some turn =>
    obtain ⟨⟨failure, fails⟩, ended⟩ := final.failed turn found
    have failed := Except.error.inj (malformed.symm.trans (ended failure fails))
    cases fails with
    | consumer _ told =>
      rw [← failed] at told
      unfold Contact.failure? at told
      split at told <;> cases told
    | code _ _ => cases failed
  | none =>
    exact of_reported_malformed ((final.unfailed found).symm.trans malformed)

def chunks (s : Session κ) : List Bytes := Contact.chunks s.contacts

-- Whatever was done to the session before, and whatever its consumer supplies, in whatever chunks.
theorem run_positioned {base : Text} {settings : Settings} (opened : openWith base settings = .ok s)
    (acts : List (Act κ)) {flaw : Flaw} (ofStack : flaw.isOfStack = true)
    (malformed : (s.after acts).run.outcome =
      .error (.engine (.malformed position flaw.message))) :
    Positioned settings.processing base (s.after acts).chunks position flaw.message := by
  rcases run_cases (s.after acts) with ⟨engine, binding, ready, _, _⟩ | ⟨_, failure, unrun, run, _⟩
  · have result := result_of_malformed ready malformed
    obtain ⟨more, pieces⟩ := (run_path ready).pieces
    rw [turns_exchanges ready, run_calls ready] at pieces
    obtain rfl := engine_of_ready opened ready
    have fresh : (⟨base, settings.processing, settings.chunkCapacity, false⟩ : Extractor).consumed =
        false := rfl
    cases Extractor.unwinds_run fresh ((s.after acts).watched binding) with
    | refused _ _ _ _ left => cases left.symm.trans result
    | through _ _ ended =>
      obtain ⟨malformation, failed, rfl, same⟩ :=
        Extractor.malformation_of_verdict (ended.symm.trans result)
      rw [pieces, Extractor.document_append_nothing] at failed
      rw [← same]
      exact Extractor.positioned_of_whole failed (Flaw.isOfStack_of_message ofStack same)
  · rw [run] at malformed
    cases malformed
    cases unrun

-- `<ab></p>` after a byte order mark, which is counted only where it is cut in two.
def mismatch : List Bytes := [[0xEF, 0xBB, 0xBF] ++ Markup.ascii "<ab></p>"]

def mismatchFlaw : Flaw := .mismatched (Markup.ascii "ab") (Markup.ascii "p")

example : (marker.whole (Extractor.document
    [[0xEF, 0xBB], 0xBF :: Markup.ascii "<ab></p>"])).malformation = some ⟨7, mismatchFlaw⟩ := by
  decide +kernel

def mismatched : Session Playback :=
  (extracting "http://e/".toList {}).after [.bind { pieces := mismatch }]

theorem mismatched_run :
    openWith "http://e/".toList {} = .ok (extracting "http://e/".toList {} : Session Playback) ∧
      mismatched.run.outcome = .error (.engine (.malformed 4 mismatchFlaw.message)) ∧
      mismatched.chunks = mismatch := by
  have opened : openWith "http://e/".toList {} =
      .ok (extracting "http://e/".toList {} : Session Playback) :=
    openWith_eq_ok_iff.mpr ⟨by decide, rfl⟩
  have fitting : Fitting ({} : Settings).chunkCapacity mismatch := by
    unfold Fitting
    decide
  obtain ⟨contacts, outcome, _⟩ :=
    run_contacts_of_supplies opened rfl (playback_supplies _) fitting (playback_ready mismatch)
  have flawed : (marker.whole (Extractor.document mismatch)).malformation =
      some ⟨4, mismatchFlaw⟩ := by decide +kernel
  have verdict : Extractor.verdict (marker.whole (Extractor.document mismatch)) =
      .error (.fault (.malformed 4 mismatchFlaw.message)) := by
    rw [Extractor.verdict, flawed]
    rfl
  have brought : Contact.chunks (marker.contacts mismatch) = mismatch := by decide +kernel
  refine ⟨opened, outcome.trans (congrArg reported verdict), ?_⟩
  exact (congrArg Contact.chunks contacts).trans brought

theorem mismatched_positioned :
    openWith "http://e/".toList {} = .ok (extracting "http://e/".toList {} : Session Playback) ∧
      mismatchFlaw.isOfStack = true ∧
      mismatched.run.outcome = .error (.engine (.malformed 4 mismatchFlaw.message)) ∧
      Positioned {} "http://e/".toList mismatched.chunks 4 mismatchFlaw.message := by
  obtain ⟨opened, outcome, _⟩ := mismatched_run
  exact ⟨opened, rfl, outcome, run_positioned opened [.bind { pieces := mismatch }] rfl outcome⟩

-- The byte there is the `a` of the start tag. The `<` of the end tag comes three bytes later.
theorem mismatched_not_at_bracket :
    openWith "http://e/".toList {} = .ok (extracting "http://e/".toList {} : Session Playback) ∧
      mismatchFlaw.isOfStack = true ∧
      mismatched.run.outcome = .error (.engine (.malformed 4 mismatchFlaw.message)) ∧
      mismatched.chunks.flatten[4]? = some 0x61 ∧ mismatched.chunks.flatten[7]? = some 0x3C := by
  obtain ⟨opened, outcome, chunks⟩ := mismatched_run
  rw [chunks]
  exact ⟨opened, rfl, outcome, by decide, by decide⟩

end Session
end Rdfa
