import Rdfa.Consumer.Playback
import Rdfa.Engine.Script
import Rdfa.Proofs.Session.Run

-- The first failure of a run is final: the consumer hears nothing more, the engine is refused whatever
-- it asks for, and nothing that happens later changes what the run comes to.
namespace Rdfa

theorem RawTriple.delivery?_eq_none_iff {raw : RawTriple} :
    raw.delivery? = none ↔ 4 < raw.code.toNat := by
  have codes (n : UInt8) : raw.code = n ↔ raw.code.toNat = n.toNat := UInt8.toNat_inj.symm
  unfold delivery?
  simp only [codes, Code.namespaceIri, Code.iri, Code.plainLiteral, Code.xmlLiteral,
    Code.typedLiteral]
  repeat' split
  all_goals simp_all
  all_goals omega

def Contact.failure? : Contact → Option Failure
  | .produced _ (.error cause) => some (.inputProduction cause)
  | .received _ _ (.error cause) | .declared _ _ (.error cause) => some (.tripleDelivery cause)
  | .produced _ (.ok _) | .received _ _ (.ok _) | .declared _ _ (.ok _) => none

@[simp] theorem Contact.failure?_offered_ok (graph : Graph) (delivery : Delivery) :
    (offered graph delivery (.ok ())).failure? = none := by
  cases delivery <;> rfl

@[simp] theorem Contact.failure?_offered_error (graph : Graph) (delivery : Delivery) (cause : Text) :
    (offered graph delivery (.error cause)).failure? = some (.tripleDelivery cause) := by
  cases delivery <;> rfl

-- What goes wrong in a turn, told from the consumer's answers and from the engine's statement alone.
inductive Turn.Fails (turn : Turn) : Failure → Prop where
  | consumer {contact : Contact} {failure : Failure} (asked : contact ∈ turn.contacts)
      (failed : contact.failure? = some failure) : Fails turn failure
  | code {emission : Emission} {accepted : Bool} (made : turn.exchange = .emitted emission accepted)
      (unknown : 4 < emission.triple.code.toNat) :
      Fails turn (.engine (.internal ("unknown object type code ".toList ++
        Text.decimal emission.triple.code.toNat)))

theorem Turn.Fails.of_fill {size : Nat} {answer : Option Filled} {contacts : List Contact}
    {failure : Failure} (fails : Fails ⟨.filled size answer, contacts⟩ failure) :
    ∃ contact ∈ contacts, contact.failure? = some failure := by
  cases fails with
  | consumer asked failed => exact ⟨_, asked, failed⟩
  | code made _ => cases made

theorem Turn.Fails.of_meant {emission : Emission} {accepted : Bool} {delivery : Delivery}
    {contacts : List Contact} {failure : Failure}
    (meant : emission.triple.delivery? = some delivery)
    (fails : Fails ⟨.emitted emission accepted, contacts⟩ failure) :
    ∃ contact ∈ contacts, contact.failure? = some failure := by
  cases fails with
  | consumer asked failed => exact ⟨_, asked, failed⟩
  | code made unknown =>
    cases made
    rw [RawTriple.delivery?_eq_none_iff.mpr unknown] at meant
    cases meant

namespace Bridge

variable {κ : Type} [Consumer κ] {b next last : Bridge (Logged κ)} {turn : Turn}
  {turns : List Turn} {failure : Failure}

theorem Step.of_failed (step : Step b turn next) (failed : b.failure = some failure) :
    turn.exchange.isRefused = true ∧ turn.contacts = [] ∧ next.failure = some failure := by
  cases step with
  | fillRefused _ => exact ⟨rfl, rfl, failed⟩
  | emissionRefused _ => exact ⟨rfl, rfl, failed⟩
  | fillEnded running _ => cases running.symm.trans failed
  | fillEmpty running _ _ => cases running.symm.trans failed
  | inputFailed running _ _ _ => cases running.symm.trans failed
  | inputRead running _ _ _ => cases running.symm.trans failed
  | codeUnknown running _ => cases running.symm.trans failed
  | deliveryRefused running _ _ => cases running.symm.trans failed
  | deliveryTaken running _ _ => cases running.symm.trans failed

theorem Step.of_refused (step : Step b turn next) (running : b.failure = none)
    (refused : turn.exchange.isRefused = true) :
    ∃ failure, next.failure = some failure ∧ turn.Fails failure := by
  cases step with
  | fillRefused failed => cases running.symm.trans failed
  | emissionRefused failed => cases running.symm.trans failed
  | fillEnded _ _ => cases refused
  | fillEmpty _ _ _ => cases refused
  | inputRead _ _ _ _ => cases refused
  | deliveryTaken _ _ _ => cases refused
  | inputFailed _ _ _ _ => exact ⟨_, rfl, .consumer (List.mem_singleton_self _) rfl⟩
  | codeUnknown _ unknown =>
    exact ⟨_, rfl, .code rfl (RawTriple.delivery?_eq_none_iff.mp unknown)⟩
  | deliveryRefused _ _ _ =>
    exact ⟨_, rfl, .consumer (List.mem_singleton_self _) (Contact.failure?_offered_error _ _ _)⟩

theorem Step.of_fails (step : Step b turn next) (fails : turn.Fails failure) :
    turn.exchange.isRefused = true ∧ (b.failure = none → next.failure = some failure) := by
  cases step with
  | fillRefused failed =>
    obtain ⟨contact, asked, _⟩ := fails.of_fill
    cases asked
  | fillEnded _ _ =>
    obtain ⟨contact, asked, _⟩ := fails.of_fill
    cases asked
  | fillEmpty _ _ _ =>
    obtain ⟨contact, asked, _⟩ := fails.of_fill
    cases asked
  | inputRead _ _ _ _ =>
    obtain ⟨contact, asked, failed⟩ := fails.of_fill
    cases List.mem_singleton.mp asked
    cases failed
  | inputFailed _ _ _ _ =>
    obtain ⟨contact, asked, failed⟩ := fails.of_fill
    cases List.mem_singleton.mp asked
    exact ⟨rfl, fun _ => failed⟩
  | emissionRefused failed =>
    refine ⟨rfl, fun running => ?_⟩
    cases running.symm.trans failed
  | codeUnknown _ _ =>
    refine ⟨rfl, fun _ => ?_⟩
    cases fails with
    | consumer asked _ => cases asked
    | code made _ =>
      cases made
      rfl
  | deliveryRefused _ meant _ =>
    obtain ⟨contact, asked, failed⟩ := fails.of_meant meant
    cases List.mem_singleton.mp asked
    rw [Contact.failure?_offered_error] at failed
    exact ⟨rfl, fun _ => failed⟩
  | deliveryTaken _ meant _ =>
    obtain ⟨contact, asked, failed⟩ := fails.of_meant meant
    cases List.mem_singleton.mp asked
    rw [Contact.failure?_offered_ok] at failed
    cases failed

theorem Step.of_accepted (step : Step b turn next) (accepted : turn.exchange.isRefused = false) :
    b.failure = none ∧ next.failure = none := by
  cases step with
  | fillRefused _ => cases accepted
  | inputFailed _ _ _ _ => cases accepted
  | emissionRefused _ => cases accepted
  | codeUnknown _ _ => cases accepted
  | deliveryRefused _ _ _ => cases accepted
  | fillEnded running _ => exact ⟨running, running⟩
  | fillEmpty running _ _ => exact ⟨running, running⟩
  | inputRead running _ _ _ => exact ⟨running, running⟩
  | deliveryTaken running _ _ => exact ⟨running, running⟩

theorem Step.ended_of_isEnd (step : Step b turn next) (told : turn.exchange.isEnd = true) :
    next.ended = true := by
  cases step with
  | fillRefused _ => cases told
  | inputFailed _ _ _ _ => cases told
  | emissionRefused _ => cases told
  | codeUnknown _ _ => cases told
  | deliveryRefused _ _ _ => cases told
  | deliveryTaken _ _ _ => cases told
  | fillEnded _ ended => exact ended
  | fillEmpty _ _ _ => rfl
  | inputRead _ _ _ _ =>
    have nothing := List.length_eq_zero_iff.mp (of_decide_eq_true told)
    exact List.isEmpty_iff.mpr nothing

theorem Step.of_ended (step : Step b turn next) (ended : b.ended = true) :
    next.ended = true ∧ ∀ contact ∈ turn.contacts, contact.isProduction = false := by
  cases step with
  | fillEmpty _ more _ => cases more.symm.trans ended
  | inputFailed _ more _ _ => cases more.symm.trans ended
  | inputRead _ more _ _ => cases more.symm.trans ended
  | fillRefused _ => exact ⟨ended, by simp⟩
  | fillEnded _ _ => exact ⟨ended, by simp⟩
  | emissionRefused _ => exact ⟨ended, by simp⟩
  | codeUnknown _ _ => exact ⟨ended, by simp⟩
  | deliveryRefused _ _ _ => exact ⟨ended, by simp⟩
  | deliveryTaken _ _ _ => exact ⟨ended, by simp⟩

theorem Path.of_failed (path : Path b turns last) (failed : b.failure = some failure) :
    (∀ turn ∈ turns, turn.exchange.isRefused = true ∧ turn.contacts = []) ∧
      last.failure = some failure := by
  induction path with
  | nil => exact ⟨by simp, failed⟩
  | cons step later ih =>
    obtain ⟨refused, quiet, kept⟩ := step.of_failed failed
    obtain ⟨rest, final⟩ := ih kept
    exact ⟨List.forall_mem_cons.mpr ⟨⟨refused, quiet⟩, rest⟩, final⟩

theorem Path.of_ended (path : Path b turns last) (ended : b.ended = true) :
    ∀ turn ∈ turns, ∀ contact ∈ turn.contacts, contact.isProduction = false := by
  induction path with
  | nil => simp
  | cons step later ih =>
    obtain ⟨kept, quiet⟩ := step.of_ended ended
    exact List.forall_mem_cons.mpr ⟨quiet, ih kept⟩

theorem Path.of_accepted (path : Path b turns last) (running : b.failure = none)
    (accepted : ∀ turn ∈ turns, turn.exchange.isRefused = false) : last.failure = none := by
  induction path with
  | nil => exact running
  | cons step later ih =>
    obtain ⟨first, rest⟩ := List.forall_mem_cons.mp accepted
    exact ih (step.of_accepted first).2 rest

end Bridge

-- What a run comes to when the consumer did not fail: whatever the engine says, and an interruption
-- that nobody raised is the engine's own fault.
def reported : Except Halt Unit → Outcome
  | .ok () => .ok ()
  | .error (.fault fault) => .error (.engine fault)
  | .error .interrupted => .error (.engine (.internal
      "engine reported an interruption the bridge never raised".toList))

-- The first failure is final in these turns of a run, which came to `outcome` after the engine ended
-- with `result`.
structure FirstFailureFinal (turns : List Turn) (result : Except Halt Unit) (outcome : Outcome) :
    Prop where
  noticed : ∀ turn ∈ turns, ∀ failure, turn.Fails failure → turn.exchange.isRefused = true
  silent : ∀ before turn after, turns = before ++ turn :: after →
    turn.exchange.isRefused = true →
      ∀ later ∈ after, later.exchange.isRefused = true ∧ later.contacts = []
  unread : ∀ before turn after, turns = before ++ turn :: after → turn.exchange.isEnd = true →
    ∀ later ∈ after, ∀ contact ∈ later.contacts, contact.isProduction = false
  failed : ∀ turn, turns.find? (·.exchange.isRefused) = some turn →
    (∃ failure, turn.Fails failure) ∧ ∀ failure, turn.Fails failure → outcome = .error failure
  unfailed : turns.find? (·.exchange.isRefused) = none → outcome = reported result

theorem Bridge.Path.first_failure_final {κ : Type} [Consumer κ] {b last : Bridge (Logged κ)}
    {turns : List Turn} (path : Path b turns last) (running : b.failure = none)
    (result : Except Halt Unit) : FirstFailureFinal turns result (last.settle result) := by
  refine ⟨?_, ?_, ?_, ?_, ?_⟩
  · intro turn present failure fails
    obtain ⟨before, after, rfl⟩ := List.append_of_mem present
    obtain ⟨middle, next, _, step, _⟩ := path.split
    exact (step.of_fails fails).1
  · intro before turn after cut refused
    subst cut
    obtain ⟨middle, next, _, step, later⟩ := path.split
    cases started : middle.failure with
    | some failure => exact (later.of_failed (step.of_failed started).2.2).1
    | none =>
      obtain ⟨failure, kept, _⟩ := step.of_refused started refused
      exact (later.of_failed kept).1
  · intro before turn after cut told
    subst cut
    obtain ⟨middle, next, _, step, later⟩ := path.split
    exact later.of_ended (step.ended_of_isEnd told)
  · intro turn found
    obtain ⟨refused, before, after, rfl, accepted⟩ := List.find?_eq_some_iff_append.mp found
    obtain ⟨middle, next, earlier, step, later⟩ := path.split
    have started : middle.failure = none := earlier.of_accepted running (by simpa using accepted)
    obtain ⟨failure, kept, fails⟩ := step.of_refused started refused
    refine ⟨⟨failure, fails⟩, fun other also => ?_⟩
    have final := (later.of_failed ((step.of_fails also).2 started)).2
    simp [settle, final]
  · intro accepted
    have final := path.of_accepted running (by simpa using accepted)
    cases result with
    | ok done => simp [settle, final, reported]
    | error halt => cases halt <;> simp [settle, final, reported, baselessInterruption]

namespace Session

-- The turns below are the whole run: the engine's calls are those of the run, and what the consumer
-- was asked in them is all that it was asked.
theorem run_first_failure_final {κ : Type} [Consumer κ] {s : Session κ} {engine : Engine}
    {binding : Binding κ} (ready : s.Ready engine binding) :
    s.turns.map (·.exchange) = s.run.calls ∧
      s.contacts = (engine.run (s.watched binding)).host.consumer.log ∧
      FirstFailureFinal s.turns (engine.run (s.entry binding)).result s.run.outcome := by
  refine ⟨turns_exchanges ready, run_contacts ready, ?_⟩
  rw [run_outcome ready]
  exact (run_path ready).first_failure_final rfl _

-- A consumer that refuses the first statement, and an engine that goes on all the same: it asks for
-- bytes, states the same once more, and ends as if nothing had been.
def statement : Emission :=
  ⟨.default, ⟨"http://e/s".toList, "http://e/p".toList, "o".toList, Code.plainLiteral, none, none⟩⟩

def unheeding : Script := ⟨[.emit statement, .fill 8, .emit statement], true⟩

def refusing : Binding Playback := ⟨0, { pieces := [[0x61]], failTriple := some 0 }⟩

def unheeded : Session Playback :=
  { base := "http://e/".toList, settings := {}, engine := some unheeding.engine,
    binding := some refusing, bound := 1, released := [], phase := .idle, ledger := {}, stats := {} }

theorem unheeded_first_failure_final :
    unheeded.Ready unheeding.engine refusing ∧
      unheeded.turns.map (·.exchange) = unheeded.run.calls ∧
      unheeded.contacts = (unheeding.engine.run (unheeded.watched refusing)).host.consumer.log ∧
      FirstFailureFinal unheeded.turns (unheeding.engine.run (unheeded.entry refusing)).result
        unheeded.run.outcome := by
  have ready : unheeded.Ready unheeding.engine refusing := ⟨rfl, rfl, rfl⟩
  exact ⟨ready, run_first_failure_final ready⟩

example : unheeded.run.outcome = .error (.tripleDelivery "delivery 0 refused".toList) := by cbv

end Session
end Rdfa
