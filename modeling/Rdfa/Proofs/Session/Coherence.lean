import Rdfa.Proofs.Extractor.Blameless
import Rdfa.Proofs.Session.Delivery
import Rdfa.Proofs.Session.LifeCycle

-- What the extractor answers for in a session: it makes no statement that does not hold together, and
-- a run with it ends well, with a flaw of the document, or with a failure of the consumer.
namespace Rdfa

structure RawTriple.Coherent (raw : RawTriple) : Prop where
  known : raw.code ∈ [0, 1, 2, 3, 4]
  bare : raw.code ∈ [0, 1] → raw.datatype = none ∧ raw.language = none
  plain : raw.code = 2 → raw.datatype = none
  typed : raw.code ∈ [3, 4] → raw.datatype.isSome = true ∧ raw.language = none
  xml : raw.code = 3 ↔ raw.datatype = some Vocabulary.xmlLiteral

theorem Element.literal_coherent (subject predicate value : Text) (datatype language : Option Text) :
    (literal subject predicate value datatype language).Coherent := by
  cases datatype with
  | none => refine ⟨?_, ?_, ?_, ?_, ?_⟩ <;> simp [literal, Code.plainLiteral]
  | some datatype =>
    by_cases xml : datatype = Vocabulary.xmlLiteral
    · have code : (literal subject predicate value (some datatype) language).code = 3 := if_pos xml
      refine ⟨?_, ?_, ?_, ?_, ?_⟩ <;> rw [code]
      · decide
      · simp
      · simp
      · exact fun _ => ⟨rfl, rfl⟩
      · exact iff_of_true rfl (congrArg some xml)
    · have code : (literal subject predicate value (some datatype) language).code = 4 := if_neg xml
      refine ⟨?_, ?_, ?_, ?_, ?_⟩ <;> rw [code]
      · decide
      · simp
      · simp
      · exact fun _ => ⟨rfl, rfl⟩
      · exact iff_of_false (by decide) fun same => xml (Option.some.inj same)

theorem RawTriple.coherent_of_bare {raw : RawTriple} (code : raw.code = 0 ∨ raw.code = 1)
    (datatype : raw.datatype = none) (language : raw.language = none) : raw.Coherent := by
  refine ⟨?_, fun _ => ⟨datatype, language⟩, fun _ => datatype, ?_, ?_⟩ <;>
    rcases code with code | code <;> simp [code, datatype]

theorem Announceable.coherent {raw : RawTriple} (announceable : Announceable raw) : raw.Coherent := by
  cases announceable with
  | literal subject predicate value datatype language => exact Element.literal_coherent _ _ _ _ _
  | link subject predicate object => exact RawTriple.coherent_of_bare (.inr rfl) rfl rfl
  | prefixReport name iri => exact RawTriple.coherent_of_bare (.inl rfl) rfl rfl

theorem RawTriple.Coherent.code_le {raw : RawTriple} (coherent : raw.Coherent) :
    raw.code.toNat ≤ 4 := by
  have known := coherent.known
  simp only [List.mem_cons, List.not_mem_nil, or_false] at known
  rcases known with code | code | code | code | code <;> simp [code]

theorem Contact.code_of_failure? {contact : Contact} {failure : Failure}
    (failed : contact.failure? = some failure) : failure.code ∈ [2, 3] := by
  have code : failure.code = 2 ∨ failure.code = 3 := by
    unfold failure? at failed
    split at failed <;> cases failed
    · exact .inl rfl
    · exact .inr rfl
    · exact .inr rfl
  simpa using code

theorem Turn.Fails.code_of_coherent {turn : Turn} {failure : Failure} (fails : turn.Fails failure)
    (coherent : ∀ emission accepted, turn.exchange = .emitted emission accepted →
      emission.triple.Coherent) : failure.code ∈ [2, 3] := by
  cases fails with
  | consumer _ failed => exact Contact.code_of_failure? failed
  | code made unknown => exact absurd unknown (Nat.not_lt.mpr (coherent _ _ made).code_le)

theorem Blameless.code_of_accepted {result : Except Halt Unit} {calls : List Exchange}
    (blameless : Blameless result calls) (accepted : ∀ call ∈ calls, call.isRefused = false) :
    (reported result).code ∈ [0, 1] := by
  match result with
  | .ok () => decide
  | .error (.fault fault) =>
    obtain ⟨position, detail, rfl⟩ := blameless.malformed fault rfl
    exact List.mem_cons_of_mem 0 (List.mem_singleton_self 1)
  | .error .interrupted =>
    obtain ⟨call, present, refused⟩ := blameless.interrupted.mp rfl
    cases (accepted call present).symm.trans refused

theorem FirstFailureFinal.code_mem {turns : List Turn} {result : Except Halt Unit} {outcome : Outcome}
    (final : FirstFailureFinal turns result outcome)
    (blameless : Blameless result (turns.map (·.exchange)))
    (coherent : ∀ emission accepted, .emitted emission accepted ∈ turns.map (·.exchange) →
      emission.triple.Coherent) : outcome.code ∈ [0, 1, 2, 3] := by
  cases found : turns.find? (·.exchange.isRefused) with
  | none =>
    have accepted : ∀ call ∈ turns.map (·.exchange), call.isRefused = false := by
      simpa using found
    have code := blameless.code_of_accepted accepted
    rw [← final.unfailed found] at code
    exact List.mem_append_left [2, 3] code
  | some turn =>
    obtain ⟨⟨failure, fails⟩, outcome_eq⟩ := final.failed turn found
    have present := List.mem_of_find?_eq_some found
    have code := fails.code_of_coherent fun emission accepted made =>
      coherent emission accepted (made ▸ List.mem_map_of_mem present)
    rw [outcome_eq failure fails]
    exact List.mem_append_right [0, 1] code

namespace Session

variable {κ : Type} [Consumer κ] {s : Session κ} {base : Text} {settings : Settings}

theorem ready_of_idle (opened : openWith base settings = .ok s) {acts : List (Act κ)}
    (idle : (s.after acts).phase = .idle) {binding : Binding κ}
    (bound : (s.after acts).binding = some binding) :
    ∃ x : Extractor, x.consumed = false ∧ (s.after acts).Ready x.engine binding := by
  have loaded := (loaded_after (.bundled opened) acts).mpr idle
  obtain ⟨engine, present⟩ := Option.isSome_iff_exists.mp loaded
  have ready : (s.after acts).Ready engine binding := ⟨idle, present, bound⟩
  obtain rfl := engine_of_ready opened ready
  exact ⟨_, rfl, ready⟩

-- The first run of a session, whatever was done to it before and wherever its consumer fails.
theorem run_coherent (opened : openWith base settings = .ok s) (acts : List (Act κ))
    (idle : (s.after acts).phase = .idle) (bound : (s.after acts).binding.isSome = true) :
    (s.after acts).run.outcome.code ∈ [0, 1, 2, 3] ∧
      ∀ emission accepted, .emitted emission accepted ∈ (s.after acts).run.calls →
        emission.triple.Coherent := by
  obtain ⟨binding, present⟩ := Option.isSome_iff_exists.mp bound
  obtain ⟨x, fresh, ready⟩ := ready_of_idle opened idle present
  have blameless := x.run_blameless fresh ((s.after acts).watched binding)
  have coherent (emission : Emission) (accepted : Bool)
      (made : .emitted emission accepted ∈ (s.after acts).run.calls) : emission.triple.Coherent := by
    rw [run_calls ready] at made
    exact (x.run_announceable _ made).coherent
  rw [← run_calls ready, ← turns_exchanges ready] at blameless
  refine ⟨?_, coherent⟩
  rw [run_settled ready]
  refine ((run_path ready).first_failure_final rfl _).code_mem blameless ?_
  rwa [turns_exchanges ready]

-- Run too early, then bound twice; the consumer that stays refuses the second statement of a document
-- with a prefix, a plain literal, and a typed one that waits for an end tag.
def declined : Playback :=
  { pieces := ["<p prefix='v: u:v' property='v:t' content='c'>",
      "<b property='v:n' datatype='v:i'>7</b>"].map Markup.ascii
    failTriple := some 1 }

def contested : List (Act Playback) := [.run, .bind { pieces := [] }, .bind declined]

theorem contested_coherent :
    openWith "http://e/".toList {} = .ok (extracting "http://e/".toList {} : Session Playback) ∧
      ((extracting "http://e/".toList {}).after contested).phase = .idle ∧
      ((extracting "http://e/".toList {}).after contested).binding.isSome = true ∧
      ((extracting "http://e/".toList {}).after contested).run.outcome.code ∈ [0, 1, 2, 3] ∧
      ∀ emission accepted,
        .emitted emission accepted ∈ ((extracting "http://e/".toList {}).after contested).run.calls →
          emission.triple.Coherent := by
  have opened : openWith "http://e/".toList {} =
      .ok (extracting "http://e/".toList {} : Session Playback) :=
    openWith_eq_ok_iff.mpr ⟨by decide, rfl⟩
  exact ⟨opened, rfl, rfl, run_coherent opened contested rfl rfl⟩

end Session
end Rdfa
