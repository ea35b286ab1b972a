import Rdfa.Proofs.Session.Delivery
import Rdfa.Triple.NTriples

-- The optional fields of what a consumer receives. They belong to literals and exclude each other, but
-- for one case: an XML literal takes its datatype from its code, and the language is dropped only for a
-- datatype that was announced.
namespace Rdfa

theorem NTriples.datatype_suffix_line {triple : Triple} {datatype : Text}
    (literal : triple.kind = .literal) (typed : triple.datatype = some datatype)
    (untagged : triple.language = none) :
    ['^', '^', '<'] ++ datatype ++ ['>', ' ', '.'] <:+ line triple := by
  refine ⟨term triple.subject ++ ' ' :: term triple.predicate ++
    ' ' :: '"' :: triple.object.flatMap escaped ++ ['"'], ?_⟩
  simp [line, object, annotation, literal, typed, untagged]

-- An XML literal that came with a language and without a datatype.
def RawTriple.IsTaggedXml (raw : RawTriple) : Prop :=
  raw.code = Code.xmlLiteral ∧ raw.datatype = none ∧ raw.language ≠ none

structure OptionalFields (raw : RawTriple) (triple : Triple) : Prop where
  ofLiteral : triple.datatype ≠ none ∨ triple.language ≠ none → triple.kind = .literal
  both : triple.datatype ≠ none ∧ triple.language ≠ none ↔ raw.IsTaggedXml
  xmlDatatype : raw.code = Code.xmlLiteral → triple.datatype = some Vocabulary.xmlLiteral
  xmlLanguage : raw.code = Code.xmlLiteral → ¬ raw.IsTaggedXml → triple.language = none
  rendered : ∀ datatype, triple.datatype = some datatype → ¬ raw.IsTaggedXml →
    ['^', '^', '<'] ++ datatype ++ ['>', ' ', '.'] <:+ NTriples.line triple

namespace RawTriple

theorem asTriple_ofLiteral (raw : RawTriple) (kind : ObjectKind) :
    (raw.asTriple kind).datatype ≠ none ∨ (raw.asTriple kind).language ≠ none →
      (raw.asTriple kind).kind = .literal := by
  cases kind <;> simp [asTriple]

theorem asTriple_exclusive (raw : RawTriple) (kind : ObjectKind) :
    ¬ ((raw.asTriple kind).datatype ≠ none ∧ (raw.asTriple kind).language ≠ none) := by
  rintro ⟨typed, tagged⟩
  cases kind with
  | resource => exact typed rfl
  | blankNode => exact typed rfl
  | literal =>
    have plain : raw.datatype ≠ none := typed
    simp [asTriple, plain] at tagged

theorem xmlLiteral_language (raw : RawTriple) :
    (raw.asTriple .literal).language ≠ none ↔ raw.datatype = none ∧ raw.language ≠ none := by
  by_cases typed : raw.datatype = none <;> simp [asTriple, typed]

end RawTriple

theorem OptionalFields.of_both {raw : RawTriple} {triple : Triple}
    (ofLiteral : triple.datatype ≠ none ∨ triple.language ≠ none → triple.kind = .literal)
    (both : triple.datatype ≠ none ∧ triple.language ≠ none ↔ raw.IsTaggedXml)
    (xmlDatatype : raw.code = Code.xmlLiteral → triple.datatype = some Vocabulary.xmlLiteral) :
    OptionalFields raw triple := by
  have untagged (typed : triple.datatype ≠ none) (exclusive : ¬ raw.IsTaggedXml) :
      triple.language = none :=
    Decidable.byContradiction fun tagged => exclusive (both.mp ⟨typed, tagged⟩)
  refine ⟨ofLiteral, both, xmlDatatype, fun code exclusive => ?_, fun datatype given exclusive => ?_⟩
  · exact untagged (by simp [xmlDatatype code]) exclusive
  · have typed : triple.datatype ≠ none := by simp [given]
    exact NTriples.datatype_suffix_line (ofLiteral (.inl typed)) given (untagged typed exclusive)

theorem optionalFields_of_delivery {raw : RawTriple} {triple : Triple}
    (meant : raw.delivery? = some (.triple triple)) : OptionalFields raw triple := by
  -- Whatever keeps the fields as they were announced keeps them apart.
  have kept {kind : ObjectKind} (other : raw.code ≠ Code.xmlLiteral)
      (same : Delivery.triple triple = .triple (raw.asTriple kind)) : OptionalFields raw triple := by
    cases same
    refine .of_both (raw.asTriple_ofLiteral kind) ?_ fun code => absurd code other
    exact iff_of_false (raw.asTriple_exclusive kind) fun tagged => other tagged.1
  rcases RawTriple.delivery?_cases meant with ⟨_, none⟩ | ⟨code, same⟩ | ⟨code, same⟩ | ⟨code, same⟩
  · cases none
  · exact kept (by rw [code]; decide) same
  · refine kept ?_ same
    rcases code with code | code <;> rw [code] <;> decide
  · cases same
    have xml : raw.code = Code.xmlLiteral := code
    refine .of_both (fun _ => rfl) ?_ fun _ => rfl
    simp [RawTriple.IsTaggedXml, xml, ← raw.xmlLiteral_language]

namespace Session

variable {κ : Type} [Consumer κ] {s : Session κ} {engine : Engine} {binding : Binding κ}

-- Every triple a consumer receives is one that the engine announced, and its optional fields are in
-- order unless it is the one kind of literal that keeps a language beside its datatype.
theorem run_optionalFields (ready : s.Ready engine binding) {graph : Graph} {triple : Triple}
    {answer : Except Text Unit} (heard : .received graph triple answer ∈ s.contacts) :
    ∃ emission accepted, .emitted emission accepted ∈ s.run.calls ∧ emission.graph = graph ∧
      emission.triple.delivery? = some (.triple triple) ∧ OptionalFields emission.triple triple := by
  obtain ⟨emission, accepted, made, tagged, meant⟩ := received_announced ready heard
  exact ⟨emission, accepted, made, tagged, meant, optionalFields_of_delivery meant⟩

def spoken (code : UInt8) (datatype : Option Text) : Emission :=
  ⟨.default, ⟨"http://e/s".toList, "http://e/p".toList, "x".toList, code, datatype,
    some "en".toList⟩⟩

def speaking : Script :=
  ⟨[.emit (spoken Code.typedLiteral (some "u:t".toList)), .emit (spoken Code.xmlLiteral none)],
    false⟩

def hearing : Binding Playback := ⟨0, { pieces := [] }⟩

def spokenTo : Session Playback :=
  { base := "http://e/".toList, settings := {}, engine := some speaking.engine,
    binding := some hearing, bound := 1, released := [], phase := .idle, ledger := {}, stats := {} }

def typedHeard : Triple :=
  ⟨"http://e/s".toList, "http://e/p".toList, "x".toList, .literal, some "u:t".toList, none⟩

def xmlHeard : Triple :=
  ⟨"http://e/s".toList, "http://e/p".toList, "x".toList, .literal, some Vocabulary.xmlLiteral,
    some "en".toList⟩

theorem spokenTo_contacts :
    spokenTo.contacts =
      [.received .default typedHeard (.ok ()), .received .default xmlHeard (.ok ())] := by
  have ready : spokenTo.Ready speaking.engine hearing := ⟨rfl, rfl, rfl⟩
  rw [run_contacts ready, Engine.run, Engine.runFrom_of_stop rfl]
  rfl

theorem spokenTo_optionalFields :
    spokenTo.Ready speaking.engine hearing ∧
      .received .default typedHeard (.ok ()) ∈ spokenTo.contacts ∧
      ∃ emission accepted, .emitted emission accepted ∈ spokenTo.run.calls ∧
        emission.graph = .default ∧ emission.triple.delivery? = some (.triple typedHeard) ∧
        OptionalFields emission.triple typedHeard := by
  have ready : spokenTo.Ready speaking.engine hearing := ⟨rfl, rfl, rfl⟩
  have heard : .received .default typedHeard (.ok ()) ∈ spokenTo.contacts := by
    rw [spokenTo_contacts]
    exact List.mem_cons_self
  exact ⟨ready, heard, run_optionalFields ready heard⟩

theorem xmlHeard_datatype_and_language :
    .received .default xmlHeard (.ok ()) ∈ spokenTo.contacts ∧ xmlHeard.datatype ≠ none ∧
      xmlHeard.language ≠ none ∧
      NTriples.line xmlHeard = "<http://e/s> <http://e/p> \"x\"@en .".toList := by
  refine ⟨?_, by decide, by decide, by decide⟩
  rw [spokenTo_contacts]
  exact List.mem_cons_of_mem _ List.mem_cons_self

end Session
end Rdfa
