import Rdfa.Proofs.Document.Chronicle
import Rdfa.Proofs.Document.Steps
import Rdfa.Proofs.Iri.Stable

-- The base in force, from the `base` elements read so far: each resolves its href against the base before.
namespace Rdfa.Document

variable {processing : Processing} {p next last : Processor}

def movedBy (name : Bytes) (attributes : Element.Attributes) : Option Text :=
  if Processor.isBaseName name then attributes.href else none

def moved? (item : Markup.Item) : Option Text :=
  match item.token with
  | .opening tag | .standalone tag =>
    tag.attributes.toOption.bind fun attributes => movedBy tag.name (.ofMarkup attributes)
  | .closing _ | .text _ | .cdata _ | .aside => none

theorem moved?_eq (item : Markup.Item) :
    moved? item = item.token.start?.bind fun tag =>
      tag.attributes.toOption.bind fun attributes => movedBy tag.name (.ofMarkup attributes) := by
  unfold moved?
  cases item.token <;> rfl

namespace Processor

theorem rebase_base (p : Processor) (name : Bytes) (attributes : Element.Attributes) :
    (p.rebase name attributes).base = Iri.resolveAlong p.base (movedBy name attributes).toList := by
  unfold rebase movedBy
  cases isBaseName name with
  | false => rfl
  | true => cases attributes.href <;> rfl

theorem entry_base (p : Processor) (name : Bytes) (attributes : Element.Attributes) :
    (p.entry name attributes).place.base = (p.rebase name attributes).base := by
  unfold entry place
  split <;> rfl

@[simp] theorem closeTop_base (p : Processor) : p.closeTop.1.base = p.base := by
  unfold closeTop
  split <;> rfl

theorem base_of_step {item : Markup.Item} {sent : List Emission}
    (step : p.step processing item = .ok (next, sent)) :
    next.base = Iri.resolveAlong p.base (moved? item).toList := by
  rw [moved?_eq]
  cases starts : item.token.start? with
  | some tag =>
    obtain ⟨attributes, read, entered⟩ := entered_of_start starts step
    rw [Option.bind_some, read]
    rcases entered with rfl | rfl
    · rw [enter_eq]
      exact p.rebase_base tag.name (.ofMarkup attributes)
    · rw [closeTop_base, enter_eq]
      exact p.rebase_base tag.name (.ofMarkup attributes)
  | none =>
    rcases reached_of_no_start starts step with rfl | rfl | ⟨text, rfl⟩
    · exact closeTop_base p
    · rfl
    · rfl

theorem base_of_reads {items : List Markup.Item} {sent : List Emission}
    (reads : p.Reads processing items last sent) :
    last.base = Iri.resolveAlong p.base (items.filterMap moved?) := by
  induction reads with
  | nil => rfl
  | @cons p next last item rest _ _ step later ih =>
    rw [ih, base_of_step step, List.filterMap_cons]
    cases moved? item <;> rfl

end Processor

namespace Reading

-- Flawed or not, what was read is a chain of steps of the processor.
theorem reads_take (processing : Processing) (r : Reading) (item : Markup.Item) :
    ∃ items sent, r.processor.Reads processing items (take processing r item).processor sent := by
  cases step : r.processor.step processing item with
  | error refusal =>
    rw [take_of_error step]
    exact ⟨[], [], .nil⟩
  | ok result =>
    simp only [take, step]
    exact ⟨[item], result.2, .single step⟩

theorem reads_readByte (processing : Processing) (r : Reading) (byte : UInt8) :
    ∃ items sent, r.processor.Reads processing items (r.readByte processing byte).processor sent := by
  unfold readByte
  split
  · exact ⟨[], [], .nil⟩
  · split
    · exact ⟨[], [], .nil⟩
    · exact ⟨[], [], .nil⟩
    · next lexer item _ => exact reads_take processing { r with lexer } item

theorem reads_read (processing : Processing) (r : Reading) (bytes : Bytes) :
    ∃ items sent, r.processor.Reads processing items (r.read processing bytes).processor sent := by
  induction bytes generalizing r with
  | nil => exact ⟨[], [], .nil⟩
  | cons byte rest ih =>
    obtain ⟨first, sent, early⟩ := reads_readByte processing r byte
    obtain ⟨second, more, late⟩ := ih (r.readByte processing byte)
    exact ⟨first ++ second, sent ++ more, early.append late⟩

end Reading

-- What is read off an absolute base stays put: every reference is made absolute, the base in force is so
-- at every byte of every document, and what was resolved resolves to itself.
structure Settles (base : Text) : Prop where
  absolute : ∀ reference, Iri.isAbsolute (Iri.resolve base reference) = true
  scheme : ∀ reference, (Iri.scheme? (Iri.resolve base reference)).map (·.1) =
    ((Iri.scheme? reference).map (·.1)).or ((Iri.scheme? base).map (·.1))
  chained : ∀ processing items p sent, (Processor.initial base).Reads processing items p sent →
    p.base = Iri.resolveAlong base (items.filterMap moved?) ∧ Iri.isAbsolute p.base = true
  documents : ∀ processing document,
    Iri.isAbsolute ((Reading.initial base).read processing document).processor.base = true
  again : Iri.Dotless (Iri.split base).path → ∀ other reference,
    Iri.resolve other (Iri.resolve base reference) = Iri.resolve base reference

theorem settles_of_isAbsolute {base : Text} (absolute : Iri.isAbsolute base = true) : Settles base := by
  have chained {processing : Processing} {items : List Markup.Item} {p : Processor} {sent : List Emission}
      (reads : (Processor.initial base).Reads processing items p sent) :
      p.base = Iri.resolveAlong base (items.filterMap moved?) ∧ Iri.isAbsolute p.base = true := by
    have moved : p.base = Iri.resolveAlong base (items.filterMap moved?) := Processor.base_of_reads reads
    exact ⟨moved, moved ▸ Iri.isAbsolute_resolveAlong absolute _⟩
  refine ⟨Iri.isAbsolute_resolve absolute, fun reference => ?_, fun _ _ _ _ => chained,
    fun processing document => ?_, fun dotless other reference => ?_⟩
  · have scheme := Iri.scheme_resolve absolute reference
    rwa [Iri.split_scheme, Iri.split_scheme, Iri.split_scheme] at scheme
  · obtain ⟨items, sent, reads⟩ := Reading.reads_read processing (.initial base) document
    exact (chained reads).2
  · exact Iri.resolve_of_settled (Iri.isAbsolute_resolve absolute reference)
      (Iri.dotless_resolve absolute dotless reference) other

theorem directory_settles :
    (Iri.isAbsolute "http://e/a/b".toList = true ∧ Iri.Dotless (Iri.split "http://e/a/b".toList).path) ∧
      Settles "http://e/a/b".toList ∧ ∀ other,
        Iri.resolve other (Iri.resolve "http://e/a/b".toList "../c?d#e".toList) =
          Iri.resolve "http://e/a/b".toList "../c?d#e".toList := by
  have absolute : Iri.isAbsolute "http://e/a/b".toList = true := by decide
  have dotless : Iri.Dotless (Iri.split "http://e/a/b".toList).path := by
    unfold Iri.Dotless
    decide +kernel
  exact ⟨⟨absolute, dotless⟩, settles_of_isAbsolute absolute, fun other =>
    (settles_of_isAbsolute absolute).again dotless other _⟩

end Rdfa.Document
