import Rdfa.Proofs.Document.Base
import Rdfa.Proofs.Element.Resources
import Rdfa.Proofs.Extractor.Whole
import Rdfa.Proofs.Session.Run

-- What a document is called by the elements that speak of it: where nothing is named, and by an empty
-- `about`. The fragment of the text that set the base is kept in one of the two.
namespace Rdfa

namespace Document

open Element

-- The references by which the base is moved up to the content of a start tag behind these tokens.
def references (items : List Markup.Item) (name : Bytes) (attributes : Attributes) : List Text :=
  items.filterMap moved? ++ (movedBy name attributes).toList

namespace Processor

variable {processing : Processing} {p : Processor} {base : Text} {items : List Markup.Item}
  {sent : List Emission}

theorem entry_base_of_reads (reads : (Processor.initial base).Reads processing items p sent)
    (name : Bytes) (attributes : Attributes) :
    (p.entry name attributes).place.base = Iri.resolveAlong base (references items name attributes) := by
  have before : p.base = Iri.resolveAlong base (items.filterMap moved?) := base_of_reads reads
  rw [entry_base, rebase_base, before]
  exact List.foldl_append.symm

theorem entry_isRoot (outside : p.stack = []) (name : Bytes) (attributes : Attributes) :
    (p.entry name attributes).place.isRoot = true := by
  have stack : (p.rebase name attributes).stack = [] := (rebase_stack attributes).trans outside
  unfold entry place
  rw [stack]

end Processor
end Document

namespace Extractor

open Document Element

variable {x : Extractor} {base : Text} {settings : Settings}

theorem isAbsolute_of_opened (opened : ofBase base settings = .ok x) :
    x.base = base ∧ Iri.isAbsolute base = true := by
  unfold ofBase at opened
  cases sound : problem? base settings with
  | some problem => simp [sound] at opened
  | none =>
    rw [sound] at opened
    cases opened
    exact ⟨rfl, (problem?_eq_none_iff.mp sound).2.2.1⟩

-- An element outside all others that names nothing is about the base as it stands; an empty `about` is
-- about the base without its fragment, which is that of the text that set the base last.
theorem document_names_agree_iff (opened : ofBase base settings = .ok x) {items : List Markup.Item}
    {p : Processor} {sent : List Emission}
    (reads : (Processor.initial x.base).Reads x.processing items p sent) (outside : p.stack = [])
    {name : Bytes} {attributes : Attributes}
    (unnamed : (p.entry name attributes).finds attributes.about = false)
    (undirected : attributes.leadsAway = true ∨
      (p.entry name attributes).place.hasTarget attributes = false)
    {e : Entry} (here : e.place.base = (p.entry name attributes).place.base)
    (empty : e.attributes.about = some []) :
    (p.entry name attributes).subject x.processing =
        some (Iri.resolveAlong base (references items name attributes)) ∧
      e.subject x.processing =
        some (Text.cut '#' (Iri.resolveAlong base (references items name attributes))).1 ∧
      ((p.entry name attributes).subject x.processing = e.subject x.processing ↔
        '#' ∉ (references items name attributes).getLast?.getD base) := by
  obtain ⟨same, absolute⟩ := isAbsolute_of_opened opened
  rw [same] at reads
  have document := p.entry_base_of_reads reads name attributes
  have moved : Iri.isAbsolute (Iri.resolveAlong base (references items name attributes)) = true :=
    Iri.isAbsolute_resolveAlong absolute _
  have spoken : (p.entry name attributes).subject x.processing =
      some (Iri.resolveAlong base (references items name attributes)) := by
    rw [← document]
    exact Entry.subject_of_unnamed _ _ (p.entry_isRoot outside name attributes) unnamed undirected
  have called : e.subject x.processing =
      some (Text.cut '#' (Iri.resolveAlong base (references items name attributes))).1 := by
    refine e.subject_of_about _ ?_
    rw [empty, here, document, Scope.iri?_empty moved, Iri.resolve_nil]
  refine ⟨spoken, called, ?_⟩
  rw [spoken, called, ← Iri.hash_mem_resolveAlong_iff absolute, ← Text.cut_fst_eq_iff, Option.some.injEq]
  exact eq_comm

-- `<p property="dc:title" content="a"/><p about="" property="dc:title" content="a"/>`
example : (((⟨"http://e/#f".toList, {}, 4096, false⟩ : Extractor).whole (Markup.ascii
    ("<p property=\"dc:title\" content=\"a\"/>" ++
      "<p about=\"\" property=\"dc:title\" content=\"a\"/>"))).sent.reverse.map
        (·.triple.subject)) = ["http://e/#f".toList, "http://e/".toList] := by decide +kernel

def fragmented : Extractor := ⟨"http://e/#f".toList, {}, 4096, false⟩

def nameless : Attributes := ⟨[("property".toList, "dc:title".toList), ("content".toList, "a".toList)]⟩

def emptyNamed : Attributes := ⟨("about".toList, []) :: nameless.pairs⟩

def beginning : Processor := .initial fragmented.base

theorem fragmented_names :
    ofBase "http://e/#f".toList {} = .ok fragmented ∧
      (beginning.entry (Markup.ascii "p") nameless).subject fragmented.processing =
        some "http://e/#f".toList ∧
      (beginning.entry (Markup.ascii "p") emptyNamed).subject fragmented.processing =
        some (Text.cut '#' "http://e/#f".toList).1 ∧
      ((beginning.entry (Markup.ascii "p") nameless).subject fragmented.processing =
        (beginning.entry (Markup.ascii "p") emptyNamed).subject fragmented.processing ↔
          '#' ∉ "http://e/#f".toList) := by
  have opened : ofBase "http://e/#f".toList {} = .ok fragmented := rfl
  have unnamed : (beginning.entry (Markup.ascii "p") nameless).finds nameless.about = false := rfl
  exact ⟨opened, document_names_agree_iff opened .nil rfl unnamed (.inr (by decide +kernel)) rfl rfl⟩

theorem fragmented_two_names :
    ofBase "http://e/#f".toList {} = .ok fragmented ∧
      (beginning.entry (Markup.ascii "p") nameless).attributes.about = none ∧
      (beginning.entry (Markup.ascii "p") emptyNamed).attributes.about = some [] ∧
      (beginning.entry (Markup.ascii "p") nameless).subject fragmented.processing =
        some "http://e/#f".toList ∧
      (beginning.entry (Markup.ascii "p") emptyNamed).subject fragmented.processing =
        some "http://e/".toList := by
  refine ⟨rfl, ?_⟩
  decide +kernel

end Extractor
end Rdfa
