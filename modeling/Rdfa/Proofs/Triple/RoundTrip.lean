import Rdfa.Proofs.Triple.Parts

-- Which statements survive being written and read: those whose IRIs, labels and languages are
-- grammatical. Of a literal's text nothing is asked, for the writer escapes it.
namespace Rdfa

def NTriples.isNode (text : Text) : Bool :=
  if isLabel text then isBlankNodeLabel text else text.all isIriChar

structure Triple.Shaped (triple : Triple) : Prop where
  resource : triple.kind = .resource → isLabel triple.object = false
  blankNode : triple.kind = .blankNode → isLabel triple.object = true
  bare : triple.kind ≠ .literal → triple.datatype = none ∧ triple.language = none
  one : triple.datatype = none ∨ triple.language = none

structure Triple.Clean (triple : Triple) : Prop where
  subject : NTriples.isNode triple.subject = true
  predicate : isLabel triple.predicate = false ∧ triple.predicate.all NTriples.isIriChar = true
  object : triple.kind ≠ .literal → NTriples.isNode triple.object = true
  datatype : ∀ datatype ∈ triple.datatype, datatype.all NTriples.isIriChar = true
  language : ∀ language ∈ triple.language, NTriples.isLanguage language = true

theorem Triple.shaped_iff_of_node {triple : Triple} (other : triple.kind ≠ .literal) :
    triple.Shaped ↔ triple.kind = (if isLabel triple.object then .blankNode else .resource) ∧
      triple.datatype = none ∧ triple.language = none := by
  constructor
  · intro shaped
    refine ⟨?_, shaped.bare other⟩
    cases kind : triple.kind with
    | literal => exact absurd kind other
    | resource => rw [shaped.resource kind]; rfl
    | blankNode => rw [shaped.blankNode kind]; rfl
  · rintro ⟨kind, bare⟩
    refine ⟨fun resource => ?_, fun blankNode => ?_, fun _ => bare, .inl bare.1⟩
    · rw [kind] at resource
      simpa using resource
    · rw [kind] at blankNode
      simpa using blankNode

namespace NTriples

variable {text rest more : Text}

theorem label_eq (label : isLabel text = true) : ∃ tail, text = '_' :: ':' :: tail := by
  obtain ⟨tail, whole⟩ := List.isPrefixOf_iff_prefix.mp label
  exact ⟨tail, whole.symm⟩

theorem skip_blank (text : Text) : skip (' ' :: text) = skip text := rfl

theorem skip_term (text rest : Text) : skip (term text ++ rest) = term text ++ rest := by
  unfold term
  split
  · next label =>
    obtain ⟨tail, rfl⟩ := label_eq label
    rfl
  · rfl

theorem enclosed_eq (text rest : Text) :
    ('<' :: text ++ ['>']) ++ rest = '<' :: (text ++ '>' :: rest) := by
  simp

theorem node?_term_iff :
    node? (term text ++ ' ' :: rest) = some (text, more) ↔ isNode text = true ∧ more = ' ' :: rest := by
  unfold term isNode
  split
  · next label =>
    have named : node? (text ++ ' ' :: rest) = label? (text ++ ' ' :: rest) := by
      obtain ⟨tail, rfl⟩ := label_eq label
      rfl
    rw [named]
    exact label?_iff (by simp; decide)
  · rw [enclosed_eq, List.all_eq_true]
    have named : node? ('<' :: (text ++ '>' :: ' ' :: rest)) = iri.read (text ++ '>' :: ' ' :: rest) :=
      Option.or_none
    rw [named]
    exact iri_read_iff

theorem iri?_term_iff :
    iri? (term text ++ ' ' :: rest) = some (text, more) ↔
      (isLabel text = false ∧ text.all isIriChar = true) ∧ more = ' ' :: rest := by
  unfold term
  split
  · next label =>
    obtain ⟨tail, rfl⟩ := label_eq label
    simp [iri?, label]
  · next iri =>
    rw [enclosed_eq, List.all_eq_true]
    simp only [iri?, iri_read_iff, Bool.eq_false_iff.mpr iri, true_and]

-- What is written after a literal is read back unless there is something to choose.
theorem annotated?_iff {datatype language : Option Text} {rest : Text} :
    annotated? ( annotation datatype language ++ [' ', '.']) = some ((datatype, language), rest) ↔
      (datatype = none ∨ language = none) ∧
        (∀ iri ∈ datatype, iri.all isIriChar = true) ∧ (∀ tag ∈ language, isLanguage tag = true) ∧
        rest = [' ', '.'] := by
  cases language with
  | some language =>
    have ends : ∀ c ∈ [' ', '.'].head?, isLanguageChar c = false := by simp; decide
    have read : annotated? ( annotation datatype (some language) ++ [' ', '.']) =
        (language? (language ++ [' ', '.'])).map fun r => ((none, some r.1), r.2) := rfl
    rw [read]
    cases datatype with
    | some datatype => simp
    | none => simpa using language?_iff ends
  | none =>
    cases datatype with
    | some datatype =>
      have read : annotated? ( annotation (some datatype) none ++ [' ', '.']) =
          (iri.read (datatype ++ '>' :: [' ', '.'])).map fun r => ((some r.1, none), r.2) := by
        simp [annotated?, annotation, iri?]
      rw [read]
      simpa using iri_read_iff
    | none =>
      have read : annotated? ( annotation none none ++ [' ', '.']) = some ((none, none), [' ', '.']) :=
        rfl
      rw [read]
      constructor
      · intro same
        cases same
        simp
      · rintro ⟨_, _, _, rfl⟩
        rfl

theorem object?_term (subject predicate text rest : Text) :
    object? subject predicate (term text ++ ' ' :: rest) =
      (node? (term text ++ ' ' :: rest)).map fun r =>
        (⟨subject, predicate, r.1, if isLabel text then .blankNode else .resource, none, none⟩,
          r.2) := by
  unfold term
  split
  · next label =>
    obtain ⟨tail, rfl⟩ := label_eq label
    rfl
  · rw [enclosed_eq]
    simp [object?, node?, iri?, label?]

theorem object?_node_iff {subject predicate value rest : Text} {kind : ObjectKind}
    {datatype language : Option Text} :
    object? subject predicate (term value ++ [' ', '.']) =
        some (⟨subject, predicate, value, kind, datatype, language⟩, rest) ↔
      (kind = if isLabel value then .blankNode else .resource) ∧ (datatype = none ∧ language = none) ∧
        isNode value = true ∧ rest = [' ', '.'] := by
  rw [object?_term, Option.map_eq_some_iff]
  constructor
  · rintro ⟨⟨found, more⟩, read, same⟩
    cases same
    exact ⟨rfl, ⟨rfl, rfl⟩, node?_term_iff.mp read⟩
  · rintro ⟨rfl, ⟨rfl, rfl⟩, clean⟩
    exact ⟨(value, rest), node?_term_iff.mpr clean, rfl⟩

theorem object?_literal_iff {subject predicate value rest : Text} {datatype language : Option Text} :
    object? subject predicate
        ('"' :: value.flatMap escaped ++ '"' :: annotation datatype language ++ [' ', '.']) =
        some (⟨subject, predicate, value, .literal, datatype, language⟩, rest) ↔
      (datatype = none ∨ language = none) ∧
        (∀ iri ∈ datatype, iri.all isIriChar = true) ∧ (∀ tag ∈ language, isLanguage tag = true) ∧
        rest = [' ', '.'] := by
  have read : object? subject predicate
      ('"' :: value.flatMap escaped ++ '"' :: annotation datatype language ++ [' ', '.']) =
      (annotated? ( annotation datatype language ++ [' ', '.'])).map fun r =>
        (⟨subject, predicate, value, .literal, r.1.1, r.1.2⟩, r.2) := by
    have written := string_read_escaped value ( annotation datatype language ++ [' ', '.'])
    simp only [List.cons_append, List.append_assoc, object?, written]
    rfl
  rw [read, Option.map_eq_some_iff, ← annotated?_iff]
  constructor
  · rintro ⟨⟨⟨_, _⟩, _⟩, found, same⟩
    cases same
    exact found
  · intro found
    exact ⟨_, found, rfl⟩

theorem object?_terms {subject predicate text rest : Text} {triple : Triple}
    (read : object? subject predicate text = some (triple, rest)) :
    triple.subject = subject ∧ triple.predicate = predicate := by
  unfold object? at read
  split at read
  · obtain ⟨_, _, read⟩ := Option.bind_eq_some_iff.mp read
    obtain ⟨_, _, same⟩ := Option.map_eq_some_iff.mp read
    cases same
    exact ⟨rfl, rfl⟩
  · obtain ⟨_, _, same⟩ := Option.map_eq_some_iff.mp read
    cases same
    exact ⟨rfl, rfl⟩
  · obtain ⟨_, _, same⟩ := Option.map_eq_some_iff.mp read
    cases same
    exact ⟨rfl, rfl⟩

theorem read?_eq_some_iff {text : Text} {triple : Triple} :
    read? text = some triple ↔ ∃ first second third, node? (skip text) = some (triple.subject, first) ∧
      iri? (skip first) = some (triple.predicate, second) ∧
      object? triple.subject triple.predicate (skip second) = some (triple, third) ∧
      isEnd (skip third) = true := by
  unfold read?
  constructor
  · intro read
    obtain ⟨⟨subject, first⟩, named, read⟩ := Option.bind_eq_some_iff.mp read
    obtain ⟨⟨predicate, second⟩, stated, read⟩ := Option.bind_eq_some_iff.mp read
    obtain ⟨⟨found, third⟩, given, ended⟩ := Option.bind_eq_some_iff.mp read
    dsimp only at stated given ended
    split at ended
    · next ends =>
      cases ended
      obtain ⟨rfl, rfl⟩ := object?_terms given
      exact ⟨first, second, third, named, stated, given, ends⟩
    · cases ended
  · rintro ⟨first, second, third, named, stated, given, ends⟩
    simp only [named, Option.bind_some, stated, given, ends, if_true]

theorem line_eq (triple : Triple) :
    line triple = term triple.subject ++ ' ' ::
      (term triple.predicate ++ ' ' :: (object triple ++ [' ', '.'])) := by
  simp [line]

theorem skip_object (triple : Triple) (rest : Text) :
    skip (object triple ++ rest) = object triple ++ rest := by
  unfold object
  cases triple.kind with
  | literal => rfl
  | resource | blankNode => exact skip_term _ _

theorem object?_iff {triple : Triple} {rest : Text} :
    object? triple.subject triple.predicate (object triple ++ [' ', '.']) = some (triple, rest) ↔
      triple.Shaped ∧ (triple.kind ≠ .literal → isNode triple.object = true) ∧
        (∀ iri ∈ triple.datatype, iri.all isIriChar = true) ∧
        (∀ tag ∈ triple.language, isLanguage tag = true) ∧ rest = [' ', '.'] := by
  by_cases other : triple.kind = .literal
  · obtain ⟨subject, predicate, value, kind, datatype, language⟩ := triple
    cases other
    refine object?_literal_iff.trans ?_
    constructor
    · rintro ⟨one, typed, spoken, rfl⟩
      have shaped : Triple.Shaped ⟨subject, predicate, value, .literal, datatype, language⟩ :=
        ⟨nofun, nofun, fun other => absurd rfl other, one⟩
      exact ⟨shaped, fun other => absurd rfl other, typed, spoken, rfl⟩
    · rintro ⟨shaped, _, typed, spoken, rfl⟩
      exact ⟨shaped.one, typed, spoken, rfl⟩
  · have written : object triple = term triple.object := by
      unfold object
      cases kind : triple.kind with
      | literal => exact absurd kind other
      | resource | blankNode => rfl
    rw [written, Triple.shaped_iff_of_node other]
    refine object?_node_iff.trans ?_
    constructor
    · rintro ⟨kind, bare, node, rfl⟩
      exact ⟨⟨kind, bare⟩, fun _ => node, by simp [bare.1], by simp [bare.2], rfl⟩
    · rintro ⟨⟨kind, bare⟩, node, _, _, rfl⟩
      exact ⟨kind, bare, node other, rfl⟩

-- A written triple is read back as it was exactly if its terms are such as the grammar allows.
theorem read?_line_iff {triple : Triple} :
    read? (line triple) = some triple ↔ triple.Shaped ∧ triple.Clean := by
  rw [read?_eq_some_iff, line_eq, skip_term]
  constructor
  · rintro ⟨first, second, third, named, stated, given, _⟩
    obtain ⟨subject, rfl⟩ := node?_term_iff.mp named
    rw [skip_blank, skip_term] at stated
    obtain ⟨predicate, rfl⟩ := iri?_term_iff.mp stated
    rw [skip_blank, skip_object] at given
    obtain ⟨shaped, object, datatype, language, _⟩ := object?_iff.mp given
    exact ⟨shaped, subject, predicate, object, datatype, language⟩
  · rintro ⟨shaped, clean⟩
    refine ⟨_, ' ' :: (object triple ++ [' ', '.']), [' ', '.'],
      node?_term_iff.mpr ⟨clean.subject, rfl⟩, ?_, ?_, by decide⟩
    · rw [skip_blank, skip_term]
      exact iri?_term_iff.mpr ⟨clean.predicate, rfl⟩
    · rw [skip_blank, skip_object]
      exact object?_iff.mpr ⟨shaped, clean.object, clean.datatype, clean.language, rfl⟩

end NTriples
end Rdfa
