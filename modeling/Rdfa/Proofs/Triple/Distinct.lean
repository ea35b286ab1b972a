import Rdfa.Proofs.Triple.RoundTrip

-- A line says which triple it was written for. What that takes is asked of a triple's terms; the text of
-- a literal may be any.
namespace Rdfa

variable {first second triple : Triple}

-- Every term ends where it seems to. A statement with a label for its predicate is none of N-Triples, but
-- it is written all the same, and the lines of such statements differ too.
structure Triple.Legible (triple : Triple) : Prop where
  subject : NTriples.isNode triple.subject = true
  predicate : NTriples.isNode triple.predicate = true
  object : triple.kind ≠ .literal → NTriples.isNode triple.object = true
  datatype : ∀ datatype ∈ triple.datatype, datatype.all NTriples.isIriChar = true
  language : ∀ language ∈ triple.language, NTriples.isLanguage language = true

theorem Triple.clean_iff : triple.Clean ↔ triple.Legible ∧ isLabel triple.predicate = false := by
  constructor
  · intro clean
    refine ⟨⟨clean.subject, ?_, clean.object, clean.datatype, clean.language⟩, clean.predicate.1⟩
    simpa [NTriples.isNode, clean.predicate.1] using clean.predicate.2
  · rintro ⟨legible, iri⟩
    refine ⟨legible.subject, ⟨iri, ?_⟩, legible.object, legible.datatype, legible.language⟩
    simpa [NTriples.isNode, iri] using legible.predicate

theorem Triple.Shaped.say (shaped : triple.Shaped) (literal : triple.kind = .literal) (value : Text) :
    Triple.Shaped { triple with object := value } where
  resource kind := by simp [literal] at kind
  blankNode kind := by simp [literal] at kind
  bare other := absurd literal other
  one := shaped.one

theorem Triple.Legible.say (legible : triple.Legible) (literal : triple.kind = .literal) (value : Text) :
    Triple.Legible { triple with object := value } where
  subject := legible.subject
  predicate := legible.predicate
  object other := absurd literal other
  datatype := legible.datatype
  language := legible.language

namespace NTriples

theorem term_cancel {text other rest more : Text} (node : isNode text = true) (node' : isNode other = true)
    (same : term text ++ ' ' :: rest = term other ++ ' ' :: more) : text = other ∧ rest = more := by
  have read : node? (term text ++ ' ' :: rest) = some (text, ' ' :: rest) := node?_term_iff.mpr ⟨node, rfl⟩
  rw [same, node?_term_iff.mpr ⟨node', rfl⟩] at read
  simpa [eq_comm] using read

theorem object_read (shaped : triple.Shaped) (legible : triple.Legible) :
    object? triple.subject triple.predicate (object triple ++ [' ', '.']) = some (triple, [' ', '.']) :=
  object?_iff.mpr ⟨shaped, legible.object, legible.datatype, legible.language, rfl⟩

theorem line_inj (shaped : first.Shaped) (legible : first.Legible) (shaped' : second.Shaped)
    (legible' : second.Legible) (same : line first = line second) : first = second := by
  rw [line_eq, line_eq] at same
  obtain ⟨subject, same⟩ := term_cancel legible.subject legible'.subject same
  obtain ⟨predicate, same⟩ := term_cancel legible.predicate legible'.predicate same
  have read := object_read shaped legible
  rw [subject, predicate, same, object_read shaped' legible'] at read
  simpa [eq_comm] using read

theorem read?_line_legible : read? (line triple) = some triple ↔
    triple.Shaped ∧ triple.Legible ∧ isLabel triple.predicate = false :=
  read?_line_iff.trans (and_congr_right fun _ => Triple.clean_iff)

-- A line is read back as its triple exactly if the triple is one that the grammar has a line for, whatever
-- a literal of it says, and no two triples have one line.
theorem line_tells :
    (∀ triple : Triple, read? (line triple) = some triple ↔
      triple.Shaped ∧ triple.Legible ∧ isLabel triple.predicate = false) ∧
    (∀ triple : Triple, triple.Shaped → triple.Legible → isLabel triple.predicate = false →
      triple.kind = .literal → ∀ value,
        read? (line { triple with object := value }) = some { triple with object := value }) ∧
    (∀ first second : Triple, first.Shaped → first.Legible → second.Shaped → second.Legible →
      first ≠ second → line first ≠ line second) := by
  refine ⟨fun _ => read?_line_legible, ?_, ?_⟩
  · intro triple shaped legible iri literal value
    exact read?_line_legible.mpr ⟨shaped.say literal value, legible.say literal value, iri⟩
  · intro first second shaped legible shaped' legible' other same
    exact other (line_inj shaped legible shaped' legible' same)

-- A text that looks like what it is written as, with a character from beyond the first plane.
def spelled : Triple :=
  ⟨"http://e/s".toList, "http://e/p".toList, "\n\\u0041\\\" .\t𝄞".toList, .literal, none,
    some "en-GB".toList⟩

theorem spelled_shaped : spelled.Shaped := ⟨nofun, nofun, fun other => absurd rfl other, .inl rfl⟩

theorem spelled_legible : spelled.Legible :=
  ⟨by decide +kernel, by decide +kernel, fun other => absurd rfl other, nofun, by
    rintro _ ⟨⟩
    decide +kernel⟩

theorem spelled_tells :
    spelled.Shaped ∧ spelled.Legible ∧ isLabel spelled.predicate = false ∧ spelled.kind = .literal ∧
    read? (line spelled) = some spelled ∧
    read? (line { spelled with object := ['\n', '"'] }) = some { spelled with object := ['\n', '"'] } ∧
    line spelled ≠ line { spelled with object := ['\n', '"'] } := by
  obtain ⟨back, any, apart⟩ := line_tells
  have iri : isLabel spelled.predicate = false := by decide +kernel
  refine ⟨spelled_shaped, spelled_legible, iri, rfl, (back _).mpr ⟨spelled_shaped, spelled_legible, iri⟩,
    any _ spelled_shaped spelled_legible iri rfl _,
    apart _ _ spelled_shaped spelled_legible (spelled_shaped.say rfl _) (spelled_legible.say rfl _) ?_⟩
  decide +kernel

example : line { spelled with object := ['\n', '"', '\\'] } =
    "<http://e/s> <http://e/p> \"\\n\\\"\\\\\"@en-GB .".toList := by decide +kernel

end NTriples
end Rdfa
