import Rdfa.Proofs.Document.Base
import Rdfa.Proofs.Element.Resources
import Rdfa.Proofs.Iri.Twice

-- What a `base` element makes of its own href: the base is moved by it before it is read, and it is then
-- resolved against that base.
namespace Rdfa.Document

open Element

variable {p : Processor} {name : Bytes} {attributes : Attributes} {href : Text}

theorem Processor.enter_base (processing : Processing) (p : Processor) (name : Bytes)
    (attributes : Attributes) :
    (p.enter processing name attributes).1.base = (p.entry name attributes).place.base := by
  rw [enter_eq, entry_base]

theorem Processor.base_of_moves (named : isBaseName name = true) (given : attributes.href = some href) :
    (p.entry name attributes).place.base = Iri.resolve p.base href := by
  simp only [entry_base, rebase_base, movedBy, named, given, if_true]
  rfl

-- The base that is installed, what the element contributes, and when the two are one: when the reference
-- names the same a second time.
structure Installs (processing : Processing) (p : Processor) (name : Bytes) (attributes : Attributes)
    (href : Text) : Prop where
  installed : (p.enter processing name attributes).1.base = Iri.resolve p.base href
  contributed : (p.entry name attributes).Contributes processing
    (Iri.resolve (Iri.resolve p.base href) href)
  agree : Iri.resolve (Iri.resolve p.base href) href = Iri.resolve p.base href ↔
    (Iri.split href).scheme.isSome = true ∨ (Iri.split href).authority.isSome = true ∨
      (Iri.target (Iri.split (Iri.resolve p.base href)) (Iri.split href)).path =
        (Iri.split (Iri.resolve p.base href)).path
  rooted : (Iri.split p.base).authority.isSome = true → (Iri.split href).scheme = none →
    (Iri.split href).authority = none →
    ((Iri.split href).path = [] ∨ ∃ rest, (Iri.split href).path = '/' :: rest) →
      Iri.resolve (Iri.resolve p.base href) href = Iri.resolve p.base href
  relative : (Iri.split p.base).authority.isSome = true → (Iri.split href).scheme = none →
    (Iri.split href).authority = none → ∀ c rest, (Iri.split href).path = c :: rest → c ≠ '/' →
      Iri.Dotless (Iri.split href).path →
        (Iri.resolve (Iri.resolve p.base href) href = Iri.resolve p.base href ↔
          '/' ∉ (Iri.split href).path)

theorem base_element_installs (processing : Processing) (absolute : Iri.isAbsolute p.base = true)
    (named : Processor.isBaseName name = true) (given : attributes.href = some href)
    (absent : (p.entry name attributes).finds attributes.resource = false) :
    Installs processing p name attributes href := by
  have base := Processor.base_of_moves (p := p) named given
  have referred : (p.entry name attributes).attributes.href.or (p.entry name attributes).attributes.src =
      some href := by
    show attributes.href.or attributes.src = some href
    rw [given, Option.some_or]
  have contributed := (p.entry name attributes).contributes_of_reference processing absent referred
  rw [base] at contributed
  refine ⟨?_, contributed, Iri.resolve_twice_iff absolute href, fun host plain here rooted => ?_,
    fun host plain here c rest begun other dotless => ?_⟩
  · rw [Processor.enter_base, base]
  · exact Iri.resolve_twice_of_rooted absolute host plain here rooted
  · exact Iri.resolve_twice_relative_iff absolute host plain here begun other dotless

-- `<base href="c/d" rel="license"/>`
def licensed : Attributes := ⟨[("href".toList, "c/d".toList), ("rel".toList, "license".toList)]⟩

def unmoved : Processor := .initial "http://e/".toList

theorem licensed_installs :
    (Iri.isAbsolute unmoved.base = true ∧ Processor.isBaseName (Markup.ascii "base") = true) ∧
      Installs {} unmoved (Markup.ascii "base") licensed "c/d".toList ∧
      Iri.resolve (Iri.resolve "http://e/".toList "c/d".toList) "c/d".toList ≠
        Iri.resolve "http://e/".toList "c/d".toList := by
  have absolute : Iri.isAbsolute unmoved.base = true := by decide
  have named : Processor.isBaseName (Markup.ascii "base") = true := by decide
  have installs : Installs {} unmoved (Markup.ascii "base") licensed "c/d".toList :=
    base_element_installs {} absolute named rfl rfl
  have dotless : Iri.Dotless (Iri.split "c/d".toList).path := by
    unfold Iri.Dotless
    decide +kernel
  refine ⟨⟨absolute, named⟩, installs, fun same => ?_⟩
  exact (installs.relative rfl rfl rfl 'c' "/d".toList rfl (by decide) dotless).mp same (by decide)

theorem licensed_names_another :
    (unmoved.enter {} (Markup.ascii "base") licensed).1.base = "http://e/c/d".toList ∧
      ((unmoved.entry (Markup.ascii "base") licensed).reckoned {}).related licensed =
        [⟨.default, link "http://e/c/d".toList (Vocabulary.xhtml ++ "license".toList)
          "http://e/c/c/d".toList⟩] := by
  decide +kernel

end Rdfa.Document
