import Rdfa.Proofs.Element.Kinds
import Rdfa.Proofs.Element.Naming

-- What the terms of a document look like: an IRI is absolute unless a namespace that the document itself
-- declares is not, and whatever is read as a token is an IRI unless a token is written as a label.
namespace Rdfa.Element

def Declares (tags : List Attributes) (namespaceIri : Text) : Prop :=
  ∃ attributes ∈ tags, ∃ name,
    (name, namespaceIri) ∈ attributes.declared ∧ Scope.isPrefixName name = true

def Labels (tags : List Attributes) : Prop :=
  ∃ attributes ∈ tags, ∃ token ∈ attributes.terms, isLabel token = true

-- `values` are the places that the term may come from.
inductive IsIri (tags : List Attributes) (values : Attributes → List Text) (term : Text) : Prop where
  | absolute (absolute : Iri.isAbsolute term = true)
  -- A namespace that is no absolute IRI itself, with a part of such a value after it.
  | relative {namespaceIri reference value : Text} {attributes : Attributes}
      (declared : Declares tags namespaceIri) (relative : Iri.isAbsolute namespaceIri = false)
      (tag : attributes ∈ tags) (written : value ∈ values attributes) (part : reference <:+: value)
      (made : term = namespaceIri ++ reference)

-- A term where only IRIs belong: a predicate or a datatype.
inductive IsWord (tags : List Attributes) (term : Text) : Prop where
  | iri (iri : IsIri tags Attributes.terms term)
  | label (label : isLabel term = true) {attributes : Attributes} (tag : attributes ∈ tags)
      (written : term ∈ attributes.terms)

-- A term that names something: a subject, or an object that is no literal.
inductive IsNode (tags : List Attributes) (term : Text) : Prop where
  | iri (iri : IsIri tags (fun attributes => attributes.types ++ attributes.named) term)
  | label (label : isLabel term = true)

variable {tags : List Attributes} {attributes : Attributes} {term : Text}

theorem IsWord.of_isAbsolute (absolute : Iri.isAbsolute term = true) : IsWord tags term :=
  .iri (.absolute absolute)

theorem IsNode.of_isAbsolute (absolute : Iri.isAbsolute term = true) : IsNode tags term :=
  .iri (.absolute absolute)

theorem IsIri.of_namespace {values : Attributes → List Text} {namespaceIri reference value : Text}
    (known : Declares tags namespaceIri ∨ namespaceIri ∈ Vocabulary.namespaces)
    (tag : attributes ∈ tags) (written : value ∈ values attributes) (part : reference <:+: value) :
    IsIri tags values (namespaceIri ++ reference) := by
  cases absolute : Iri.isAbsolute namespaceIri with
  | true => exact .absolute (Iri.isAbsolute_append absolute reference)
  | false =>
    rcases known with declared | initial
    · exact .relative declared absolute tag written part rfl
    · cases absolute.symm.trans (Vocabulary.isPlainIri_namespaces namespaceIri initial).1

end Element

def Element.Kinds.formed (tags : List Element.Attributes) : Element.Kinds where
  base text := Iri.isAbsolute text = true
  node := Element.IsNode tags
  word := Element.IsWord tags
  declared := Element.Declares tags
  language _ := True

structure Triple.WellFormed (tags : List Element.Attributes) (triple : Triple) : Prop where
  subject : Element.IsNode tags triple.subject
  predicate : Element.IsWord tags triple.predicate
  object : triple.kind ≠ .literal → Element.IsNode tags triple.object
  datatype : ∀ datatype ∈ triple.datatype, Element.IsWord tags datatype

def Emission.WellFormed (tags : List Element.Attributes) (emission : Emission) : Prop :=
  ∀ triple, emission.triple.delivery? = some (.triple triple) → triple.WellFormed tags

theorem Emission.Fits.wellFormed {tags : List Element.Attributes} {emission : Emission}
    (fits : emission.Fits (.formed tags)) : emission.WellFormed tags := by
  intro triple meant
  obtain ⟨subject, predicate, object, datatype, _⟩ := fits triple meant
  exact ⟨subject, predicate, object, datatype⟩

namespace Element

theorem Kinds.formed_reads {tags : List Attributes} {values : Attributes → List Text}
    {attributes : Attributes} (tag : attributes ∈ tags) {tokens : List Text}
    (listed : tokens ⊆ values attributes) :
    (Kinds.formed tags).Reads tokens fun term =>
      IsIri tags values term ∨ isLabel term = true ∧ term ∈ tokens where
  prefixed _ written _ known _ part := .inl (.of_namespace known tag (listed written) part)
  inVocabulary token _ _ absolute := .inl (.absolute (Iri.isAbsolute_append absolute token))
  absolute _ _ absolute := .inl (.absolute absolute)
  label _ written label := .inr ⟨label, written⟩

theorem Kinds.formed_cover (tags : List Attributes) : (Kinds.formed tags).Cover tags where
  node_of_base _ absolute := .of_isAbsolute absolute
  own term known :=
    have absolute := (Vocabulary.isPlainIri_own term known).1
    ⟨.of_isAbsolute absolute, .of_isAbsolute absolute⟩
  minted number := .label (Nodes.isLabel_name number)
  declared attributes tag pair listed valid := ⟨attributes, tag, pair.1, listed, valid⟩
  language _ _ _ _ _ := trivial
  reference _ _ value _ _ absolute := Iri.isAbsolute_resolve absolute value
  types _ tag := (Kinds.formed_reads tag (List.subset_append_left _ _)).mono fun
    | _, .inl iri => .iri iri
    | _, .inr ⟨label, _⟩ => .label label
  terms _ tag := (Kinds.formed_reads tag (List.Subset.refl _)).mono fun
    | _, .inl iri => .iri iri
    | _, .inr ⟨label, written⟩ => .label label tag written
  named _ tag _ written _ known _ part :=
    .iri (.of_namespace known tag (List.mem_append_right _ written) part)

end Element
end Rdfa
