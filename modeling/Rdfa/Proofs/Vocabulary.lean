import Rdfa.Iri
import Rdfa.Proofs.Triple.Reader
import Rdfa.Vocabulary
import Rdfa.Warning

-- The IRIs that the rules bring into a document themselves. Each is absolute and can be written as
-- it is.
namespace Rdfa

def IsPlainIri (text : Text) : Prop :=
  Iri.isAbsolute text = true ∧ ∀ c ∈ text, NTriples.isIriChar c = true

namespace Vocabulary

-- The IRIs that the rules themselves use, and those of the terms that need no vocabulary.
def own : List Text :=
  [rdfType, usesVocabulary, description] ++
    [Warning.Kind.unresolvedTerm, .unresolvedCurie, .prefixRedefinition, .documentError].map
      Warning.Kind.iri ++
    initialTerms.map fun entry => entry.2.toList

def namespaces : List Text := xhtml :: initialPrefixes.map fun entry => entry.2.toList

theorem iri_own (kind : Warning.Kind) : kind.iri ∈ own := by
  refine List.mem_append_left _ (List.mem_append_right _ (List.mem_map_of_mem ?_))
  cases kind <;> decide

theorem own_of_initialTerm? {name iri : Text} (found : initialTerm? name = some iri) : iri ∈ own := by
  obtain ⟨entry, there, rfl⟩ := Option.map_eq_some_iff.mp found
  exact List.mem_append_right _ (List.mem_map_of_mem (List.mem_of_find?_eq_some there))

theorem mem_namespaces_of_initialPrefix? {name iri : Text} (found : initialPrefix? name = some iri) :
    iri ∈ namespaces := by
  obtain ⟨entry, there, rfl⟩ := Option.map_eq_some_iff.mp found
  exact List.mem_cons_of_mem _ (List.mem_map_of_mem (List.mem_of_find?_eq_some there))

theorem isPlainIri_own : ∀ iri ∈ own, IsPlainIri iri := by
  unfold IsPlainIri
  decide +kernel

theorem isPlainIri_namespaces : ∀ namespaceIri ∈ namespaces, IsPlainIri namespaceIri := by
  unfold IsPlainIri
  decide +kernel

end Vocabulary
end Rdfa
