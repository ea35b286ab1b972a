import Rdfa.Proofs.Document.Diagnoses
import Rdfa.Proofs.Session.Properties
import Rdfa.Proofs.Session.Strays

-- What a consumer hears of all that is wrong with a document: a pair of statements for each cause, of a node
-- that nothing else has, and nothing between the two.
namespace Rdfa

open Document Element

def Contact.ofProcessor : Contact → Bool
  | .received .processor _ _ => true
  | .received .default _ _ | .produced _ _ | .declared _ _ _ => false

def diagnosis (number : Nat) (warning : Warning) : List Contact :=
  [.received .processor
      { subject := Nodes.name number, predicate := Vocabulary.rdfType, object := warning.kind.iri,
        kind := .resource, datatype := none, language := none } (.ok ()),
    .received .processor
      { subject := Nodes.name number, predicate := Vocabulary.description, object := warning.message,
        kind := .literal, datatype := none, language := none } (.ok ())]

theorem warned_heard (number : Nat) (warning : Warning) :
    (warned number warning).filterMap Emission.heard? = diagnosis number warning := by
  have named : isLabel warning.kind.iri = false := by
    cases warning.kind <;> decide
  have link : (link (Nodes.name number) Vocabulary.rdfType warning.kind.iri).delivery? = some (.triple
      ((link (Nodes.name number) Vocabulary.rdfType warning.kind.iri).asTriple
        (if isLabel warning.kind.iri then .blankNode else .resource))) := rfl
  rw [named] at link
  simp only [warned, List.filterMap_cons, Emission.heard?, link]
  rfl

theorem Emission.heard_plain {emission : Emission} {contact : Contact} (plain : emission.isDiagnostic = false)
    (heard : emission.heard? = some contact) : contact.ofProcessor = false := by
  obtain ⟨delivery, meant, rfl⟩ := Option.map_eq_some_iff.mp heard
  have other (coded : emission.triple.code ≠ Code.namespaceIri) : emission.graph = .default := by
    cases graph : emission.graph with
    | default => rfl
    | processor => simp [isDiagnostic, graph, coded] at plain
  rcases RawTriple.delivery?_cases meant with ⟨_, rfl⟩ | ⟨code, rfl⟩ | ⟨code | code, rfl⟩ | ⟨code, rfl⟩
  · rfl
  all_goals
    rw [other (by rw [code]; decide)]
    rfl

-- The causes of a document's diagnoses, and what is heard of them.
structure DiagnosedOnce (processing : Processing) (base : Text) (document : Bytes) (deliveries : List Contact)
    (stages : List Stage) (diagnoses : List (Nat × Warning)) : Prop where
  follows : Follows [] stages []
  entered : (entries stages).map (·.attributes) = tags document
  stand : ∀ e around, .entered e around ∈ stages →
    Stands processing (.outermost base) e.place around
  chained : ∃ last, Chained processing .none (entries stages) last
  said : (stages.flatMap (Stage.sent processing)).filterMap Emission.heard? <+: deliveries
  heard : Amid (·.ofProcessor = false) (fun (number, warning) => diagnosis number warning) diagnoses deliveries
  causes : diagnoses.map (·.2) =
    (entries stages).flatMap Entry.causes ++ leftOpen (openAtEnd processing base document)
  apart : Apart processing (entries stages) diagnoses

theorem Extractor.whole_diagnosed {x : Extractor} {document : Bytes}
    (sound : (x.whole document).malformation = none) (announces : x.processing.announceWarnings = true) :
    ∃ stages diagnoses, DiagnosedOnce x.processing x.base document
      ((x.whole document).sent.reverse.filterMap Emission.heard?) stages diagnoses := by
  obtain ⟨stages, recounts, ⟨last, chained⟩, said, diagnosed⟩ := whole_diagnoses sound announces
  have causes : (register (entries stages) ++
      (leftOpen (openAtEnd x.processing x.base document)).map Use.warning).filterMap Use.warning? =
        (entries stages).flatMap Entry.causes ++ leftOpen (openAtEnd x.processing x.base document) := by
    rw [List.filterMap_append, warnings_of_map, register, List.filterMap_flatMap]
    simp only [Entry.uses_warnings]
  refine ⟨stages, _, recounts.follows, recounts.entered, recounts.stand, ⟨last, chained⟩,
    said.filterMap _, ?_, (numbered_warnings 0 _).trans causes,
    chained.apart (recounts.registered announces) _⟩
  exact diagnosed.filterMap _ (fun _ _ => Emission.heard_plain) fun told => warned_heard told.1 told.2

namespace Session

variable {κ : Type} [Consumer κ] {s : Session κ}

-- Whatever was done to the session before, and whatever its consumer supplies, in whatever chunks.
theorem run_diagnoses {base : Text} {settings : Settings} (opened : openWith base settings = .ok s)
    (announces : settings.processing.announceWarnings = true) (acts : List (Act κ))
    (succeeded : (s.after acts).run.outcome = .ok ()) :
    ∃ stages diagnoses, DiagnosedOnce settings.processing base (Extractor.document (s.after acts).chunks)
      ((s.after acts).contacts.filter (!·.isProduction)) stages diagnoses := by
  obtain ⟨sound, heard⟩ := heard_of_success opened acts succeeded rfl
  rw [heard]
  exact Extractor.whole_diagnosed sound announces

-- Something is wrong with every kind of value, nodes are named for everything else too, and two elements
-- stay open.
def careless : Bytes :=
  ["<p prefix='x' about='[n:o]' property='dc:title no' datatype='no'>a", "<i rel='v:r no'><b about='_:x'/>",
    "<b xmlns:_='u:' typeof='dc:T'/>"].flatMap Markup.ascii

theorem careless_diagnoses :
    openWith "http://e/".toList {} = .ok (extracting "http://e/".toList {} : Session Playback) ∧
      ({} : Settings).processing.announceWarnings = true ∧ (runOf careless).run.outcome = .ok () ∧
      ∃ stages diagnoses, DiagnosedOnce {} "http://e/".toList (Extractor.document (runOf careless).chunks)
        ((runOf careless).contacts.filter (!·.isProduction)) stages diagnoses := by
  have succeeded : (runOf careless).run.outcome = .ok () := by
    rw [runOf_outcome (by decide +kernel) (by decide +kernel), reported_eq_ok_iff, Extractor.verdict_eq_ok_iff]
    decide +kernel
  exact ⟨extracting_opened, rfl, succeeded,
    run_diagnoses extracting_opened rfl [.bind { pieces := [careless] }] succeeded⟩

end Session
end Rdfa
