import Rdfa.Proofs.Document.Sound
import Rdfa.Proofs.Element.Terms
import Rdfa.Proofs.Extractor.Partial
import Rdfa.Proofs.Session.Streaming

-- Which terms a consumer can meet in a run, whatever it answers: absolute IRIs and blank node labels in
-- their places, but for what the document itself declares or writes otherwise.
namespace Rdfa

open Document Element

-- A document that declares absolute IRIs only and names no predicate and no datatype by a label.
structure Element.Strict (tags : List Attributes) : Prop where
  declared : ∀ namespaceIri, Declares tags namespaceIri → Iri.isAbsolute namespaceIri = true
  unlabelled : ¬ Labels tags

namespace Element.Strict

variable {tags : List Attributes} {term : Text}

theorem isIri (strict : Strict tags) {values : Attributes → List Text} (iri : IsIri tags values term) :
    Iri.isAbsolute term = true := by
  cases iri with
  | absolute absolute => exact absolute
  | relative declared relative _ _ _ _ => cases (strict.declared _ declared).symm.trans relative

theorem isWord (strict : Strict tags) (word : IsWord tags term) : Iri.isAbsolute term = true := by
  cases word with
  | iri iri => exact strict.isIri iri
  | label label tag written => exact absurd ⟨_, tag, term, written, label⟩ strict.unlabelled

theorem isNode (strict : Strict tags) (node : IsNode tags term) :
    Iri.isAbsolute term = true ∨ isLabel term = true := by
  cases node with
  | iri iri => exact .inl (strict.isIri iri)
  | label label => exact .inr label

end Element.Strict

structure Triple.Absolute (triple : Triple) : Prop where
  subject : Iri.isAbsolute triple.subject = true ∨ isLabel triple.subject = true
  predicate : Iri.isAbsolute triple.predicate = true
  object : triple.kind ≠ .literal →
    Iri.isAbsolute triple.object = true ∨ isLabel triple.object = true
  datatype : ∀ datatype ∈ triple.datatype, Iri.isAbsolute datatype = true

theorem Triple.WellFormed.absolute {tags : List Attributes} {triple : Triple}
    (formed : triple.WellFormed tags) (strict : Strict tags) : triple.Absolute :=
  ⟨strict.isNode formed.subject, strict.isWord formed.predicate,
    fun other => strict.isNode (formed.object other),
    fun datatype given => strict.isWord (formed.datatype datatype given)⟩

theorem Extractor.fits_whole {x : Extractor} {document : Bytes} {kinds : Kinds}
    (cover : kinds.Cover (tags document)) (based : kinds.base x.base) :
    ∀ emission ∈ (x.whole document).sent, emission.Fits kinds :=
  (Reading.Sound.read cover (.initial based) fun _ present => present).close cover

theorem Extractor.wellFormed_whole {x : Extractor} (absolute : Iri.isAbsolute x.base = true)
    (document : Bytes) :
    ∀ emission ∈ (x.whole document).sent, emission.WellFormed (tags document) :=
  fun emission sent => (fits_whole (Kinds.formed_cover _) absolute emission sent).wellFormed

namespace Session

theorem received_sent {κ : Type} [Consumer κ] {base : Text} {settings : Settings} {s : Session κ}
    (opened : openWith base settings = .ok s) (consumer : κ) {document : Bytes}
    (read : document = Extractor.document (Exchange.pieces (s.bind consumer).run.calls))
    {graph : Graph} {triple : Triple} {answer : Except Text Unit}
    (heard : .received graph triple answer ∈ (s.bind consumer).contacts) :
    ∃ x : Extractor, x.base = base ∧ Iri.isAbsolute base = true ∧
      ∃ emission ∈ (x.whole document).sent, emission.triple.delivery? = some (.triple triple) := by
  obtain ⟨sound, rfl⟩ := openWith_eq_ok_iff.mp opened
  have absolute := (Extractor.problem?_eq_none_iff.mp sound).2.2.1
  have ready : ((extracting base settings).bind consumer).Ready _ ⟨0, consumer⟩ := ⟨rfl, rfl, rfl⟩
  obtain ⟨emission, accepted, made, _, meant⟩ := received_announced ready heard
  have announced : emission ∈
      Exchange.announcements ((extracting base settings).bind consumer).run.calls :=
    List.mem_filterMap.mpr ⟨_, made, rfl⟩
  rw [run_calls ready] at announced read
  have known := Extractor.begins_run.subset announced
  exact ⟨_, rfl, absolute, emission, read ▸ List.mem_reverse.mp known, meant⟩

-- Every triple that reaches the consumer, in either graph, accepted or refused.
theorem run_wellFormed {κ : Type} [Consumer κ] {base : Text} {settings : Settings} {s : Session κ}
    (opened : openWith base settings = .ok s) (consumer : κ) {document : Bytes}
    (read : document = Extractor.document (Exchange.pieces (s.bind consumer).run.calls))
    {graph : Graph} {triple : Triple} {answer : Except Text Unit}
    (heard : .received graph triple answer ∈ (s.bind consumer).contacts) :
    triple.WellFormed (tags document) ∧ (Strict (tags document) → triple.Absolute) := by
  obtain ⟨x, rfl, absolute, emission, sent, meant⟩ := received_sent opened consumer read heard
  have formed := Extractor.wellFormed_whole absolute document emission sent triple meant
  exact ⟨formed, formed.absolute⟩

def heardOf (document : Bytes) : List Contact :=
  ((extracting "http://e/".toList {}).bind ({ pieces := [document] } : Playback)).contacts

def readOf (document : Bytes) : Bytes :=
  Extractor.document (Exchange.pieces
    ((extracting "http://e/".toList {}).bind ({ pieces := [document] } : Playback)).run.calls)

theorem mem_heardOf {document : Bytes} (fitting : Fitting ({} : Settings).chunkCapacity [document])
    (emission : Emission) {contact : Contact} (heard : emission.heard? = some contact)
    (sent : emission ∈ (marker.whole (Extractor.document [document])).sent) :
    contact ∈ heardOf document := by
  have opened : openWith "http://e/".toList {} =
      .ok (extracting "http://e/".toList {} : Session Playback) :=
    openWith_eq_ok_iff.mpr ⟨by decide, rfl⟩
  have contacts : heardOf document = marker.contacts [document] :=
    (run_contacts_of_supplies opened rfl (playback_supplies _) fitting (playback_ready _)).1
  have told : contact ∈ (marker.contacts [document]).filter (!·.isProduction) := by
    rw [Extractor.contacts_told]
    exact List.mem_filterMap.mpr ⟨emission, List.mem_reverse.mpr sent, heard⟩
  rw [contacts]
  exact (List.mem_filter.mp told).1

-- `<p about="_:n" prefix="q: u:" property="q:x" content="c"/>`.
def prefixed : Bytes :=
  Markup.ascii "<p about=\"_:n\" prefix=\"q: u:\" property=\"q:x\" content=\"c\"/>"

def prefixedHeard : Triple :=
  ⟨Nodes.name 0, "u:x".toList, "c".toList, .literal, none, none⟩

theorem prefixed_wellFormed :
    openWith "http://e/".toList {} = .ok (extracting "http://e/".toList {} : Session Playback) ∧
      .received .default prefixedHeard (.ok ()) ∈ heardOf prefixed ∧
      prefixedHeard.WellFormed (tags (readOf prefixed)) ∧
      (Strict (tags (readOf prefixed)) → prefixedHeard.Absolute) := by
  have opened : openWith "http://e/".toList {} =
      .ok (extracting "http://e/".toList {} : Session Playback) :=
    openWith_eq_ok_iff.mpr ⟨by decide, rfl⟩
  have heard : .received .default prefixedHeard (.ok ()) ∈ heardOf prefixed :=
    mem_heardOf (by unfold Fitting; decide)
      ⟨.default, literal (Nodes.name 0) "u:x".toList "c".toList none none⟩ rfl (by decide +kernel)
  exact ⟨opened, heard, run_wellFormed opened _ rfl heard⟩

-- `<p prefix="q: r" property="q:x" content="c"/>` and `<p property="_:x" content="c"/>`: a namespace is
-- taken as it was declared, and a token that is a label stays one.
def relativeNamespace : Bytes :=
  Markup.ascii "<p prefix=\"q: r\" property=\"q:x\" content=\"c\"/>"

def labelToken : Bytes := Markup.ascii "<p property=\"_:x\" content=\"c\"/>"

def statedBy (predicate : Text) : Emission :=
  ⟨.default, literal "http://e/".toList predicate "c".toList none none⟩

def heardBy (predicate : Text) : Triple :=
  ⟨"http://e/".toList, predicate, "c".toList, .literal, none, none⟩

theorem predicates_not_absolute :
    (.received .default (heardBy "rx".toList) (.ok ()) ∈ heardOf relativeNamespace ∧
      Iri.isAbsolute (heardBy "rx".toList).predicate = false) ∧
    (.received .default (heardBy "_:x".toList) (.ok ()) ∈ heardOf labelToken ∧
      isLabel (heardBy "_:x".toList).predicate = true) := by
  have fitting : Fitting ({} : Settings).chunkCapacity [relativeNamespace] ∧
      Fitting ({} : Settings).chunkCapacity [labelToken] := by
    unfold Fitting
    decide
  refine ⟨⟨mem_heardOf fitting.1 (statedBy "rx".toList) rfl ?_, by decide⟩,
    mem_heardOf fitting.2 (statedBy "_:x".toList) rfl ?_, by decide⟩
  · decide +kernel
  · decide +kernel

end Session
end Rdfa
