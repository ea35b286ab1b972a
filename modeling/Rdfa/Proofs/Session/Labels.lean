import Rdfa.Proofs.Document.Renamed
import Rdfa.Proofs.Session.Streaming

-- Which blank nodes of a run are one and the same. A run is compared with one that was given nodes for the
-- labels of the document beforehand, so that there a node shows which label it was written with; as long
-- as no token is read as a label, the nodes of the one are those of the other.
namespace Rdfa

open Document Element

def Triple.terms (triple : Triple) : List Text :=
  [triple.subject, triple.predicate] ++ (if triple.isLiteral then [] else [triple.object]) ++
    triple.datatype.toList

def Contact.terms : Contact → List Text
  | .received _ triple _ => triple.terms
  | .produced _ _ | .declared _ _ _ => []

def Emission.terms (emission : Emission) : List Text := emission.heard?.elim [] (·.terms)

theorem Emission.terms_link (graph : Graph) (subject predicate object : Text) :
    terms ⟨graph, link subject predicate object⟩ = [subject, predicate, object] := by
  have kind : (link subject predicate object).delivery? = some (.triple
      ((link subject predicate object).asTriple
        (if isLabel object then .blankNode else .resource))) := rfl
  unfold terms heard?
  rw [kind]
  cases isLabel object <;> rfl

theorem Emission.terms_literal (graph : Graph) (subject predicate value : Text)
    (datatype language : Option Text) :
    terms ⟨graph, literal subject predicate value datatype language⟩ =
      [subject, predicate] ++ datatype.toList := by
  cases datatype with
  | none => rfl
  | some datatype =>
    by_cases xml : datatype = Vocabulary.xmlLiteral
    · subst xml
      rfl
    · have code : (literal subject predicate value (some datatype) language).code =
          Code.typedLiteral := if_neg xml
      unfold terms heard? RawTriple.delivery?
      rw [code]
      rfl

theorem Contact.terms_of_heard (sent : List Emission) :
    (sent.filterMap Emission.heard?).flatMap (·.terms) = sent.flatMap (·.terms) := by
  induction sent with
  | nil => rfl
  | cons emission rest ih =>
    cases found : emission.heard? <;> simp [found, Emission.terms, ih]

theorem Contact.terms_of_deliveries (contacts : List Contact) :
    (contacts.filter (!·.isProduction)).flatMap (·.terms) = contacts.flatMap (·.terms) := by
  induction contacts with
  | nil => rfl
  | cons contact rest ih =>
    cases contact with
    | produced size answer => exact ih
    | received graph triple answer => exact congrArg (_ ++ ·) ih
    | declared name iri answer => exact ih

namespace Element.Naming

variable {naming : Naming}

theorem Statement.terms {emission other : Emission} (statement : naming.Statement emission other) :
    List.Forall₂ naming.Term emission.terms other.terms := by
  cases statement with
  | link graph subject plain object =>
    rw [Emission.terms_link, Emission.terms_link]
    exact .cons subject (.cons (.plain plain) (.cons object .nil))
  | @literal _ _ graph subject _ plain value datatype typed language =>
    rw [Emission.terms_literal, Emission.terms_literal]
    refine .cons subject (.cons (.plain plain) ?_)
    cases datatype with
    | none => exact .nil
    | some iri => exact .cons (.plain (typed iri rfl)) .nil
  | prefixReport name iri => exact .nil

theorem Alike.terms {sent others : List Emission} (alike : naming.Alike (fun _ => true) sent others) :
    List.Forall₂ naming.Term (sent.flatMap (·.terms)) (others.flatMap (·.terms)) := by
  unfold Alike at alike
  rw [List.filter_eq_self.mpr fun _ _ => rfl, List.filter_eq_self.mpr fun _ _ => rfl] at alike
  exact List.rel_flatMap alike fun _ _ statement => statement.terms

end Element.Naming

-- The terms of a run, and what they are in the run whose labels have nodes of their own.
structure LabelsApart (marks : List (Text × Text)) (terms marked : List Text) : Prop where
  length : marked.length = terms.length
  series : ∀ term ∈ terms, isLabel term = true → ∃ k, term = Nodes.name k
  origins : ∀ term ∈ marked, isLabel term = true →
    (∃ k, term = Nodes.name k) ∨ ∃ label, marks.lookup label = some term
  same : ∀ pair ∈ terms.zip marked, ∀ also ∈ terms.zip marked,
    (pair.1 = also.1 ↔ pair.2 = also.2) ∧ isLabel pair.1 = isLabel pair.2

theorem labelsApart_of_terms {marks : List (Text × Text)} {naming : Naming} {m n : Nat}
    (counted : Naming.Counted marks naming m n) {terms marked : List Text}
    (alike : List.Forall₂ naming.Term terms marked) : LabelsApart marks terms marked := by
  obtain ⟨length, paired⟩ := List.forall₂_iff_zip.mp alike
  have origin {a b : Text} (term : naming.Term a b) :
      (isLabel a = true → ∃ k, a = Nodes.name k) ∧ (isLabel b = true →
        (∃ k, b = Nodes.name k) ∨ ∃ label, marks.lookup label = some b) := by
    cases term with
    | node named =>
      refine ⟨fun _ => ?_, fun _ => ?_⟩
      · obtain ⟨k, _, same⟩ := counted.here named
        exact ⟨k, same⟩
      · exact (counted.there named).imp_left fun ⟨k, _, same⟩ => ⟨k, same⟩
    | plain unlabelled => simp [unlabelled]
  refine ⟨length.symm, ?_, ?_, ?_⟩
  · exact ((List.forall₂_and_left _ _).mp (alike.imp fun _ _ term => ⟨(origin term).1, term⟩)).1
  · have back : List.Forall₂ (flip naming.Term) marked terms := alike.flip
    exact ((List.forall₂_and_left _ _).mp (back.imp fun _ _ term => ⟨(origin term).2, term⟩)).1
  · rintro ⟨a, b⟩ first ⟨c, d⟩ second
    refine ⟨counted.term_unique (paired first) (paired second), ?_⟩
    cases paired first with
    | node named =>
      obtain ⟨left, right⟩ := counted.labels named
      exact left.trans right.symm
    | plain _ => rfl

namespace Extractor

-- The reading of a document whose labels have nodes beforehand.
def marked (x : Extractor) (marks : List (Text × Text)) (document : Bytes) : Reading :=
  x.finished { Reading.initial x.base with
    processor := { Processor.initial x.base with nodes := ⟨0, marks⟩ } } document

theorem whole_labels_apart {x : Extractor} (absolute : Iri.isAbsolute x.base = true)
    {document : Bytes} (unlabelled : (Reading.initial x.base).unlabelled x.processing document = true)
    {marks : List (Text × Text)} (marked : Naming.Marks marks) :
    LabelsApart marks ((x.whole document).sent.reverse.flatMap (·.terms))
      ((x.marked marks document).sent.reverse.flatMap (·.terms)) ∧
      verdict (x.marked marks document) = verdict (x.whole document) := by
  have initial : Readings marks (fun _ => true) (fun _ _ => False) (.initial x.base)
      { Reading.initial x.base with
        processor := { Processor.initial x.base with nodes := ⟨0, marks⟩ } } :=
    ⟨rfl, ⟨rfl, rfl, ⟨absolute, absolute⟩, .nil, .initial marked⟩, .nil, rfl⟩
  have comparable := Processing.Comparable.refl (fun _ => true) x.processing
  obtain ⟨wider, _, read⟩ := initial.read comparable unlabelled
  obtain ⟨widest, m, n, _, counted, alike, malformation⟩ := read.close comparable
  refine ⟨labelsApart_of_terms counted alike.reverse.terms, ?_⟩
  unfold verdict
  rw [show (x.marked marks document).malformation = (x.whole document).malformation from malformation]

end Extractor

namespace Session

-- In a run of a document no token of which is read as a label, two terms are the same exactly when they
-- are the same where the labels of the document have nodes of their own.
theorem run_labels_apart {κ : Type} [Consumer κ] {base : Text} {settings : Settings} {s : Session κ}
    {supplies : List Bytes → κ → Prop} {consumer : κ} {chunks : List Bytes} {x : Extractor}
    (opened : openWith base settings = .ok s)
    (reader : x = ⟨base, settings.processing, settings.chunkCapacity, false⟩)
    (source : Consumer.Supplies settings.chunkCapacity supplies)
    (fitting : Fitting settings.chunkCapacity chunks) (ready : supplies chunks consumer)
    (unlabelled : (Reading.initial base).unlabelled settings.processing
      (Extractor.document chunks) = true)
    {marks : List (Text × Text)} (marked : Naming.Marks marks) :
    LabelsApart marks ((s.bind consumer).contacts.flatMap (·.terms))
      ((x.marked marks (Extractor.document chunks)).sent.reverse.flatMap (·.terms)) := by
  obtain ⟨calls, _, _⟩ := run_contacts_of_supplies opened reader source fitting ready
  obtain ⟨sound, _⟩ := openWith_eq_ok_iff.mp opened
  subst reader
  rw [calls, ← Contact.terms_of_deliveries, Extractor.contacts_told, Contact.terms_of_heard]
  exact (Extractor.whole_labels_apart (Extractor.problem?_eq_none_iff.mp sound).2.2.1 unlabelled
    marked).1

-- `<p about="_:b0"><i typeof="u:t"/></p>` and a node for its label. The element inside has a node of the
-- engine's own, whose name would be `_:b0` if the label did not have it.
def labelled : List Bytes := [Markup.ascii "<p about=\"_:b0\"><i typeof=\"u:t\"/></p>"]

def markedZero : List (Text × Text) := [("_:b0".toList, "_:zero".toList)]

theorem markedZero_marks : Naming.Marks markedZero := by
  have only {label b : Text} (found : markedZero.lookup label = some b) :
      label = "_:b0".toList ∧ b = "_:zero".toList := by
    by_cases same : label = "_:b0".toList
    · subst same
      cases found
      exact ⟨rfl, rfl⟩
    · rw [markedZero, List.lookup_cons, beq_false_of_ne same] at found
      cases found
  refine ⟨fun found => ?_, fun found k same => ?_, fun found also => ?_⟩
  · rw [(only found).2]
    rfl
  · rw [(only found).2] at same
    have second := congrArg (·.drop 2) same
    simp [Nodes.name] at second
  · rw [(only found).1, (only also).1]

theorem labelled_apart :
    LabelsApart markedZero
      (((extracting "http://e/".toList {}).bind
        ({ pieces := labelled } : Playback)).contacts.flatMap (·.terms))
      ((marker.marked markedZero (Extractor.document labelled)).sent.reverse.flatMap (·.terms)) := by
  have opened : openWith "http://e/".toList {} =
      .ok (extracting "http://e/".toList {} : Session Playback) :=
    openWith_eq_ok_iff.mpr ⟨by decide, rfl⟩
  have fitting : Fitting ({} : Settings).chunkCapacity labelled := by
    unfold Fitting
    decide
  exact run_labels_apart opened rfl (playback_supplies _) fitting (playback_ready _)
    (by decide +kernel) markedZero_marks

-- `<div><p typeof="_:b0"></p></div>`: a token that is read as a label is kept as it was written, and so
-- the type is the node that was named for the element.
def typedByLabel : List Bytes := [Markup.ascii "<div><p typeof=\"_:b0\"></p></div>"]

theorem typedByLabel_meets_minted :
    ((extracting "http://e/".toList {}).bind
        ({ pieces := typedByLabel } : Playback)).contacts.flatMap (·.terms) =
      [Nodes.name 0, Vocabulary.rdfType, "_:b0".toList] ∧
      (marker.whole (Extractor.document typedByLabel)).processor.nodes = ⟨1, []⟩ ∧
      Nodes.name 0 = "_:b0".toList := by
  have opened : openWith "http://e/".toList {} =
      .ok (extracting "http://e/".toList {} : Session Playback) :=
    openWith_eq_ok_iff.mpr ⟨by decide, rfl⟩
  have fitting : Fitting ({} : Settings).chunkCapacity typedByLabel := by
    unfold Fitting
    decide
  refine ⟨?_, by decide +kernel, rfl⟩
  rw [(run_contacts_of_supplies opened rfl (playback_supplies _) fitting
      (playback_ready _)).1,
    ← Contact.terms_of_deliveries, Extractor.contacts_told, Contact.terms_of_heard]
  decide +kernel

end Session
end Rdfa
