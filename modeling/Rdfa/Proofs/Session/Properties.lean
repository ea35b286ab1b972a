import Rdfa.Proofs.Document.Properties
import Rdfa.Proofs.Session.Positions
import Rdfa.Proofs.Session.Reports

-- No property of a document is lost or said twice in a run that succeeds, whichever way the elements of
-- the document come to their ends.
namespace Rdfa

open Document Element Exchange

def Triple.topic (triple : Triple) : Option Text × Text := (some triple.subject, triple.predicate)

def Emission.topic? (emission : Emission) : Option (Option Text × Text) :=
  emission.fact?.map Triple.topic

namespace Element.Entry

variable {processing : Processing} {e : Entry}

theorem Ascribes.fact {subject property : Text} {emission : Emission}
    (ascribes : Ascribes subject property emission) :
    ∃ triple, emission.fact? = some triple ∧ triple.topic = (some subject, property) := by
  cases ascribes with
  | node term => exact ⟨_, Emission.fact?_link _ _ _, rfl⟩
  | value value datatype language => exact ⟨_, Emission.fact?_literal _ _ _ _ _, rfl⟩

theorem facts_ascribed {subject : Text} {properties : List Text} {sent : List Emission}
    (ascribed : List.Forall₂ (Ascribes subject) properties sent) :
    (sent.filterMap Emission.fact?).map Triple.topic = properties.map (some subject, ·) := by
  induction ascribed with
  | nil => rfl
  | @cons property emission properties sent here _ ih =>
    obtain ⟨triple, found, topic⟩ := here.fact
    rw [List.filterMap_cons_some found, List.map_cons, List.map_cons, topic, ih]

def kept (processing : Processing) (e : Entry) : List (Option Text × Text) :=
  match e.pending processing with
  | none => []
  | some literal => literal.predicates.map (some literal.subject, ·)

-- What an element says of itself by `property`: each token that stands for something once, at its start
-- or at its end, whatever text is inside it.
structure Described (processing : Processing) (e : Entry) : Prop where
  parent : (e.scope processing).parentObject.isSome = true
  sent : Emission.factual (e.sent processing) =
    e.own processing ++ (e.reckoned processing).completed e.place.parent
  either : (e.reckoned processing).stated e.attributes = [] ∨ e.pending processing = none
  properties : ∃ subject, e.subject processing = some subject ∧ ∀ text,
    (((e.reckoned processing).stated e.attributes ++
      Forest.complete (e.pending processing) text).filterMap Emission.fact?).map Triple.topic =
        (e.iris e.attributes.property).map (some subject, ·)

theorem described (found : e.place.subject.isSome = true) : e.Described processing := by
  obtain ⟨subject, named, either, ascribed⟩ := e.describes processing found
  exact ⟨e.parentObject_isSome processing found, e.factual_sent processing, either, subject, named,
    fun text => facts_ascribed (ascribed text)⟩

theorem filterMap_topic (sent : List Emission) :
    sent.filterMap Emission.topic? = (sent.filterMap Emission.fact?).map Triple.topic :=
  List.map_filterMap.symm

theorem completes_kept (processing : Processing) (e : Entry) (text : Text) :
    (Forest.complete (e.pending processing) text).filterMap Emission.topic? = e.kept processing := by
  unfold Forest.complete kept
  cases e.pending processing with
  | none => rfl
  | some literal =>
    rw [filterMap_topic]
    exact facts_ascribed (ascribes_map literal.predicates fun _ => .value text _ _)

end Element.Entry

structure PropertiesOnce (processing : Processing) (base : Text) (document : Bytes)
    (facts : List Triple) (stages : List Stage) : Prop where
  follows : Follows [] stages []
  entered : (entries stages).map (·.attributes) = tags document
  stand : ∀ e around, .entered e around ∈ stages →
    Stands processing (.outermost base) e.place around
  facts : facts = (Emission.factual (stages.flatMap (Stage.sent processing))).filterMap Emission.fact?
  described : ∀ e ∈ entries stages, e.Described processing
  total : ((stages.flatMap (Stage.properties processing)).filterMap Emission.topic?).Perm
    ((entries stages).flatMap fun e => (e.iris e.attributes.property).map (e.subject processing, ·))

namespace Document.Recounts

variable {processing : Processing} {base : Text} {known : List Attributes} {sent : List Emission}
  {stages : List Stage}

theorem described (recounts : Recounts processing base known sent stages) :
    ∀ e ∈ entries stages, e.Described processing := fun e present =>
  Entry.described (recounts.subject_isSome e present)

theorem total (recounts : Recounts processing base known sent stages) :
    ((stages.flatMap (Stage.properties processing)).filterMap Emission.topic?).Perm
      ((entries stages).flatMap fun e =>
        (e.iris e.attributes.property).map (e.subject processing, ·)) := by
  have balanced := recounts.follows.properties (Entry.completes_kept processing)
  rw [List.flatMap_nil, List.append_nil, List.nil_append] at balanced
  have each : ∀ e ∈ entries stages,
      ((e.reckoned processing).stated e.attributes).filterMap Emission.topic? ++ e.kept processing =
        (e.iris e.attributes.property).map (e.subject processing, ·) := by
    intro e present
    obtain ⟨subject, named, once⟩ := (recounts.described e present).properties
    rw [← Entry.completes_kept processing e [], ← List.filterMap_append, Entry.filterMap_topic,
      once [], named]
  rw [List.flatMap_congr each] at balanced
  exact balanced

end Document.Recounts

namespace Session

variable {κ : Type} [Consumer κ] {s : Session κ}

theorem accepted_of_success {engine : Engine} {binding : Binding κ} (ready : s.Ready engine binding)
    (succeeded : s.run.outcome = .ok ()) :
    (∀ turn ∈ s.turns, turn.exchange.isRefused = false) ∧
      (engine.run (s.watched binding)).result = .ok () := by
  have final := (run_path ready).first_failure_final rfl (engine.run (s.watched binding)).result
  rw [← run_settled ready] at final
  cases found : s.turns.find? (·.exchange.isRefused) with
  | some turn =>
    obtain ⟨⟨failure, fails⟩, ended⟩ := final.failed turn found
    cases succeeded.symm.trans (ended failure fails)
  | none =>
    refine ⟨fun turn present => by simpa using List.find?_eq_none.mp found turn present, ?_⟩
    exact reported_eq_ok_iff.mp ((final.unfailed found).symm.trans succeeded)

theorem heard_of_success {base : Text} {settings : Settings} (opened : openWith base settings = .ok s)
    (acts : List (Act κ)) (succeeded : (s.after acts).run.outcome = .ok ()) {x : Extractor}
    (reader : x = ⟨base, settings.processing, settings.chunkCapacity, false⟩) :
    (x.whole (Extractor.document (s.after acts).chunks)).malformation = none ∧
      (s.after acts).contacts.filter (!·.isProduction) =
        (x.whole (Extractor.document (s.after acts).chunks)).sent.reverse.filterMap
          Emission.heard? := by
  rcases run_cases (s.after acts) with ⟨engine, binding, ready, _, _⟩ | ⟨_, failure, _, run, _⟩
  · obtain ⟨accepted, result⟩ := accepted_of_success ready succeeded
    have heard := (run_path ready).heard accepted
    obtain ⟨more, pieces⟩ := (run_path ready).pieces
    rw [turns_exchanges ready, run_calls ready] at heard pieces
    obtain rfl := engine_of_ready opened ready
    rw [← reader] at heard pieces result
    have fresh : x.consumed = false := by rw [reader]
    cases Extractor.unwinds_run fresh ((s.after acts).watched binding) with
    | refused _ _ _ _ left => cases left.symm.trans result
    | through _ all ended =>
      rw [pieces] at all ended
      have whole : x.tellsWhole (Contact.chunks ((s.after acts).turns.flatMap (·.contacts)) ++
          List.replicate more []) =
          Extractor.account (x.whole (Extractor.document (s.after acts).chunks)) := by
        rw [Extractor.tellsWhole, Extractor.document_append_nothing]
        rfl
      rw [whole] at all ended
      refine ⟨Extractor.verdict_eq_ok_iff.mp (ended.symm.trans result), ?_⟩
      exact heard.trans (congrArg _ all)
  · rw [run] at succeeded
    cases succeeded

-- Whatever was done to the session before, and whatever its consumer supplies, in whatever chunks.
theorem run_properties {base : Text} {settings : Settings} (opened : openWith base settings = .ok s)
    (acts : List (Act κ)) (succeeded : (s.after acts).run.outcome = .ok ()) :
    (∀ bytes, ((Reading.initial base).read settings.processing bytes).processor.Led) ∧
      ∃ stages, PropertiesOnce settings.processing base (Extractor.document (s.after acts).chunks)
        (Contact.facts (s.after acts).contacts) stages := by
  refine ⟨Reading.led_read base, ?_⟩
  obtain ⟨sound, heard⟩ := heard_of_success opened acts succeeded rfl
  obtain ⟨stages, recounts⟩ := Extractor.whole_recounts sound
  refine ⟨stages, recounts.follows, recounts.entered, recounts.stand, ?_, recounts.described,
    recounts.total⟩
  rw [← Contact.facts_deliveries, heard, Emission.facts_heard]
  exact congrArg _ recounts.facts

def untidy : List Bytes :=
  ["<p property='dc:title'>a<br property='v:x'><i property='v:y'/>",
    "<b rel='v:r'>b</b><u property='v:z nowhere'>c"].map Markup.ascii

theorem untidy_properties :
    openWith "http://e/".toList {} = .ok (extracting "http://e/".toList {} : Session Playback) ∧
      ((extracting "http://e/".toList {}).after
        [.bind ({ pieces := untidy } : Playback)]).run.outcome = .ok () ∧
      (∀ bytes, ((Reading.initial "http://e/".toList).read {} bytes).processor.Led) ∧
      ∃ stages, PropertiesOnce {} "http://e/".toList
        (Extractor.document ((extracting "http://e/".toList {}).after
          [.bind ({ pieces := untidy } : Playback)]).chunks)
        (Contact.facts ((extracting "http://e/".toList {}).after
          [.bind ({ pieces := untidy } : Playback)]).contacts) stages := by
  have opened : openWith "http://e/".toList {} =
      .ok (extracting "http://e/".toList {} : Session Playback) :=
    openWith_eq_ok_iff.mpr ⟨by decide, rfl⟩
  have fitting : Fitting ({} : Settings).chunkCapacity untidy := by
    unfold Fitting
    decide
  obtain ⟨_, outcome, _⟩ :=
    run_contacts_of_supplies opened rfl (playback_supplies _) fitting (playback_ready untidy)
  have sound : Extractor.verdict (marker.whole (Extractor.document untidy)) = .ok () := by
    decide +kernel
  have succeeded : ((extracting "http://e/".toList {}).after
      [.bind ({ pieces := untidy } : Playback)]).run.outcome = .ok () :=
    outcome.trans (congrArg reported sound)
  exact ⟨opened, succeeded, run_properties opened [.bind { pieces := untidy }] succeeded⟩

example : (marker.whole (Extractor.document untidy)).sent.reverse.filterMap Emission.topic? =
    [(some "http://e/".toList, "http://rdf.data-vocabulary.org/#x".toList),
      (some "http://e/".toList, "http://rdf.data-vocabulary.org/#y".toList),
      (some "http://e/".toList, "http://rdf.data-vocabulary.org/#z".toList),
      (some "http://e/".toList, "http://purl.org/dc/terms/title".toList)] := by decide +kernel

end Session
end Rdfa
