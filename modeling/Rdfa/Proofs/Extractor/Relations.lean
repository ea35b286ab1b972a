import Rdfa.Proofs.Document.Stages
import Rdfa.Proofs.Extractor.Evaluation

-- A relation that leads nowhere where it is written leads to the elements inside: to each that has no
-- other between, but for those that pass, and to nothing else.
namespace Rdfa

namespace Document

open Element

-- The relations of `e` are left to `d`, which is inside the elements `around`.
def Answers (e d : Entry) (around : List Entry) : Prop :=
  e.hangs = true ∧ d.passes = false ∧
    ∃ between outer, around = between ++ e :: outer ∧ ∀ b ∈ between, b.passes = true

variable (processing : Processing)

def Completes (d : Entry) (around : List Entry) : Prop :=
  ∃ target completed, d.subject processing = some target ∧
    Emission.factual (d.sent processing) = d.own processing ++ completed ∧
    (∀ e, Answers e d around →
      ∃ source, e.subject processing = some source ∧ completed = e.links source target) ∧
    ((∀ e, ¬Answers e d around) → completed = [])

variable {processing} {start : Place} {d : Entry} {around : List Entry}

theorem passing_or_split (around : List Entry) : (∀ b ∈ around, b.passes = true) ∨
    ∃ between e outer, around = between ++ e :: outer ∧ e.passes = false ∧
      ∀ b ∈ between, b.passes = true := by
  induction around with
  | nil => exact .inl fun b present => by cases present
  | cons b around ih =>
    cases passes : b.passes with
    | false => exact .inr ⟨[], b, around, rfl, passes, fun b present => by cases present⟩
    | true =>
      rcases ih with all | ⟨between, e, outer, rfl, stands, passing⟩
      · exact .inl (List.forall_mem_cons.mpr ⟨passes, all⟩)
      · exact .inr ⟨b :: between, e, outer, rfl, stands, List.forall_mem_cons.mpr ⟨passes, passing⟩⟩

theorem completed_of_answers (named : start.subject.isSome = true)
    (stands : Stands processing start d.place around) {e : Entry} (answers : Answers e d around)
    {target : Text} (speaks : d.subject processing = some target) :
    ∃ source, e.subject processing = some source ∧
      (d.reckoned processing).completed d.place.parent = e.links source target := by
  obtain ⟨hangs, standing, between, outer, rfl, passing⟩ := answers
  have found := stands.of_around.subject_isSome named
  obtain ⟨source, subject⟩ := e.exists_subject processing found
  have standsOut : e.place.isRoot = true ∨ e.passes = false := .inr (e.passes_of_hangs hangs)
  have handed := e.scope_of_stands processing subject standsOut
  have reached := stands.continues passing
  have waits : d.place.parent.incomplete = e.unanswered := calc
    d.place.parent.incomplete = (e.scope processing).incomplete := reached.incomplete
    _ = (e.reckoned processing).waiting e.attributes := e.incomplete_of_stands processing standsOut
    _ = e.unanswered := e.waiting_of_hangs processing hangs
  refine ⟨source, subject, ?_⟩
  rw [d.completed_of_stands processing speaks standing, e.completions_unanswered waits,
    reached.subject, handed.subject]

theorem completed_of_unanswered (named : start.subject.isSome = true)
    (nothing : start.parent.incomplete = []) (stands : Stands processing start d.place around)
    (unanswered : ∀ e, ¬Answers e d around) :
    (d.reckoned processing).completed d.place.parent = [] := by
  rcases passing_or_split around with all | ⟨between, e, outer, rfl, standsOut, passing⟩
  · exact d.completed_of_nothing processing (stands.incomplete_eq_nil nothing all)
  · have inside := stands.inside_of_around (by simp)
    cases passes : d.passes with
    | true => exact d.completed_of_passes processing inside passes
    | false =>
      have settled : e.hangs = false := Bool.eq_false_iff.mpr fun hangs =>
        unanswered e ⟨hangs, passes, between, outer, rfl, passing⟩
      have found := stands.of_around.subject_isSome named
      refine d.completed_of_nothing processing ?_
      calc
        d.place.parent.incomplete = (e.scope processing).incomplete :=
          (stands.continues passing).incomplete
        _ = (e.reckoned processing).waiting e.attributes :=
          e.incomplete_of_stands processing (.inr standsOut)
        _ = [] := e.waiting_of_settled processing found settled

theorem completes (named : start.subject.isSome = true) (nothing : start.parent.incomplete = [])
    (stands : Stands processing start d.place around) : Completes processing d around := by
  obtain ⟨target, subject⟩ := d.exists_subject processing (stands.subject_isSome named)
  exact ⟨target, _, subject, d.factual_sent processing,
    fun e answers => completed_of_answers named stands answers subject,
    completed_of_unanswered named nothing stands⟩

end Document

namespace Extractor

open Document Element

def stages (x : Extractor) (forest : Forest) : List Stage :=
  forest.stages x.processing (.outermost x.base) .none []

theorem sent_fed {x : Extractor} {forest : Forest} {items : List Markup.Item}
    (wellFormed : forest.WellFormed x.processing 0) (spelled : items.map (·.token) = forest.tokens) :
    ((x.fed items).close x.processing).sent.reverse =
      (x.stages forest).flatMap (Stage.sent x.processing) := by
  rw [fed_forest wellFormed spelled, close_of_empty rfl rfl rfl, stages, Forest.sent_stages]
  exact List.reverse_reverse _

theorem relations_are_completed {x : Extractor} {forest : Forest} {items : List Markup.Item}
    (wellFormed : forest.WellFormed x.processing 0) (spelled : items.map (·.token) = forest.tokens) :
    ((x.fed items).close x.processing).sent.reverse =
        (x.stages forest).flatMap (Stage.sent x.processing) ∧
      ∀ d around, .entered d around ∈ x.stages forest →
        Completes x.processing d around ∧
          (d.hangs = true → (d.reckoned x.processing).related d.attributes = []) := by
  refine ⟨sent_fed wellFormed spelled, fun d around entered => ⟨?_, fun hangs => ?_⟩⟩
  · have outermost : Stands x.processing (.outermost x.base) (.outermost x.base) [] := .outside x.base
    exact completes rfl rfl (Forest.stands_of_entered outermost entered)
  · exact d.related_of_hangs x.processing hangs

-- `<div rel="dc:relation"><b><p property="dc:title">a</p></b></div>`, where `b` passes.
def relating : StartTag :=
  ⟨⟨Markup.ascii "div rel=\"dc:relation\""⟩,
    [⟨Markup.ascii "rel", Markup.ascii "dc:relation"⟩], read_of_toOption (by decide +kernel)⟩

def bold : StartTag := ⟨⟨Markup.ascii "b"⟩, [], read_of_toOption (by decide +kernel)⟩

def hanging : Forest :=
  .element relating (.tag (Markup.ascii "div"))
    (.element bold (.tag (Markup.ascii "b"))
      (.element titled (.tag (Markup.ascii "p")) (.text (Markup.ascii "a") .nil) .nil) .nil) .nil

theorem hanging_wellFormed : hanging.WellFormed reader.processing 0 := by
  have lasts : ∀ start ∈ [relating, bold, titled],
      closesItself reader.processing start.tag.name ≠ true := by decide
  refine ⟨by decide, .tag (.inl (by decide)) (fun void => ?_), ⟨by decide,
    .tag (.inl (by decide)) (fun void => ?_), ⟨by decide, .tag (.inl (by decide)) (fun void => ?_),
      trivial, trivial⟩, trivial⟩, trivial⟩
  all_goals exact absurd void (lasts _ (by simp))

theorem hanging_is_completed :
    ((reader.fed (hanging.tokens.map (⟨0, ·⟩))).close reader.processing).sent.reverse =
        (reader.stages hanging).flatMap (Stage.sent reader.processing) ∧
      ∀ d around, .entered d around ∈ reader.stages hanging →
        Completes reader.processing d around ∧
          (d.hangs = true → (d.reckoned reader.processing).related d.attributes = []) := by
  have spelled : (hanging.tokens.map (⟨0, ·⟩ : Markup.Token → Markup.Item)).map (·.token) =
      hanging.tokens := by
    rw [List.map_map]
    exact List.map_id _
  exact relations_are_completed hanging_wellFormed spelled

example : ((reader.stages hanging).flatMap (Stage.sent reader.processing)).map (·.triple.object) =
    ["_:b0".toList, "a".toList] := by decide +kernel

end Extractor
end Rdfa
