import Mathlib.Data.List.Forall2
import Rdfa.Proofs.Extractor.Evaluation

-- Elements that the end of the input closes end as by their own end tags, innermost first. All that is
-- said beyond that is that they were open.
namespace Rdfa

open Document

namespace Document.Processor

variable {processing : Processing}

def Closes (processing : Processing) (opened : List Frame) (items : List Markup.Item) : Prop :=
  List.Forall₂ (fun frame item => ∃ name, item.token = .closing name ∧
    answers processing frame name = true) opened items

theorem step_answered {p : Processor} {frame : Frame} {rest : List Frame} {item : Markup.Item}
    {name : Bytes} (top : p.stack = frame :: rest) (token : item.token = .closing name)
    (answered : answers processing frame name = true) :
    p.step processing item =
      .ok ({ p with stack := rest }, frame.pending.elim [] (·.emissions)) := by
  simp only [step, token, closeElement, top, answered, if_true, closeTop]

theorem reads_closes (p : Processor) {opened : List Frame} {items : List Markup.Item}
    (closes : Closes processing opened items) :
    ({ p with stack := opened } : Processor).Reads processing items { p with stack := [] }
      ({ p with stack := opened } : Processor).remaining := by
  -- The induction is on the elements that stand open; each end tag announces the literal of one.
  induction closes with
  | nil => exact .nil
  | @cons frame item rest items here _ ih =>
    obtain ⟨name, token, answered⟩ := here
    exact .cons (step_answered rfl token answered) ih

def unclosed (processing : Processing) (p : Processor) : List Emission :=
  if processing.announceWarnings = true then
    let node := Element.Nodes.name p.nodes.minted
    [⟨.processor, Element.link node Vocabulary.rdfType Warning.Kind.documentError.iri⟩,
      ⟨.processor, Element.literal node Vocabulary.description
        (Warning.unclosedElements p.stack.length).message none none⟩]
  else []

theorem finish_of_open {p : Processor} (opened : p.stack ≠ []) :
    p.finish processing = p.remaining ++ p.unclosed processing := by
  have many : p.stack.length ≠ 0 := by
    intro empty
    exact opened (List.length_eq_zero_iff.mp empty)
  unfold finish ending unclosed
  simp only [many, if_false]
  congr 1
  by_cases warns : processing.announceWarnings = true
  · simp [Element.warn, warns]
    rfl
  · simp [Element.warn, warns]
    rfl

end Document.Processor

namespace Document.Reading

variable {processing : Processing} {r : Reading} {items : List Markup.Item}

theorem reads_of_sound (sound : (items.foldl (take processing) r).malformation = none) :
    r.malformation = none ∧ ∃ last sent, r.processor.Reads processing items last sent := by
  induction items generalizing r with
  | nil => exact ⟨sound, r.processor, [], .nil⟩
  | cons item rest ih =>
    obtain ⟨here, last, more, later⟩ := ih sound
    refine ⟨sound_of_take here, ?_⟩
    unfold take at here later
    cases step : r.processor.step processing item with
    | error refusal =>
      simp only [step] at here
      cases here
    | ok result =>
      rcases result with ⟨next, sent⟩
      simp only [step] at later
      exact ⟨last, sent ++ more, .cons step later⟩

end Document.Reading

namespace Extractor

variable {η : Type} [Hooks η] {willing : η → Prop} {host : η} {x : Extractor}
  {items ends : List Markup.Item}

theorem fed_of_reads {last : Processor} {sent : List Emission}
    (reads : (Processor.initial x.base).Reads x.processing items last sent) :
    x.fed items =
      { Reading.initial x.base with processor := last, sent := sent.reverse } := by
  rw [fed, Reading.foldl_take (r := .initial x.base) reads]
  simp [Reading.initial]

theorem play_conclude (accepts : Hooks.Accepts (fun _ => True) willing) (ready : willing host)
    {last : Processor} {sent : List Emission}
    (reads : (Processor.initial x.base).Reads x.processing items last sent) :
    ∃ done, (x.conclude (x.fed items)).play host =
      (.inl (.ok ()), done, (sent ++ last.finish x.processing).map (.emitted · true)) := by
  have fits : ∀ emission ∈ sent ++ last.finish x.processing, True := fun _ _ => trivial
  obtain ⟨done, _, played⟩ := play_sendAll accepts fits (.stop (.ok ()) : Move Reading) ready
  refine ⟨done, ?_⟩
  have closed : (x.fed items).close x.processing =
      { Reading.initial x.base with
        processor := last
        sent := (sent ++ last.finish x.processing).reverse } := by
    rw [fed_of_reads reads, List.reverse_append]
    rfl
  unfold conclude
  rw [closed]
  simpa [Reading.drain, Reading.initial, Move.play] using played

theorem conclude_closes (accepts : Hooks.Accepts (fun _ => True) willing) (ready : willing host)
    (accepted : (x.fed items).malformation = none) (opened : (x.fed items).processor.stack ≠ [])
    (closes : Processor.Closes x.processing (x.fed items).processor.stack ends) :
    ∃ sent first second,
      (x.conclude (x.fed (items ++ ends))).play host =
        (.inl (.ok ()), first, sent.map (.emitted · true)) ∧
      (x.conclude (x.fed items)).play host =
        (.inl (.ok ()), second,
          (sent ++ (x.fed items).processor.unclosed x.processing).map (.emitted · true)) ∧
      (x.fed (items ++ ends)).processor = { (x.fed items).processor with stack := [] } := by
  obtain ⟨_, last, sent, reads⟩ := Reading.reads_of_sound accepted
  have reached : (x.fed items).processor = last := by rw [fed_of_reads reads]
  rw [reached] at opened closes ⊢
  have further := reads.append (last.reads_closes closes)
  obtain ⟨first, closed⟩ := play_conclude accepts ready further
  obtain ⟨second, unclosed⟩ := play_conclude accepts ready reads
  have nothing : ({ last with stack := [] } : Processor).finish x.processing = [] := rfl
  rw [nothing, List.append_nil] at closed
  rw [Processor.finish_of_open opened, ← List.append_assoc] at unclosed
  refine ⟨sent ++ last.remaining, first, second, closed, unclosed, ?_⟩
  rw [fed_of_reads further]

-- `<p property="dc:title">a<i property="v:x">b`, cut off inside two literals.
def cutOff : List Markup.Item :=
  [.opening titled.tag, .text (Markup.ascii "a"), .opening named.tag,
    .text (Markup.ascii "b")].map (⟨0, ·⟩)

-- `</I></p>`
def endTags : List Markup.Item :=
  [.closing (Markup.ascii "I"), .closing (Markup.ascii "p")].map (⟨0, ·⟩)

theorem cutOff_closes :
    (reader.fed cutOff).malformation = none ∧ (reader.fed cutOff).processor.stack ≠ [] ∧
      Processor.Closes reader.processing (reader.fed cutOff).processor.stack endTags ∧
      ∃ sent first second,
        (reader.conclude (reader.fed (cutOff ++ endTags))).play (Hooks.Feed.ofPieces []) =
          (.inl (.ok ()), first, sent.map (.emitted · true)) ∧
        (reader.conclude (reader.fed cutOff)).play (Hooks.Feed.ofPieces []) =
          (.inl (.ok ()), second,
            (sent ++ (reader.fed cutOff).processor.unclosed reader.processing).map
              (.emitted · true)) ∧
        (reader.fed (cutOff ++ endTags)).processor =
          { (reader.fed cutOff).processor with stack := [] } := by
  have accepted : (reader.fed cutOff).malformation = none := by decide +kernel
  have opened : (reader.fed cutOff).processor.stack ≠ [] := by decide +kernel
  have names : (reader.fed cutOff).processor.stack.map (·.name) =
      [Markup.ascii "i", Markup.ascii "p"] := by decide +kernel
  have closes : Processor.Closes reader.processing (reader.fed cutOff).processor.stack endTags := by
    obtain ⟨inner, others, stack, innermost, rest⟩ := List.map_eq_cons_iff.mp names
    obtain ⟨outer, behind, rfl, outermost, nothing⟩ := List.map_eq_cons_iff.mp rest
    cases List.map_eq_nil_iff.mp nothing
    rw [stack]
    refine .cons ⟨_, rfl, ?_⟩ (.cons ⟨_, rfl, ?_⟩ .nil)
    · rw [Processor.answers, innermost]
      decide
    · rw [Processor.answers, outermost]
      decide
  exact ⟨accepted, opened, closes, conclude_closes Hooks.Feed.accepts rfl accepted opened closes⟩

end Extractor
end Rdfa
