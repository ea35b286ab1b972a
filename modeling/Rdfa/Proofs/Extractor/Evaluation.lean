import Rdfa.Proofs.Document.Evaluation
import Rdfa.Proofs.Extractor.Sending

-- An extractor that is given the tokens of a forest announces what evaluating the forest gives, and
-- nothing else, to any host that takes what it is told.
namespace Rdfa.Extractor

open Document

def fed (x : Extractor) (items : List Markup.Item) : Reading :=
  items.foldl (Reading.take x.processing) (.initial x.base)

theorem fed_forest {x : Extractor} {forest : Forest} {items : List Markup.Item}
    (wellFormed : forest.WellFormed x.processing 0) (spelled : items.map (·.token) = forest.tokens) :
    x.fed items =
      { Reading.initial x.base with
        processor := (Processor.initial x.base).after
          (forest.evaluateDocument x.processing x.base)
        sent := (forest.evaluateDocument x.processing x.base).sent.reverse } := by
  have lasting : (Processor.initial x.base).Lasting x.processing := by
    intro frame present
    cases present
  have reads := Processor.reads_forest (p := Processor.initial x.base) wellFormed lasting spelled
  rw [fed, Reading.foldl_take (r := .initial x.base) reads]
  simp [Reading.initial, Forest.evaluateDocument, Processor.initial, Processor.place]

theorem close_of_empty {processing : Processing} {r : Reading} (read : r.malformation = none)
    (outside : r.lexer = .initial) (done : r.processor.stack = []) : r.close processing = r := by
  have closed : r.lexer.close = .ok none := by
    rw [outside]
    rfl
  have finished : r.processor.finish processing = [] := by
    simp only [Processor.finish, Processor.remaining, Processor.ending, done]
    rfl
  simp only [Reading.close, read, closed, finished, List.reverse_nil, List.nil_append]
  rw [← read]

theorem conclude_evaluates {η : Type} [Hooks η] {willing : η → Prop}
    (accepts : Hooks.Accepts (fun _ => True) willing) {host : η} (ready : willing host)
    {x : Extractor} {forest : Forest} {items : List Markup.Item}
    (wellFormed : forest.WellFormed x.processing 0) (spelled : items.map (·.token) = forest.tokens) :
    (∃ last, (x.conclude (x.fed items)).play host =
      (.inl (.ok ()), last,
        (forest.evaluateDocument x.processing x.base).sent.map (.emitted · true))) ∧
      (x.fed items).processor.nodes = (forest.evaluateDocument x.processing x.base).nodes ∧
      (x.fed items).processor.stack = [] := by
  rw [fed_forest wellFormed spelled]
  refine ⟨?_, rfl, rfl⟩
  have fits : ∀ emission ∈ (forest.evaluateDocument x.processing x.base).sent, True :=
    fun _ _ => trivial
  obtain ⟨last, _, played⟩ := play_sendAll accepts fits (.stop (.ok ()) : Move Reading) ready
  refine ⟨last, ?_⟩
  unfold conclude
  rw [close_of_empty rfl rfl rfl]
  simpa [Reading.drain, Reading.initial, Move.play] using played

theorem read_of_toOption {tag : Markup.Tag} {attributes : List Markup.Attribute}
    (found : tag.attributes.toOption = some attributes) : tag.attributes = .ok attributes := by
  cases read : tag.attributes with
  | error flaw =>
    rw [read] at found
    cases found
  | ok given =>
    rw [read] at found
    cases found
    rfl

-- `<p property="dc:title">a<BR>b<i property="v:x">c</i></p>`, whose two literals share a text.
def titled : StartTag :=
  ⟨⟨Markup.ascii "p property=\"dc:title\""⟩, [⟨Markup.ascii "property", Markup.ascii "dc:title"⟩],
    read_of_toOption (by decide +kernel)⟩

def broken : StartTag := ⟨⟨Markup.ascii "BR"⟩, [], read_of_toOption (by decide +kernel)⟩

def named : StartTag :=
  ⟨⟨Markup.ascii "i property=\"v:x\""⟩, [⟨Markup.ascii "property", Markup.ascii "v:x"⟩],
    read_of_toOption (by decide +kernel)⟩

def nested : Forest :=
  .element titled (.tag (Markup.ascii "p"))
    (.text (Markup.ascii "a") (.element broken .none .nil (.text (Markup.ascii "b")
      (.element named (.tag (Markup.ascii "i")) (.text (Markup.ascii "c") .nil) .nil)))) .nil

def reader : Extractor := ⟨"http://e/".toList, {}, 16, false⟩

theorem nested_wellFormed : nested.WellFormed reader.processing 0 := by
  refine ⟨by decide, .tag (.inl (by decide)) (fun void => ?_), ⟨by decide, .none (by decide),
    trivial, by decide, .tag (.inl (by decide)) (fun void => ?_), trivial, trivial⟩, trivial⟩
  · exact absurd void (by decide)
  · exact absurd void (by decide)

theorem nested_evaluates :
    nested.WellFormed reader.processing 0 ∧
      (∃ last, (reader.conclude (reader.fed (nested.tokens.map (⟨0, ·⟩)))).play
          (Hooks.Feed.ofPieces []) =
        (.inl (.ok ()), last,
          (nested.evaluateDocument reader.processing reader.base).sent.map (.emitted · true))) ∧
      (reader.fed (nested.tokens.map (⟨0, ·⟩))).processor.nodes =
        (nested.evaluateDocument reader.processing reader.base).nodes ∧
      (reader.fed (nested.tokens.map (⟨0, ·⟩))).processor.stack = [] := by
  have spelled : (nested.tokens.map (⟨0, ·⟩ : Markup.Token → Markup.Item)).map (·.token) =
      nested.tokens := by
    rw [List.map_map]
    exact List.map_id _
  exact ⟨nested_wellFormed, conclude_evaluates Hooks.Feed.accepts rfl nested_wellFormed spelled⟩

example : (nested.evaluateDocument reader.processing reader.base).sent.map (·.triple.object) =
    ["c".toList, "abc".toList] := by decide +kernel

end Rdfa.Extractor
