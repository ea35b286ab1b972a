import Rdfa.Document.Reading

-- What a tag comes to when it shows no flaw, and what it makes of the open elements. Where the tag stands
-- plays no part in it.
namespace Rdfa

def Markup.Token.start? : Markup.Token → Option Markup.Tag
  | .opening tag | .standalone tag => some tag
  | .closing _ | .text _ | .cdata _ | .aside => none

namespace Document
namespace Processor

variable {processing : Processing} {p next : Processor} {position : Nat} {tag : Markup.Tag}
  {name : Bytes} {sent : List Emission} {result : Processor × List Emission} {item : Markup.Item}
  {refusal : Refusal}

theorem openElement_eq_ok_iff :
    p.openElement processing position tag = .ok result ↔
      p.stack.length < processing.maxDepth ∧ ∃ attributes, tag.attributes = .ok attributes ∧
        p.enter processing tag.name (.ofMarkup attributes) = result := by
  unfold openElement
  by_cases room : p.stack.length < processing.maxDepth
  · have within : ¬ processing.maxDepth ≤ p.stack.length := Nat.not_le.mpr room
    cases tag.attributes <;> simp [room, within]
  · have full : processing.maxDepth ≤ p.stack.length := Nat.not_lt.mp room
    simp [room, full]

theorem openElement_eq_error_iff :
    p.openElement processing position tag = .error refusal ↔
      processing.maxDepth ≤ p.stack.length ∧ refusal = p.refusal position (.tooDeep processing.maxDepth) ∨
      p.stack.length < processing.maxDepth ∧ ∃ flaw, tag.attributes = .error flaw ∧
        refusal = p.refusal position (.attributes flaw) := by
  unfold openElement
  by_cases room : p.stack.length < processing.maxDepth
  · have within : ¬ processing.maxDepth ≤ p.stack.length := Nat.not_le.mpr room
    cases tag.attributes <;> simp [room, within, eq_comm]
  · have full : processing.maxDepth ≤ p.stack.length := Nat.not_lt.mp room
    simp [room, full, eq_comm]

theorem thenClose_eq_ok_iff {step : Step} :
    thenClose step = .ok result ↔
      ∃ q first, step = .ok (q, first) ∧ (q.closeTop.1, first ++ q.closeTop.2) = result := by
  cases step with
  | error refusal => simp [thenClose, Except.map]
  | ok opened =>
    constructor
    · intro closed
      exact ⟨opened.1, opened.2, rfl, Except.ok.inj closed⟩
    · rintro ⟨q, first, ⟨⟩, same⟩
      exact congrArg Except.ok same

theorem thenClose_eq_error_iff {step : Step} :
    thenClose step = .error refusal ↔ step = .error refusal := by
  cases step <;> simp [thenClose, Except.map]

theorem closeElement_eq_ok_iff :
    p.closeElement processing position name = .ok result ↔
      (∃ frame ∈ p.stack.head?, answers processing frame name = true) ∧ p.closeTop = result ∨
      (∀ frame ∈ p.stack.head?, answers processing frame name = false) ∧
        (processing.voidElements && isVoid (Markup.lastName name)) = true ∧ (p, []) = result := by
  unfold closeElement
  dsimp only
  generalize (processing.voidElements && isVoid (Markup.lastName name)) = tolerated
  cases stack : p.stack with
  | nil => cases tolerated <;> simp
  | cons frame rest =>
    by_cases answered : answers processing frame name = true
    · simp [answered]
    · cases tolerated <;> simp [answered]

theorem closeElement_eq_error_iff :
    p.closeElement processing position name = .error refusal ↔
      (∀ frame ∈ p.stack.head?, answers processing frame name = false) ∧
        (processing.voidElements && isVoid (Markup.lastName name)) = false ∧
        refusal = p.refusal position
          (p.stack.head?.elim (.unexpected name) fun frame => .mismatched frame.name name) := by
  unfold closeElement
  dsimp only
  generalize (processing.voidElements && isVoid (Markup.lastName name)) = tolerated
  cases stack : p.stack with
  | nil => cases tolerated <;> simp [@eq_comm _ refusal]
  | cons frame rest =>
    by_cases answered : answers processing frame name = true
    · simp [answered]
    · cases tolerated <;> simp [answered, @eq_comm _ refusal]

@[simp] theorem rebase_stack (attributes : Element.Attributes) :
    (p.rebase name attributes).stack = p.stack := by
  unfold rebase
  split <;> rfl

theorem enter_stack (attributes : Element.Attributes) :
    ∃ frame : Frame, frame.name = name ∧
      (p.enter processing name attributes).1.stack = frame :: p.stack :=
  ⟨_, rfl, congrArg (List.cons _) (rebase_stack attributes)⟩

theorem stack_of_openElement
    (opened : p.openElement processing position tag = .ok (next, sent)) :
    ∃ frame : Frame, frame.name = tag.name ∧ next.stack = frame :: p.stack := by
  obtain ⟨_, attributes, _, entered⟩ := openElement_eq_ok_iff.mp opened
  have reached : ∃ frame : Frame, frame.name = tag.name ∧
      (p.enter processing tag.name (.ofMarkup attributes)).1.stack = frame :: p.stack :=
    enter_stack _
  rwa [entered] at reached

theorem stack_of_thenClose
    (closed : thenClose (p.openElement processing position tag) = .ok (next, sent)) :
    next.stack = p.stack := by
  obtain ⟨q, first, opened, same⟩ := thenClose_eq_ok_iff.mp closed
  obtain ⟨frame, _, stack⟩ := stack_of_openElement opened
  have closing : q.closeTop.1 = next := congrArg Prod.fst same
  rw [← closing, closeTop, stack]

theorem step_of_start (starts : item.token.start? = some tag) :
    p.step processing item = p.openElement processing item.position tag ∨
      p.step processing item = thenClose (p.openElement processing item.position tag) := by
  unfold Processor.step
  cases token : item.token <;> rw [token] at starts <;> cases starts
  case opening =>
    dsimp only
    split
    · exact .inr rfl
    · exact .inl rfl
  case standalone => exact .inr rfl

-- Nothing else is looked at before a start tag is refused.
theorem step_eq_error_iff (starts : item.token.start? = some tag) :
    p.step processing item = .error refusal ↔
      processing.maxDepth ≤ p.stack.length ∧
        refusal = p.refusal item.position (.tooDeep processing.maxDepth) ∨
      p.stack.length < processing.maxDepth ∧ ∃ flaw, tag.attributes = .error flaw ∧
        refusal = p.refusal item.position (.attributes flaw) := by
  rcases step_of_start starts with opens | opens <;> rw [opens]
  · exact openElement_eq_error_iff
  · exact thenClose_eq_error_iff.trans openElement_eq_error_iff

theorem entered_of_start (starts : item.token.start? = some tag)
    (step : p.step processing item = .ok (next, sent)) :
    ∃ attributes, tag.attributes = .ok attributes ∧
      (next = (p.enter processing tag.name (.ofMarkup attributes)).1 ∨
        next = (p.enter processing tag.name (.ofMarkup attributes)).1.closeTop.1) := by
  rcases step_of_start starts with opens | opens <;> rw [opens] at step
  · obtain ⟨_, attributes, read, entered⟩ := openElement_eq_ok_iff.mp step
    exact ⟨attributes, read, .inl (congrArg Prod.fst entered).symm⟩
  · obtain ⟨q, first, opened, same⟩ := thenClose_eq_ok_iff.mp step
    obtain ⟨_, attributes, read, entered⟩ := openElement_eq_ok_iff.mp opened
    refine ⟨attributes, read, .inr ?_⟩
    rw [entered]
    exact (congrArg Prod.fst same).symm

-- Any other token leaves an element, is text for those that are open, or does nothing.
theorem reached_of_no_start (starts : item.token.start? = none)
    (step : p.step processing item = .ok (next, sent)) :
    next = p.closeTop.1 ∨ next = p ∨ ∃ text, next = p.appendText text := by
  unfold Processor.step at step
  cases token : item.token with
  | opening tag | standalone tag =>
    rw [token] at starts
    cases starts
  | closing name =>
    rw [token] at step
    rcases closeElement_eq_ok_iff.mp step with ⟨_, closed⟩ | ⟨_, _, same⟩
    · exact .inl (congrArg Prod.fst closed).symm
    · exact .inr (.inl (congrArg Prod.fst same).symm)
  | text bytes | cdata bytes =>
    rw [token] at step
    cases step
    exact .inr (.inr ⟨_, rfl⟩)
  | aside =>
    rw [token] at step
    cases step
    exact .inr (.inl rfl)

theorem closing_of_refusal (starts : item.token.start? = none)
    (failed : p.step processing item = .error refusal) :
    ∃ name, item.token = .closing name ∧
      (∀ frame ∈ p.stack.head?, answers processing frame name = false) ∧
        (processing.voidElements && isVoid (Markup.lastName name)) = false ∧
        refusal = p.refusal item.position
          (p.stack.head?.elim (.unexpected name) fun frame => .mismatched frame.name name) := by
  unfold Processor.step at failed
  cases token : item.token with
  | opening tag | standalone tag =>
    rw [token] at starts
    cases starts
  | closing name =>
    rw [token] at failed
    exact ⟨name, rfl, closeElement_eq_error_iff.mp failed⟩
  | text bytes | cdata bytes | aside =>
    rw [token] at failed
    cases failed

-- A token is refused before anything is done about it.
theorem refusal_of_step (failed : p.step processing item = .error refusal) :
    ∃ flaw, refusal = p.refusal item.position flaw := by
  cases starts : item.token.start? with
  | some tag =>
    rcases (step_eq_error_iff starts).mp failed with ⟨_, same⟩ | ⟨_, flaw, _, same⟩
    · exact ⟨_, same⟩
    · exact ⟨_, same⟩
  | none =>
    obtain ⟨_, _, _, _, same⟩ := closing_of_refusal starts failed
    exact ⟨_, same⟩

end Processor

theorem Reading.take_of_error {processing : Processing} {r : Reading} {item : Markup.Item}
    {refusal : Processor.Refusal} (failed : r.processor.step processing item = .error refusal) :
    r.take processing item = r.fail refusal.malformation := by
  obtain ⟨flaw, rfl⟩ := Processor.refusal_of_step failed
  simp only [take, failed, Processor.refusal, List.reverse_nil, List.nil_append]

end Document
end Rdfa
