import Rdfa.Document.Reading
import Rdfa.Proofs.Document.Steps
import Rdfa.Proofs.Markup.Names

-- Which end tags are let pass though no open element answers them, and which start tags end their element
-- at once. The one looks behind the last colon of the name, the other behind the first.
namespace Rdfa

namespace Markup

theorem colon_mem_localName {name : Bytes} : 0x3A ∈ localName name ↔ 2 ≤ name.count 0x3A := by
  have parts := List.takeWhile_append_dropWhile (p := (· ≠ (0x3A : UInt8))) (l := name)
  have front : (name.takeWhile (· ≠ 0x3A)).count 0x3A = 0 := by
    rw [List.count_eq_zero]
    intro inside
    have other := List.all_eq_true.mp List.all_takeWhile _ inside
    simp at other
  unfold localName
  cases found : name.dropWhile (· ≠ 0x3A) with
  | nil =>
    rw [found, List.append_nil] at parts
    rw [parts] at front
    dsimp only
    rw [← List.count_pos_iff, front]
    omega
  | cons colon rest =>
    have isColon : colon = 0x3A := by
      have stopped := List.head?_dropWhile_not (· ≠ (0x3A : UInt8)) name
      rw [found] at stopped
      simpa using stopped
    dsimp only
    rw [← parts, found, isColon, List.count_append, front, List.count_cons_self,
      ← List.count_pos_iff]
    omega

end Markup

namespace Document

theorem isVoid_lastName_iff {name : Bytes} :
    isVoid (Markup.lastName name) = true ↔
      isVoid (Markup.localName name) = true ∨
        2 ≤ name.count 0x3A ∧ isVoid (Markup.lastName name) = true := by
  constructor
  · intro void
    by_cases single : 0x3A ∈ Markup.localName name
    · exact .inr ⟨Markup.colon_mem_localName.mp single, void⟩
    · rw [Markup.lastName_eq_localName single] at void
      exact .inl void
  · rintro (void | ⟨_, void⟩)
    · exact isVoid_lastName void
    · exact void

namespace Processor

variable {processing : Processing} {p q next : Processor} {item : Markup.Item} {tag : Markup.Tag}
  {name : Bytes} {sent : List Emission}

theorem step_unanswered (letters : processing.voidElements = true)
    (closing : item.token = .closing name)
    (unanswered : ∀ frame ∈ q.stack.head?, answers processing frame name = false) :
    q.step processing item = .ok (q, []) ↔ isVoid (Markup.lastName name) = true := by
  have none_answers : ¬ ∃ frame ∈ q.stack.head?, answers processing frame name = true := by
    rintro ⟨frame, top, answered⟩
    rw [unanswered frame top] at answered
    cases answered
  simp only [step, closing, closeElement_eq_ok_iff, none_answers, letters, false_and, false_or,
    Bool.true_and, and_true]
  exact and_iff_right unanswered

theorem stack_of_opening (opening : item.token = .opening tag)
    (opened : p.step processing item = .ok (next, sent)) :
    if (processing.voidElements && isVoid (Markup.localName tag.name)) = true
    then next.stack = p.stack
    else ∃ frame : Frame, frame.name = tag.name ∧ next.stack = frame :: p.stack := by
  simp only [step, opening] at opened
  split at opened
  · next void =>
    rw [if_pos void]
    exact stack_of_thenClose opened
  · next void =>
    rw [if_neg void]
    exact stack_of_openElement opened

theorem closed_iff (letters : processing.voidElements = true) (opening : item.token = .opening tag)
    (opened : p.step processing item = .ok (next, sent)) :
    next.stack = p.stack ↔ isVoid (Markup.localName tag.name) = true := by
  have made := stack_of_opening opening opened
  rw [letters, Bool.true_and] at made
  split at made
  · next void => exact ⟨fun _ => void, fun _ => made⟩
  · next void =>
    obtain ⟨frame, _, stack⟩ := made
    rw [stack]
    refine ⟨?_, fun void' => absurd void' void⟩
    intro same
    exact absurd (congrArg List.length same) (by simp)

-- An end tag that nothing answers is let pass where a start tag of its name is closed at once, and beyond
-- that where two or more colons come before the name of a void element.
theorem unanswered_passes_iff (letters : processing.voidElements = true) {first last : Markup.Item}
    (opening : first.token = .opening tag) (opened : p.step processing first = .ok (next, sent))
    (closing : last.token = .closing tag.name)
    (unanswered : ∀ frame ∈ q.stack.head?, answers processing frame tag.name = false) :
    q.step processing last = .ok (q, []) ↔
      next.stack = p.stack ∨
        2 ≤ tag.name.count 0x3A ∧ isVoid (Markup.lastName tag.name) = true := by
  rw [step_unanswered letters closing unanswered, closed_iff letters opening opened]
  exact isVoid_lastName_iff

-- `<a:b:br>` is no void element, yet inside `<p>` the end tag `</a:b:br>` is let pass.
def twoColons : Markup.Tag := ⟨Markup.ascii "a:b:br"⟩

def untouched : Processor := .initial "http://e/".toList

def insideP : Processor :=
  { untouched with stack := [⟨Markup.ascii "p", Scope.root untouched.base, none⟩] }

theorem twoColons_opened : ∃ next sent,
    untouched.step {} ⟨0, .opening twoColons⟩ = .ok (next, sent) := by
  have sound : (untouched.step {} ⟨0, .opening twoColons⟩).toOption.isSome = true := by
    decide +kernel
  cases opened : untouched.step {} ⟨0, .opening twoColons⟩ with
  | error refusal =>
    rw [opened] at sound
    cases sound
  | ok result => exact ⟨result.1, result.2, rfl⟩

theorem insideP_unanswered :
    ∀ frame ∈ insideP.stack.head?, answers {} frame twoColons.name = false := by
  rintro frame ⟨⟩
  decide

theorem twoColons_passes : ∃ next sent,
    untouched.step {} ⟨0, .opening twoColons⟩ = .ok (next, sent) ∧
      (∀ frame ∈ insideP.stack.head?, answers {} frame twoColons.name = false) ∧
      (insideP.step {} ⟨11, .closing twoColons.name⟩ = .ok (insideP, []) ↔
        next.stack = untouched.stack ∨
          2 ≤ twoColons.name.count 0x3A ∧ isVoid (Markup.lastName twoColons.name) = true) := by
  obtain ⟨next, sent, opened⟩ := twoColons_opened
  refine ⟨next, sent, opened, insideP_unanswered, ?_⟩
  exact unanswered_passes_iff rfl rfl opened rfl insideP_unanswered

theorem twoColons_not_closed :
    (∃ next sent, untouched.step {} ⟨0, .opening twoColons⟩ = .ok (next, sent) ∧
      next.stack ≠ untouched.stack) ∧
      (∀ frame ∈ insideP.stack.head?, answers {} frame twoColons.name = false) ∧
      insideP.step {} ⟨11, .closing twoColons.name⟩ = .ok (insideP, []) ∧
      ((Reading.initial untouched.base).read {}
        (Markup.ascii "<a:b:br><p></a:b:br></p>")).malformation = none := by
  obtain ⟨next, sent, opened⟩ := twoColons_opened
  refine ⟨⟨next, sent, opened, ?_⟩, insideP_unanswered, ?_, by decide +kernel⟩
  · rw [Ne, closed_iff rfl rfl opened]
    decide
  · rw [step_unanswered rfl rfl insideP_unanswered]
    decide

end Processor
end Document
end Rdfa
