import Rdfa.Markup.Lexer

-- Two readings of the same markup, one of them with a start tag fewer that waits for its end tag. They take
-- the same steps until an end tag is left without any.
namespace Rdfa.Markup.Lexer

structure Lowered (l low : Lexer) : Prop where
  mode : low.mode = l.mode
  nesting : low.nesting + 1 = l.nesting

-- How a step goes when a start tag fewer waits. Where it was the last one, no end tag is left to take.
inductive Step.Lowers : Step → Step → Prop where
  | alike {next low : Lexer} {item item' : Option Item} (lowered : next.Lowered low)
      (same : item'.map (·.token) = item.map (·.token)) :
      Lowers (.ok (next, item)) (.ok (low, item'))
  | unmatched {next : Lexer} {item : Option Item} (last : next.nesting = 0) (position : Nat)
      (name : Text) : Lowers (.ok (next, item)) (.error ⟨position, .unmatchedClosing name⟩)
  | flawed (misread : Misread) (low : Step) : Lowers (.error misread) low

namespace Lowered

variable {l low : Lexer}

theorem stay (lowered : l.Lowered low) (mode : Mode) : (l.stay mode).Lowers (low.stay mode) :=
  .alike ⟨rfl, lowered.nesting⟩ rfl

theorem complete (lowered : l.Lowered low) (token : Token) :
    (l.complete token).Lowers (low.complete token) :=
  .alike ⟨rfl, lowered.nesting⟩ rfl

theorem completeOpening (lowered : l.Lowered low) (content : Bytes) :
    (l.completeOpening content).Lowers (low.completeOpening content) := by
  unfold Lexer.completeOpening
  split
  · exact lowered.complete _
  · exact .alike ⟨rfl, congrArg (· + 1) lowered.nesting⟩ rfl

-- Here alone it matters how many start tags wait.
theorem completeClosing (lowered : l.Lowered low) (content : Bytes) :
    (l.completeClosing content).Lowers (low.completeClosing content) := by
  have waiting := lowered.nesting
  unfold Lexer.completeClosing
  cases fewer : low.nesting with
  | zero =>
    rw [fewer] at waiting
    rw [← waiting]
    exact .unmatched rfl _ _
  | succ nesting =>
    rw [fewer] at waiting
    rw [← waiting]
    exact .alike ⟨rfl, rfl⟩ rfl

theorem inText (lowered : l.Lowered low) (content : Bytes) (b : UInt8) :
    (l.inText content b).Lowers (low.inText content b) := by
  unfold Lexer.inText
  split
  · refine .alike ⟨rfl, lowered.nesting⟩ ?_
    cases content <;> rfl
  · exact lowered.stay _

theorem inOpening (lowered : l.Lowered low) (content : Bytes) (quote : Option UInt8) (b : UInt8) :
    (l.inOpening content quote b).Lowers (low.inOpening content quote b) := by
  unfold Lexer.inOpening
  split
  · exact lowered.completeOpening content
  · exact lowered.stay _

theorem inClosing (lowered : l.Lowered low) (content : Bytes) (quote : Option UInt8) (b : UInt8) :
    (l.inClosing content quote b).Lowers (low.inClosing content quote b) := by
  unfold Lexer.inClosing
  split
  · exact lowered.completeClosing content
  · exact lowered.stay _

theorem inBracket (lowered : l.Lowered low) (b : UInt8) :
    (l.inBracket b).Lowers (low.inBracket b) := by
  unfold Lexer.inBracket
  split
  · exact lowered.stay _
  split
  · exact lowered.stay _
  split
  · exact lowered.stay _
  · exact lowered.inOpening [] none b

theorem inBang (lowered : l.Lowered low) (b : UInt8) : (l.inBang b).Lowers (low.inBang b) := by
  unfold Lexer.inBang
  split
  · exact lowered.stay _
  split
  · exact lowered.stay _
  split
  · exact lowered.stay _
  · exact .flawed _ _

theorem inComment (lowered : l.Lowered low) (content : Bytes) (b : UInt8) :
    (l.inComment content b).Lowers (low.inComment content b) := by
  unfold Lexer.inComment
  split
  · split
    · unfold completeComment
      split
      · exact lowered.complete .aside
      · exact .flawed _ _
    · exact lowered.stay _
  · exact lowered.stay _

theorem inCdata (lowered : l.Lowered low) (content : Bytes) (b : UInt8) :
    (l.inCdata content b).Lowers (low.inCdata content b) := by
  unfold Lexer.inCdata
  split
  · split
    · unfold completeCdata
      split
      · exact lowered.complete _
      · exact .flawed _ _
    · exact lowered.stay _
  · exact lowered.stay _

theorem completeDoctype (lowered : l.Lowered low) (content : Bytes) :
    (l.completeDoctype content).Lowers (low.completeDoctype content) := by
  unfold Lexer.completeDoctype
  dsimp only
  split
  · split
    · exact .flawed _ _
    · exact lowered.complete .aside
  · exact .flawed _ _

theorem inDoctype (lowered : l.Lowered low) (content : Bytes) (inner : Nat) (b : UInt8) :
    (l.inDoctype content inner b).Lowers (low.inDoctype content inner b) := by
  unfold Lexer.inDoctype
  split
  · exact lowered.stay _
  split
  · cases inner with
    | zero => exact lowered.completeDoctype content
    | succ inner => exact lowered.stay _
  · exact lowered.stay _

theorem inInstruction (lowered : l.Lowered low) (content : Bytes) (b : UInt8) :
    (l.inInstruction content b).Lowers (low.inInstruction content b) := by
  unfold Lexer.inInstruction
  split
  · unfold completeInstruction
    split
    · exact .flawed _ _
    · exact lowered.complete .aside
  · exact lowered.stay _

theorem step (lowered : l.Lowered low) (b : UInt8) : (l.step b).Lowers (low.step b) := by
  unfold Lexer.step
  rw [lowered.mode]
  cases l.mode with
  | text content => exact lowered.inText content b
  | bracket => exact lowered.inBracket b
  | bang => exact lowered.inBang b
  | comment content => exact lowered.inComment content b
  | cdata content => exact lowered.inCdata content b
  | doctype content inner => exact lowered.inDoctype content inner b
  | instruction content => exact lowered.inInstruction content b
  | opening content quote => exact lowered.inOpening content quote b
  | closing content quote => exact lowered.inClosing content quote b

theorem close (lowered : l.Lowered low) {item : Option Item} (closed : l.close = .ok item) :
    ∃ item', low.close = .ok item' ∧ item'.map (·.token) = item.map (·.token) := by
  unfold Lexer.close at closed ⊢
  rw [lowered.mode]
  cases mode : l.mode with
  | text content =>
    rw [mode] at closed
    cases closed
    refine ⟨_, rfl, ?_⟩
    cases content <;> rfl
  | _ =>
    rw [mode] at closed
    cases closed

end Lowered
end Rdfa.Markup.Lexer
