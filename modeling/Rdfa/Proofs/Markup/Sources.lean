import Rdfa.Markup.Lexer

-- Where tokens stand in the markup: a token is reported at the offset of its first byte, whatever came
-- before it, and the bytes from there on are what it is written as.
namespace Rdfa.Markup

inductive Token.Written : Token → Bytes → Prop where
  | opening (tag : Tag) : Written (.opening tag) ([0x3C] ++ tag.content ++ [0x3E])
  | standalone (tag : Tag) : Written (.standalone tag) ([0x3C] ++ tag.content ++ [0x2F, 0x3E])
  | closing (name : Bytes) {blanks : Bytes} (blank : ∀ b ∈ blanks, isBlank b = true) :
      Written (.closing name) ([0x3C, 0x2F] ++ name ++ blanks ++ [0x3E])
  | text (bytes : Bytes) : Written (.text bytes) bytes
  | cdata (bytes : Bytes) : Written (.cdata bytes) (ascii "<![CDATA[" ++ bytes ++ ascii "]]>")
  | aside (content : Bytes) : Written .aside ([0x3C] ++ content ++ [0x3E])

def Mode.source : Mode → Bytes
  | .text content => content.reverse
  | .bracket => [0x3C]
  | .bang => [0x3C, 0x21]
  | .comment content | .cdata content | .doctype content _ => [0x3C, 0x21] ++ content.reverse
  | .instruction content | .opening content _ => [0x3C] ++ content.reverse
  | .closing content _ => [0x3C, 0x2F] ++ content.reverse

namespace Lexer

structure Behind (l : Lexer) (before source : Bytes) : Prop where
  start : l.start = before.length
  underWay : l.mode.source = source
  offset : l.offset = (before ++ source).length

-- What one more byte leads to: it goes on with the token under way, it ends the text in front of it, or it
-- is the last byte of the token.
inductive Moved (before source : Bytes) (b : UInt8) (next : Lexer) : Option Item → Prop where
  | longer (behind : next.Behind before (source ++ [b])) : Moved before source b next none
  | afterText (behind : next.Behind (before ++ source) [b]) :
      Moved before source b next (some ⟨before.length, .text source⟩)
  | completed {token : Token} (written : token.Written (source ++ [b]))
      (behind : next.Behind (before ++ (source ++ [b])) []) :
      Moved before source b next (some ⟨before.length, token⟩)

def Step.Moves (before source : Bytes) (b : UInt8) (step : Step) : Prop :=
  ∀ next item, step = .ok (next, item) → Moved before source b next item

variable {l : Lexer} {before source content : Bytes} {b : UInt8}

theorem behind_initial : initial.Behind [] [] := ⟨rfl, rfl, rfl⟩

theorem moves_error (misread : Misread) : Step.Moves before source b (.error misread) := by
  rintro next item ⟨⟩

theorem closingName_written (content : Bytes) :
    (Token.closing (closingName content)).Written ([0x3C, 0x2F] ++ content.reverse ++ [0x3E]) := by
  unfold closingName
  split
  · have blank : ∀ b ∈ ([] : Bytes), isBlank b = true := by simp
    have written := Token.Written.closing content.reverse blank
    rwa [List.append_nil] at written
  · have parts := List.takeWhile_append_dropWhile (p := isBlank) (l := content)
    have blank : ∀ b ∈ (content.takeWhile isBlank).reverse, isBlank b = true := by
      intro b inside
      exact List.all_eq_true.mp List.all_takeWhile b (List.mem_reverse.mp inside)
    have written := Token.Written.closing (content.dropWhile isBlank).reverse blank
    rwa [List.append_assoc [0x3C, 0x2F], ← List.reverse_append, parts] at written

theorem cdata_written {content : Bytes}
    (begun : ascii "[CDATA[" <+: (0x5D :: 0x5D :: content : Bytes).reverse) :
    (Token.cdata (content.reverse.drop 7)).Written
      ([0x3C, 0x21] ++ (0x5D :: 0x5D :: content : Bytes).reverse ++ [0x3E]) := by
  have inside : ascii "[CDATA[" <+: content.reverse := by
    rw [List.reverse_cons, List.reverse_cons, List.prefix_concat_iff, List.prefix_concat_iff] at begun
    rcases begun with whole | whole | inside
    · exact absurd (congrArg List.getLast? whole) (by rw [List.getLast?_concat]; decide)
    · exact absurd (congrArg List.getLast? whole) (by rw [List.getLast?_concat]; decide)
    · exact inside
  obtain ⟨bytes, split⟩ := inside
  have dropped : content.reverse.drop 7 = bytes := by
    rw [← split]
    rfl
  rw [dropped, List.reverse_cons, List.reverse_cons, ← split]
  have opened : ascii "<![CDATA[" = [0x3C, 0x21] ++ ascii "[CDATA[" := rfl
  have closed : ascii "]]>" = [0x5D] ++ [0x5D] ++ [0x3E] := rfl
  have written := Token.Written.cdata bytes
  rw [opened, closed] at written
  simpa only [List.append_assoc] using written

namespace Behind

theorem next (behind : l.Behind before source) :
    l.offset + 1 = (before ++ (source ++ [b])).length := by
  rw [behind.offset]
  simp only [List.length_append, List.length_singleton]
  omega

theorem stay (behind : l.Behind before source) {mode : Mode} (longer : mode.source = source ++ [b]) :
    (l.stay mode).Moves before source b := by
  rintro next item ⟨⟩
  exact .longer ⟨behind.start, longer, behind.next⟩

theorem complete (behind : l.Behind before source) {token : Token}
    (written : token.Written (source ++ [b])) (nesting : Nat) :
    (l.complete token nesting).Moves before source b := by
  rintro next item ⟨⟩
  have offset : l.offset + 1 = (before ++ (source ++ [b])).length := behind.next
  rw [behind.start]
  exact .completed written ⟨offset, rfl, by rw [List.append_nil]; exact offset⟩

theorem inText (behind : l.Behind before content.reverse) :
    (l.inText content b).Moves before content.reverse b := by
  unfold Lexer.inText
  split
  · next bracket =>
    rintro next item ⟨⟩
    have offset : l.offset + 1 = (before ++ content.reverse ++ [b]).length := by
      rw [List.append_assoc]
      exact behind.next
    have behindText : (⟨l.offset + 1, l.offset, l.nesting, .bracket⟩ : Lexer).Behind
        (before ++ content.reverse) [b] := ⟨behind.offset, by rw [bracket]; rfl, offset⟩
    cases content with
    | nil =>
      rw [List.reverse_nil, List.append_nil] at behindText
      exact .longer behindText
    | cons last earlier =>
      rw [behind.start]
      exact .afterText behindText
  · exact behind.stay List.reverse_cons

theorem completeOpening (behind : l.Behind before ([0x3C] ++ content.reverse)) :
    (l.completeOpening content).Moves before ([0x3C] ++ content.reverse) 0x3E := by
  unfold Lexer.completeOpening
  split
  · next rest =>
    refine behind.complete ?_ l.nesting
    have written := Token.Written.standalone ⟨rest.reverse⟩
    simpa using written
  · exact behind.complete (.opening ⟨content.reverse⟩) (l.nesting + 1)

theorem inOpening (behind : l.Behind before ([0x3C] ++ content.reverse)) (quote : Option UInt8) :
    (l.inOpening content quote b).Moves before ([0x3C] ++ content.reverse) b := by
  unfold Lexer.inOpening
  split
  · next last =>
    rw [last.1]
    exact behind.completeOpening
  · exact behind.stay (by simp [Mode.source])

theorem inBracket (behind : l.Behind before [0x3C]) : (l.inBracket b).Moves before [0x3C] b := by
  unfold Lexer.inBracket
  split
  · next bang => exact behind.stay (by rw [bang]; rfl)
  split
  · next slash => exact behind.stay (by rw [slash]; rfl)
  split
  · exact behind.stay rfl
  · exact behind.inOpening none

theorem inBang (behind : l.Behind before [0x3C, 0x21]) :
    (l.inBang b).Moves before [0x3C, 0x21] b := by
  unfold Lexer.inBang
  split
  · exact behind.stay rfl
  split
  · exact behind.stay rfl
  split
  · exact behind.stay rfl
  · exact moves_error _

theorem completeAside (behind : l.Behind before ([0x3C] ++ content)) :
    (l.complete .aside).Moves before ([0x3C] ++ content) 0x3E :=
  behind.complete (.aside content) l.nesting

theorem inComment (behind : l.Behind before ([0x3C, 0x21] ++ content.reverse)) :
    (l.inComment content b).Moves before ([0x3C, 0x21] ++ content.reverse) b := by
  have longer : (l.stay (.comment (b :: content))).Moves before ([0x3C, 0x21] ++ content.reverse) b :=
    behind.stay (by simp [Mode.source])
  unfold Lexer.inComment
  split
  · split
    · next last =>
      rw [last, Lexer.completeComment]
      split
      · exact behind.completeAside
      · exact moves_error _
    · exact longer
  · exact longer

theorem inCdata (behind : l.Behind before ([0x3C, 0x21] ++ content.reverse)) :
    (l.inCdata content b).Moves before ([0x3C, 0x21] ++ content.reverse) b := by
  have longer : (l.stay (.cdata (b :: content))).Moves before ([0x3C, 0x21] ++ content.reverse) b :=
    behind.stay (by simp [Mode.source])
  unfold Lexer.inCdata
  split
  · split
    · next last =>
      rw [last, Lexer.completeCdata]
      split
      · next begun =>
        exact behind.complete (cdata_written (List.isPrefixOf_iff_prefix.mp begun)) l.nesting
      · exact moves_error _
    · exact longer
  · exact longer

theorem completeDoctype (behind : l.Behind before ([0x3C, 0x21] ++ content.reverse)) :
    (l.completeDoctype content).Moves before ([0x3C, 0x21] ++ content.reverse) 0x3E := by
  unfold Lexer.completeDoctype
  dsimp only
  split
  · split
    · exact moves_error _
    · exact behind.completeAside
  · exact moves_error _

theorem inDoctype (behind : l.Behind before ([0x3C, 0x21] ++ content.reverse)) (inner : Nat) :
    (l.inDoctype content inner b).Moves before ([0x3C, 0x21] ++ content.reverse) b := by
  have longer (inner : Nat) : (l.stay (.doctype (b :: content) inner)).Moves before
      ([0x3C, 0x21] ++ content.reverse) b := behind.stay (by simp [Mode.source])
  unfold Lexer.inDoctype
  split
  · exact longer (inner + 1)
  split
  · next last =>
    cases inner with
    | zero =>
      rw [last]
      exact behind.completeDoctype
    | succ inner => exact longer inner
  · exact longer inner

theorem inInstruction (behind : l.Behind before ([0x3C] ++ content.reverse)) :
    (l.inInstruction content b).Moves before ([0x3C] ++ content.reverse) b := by
  unfold Lexer.inInstruction
  split
  · next last =>
    rw [last.1, Lexer.completeInstruction]
    split
    · exact moves_error _
    · exact behind.completeAside
  · exact behind.stay (by simp [Mode.source])

theorem completeClosing (behind : l.Behind before ([0x3C, 0x2F] ++ content.reverse)) :
    (l.completeClosing content).Moves before ([0x3C, 0x2F] ++ content.reverse) 0x3E := by
  unfold Lexer.completeClosing
  dsimp only
  split
  · exact moves_error _
  · next nesting _ => exact behind.complete (closingName_written content) nesting

theorem inClosing (behind : l.Behind before ([0x3C, 0x2F] ++ content.reverse))
    (quote : Option UInt8) :
    (l.inClosing content quote b).Moves before ([0x3C, 0x2F] ++ content.reverse) b := by
  unfold Lexer.inClosing
  split
  · next last =>
    rw [last.1]
    exact behind.completeClosing
  · exact behind.stay (by simp [Mode.source])

theorem step (behind : l.Behind before source) : (l.step b).Moves before source b := by
  obtain rfl := behind.underWay
  unfold Lexer.step
  cases mode : l.mode <;> rw [mode] at behind
  case text content => exact behind.inText
  case bracket => exact behind.inBracket
  case bang => exact behind.inBang
  case comment content => exact behind.inComment
  case cdata content => exact behind.inCdata
  case doctype content inner => exact behind.inDoctype inner
  case instruction content => exact behind.inInstruction
  case opening content quote => exact behind.inOpening quote
  case closing content quote => exact behind.inClosing quote

end Behind
end Lexer
end Rdfa.Markup
