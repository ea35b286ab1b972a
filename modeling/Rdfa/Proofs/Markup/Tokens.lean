import Mathlib.Algebra.Ring.Nat
import Rdfa.Markup.Lexer

-- The bytes of a document as a list of tokens. Where they stand, and how many start tags wait for an end tag
-- beyond those that are answered, makes no difference to the tokens.
namespace Rdfa.Markup

-- How many start tags more wait after a token, and how many fewer.
def Token.opens : Token → Nat
  | .opening _ => 1
  | .standalone _ | .closing _ | .text _ | .cdata _ | .aside => 0

def Token.closes : Token → Nat
  | .closing _ => 1
  | .opening _ | .standalone _ | .text _ | .cdata _ | .aside => 0

namespace Lexer

def tokens? (l : Lexer) : Bytes → Option (List Token × Lexer)
  | [] => some ([], l)
  | byte :: rest =>
    match l.step byte with
    | .error _ => none
    | .ok (next, item) =>
      (next.tokens? rest).map fun (later, last) => ((item.map (·.token)).toList ++ later, last)

structure Raised (extra : Nat) (l high : Lexer) : Prop where
  mode : high.mode = l.mode
  nesting : high.nesting = l.nesting + extra

def Counted (l next : Lexer) (item : Option Item) : Prop :=
  next.nesting + item.elim 0 (·.token.closes) = l.nesting + item.elim 0 (·.token.opens)

inductive Step.Raises (extra : Nat) (l : Lexer) : Step → Step → Prop where
  | alike {next high : Lexer} {item item' : Option Item} (counted : l.Counted next item)
      (raised : next.Raised extra high) (same : item'.map (·.token) = item.map (·.token)) :
      Raises extra l (.ok (next, item)) (.ok (high, item'))
  | flawed (misread : Misread) (high : Step) : Raises extra l (.error misread) high

namespace Raised

variable {extra : Nat} {l high : Lexer}

theorem stay (raised : l.Raised extra high) (mode : Mode) :
    (l.stay mode).Raises extra l (high.stay mode) := .alike rfl ⟨rfl, raised.nesting⟩ rfl

theorem complete (raised : l.Raised extra high) {token : Token}
    (level : token.opens = 0 ∧ token.closes = 0) :
    (l.complete token).Raises extra l (high.complete token) := by
  refine .alike ?_ ⟨rfl, raised.nesting⟩ rfl
  show l.nesting + token.closes = l.nesting + token.opens
  rw [level.1, level.2]

theorem completeOpening (raised : l.Raised extra high) (content : Bytes) :
    (l.completeOpening content).Raises extra l (high.completeOpening content) := by
  unfold Lexer.completeOpening
  split
  · exact raised.complete ⟨rfl, rfl⟩
  · refine .alike rfl ⟨rfl, ?_⟩ rfl
    show high.nesting + 1 = l.nesting + 1 + extra
    rw [raised.nesting, Nat.add_right_comm]

theorem completeClosing (raised : l.Raised extra high) (content : Bytes) :
    (l.completeClosing content).Raises extra l (high.completeClosing content) := by
  unfold Lexer.completeClosing
  cases waiting : l.nesting with
  | zero => exact .flawed _ _
  | succ nesting =>
    have more : high.nesting = nesting + extra + 1 := by
      rw [raised.nesting, waiting, Nat.add_right_comm]
    rw [more]
    exact .alike waiting.symm ⟨rfl, rfl⟩ rfl

theorem inText (raised : l.Raised extra high) (content : Bytes) (b : UInt8) :
    (l.inText content b).Raises extra l (high.inText content b) := by
  unfold Lexer.inText
  split
  · cases content with
    | nil => exact .alike rfl ⟨rfl, raised.nesting⟩ rfl
    | cons c content => exact .alike rfl ⟨rfl, raised.nesting⟩ rfl
  · exact raised.stay _

theorem inOpening (raised : l.Raised extra high) (content : Bytes) (quote : Option UInt8)
    (b : UInt8) : (l.inOpening content quote b).Raises extra l (high.inOpening content quote b) := by
  unfold Lexer.inOpening
  split
  · exact raised.completeOpening content
  · exact raised.stay _

theorem inClosing (raised : l.Raised extra high) (content : Bytes) (quote : Option UInt8)
    (b : UInt8) : (l.inClosing content quote b).Raises extra l (high.inClosing content quote b) := by
  unfold Lexer.inClosing
  split
  · exact raised.completeClosing content
  · exact raised.stay _

theorem inBracket (raised : l.Raised extra high) (b : UInt8) :
    (l.inBracket b).Raises extra l (high.inBracket b) := by
  unfold Lexer.inBracket
  split
  · exact raised.stay _
  split
  · exact raised.stay _
  split
  · exact raised.stay _
  · exact raised.inOpening [] none b

theorem inBang (raised : l.Raised extra high) (b : UInt8) :
    (l.inBang b).Raises extra l (high.inBang b) := by
  unfold Lexer.inBang
  split
  · exact raised.stay _
  split
  · exact raised.stay _
  split
  · exact raised.stay _
  · exact .flawed _ _

theorem inComment (raised : l.Raised extra high) (content : Bytes) (b : UInt8) :
    (l.inComment content b).Raises extra l (high.inComment content b) := by
  unfold Lexer.inComment
  split
  · split
    · unfold completeComment
      split
      · exact raised.complete ⟨rfl, rfl⟩
      · exact .flawed _ _
    · exact raised.stay _
  · exact raised.stay _

theorem inCdata (raised : l.Raised extra high) (content : Bytes) (b : UInt8) :
    (l.inCdata content b).Raises extra l (high.inCdata content b) := by
  unfold Lexer.inCdata
  split
  · split
    · unfold completeCdata
      split
      · exact raised.complete ⟨rfl, rfl⟩
      · exact .flawed _ _
    · exact raised.stay _
  · exact raised.stay _

theorem inDoctype (raised : l.Raised extra high) (content : Bytes) (inner : Nat) (b : UInt8) :
    (l.inDoctype content inner b).Raises extra l (high.inDoctype content inner b) := by
  unfold Lexer.inDoctype
  split
  · exact raised.stay _
  split
  · split
    · unfold completeDoctype
      dsimp only
      split
      · split
        · exact .flawed _ _
        · exact raised.complete ⟨rfl, rfl⟩
      · exact .flawed _ _
    · exact raised.stay _
  · exact raised.stay _

theorem inInstruction (raised : l.Raised extra high) (content : Bytes) (b : UInt8) :
    (l.inInstruction content b).Raises extra l (high.inInstruction content b) := by
  unfold Lexer.inInstruction
  split
  · unfold completeInstruction
    split
    · exact .flawed _ _
    · exact raised.complete ⟨rfl, rfl⟩
  · exact raised.stay _

theorem step (raised : l.Raised extra high) (b : UInt8) :
    (l.step b).Raises extra l (high.step b) := by
  unfold Lexer.step
  rw [raised.mode]
  cases l.mode with
  | text content => exact raised.inText content b
  | bracket => exact raised.inBracket b
  | bang => exact raised.inBang b
  | comment content => exact raised.inComment content b
  | cdata content => exact raised.inCdata content b
  | doctype content inner => exact raised.inDoctype content inner b
  | instruction content => exact raised.inInstruction content b
  | opening content quote => exact raised.inOpening content quote b
  | closing content quote => exact raised.inClosing content quote b

end Raised

theorem raised_zero (l : Lexer) : l.Raised 0 l := ⟨rfl, rfl⟩

variable {extra : Nat} {l high last next : Lexer} {bytes : Bytes} {b : UInt8}
  {tokens : List Token} {item : Option Item}

theorem counted_of_step (stepped : l.step b = .ok (next, item)) : l.Counted next item := by
  have raises := l.raised_zero.step b
  rw [stepped] at raises
  cases raises with
  | alike counted _ _ => exact counted

theorem tokens?_cons_eq_some_iff : l.tokens? (b :: bytes) = some (tokens, last) ↔
    ∃ next item later, l.step b = .ok (next, item) ∧ next.tokens? bytes = some (later, last) ∧
      tokens = (item.map (·.token)).toList ++ later := by
  rw [tokens?]
  cases stepped : l.step b with
  | error misread => simp
  | ok reached =>
    obtain ⟨next, item⟩ := reached
    constructor
    · intro read
      obtain ⟨⟨later, reached⟩, found, same⟩ := Option.map_eq_some_iff.mp read
      cases same
      exact ⟨next, item, later, rfl, found, rfl⟩
    · rintro ⟨_, _, later, ⟨⟩, found, rfl⟩
      exact Option.map_eq_some_iff.mpr ⟨(later, last), found, rfl⟩

theorem Raised.tokens? (raised : l.Raised extra high) (read : l.tokens? bytes = some (tokens, last)) :
    ∃ reached, high.tokens? bytes = some (tokens, reached) ∧ last.Raised extra reached := by
  -- The induction is on the bytes; what carries it is that the two readings stand in the same mode.
  induction bytes generalizing l high tokens with
  | nil =>
    cases read
    exact ⟨high, rfl, raised⟩
  | cons b bytes ih =>
    obtain ⟨next, item, later, stepped, rest, rfl⟩ := tokens?_cons_eq_some_iff.mp read
    have raises := raised.step b
    rw [stepped] at raises
    generalize above : high.step b = step at raises
    cases raises with
    | alike _ further same =>
      obtain ⟨reached, found, again⟩ := ih further rest
      exact ⟨reached, tokens?_cons_eq_some_iff.mpr ⟨_, _, later, above, found, by rw [same]⟩, again⟩

theorem nesting_of_tokens? (read : l.tokens? bytes = some (tokens, last)) :
    last.nesting + (tokens.map Token.closes).sum = l.nesting + (tokens.map Token.opens).sum := by
  induction bytes generalizing l tokens with
  | nil =>
    cases read
    rfl
  | cons b bytes ih =>
    obtain ⟨next, item, later, stepped, rest, rfl⟩ := tokens?_cons_eq_some_iff.mp read
    have here := counted_of_step stepped
    have further := ih rest
    unfold Counted at here
    cases item with
    | none =>
      simp only [Option.elim] at here
      simp only [Option.map_none, Option.toList_none, List.nil_append]
      omega
    | some item =>
      simp only [Option.elim] at here
      simp only [Option.map_some, Option.toList_some, List.singleton_append, List.map_cons,
        List.sum_cons]
      omega

theorem Raised.close (raised : l.Raised extra high) (closed : l.close = .ok item) :
    ∃ item', high.close = .ok item' ∧ item'.map (·.token) = item.map (·.token) := by
  unfold Lexer.close at closed ⊢
  rw [raised.mode]
  cases mode : l.mode with
  | text content =>
    rw [mode] at closed
    cases closed
    refine ⟨_, rfl, ?_⟩
    cases content <;> rfl
  | _ =>
    rw [mode] at closed
    cases closed

def Spells (bytes : Bytes) (tokens : List Token) : Prop :=
  ∃ last, initial.tokens? bytes = some (tokens, last) ∧ last.mode = .text []

theorem spells_iff : Spells bytes tokens ↔
    (initial.tokens? bytes).map (fun read => (read.1, read.2.mode)) = some (tokens, .text []) := by
  simp only [Spells, Option.map_eq_some_iff, Prod.mk.injEq]
  constructor
  · rintro ⟨last, read, ended⟩
    exact ⟨_, read, rfl, ended⟩
  · rintro ⟨⟨_, last⟩, read, rfl, ended⟩
    exact ⟨last, read, ended⟩

instance : Decidable (Spells bytes tokens) := decidable_of_iff' _ spells_iff

def textToken (content : Bytes) : List Token :=
  if content.isEmpty then [] else [.text content.reverse]

theorem Spells.tokens? {content tail : Bytes} (spells : Spells (0x3C :: tail) tokens)
    (mode : l.mode = .text content) :
    ∃ reached, l.tokens? (0x3C :: tail) = some (textToken content ++ tokens, reached) ∧
      reached.mode = .text [] ∧
      reached.nesting + (tokens.map Token.closes).sum = l.nesting + (tokens.map Token.opens).sum := by
  obtain ⟨last, read, ended⟩ := spells
  obtain ⟨next, item, later, stepped, rest, rfl⟩ := tokens?_cons_eq_some_iff.mp read
  cases stepped
  have bracket : l.step 0x3C = .ok (⟨l.offset + 1, l.offset, l.nesting, .bracket⟩,
      if content.isEmpty then none else some ⟨l.start, .text content.reverse⟩) := by
    simp only [step, mode, inText, if_true]
  have raised : Raised l.nesting ⟨1, 0, 0, .bracket⟩ ⟨l.offset + 1, l.offset, l.nesting, .bracket⟩ :=
    ⟨rfl, (Nat.zero_add _).symm⟩
  obtain ⟨reached, found, further⟩ := raised.tokens? rest
  have whole : l.tokens? (0x3C :: tail) = some (textToken content ++ later, reached) := by
    refine tokens?_cons_eq_some_iff.mpr ⟨_, _, later, bracket, found, ?_⟩
    cases content <;> rfl
  refine ⟨reached, whole, further.mode.trans ended, ?_⟩
  have counted := nesting_of_tokens? found
  exact counted

end Lexer
end Rdfa.Markup
