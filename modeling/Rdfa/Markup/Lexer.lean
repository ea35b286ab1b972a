import Rdfa.Markup.Token

-- Reading markup one byte at a time. A byte completes at most one token, nothing is looked up
-- ahead, and what was read so far is the whole state, so it does not matter how the bytes were
-- handed over.
namespace Rdfa.Markup

-- Where in the markup the next byte stands. Contents are kept in reverse.
inductive Mode where
  | text (content : Bytes)
  -- After `<`.
  | bracket
  -- After `<!`.
  | bang
  | comment (content : Bytes)
  | cdata (content : Bytes)
  -- `inner` counts the brackets opened inside and not yet closed.
  | doctype (content : Bytes) (inner : Nat)
  -- After `<?`; the content begins with that question mark.
  | instruction (content : Bytes)
  | opening (content : Bytes) (quote : Option UInt8)
  | closing (content : Bytes) (quote : Option UInt8)
deriving Repr, DecidableEq

-- `nesting` counts start tags that no end tag has answered, whatever their names; `start` is the
-- offset of the token under way.
structure Lexer where
  offset : Nat
  start : Nat
  nesting : Nat
  mode : Mode
deriving Repr, DecidableEq

namespace Lexer

def initial : Lexer := ⟨0, 0, 0, .text []⟩

abbrev Step := Except Misread (Lexer × Option Item)

def fail (l : Lexer) (flaw : Flaw) : Step := .error ⟨l.start, flaw⟩

def stay (l : Lexer) (mode : Mode) : Step := .ok ({ l with offset := l.offset + 1, mode }, none)

def complete (l : Lexer) (token : Token) (nesting : Nat := l.nesting) : Step :=
  .ok (⟨l.offset + 1, l.offset + 1, nesting, .text []⟩, some ⟨l.start, token⟩)

def requote (quote : Option UInt8) (b : UInt8) : Option UInt8 :=
  match quote with
  | none => if b = 0x22 || b = 0x27 then some b else none
  | some q => if b = q then none else some q

def completeOpening (l : Lexer) (content : Bytes) : Step :=
  match content with
  | 0x2F :: rest => l.complete (.standalone ⟨rest.reverse⟩)
  | _ => l.complete (.opening ⟨content.reverse⟩) (l.nesting + 1)

-- Blanks after the name are no part of it, unless there is nothing else.
def closingName (content : Bytes) : Bytes :=
  match content.dropWhile isBlank with
  | [] => content.reverse
  | name => name.reverse

def completeClosing (l : Lexer) (content : Bytes) : Step :=
  let name := closingName content
  match l.nesting with
  | 0 => l.fail (.unmatchedClosing ((Utf8.decode? name).getD []))
  | nesting + 1 => l.complete (.closing name) nesting

-- Only `<!--` begins a comment.
def completeComment (l : Lexer) (content : Bytes) : Step :=
  if [0x2D, 0x2D].isPrefixOf content.reverse then l.complete .aside else l.fail .openComment

def completeCdata (l : Lexer) (content : Bytes) : Step :=
  if (ascii "[CDATA[").isPrefixOf content.reverse then
    l.complete (.cdata ((content.drop 2).reverse.drop 7))
  else l.fail .openCdata

def completeDoctype (l : Lexer) (content : Bytes) : Step :=
  let content := content.reverse
  if sameLetters (content.take 7) (ascii "DOCTYPE") then
    if (content.drop 7).all isBlank then .error ⟨l.offset, .namelessDoctype⟩ else l.complete .aside
  else l.fail .openDoctype

def completeInstruction (l : Lexer) (content : Bytes) : Step :=
  if content.length = 1 then l.fail .openInstruction else l.complete .aside

def inOpening (l : Lexer) (content : Bytes) (quote : Option UInt8) (b : UInt8) : Step :=
  if b = 0x3E ∧ quote = none then l.completeOpening content
  else l.stay (.opening (b :: content) (requote quote b))

def inText (l : Lexer) (content : Bytes) (b : UInt8) : Step :=
  if b = 0x3C then
    .ok (⟨l.offset + 1, l.offset, l.nesting, .bracket⟩,
      if content.isEmpty then none else some ⟨l.start, .text content.reverse⟩)
  else l.stay (.text (b :: content))

def inBracket (l : Lexer) (b : UInt8) : Step :=
  if b = 0x21 then l.stay .bang
  else if b = 0x2F then l.stay (.closing [] none)
  else if b = 0x3F then l.stay (.instruction [b])
  else l.inOpening [] none b

def inBang (l : Lexer) (b : UInt8) : Step :=
  if b = 0x5B then l.stay (.cdata [b])
  else if b = 0x2D then l.stay (.comment [b])
  else if b = 0x44 || b = 0x64 then l.stay (.doctype [b] 0)
  else l.fail .unknownMarkup

def inComment (l : Lexer) (content : Bytes) (b : UInt8) : Step :=
  match content with
  | 0x2D :: 0x2D :: _ :: _ :: _ =>
    if b = 0x3E then l.completeComment content else l.stay (.comment (b :: content))
  | _ => l.stay (.comment (b :: content))

def inCdata (l : Lexer) (content : Bytes) (b : UInt8) : Step :=
  match content with
  | 0x5D :: 0x5D :: _ =>
    if b = 0x3E then l.completeCdata content else l.stay (.cdata (b :: content))
  | _ => l.stay (.cdata (b :: content))

def inDoctype (l : Lexer) (content : Bytes) (inner : Nat) (b : UInt8) : Step :=
  if b = 0x3C then l.stay (.doctype (b :: content) (inner + 1))
  else if b = 0x3E then
    match inner with
    | 0 => l.completeDoctype content
    | inner + 1 => l.stay (.doctype (b :: content) inner)
  else l.stay (.doctype (b :: content) inner)

def inInstruction (l : Lexer) (content : Bytes) (b : UInt8) : Step :=
  if b = 0x3E ∧ content.head? = some 0x3F then l.completeInstruction content
  else l.stay (.instruction (b :: content))

def inClosing (l : Lexer) (content : Bytes) (quote : Option UInt8) (b : UInt8) : Step :=
  if b = 0x3E ∧ quote = none then l.completeClosing content
  else l.stay (.closing (b :: content) (requote quote b))

def step (l : Lexer) (b : UInt8) : Step :=
  match l.mode with
  | .text content => l.inText content b
  | .bracket => l.inBracket b
  | .bang => l.inBang b
  | .comment content => l.inComment content b
  | .cdata content => l.inCdata content b
  | .doctype content inner => l.inDoctype content inner b
  | .instruction content => l.inInstruction content b
  | .opening content quote => l.inOpening content quote b
  | .closing content quote => l.inClosing content quote b

-- The end of the bytes: text may end there, markup may not.
def close (l : Lexer) : Except Misread (Option Item) :=
  match l.mode with
  | .text content => .ok (if content.isEmpty then none else some ⟨l.start, .text content.reverse⟩)
  | .bang => .error ⟨l.start, .unknownMarkup⟩
  | .comment _ => .error ⟨l.start, .openComment⟩
  | .cdata _ => .error ⟨l.start, .openCdata⟩
  | .doctype _ _ => .error ⟨l.start, .openDoctype⟩
  | .instruction _ => .error ⟨l.start, .openInstruction⟩
  | .bracket | .opening _ _ | .closing _ _ => .error ⟨l.start, .openTag⟩

end Lexer
end Rdfa.Markup
