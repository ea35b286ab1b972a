import Rdfa.Text.Utf8

-- The pieces a document is read in, and the ways in which it can fail to be pieces at all.
namespace Rdfa.Markup

def isBlank (b : UInt8) : Bool := b = 0x20 || b = 0x09 || b = 0x0A || b = 0x0D

def ascii (text : String) : Bytes := text.toList.map Char.toUInt8

def lowerByte (b : UInt8) : UInt8 := if 0x41 ≤ b ∧ b ≤ 0x5A then b + 0x20 else b

def sameLetters (a b : Bytes) : Bool := a.map lowerByte = b.map lowerByte

-- A start tag between its angle brackets, without the slash of a self-closed one.
structure Tag where
  content : Bytes
deriving Repr, DecidableEq

def Tag.name (tag : Tag) : Bytes := tag.content.takeWhile (!isBlank ·)

-- The part of a name after its first colon.
def localName (name : Bytes) : Bytes :=
  match name.dropWhile (· ≠ 0x3A) with
  | [] => name
  | _ :: rest => rest

-- The part of a name after its last colon.
def lastName (name : Bytes) : Bytes := (name.reverse.takeWhile (· ≠ 0x3A)).reverse

inductive Token where
  | opening (tag : Tag)
  | standalone (tag : Tag)
  | closing (name : Bytes)
  | text (bytes : Bytes)
  | cdata (bytes : Bytes)
  -- A comment, a processing instruction or a document type.
  | aside
deriving Repr, DecidableEq

structure Item where
  position : Nat
  token : Token
deriving Repr, DecidableEq

inductive Flaw where
  | unknownMarkup
  | openInstruction
  | openComment
  | openDoctype
  | openCdata
  | openTag
  | unmatchedClosing (name : Text)
  | namelessDoctype
deriving Repr, DecidableEq

def Flaw.message : Flaw → Text
  | unknownMarkup => "syntax error: unknown or missed symbol in markup".toList
  | openInstruction => ("syntax error: processing instruction or xml declaration not closed: " ++
      "`?>` not found before end of input").toList
  | openComment => "syntax error: comment not closed: `-->` not found before end of input".toList
  | openDoctype => "syntax error: DOCTYPE not closed: `>` not found before end of input".toList
  | openCdata => "syntax error: CDATA not closed: `]]>` not found before end of input".toList
  | openTag => "syntax error: tag not closed: `>` not found before end of input".toList
  | unmatchedClosing name => "ill-formed document: close tag `</".toList ++ name ++
      ">` does not match any open tag".toList
  | namelessDoctype => ("ill-formed document: `<!DOCTYPE>` declaration does not contain a name " ++
      "of a document type").toList

structure Misread where
  position : Nat
  flaw : Flaw
deriving Repr, DecidableEq

end Rdfa.Markup
