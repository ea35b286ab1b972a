import Rdfa.Entity
import Rdfa.Text.Ranges
import Rdfa.Triple.NTriples

-- A reader of one N-Triples statement, after the grammar: it knows every form that the grammar allows,
-- also those that the writer never uses. Each part of a statement is read as far as it goes.
namespace Rdfa.NTriples

-- What stands between two marks: the characters that mean themselves there, and the letters that mean
-- another character after a backslash.
structure Alphabet where
  close : Char
  plain : Char → Bool
  short : Char → Option Char

-- All that comes after the blank, without quotation marks, brackets of two kinds, bars, accents and
-- backslashes.
def iriRanges : List (Nat × Nat) := [
  (0x21, 0x21), (0x23, 0x3B), (0x3D, 0x3D), (0x3F, 0x5B), (0x5D, 0x5D), (0x5F, 0x5F), (0x61, 0x7A),
  (0x7E, 0x10FFFF)]

def isIriChar (c : Char) : Bool := Text.inRanges iriRanges c

-- Only the characters of the text are tried, not all that there are.
instance (text : Text) (plain : Char → Bool) : Decidable (∀ c ∈ text, plain c = true) :=
  decidable_of_iff (text.all plain = true) List.all_eq_true

def isStringChar (c : Char) : Bool := c ∉ ['"', '\\', '\n', '\r']

def shortened? : Char → Option Char
  | 't' => some '\t'
  | 'b' => some '\x08'
  | 'n' => some '\n'
  | 'r' => some '\r'
  | 'f' => some '\x0c'
  | '"' => some '"'
  | '\x27' => some '\x27'
  | '\\' => some '\\'
  | _ => none

def iri : Alphabet := ⟨'>', isIriChar, fun _ => none⟩

def string : Alphabet := ⟨'"', isStringChar, shortened?⟩

def numbered? (digits : Text) : Option Char :=
  (Entity.number? 16 digits).bind fun code =>
    if code.isValidChar then some (Char.ofNat code) else none

def Alphabet.read (a : Alphabet) : Text → Option (Text × Text)
  | [] => none
  | '\\' :: 'u' :: d₁ :: d₂ :: d₃ :: d₄ :: rest =>
    (numbered? [d₁, d₂, d₃, d₄]).bind fun c => (a.read rest).map fun r => (c :: r.1, r.2)
  | '\\' :: 'U' :: d₁ :: d₂ :: d₃ :: d₄ :: d₅ :: d₆ :: d₇ :: d₈ :: rest =>
    (numbered? [d₁, d₂, d₃, d₄, d₅, d₆, d₇, d₈]).bind fun c =>
      (a.read rest).map fun r => (c :: r.1, r.2)
  | '\\' :: letter :: rest =>
    (a.short letter).bind fun c => (a.read rest).map fun r => (c :: r.1, r.2)
  | c :: rest =>
    if c = a.close then some ([], rest)
    else if a.plain c then (a.read rest).map fun r => (c :: r.1, r.2)
    else none

-- Ranges of `PN_CHARS_U` and the digits.
def labelStartRanges : List (Nat × Nat) := [
  (0x30, 0x3A), (0x41, 0x5A), (0x5F, 0x5F), (0x61, 0x7A), (0xC0, 0xD6), (0xD8, 0xF6), (0xF8, 0x2FF),
  (0x370, 0x37D), (0x37F, 0x1FFF), (0x200C, 0x200D), (0x2070, 0x218F), (0x2C00, 0x2FEF),
  (0x3001, 0xD7FF), (0xF900, 0xFDCF), (0xFDF0, 0xFFFD), (0x10000, 0xEFFFF)]

-- What `PN_CHARS` has besides.
def labelMoreRanges : List (Nat × Nat) :=
  [(0x2D, 0x2D), (0xB7, 0xB7), (0x300, 0x36F), (0x203F, 0x2040)]

def isLabelStart (c : Char) : Bool := Text.inRanges labelStartRanges c

def isLabelChar (c : Char) : Bool := isLabelStart c || Text.inRanges labelMoreRanges c

def isBlankNodeLabel : Text → Bool
  | '_' :: ':' :: c :: rest =>
    isLabelStart c && rest.all (fun c => isLabelChar c || c = '.') && rest.getLast? ≠ some '.'
  | _ => false

-- What follows the first character of a label, up to the last character that is no dot.
def labelBody (text : Text) : Text :=
  ((text.takeWhile fun c => isLabelChar c || c = '.').reverse.dropWhile (· = '.')).reverse

def label? : Text → Option (Text × Text)
  | '_' :: ':' :: c :: rest =>
    if isLabelStart c then
      some ('_' :: ':' :: c :: labelBody rest, rest.drop (labelBody rest).length)
    else none
  | _ => none

def isLanguage (text : Text) : Bool :=
  match text.splitOn '-' with
  | [] => false
  | first :: parts =>
    (!first.isEmpty && first.all Char.isAlpha) &&
      parts.all fun part => !part.isEmpty && part.all Char.isAlphanum

def isLanguageChar (c : Char) : Bool := c.isAlphanum || c = '-'

def language? (text : Text) : Option (Text × Text) :=
  let language := text.takeWhile isLanguageChar
  if isLanguage language then some (language, text.dropWhile isLanguageChar) else none

def iri? : Text → Option (Text × Text)
  | '<' :: rest => iri.read rest
  | _ => none

def node? (text : Text) : Option (Text × Text) := (iri? text).or (label? text)

def annotated? : Text → Option ((Option Text × Option Text) × Text)
  | '@' :: rest => (language? rest).map fun r => ((none, some r.1), r.2)
  | '^' :: '^' :: rest => (iri? rest).map fun r => ((some r.1, none), r.2)
  | rest => some ((none, none), rest)

def object? (subject predicate : Text) : Text → Option (Triple × Text)
  | '"' :: rest =>
    (string.read rest).bind fun r =>
      (annotated? r.2).map fun s => (⟨subject, predicate, r.1, .literal, s.1.1, s.1.2⟩, s.2)
  | '<' :: rest =>
    (iri.read rest).map fun r => (⟨subject, predicate, r.1, .resource, none, none⟩, r.2)
  | text =>
    (label? text).map fun r => (⟨subject, predicate, r.1, .blankNode, none, none⟩, r.2)

def skip (text : Text) : Text := text.dropWhile fun c => c = ' ' || c = '\t'

def isBreak (c : Char) : Bool := c = '\n' || c = '\r'

-- The end of the statement: a dot, and nothing after it on the line but a remark.
def isEnd (text : Text) : Bool :=
  match text with
  | '.' :: rest =>
    match skip rest with
    | [] => true
    | c :: remark => c = '#' && !remark.any isBreak
  | _ => false

def read? (text : Text) : Option Triple :=
  (node? (skip text)).bind fun subject =>
    (iri? (skip subject.2)).bind fun predicate =>
      (object? subject.1 predicate.1 (skip predicate.2)).bind fun found =>
        if isEnd (skip found.2) then some found.1 else none

end Rdfa.NTriples
