import Rdfa.Toml.Number
import Rdfa.Toml.Value

-- Reading a TOML document. Every reader takes what it recognises from the front of the text and
-- gives back the rest, or nothing where the text is not TOML.
namespace Rdfa.Toml

abbrev Reader (α : Type) := Text → Option (α × Text)

def isSpace (c : Char) : Bool := c = ' ' || c = '\t'

def skipSpace (text : Text) : Text := text.dropWhile isSpace

def isPlain (c : Char) : Bool := c = '\t' || (' ' ≤ c && c ≠ '\x7f')

def skipComment : Text → Text
  | '#' :: rest => rest.dropWhile isPlain
  | text => text

def lineEnd? (text : Text) : Option Text :=
  match skipComment (skipSpace text) with
  | [] => some []
  | '\n' :: rest => some rest
  | '\r' :: '\n' :: rest => some rest
  | _ => none

def skipLines : Nat → Text → Option Text
  | 0, text => some text
  | fuel + 1, text =>
    match skipSpace text with
    | '\n' :: rest => skipLines fuel rest
    | '\r' :: '\n' :: rest => skipLines fuel rest
    | '\r' :: _ => none
    | '#' :: rest => (lineEnd? ('#' :: rest)).bind (skipLines fuel)
    | rest => some rest

def hexScalar? (digits : Text) : Option Char :=
  if digits.all isHexDigit && (value 16 digits).isValidChar then some (Char.ofNat (value 16 digits))
  else none

def escape? : Reader Char
  | 'b' :: rest => some ('\x08', rest)
  | 't' :: rest => some ('\t', rest)
  | 'n' :: rest => some ('\n', rest)
  | 'f' :: rest => some ('\x0c', rest)
  | 'r' :: rest => some ('\r', rest)
  | '"' :: rest => some ('"', rest)
  | '\\' :: rest => some ('\\', rest)
  | 'u' :: rest =>
    if rest.length < 4 then none else (hexScalar? (rest.take 4)).map fun c => (c, rest.drop 4)
  | 'U' :: rest =>
    if rest.length < 8 then none else (hexScalar? (rest.take 8)).map fun c => (c, rest.drop 8)
  | _ => none

-- A string after its opening `"`. `read` is kept in reverse.
def basic : Nat → (read : Text) → Reader Text
  | 0, _, _ => none
  | _ + 1, _, [] => none
  | _ + 1, read, '"' :: rest => some (read.reverse, rest)
  | fuel + 1, read, '\\' :: rest =>
    match escape? rest with
    | some (c, rest) => basic fuel (c :: read) rest
    | none => none
  | fuel + 1, read, c :: rest => if isPlain c then basic fuel (c :: read) rest else none

def literal (text : Text) : Option (Text × Text) :=
  match text.dropWhile fun c => isPlain c && c ≠ '\x27' with
  | '\x27' :: rest => some (text.takeWhile fun c => isPlain c && c ≠ '\x27', rest)
  | _ => none

-- Three quotes end a string of many lines; one or two more before them belong to it.
def closing? (quote : Char) (text : Text) : Option (Text × Text) :=
  let run := (text.takeWhile (· = quote)).length
  if run < 3 then none
  else
    let inside := min (run - 3) 2
    some (List.replicate inside quote, text.drop (inside + 3))

def dropFirstLine : Text → Text
  | '\n' :: rest => rest
  | '\r' :: '\n' :: rest => rest
  | text => text

def skipBlankLines : Text → Text
  | ' ' :: rest | '\t' :: rest | '\n' :: rest => skipBlankLines rest
  | '\r' :: '\n' :: rest => skipBlankLines rest
  | text => text

-- A backslash at the end of a line takes the blanks after it along.
def continuation? (text : Text) : Option Text :=
  match skipSpace text with
  | '\n' :: rest => some (skipBlankLines rest)
  | '\r' :: '\n' :: rest => some (skipBlankLines rest)
  | _ => none

def lines (quote : Char) : Nat → (read : Text) → Reader Text
  | 0, _, _ => none
  | fuel + 1, read, text =>
    match closing? quote text with
    | some (inside, rest) => some (read.reverse ++ inside, rest)
    | none =>
      match text with
      | [] => none
      | '\n' :: rest => lines quote fuel ('\n' :: read) rest
      | '\r' :: '\n' :: rest => lines quote fuel ('\n' :: read) rest
      | '\\' :: rest =>
        if quote = '"' then
          match continuation? rest with
          | some rest => lines quote fuel read rest
          | none =>
            match escape? rest with
            | some (c, rest) => lines quote fuel (c :: read) rest
            | none => none
        else lines quote fuel ('\\' :: read) rest
      | c :: rest => if isPlain c then lines quote fuel (c :: read) rest else none

-- The fuel that lasts for a text: every step takes at least one character.
def enough (text : Text) : Nat := text.length + 1

def string : Reader Text
  | '"' :: '"' :: '"' :: rest => lines '"' (enough rest) [] (dropFirstLine rest)
  | '"' :: rest => basic (enough rest) [] rest
  | '\x27' :: '\x27' :: '\x27' :: rest => lines '\x27' (enough rest) [] (dropFirstLine rest)
  | '\x27' :: rest => literal rest
  | _ => none

def isBare (c : Char) : Bool := c.isAlphanum || c = '_' || c = '-'

def simpleKey : Reader Text
  | '"' :: rest => basic (enough rest) [] rest
  | '\x27' :: rest => literal rest
  | text =>
    let key := text.takeWhile isBare
    if key.isEmpty then none else some (key, text.dropWhile isBare)

-- One or more keys with dots between them, but not more than `room`.
def keys : (room : Nat) → Reader (List Text)
  | 0, _ => none
  | room + 1, text => do
    let (key, rest) ← simpleKey (skipSpace text)
    match skipSpace rest with
    | '.' :: rest =>
      let (more, rest) ← keys room rest
      some (key :: more, rest)
    | rest => some ([key], rest)

-- How long a path of keys may be, and how deep arrays and inline tables may stand in each other.
def nestingLimit : Nat := 79

def keyPath : Reader (List Text) := keys nestingLimit

def isScalarChar (c : Char) : Bool :=
  c.isAlphanum || c = '+' || c = '-' || c = '_' || c = '.' || c = ':'

-- A time may follow its date after a blank.
def scalarText (text : Text) : Text × Text :=
  let first := text.takeWhile isScalarChar
  let rest := text.dropWhile isScalarChar
  match date? first, rest with
  | some [], ' ' :: a :: b :: ':' :: more =>
    if a.isDigit && b.isDigit then
      let time := (a :: b :: ':' :: more).takeWhile isScalarChar
      (first ++ ' ' :: time, (a :: b :: ':' :: more).dropWhile isScalarChar)
    else (first, rest)
  | _, _ => (first, rest)

def scalar (text : Text) : Option (Value × Text) :=
  let (word, rest) := scalarText text
  if word = "true".toList then some (.boolean true, rest)
  else if word = "false".toList then some (.boolean false, rest)
  else
    match integer? word with
    | some n => some (.integer n, rest)
    | none =>
      if isFloat word then some (.float word, rest)
      else if isMoment word then some (.moment word, rest)
      else none

mutual

-- `room` is how many arrays and inline tables may still be opened inside each other.
def read : Nat → (room : Nat) → Reader Value
  | 0, _, _ => none
  | fuel + 1, room, text =>
    match text, room with
    | '"' :: _, _ | '\x27' :: _, _ => (string text).map fun (s, rest) => (.string s, rest)
    | '[' :: _, 0 | '\x7b' :: _, 0 => none
    | '[' :: rest, room + 1 =>
      (readItems fuel room rest).map fun (items, rest) => (.array items, rest)
    | '\x7b' :: rest, room + 1 =>
      match skipSpace rest with
      | '\x7d' :: rest => some (.inline [], rest)
      | rest => (readEntries fuel room [] rest).map fun (entries, rest) => (.inline entries, rest)
    | _, _ => scalar text

-- The items of an array up to its bracket; a comma may follow the last one.
def readItems : Nat → (room : Nat) → Reader (List Value)
  | 0, _, _ => none
  | fuel + 1, room, text =>
    match skipLines (enough text) text with
    | none => none
    | some (']' :: rest) => some ([], rest)
    | some text =>
      match read fuel room text with
      | none => none
      | some (value, rest) =>
        match skipLines (enough rest) rest with
        | some (']' :: rest) => some ([value], rest)
        | some (',' :: rest) =>
          (readItems fuel room rest).map fun (items, rest) => (value :: items, rest)
        | _ => none

-- The entries of an inline table up to its brace; no comma follows the last one.
def readEntries : Nat → (room : Nat) → Entries → Reader Entries
  | 0, _, _, _ => none
  | fuel + 1, room, entries, text =>
    match keyPath text with
    | some (keys, '=' :: rest) =>
      match read fuel room (skipSpace rest) with
      | none => none
      | some (value, rest) =>
        match entries.assign value keys, skipSpace rest with
        | some entries, '\x7d' :: rest => some (entries, rest)
        | some entries, ',' :: rest => readEntries fuel room entries rest
        | _, _ => none
    | _ => none

end

structure Draft where
  root : Entries
  header : List Text

def Draft.empty : Draft := ⟨[], []⟩

def readLine (draft : Draft) (text : Text) : Option (Draft × Text) :=
  match skipSpace text with
  | '[' :: '[' :: rest =>
    match keyPath rest with
    | some (keys, ']' :: ']' :: rest) => do
      let root ← draft.root.openElement keys
      let rest ← lineEnd? rest
      some (⟨root, keys⟩, rest)
    | _ => none
  | '[' :: rest =>
    match keyPath rest with
    | some (keys, ']' :: rest) => do
      let root ← draft.root.openTable keys
      let rest ← lineEnd? rest
      some (⟨root, keys⟩, rest)
    | _ => none
  | text =>
    match lineEnd? text with
    | some rest => some (draft, rest)
    | none =>
      match keyPath text with
      | some (keys, '=' :: rest) => do
        let (value, rest) ← read (enough rest) nestingLimit (skipSpace rest)
        let root ← draft.root.within (Entries.assign value keys) draft.header
        let rest ← lineEnd? rest
        some ({ draft with root }, rest)
      | _ => none

def readLines : Nat → Draft → Text → Option Entries
  | _, draft, [] => some draft.root
  | 0, _, _ => none
  | fuel + 1, draft, text =>
    match readLine draft text with
    | some (draft, rest) => readLines fuel draft rest
    | none => none

def parse (text : Text) : Option Entries :=
  let text := match text with
    | '\uFEFF' :: rest => rest
    | text => text
  readLines (enough text) .empty text

end Rdfa.Toml
