import Rdfa.Entity.Names
import Rdfa.Text.Basic

-- Character references in text and attribute values. A reference that names nothing stays as it was
-- written, and what a reference gives is not read again.
namespace Rdfa.Entity

def predefined? : Text → Option Char
  | ['a', 'm', 'p'] => some '&'
  | ['l', 't'] => some '<'
  | ['g', 't'] => some '>'
  | ['q', 'u', 'o', 't'] => some '"'
  | ['a', 'p', 'o', 's'] => some '\x27'
  | _ => none

def names : List (List (String × Nat)) :=
  [capitalNames, smallAtoGNames, smallHtoNNames, smallOtoZNames]

def named? (name : Text) : Option Char :=
  (predefined? name).or
    (names.findSome? fun group =>
      (group.find? fun entry => entry.1 = String.ofList name).map fun entry => Char.ofNat entry.2)

def digit? (radix : Nat) (c : Char) : Option Nat :=
  let value? :=
    if '0' ≤ c ∧ c ≤ '9' then some (c.toNat - '0'.toNat)
    else if 'a' ≤ c ∧ c ≤ 'f' then some (c.toNat - 'a'.toNat + 10)
    else if 'A' ≤ c ∧ c ≤ 'F' then some (c.toNat - 'A'.toNat + 10)
    else none
  value?.filter (· < radix)

def number? (radix : Nat) (digits : Text) : Option Nat :=
  if digits.isEmpty then none
  else digits.foldlM (fun value c => (digit? radix c).map (value * radix + ·)) 0

-- A code point that may be written as a number: a character other than NUL.
def scalar? (code : Nat) : Option Char :=
  if code ≠ 0 ∧ code.isValidChar then some (Char.ofNat code) else none

def expand? : Text → Option Char
  | '#' :: 'x' :: digits => (number? 16 digits).bind scalar?
  | '#' :: digits => (number? 10 digits).bind scalar?
  | name => named? name

-- `opened` holds, in reverse, what followed an `&` so far; `text` is kept in reverse too.
structure Decoder where
  opened : Option Text
  text : Text
deriving Repr, DecidableEq

namespace Decoder

def initial : Decoder := ⟨none, []⟩

def settle (d : Decoder) : Decoder :=
  match d.opened with
  | none => d
  | some name => ⟨none, name ++ '&' :: d.text⟩

def step (d : Decoder) (c : Char) : Decoder :=
  match d.opened with
  | none => if c = '&' then ⟨some [], d.text⟩ else ⟨none, c :: d.text⟩
  | some name =>
    if c = ';' then
      match expand? name.reverse with
      | some character => ⟨none, character :: d.text⟩
      | none => ⟨none, ';' :: (name ++ '&' :: d.text)⟩
    else if c = '&' then ⟨some [], name ++ '&' :: d.text⟩
    else ⟨some (c :: name), d.text⟩

end Decoder

def decode (text : Text) : Text :=
  ((text.foldl Decoder.step Decoder.initial).settle).text.reverse

end Rdfa.Entity
