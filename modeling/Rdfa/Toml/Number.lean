import Rdfa.Text.Basic

-- Numbers and dates as TOML writes them.
namespace Rdfa.Toml

def separated (isDigit : Char → Bool) : Text → Option Text
  | [] => none
  | [c] => if isDigit c then some [c] else none
  | c :: '_' :: rest => if isDigit c then (separated isDigit rest).map (c :: ·) else none
  | c :: rest => if isDigit c then (separated isDigit rest).map (c :: ·) else none

def digitValue (c : Char) : Nat :=
  if c.isDigit then c.toNat - '0'.toNat
  else if 'a' ≤ c then c.toNat - 'a'.toNat + 10
  else c.toNat - 'A'.toNat + 10

def value (radix : Nat) (digits : Text) : Nat :=
  digits.foldl (fun n c => n * radix + digitValue c) 0

def isHexDigit (c : Char) : Bool := c.isDigit || ('a' ≤ c && c ≤ 'f') || ('A' ≤ c && c ≤ 'F')

-- A decimal number has no zero in front of other digits.
def unsigned? (text : Text) : Option Nat :=
  match separated Char.isDigit text with
  | none => none
  | some ['0'] => some 0
  | some ('0' :: _) => none
  | some digits => some (value 10 digits)

def unbounded? : Text → Option Int
  | '0' :: 'x' :: rest => (separated isHexDigit rest).map fun digits => value 16 digits
  | '0' :: 'o' :: rest =>
    (separated (fun c => '0' ≤ c && c ≤ '7') rest).map fun digits => value 8 digits
  | '0' :: 'b' :: rest =>
    (separated (fun c => c = '0' || c = '1') rest).map fun digits => value 2 digits
  | '+' :: rest => (unsigned? rest).map fun n => n
  | '-' :: rest => (unsigned? rest).map fun n => -n
  | text => (unsigned? text).map fun n => n

-- Integers have 64 bits with a sign.
def integer? (text : Text) : Option Int :=
  (unbounded? text).filter fun n => -9223372036854775808 ≤ n && n ≤ 9223372036854775807

def unsign : Text → Text
  | '+' :: rest => rest
  | '-' :: rest => rest
  | text => text

-- A decimal fraction: `digits` times ten to the power of `scale`.
structure Decimal where
  negative : Bool
  digits : Nat
  scale : Int
deriving Repr, DecidableEq

def isNegative (text : Text) : Bool := text.head? = some '-'

def exponent? (text : Text) : Option Int :=
  (separated Char.isDigit (unsign text)).map fun digits =>
    if isNegative text then -(value 10 digits : Int) else value 10 digits

def tail? : Text → Option (Text × Int)
  | '.' :: rest =>
    let inFraction (c : Char) : Bool := c ≠ 'e' && c ≠ 'E'
    match separated Char.isDigit (rest.takeWhile inFraction), rest.dropWhile inFraction with
    | none, _ => none
    | some fraction, [] => some (fraction, 0)
    | some fraction, _ :: power => (exponent? power).map (fraction, ·)
  | 'e' :: power | 'E' :: power => (exponent? power).map ([], ·)
  | _ => none

def decimal? (text : Text) : Option Decimal :=
  let inWhole (c : Char) : Bool := c.isDigit || c = '_'
  match unsigned? ((unsign text).takeWhile inWhole), tail? ((unsign text).dropWhile inWhole) with
  | some whole, some (fraction, power) =>
    some { negative := isNegative text
           digits := whole * Nat.pow 10 fraction.length + value 10 fraction
           scale := power - fraction.length }
  | _, _ => none

-- The least number that a double cannot hold: half a unit above the largest double.
def doubleBound : Nat := Nat.pow 2 1024 - Nat.pow 2 970

-- Whether the size of the number is out of the range of doubles. Only near the bound, which has 309
-- digits, does it take a comparison.
def Decimal.exceedsDouble (d : Decimal) : Bool :=
  let top := d.scale + (Text.decimal d.digits).length
  if d.digits = 0 || top < 309 then false
  else if 309 < top then true
  else
    match d.scale with
    | .ofNat power => doubleBound ≤ d.digits * Nat.pow 10 power
    | .negSucc power => doubleBound * Nat.pow 10 (power + 1) ≤ d.digits

-- A number that is too large is no float, but one below all doubles is.
def isFloat (text : Text) : Bool :=
  unsign text = ['i', 'n', 'f'] || unsign text = ['n', 'a', 'n'] ||
    (decimal? text).any fun d => d.negative || !d.exceedsDouble

def twoDigits? (a b : Char) : Option Nat :=
  if a.isDigit && b.isDigit then some (value 10 [a, b]) else none

def daysIn (year month : Nat) : Nat :=
  if month = 2 then
    if year % 4 = 0 && (year % 100 ≠ 0 || year % 400 = 0) then 29 else 28
  else if month = 4 || month = 6 || month = 9 || month = 11 then 30
  else 31

def date? : Text → Option Text
  | a :: b :: c :: d :: '-' :: e :: f :: '-' :: g :: h :: rest => do
    let century ← twoDigits? a b
    let inCentury ← twoDigits? c d
    let month ← twoDigits? e f
    let day ← twoDigits? g h
    if 1 ≤ month && month ≤ 12 && 1 ≤ day && day ≤ daysIn (century * 100 + inCentury) month then
      some rest
    else none
  | _ => none

def fractionRest? : Text → Option Text
  | '.' :: c :: rest => if c.isDigit then some (rest.dropWhile Char.isDigit) else none
  | '.' :: [] => none
  | text => some text

def time? : Text → Option Text
  | a :: b :: ':' :: c :: d :: ':' :: e :: f :: rest => do
    let hour ← twoDigits? a b
    let minute ← twoDigits? c d
    let second ← twoDigits? e f
    if hour ≤ 23 && minute ≤ 59 && second ≤ 60 then fractionRest? rest else none
  | _ => none

def isOffset : Text → Bool
  | [] | ['Z'] | ['z'] => true
  | [sign, a, b, ':', c, d] =>
    (sign = '+' || sign = '-') && ((twoDigits? a b).any (· ≤ 23) && (twoDigits? c d).any (· ≤ 59))
  | _ => false

def isMoment (text : Text) : Bool :=
  match date? text with
  | some [] => true
  | some (separator :: rest) =>
    (separator = 'T' || separator = 't' || separator = ' ') && (time? rest).any isOffset
  | none => time? text = some []

end Rdfa.Toml
