import Rdfa.Text.Basic

-- Bytes to text, one byte at a time. A sequence that breaks off or cannot continue counts as one
-- replacement character, and the byte that broke it is looked at afresh.
namespace Rdfa.Utf8

def replacement : Char := '\uFFFD'

-- A sequence under way: its value so far, the bytes it still lacks, and the bounds of the next.
structure Partial where
  value : Nat
  missing : Nat
  low : Nat
  high : Nat
deriving Repr, DecidableEq

-- `text` is kept in reverse; `valid` is false once a replacement was made.
structure Decoder where
  underWay : Option Partial
  text : Text
  valid : Bool
deriving Repr, DecidableEq

def Decoder.initial : Decoder := ⟨none, [], true⟩

def Decoder.put (d : Decoder) (c : Char) : Decoder :=
  { d with underWay := none, text := c :: d.text }

def Decoder.replace (d : Decoder) : Decoder :=
  { underWay := none, text := replacement :: d.text, valid := false }

def Decoder.await (d : Decoder) (value missing : Nat) (low : Nat := 0x80) (high : Nat := 0xBF) :
    Decoder :=
  { d with underWay := some ⟨value, missing, low, high⟩ }

def Decoder.lead (d : Decoder) (b : Nat) : Decoder :=
  if b < 0x80 then d.put (Char.ofNat b)
  else if b < 0xC2 then d.replace
  else if b < 0xE0 then d.await (b - 0xC0) 1
  else if b = 0xE0 then d.await 0 2 0xA0 0xBF
  else if b = 0xED then d.await 0xD 2 0x80 0x9F
  else if b < 0xF0 then d.await (b - 0xE0) 2
  else if b = 0xF0 then d.await 0 3 0x90 0xBF
  else if b < 0xF4 then d.await (b - 0xF0) 3
  else if b = 0xF4 then d.await 4 3 0x80 0x8F
  else d.replace

def Decoder.step (d : Decoder) (byte : UInt8) : Decoder :=
  let b := byte.toNat
  match d.underWay with
  | none => d.lead b
  | some p =>
    if p.low ≤ b ∧ b ≤ p.high then
      let value := p.value * 64 + (b - 0x80)
      if p.missing ≤ 1 then d.put (Char.ofNat value) else d.await value (p.missing - 1)
    else d.replace.lead b

def Decoder.close (d : Decoder) : Decoder :=
  match d.underWay with
  | none => d
  | some _ => d.replace

def decoded (bytes : Bytes) : Decoder := (bytes.foldl Decoder.step Decoder.initial).close

def decode (bytes : Bytes) : Text := (decoded bytes).text.reverse

def decode? (bytes : Bytes) : Option Text :=
  let d := decoded bytes
  if d.valid then some d.text.reverse else none

end Rdfa.Utf8
