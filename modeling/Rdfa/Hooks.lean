import Rdfa.Triple

-- What a running engine may ask of its host: more bytes, and to take a statement.
namespace Rdfa

-- The answer to a request for bytes: what is laid at the front of the buffer, what over its rest,
-- and the count that is reported. A count of zero is the end of the input.
structure Filled where
  written : Bytes
  padding : Option UInt8
  reported : Nat
deriving Repr, DecidableEq

namespace Filled

def nothing : Filled := ⟨[], none, 0⟩

def onto (filled : Filled) (buffer : Bytes) : Bytes :=
  let written := filled.written.take buffer.length
  match filled.padding with
  | none => written ++ buffer.drop written.length
  | some pad => written ++ List.replicate (buffer.length - written.length) pad

-- The bytes a reader takes from a cleared buffer of `size`: never more than the buffer has,
-- however many are reported.
def taken (filled : Filled) (size : Nat) : Bytes :=
  let count := min filled.reported size
  filled.written.take count ++
    List.replicate (count - filled.written.length) (filled.padding.getD 0)

theorem taken_length (filled : Filled) (size : Nat) :
    (filled.taken size).length = min filled.reported size := by
  simp only [taken, List.length_append, List.length_take, List.length_replicate]
  omega

theorem taken_length_le (filled : Filled) (size : Nat) : (filled.taken size).length ≤ size := by
  rw [taken_length]
  exact Nat.min_le_right _ _

end Filled

-- A host: `fill` answers a request for so many bytes and `emit` one statement, and either may
-- refuse. Input runs out: `supply` bounds the answers with bytes that are still to come.
class Hooks (η : Type) where
  fill : η → Nat → Option Filled × η
  emit : η → Emission → Bool × η
  supply : η → Nat
  supply_fill_lt : ∀ {host : η} {size : Nat} {filled : Filled},
    (fill host size).1 = some filled → filled.reported ≠ 0 →
      supply (fill host size).2 < supply host
  supply_fill_le : ∀ (host : η) (size : Nat), supply (fill host size).2 ≤ supply host
  supply_emit_le : ∀ (host : η) (emission : Emission), supply (emit host emission).2 ≤ supply host

end Rdfa
