import Rdfa.Hooks

-- A host with fixed input: pieces are handed out in order, as much of the first as fits, and chosen
-- calls are refused.
namespace Rdfa.Hooks

structure Feed where
  pieces : List Bytes
  -- How many bytes more than written each answer claims.
  excess : Nat
  fills : Nat
  emits : Nat
  refusedFill : Option Nat
  refusedEmit : Option Nat
  -- Latest first.
  emitted : List Emission
deriving Repr, DecidableEq

namespace Feed

def ofPieces (pieces : List Bytes) : Feed := ⟨pieces, 0, 0, 0, none, none, []⟩

def putBack (left : Bytes) (rest : List Bytes) : List Bytes :=
  if left.isEmpty then rest else left :: rest

-- A piece may be empty; what is claimed for it is the excess alone.
def fill (feed : Feed) (size : Nat) : Option Filled × Feed :=
  let counted := { feed with fills := feed.fills + 1 }
  if feed.refusedFill = some feed.fills then (none, counted)
  else if size = 0 then (some .nothing, counted)
  else
    match feed.pieces with
    | [] => (some .nothing, counted)
    | piece :: rest =>
      let written := piece.take size
      (some ⟨written, none, written.length + feed.excess⟩,
        { counted with pieces := putBack (piece.drop size) rest })

def emit (feed : Feed) (emission : Emission) : Bool × Feed :=
  let counted := { feed with emits := feed.emits + 1 }
  if feed.refusedEmit = some feed.emits then (false, counted)
  else (true, { counted with emitted := emission :: feed.emitted })

-- The bytes still to come, and one more for each piece.
def size : List Bytes → Nat
  | [] => 0
  | piece :: rest => piece.length + 1 + size rest

theorem size_putBack_le (left : Bytes) (rest : List Bytes) :
    size (putBack left rest) ≤ left.length + 1 + size rest := by
  unfold putBack
  split
  · omega
  · exact Nat.le_refl _

theorem size_putBack_drop_lt {piece : Bytes} {n : Nat} (asked : n ≠ 0) (rest : List Bytes) :
    size (putBack (piece.drop n) rest) < size (piece :: rest) := by
  cases piece with
  | nil =>
    simp only [List.drop_nil, putBack, List.isEmpty_nil, if_true, size, List.length_nil]
    omega
  | cons b piece =>
    have bound := size_putBack_le ((b :: piece).drop n) rest
    simp only [List.length_drop, List.length_cons] at bound
    simp only [size, List.length_cons]
    omega

theorem size_fill_le (feed : Feed) (n : Nat) : size (fill feed n).2.pieces ≤ size feed.pieces := by
  unfold fill
  split
  · exact Nat.le_refl _
  · split
    · exact Nat.le_refl _
    · next asked =>
      split
      · exact Nat.le_refl _
      · next piece rest found =>
        rw [found]
        exact Nat.le_of_lt (size_putBack_drop_lt asked rest)

theorem size_fill_lt {feed : Feed} {n : Nat} {filled : Filled}
    (answered : (fill feed n).1 = some filled) (more : filled.reported ≠ 0) :
    size (fill feed n).2.pieces < size feed.pieces := by
  unfold fill at answered ⊢
  split at answered
  · cases answered
  · next allowed =>
    rw [if_neg allowed]
    split at answered
    · cases answered
      exact absurd rfl more
    · next asked =>
      rw [if_neg asked]
      split at answered
      · cases answered
        exact absurd rfl more
      · next piece rest found =>
        rw [found]
        exact size_putBack_drop_lt asked rest

instance : Hooks Feed where
  fill := fill
  emit := emit
  supply feed := size feed.pieces
  supply_fill_lt := size_fill_lt
  supply_fill_le := size_fill_le
  supply_emit_le feed emission := by
    unfold emit
    split <;> exact Nat.le_refl _

end Feed
end Rdfa.Hooks
