import Rdfa.Consumer
import Rdfa.Engine

-- Between an engine and a consumer. The first failure of the consumer is kept, and from then on
-- every call of the engine is refused without asking the consumer again.
namespace Rdfa

structure Stats where
  fillRequests : Nat := 0
  bytesRead : Nat := 0
  defaultTriples : Nat := 0
  processorTriples : Nat := 0
  namespaces : Nat := 0
  -- Chunks that were longer than asked for.
  truncatedChunks : Nat := 0
deriving Repr, DecidableEq

structure Ledger where
  live : Nat := 0
  acquired : Nat := 0
  released : Nat := 0
deriving Repr, DecidableEq

namespace Ledger

def acquire (ledger : Ledger) : Ledger :=
  { ledger with live := ledger.live + 1, acquired := ledger.acquired + 1 }

def release (ledger : Ledger) : Ledger :=
  { ledger with live := ledger.live - 1, released := ledger.released + 1 }

end Ledger

namespace Stats

def countFill (stats : Stats) (read : Nat) (truncated : Bool) : Stats :=
  { stats with
    fillRequests := stats.fillRequests + 1
    bytesRead := stats.bytesRead + read
    truncatedChunks := stats.truncatedChunks + truncated.toNat }

def countDelivery (stats : Stats) : Graph → Delivery → Stats
  | _, .namespace _ _ => { stats with namespaces := stats.namespaces + 1 }
  | .default, .triple _ => { stats with defaultTriples := stats.defaultTriples + 1 }
  | .processor, .triple _ => { stats with processorTriples := stats.processorTriples + 1 }

end Stats

-- `ended` once the engine was told of the end of the input, `failure` once the consumer failed.
structure Bridge (κ : Type) where
  consumer : κ
  capacity : Nat
  padByte : Option UInt8
  ledger : Ledger
  stats : Stats
  ended : Bool
  failure : Option Failure
deriving Repr, DecidableEq

namespace Bridge

variable {κ : Type} [Consumer κ]

def initial (consumer : κ) (settings : Settings) (ledger : Ledger) : Bridge κ :=
  { consumer, capacity := settings.chunkCapacity, padByte := settings.padByte, ledger, stats := {},
    ended := false, failure := none }

-- Asks the consumer for at most `size` bytes, which is not zero. What is too long is cut, and the
-- rest of it is lost.
def request (b : Bridge κ) (size : Nat) : Option Filled × Bridge κ :=
  match Consumer.produce b.consumer size with
  | (.error cause, consumer) =>
    (none, { b with
      consumer
      stats := { b.stats with fillRequests := b.stats.fillRequests + 1 }
      failure := some (.inputProduction cause) })
  | (.ok chunk, consumer) =>
    let written := chunk.take size
    (some ⟨written, b.padByte, written.length⟩, { b with
      consumer
      stats := b.stats.countFill written.length (size < chunk.length)
      ended := written.isEmpty })

def fill (b : Bridge κ) (size : Nat) : Option Filled × Bridge κ :=
  if b.failure.isSome then (none, b)
  else if b.ended then (some .nothing, b)
  else if min size b.capacity = 0 then (some .nothing, { b with ended := true })
  else b.request (min size b.capacity)

def unknownCode (code : UInt8) : Failure :=
  .engine (.internal ("unknown object type code ".toList ++ Text.decimal code.toNat))

def deliver (b : Bridge κ) (emission : Emission) : Except Failure Unit × Bridge κ :=
  match emission.triple.delivery? with
  | none => (.error (unknownCode emission.triple.code), b)
  | some delivery =>
    match Consumer.accept b.consumer emission.graph delivery with
    | (.error cause, consumer) => (.error (.tripleDelivery cause), { b with consumer })
    | (.ok (), consumer) =>
      (.ok (), { b with consumer, stats := b.stats.countDelivery emission.graph delivery })

def acquire (b : Bridge κ) : Bridge κ := { b with ledger := b.ledger.acquire }

def release (b : Bridge κ) : Bridge κ := { b with ledger := b.ledger.release }

end Bridge

-- A statement while it is held: the bridge that took it, and what the consumer said about it, if it was
-- asked, with the bridge that asked.
structure Lease (κ : Type) where
  taken : Bridge κ
  answered : Option (Except Failure Unit × Bridge κ)

namespace Lease

variable {κ : Type}

def states (lease : Lease κ) : List (Bridge κ) := lease.taken :: (lease.answered.map (·.2)).toList

def last (lease : Lease κ) : Bridge κ := lease.states.getLast (List.cons_ne_nil _ _)

end Lease

namespace Bridge

variable {κ : Type} [Consumer κ]

-- A consumer that failed before is not asked.
def lease (b : Bridge κ) (emission : Emission) : Lease κ where
  taken := b.acquire
  answered := if b.failure.isSome then none else some (b.acquire.deliver emission)

-- A statement is let go once the consumer is done with it, whatever comes of it.
def emit (b : Bridge κ) (emission : Emission) : Bool × Bridge κ :=
  let lease := b.lease emission
  let b := lease.last.release
  match lease.answered with
  | none => (false, b)
  | some (.ok (), _) => (true, b)
  | some (.error failure, _) => (false, { b with failure := some failure })

theorem emit_of_failure {b : Bridge κ} {failure : Failure} (failed : b.failure = some failure)
    (emission : Emission) : b.emit emission = (false, b.acquire.release) := by
  simp [emit, lease, Lease.last, Lease.states, failed]

theorem emit_of_running {b : Bridge κ} (running : b.failure = none) (emission : Emission) :
    b.emit emission = match b.acquire.deliver emission with
      | (.ok (), b) => (true, b.release)
      | (.error failure, b) => (false, { b.release with failure := some failure }) := by
  rcases answered : b.acquire.deliver emission with ⟨_ | _, _⟩ <;>
    simp [emit, lease, Lease.last, Lease.states, running, answered]

theorem supply_fill_le (b : Bridge κ) (size : Nat) :
    Consumer.supply (b.fill size).2.consumer ≤ Consumer.supply b.consumer := by
  unfold fill
  repeat' split
  all_goals try exact Nat.le_refl _
  have bound := Consumer.supply_produce_le b.consumer (min size b.capacity)
  unfold request
  split
  all_goals
    next found =>
    rw [found] at bound
    exact bound

theorem supply_fill_lt {b : Bridge κ} {size : Nat} {filled : Filled}
    (answered : (b.fill size).1 = some filled) (more : filled.reported ≠ 0) :
    Consumer.supply (b.fill size).2.consumer < Consumer.supply b.consumer := by
  unfold fill at answered ⊢
  split at answered
  · cases answered
  · next running =>
    rw [if_neg running]
    split at answered
    · cases answered
      exact absurd rfl more
    · next open_ =>
      rw [if_neg open_]
      split at answered
      · cases answered
        exact absurd rfl more
      · next room =>
        rw [if_neg room]
        unfold request at answered ⊢
        split at answered
        · cases answered
        · next chunk consumer found =>
          cases answered
          have bytes : chunk ≠ [] := by
            intro empty
            simp [empty] at more
          have answer : (Consumer.produce b.consumer (min size b.capacity)).1 = .ok chunk := by
            rw [found]
          have less := Consumer.supply_produce_lt (Nat.pos_of_ne_zero room) answer bytes
          rw [found] at less
          exact less

theorem supply_deliver_le (b : Bridge κ) (emission : Emission) :
    Consumer.supply (b.deliver emission).2.consumer ≤ Consumer.supply b.consumer := by
  unfold deliver
  split
  · exact Nat.le_refl _
  · next delivery known =>
    have bound := Consumer.supply_accept_le b.consumer emission.graph delivery
    split
    all_goals
      next accepted =>
      rw [accepted] at bound
      exact bound

theorem supply_emit_le (b : Bridge κ) (emission : Emission) :
    Consumer.supply (b.emit emission).2.consumer ≤ Consumer.supply b.consumer := by
  have bound := supply_deliver_le b.acquire emission
  cases failed : b.failure with
  | some failure =>
    rw [emit_of_failure failed]
    exact Nat.le_refl _
  | none =>
    rw [emit_of_running failed]
    split
    all_goals
      next delivered =>
      rw [delivered] at bound
      exact bound

instance : Hooks (Bridge κ) where
  fill := fill
  emit := emit
  supply b := Consumer.supply b.consumer
  supply_fill_lt := supply_fill_lt
  supply_fill_le := supply_fill_le
  supply_emit_le := supply_emit_le

def baselessInterruption : Fault :=
  .internal "engine reported an interruption the bridge never raised".toList

-- What a run comes to: the consumer's failure goes before anything the engine says.
def settle (b : Bridge κ) (result : Except Halt Unit) : Outcome :=
  match b.failure, result with
  | some failure, _ => .error failure
  | none, .ok () => .ok ()
  | none, .error (.fault fault) => .error (.engine fault)
  | none, .error .interrupted => .error (.engine baselessInterruption)

end Bridge
end Rdfa
