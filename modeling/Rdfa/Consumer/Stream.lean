import Rdfa.Consumer
import Rdfa.Triple.NTriples

-- A consumer over a source that is read piecemeal: reads may be short, may be interrupted and tried
-- again, and may fail for good.
namespace Rdfa

inductive Stream.Event where
  | data (bytes : Bytes)
  | interruption
  | failure (cause : Text)
deriving Repr, DecidableEq

class Sink (ρ : Type) where
  put : ρ → Graph → Triple → Except Text Unit × ρ

structure Stream (ρ : Type) where
  script : List Stream.Event
  sink : ρ
deriving Repr, DecidableEq

namespace Stream

inductive Attempt where
  | wrote (count : Nat)
  | interrupted
  | failed (cause : Text)
deriving Repr, DecidableEq

def putBack (left : Bytes) (rest : List Event) : List Event :=
  if left.isEmpty then rest else .data left :: rest

-- One read into `buffer`: the front of it is written over, and what is behind that stays.
def attempt (buffer : Bytes) : List Event → Attempt × Bytes × List Event
  | [] => (.wrote 0, buffer, [])
  | .interruption :: rest => (.interrupted, buffer, rest)
  | .failure cause :: rest => (.failed cause, buffer, rest)
  | .data bytes :: rest =>
    let written := bytes.take buffer.length
    (.wrote written.length, written ++ buffer.drop written.length,
      putBack (bytes.drop buffer.length) rest)

theorem length_of_interrupted {buffer later : Bytes} {script rest : List Event}
    (interrupted : attempt buffer script = (.interrupted, later, rest)) :
    rest.length < script.length := by
  unfold attempt at interrupted
  split at interrupted <;> cases interrupted
  exact Nat.lt_succ_self _

-- An interrupted read is tried again at once, into the same buffer.
def readInto (buffer : Bytes) (script : List Event) : Except Text Nat × Bytes × List Event :=
  match _ : attempt buffer script with
  | (.wrote count, buffer, rest) => (.ok count, buffer, rest)
  | (.failed cause, buffer, rest) => (.error cause, buffer, rest)
  | (.interrupted, buffer, rest) => readInto buffer rest
termination_by script.length
decreasing_by exact length_of_interrupted ‹_›

def size : List Event → Nat
  | [] => 0
  | .data bytes :: rest => bytes.length + size rest
  | .interruption :: rest | .failure _ :: rest => size rest

theorem size_putBack (left : Bytes) (rest : List Event) :
    size (putBack left rest) = left.length + size rest := by
  unfold putBack
  split
  · next empty => simp_all
  · simp [size]

theorem readInto_nil (buffer : Bytes) : readInto buffer [] = (.ok 0, buffer, []) := by
  simp [readInto, attempt]

theorem readInto_interruption (buffer : Bytes) (rest : List Event) :
    readInto buffer (.interruption :: rest) = readInto buffer rest := by
  rw [readInto]
  rfl

theorem readInto_failure (buffer : Bytes) (cause : Text) (rest : List Event) :
    readInto buffer (.failure cause :: rest) = (.error cause, buffer, rest) := by
  simp [readInto, attempt]

theorem readInto_data (buffer bytes : Bytes) (rest : List Event) :
    readInto buffer (.data bytes :: rest) =
      (.ok (bytes.take buffer.length).length,
        bytes.take buffer.length ++ buffer.drop (bytes.take buffer.length).length,
        putBack (bytes.drop buffer.length) rest) := by
  simp [readInto, attempt]

theorem size_readInto (buffer : Bytes) (script : List Event) :
    (readInto buffer script).1.toOption.getD 0 + size (readInto buffer script).2.2 = size script := by
  induction script with
  | nil => simp [readInto_nil, Except.toOption]
  | cons event rest ih =>
    cases event with
    | interruption =>
      rw [readInto_interruption]
      exact ih
    | failure cause => simp [readInto_failure, size, Except.toOption]
    | data bytes =>
      simp only [readInto_data, Except.toOption, Option.getD_some, size_putBack, size,
        List.length_take, List.length_drop]
      omega

end Stream

-- The consumer over a stream. All its reads go into one buffer, which keeps what earlier ones left in it.
structure StreamConsumer (ρ : Type) where
  stream : Stream ρ
  scratch : Bytes
deriving Repr, DecidableEq

namespace StreamConsumer

variable {ρ : Type}

def new (stream : Stream ρ) : StreamConsumer ρ := ⟨stream, []⟩

def resize (scratch : Bytes) (size : Nat) : Bytes :=
  scratch.take size ++ List.replicate (size - scratch.length) 0

def produce (consumer : StreamConsumer ρ) (size : Nat) : Except Text Bytes × StreamConsumer ρ :=
  let (answer, scratch, script) :=
    Stream.readInto (resize consumer.scratch size) consumer.stream.script
  (answer.map scratch.take, ⟨{ consumer.stream with script }, scratch⟩)

theorem size_produce_le (consumer : StreamConsumer ρ) (n : Nat) :
    Stream.size (consumer.produce n).2.stream.script ≤ Stream.size consumer.stream.script := by
  have kept := Stream.size_readInto (resize consumer.scratch n) consumer.stream.script
  exact kept ▸ Nat.le_add_left _ _

theorem size_produce_lt {consumer : StreamConsumer ρ} {n : Nat} {chunk : Bytes}
    (answered : (consumer.produce n).1 = .ok chunk) (more : chunk ≠ []) :
    Stream.size (consumer.produce n).2.stream.script < Stream.size consumer.stream.script := by
  have kept := Stream.size_readInto (resize consumer.scratch n) consumer.stream.script
  unfold produce at answered ⊢
  generalize Stream.readInto (resize consumer.scratch n) consumer.stream.script = read at *
  obtain ⟨cause | count, scratch, script⟩ := read
  · cases answered
  · cases answered
    have positive : 0 < (scratch.take count).length := List.length_pos_iff.mpr more
    simp only [Except.toOption, Option.getD_some, List.length_take] at kept positive ⊢
    omega

instance [Sink ρ] : Consumer (StreamConsumer ρ) where
  produce := produce
  receive consumer graph triple :=
    let answer := Sink.put consumer.stream.sink graph triple
    (answer.1, { consumer with stream.sink := answer.2 })
  supply consumer := Stream.size consumer.stream.script
  supply_produce_lt _ answered more := size_produce_lt answered more
  supply_produce_le := size_produce_le
  supply_receive_le _ _ _ := Nat.le_refl _
  supply_receiveNamespace_le _ _ _ := Nat.le_refl _

end StreamConsumer

-- One request to a new consumer of the stream.
def Stream.produce {ρ : Type} (stream : Stream ρ) (size : Nat) : Except Text Bytes × Stream ρ :=
  let (answer, consumer) := (StreamConsumer.new stream).produce size
  (answer, consumer.stream)

-- A sink that keeps statements as lines, latest first, and may refuse one by its number.
structure Lines where
  kept : List (Graph × Text)
  offered : Nat
  refused : Option Nat
deriving Repr, DecidableEq

instance : Sink Lines where
  put lines graph triple :=
    let counted := { lines with offered := lines.offered + 1 }
    if lines.refused = some lines.offered then
      (.error ("delivery ".toList ++ Text.decimal lines.offered ++ " refused".toList), counted)
    else (.ok (), { counted with kept := (graph, NTriples.line triple) :: lines.kept })

end Rdfa
