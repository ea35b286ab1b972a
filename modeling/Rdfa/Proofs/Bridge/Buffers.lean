import Rdfa.Consumer.Playback
import Rdfa.Proofs.Bridge.Turn
import Rdfa.Proofs.Hooks.Parting

-- What becomes of the buffers that a bridge is handed, whatever it is asked before: the consumer is asked
-- for no more than fits, its bytes come first, and nothing else changes unless there is a pad byte.
namespace Rdfa

def Filled.left (answer : Option Filled) (buffer : Bytes) : Bytes :=
  match answer with
  | none => buffer
  | some filled => filled.onto buffer

def Filled.remainder (padding : Option UInt8) (buffer : Bytes) (read : Nat) : Bytes :=
  match padding with
  | none => buffer.drop read
  | some pad => List.replicate (buffer.length - read) pad

inductive Filled.InBounds (settings : Settings) (buffer : Bytes) :
    Option Filled → List Contact → Prop where
  | unasked {answer : Option Filled} (nothing : ∀ filled ∈ answer, filled.reported = 0)
      (kept : left answer buffer = buffer) : InBounds settings buffer answer []
  | failed {size : Nat} {cause : Text} (positive : 1 ≤ size)
      (bounded : size ≤ min buffer.length settings.chunkCapacity)
      (kept : left none buffer = buffer) :
      InBounds settings buffer none [.produced size (.error cause)]
  | read {size : Nat} {chunk : Bytes} {filled : Filled} (positive : 1 ≤ size)
      (bounded : size ≤ min buffer.length settings.chunkCapacity)
      (reported : filled.reported = min size chunk.length)
      (front : (left (some filled) buffer).take filled.reported = chunk.take filled.reported)
      (back : (left (some filled) buffer).drop filled.reported =
        remainder settings.padByte buffer filled.reported) :
      InBounds settings buffer (some filled) [.produced size (.ok chunk)]

inductive Turn.InBounds (settings : Settings) : Turn → Prop where
  | request {size : Nat} {answer : Option Filled} {contacts : List Contact}
      (bounded : ∀ buffer : Bytes, buffer.length = size →
        Filled.InBounds settings buffer answer contacts) :
      InBounds settings ⟨.filled size answer, contacts⟩
  | statement {emission : Emission} {accepted : Bool} {contacts : List Contact}
      (unasked : ∀ contact ∈ contacts, contact.isProduction = false) :
      InBounds settings ⟨.emitted emission accepted, contacts⟩

theorem Filled.onto_nothing (buffer : Bytes) : Filled.nothing.onto buffer = buffer := by
  simp [onto, nothing]

theorem Filled.onto_eq {written : Bytes} {padding : Option UInt8} {reported : Nat} {buffer : Bytes}
    (fits : written.length ≤ buffer.length) :
    (⟨written, padding, reported⟩ : Filled).onto buffer =
      written ++ remainder padding buffer written.length := by
  have whole : written.take buffer.length = written := List.take_of_length_le fits
  unfold onto remainder
  dsimp only
  rw [whole]
  cases padding <;> rfl

namespace Hooks

variable {η : Type} [Hooks η]

def put (host : η) : List Exchange.Question → List Exchange × η
  | [] => ([], host)
  | .bytes size :: rest =>
    let later := put (Hooks.fill host size).2 rest
    (.filled size (Hooks.fill host size).1 :: later.1, later.2)
  | .statement emission :: rest =>
    let later := put (Hooks.emit host emission).2 rest
    (.emitted emission (Hooks.emit host emission).1 :: later.1, later.2)

theorem put_questions (host : η) (questions : List Exchange.Question) :
    (put host questions).1.map (·.question) = questions := by
  induction questions generalizing host with
  | nil => rfl
  | cons question rest ih =>
    cases question with
    | bytes size => exact congrArg (_ :: ·) (ih _)
    | statement emission => exact congrArg (_ :: ·) (ih _)

theorem put_trace (host : η) (questions : List Exchange.Question) :
    Trace host (put host questions).1 (put host questions).2 := by
  induction questions generalizing host with
  | nil => exact .nil
  | cons question rest ih =>
    cases question with
    | bytes size => exact .fill rfl (ih _)
    | statement emission => exact .emit rfl (ih _)

end Hooks

namespace Bridge

variable {κ : Type} [Consumer κ] {b next last : Bridge (Logged κ)} {turn : Turn}
  {turns : List Turn} {settings : Settings}

structure Obeys (settings : Settings) (b : Bridge (Logged κ)) : Prop where
  capacity : b.capacity = settings.chunkCapacity
  padding : b.padByte = settings.padByte

theorem Step.obeys (step : Step b turn next) (obeys : b.Obeys settings) : next.Obeys settings := by
  cases step <;> exact ⟨obeys.capacity, obeys.padding⟩

omit [Consumer κ] in
theorem served_in_bounds (obeys : b.Obeys settings) {buffer : Bytes} {size : Nat} (positive : size ≠ 0)
    (bounded : size ≤ min buffer.length settings.chunkCapacity) (chunk : Bytes) :
    Filled.InBounds settings buffer (some (b.served size chunk)) [.produced size (.ok chunk)] := by
  have length : (chunk.take size).length = min size chunk.length := List.length_take
  have fits : (chunk.take size).length ≤ buffer.length := by omega
  have laid : Filled.left (some (b.served size chunk)) buffer =
      chunk.take size ++ Filled.remainder settings.padByte buffer (chunk.take size).length := by
    rw [← obeys.padding]
    exact Filled.onto_eq fits
  have front : chunk.take size = chunk.take (chunk.take size).length := by
    rw [length, List.take_eq_take_min]
  refine .read (Nat.pos_of_ne_zero positive) bounded length ?_ ?_
  · rw [laid]
    exact List.take_left.trans front
  · rw [laid]
    exact List.drop_left

theorem Step.in_bounds (step : Step b turn next) (obeys : b.Obeys settings) :
    turn.InBounds settings := by
  cases step with
  | fillRefused _ =>
    refine .request fun buffer _ => .unasked ?_ rfl
    intro filled answered
    cases answered
  | fillEnded _ _ =>
    refine .request fun buffer _ => .unasked ?_ (Filled.onto_nothing buffer)
    intro filled answered
    cases answered
    rfl
  | fillEmpty _ _ _ =>
    refine .request fun buffer _ => .unasked ?_ (Filled.onto_nothing buffer)
    intro filled answered
    cases answered
    rfl
  | inputFailed _ _ room _ =>
    refine .request fun buffer fits => .failed (Nat.pos_of_ne_zero room) ?_ rfl
    exact Nat.le_of_eq (by rw [fits, obeys.capacity])
  | inputRead _ _ room _ =>
    refine .request fun buffer fits => served_in_bounds obeys room ?_ _
    exact Nat.le_of_eq (by rw [fits, obeys.capacity])
  | emissionRefused _ => exact .statement (by simp)
  | codeUnknown _ _ => exact .statement (by simp)
  | deliveryRefused _ _ _ => exact .statement (by simp)
  | deliveryTaken _ _ _ => exact .statement (by simp)

theorem Path.in_bounds (path : Path b turns last) (obeys : b.Obeys settings) :
    ∀ turn ∈ turns, turn.InBounds settings := by
  induction path with
  | nil => simp
  | cons step _ ih => exact List.forall_mem_cons.mpr ⟨step.in_bounds obeys, ih (step.obeys obeys)⟩

-- Whatever a bridge is asked: the turns are the questions in order, and what the consumer was asked in
-- them is all it was asked.
theorem put_in_bounds (consumer : κ) (settings : Settings) (ledger : Ledger)
    (questions : List Exchange.Question) :
    let b := initial (Logged.ofInner consumer) settings ledger
    let turns := b.turns (Hooks.put b questions).1
    turns.map (·.exchange.question) = questions ∧
      (Hooks.put b questions).2.consumer.log = turns.flatMap (·.contacts) ∧
      ∀ turn ∈ turns, turn.InBounds settings := by
  intro b turns
  have path : Path b turns (Hooks.put b questions).2 := path_of_trace (Hooks.put_trace b questions)
  refine ⟨?_, path.log, path.in_bounds ⟨rfl, rfl⟩⟩
  have exchanges := turns_exchange b (Hooks.put b questions).1
  rw [← Hooks.put_questions b questions, ← exchanges, List.map_map]
  rfl

-- A chunk of four bytes for a buffer of five, of which three may be asked for.
example : ((initial ({ pieces := [[1, 2, 3, 4]] } : Playback)
    { chunkCapacity := 3, padByte := some 9 } {}).fill 5).1.map (·.onto [0, 0, 0, 0, 0]) =
      some [1, 2, 3, 9, 9] := by decide

end Bridge
end Rdfa
