import Rdfa.Engine

-- A run as a chain of calls on its host. Whatever an engine decides to ask, each answer it got is the
-- answer of the host at that moment, so a law of the host's single answers is a law of every run.
namespace Rdfa

namespace Exchange

def isRefused : Exchange → Bool
  | .filled _ answer => answer.isNone
  | .emitted _ accepted => !accepted

def isEnd : Exchange → Bool
  | .filled _ (some answer) => answer.reported = 0
  | .filled _ none | .emitted _ _ => false

def announced? : Exchange → Option Emission
  | .emitted emission _ => some emission
  | .filled _ _ => none

end Exchange

variable {σ η : Type} [Hooks η]

-- The host after a call, whatever answer was noted down for it.
def Hooks.answered (host : η) : Exchange → η
  | .filled size _ => (Hooks.fill host size).2
  | .emitted emission _ => (Hooks.emit host emission).2

inductive Hooks.Trace : η → List Exchange → η → Prop where
  | nil {host : η} : Trace host [] host
  | fill {host next last : η} {size : Nat} {answer : Option Filled} {rest : List Exchange}
      (asked : Hooks.fill host size = (answer, next)) (later : Trace next rest last) :
      Trace host (.filled size answer :: rest) last
  | emit {host next last : η} {emission : Emission} {accepted : Bool} {rest : List Exchange}
      (asked : Hooks.emit host emission = (accepted, next)) (later : Trace next rest last) :
      Trace host (.emitted emission accepted :: rest) last

theorem Hooks.Trace.append {host middle last : η} {first second : List Exchange}
    (earlier : Trace host first middle) (later : Trace middle second last) :
    Trace host (first ++ second) last := by
  induction earlier with
  | nil => exact later
  | fill asked _ ih => exact .fill asked (ih later)
  | emit asked _ ih => exact .emit asked (ih later)

theorem Move.play_trace (move : Move σ) (host : η) :
    Hooks.Trace host (move.play host).2.2 (move.play host).2.1 := by
  induction move generalizing host with
  | stop result => exact .nil
  | emit emission accepted refused ihAccepted ihRefused =>
    unfold play
    split
    · next next asked => exact .emit asked (ihAccepted next)
    · next next asked => exact .emit asked (ihRefused next)
  | fill size bytes ended refused ihEnded ihRefused =>
    unfold play
    split
    · next next asked => exact .fill asked (ihRefused next)
    · next filled next asked =>
      split
      · exact .fill asked (ihEnded filled next)
      · exact .fill asked .nil

def Run.behind {η : Type} (calls : List Exchange) (run : Run η) : Run η :=
  { run with calls := calls ++ run.calls }

namespace Engine

variable {engine : Engine} {move after refused : Move engine.State} {host next : η}
  {result : Except Halt Unit} {calls : List Exchange}

theorem runFrom_of_stop
    (played : move.play host = (.inl result, next, calls)) :
    engine.runFrom move host = ⟨result, next, calls⟩ := by
  rw [runFrom]
  split
  · next found =>
    cases played.symm.trans found
    rfl
  · next found => cases played.symm.trans found

theorem runFrom_of_bytes {state : engine.State} (played : move.play host = (.inr state, next, calls)) :
    engine.runFrom move host = (engine.runFrom (engine.resume state) next).behind calls := by
  rw [runFrom]
  split
  · next found => cases played.symm.trans found
  · next found =>
    cases played.symm.trans found
    rfl

theorem runFrom_of_calls
    (played : move.play host =
      ((after.play next).1, (after.play next).2.1, calls ++ (after.play next).2.2)) :
    engine.runFrom move host = (engine.runFrom after next).behind calls := by
  rcases later : after.play next with ⟨reached, last, others⟩
  rw [later] at played
  cases reached with
  | inl stopped =>
    rw [runFrom_of_stop played, runFrom_of_stop later]
    rfl
  | inr state =>
    rw [runFrom_of_bytes played, runFrom_of_bytes later]
    simp only [Run.behind, List.append_assoc]

-- What a run is, by the move it begins with and the answer to that.
theorem runFrom_stop (engine : Engine) (result : Except Halt Unit) (host : η) :
    engine.runFrom (.stop result) host = ⟨result, host, []⟩ := runFrom_of_stop rfl

theorem runFrom_emit {emission : Emission} {accepted : Bool}
    (asked : Hooks.emit host emission = (accepted, next)) :
    engine.runFrom (.emit emission after refused) host =
      (engine.runFrom (if accepted then after else refused) next).behind
        [.emitted emission accepted] := by
  apply runFrom_of_calls
  cases accepted <;> simp [Move.play, asked]

section Fill

variable {size : Nat} {filled : Filled} {bytes : Filled → engine.State}
  {ended : Filled → Move engine.State}

theorem runFrom_bytes (asked : Hooks.fill host size = (some filled, next))
    (more : filled.reported ≠ 0) :
    engine.runFrom (.fill size bytes ended refused) host =
      (engine.runFrom (engine.resume (bytes filled)) next).behind [.filled size (some filled)] := by
  apply runFrom_of_bytes
  simp only [Move.play, asked, more, if_false]

theorem runFrom_ended (asked : Hooks.fill host size = (some filled, next))
    (nothing : filled.reported = 0) :
    engine.runFrom (.fill size bytes ended refused) host =
      (engine.runFrom (ended filled) next).behind [.filled size (some filled)] := by
  apply runFrom_of_calls
  simp [Move.play, asked, nothing]

theorem runFrom_unfilled (asked : Hooks.fill host size = (none, next)) :
    engine.runFrom (.fill size bytes ended refused) host =
      (engine.runFrom refused next).behind [.filled size none] := by
  apply runFrom_of_calls
  simp [Move.play, asked]

end Fill

theorem runFrom_trace (engine : Engine) (move : Move engine.State) (host : η) :
    Hooks.Trace host (engine.runFrom move host).calls (engine.runFrom move host).host := by
  induction size : Hooks.supply host using Nat.strongRecOn generalizing move host with
  | ind supply ih =>
    have calls := move.play_trace host
    rcases played : move.play host with ⟨reached, next, made⟩
    rw [played] at calls
    cases reached with
    | inl result =>
      rw [runFrom_of_stop played]
      exact calls
    | inr state =>
      rw [runFrom_of_bytes played]
      have given : (move.play host).1 = .inr state := by rw [played]
      have less := Move.supply_play_lt given
      rw [played] at less
      exact calls.append (ih _ (size ▸ less) (engine.resume state) next rfl)

theorem run_trace (engine : Engine) (host : η) :
    Hooks.Trace host (engine.run host).calls (engine.run host).host :=
  engine.runFrom_trace engine.start host

end Engine

-- Two hosts in step: `f` takes one to the other, and no call tells them apart.
structure Hooks.Mirrors {ζ : Type} [Hooks ζ] (f : η → ζ) : Prop where
  fill : ∀ host size,
    Hooks.fill (f host) size = ((Hooks.fill host size).1, f (Hooks.fill host size).2)
  emit : ∀ host emission,
    Hooks.emit (f host) emission = ((Hooks.emit host emission).1, f (Hooks.emit host emission).2)

variable {ζ : Type} [Hooks ζ] {f : η → ζ}

theorem Move.play_mirrored (mirrors : Hooks.Mirrors f) (move : Move σ) (host : η) :
    move.play (f host) = ((move.play host).1, f (move.play host).2.1, (move.play host).2.2) := by
  induction move generalizing host with
  | stop result => rfl
  | emit emission accepted refused ihAccepted ihRefused =>
    rcases asked : Hooks.emit host emission with ⟨answer, next⟩
    have mirrored := mirrors.emit host emission
    rw [asked] at mirrored
    cases answer <;> simp [play, asked, mirrored, ihAccepted, ihRefused]
  | fill size bytes ended refused ihEnded ihRefused =>
    rcases asked : Hooks.fill host size with ⟨answer, next⟩
    have mirrored := mirrors.fill host size
    rw [asked] at mirrored
    cases answer with
    | none => simp [play, asked, mirrored, ihRefused]
    | some filled =>
      by_cases ends : filled.reported = 0 <;> simp [play, asked, mirrored, ends, ihEnded]

theorem Engine.runFrom_mirrored (mirrors : Hooks.Mirrors f) (engine : Engine)
    (move : Move engine.State) (host : η) :
    engine.runFrom move (f host) =
      ⟨(engine.runFrom move host).result, f (engine.runFrom move host).host,
        (engine.runFrom move host).calls⟩ := by
  induction size : Hooks.supply host using Nat.strongRecOn generalizing move host with
  | ind supply ih =>
    have mirrored := move.play_mirrored mirrors host
    rcases played : move.play host with ⟨reached, next, made⟩
    rw [played] at mirrored
    cases reached with
    | inl result => rw [runFrom_of_stop played, runFrom_of_stop mirrored]
    | inr state =>
      have given : (move.play host).1 = .inr state := by rw [played]
      have less := Move.supply_play_lt given
      rw [played] at less
      rw [runFrom_of_bytes played, runFrom_of_bytes mirrored,
        ih _ (size ▸ less) (engine.resume state) next rfl]
      rfl

theorem Engine.run_mirrored (mirrors : Hooks.Mirrors f) (engine : Engine) (host : η) :
    engine.run (f host) =
      ⟨(engine.run host).result, f (engine.run host).host, (engine.run host).calls⟩ :=
  engine.runFrom_mirrored mirrors engine.start host

end Rdfa
