import Rdfa.Failure
import Rdfa.Hooks

-- Engines in general. Between two inputs an engine makes finitely many calls and each next call may
-- depend on every answer before; with the next bytes it goes on from a state of its own.
namespace Rdfa

inductive Halt where
  -- A hook refused.
  | interrupted
  | fault (fault : Fault)
deriving Repr, DecidableEq

-- The calls of an engine until it has bytes to go on with, in a state of type `σ`.
inductive Move (σ : Type) where
  | stop (result : Except Halt Unit)
  | emit (emission : Emission) (accepted refused : Move σ)
  | fill (size : Nat) (bytes : Filled → σ) (ended : Filled → Move σ) (refused : Move σ)

structure Engine where
  State : Type
  start : Move State
  resume : State → Move State

inductive Exchange where
  | filled (size : Nat) (answer : Option Filled)
  | emitted (emission : Emission) (accepted : Bool)
deriving Repr, DecidableEq

namespace Move

variable {σ η : Type} [Hooks η]

def play : Move σ → η → (Except Halt Unit ⊕ σ) × η × List Exchange
  | .stop result, host => (.inl result, host, [])
  | .emit emission accepted refused, host =>
    match Hooks.emit host emission with
    | (true, host) =>
      let (reached, host, calls) := accepted.play host
      (reached, host, .emitted emission true :: calls)
    | (false, host) =>
      let (reached, host, calls) := refused.play host
      (reached, host, .emitted emission false :: calls)
  | .fill size bytes ended refused, host =>
    match Hooks.fill host size with
    | (none, host) =>
      let (reached, host, calls) := refused.play host
      (reached, host, .filled size none :: calls)
    | (some filled, host) =>
      if filled.reported = 0 then
        let (reached, host, calls) := (ended filled).play host
        (reached, host, .filled size (some filled) :: calls)
      else (.inr (bytes filled), host, [.filled size (some filled)])

theorem supply_play_lt {move : Move σ} {host : η} {state : σ}
    (reached : (move.play host).1 = .inr state) :
    Hooks.supply (move.play host).2.1 < Hooks.supply host := by
  induction move generalizing host with
  | stop => cases reached
  | emit emission accepted refused ihAccepted ihRefused =>
    have bound := Hooks.supply_emit_le host emission
    unfold play at reached ⊢
    split at reached
    · next next found =>
      simp only [found] at bound ⊢
      exact Nat.lt_of_lt_of_le (ihAccepted reached) bound
    · next next found =>
      simp only [found] at bound ⊢
      exact Nat.lt_of_lt_of_le (ihRefused reached) bound
  | fill size bytes ended refused ihEnded ihRefused =>
    have bound := Hooks.supply_fill_le host size
    unfold play at reached ⊢
    split at reached
    · next next found =>
      simp only [found] at bound ⊢
      exact Nat.lt_of_lt_of_le (ihRefused reached) bound
    · next filled next found =>
      simp only [found] at bound ⊢
      split at reached
      · next atEnd =>
        simp only [atEnd, if_true] at reached ⊢
        exact Nat.lt_of_lt_of_le (ihEnded filled reached) bound
      · next more =>
        simp only [more, if_false]
        have answer : (Hooks.fill host size).1 = some filled := by rw [found]
        have less := Hooks.supply_fill_lt answer more
        simpa [found] using less

end Move

structure Run (η : Type) where
  result : Except Halt Unit
  host : η
  calls : List Exchange

namespace Engine

variable {η : Type} [Hooks η]

def runFrom (engine : Engine) (move : Move engine.State) (host : η) : Run η :=
  match _played : move.play host with
  | (.inl result, host, calls) => ⟨result, host, calls⟩
  | (.inr state, next, calls) =>
    let rest := engine.runFrom (engine.resume state) next
    { rest with calls := calls ++ rest.calls }
termination_by Hooks.supply host
decreasing_by
  have reached : (move.play host).1 = .inr state := by rw [_played]
  have less := Move.supply_play_lt reached
  simpa [_played] using less

def run (engine : Engine) (host : η) : Run η := engine.runFrom engine.start host

end Engine
end Rdfa
