import Rdfa.Engine

-- An engine that does what it is told, step by step.
namespace Rdfa

inductive Script.Step where
  | fill (size : Nat)
  | emit (emission : Emission)
  | fail (fault : Fault)
  | interrupt
deriving Repr, DecidableEq

-- A stubborn engine goes on after a refusal.
structure Script where
  steps : List Script.Step
  stubborn : Bool
deriving Repr, DecidableEq

namespace Script

def moves (stubborn : Bool) : List Step → Move (List Step)
  | [] => .stop (.ok ())
  | .fill size :: rest =>
    let next := moves stubborn rest
    .fill size (fun _ => rest) (fun _ => next)
      (if stubborn then next else .stop (.error .interrupted))
  | .emit emission :: rest =>
    let next := moves stubborn rest
    .emit emission next (if stubborn then next else .stop (.error .interrupted))
  | .fail fault :: _ => .stop (.error (.fault fault))
  | .interrupt :: _ => .stop (.error .interrupted)

def engine (script : Script) : Engine where
  State := List Step
  start := moves script.stubborn script.steps
  resume := moves script.stubborn

end Script
end Rdfa
