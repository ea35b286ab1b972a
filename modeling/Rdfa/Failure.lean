import Rdfa.Settings
import Rdfa.Text.Quoted

-- Everything a run can end with besides success. Each kind has a number that hosts may rely on.
namespace Rdfa

inductive Fault where
  | malformed (position : Nat) (detail : Text)
  -- The engine broke its own contract.
  | internal (detail : Text)
deriving Repr, DecidableEq

def Fault.detail : Fault → Text
  | malformed _ detail => detail
  | internal detail => detail

def Fault.message : Fault → Text
  | malformed position detail =>
    "malformed input at byte ".toList ++ Text.decimal position ++ ": ".toList ++ detail
  | internal detail => "internal engine fault: ".toList ++ detail

inductive Phase where
  | idle
  | running
  | completed
  | failed
  | closed
deriving Repr, DecidableEq

def Phase.name : Phase → Text
  | idle => "idle".toList
  | running => "running".toList
  | completed => "completed".toList
  | failed => "failed".toList
  | closed => "closed".toList

inductive OpeningProblem where
  | emptyBase
  | blankInBase (base : Text)
  | relativeBase (base : Text)
  | settings (problem : Settings.Problem)
deriving Repr, DecidableEq

def OpeningProblem.message : OpeningProblem → Text
  | emptyBase => "base identifier is empty".toList
  | blankInBase base =>
    "base identifier ".toList ++ Text.quoted base ++ " contains whitespace".toList
  | relativeBase base =>
    "base identifier ".toList ++ Text.quoted base ++ " is not an absolute IRI".toList
  | settings problem => problem.message

inductive Failure where
  | initialization (message : Text)
  -- The consumer could not produce input.
  | inputProduction (cause : Text)
  -- The consumer refused a delivery.
  | tripleDelivery (cause : Text)
  | engine (fault : Fault)
  | noConsumer
  | invalidState (phase : Phase)
deriving Repr, DecidableEq

namespace Failure

def ofOpening (problem : OpeningProblem) : Failure := .initialization problem.message

def code : Failure → Nat
  | engine (.malformed _ _) => 1
  | inputProduction _ => 2
  | tripleDelivery _ => 3
  | engine (.internal _) => 4
  | initialization _ => 5
  | noConsumer | invalidState _ => 6

def message : Failure → Text
  | initialization message => "cannot open session: ".toList ++ message
  | inputProduction cause => "consumer failed to produce input: ".toList ++ cause
  | tripleDelivery cause => "consumer failed to accept triple: ".toList ++ cause
  | engine fault => fault.message
  | noConsumer => "no consumer bound to session".toList
  | invalidState phase => "session cannot run from state ".toList ++ phase.name

def source? : Failure → Option Text
  | inputProduction cause | tripleDelivery cause => some cause
  | _ => none

def successCode : Nat := 0

end Failure

abbrev Outcome := Except Failure Unit

def Outcome.code (outcome : Outcome) : Nat :=
  match outcome with
  | .ok () => Failure.successCode
  | .error failure => failure.code

end Rdfa
