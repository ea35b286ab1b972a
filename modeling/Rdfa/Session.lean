import Rdfa.Bridge
import Rdfa.Consumer.Stream
import Rdfa.Extractor

-- One parse of one document, from opening to closing. A session runs at most once; a run without a
-- consumer is none, so one may be bound afterwards.
namespace Rdfa

-- A consumer and the number it was bound under, counting from zero.
structure Binding (κ : Type) where
  ticket : Nat
  consumer : κ
deriving Repr, DecidableEq

-- `bound` counts the consumers bound so far, `released` lists those let go again, in order.
structure Session (κ : Type) where
  base : Text
  settings : Settings
  engine : Option Engine
  binding : Option (Binding κ)
  bound : Nat
  released : List Nat
  phase : Phase
  ledger : Ledger
  stats : Stats

namespace Session

variable {κ : Type}

def withEngine (base : Text) (engine : Engine) (settings : Settings) :
    Except OpeningProblem (Session κ) :=
  if base.isEmpty then .error .emptyBase
  else
    match settings.problem? with
    | some problem => .error (.settings problem)
    | none =>
      .ok { base, settings, engine := some engine, binding := none, bound := 0, released := [],
            phase := .idle, ledger := {}, stats := {} }

def openWith (base : Text) (settings : Settings) : Except OpeningProblem (Session κ) :=
  match Extractor.ofBase base settings with
  | .error problem => .error problem
  | .ok extractor => withEngine base extractor.engine settings

def unbind (s : Session κ) : Session κ :=
  match s.binding with
  | none => s
  | some binding => { s with binding := none, released := s.released ++ [binding.ticket] }

-- Binds a consumer in place of the one before. A closed session lets go of it at once.
def bind (s : Session κ) (consumer : κ) : Session κ :=
  if s.phase = .closed then
    { s with bound := s.bound + 1, released := s.released ++ [s.bound] }
  else
    { s.unbind with binding := some ⟨s.bound, consumer⟩, bound := s.bound + 1 }

def close (s : Session κ) : Session κ :=
  if s.phase = .closed then s
  else { s.unbind with engine := none, phase := .closed }

def isClosed (s : Session κ) : Bool := s.phase = .closed

def releases (s : Session κ) : List Nat :=
  (List.range s.bound).map fun ticket => s.released.count ticket

-- What a call of `run` did. Without a run there are no calls and the session is as before.
structure Ran (κ : Type) where
  outcome : Outcome
  session : Session κ
  calls : List Exchange

variable [Consumer κ]

def perform (s : Session κ) (engine : Engine) (binding : Binding κ) : Ran κ :=
  let run := engine.run (Bridge.initial binding.consumer s.settings s.ledger)
  let outcome := run.host.settle run.result
  { outcome
    session := { s with
      engine := none
      binding := some { binding with consumer := run.host.consumer }
      phase := if outcome.isOk then .completed else .failed
      ledger := run.host.ledger
      stats := run.host.stats }
    calls := run.calls }

def run (s : Session κ) : Ran κ :=
  if s.phase ≠ .idle then ⟨.error (.invalidState s.phase), s, []⟩
  else
    match s.binding, s.engine with
    | none, _ => ⟨.error .noConsumer, s, []⟩
    | some _, none => ⟨.error (.invalidState s.phase), s, []⟩
    | some binding, some engine => s.perform engine binding

end Session

-- Reads all that a script yields with the default settings: the outcome, and the sink after it.
def parseStream {ρ : Type} [Sink ρ] (base : Text) (script : List Stream.Event) (sink : ρ) :
    Outcome × ρ :=
  let opened : Except OpeningProblem (Session (StreamConsumer ρ)) := Session.openWith base {}
  match opened with
  | .error problem => (.error (.ofOpening problem), sink)
  | .ok session =>
    let ran := (session.bind (.new ⟨script, sink⟩)).run
    (ran.outcome, (ran.session.binding.map (·.consumer.stream.sink)).getD sink)

end Rdfa
