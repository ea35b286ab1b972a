import Rdfa.Proofs.Bridge.Turn
import Rdfa.Session

-- The run of a session as a path of turns between its engine and its consumer.
namespace Rdfa

theorem Extractor.problem?_eq_none_iff {base : Text} {settings : Settings} :
    Extractor.problem? base settings = none ↔
      base.isEmpty = false ∧ base.any Text.isBlank = false ∧ Iri.isAbsolute base = true ∧
        settings.problem? = none := by
  unfold Extractor.problem?
  cases base.isEmpty <;> cases base.any Text.isBlank <;> cases Iri.isAbsolute base <;> simp

namespace Session

variable {κ : Type}

def extracting (base : Text) (settings : Settings) : Session κ :=
  { base, settings,
    engine := some
      (⟨base, settings.processing, settings.chunkCapacity, false⟩ : Extractor).engine,
    binding := none, bound := 0, released := [], phase := .idle, ledger := {}, stats := {} }

theorem openWith_eq_ok_iff {base : Text} {settings : Settings} {s : Session κ} :
    openWith base settings = .ok s ↔
      Extractor.problem? base settings = none ∧ s = extracting base settings := by
  unfold openWith Extractor.ofBase
  cases sound : Extractor.problem? base settings with
  | some problem => simp
  | none =>
    obtain ⟨named, _, _, valid⟩ := Extractor.problem?_eq_none_iff.mp sound
    simp [withEngine, named, valid, extracting, eq_comm]

structure Ready (s : Session κ) (engine : Engine) (binding : Binding κ) : Prop where
  idle : s.phase = .idle
  loaded : s.engine = some engine
  bound : s.binding = some binding

-- The bridge as the engine first meets it, and the same with the consumer's calls noted.
def entry (s : Session κ) (binding : Binding κ) : Bridge κ :=
  Bridge.initial binding.consumer s.settings s.ledger

def watched (s : Session κ) (binding : Binding κ) : Bridge (Logged κ) :=
  Bridge.initial (.ofInner binding.consumer) s.settings s.ledger

variable [Consumer κ]

def turns (s : Session κ) : List Turn :=
  s.binding.elim [] fun binding => (s.watched binding).turns s.run.calls

def contacts (s : Session κ) : List Contact := s.turns.flatMap (·.contacts)

variable {s : Session κ} {engine : Engine} {binding : Binding κ}

theorem run_of_ready (ready : s.Ready engine binding) : s.run = s.perform engine binding := by
  simp [run, ready.idle, ready.loaded, ready.bound]

-- The run is the same whether or not somebody takes notes.
theorem run_unlogged (engine : Engine) (s : Session κ) (binding : Binding κ) :
    engine.run (s.entry binding) =
      ⟨(engine.run (s.watched binding)).result, (engine.run (s.watched binding)).host.unlogged,
        (engine.run (s.watched binding)).calls⟩ :=
  engine.run_mirrored Bridge.unlogged_mirrors (s.watched binding)

theorem run_calls (ready : s.Ready engine binding) :
    s.run.calls = (engine.run (s.watched binding)).calls := by
  rw [run_of_ready ready]
  exact congrArg Run.calls (run_unlogged engine s binding)

theorem run_turns (ready : s.Ready engine binding) :
    s.turns = (s.watched binding).turns (engine.run (s.watched binding)).calls := by
  rw [turns, ready.bound, run_calls ready]
  rfl

theorem turns_exchanges (ready : s.Ready engine binding) :
    s.turns.map (·.exchange) = s.run.calls := by
  rw [run_turns ready, run_calls ready]
  exact Bridge.turns_exchange _ _

theorem run_path (ready : s.Ready engine binding) :
    Bridge.Path (s.watched binding) s.turns (engine.run (s.watched binding)).host := by
  rw [run_turns ready]
  exact Bridge.run_path engine (s.watched binding)

theorem run_contacts (ready : s.Ready engine binding) :
    s.contacts = (engine.run (s.watched binding)).host.consumer.log :=
  (run_path ready).log.symm

theorem run_outcome (ready : s.Ready engine binding) :
    s.run.outcome = (engine.run (s.watched binding)).host.settle
      (engine.run (s.entry binding)).result := by
  have outcome : s.run.outcome =
      (engine.run (s.entry binding)).host.settle (engine.run (s.entry binding)).result := by
    rw [run_of_ready ready]
    rfl
  rw [outcome, run_unlogged]
  rfl

theorem received_announced (ready : s.Ready engine binding) {graph : Graph} {triple : Triple}
    {answer : Except Text Unit} (heard : .received graph triple answer ∈ s.contacts) :
    ∃ emission accepted, .emitted emission accepted ∈ s.run.calls ∧ emission.graph = graph ∧
      emission.triple.delivery? = some (.triple triple) := by
  obtain ⟨turn, present, inside⟩ := List.mem_flatMap.mp heard
  obtain ⟨before, after, cut⟩ := List.append_of_mem present
  have path := run_path ready
  rw [cut] at path
  obtain ⟨_, _, _, step, _⟩ := path.split
  obtain ⟨emission, accepted, made, tagged, meant⟩ := step.received inside
  refine ⟨emission, accepted, ?_, tagged, meant⟩
  rw [← turns_exchanges ready, ← made]
  exact List.mem_map_of_mem present

theorem run_settled (ready : s.Ready engine binding) :
    s.run.outcome =
      (engine.run (s.watched binding)).host.settle (engine.run (s.watched binding)).result := by
  rw [run_outcome ready, run_unlogged]

end Session
end Rdfa
