import Rdfa.Proofs.Session.Counts
import Rdfa.Proofs.Session.CutShort
import Rdfa.Proofs.Session.Ledger
import Rdfa.Proofs.Session.LifeCycle

-- The counters of a run against what happened in it, on both sides of the bridge: nothing that the
-- consumer was asked or the engine was told is left out or counted twice.
namespace Rdfa

namespace Exchange

-- The length that the engine is told it was given.
def returned : Exchange → Nat
  | .filled _ (some answer) => answer.reported
  | .filled _ none | .emitted _ _ => 0

def isTaken : Exchange → Bool
  | .emitted _ accepted => accepted
  | .filled _ _ => false

theorem isTaken_of_accepted {call : Exchange} (accepted : call.isRefused = false) :
    call.isTaken = call.isEmission := by
  match call with
  | .filled _ _ => rfl
  | .emitted _ true => rfl
  | .emitted _ false => cases accepted

theorem isTaken_of_refused {call : Exchange} (refused : call.isRefused = true) :
    call.isTaken = false := by
  match call with
  | .filled _ _ => rfl
  | .emitted _ false => rfl
  | .emitted _ true => cases refused

-- The call that fails and halts the bridge, if there is one, and the calls that are made after it.
def halting (calls : List Exchange) : List Exchange := (calls.dropWhile (!·.isRefused)).take 1

def late (calls : List Exchange) : List Exchange := (calls.dropWhile (!·.isRefused)).drop 1

end Exchange

open Exchange

namespace Stats

def deliveries (stats : Stats) : Nat :=
  stats.defaultTriples + stats.processorTriples + stats.namespaces

theorem countDelivery_deliveries (stats : Stats) (graph : Graph) (delivery : Delivery) :
    (stats.countDelivery graph delivery).deliveries = stats.deliveries + 1 := by
  cases delivery <;> cases graph <;> simp only [countDelivery, deliveries] <;> omega

theorem countDelivery_bytesRead (stats : Stats) (graph : Graph) (delivery : Delivery) :
    (stats.countDelivery graph delivery).bytesRead = stats.bytesRead := by
  cases delivery <;> cases graph <;> rfl

end Stats

namespace Bridge

variable {κ : Type} [Consumer κ] {b next last : Bridge (Logged κ)} {turn : Turn}
  {turns : List Turn}

structure Adds (b : Bridge (Logged κ)) (calls : List Exchange) (last : Bridge (Logged κ)) : Prop where
  bytesRead : last.stats.bytesRead = b.stats.bytesRead + (calls.map (·.returned)).sum
  deliveries : last.stats.deliveries = b.stats.deliveries + calls.countP (·.isTaken)
  acquired : last.ledger.acquired = b.ledger.acquired + calls.countP (·.isEmission)

theorem Step.adds (step : Step b turn next) : b.Adds [turn.exchange] next := by
  cases step with
  | fillRefused _ => exact ⟨rfl, rfl, rfl⟩
  | fillEnded _ _ => exact ⟨rfl, rfl, rfl⟩
  | fillEmpty _ _ _ => exact ⟨rfl, rfl, rfl⟩
  | inputFailed _ _ _ _ => exact ⟨rfl, rfl, rfl⟩
  | inputRead _ _ _ _ => exact ⟨rfl, rfl, rfl⟩
  | emissionRefused _ => exact ⟨rfl, rfl, rfl⟩
  | codeUnknown _ _ => exact ⟨rfl, rfl, rfl⟩
  | deliveryRefused _ _ _ => exact ⟨rfl, rfl, rfl⟩
  | deliveryTaken _ _ _ =>
    exact ⟨b.stats.countDelivery_bytesRead _ _, b.stats.countDelivery_deliveries _ _, rfl⟩

omit [Consumer κ] in
theorem Adds.append {middle : Bridge (Logged κ)} {first second : List Exchange}
    (earlier : b.Adds first middle) (later : middle.Adds second last) :
    b.Adds (first ++ second) last := by
  refine ⟨?_, ?_, ?_⟩
  · rw [later.bytesRead, earlier.bytesRead, List.map_append, List.sum_append, Nat.add_assoc]
  · rw [later.deliveries, earlier.deliveries, List.countP_append, Nat.add_assoc]
  · rw [later.acquired, earlier.acquired, List.countP_append, Nat.add_assoc]

theorem Path.adds (path : Path b turns last) : b.Adds (turns.map (·.exchange)) last := by
  induction path with
  | nil => exact ⟨rfl, rfl, rfl⟩
  | cons step _ ih => exact step.adds.append ih

theorem Path.emissions (path : Path b turns last) :
    (turns.map (·.exchange)).countP (·.isEmission) =
      (turns.map (·.exchange)).countP (·.isTaken) +
        ((turns.map (·.exchange)).dropWhile (!·.isRefused)).countP (·.isEmission) := by
  induction path with
  | nil => rfl
  | @cons b next last turn rest step later ih =>
    cases refused : turn.exchange.isRefused with
    | false =>
      have same := isTaken_of_accepted refused
      rw [List.map_cons, List.dropWhile_cons_of_pos (by simp [refused]), List.countP_cons,
        List.countP_cons, ih, same]
      omega
    | true =>
      have failed : ∃ failure, next.failure = some failure := by
        cases running : b.failure with
        | some failure => exact ⟨failure, (step.of_failed running).2.2⟩
        | none =>
          obtain ⟨failure, kept, _⟩ := step.of_refused running refused
          exact ⟨failure, kept⟩
      obtain ⟨failure, kept⟩ := failed
      have untaken : ((turn :: rest).map (·.exchange)).countP (·.isTaken) = 0 := by
        rw [List.countP_eq_zero]
        intro call present
        obtain ⟨made, inside, rfl⟩ := List.mem_map.mp present
        rcases List.mem_cons.mp inside with rfl | after
        · simp [isTaken_of_refused refused]
        · simp [isTaken_of_refused ((later.of_failed kept).1 made after).1]
      rw [untaken, List.map_cons, List.dropWhile_cons_of_neg (by simp [refused]), Nat.zero_add]

end Bridge

-- The counters after these calls of an engine, in which the consumer was asked this.
structure Conserved (stats : Stats) (ledger : Ledger) (calls : List Exchange)
    (contacts : List Contact) : Prop where
  fillRequests : stats.fillRequests = contacts.countP (·.isProduction)
  bytesRead : stats.bytesRead = (calls.map (·.returned)).sum
  truncatedChunks : stats.truncatedChunks = contacts.countP (·.isCut)
  defaultTriples : stats.defaultTriples = contacts.countP (·.isTaken .default)
  processorTriples : stats.processorTriples = contacts.countP (·.isTaken .processor)
  namespaces : stats.namespaces = contacts.countP (·.isDeclaration)
  failing : (halting calls).countP (·.isEmission) ≤ 1
  acquired : ledger.acquired =
    stats.defaultTriples + stats.processorTriples + stats.namespaces +
      (halting calls).countP (·.isEmission) + (late calls).countP (·.isEmission)

theorem Exchange.countP_halting (calls : List Exchange) :
    (halting calls).countP (·.isEmission) + (late calls).countP (·.isEmission) =
      (calls.dropWhile (!·.isRefused)).countP (·.isEmission) := by
  rw [halting, late, ← List.countP_append, List.take_append_drop]

theorem Exchange.countP_halting_le (calls : List Exchange) :
    (halting calls).countP (·.isEmission) ≤ 1 := by
  apply Nat.le_trans List.countP_le_length
  exact List.length_take_le _ _

namespace Session

variable {κ : Type}

theorem Opened.ledger {s : Session κ} (opened : s.Opened) : s.ledger = {} := by
  cases opened with
  | bundled opened =>
    obtain ⟨_, rfl⟩ := openWith_eq_ok_iff.mp opened
    rfl
  | custom opened =>
    unfold withEngine at opened
    split at opened
    · cases opened
    · split at opened
      · cases opened
      · cases opened
        rfl

variable [Consumer κ] {s : Session κ} {engine : Engine} {binding : Binding κ}

def Uncounted (s : Session κ) : Prop := s.phase = .idle → s.ledger = {}

theorem Uncounted.act (uncounted : s.Uncounted) (act : Act κ) : (s.act act).Uncounted := by
  intro idle
  cases act with
  | bind consumer =>
    have same : (s.bind consumer).phase = s.phase ∧ (s.bind consumer).ledger = s.ledger := by
      unfold bind
      split
      · exact ⟨rfl, rfl⟩
      · rw [unbind_eq]
        exact ⟨rfl, rfl⟩
    exact same.2.trans (uncounted (same.1.symm.trans idle))
  | run =>
    change s.run.session.phase = .idle at idle
    show s.run.session.ledger = {}
    rcases run_cases s with ⟨engine, binding, _, _, run⟩ | ⟨_, failure, _, run, _⟩
    · rw [run] at idle
      rcases s.perform_phase engine binding with done | done <;> cases done.symm.trans idle
    · rw [run] at idle ⊢
      exact uncounted idle
  | close =>
    change s.close.phase = .idle at idle
    unfold close at idle
    split at idle
    · next closed => cases closed.symm.trans idle
    · cases idle

theorem uncounted_after (opened : s.Opened) (acts : List (Act κ)) : (s.after acts).Uncounted :=
  after_preserves (fun _ act uncounted => uncounted.act act) (fun _ => opened.ledger) acts

-- Whatever was done to the session before, and whatever its engine and its consumer do.
theorem run_conserved (opened : s.Opened) (acts : List (Act κ))
    (ready : (s.after acts).Ready engine binding) :
    (s.after acts).contacts = (engine.run ((s.after acts).watched binding)).host.consumer.log ∧
      Conserved (s.after acts).run.session.stats (s.after acts).run.session.ledger
        (s.after acts).run.calls (s.after acts).contacts := by
  have adds := (run_path ready).adds
  have emissions := (run_path ready).emissions
  have fresh : ((s.after acts).watched binding).ledger = {} := uncounted_after opened acts ready.idle
  have counted := run_stats ready
  have kept : (s.after acts).run.session.stats =
      (engine.run ((s.after acts).watched binding)).host.stats := by
    rw [run_of_ready ready]
    exact congrArg (·.host.stats) (run_unlogged engine (s.after acts) binding)
  rw [turns_exchanges ready] at adds emissions
  refine ⟨run_contacts ready, ?_, ?_, ?_, ?_, ?_, ?_, countP_halting_le _, ?_⟩
  · rw [counted]
    rfl
  · rw [kept, adds.bytesRead]
    exact Nat.zero_add _
  · rw [counted]
    rfl
  · rw [counted]
    rfl
  · rw [counted]
    rfl
  · rw [counted]
    rfl
  · show _ = (s.after acts).run.session.stats.deliveries + _ + _
    have deliveries := adds.deliveries
    have acquired := adds.acquired
    rw [fresh] at acquired
    rw [run_ledger ready, kept, acquired, deliveries, emissions, Nat.add_assoc, countP_halting]
    simp [watched, Bridge.initial, Stats.deliveries]

-- A chunk is too long, a statement is taken, one has no meaning, and the engine goes on all the same.
def nonsense : Emission := { statement with triple := { statement.triple with code := 9 } }

def obstinate : Script :=
  ⟨[.fill 2, .emit statement, .emit nonsense, .emit statement, .fill 8], true⟩

def unrun : Session Playback :=
  { base := "http://e/".toList, settings := {}, engine := some obstinate.engine, binding := none,
    bound := 0, released := [], phase := .idle, ledger := {}, stats := {} }

def overlong : List (Act Playback) := [.run, .bind { pieces := [[0x61, 0x62, 0x63]] }]

theorem overlong_conserved :
    unrun.Opened ∧
      (unrun.after overlong).Ready obstinate.engine ⟨0, { pieces := [[0x61, 0x62, 0x63]] }⟩ ∧
      (unrun.after overlong).contacts =
        (obstinate.engine.run ((unrun.after overlong).watched
          ⟨0, { pieces := [[0x61, 0x62, 0x63]] }⟩)).host.consumer.log ∧
      Conserved (unrun.after overlong).run.session.stats (unrun.after overlong).run.session.ledger
        (unrun.after overlong).run.calls (unrun.after overlong).contacts := by
  have given : withEngine "http://e/".toList obstinate.engine {} = .ok unrun := rfl
  have opened : unrun.Opened := .custom given
  have ready : (unrun.after overlong).Ready obstinate.engine
      ⟨0, { pieces := [[0x61, 0x62, 0x63]] }⟩ := ⟨rfl, rfl, rfl⟩
  exact ⟨opened, ready, run_conserved opened overlong ready⟩

example : (unrun.after overlong).run.session.stats =
      { fillRequests := 1, bytesRead := 2, defaultTriples := 1, truncatedChunks := 1 } ∧
    (unrun.after overlong).run.session.ledger = ⟨0, 3, 3⟩ := by cbv

end Session
end Rdfa
