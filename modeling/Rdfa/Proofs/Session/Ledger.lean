import Rdfa.Proofs.Session.FirstFailure

-- Every statement an engine makes is held once and let go once, whatever comes of it: nothing is held
-- between two calls, and one statement is while the consumer is asked about it.
namespace Rdfa

def Exchange.isEmission : Exchange → Bool
  | .emitted _ _ => true
  | .filled _ _ => false

def Hooks.after {η : Type} [Hooks η] (host : η) (calls : List Exchange) : η :=
  calls.foldl Hooks.answered host

theorem Hooks.Trace.after_eq {η : Type} [Hooks η] {host last : η} {calls : List Exchange}
    (trace : Trace host calls last) : Hooks.after host calls = last := by
  induction trace with
  | nil => rfl
  | @fill host next last size answer rest asked later ih =>
    have reached : Hooks.answered host (.filled size answer) = next := congrArg Prod.snd asked
    rw [Hooks.after, List.foldl_cons, reached]
    exact ih
  | @emit host next last emission accepted rest asked later ih =>
    have reached : Hooks.answered host (.emitted emission accepted) = next :=
      congrArg Prod.snd asked
    rw [Hooks.after, List.foldl_cons, reached]
    exact ih

namespace Ledger

def settled (statements : Nat) : Ledger := ⟨0, statements, statements⟩

def holding (statements : Nat) : Ledger := ⟨1, statements + 1, statements⟩

theorem acquire_settled (statements : Nat) : (settled statements).acquire = holding statements :=
  rfl

theorem release_holding (statements : Nat) :
    (holding statements).release = settled (statements + 1) := rfl

end Ledger

namespace Bridge

variable {κ : Type} [Consumer κ]

theorem deliver_ledger (b : Bridge κ) (emission : Emission) :
    (b.deliver emission).2.ledger = b.ledger := by
  unfold deliver
  split
  · rfl
  · split <;> rfl

theorem fill_ledger (b : Bridge κ) (size : Nat) : (b.fill size).2.ledger = b.ledger := by
  unfold fill
  repeat' split
  all_goals try rfl
  unfold request
  split <;> rfl

-- What was taken is let go in the last of these states, on every way out of the call.
theorem emit_ledger (b : Bridge κ) (emission : Emission) :
    (b.emit emission).2.ledger = (b.lease emission).last.ledger.release := by
  unfold emit
  dsimp only
  split <;> rfl

end Bridge

-- The ledger along these calls of a bridge: at every moment between two of them, and at every moment
-- while a statement is held. Each statement made is counted, refused or not.
structure LedgerBalanced {κ : Type} [Consumer κ] (b : Bridge κ) (calls : List Exchange) : Prop where
  between : ∀ before, before <+: calls →
    (Hooks.after b before).ledger = .settled (before.countP Exchange.isEmission)
  during : ∀ before emission accepted, before ++ [.emitted emission accepted] <+: calls →
    ∀ held ∈ ((Hooks.after b before).lease emission).states,
      held.ledger = .holding (before.countP Exchange.isEmission)
  released : ∀ before emission accepted, before ++ [.emitted emission accepted] <+: calls →
    (Hooks.after b (before ++ [.emitted emission accepted])).ledger =
      ((Hooks.after b before).lease emission).last.ledger.release

namespace Bridge

variable {κ : Type} [Consumer κ] {b : Bridge κ} {statements : Nat}

theorem lease_ledger (settled : b.ledger = .settled statements) (emission : Emission) :
    ∀ held ∈ (b.lease emission).states, held.ledger = .holding statements := by
  have taken : b.acquire.ledger = .holding statements := by
    rw [← Ledger.acquire_settled, ← settled]
    rfl
  intro held present
  rcases List.mem_cons.mp present with rfl | asked
  · exact taken
  · obtain ⟨⟨answer, next⟩, answered, rfl⟩ := Option.map_eq_some_iff.mp (Option.mem_toList.mp asked)
    have delivered : b.acquire.deliver emission = (answer, next) := by
      cases running : b.failure.isSome with
      | true => simp [lease, running] at answered
      | false => simpa [lease, running] using answered
    have kept := deliver_ledger b.acquire emission
    rw [delivered] at kept
    exact kept.trans taken

theorem answered_ledger (settled : b.ledger = .settled statements) (call : Exchange) :
    (Hooks.answered b call).ledger = .settled (statements + call.isEmission.toNat) := by
  cases call with
  | filled size answer => exact (fill_ledger b size).trans settled
  | emitted emission accepted =>
    have ledger := b.emit_ledger emission
    have held : (b.lease emission).last.ledger = .holding statements :=
      lease_ledger settled emission _ (List.getLast_mem _)
    rw [held, Ledger.release_holding] at ledger
    exact ledger

theorem after_ledger (settled : b.ledger = .settled statements) (calls : List Exchange) :
    (Hooks.after b calls).ledger = .settled (statements + calls.countP Exchange.isEmission) := by
  -- The induction is on the calls made so far.
  induction calls generalizing b statements with
  | nil => exact settled
  | cons call rest ih =>
    have counted : (call :: rest).countP Exchange.isEmission =
        call.isEmission.toNat + rest.countP Exchange.isEmission := by
      rw [List.countP_cons, Nat.add_comm]
      cases call <;> rfl
    have later := ih (answered_ledger settled call)
    rw [counted, ← Nat.add_assoc]
    exact later

theorem ledger_balanced (fresh : b.ledger = .settled 0) (calls : List Exchange) :
    LedgerBalanced b calls := by
  have settled (before : List Exchange) :
      (Hooks.after b before).ledger = .settled (before.countP Exchange.isEmission) := by
    rw [after_ledger fresh, Nat.zero_add]
  refine ⟨fun before _ => settled before, ?_, ?_⟩
  · intro before emission accepted _
    exact lease_ledger (settled before) emission
  · intro before emission accepted _
    have next : Hooks.after b (before ++ [.emitted emission accepted]) =
        ((Hooks.after b before).emit emission).2 := List.foldl_append
    rw [next]
    exact emit_ledger _ emission

end Bridge

namespace Session

theorem run_ledger_balanced {κ : Type} [Consumer κ] {s : Session κ} {engine : Engine}
    {binding : Binding κ} (ready : s.Ready engine binding) (fresh : s.ledger = {}) :
    LedgerBalanced (s.entry binding) s.run.calls ∧
      s.run.session.ledger = .settled (s.run.calls.countP Exchange.isEmission) := by
  have start : (s.entry binding).ledger = .settled 0 := fresh
  have balanced := Bridge.ledger_balanced start s.run.calls
  have final : s.run.session.ledger = (Hooks.after (s.entry binding) s.run.calls).ledger := by
    rw [run_of_ready ready]
    exact congrArg Bridge.ledger (engine.run_trace (s.entry binding)).after_eq.symm
  exact ⟨balanced, final.trans (balanced.between _ (List.prefix_refl _))⟩

theorem unheeded_ledger_balanced :
    unheeded.Ready unheeding.engine refusing ∧ unheeded.ledger = {} ∧
      LedgerBalanced (unheeded.entry refusing) unheeded.run.calls ∧
      unheeded.run.session.ledger = .settled (unheeded.run.calls.countP Exchange.isEmission) := by
  have ready : unheeded.Ready unheeding.engine refusing := ⟨rfl, rfl, rfl⟩
  exact ⟨ready, rfl, run_ledger_balanced ready rfl⟩

example : unheeded.run.session.ledger = ⟨0, 2, 2⟩ := by cbv

end Session
end Rdfa
