import Rdfa.Proofs.Session.LifeCycle

-- What becomes of the consumers of a session. Every one is let go of once, in the order of binding, and
-- none but the last that was bound is still held.
namespace Rdfa.Session

variable {κ : Type} {s : Session κ}

-- A session is closed when it goes out of use, and whatever it holds by then goes with it.
def dropped (s : Session κ) : Session κ := s.close.unbind

def held (s : Session κ) : List Nat := (s.binding.map (·.ticket)).toList

-- Every ticket given out is accounted for: let go of in order, or held as the last.
structure Accounted (s : Session κ) : Prop where
  tickets : s.released ++ s.held = List.range s.bound
  closed : s.phase = .closed → s.binding = none

namespace Accounted

theorem unbind (accounted : s.Accounted) : s.unbind.released = List.range s.bound := by
  rw [unbind_eq]
  exact accounted.tickets

theorem released_of_closed (accounted : s.Accounted) (closed : s.phase = .closed) :
    s.released = List.range s.bound := by
  have tickets := accounted.tickets
  rwa [held, accounted.closed closed, Option.map_none, Option.toList_none, List.append_nil] at tickets

theorem bind (accounted : s.Accounted) (consumer : κ) : (s.bind consumer).Accounted := by
  unfold Session.bind
  split
  · next closed =>
    have emptied := accounted.closed closed
    refine ⟨?_, fun _ => emptied⟩
    simp [held, emptied, accounted.released_of_closed closed, List.range_succ]
  · next open_ =>
    refine ⟨?_, fun closed => ?_⟩
    · show s.unbind.released ++ [s.bound] = List.range (s.bound + 1)
      rw [accounted.unbind, List.range_succ]
    · rw [unbind_eq] at closed
      exact absurd closed open_

theorem close (accounted : s.Accounted) : s.close.Accounted := by
  unfold Session.close
  split
  · exact accounted
  · have released := accounted.unbind
    rw [unbind_eq] at released ⊢
    exact ⟨by simpa [held] using released, fun _ => rfl⟩

theorem drop (accounted : s.Accounted) : s.dropped.released = List.range s.bound := by
  have bound : s.close.bound = s.bound := by
    unfold Session.close
    split
    · rfl
    · rw [unbind_eq]
  rw [dropped, accounted.close.unbind, bound]

variable [Consumer κ]

theorem run (accounted : s.Accounted) : s.run.session.Accounted := by
  rcases run_cases s with ⟨engine, binding, ready, _, run⟩ | ⟨_, failure, _, run, _⟩
  · have tickets := accounted.tickets
    rw [held, ready.bound] at tickets
    rw [run]
    refine ⟨tickets, fun closed => ?_⟩
    rcases s.perform_phase engine binding with done | done <;> cases done.symm.trans closed
  · rw [run]
    exact accounted

theorem act (accounted : s.Accounted) (act : Act κ) : (s.act act).Accounted := by
  cases act with
  | bind consumer => exact accounted.bind consumer
  | run => exact accounted.run
  | close => exact accounted.close

theorem after (accounted : s.Accounted) (acts : List (Act κ)) : (s.after acts).Accounted :=
  after_preserves (fun _ act accounted => accounted.act act) accounted acts

end Accounted

theorem Opened.accounted (opened : s.Opened) : s.Accounted := by
  have fresh := opened.fresh
  refine ⟨?_, fun _ => fresh.unbound⟩
  rw [held, fresh.kept, fresh.unbound, fresh.none]
  rfl

variable [Consumer κ]

end Rdfa.Session
