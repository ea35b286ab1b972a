import Rdfa.Proofs.Hooks.Trace

-- One engine in two runs. It asks the same as long as it is answered the same, so two runs part at an
-- answer and nowhere else, whatever the hosts are.
namespace Rdfa

inductive Exchange.Question where
  | bytes (size : Nat)
  | statement (emission : Emission)

def Exchange.question : Exchange → Question
  | .filled size _ => .bytes size
  | .emitted emission _ => .statement emission

-- The calls of two runs: the same until one of them is answered differently. If none is, then
-- `together`.
inductive Parting (together : Prop) : List Exchange → List Exchange → Prop where
  | never (reached : together) : Parting together [] []
  | later {first second : List Exchange} (call : Exchange) (rest : Parting together first second) :
      Parting together (call :: first) (call :: second)
  | here {one other : Exchange} (first second : List Exchange)
      (asked : one.question = other.question) (differ : one ≠ other) :
      Parting together (one :: first) (other :: second)

theorem Parting.of_cons {together : Prop} {one other : Exchange} {first second : List Exchange}
    (parting : Parting together (one :: first) (other :: second)) :
    one.question = other.question ∧ (one = other → Parting together first second) := by
  cases parting with
  | later call rest => exact ⟨rfl, fun _ => rest⟩
  | here first second asked differ => exact ⟨asked, fun same => absurd same differ⟩

theorem Parting.append {middle together : Prop} {first second first' second' : List Exchange}
    (earlier : Parting middle first second)
    (later : middle → Parting together first' second') :
    Parting together (first ++ first') (second ++ second') := by
  induction earlier with
  | never reached => exact later reached
  | later call _ ih => exact .later call ih
  | here first second asked differ => exact .here (first ++ first') (second ++ second') asked differ

variable {σ η ζ : Type} [Hooks η] [Hooks ζ]

theorem Move.play_emit_calls (emission : Emission) (accepted refused : Move σ) (host : η) :
    ∃ rest, ((Move.emit emission accepted refused).play host).2.2 =
      .emitted emission (Hooks.emit host emission).1 :: rest := by
  unfold play
  split
  · next next asked => exact ⟨_, by rw [asked]⟩
  · next next asked => exact ⟨_, by rw [asked]⟩

theorem Move.play_fill_calls (size : Nat) (bytes : Filled → σ) (ended : Filled → Move σ)
    (refused : Move σ) (host : η) :
    ∃ rest, ((Move.fill size bytes ended refused).play host).2.2 =
      .filled size (Hooks.fill host size).1 :: rest := by
  unfold play
  split
  · next next asked => exact ⟨_, by rw [asked]⟩
  · next filled next asked =>
    split
    · exact ⟨_, by rw [asked]⟩
    · exact ⟨_, by rw [asked]⟩

theorem Move.play_parting (move : Move σ) (first : η) (second : ζ) :
    Parting ((move.play first).1 = (move.play second).1) (move.play first).2.2
      (move.play second).2.2 := by
  induction move generalizing first second with
  | stop result => exact .never rfl
  | emit emission accepted refused ihAccepted ihRefused =>
    rcases one : Hooks.emit first emission with ⟨answer, first'⟩
    rcases other : Hooks.emit second emission with ⟨answer', second'⟩
    by_cases same : answer = answer'
    · subst same
      cases answer with
      | true =>
        have rest := ihAccepted first' second'
        simpa only [play, one, other] using rest.later _
      | false =>
        have rest := ihRefused first' second'
        simpa only [play, one, other] using rest.later _
    · obtain ⟨rest, calls⟩ := play_emit_calls emission accepted refused first
      obtain ⟨rest', calls'⟩ := play_emit_calls emission accepted refused second
      rw [calls, calls', one, other]
      exact .here rest rest' rfl (by simpa using same)
  | fill size bytes ended refused ihEnded ihRefused =>
    rcases one : Hooks.fill first size with ⟨answer, first'⟩
    rcases other : Hooks.fill second size with ⟨answer', second'⟩
    by_cases same : answer = answer'
    · subst same
      cases answer with
      | none =>
        have rest := ihRefused first' second'
        simpa only [play, one, other] using rest.later _
      | some filled =>
        by_cases more : filled.reported = 0
        · have rest := ihEnded filled first' second'
          simpa only [play, one, other, more, if_true] using rest.later _
        · simp only [play, one, other, more, if_false]
          exact .later _ (.never trivial)
    · obtain ⟨rest, calls⟩ := play_fill_calls size bytes ended refused first
      obtain ⟨rest', calls'⟩ := play_fill_calls size bytes ended refused second
      rw [calls, calls', one, other]
      exact .here rest rest' rfl (by simpa using same)

namespace Engine

theorem runFrom_cases (engine : Engine) (move : Move engine.State) (host : η) :
    (∃ result, (move.play host).1 = .inl result ∧
      engine.runFrom move host = ⟨result, (move.play host).2.1, (move.play host).2.2⟩) ∨
    (∃ state, (move.play host).1 = .inr state ∧
      engine.runFrom move host =
        { engine.runFrom (engine.resume state) (move.play host).2.1 with
          calls := (move.play host).2.2 ++
            (engine.runFrom (engine.resume state) (move.play host).2.1).calls }) := by
  rcases played : move.play host with ⟨reached, next, calls⟩
  cases reached with
  | inl result => exact .inl ⟨result, rfl, runFrom_of_stop played⟩
  | inr state => exact .inr ⟨state, rfl, runFrom_of_bytes played⟩

theorem runFrom_parting (engine : Engine) (move : Move engine.State) (first : η) (second : ζ) :
    Parting ((engine.runFrom move first).result = (engine.runFrom move second).result)
      (engine.runFrom move first).calls (engine.runFrom move second).calls := by
  -- The induction is on what the first host can still supply.
  induction size : Hooks.supply first using Nat.strongRecOn generalizing move first second with
  | ind supply ih =>
    have parting := move.play_parting first second
    rcases engine.runFrom_cases move first with ⟨result, ended, run⟩ | ⟨state, given, run⟩ <;>
      rcases engine.runFrom_cases move second with ⟨result', ended', run'⟩ | ⟨state', given', run'⟩
    · rw [run, run', ← List.append_nil (move.play first).2.2,
        ← List.append_nil (move.play second).2.2]
      exact parting.append fun same =>
        .never (Sum.inl.inj (ended.symm.trans (same.trans ended')))
    · rw [run, run', ← List.append_nil (move.play first).2.2]
      refine parting.append fun same => ?_
      cases ended.symm.trans (same.trans given')
    · rw [run, run', ← List.append_nil (move.play second).2.2]
      refine parting.append fun same => ?_
      cases given.symm.trans (same.trans ended')
    · rw [run, run']
      have less := Move.supply_play_lt given
      refine parting.append fun same => ?_
      cases Sum.inr.inj (given.symm.trans (same.trans given'))
      exact ih _ (size ▸ less) _ _ _ rfl

theorem run_parting (engine : Engine) (first : η) (second : ζ) :
    Parting ((engine.run first).result = (engine.run second).result) (engine.run first).calls
      (engine.run second).calls :=
  engine.runFrom_parting engine.start first second

end Engine
end Rdfa
