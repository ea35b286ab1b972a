import Rdfa.Proofs.Extractor.Schedule

-- What a run of the extractor comes to with a host that may refuse at any moment. It leaves with the first
-- call that is refused, and has told a beginning of what the bytes it was given make known; if none is
-- refused, it tells all of that and ends as the reading of those bytes ends.
namespace Rdfa

open Document

namespace Exchange

def piece? : Exchange → Option Bytes
  | .filled size (some answer) => some (answer.taken size)
  | .filled _ none | .emitted _ _ => none

def announcements (calls : List Exchange) : List Emission := calls.filterMap announced?

def pieces (calls : List Exchange) : List Bytes := calls.filterMap piece?

theorem announcements_accepted (emissions : List Emission) (calls : List Exchange) :
    announcements (emissions.map (.emitted · true) ++ calls) = emissions ++ announcements calls := by
  induction emissions with
  | nil => rfl
  | cons emission rest ih => exact congrArg (emission :: ·) ih

theorem pieces_accepted (emissions : List Emission) (calls : List Exchange) :
    pieces (emissions.map (.emitted · true) ++ calls) = pieces calls := by
  induction emissions with
  | nil => rfl
  | cons emission rest ih => exact ih

end Exchange

open Exchange

theorem Filled.taken_of_nothing {filled : Filled} (nothing : filled.reported = 0) (size : Nat) :
    filled.taken size = [] := by
  have length := filled.taken_length size
  rw [nothing, Nat.zero_min] at length
  exact List.length_eq_zero_iff.mp length

-- The result and the calls of a run that has `told` to tell of its pieces: statements, and how it ends.
inductive Unwinds (told : List Bytes → List Emission × Except Halt Unit) (result : Except Halt Unit)
    (calls : List Exchange) : Prop where
  | refused {earlier : List Exchange} {last : Exchange} (made : calls = earlier ++ [last])
      (accepted : ∀ call ∈ earlier, call.isRefused = false) (refused : last.isRefused = true)
      (begun : announcements calls <+: (told (pieces calls)).1)
      (left : result = .error .interrupted)
  | through (accepted : ∀ call ∈ calls, call.isRefused = false)
      (all : announcements calls = (told (pieces calls)).1)
      (ended : result = (told (pieces calls)).2)

namespace Unwinds

variable {told : List Bytes → List Emission × Except Halt Unit} {result : Except Halt Unit}
  {calls : List Exchange}

theorem emitted (unwinds : Unwinds told result calls) (emission : Emission) :
    Unwinds (fun chunks => (emission :: (told chunks).1, (told chunks).2)) result
      (.emitted emission true :: calls) := by
  cases unwinds with
  | refused made accepted refused begun left =>
    exact .refused (congrArg _ made) (List.forall_mem_cons.mpr ⟨rfl, accepted⟩) refused
      (List.cons_prefix_cons.mpr ⟨rfl, begun⟩) left
  | through accepted all ended =>
    exact .through (List.forall_mem_cons.mpr ⟨rfl, accepted⟩) (congrArg _ all) ended

theorem filled {filled : Filled} {size : Nat}
    (unwinds : Unwinds (told ∘ (filled.taken size :: ·)) result calls) :
    Unwinds told result (.filled size (some filled) :: calls) := by
  cases unwinds with
  | refused made accepted refused begun left =>
    exact .refused (congrArg _ made) (List.forall_mem_cons.mpr ⟨rfl, accepted⟩) refused begun left
  | through accepted all ended =>
    exact .through (List.forall_mem_cons.mpr ⟨rfl, accepted⟩) all ended

theorem announced (unwinds : Unwinds told result calls) (emissions : List Emission) :
    Unwinds (fun chunks => (emissions ++ (told chunks).1, (told chunks).2)) result
      (emissions.map (.emitted · true) ++ calls) := by
  induction emissions with
  | nil => exact unwinds
  | cons emission rest ih => exact ih.emitted emission

theorem begins (unwinds : Unwinds told result calls) :
    announcements calls <+: (told (pieces calls)).1 := by
  cases unwinds with
  | refused _ _ _ begun _ => exact begun
  | through _ all _ => exact all ▸ List.prefix_rfl

theorem fill_refused (size : Nat) : Unwinds told (.error .interrupted) [.filled size none] :=
  .refused (List.nil_append _).symm (by simp) rfl List.nil_prefix rfl

theorem emission_refused {taken left : List Emission} {emission : Emission}
    (all : (told []).1 = taken ++ emission :: left) :
    Unwinds told (.error .interrupted)
      (taken.map (.emitted · true) ++ [.emitted emission false]) := by
  refine .refused rfl (by simp [isRefused]) rfl ?_ rfl
  rw [announcements_accepted, pieces_accepted]
  show taken ++ [emission] <+: (told []).1
  rw [all]
  exact (List.prefix_append_right_inj taken).mpr
    (List.cons_prefix_cons.mpr ⟨rfl, List.nil_prefix⟩)

theorem announced_all {emissions : List Emission} (all : told [] = (emissions, result)) :
    Unwinds told result (emissions.map (.emitted · true)) := by
  have announced := announcements_accepted emissions []
  have brought := pieces_accepted emissions []
  rw [List.append_nil] at announced brought
  have told : (told (pieces (emissions.map (.emitted · true)))) = (emissions, result) :=
    (congrArg told brought).trans all
  refine .through (by simp [isRefused]) ?_ (by rw [told])
  rw [announced, told]
  exact List.append_nil _

end Unwinds

variable {η : Type} [Hooks η] {host : η} {told : List Bytes → List Emission × Except Halt Unit}

namespace Engine

variable {engine : Engine}

theorem sendAll_cases (emissions : List Emission) (after : Move engine.State) (host : η) :
    (∃ last, Hooks.supply last ≤ Hooks.supply host ∧
      engine.runFrom (Extractor.sendAll emissions after) host =
        (engine.runFrom after last).behind (emissions.map (.emitted · true))) ∨
    (∃ taken emission left last, emissions = taken ++ emission :: left ∧
      engine.runFrom (Extractor.sendAll emissions after) host =
        ⟨.error .interrupted, last, taken.map (.emitted · true) ++ [.emitted emission false]⟩) := by
  induction emissions generalizing host with
  | nil => exact .inl ⟨host, Nat.le_refl _, rfl⟩
  | cons emission rest ih =>
    have sends : Extractor.sendAll (emission :: rest) after =
        .emit emission (Extractor.sendAll rest after) (.stop (.error .interrupted)) := rfl
    have supply := Hooks.supply_emit_le host emission
    rcases asked : Hooks.emit host emission with ⟨accepted, next⟩
    rw [asked] at supply
    rw [sends, runFrom_emit asked]
    cases accepted with
    | true =>
      rw [if_pos rfl]
      rcases ih next with ⟨last, less, all⟩ | ⟨taken, refused, left, last, cut, run⟩
      · exact .inl ⟨last, Nat.le_trans less supply, by rw [all]; rfl⟩
      · exact .inr ⟨emission :: taken, refused, left, last, by rw [cut]; rfl, by rw [run]; rfl⟩
    | false =>
      rw [if_neg Bool.false_ne_true, runFrom_stop]
      exact .inr ⟨[], emission, rest, next, rfl, rfl⟩

theorem unwinds_sendAll {after : Move engine.State} (emissions : List Emission)
    (later : ∀ last : η, Hooks.supply last ≤ Hooks.supply host →
      Unwinds told (engine.runFrom after last).result (engine.runFrom after last).calls) :
    Unwinds (fun chunks => (emissions ++ (told chunks).1, (told chunks).2))
      (engine.runFrom (Extractor.sendAll emissions after) host).result
      (engine.runFrom (Extractor.sendAll emissions after) host).calls := by
  rcases sendAll_cases emissions after host with ⟨last, less, run⟩ | ⟨taken, _, left, _, cut, run⟩
  · rw [run]
    exact (later last less).announced emissions
  · rw [run]
    exact .emission_refused (by rw [cut, List.append_assoc, List.cons_append])

theorem unwinds_sendAll_stop {emissions : List Emission} {result : Except Halt Unit}
    (all : told [] = (emissions, result)) :
    Unwinds told (engine.runFrom (Extractor.sendAll emissions (.stop result)) host).result
      (engine.runFrom (Extractor.sendAll emissions (.stop result)) host).calls := by
  rcases sendAll_cases emissions (.stop result) host with ⟨last, _, run⟩ | ⟨taken, _, _, _, cut, run⟩
  · rw [run, runFrom_stop, Run.behind, List.append_nil]
    exact .announced_all all
  · rw [run]
    exact .emission_refused ((congrArg Prod.fst all).trans cut)

theorem unwinds_fill {size : Nat} {bytes : Filled → engine.State}
    {ended : Filled → Move engine.State}
    (exhausted : ∀ filled, ∀ last : η, Unwinds (told ∘ ([] :: ·))
      (engine.runFrom (ended filled) last).result (engine.runFrom (ended filled) last).calls)
    (more : ∀ filled, ∀ last : η, Hooks.supply last < Hooks.supply host →
      Unwinds (told ∘ (filled.taken size :: ·))
        (engine.runFrom (engine.resume (bytes filled)) last).result
        (engine.runFrom (engine.resume (bytes filled)) last).calls) :
    Unwinds told
      (engine.runFrom (.fill size bytes ended (.stop (.error .interrupted))) host).result
      (engine.runFrom (.fill size bytes ended (.stop (.error .interrupted))) host).calls := by
  have less : ∀ {filled : Filled}, (Hooks.fill host size).1 = some filled →
      filled.reported ≠ 0 → Hooks.supply (Hooks.fill host size).2 < Hooks.supply host :=
    Hooks.supply_fill_lt
  rcases asked : Hooks.fill host size with ⟨answer, next⟩
  rw [asked] at less
  cases answer with
  | none =>
    rw [runFrom_unfilled asked, runFrom_stop]
    exact .fill_refused size
  | some filled =>
    by_cases nothing : filled.reported = 0
    · have unwinds := exhausted filled next
      rw [← filled.taken_of_nothing nothing size] at unwinds
      rw [runFrom_ended asked nothing]
      exact unwinds.filled
    · rw [runFrom_bytes asked nothing]
      exact (more filled next (less rfl nothing)).filled

end Engine

namespace Extractor

variable {x : Extractor} {r : Reading}

def account (r : Reading) : List Emission × Except Halt Unit := (r.sent.reverse, verdict r)

def tells (x : Extractor) (r : Reading) (chunks : List Bytes) : List Emission × Except Halt Unit :=
  account (x.finished r chunks.flatten)

theorem tells_drain :
    x.tells r = fun chunks => (r.drain.1 ++ (x.tells r.drain.2 chunks).1, (x.tells r.drain.2 chunks).2) := by
  funext chunks
  obtain ⟨total, same⟩ := finished_drain (x := x) (r := r) chunks.flatten
  exact Prod.ext total same

theorem tells_cons (chunk : Bytes) :
    x.tells r ∘ (chunk :: ·) = x.tells (r.read x.processing chunk) := by
  funext rest
  show account (x.finished r (chunk :: rest).flatten) = _
  rw [List.flatten_cons, ← finished_append]
  rfl

theorem unwinds_conclude : Unwinds (x.tells r) (x.engine.runFrom (x.conclude r) host).result
    (x.engine.runFrom (x.conclude r) host).calls :=
  Engine.unwinds_sendAll_stop rfl

theorem unwinds_resume : Unwinds (x.tells r) (x.engine.runFrom (x.resume r) host).result
    (x.engine.runFrom (x.resume r) host).calls := by
  -- The induction is on what the host can still supply.
  induction size : Hooks.supply host using Nat.strongRecOn generalizing r host with
  | ind supply ih =>
    cases failed : r.malformation with
    | some malformation =>
      rw [resume_of_malformation failed]
      refine Engine.unwinds_sendAll_stop ?_
      show account (x.finished r []) = _
      rw [finished_of_malformation failed, account, verdict, failed]
      rfl
    | none =>
      rw [resume_of_sound failed, tells_drain]
      refine Engine.unwinds_sendAll r.drain.1 fun last fewer =>
        Engine.unwinds_fill (fun _ last => ?_) fun filled last less => ?_
      · rw [tells_cons]
        exact unwinds_conclude
      · rw [tells_cons]
        exact ih _ (size ▸ Nat.lt_of_lt_of_le less fewer) rfl

def tellsWhole (x : Extractor) (chunks : List Bytes) : List Emission × Except Halt Unit :=
  account (x.whole (document chunks))

theorem tellsWhole_cons (chunk : Bytes) :
    x.tellsWhole ∘ (chunk :: ·) =
      x.tells ((Reading.initial x.base).read x.processing (withoutMark chunk)) := by
  funext rest
  rw [tells, finished_append]
  rfl

theorem unwinds_run (fresh : x.consumed = false) (host : η) :
    Unwinds x.tellsWhole (x.engine.run host).result (x.engine.run host).calls := by
  rw [Engine.run, engine_start fresh]
  refine Engine.unwinds_fill (fun _ last => ?_) fun filled last _ => ?_
  · rw [tellsWhole_cons]
    refine Engine.unwinds_fill (fun _ again => ?_) fun filled again _ => ?_
    · rw [tells_cons]
      exact unwinds_conclude
    · rw [tells_cons]
      exact unwinds_resume
  · rw [tellsWhole_cons]
    exact unwinds_resume

theorem run_of_consumed (used : x.consumed = true) (host : η) :
    x.engine.run host = ⟨.error (.fault alreadyUsed), host, []⟩ := by
  have started : x.engine.start = .stop (.error (.fault alreadyUsed)) := by
    show (if x.consumed then _ else x.start) = _
    rw [used]
    rfl
  rw [Engine.run, started]
  exact Engine.runFrom_of_stop rfl

-- Whatever was announced, refused or not, is known of the document.
theorem begins_run : announcements (x.engine.run host).calls <+:
    (x.whole (document (pieces (x.engine.run host).calls))).sent.reverse := by
  cases used : x.consumed with
  | true =>
    rw [run_of_consumed used]
    exact List.nil_prefix
  | false => exact (unwinds_run used host).begins

end Extractor
end Rdfa
