import Rdfa.Consumer.Playback
import Rdfa.Proofs.Session.Run

-- The life of a session, whatever is done to it and in whatever order. Its engine is there until it is
-- used or the session is closed, so it is used at most once, and a run that cannot be leaves no trace.
namespace Rdfa

def Failure.isUnrun : Failure → Bool
  | .noConsumer | .invalidState _ => true
  | .initialization _ | .inputProduction _ | .tripleDelivery _ | .engine _ => false

namespace Bridge

variable {κ : Type} [Consumer κ] {b next last : Bridge (Logged κ)}

def Runs (b : Bridge (Logged κ)) : Prop := ∀ failure ∈ b.failure, failure.isUnrun = false

theorem Step.runs {turn : Turn} (step : Step b turn next) (runs : b.Runs) : next.Runs := by
  cases step with
  | fillRefused _ => exact runs
  | fillEnded _ _ => exact runs
  | fillEmpty _ _ _ => exact runs
  | inputRead _ _ _ _ => exact runs
  | emissionRefused _ => exact runs
  | deliveryTaken _ _ _ => exact runs
  | inputFailed _ _ _ _ => rintro _ ⟨⟩; rfl
  | codeUnknown _ _ => rintro _ ⟨⟩; rfl
  | deliveryRefused _ _ _ => rintro _ ⟨⟩; rfl

theorem Path.runs {turns : List Turn} (path : Path b turns last) (runs : b.Runs) : last.Runs := by
  induction path with
  | nil => exact runs
  | cons step _ ih => exact ih (step.runs runs)

omit [Consumer κ] in
theorem Runs.settle (runs : b.Runs) {result : Except Halt Unit} {failure : Failure}
    (settled : b.settle result = .error failure) : failure.isUnrun = false := by
  unfold Bridge.settle at settled
  split at settled
  · next failed =>
    cases settled
    exact runs _ failed
  · cases settled
  · cases settled
    rfl
  · cases settled
    rfl

end Bridge

inductive Phase.Moves : Phase → Phase → Prop where
  | stays (phase : Phase) : Moves phase phase
  | completes : Moves .idle .completed
  | fails : Moves .idle .failed
  | closes (phase : Phase) : Moves phase .closed

theorem Phase.Moves.of_other {phase next : Phase} (moves : phase.Moves next) (other : phase ≠ .idle) :
    next ≠ .idle := by
  cases moves with
  | stays _ => exact other
  | completes => exact absurd rfl other
  | fails => exact absurd rfl other
  | closes _ => decide

theorem Phase.Moves.of_closed {next : Phase} (moves : Phase.closed.Moves next) : next = .closed := by
  cases moves <;> rfl

namespace Session

variable {κ : Type}

theorem unbind_eq (s : Session κ) :
    s.unbind = { s with
      binding := none, released := s.released ++ (s.binding.map (·.ticket)).toList } := by
  obtain ⟨base, settings, engine, binding, bound, released, phase, ledger, stats⟩ := s
  cases binding with
  | none => simp [unbind]
  | some binding => rfl

inductive Act (κ : Type) where
  | bind (consumer : κ)
  | run
  | close

-- A session as it is handed out: around the extractor, or around any other engine.
inductive Opened (s : Session κ) : Prop where
  | bundled {base : Text} {settings : Settings} (opened : openWith base settings = .ok s)
  | custom {base : Text} {engine : Engine} {settings : Settings}
      (opened : withEngine base engine settings = .ok s)

structure Fresh (s : Session κ) : Prop where
  idle : s.phase = .idle
  loaded : s.engine.isSome = true
  unbound : s.binding = none
  none : s.bound = 0
  kept : s.released = []

theorem fresh_of_withEngine {base : Text} {engine : Engine} {settings : Settings} {s : Session κ}
    (opened : withEngine base engine settings = .ok s) : s.Fresh := by
  unfold withEngine at opened
  split at opened
  · cases opened
  · split at opened
    · cases opened
    · cases opened
      exact ⟨rfl, rfl, rfl, rfl, rfl⟩

theorem Opened.fresh {s : Session κ} (opened : s.Opened) : s.Fresh := by
  cases opened with
  | custom opened => exact fresh_of_withEngine opened
  | bundled opened =>
    unfold openWith at opened
    split at opened
    · cases opened
    · exact fresh_of_withEngine opened

variable [Consumer κ]

def act (s : Session κ) : Act κ → Session κ
  | .bind consumer => s.bind consumer
  | .run => s.run.session
  | .close => s.close

def after (s : Session κ) (acts : List (Act κ)) : Session κ := acts.foldl act s

def parsed? (s : Session κ) : Act κ → Option Engine
  | .run => if s.phase = .idle ∧ s.binding.isSome = true then s.engine else none
  | .bind _ | .close => none

def parses (s : Session κ) : List (Act κ) → Nat
  | [] => 0
  | act :: rest => (s.parsed? act).toList.length + (s.act act).parses rest

variable {s : Session κ}

theorem after_preserves {kept : Session κ → Prop} (step : ∀ s act, kept s → kept (s.act act))
    (start : kept s) (acts : List (Act κ)) : kept (s.after acts) := by
  induction acts generalizing s with
  | nil => exact start
  | cons act rest ih => exact ih (step s act start)

theorem run_cases (s : Session κ) :
    (∃ engine binding, s.Ready engine binding ∧ s.parsed? .run = some engine ∧
      s.run = s.perform engine binding) ∨
    (s.parsed? .run = none ∧ ∃ failure, failure.isUnrun = true ∧ s.run = ⟨.error failure, s, []⟩ ∧
      (failure = .invalidState .idle → s.phase = .idle ∧ s.engine = none)) := by
  unfold run parsed?
  by_cases idle : s.phase = .idle
  · cases bound : s.binding with
    | none =>
      refine .inr ⟨by simp, .noConsumer, rfl, by simp [idle], ?_⟩
      rintro ⟨⟩
    | some binding =>
      cases loaded : s.engine with
      | none =>
        exact .inr ⟨by simp, .invalidState s.phase, rfl, by simp [idle], fun _ => ⟨idle, rfl⟩⟩
      | some engine =>
        exact .inl ⟨engine, binding, ⟨idle, loaded, bound⟩, by simp [idle], by simp [idle]⟩
  · refine .inr ⟨by simp [idle], .invalidState s.phase, rfl, by simp [idle], fun reported => ?_⟩
    exact absurd (Failure.invalidState.inj reported) idle

theorem perform_phase (s : Session κ) (engine : Engine) (binding : Binding κ) :
    (s.perform engine binding).session.phase = .completed ∨
      (s.perform engine binding).session.phase = .failed := by
  unfold perform
  dsimp only
  split
  · exact .inl rfl
  · exact .inr rfl

theorem isUnrun_of_ready {engine : Engine} {binding : Binding κ} (ready : s.Ready engine binding)
    {failure : Failure} (failed : s.run.outcome = .error failure) : failure.isUnrun = false := by
  have clean : (s.watched binding).Runs := by rintro _ ⟨⟩
  rw [run_settled ready] at failed
  exact ((run_path ready).runs clean).settle failed

theorem run_of_isUnrun {failure : Failure} (failed : s.run.outcome = .error failure)
    (unrun : failure.isUnrun = true) : s.run = ⟨.error failure, s, []⟩ := by
  rcases run_cases s with ⟨engine, binding, ready, _, _⟩ | ⟨_, reported, _, run, _⟩
  · cases unrun.symm.trans (isUnrun_of_ready ready failed)
  · rw [run] at failed ⊢
    cases failed
    rfl

theorem contacts_of_no_calls (uncalled : s.run.calls = []) : s.contacts = [] := by
  unfold contacts turns
  rw [uncalled]
  cases s.binding <;> rfl

theorem act_moves (s : Session κ) (act : Act κ) : s.phase.Moves (s.act act).phase := by
  cases act with
  | bind consumer =>
    have same : (s.bind consumer).phase = s.phase := by
      unfold bind
      split
      · rfl
      · rw [unbind_eq]
    exact same ▸ .stays s.phase
  | run =>
    rcases run_cases s with ⟨engine, binding, ready, _, run⟩ | ⟨_, failure, _, run, _⟩
    · show s.phase.Moves s.run.session.phase
      rw [run, ready.idle]
      rcases s.perform_phase engine binding with done | done <;> rw [done]
      · exact .completes
      · exact .fails
    · show s.phase.Moves s.run.session.phase
      rw [run]
      exact .stays s.phase
  | close =>
    show s.phase.Moves s.close.phase
    unfold close
    split
    · exact .stays s.phase
    · exact .closes s.phase

def Loaded (s : Session κ) : Prop := s.engine.isSome = true ↔ s.phase = .idle

theorem Loaded.act (loaded : s.Loaded) (act : Act κ) : (s.act act).Loaded := by
  cases act with
  | bind consumer =>
    show (s.bind consumer).Loaded
    unfold bind
    split
    · exact loaded
    · rw [unbind_eq]
      exact loaded
  | run =>
    show s.run.session.Loaded
    rcases run_cases s with ⟨engine, binding, ready, _, run⟩ | ⟨_, failure, _, run, _⟩
    · rw [run]
      refine iff_of_false (by simp [perform]) ?_
      rcases s.perform_phase engine binding with done | done <;> rw [done] <;> decide
    · rw [run]
      exact loaded
  | close =>
    show s.close.Loaded
    unfold close
    split
    · exact loaded
    · simp [Loaded]

theorem loaded_after (opened : s.Opened) (acts : List (Act κ)) : (s.after acts).Loaded := by
  have start : s.Loaded := iff_of_true opened.fresh.loaded opened.fresh.idle
  exact after_preserves (fun _ act loaded => loaded.act act) start acts

theorem after_closed (closed : s.phase = .closed) (acts : List (Act κ)) :
    (s.after acts).phase = .closed := by
  have step (t : Session κ) (act : Act κ) (closed : t.phase = .closed) :
      (t.act act).phase = .closed := (closed ▸ t.act_moves act).of_closed
  exact after_preserves step closed acts

theorem act_engine (s : Session κ) (act : Act κ) :
    (s.act act).engine = s.engine ∨ (s.act act).engine = none := by
  cases act with
  | bind consumer =>
    refine .inl ?_
    show (s.bind consumer).engine = s.engine
    unfold bind
    split
    · rfl
    · rw [unbind_eq]
  | run =>
    show s.run.session.engine = s.engine ∨ s.run.session.engine = none
    rcases run_cases s with ⟨_, _, _, _, run⟩ | ⟨_, _, _, run, _⟩ <;> rw [run]
    · exact .inr rfl
    · exact .inl rfl
  | close =>
    show s.close.engine = s.engine ∨ s.close.engine = none
    unfold close
    split
    · exact .inl rfl
    · exact .inr rfl

theorem after_engine {engine : Engine} (acts : List (Act κ))
    (loaded : (s.after acts).engine = some engine) : s.engine = some engine := by
  have step (t : Session κ) (act : Act κ) (kept : t.engine = s.engine ∨ t.engine = none) :
      (t.act act).engine = s.engine ∨ (t.act act).engine = none := by
    rcases t.act_engine act with same | gone
    · rwa [same]
    · exact .inr gone
  rcases after_preserves step (.inl rfl) acts with same | gone
  · rw [← same, loaded]
  · cases gone.symm.trans loaded

theorem engine_of_ready {base : Text} {settings : Settings} (opened : openWith base settings = .ok s)
    {acts : List (Act κ)} {engine : Engine} {binding : Binding κ}
    (ready : (s.after acts).Ready engine binding) :
    engine = Extractor.engine ⟨base, settings.processing, settings.chunkCapacity, false⟩ := by
  have loaded := after_engine acts ready.loaded
  obtain ⟨_, rfl⟩ := openWith_eq_ok_iff.mp opened
  exact (Option.some.inj loaded).symm

theorem idle_of_parsed {act : Act κ} {engine : Engine} (parsed : s.parsed? act = some engine) :
    s.phase = .idle ∧ (s.act act).phase ≠ .idle := by
  cases act with
  | bind consumer => cases parsed
  | close => cases parsed
  | run =>
    rcases run_cases s with ⟨used, binding, ready, _, run⟩ | ⟨none, _⟩
    · refine ⟨ready.idle, ?_⟩
      show s.run.session.phase ≠ .idle
      rw [run]
      rcases s.perform_phase used binding with done | done <;> rw [done] <;> decide
    · cases none.symm.trans parsed

theorem parses_le (s : Session κ) (acts : List (Act κ)) :
    s.parses acts ≤ if s.phase = .idle then 1 else 0 := by
  induction acts generalizing s with
  | nil => exact Nat.zero_le _
  | cons act rest ih =>
    have later := ih (s.act act)
    unfold parses
    cases parsed : s.parsed? act with
    | some engine =>
      obtain ⟨idle, used⟩ := idle_of_parsed parsed
      rw [if_neg used] at later
      rw [if_pos idle]
      show 1 + (s.act act).parses rest ≤ 1
      omega
    | none =>
      by_cases idle : s.phase = .idle
      · rw [if_pos idle]
        show 0 + (s.act act).parses rest ≤ 1
        split at later <;> omega
      · rw [if_neg ((s.act_moves act).of_other idle)] at later
        simpa [idle] using later

structure LifeCycle (s : Session κ) (acts : List (Act κ)) : Prop where
  engine : (s.after acts).engine.isSome = true ↔ (s.after acts).phase = .idle
  ready : (s.after acts).run.outcome ≠ .error (.invalidState .idle)
  once : s.parses acts ≤ 1
  moves : ∀ act, (s.after acts).phase.Moves ((s.after acts).act act).phase
  absorbing : (s.after acts).phase = .closed → ∀ more, ((s.after acts).after more).phase = .closed
  performed : ∀ engine, (s.after acts).parsed? .run = some engine →
    ∃ binding, (s.after acts).Ready engine binding ∧
      (s.after acts).run = (s.after acts).perform engine binding
  unparsed : (s.after acts).parsed? .run = none →
    ∃ failure, failure.isUnrun = true ∧ (s.after acts).run = ⟨.error failure, s.after acts, []⟩
  unrun : ∀ failure, (s.after acts).run.outcome = .error failure → failure.isUnrun = true →
    (s.after acts).run.session = s.after acts ∧ (s.after acts).run.calls = [] ∧
      (s.after acts).contacts = []

theorem lifeCycle (opened : s.Opened) (acts : List (Act κ)) : s.LifeCycle acts := by
  have fresh := opened.fresh
  have loaded := loaded_after opened acts
  refine ⟨loaded, fun reported => ?_, ?_, (s.after acts).act_moves, after_closed, ?_, ?_, ?_⟩
  · rcases run_cases (s.after acts) with ⟨_, _, ready, _, _⟩ | ⟨_, failure, _, run, why⟩
    · cases isUnrun_of_ready ready reported
    · rw [run] at reported
      obtain ⟨idle, used⟩ := why (Except.error.inj reported)
      have present := loaded.mpr idle
      rw [used] at present
      cases present
  · have once := s.parses_le acts
    rwa [if_pos fresh.idle] at once
  · intro engine parsed
    rcases run_cases (s.after acts) with ⟨used, binding, ready, same, run⟩ | ⟨unparsed, _⟩
    · cases same.symm.trans parsed
      exact ⟨binding, ready, run⟩
    · cases unparsed.symm.trans parsed
  · intro unparsed
    rcases run_cases (s.after acts) with ⟨_, _, _, parsed, _⟩ | ⟨_, failure, unrun, run, _⟩
    · cases unparsed.symm.trans parsed
    · exact ⟨failure, unrun, run⟩
  · intro failure failed unrun
    have run := run_of_isUnrun failed unrun
    have calls : (s.after acts).run.calls = [] := by rw [run]
    exact ⟨by rw [run], calls, contacts_of_no_calls calls⟩

-- Run too early, bound, run, bound and run again, closed, and run once more.
def retried : List (Act Playback) :=
  [.run, .bind { pieces := [] }, .run, .bind { pieces := [] }, .run, .close, .run]

theorem retried_lifeCycle :
    (extracting "http://e/".toList {} : Session Playback).Opened ∧
      (extracting "http://e/".toList {}).LifeCycle retried := by
  have opened : (extracting "http://e/".toList {} : Session Playback).Opened :=
    .bundled (openWith_eq_ok_iff.mpr ⟨by decide, rfl⟩)
  exact ⟨opened, lifeCycle opened retried⟩

end Session
end Rdfa
