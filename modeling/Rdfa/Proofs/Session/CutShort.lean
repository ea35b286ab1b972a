import Rdfa.Proofs.Bridge.Spared
import Rdfa.Proofs.Session.Counts
import Rdfa.Proofs.Session.FirstFailure

-- A consumer that fails cuts the run short and does nothing else to it: up to the call that fails the run
-- is the one with a consumer that does not, and there it ends.
namespace Rdfa

namespace Bridge

variable {κ : Type} [Consumer κ] {b last : Bridge (Logged (Failing κ))}
  {other : Bridge (Logged κ)} {kind : Contact.Kind} {left : Nat} {cause : Text}

-- The two ways a run can go beside the run that is spared: the failing call never comes and they are the
-- same, or it comes as the last contact.
inductive Beside (together : Prop) (last : Bridge (Logged (Failing κ)))
    (other : Bridge (Logged κ)) (kind : Contact.Kind) (left : Nat) (cause : Text)
    (turns others : List Turn) : Prop where
  | same (alike : turns = others) (reached : together) (spared : other = last.spared)
      (few : (others.flatMap (·.contacts)).countP (·.kind = kind) ≤ left)
  | cut {before after : List Contact} {contact : Contact}
      (failed : last.failure = some (failureOf kind cause))
      (whole : others.flatMap (·.contacts) = before ++ contact :: after)
      (which : contact.kind = kind) (number : before.countP (·.kind = kind) = left)
      (heard : turns.flatMap (·.contacts) = before ++ [contact.failed cause])

omit [Consumer κ] in
theorem Beside.cons {together : Prop} {turns others : List Turn} {turn : Turn}
    (beside : Beside together last other kind left cause turns others) :
    Beside together last other kind (left + turn.contacts.countP (·.kind = kind)) cause
      (turn :: turns) (turn :: others) := by
  cases beside with
  | same alike reached spared few =>
    refine .same (congrArg _ alike) reached spared ?_
    rw [List.flatMap_cons, List.countP_append]
    omega
  | @cut before after contact failed whole which number heard =>
    have longer : (turn :: others).flatMap (·.contacts) =
        (turn.contacts ++ before) ++ contact :: after := by
      rw [List.flatMap_cons, whole, List.append_assoc]
    refine .cut failed longer which ?_ ?_
    · rw [List.countP_append, number, Nat.add_comm]
    · rw [List.flatMap_cons, heard, List.append_assoc]

theorem Path.beside {together : Prop} {turns others : List Turn} (path : Path b turns last)
    (spared : Path b.spared others other) (awaits : b.Awaits kind left cause)
    (parting : Parting together (others.map (·.exchange)) (turns.map (·.exchange))) :
    Beside together last other kind left cause turns others := by
  -- The induction is on the run that fails; the engine's questions keep the other one beside it.
  induction path generalizing others left with
  | nil =>
    cases spared with
    | nil =>
      cases parting with
      | never reached => exact .same rfl reached rfl (Nat.zero_le _)
    | cons _ _ => cases parting
  | @cons b next last turn rest step later ih =>
    cases spared with
    | nil => cases parting
    | @cons _ next' _ turn' rest' step' later' =>
      obtain ⟨asked, remain⟩ := parting.of_cons
      rcases step.spared awaits with ⟨alike, left', still, counted⟩ | ⟨now, breaks⟩
      · obtain ⟨rfl, rfl⟩ := step'.unique alike asked
        rw [counted]
        exact (ih later' still (remain rfl)).cons
      · subst now
        obtain ⟨contact, there, next, which, heard, alike, question, contacts⟩ := breaks.spared
        obtain ⟨rfl, _⟩ := step'.unique alike (asked.trans question.symm)
        obtain ⟨silent, final⟩ := later.of_failed breaks.failed
        have quiet : rest.flatMap (·.contacts) = [] :=
          List.flatMap_eq_nil_iff.mpr fun turn present => (silent turn present).2
        have whole : (turn' :: rest').flatMap (·.contacts) =
            [] ++ contact :: rest'.flatMap (·.contacts) := by
          rw [List.flatMap_cons, contacts]
          rfl
        refine .cut final whole which rfl ?_
        rw [List.flatMap_cons, heard, quiet]
        rfl

end Bridge

theorem Bridge.settle_of_failed {κ : Type} {b : Bridge κ} {failure : Failure}
    (failed : b.failure = some failure) (result : Except Halt Unit) :
    b.settle result = .error failure := by
  simp [settle, failed]

theorem Contact.split_unique {kind : Contact.Kind} {before before' after after' : List Contact}
    {call call' : Contact} (same : before ++ call :: after = before' ++ call' :: after')
    (which : call.kind = kind) (which' : call'.kind = kind)
    (number : before.countP (·.kind = kind) = before'.countP (·.kind = kind)) :
    before = before' ∧ call = call' := by
  induction before generalizing before' with
  | nil =>
    cases before' with
    | nil =>
      cases same
      exact ⟨rfl, rfl⟩
    | cons first rest =>
      cases same
      simp [which] at number
  | cons first rest ih =>
    cases before' with
    | nil =>
      cases same
      simp [which'] at number
    | cons first' rest' =>
      obtain ⟨rfl, tails⟩ := List.cons_eq_cons.mp same
      rw [List.countP_cons, List.countP_cons, Nat.add_right_cancel_iff] at number
      obtain ⟨rfl, rfl⟩ := ih tails number
      exact ⟨rfl, rfl⟩

theorem Contact.count_split {kind : Contact.Kind} {whole before after : List Contact}
    {call : Contact} (split : whole = before ++ call :: after) (which : call.kind = kind) :
    before.countP (·.kind = kind) < whole.countP (·.kind = kind) := by
  rw [split, List.countP_append, List.countP_cons]
  simp only [which, decide_true, if_true]
  omega

-- What becomes of the run of `steady` if its consumer fails, for `cause`, in its call of `kind` with
-- this number.
structure CutShort {κ : Type} [Consumer κ] (steady : Session κ) (failing : Session (Failing κ))
    (kind : Contact.Kind) (number : Nat) (cause : Text) : Prop where
  cut : ∀ before call after, steady.contacts = before ++ call :: after → call.kind = kind →
    before.countP (·.kind = kind) = number →
      failing.contacts = before ++ [call.failed cause] ∧
      failing.run.outcome.code = (if kind = .fill then 2 else 3) ∧
      failing.run.session.phase = .failed ∧
      failing.run.session.stats = .ofContacts (before ++ [call.failed cause])
  same : steady.contacts.countP (·.kind = kind) ≤ number →
    failing.contacts = steady.contacts ∧ failing.run.calls = steady.run.calls ∧
      failing.run.outcome = steady.run.outcome ∧
      failing.run.session.phase = steady.run.session.phase ∧
      failing.run.session.ledger = steady.run.session.ledger ∧
      failing.run.session.stats = steady.run.session.stats

namespace Session

variable {κ : Type} [Consumer κ] {s : Session κ} {t : Session (Failing κ)} {engine : Engine}

theorem run_phase {binding : Binding κ} (ready : s.Ready engine binding) :
    s.run.session.phase = if s.run.outcome.isOk then .completed else .failed := by
  rw [run_of_ready ready]
  rfl

theorem run_ledger {binding : Binding κ} (ready : s.Ready engine binding) :
    s.run.session.ledger = (engine.run (s.watched binding)).host.ledger := by
  rw [run_of_ready ready]
  exact congrArg (·.host.ledger) (run_unlogged engine s binding)

variable {ticket ticket' : Nat} {consumer : κ} {kind : Contact.Kind} {number : Nat} {cause : Text}

theorem turns_beside (ready : s.Ready engine ⟨ticket, consumer⟩)
    (doomed : t.Ready engine ⟨ticket', .planned consumer kind number cause⟩)
    (settings : t.settings = s.settings) (ledger : t.ledger = s.ledger) :
    Bridge.Beside
      ((engine.run (s.watched ⟨ticket, consumer⟩)).result =
        (engine.run (t.watched ⟨ticket', .planned consumer kind number cause⟩)).result)
      (engine.run (t.watched ⟨ticket', .planned consumer kind number cause⟩)).host
      (engine.run (s.watched ⟨ticket, consumer⟩)).host kind number cause t.turns s.turns := by
  have start : (t.watched ⟨ticket', .planned consumer kind number cause⟩).spared =
      s.watched ⟨ticket, consumer⟩ := by
    rw [watched, watched, settings, ledger]
    rfl
  have spared : Bridge.Path (t.watched ⟨ticket', .planned consumer kind number cause⟩).spared
      s.turns (engine.run (s.watched ⟨ticket, consumer⟩)).host := by
    rw [start]
    exact run_path ready
  have parting := engine.run_parting (s.watched ⟨ticket, consumer⟩)
    (t.watched ⟨ticket', .planned consumer kind number cause⟩)
  rw [← run_calls ready, ← run_calls doomed, ← turns_exchanges ready, ← turns_exchanges doomed]
    at parting
  exact (run_path doomed).beside spared rfl parting

theorem run_beside (ready : s.Ready engine ⟨ticket, consumer⟩)
    (doomed : t.Ready engine ⟨ticket', .planned consumer kind number cause⟩)
    (settings : t.settings = s.settings) (ledger : t.ledger = s.ledger) :
    CutShort s t kind number cause := by
  cases turns_beside ready doomed settings ledger with
  | same alike reached kept few =>
    refine ⟨?_, fun _ => ?_⟩
    · intro before call after whole which count
      have more := Contact.count_split whole which
      rw [count] at more
      exact absurd more (Nat.not_lt.mpr few)
    · have contacts : t.contacts = s.contacts := by rw [contacts, contacts, alike]
      have calls : t.run.calls = s.run.calls := by
        rw [← turns_exchanges doomed, alike, turns_exchanges ready]
      have outcome : t.run.outcome = s.run.outcome := by
        rw [run_settled ready, run_settled doomed, reached, kept]
        rfl
      refine ⟨contacts, calls, outcome, ?_, ?_, ?_⟩
      · rw [run_phase doomed, run_phase ready, outcome]
      · rw [run_ledger doomed, run_ledger ready, kept]
        rfl
      · rw [run_stats doomed, run_stats ready, contacts]
  | @cut before' after' call' failed whole' which' number' heard =>
    refine ⟨?_, fun few => ?_⟩
    · intro before call after whole which count
      obtain ⟨rfl, rfl⟩ := Contact.split_unique (whole.symm.trans whole') which which'
        (count.trans number'.symm)
      have outcome : t.run.outcome = .error (Bridge.failureOf kind cause) :=
        (run_settled doomed).trans (Bridge.settle_of_failed failed _)
      refine ⟨heard, ?_, ?_, ?_⟩
      · rw [outcome]
        cases kind <;> rfl
      · rw [run_phase doomed, outcome]
        rfl
      · rw [run_stats doomed]
        exact congrArg Stats.ofContacts heard
    · have more := Contact.count_split whole' which'
      rw [number'] at more
      exact absurd more (Nat.not_lt.mpr few)

theorem run_cut_short {base : Text} {settings : Settings} {s : Session κ} {t : Session (Failing κ)}
    (opened : openWith base settings = .ok s) (doomed : openWith base settings = .ok t)
    (consumer : κ) (kind : Contact.Kind) (number : Nat) (cause : Text) :
    CutShort (s.bind consumer) (t.bind (.planned consumer kind number cause)) kind number cause := by
  obtain ⟨_, rfl⟩ := openWith_eq_ok_iff.mp opened
  obtain ⟨_, rfl⟩ := openWith_eq_ok_iff.mp doomed
  have ready : ((extracting base settings).bind consumer).Ready
      (⟨base, settings.processing, settings.chunkCapacity, false⟩ : Extractor).engine
      ⟨0, consumer⟩ := ⟨rfl, rfl, rfl⟩
  exact run_beside ready ⟨rfl, rfl, rfl⟩ rfl rfl

def warned : Playback := { pieces := ["<p prop", "erty='x'/>"].map Markup.ascii }

theorem warned_cut_short :
    openWith "http://e/".toList {} = .ok (extracting "http://e/".toList {} : Session Playback) ∧
      openWith "http://e/".toList {} =
        .ok (extracting "http://e/".toList {} : Session (Failing Playback)) ∧
      CutShort ((extracting "http://e/".toList {}).bind warned)
        ((extracting "http://e/".toList {}).bind (.planned warned .triple 1 "full".toList))
        .triple 1 "full".toList := by
  have opened : openWith "http://e/".toList {} =
      .ok (extracting "http://e/".toList {} : Session Playback) :=
    openWith_eq_ok_iff.mpr ⟨by decide, rfl⟩
  have doomed : openWith "http://e/".toList {} =
      .ok (extracting "http://e/".toList {} : Session (Failing Playback)) :=
    openWith_eq_ok_iff.mpr ⟨by decide, rfl⟩
  exact ⟨opened, doomed, run_cut_short opened doomed warned .triple 1 "full".toList⟩

end Session
end Rdfa
