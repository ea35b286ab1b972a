import Rdfa.Consumer.Stream
import Rdfa.Proofs.Consumer.Contact
import Rdfa.Proofs.Extractor.Whole

-- A run over a host that passes statements on to a sink, which may refuse one: what the sink hears, and
-- what the run comes to, is settled by the document and the sink, however the bytes come.
namespace Rdfa

open Document

def Sink.accept {ρ : Type} [Sink ρ] (sink : ρ) (graph : Graph) : Delivery → Except Text Unit × ρ
  | .triple triple => Sink.put sink graph triple
  | .namespace _ _ => (.ok (), sink)

def Sink.hear {ρ : Type} [Sink ρ] (sink : ρ) : List Emission → Except Text Unit × List Contact × ρ
  | [] => (.ok (), [], sink)
  | emission :: rest =>
    match emission.triple.delivery? with
    | none => Sink.hear sink rest
    | some delivery =>
      match Sink.accept sink emission.graph delivery with
      | (.error cause, sink) => (.error cause, [.offered emission.graph delivery (.error cause)], sink)
      | (.ok (), sink) =>
        let (answer, contacts, sink) := Sink.hear sink rest
        (answer, .offered emission.graph delivery (.ok ()) :: contacts, sink)

variable {ρ η : Type} [Sink ρ] [Hooks η] {capacity : Nat}
  {stands : Except Text Bytes → List Contact → ρ → η → Prop}

-- A host that has some bytes left, or that its sink refused a statement. It hands out the bytes in any
-- pieces whenever `capacity` are asked for, then none, and a log tells what the sink was offered.
structure Hooks.Passes (capacity : Nat)
    (stands : Except Text Bytes → List Contact → ρ → η → Prop) : Prop where
  bytes : ∀ {host left log sink}, stands (.ok left) log sink host → left ≠ [] →
    ∃ filled next rest, Hooks.fill host capacity = (some filled, next) ∧ filled.reported ≠ 0 ∧
      left = filled.taken capacity ++ rest ∧ filled.taken capacity ≠ [] ∧
      stands (.ok rest) log sink next
  ended : ∀ {host log sink}, stands (.ok []) log sink host →
    ∃ filled next, Hooks.fill host capacity = (some filled, next) ∧ filled.reported = 0 ∧
      stands (.ok []) log sink next
  emit : ∀ {host left log sink emission delivery}, stands (.ok left) log sink host →
    emission.triple.delivery? = some delivery →
      ∃ next, match Sink.accept sink emission.graph delivery with
        | (.ok (), after) => Hooks.emit host emission = (true, next) ∧
          stands (.ok left) (log ++ [.offered emission.graph delivery (.ok ())]) after next
        | (.error cause, after) => Hooks.emit host emission = (false, next) ∧
          stands (.error cause) (log ++ [.offered emission.graph delivery (.error cause)]) after next

-- The run ended with what the sink hears of these statements: with `result` unless one was refused.
def Run.Hears (stands : Except Text Bytes → List Contact → ρ → η → Prop) (run : Run η)
    (log : List Contact) (sink : ρ) (sent : List Emission) (result : Except Halt Unit) : Prop :=
  match Sink.hear sink sent with
  | (.ok (), contacts, after) =>
    run.result = result ∧ ∃ left, stands (.ok left) (log ++ contacts) after run.host
  | (.error cause, contacts, after) => stands (.error cause) (log ++ contacts) after run.host

omit [Hooks η] in
theorem Run.Hears.behind {run : Run η} {log : List Contact} {sink : ρ} {sent : List Emission}
    {result : Except Halt Unit} (hears : run.Hears stands log sink sent result)
    (calls : List Exchange) : (run.behind calls).Hears stands log sink sent result := hears

namespace Engine

variable {engine : Engine} {host : η} {log : List Contact} {sink : ρ} {sent more : List Emission}
  {result : Except Halt Unit} {after : Move engine.State} {left : Bytes}

theorem hears_stop (engine : Engine) (standing : stands (.ok left) log sink host)
    (result : Except Halt Unit) :
    (engine.runFrom (.stop result) host).Hears stands log sink [] result := by
  rw [runFrom_stop]
  refine ⟨rfl, left, ?_⟩
  rwa [List.append_nil]

theorem hears_sendAll (hooks : Hooks.Passes capacity stands)
    (fits : ∀ emission ∈ sent, Announceable emission.triple)
    (standing : stands (.ok left) log sink host)
    (later : ∀ log sink last, stands (.ok left) log sink last →
      (engine.runFrom after last).Hears stands log sink more result) :
    (engine.runFrom (Extractor.sendAll sent after) host).Hears stands log sink (sent ++ more)
      result := by
  -- The induction is on the statements: each is taken, or it is the last.
  induction sent generalizing host log sink with
  | nil => exact later log sink host standing
  | cons emission rest ih =>
    obtain ⟨first, others⟩ := List.forall_mem_cons.mp fits
    obtain ⟨delivery, meant⟩ := Option.isSome_iff_exists.mp first.delivery?_isSome
    obtain ⟨next, answered⟩ := hooks.emit standing meant
    have sends : Extractor.sendAll (emission :: rest) after =
        .emit emission (Extractor.sendAll rest after) (.stop (.error .interrupted)) := rfl
    rcases accepted : Sink.accept sink emission.graph delivery with ⟨answer | done, onward⟩
    · rw [accepted] at answered
      obtain ⟨refused, halted⟩ := answered
      rw [sends, runFrom_emit refused, if_neg Bool.false_ne_true, runFrom_stop]
      simp only [Run.Hears, List.cons_append, Sink.hear, meant, accepted]
      exact halted
    · rw [accepted] at answered
      obtain ⟨taken, standing⟩ := answered
      have heard := (ih others standing).behind [.emitted emission true]
      rw [sends, runFrom_emit taken, if_pos rfl]
      rcases rests : Sink.hear onward (rest ++ more) with ⟨answer | done, contacts, last⟩
      all_goals
        simp only [Run.Hears, List.cons_append, Sink.hear, meant, accepted, rests] at heard ⊢
        rw [List.append_assoc] at heard
        exact heard

end Engine

namespace Extractor

variable {x : Extractor} {r : Reading} {host : η} {log : List Contact} {sink : ρ} {left : Bytes}

theorem hears_conclude (hooks : Hooks.Passes x.capacity stands) (announces : r.Announces)
    (standing : stands (.ok left) log sink host) :
    (x.engine.runFrom (x.conclude r) host).Hears stands log sink
      (x.finished r []).sent.reverse (verdict (x.finished r [])) := by
  have fits : ∀ emission ∈ (r.close x.processing).drain.1, Announceable emission.triple :=
    (announces_drain announces.close).1
  have heard := Engine.hears_sendAll hooks fits standing fun _ _ _ done =>
    Engine.hears_stop x.engine done (verdict (r.close x.processing))
  rwa [List.append_nil] at heard

theorem hears_resume (hooks : Hooks.Passes x.capacity stands) (announces : r.Announces)
    (standing : stands (.ok left) log sink host) :
    (x.engine.runFrom (x.resume r) host).Hears stands log sink
      (x.finished r left).sent.reverse (verdict (x.finished r left)) := by
  -- The induction is on the bytes that are left.
  induction length : left.length using Nat.strongRecOn generalizing r left log sink host with
  | ind length ih =>
    obtain ⟨total, same⟩ := finished_drain (x := x) (r := r) left
    obtain ⟨fits, clean⟩ := announces_drain announces
    rw [total, same]
    cases failed : r.malformation with
    | some malformation =>
      have kept : r.drain.2.malformation = some malformation := failed
      rw [resume_of_malformation failed, finished_of_malformation kept, verdict, kept]
      exact Engine.hears_sendAll hooks fits standing fun _ _ _ done =>
        Engine.hears_stop x.engine done (stopAt malformation)
    | none =>
      rw [resume_of_sound failed]
      refine Engine.hears_sendAll hooks fits standing fun log sink last waiting => ?_
      by_cases empty : left = []
      · subst empty
        obtain ⟨filled, next, asked, nothing, done⟩ := hooks.ended waiting
        rw [runFrom_ended asked nothing]
        exact (hears_conclude hooks clean done).behind _
      · obtain ⟨filled, next, rest, asked, more, cut, present, still⟩ := hooks.bytes waiting empty
        have shorter : rest.length < left.length := by
          rw [cut, List.length_append]
          have := List.length_pos_iff.mpr present
          omega
        rw [runFrom_bytes asked more, cut, ← finished_append]
        exact (ih _ (length ▸ shorter) (clean.read _) still rfl).behind _

theorem hears_run (hooks : Hooks.Passes x.capacity stands) (fresh : x.consumed = false)
    (unmarked : ¬ [0xEF, 0xBB, 0xBF] <+: left) (standing : stands (.ok left) log sink host) :
    (x.engine.run host).Hears stands log sink (x.whole left).sent.reverse
      (verdict (x.whole left)) := by
  have clean := announces_initial x.base
  rw [Engine.run, engine_start fresh]
  by_cases empty : left = []
  · subst empty
    obtain ⟨_, _, asked, nothing, still⟩ := hooks.ended standing
    obtain ⟨_, _, again, zero, done⟩ := hooks.ended still
    rw [start, runFrom_ended asked nothing, runFrom_ended again zero]
    exact ((hears_conclude hooks clean done).behind _).behind _
  · obtain ⟨filled, next, rest, asked, more, cut, _, still⟩ := hooks.bytes standing empty
    rw [cut] at unmarked ⊢
    rw [start, runFrom_bytes asked more, whole, ← finished_append, withoutMark_eq unmarked]
    exact (hears_resume hooks (clean.read _) still).behind _

end Extractor
end Rdfa
