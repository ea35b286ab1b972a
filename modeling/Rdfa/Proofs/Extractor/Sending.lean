import Rdfa.Extractor
import Rdfa.Hooks.Feed
import Rdfa.Proofs.Hooks.Trace

-- Statements sent to a host that takes them.
namespace Rdfa

variable {η : Type} [Hooks η] {fit : Emission → Prop} {willing : η → Prop}

structure Hooks.Accepts (fit : Emission → Prop) (willing : η → Prop) : Prop where
  emit : ∀ host emission, willing host → fit emission →
    ∃ next, Hooks.emit host emission = (true, next) ∧ willing next

-- All of them are taken, in order, and then it goes on with what comes next. `stands` tells what is known
-- of the host once some of them were taken.
theorem Extractor.play_each {σ : Type} (stands : List Emission → η → Prop)
    (takes : ∀ {told host emission}, stands told host → fit emission →
      ∃ next, Hooks.emit host emission = (true, next) ∧ stands (told ++ [emission]) next)
    {emissions : List Emission} (told : List Emission) (fits : ∀ emission ∈ emissions, fit emission)
    (next : Move σ) {host : η} (ready : stands told host) :
    ∃ last, stands (told ++ emissions) last ∧
      (sendAll emissions next).play host =
        ((next.play last).1, (next.play last).2.1,
          emissions.map (.emitted · true) ++ (next.play last).2.2) := by
  induction emissions generalizing host told with
  | nil => exact ⟨host, by rwa [List.append_nil], rfl⟩
  | cons emission rest ih =>
    obtain ⟨first, others⟩ := List.forall_mem_cons.mp fits
    obtain ⟨taken, asked, still⟩ := takes ready first
    obtain ⟨last, done, played⟩ := ih _ others still
    refine ⟨last, by rwa [List.append_assoc] at done, ?_⟩
    have here : (sendAll (emission :: rest) next).play host =
        (((sendAll rest next).play taken).1, ((sendAll rest next).play taken).2.1,
          .emitted emission true :: ((sendAll rest next).play taken).2.2) := by
      show Move.play (.emit emission (sendAll rest next) _) host = _
      simp only [Move.play, asked]
    rw [here, played]
    rfl

theorem Extractor.play_sendAll {σ : Type} (accepts : Hooks.Accepts fit willing)
    {emissions : List Emission} (fits : ∀ emission ∈ emissions, fit emission) (next : Move σ)
    {host : η} (ready : willing host) :
    ∃ last, willing last ∧
      (sendAll emissions next).play host =
        ((next.play last).1, (next.play last).2.1,
          emissions.map (.emitted · true) ++ (next.play last).2.2) :=
  play_each (fun _ => willing) (accepts.emit _ _) [] fits next ready

-- A request for bytes, by its answer.
namespace Extractor

variable {x : Extractor} {clean : Bytes → Bytes} {reading : Document.Reading}
  {ended : Unit → Move Document.Reading} {host next : η} {filled : Filled}

theorem runFrom_bytes (asked : Hooks.fill host x.capacity = (some filled, next))
    (more : filled.reported ≠ 0) :
    x.engine.runFrom (x.ask clean reading ended) host =
      (x.engine.runFrom (x.resume (reading.read x.processing (clean (filled.taken x.capacity))))
        next).behind [.filled x.capacity (some filled)] :=
  Engine.runFrom_bytes asked more

theorem runFrom_ended (asked : Hooks.fill host x.capacity = (some filled, next))
    (nothing : filled.reported = 0) :
    x.engine.runFrom (x.ask clean reading ended) host =
      (x.engine.runFrom (ended ()) next).behind [.filled x.capacity (some filled)] :=
  Engine.runFrom_ended asked nothing

end Extractor

theorem Hooks.Feed.accepts :
    Hooks.Accepts (fun _ => True) fun feed : Feed => feed.refusedEmit = none := by
  refine ⟨fun feed emission ready _ => ?_⟩
  have taken : feed.emit emission =
      (true, { feed with emits := feed.emits + 1, emitted := emission :: feed.emitted }) := by
    simp [emit, ready]
  exact ⟨_, taken, ready⟩

end Rdfa
