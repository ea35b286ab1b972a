import Rdfa.Proofs.Consumer.Stream
import Rdfa.Proofs.Extractor.Hearing
import Rdfa.Proofs.Session.Streaming

-- Reading from a source piece by piece is like being handed the same bytes in any other way: what is
-- done with the statements, and what the run comes to, is the same.
namespace Rdfa

-- A consumer that hands out bytes in any pieces whenever `capacity` of them are asked for, then none,
-- and leaves every statement to a sink.
structure Consumer.Passes {κ ρ : Type} [Consumer κ] [Sink ρ] (capacity : Nat)
    (passes : Bytes → ρ → κ → Prop) : Prop where
  bytes : ∀ {consumer left sink}, passes left sink consumer → left ≠ [] →
    ∃ chunk rest next, Consumer.produce consumer capacity = (.ok chunk, next) ∧ chunk ≠ [] ∧
      chunk.length ≤ capacity ∧ left = chunk ++ rest ∧ passes rest sink next
  ended : ∀ {consumer sink}, passes [] sink consumer →
    ∃ next, Consumer.produce consumer capacity = (.ok [], next) ∧ passes [] sink next
  accept : ∀ {consumer left sink} (graph : Graph) (delivery : Delivery), passes left sink consumer →
    ∃ next, Consumer.accept consumer graph delivery = ((Sink.accept sink graph delivery).1, next) ∧
      passes left (Sink.accept sink graph delivery).2 next

namespace StreamConsumer

open Rdfa.Stream

variable {ρ : Type}

-- A stream with these bytes in it, and without a failure. Whatever is in the buffer plays no part.
structure Passing (left : Bytes) (sink : ρ) (consumer : StreamConsumer ρ) : Prop where
  proper : Proper consumer.stream.script
  sound : failure? consumer.stream.script = none
  bytes : content consumer.stream.script = left
  sink : consumer.stream.sink = sink

theorem Passing.read {capacity : Nat} (positive : 0 < capacity) {left : Bytes} {sink : ρ}
    {consumer : StreamConsumer ρ} (passing : Passing left sink consumer) :
    ∃ chunk rest next, consumer.produce capacity = (.ok chunk, next) ∧ (chunk = [] → left = []) ∧
      chunk.length ≤ capacity ∧ left = chunk ++ rest ∧ Passing rest sink next := by
  obtain ⟨proper, sound, bytes, same⟩ := passing
  have reads := produce_proper positive proper
  have kept : (consumer.produce capacity).2.stream.sink = sink := same
  generalize produced : consumer.produce capacity = answered at reads kept
  obtain ⟨answer, ⟨script, after⟩, scratch⟩ := answered
  dsimp only at reads kept
  generalize consumer.stream.script = before at reads sound bytes
  subst bytes
  cases reads with
  | @chunk chunk rest present short next proper still =>
    exact ⟨chunk, _, _, rfl, fun empty => absurd empty present, short, next, proper,
      still.trans sound, rfl, kept⟩
  | failed _ failing => cases failing.symm.trans sound
  | ended spent _ => exact ⟨[], [], _, rfl, fun _ => spent, Nat.zero_le _, spent, .nil, rfl, rfl, kept⟩

theorem passes [Sink ρ] {capacity : Nat} (positive : 0 < capacity) :
    Consumer.Passes capacity (Passing (ρ := ρ)) := by
  refine ⟨?_, ?_, ?_⟩
  · intro consumer left sink passing present
    obtain ⟨chunk, rest, next, produced, ended, short, cut, still⟩ := passing.read positive
    exact ⟨chunk, rest, next, produced, fun empty => present (ended empty), short, cut, still⟩
  · intro consumer sink passing
    obtain ⟨chunk, rest, next, produced, _, _, cut, still⟩ := passing.read positive
    obtain ⟨rfl, rfl⟩ := List.append_eq_nil_iff.mp cut.symm
    exact ⟨next, produced, still⟩
  · rintro consumer left sink graph delivery ⟨proper, sound, bytes, rfl⟩
    cases delivery with
    | triple triple => exact ⟨_, rfl, proper, sound, bytes, rfl⟩
    | «namespace» name iri => exact ⟨_, rfl, proper, sound, bytes, rfl⟩

end StreamConsumer

namespace Bridge

variable {κ ρ : Type} [Sink ρ] {passes : Bytes → ρ → κ → Prop} {capacity : Nat}

structure Standing (passes : Bytes → ρ → κ → Prop) (capacity : Nat) (left : Bytes)
    (log : List Contact) (sink : ρ) (b : Bridge (Logged κ)) : Prop where
  running : b.failure = none
  room : b.capacity = capacity
  supplied : passes left sink b.consumer.inner
  exhausted : b.ended = true → left = []
  noted : b.consumer.log.filter (!·.isProduction) = log

structure Halted (passes : Bytes → ρ → κ → Prop) (cause : Text) (log : List Contact) (sink : ρ)
    (b : Bridge (Logged κ)) : Prop where
  failed : b.failure = some (.tripleDelivery cause)
  supplied : ∃ left, passes left sink b.consumer.inner
  noted : b.consumer.log.filter (!·.isProduction) = log

def Stands (passes : Bytes → ρ → κ → Prop) (capacity : Nat) (state : Except Text Bytes)
    (log : List Contact) (sink : ρ) (b : Bridge (Logged κ)) : Prop :=
  match state with
  | .ok left => b.Standing passes capacity left log sink
  | .error cause => b.Halted passes cause log sink

variable [Consumer κ] {b : Bridge (Logged κ)} {left chunk : Bytes} {log : List Contact} {sink : ρ}
  {inner : κ}

namespace Standing

omit [Sink ρ] in
theorem asked (standing : b.Standing passes capacity left log sink) (positive : 0 < capacity)
    (more : b.ended = false)
    (produced : Consumer.produce b.consumer.inner capacity = (.ok chunk, inner)) :
    b.fill capacity = (some (b.served capacity chunk), b.supplied capacity chunk inner) ∧
      (b.supplied capacity chunk inner).consumer.log.filter (!·.isProduction) = log := by
  have least : min capacity b.capacity = capacity := by rw [standing.room, Nat.min_self]
  refine ⟨fill_of_produced standing.running more least (Nat.ne_of_gt positive) produced, ?_⟩
  rw [← standing.noted]
  show (b.consumer.log ++ [_]).filter _ = _
  rw [List.filter_append]
  exact List.append_nil _

theorem bytes (source : Consumer.Passes capacity passes) (positive : 0 < capacity)
    (standing : b.Standing passes capacity left log sink) (present : left ≠ []) :
    ∃ filled next rest, b.fill capacity = (some filled, next) ∧ filled.reported ≠ 0 ∧
      left = filled.taken capacity ++ rest ∧ filled.taken capacity ≠ [] ∧
      next.Standing passes capacity rest log sink := by
  obtain ⟨chunk, rest, inner, produced, content, short, cut, still⟩ :=
    source.bytes standing.supplied present
  have more : b.ended = false := Bool.eq_false_iff.mpr fun ended => present (standing.exhausted ended)
  obtain ⟨answered, noted⟩ := standing.asked positive more produced
  have all : chunk.take capacity = chunk := List.take_of_length_le short
  have length : chunk.length ≠ 0 := fun empty => content (List.length_eq_zero_iff.mp empty)
  have taken : (b.served capacity chunk).taken capacity = chunk := by
    simp [served, Filled.taken, all, Nat.min_eq_left short]
  refine ⟨_, _, rest, answered, by simpa only [served, all] using length, by rw [taken, cut],
    by rwa [taken], standing.running, standing.room, still, fun ended => ?_, noted⟩
  have empty : (chunk.take capacity).isEmpty = true := ended
  rw [all] at empty
  exact absurd (List.isEmpty_iff.mp empty) content

theorem ended (source : Consumer.Passes capacity passes) (positive : 0 < capacity)
    (standing : b.Standing passes capacity [] log sink) :
    ∃ filled next, b.fill capacity = (some filled, next) ∧ filled.reported = 0 ∧
      next.Standing passes capacity [] log sink := by
  cases ended : b.ended with
  | true =>
    have answered : b.fill capacity = (some .nothing, b) := by simp [fill, standing.running, ended]
    exact ⟨_, _, answered, rfl, standing⟩
  | false =>
    obtain ⟨inner, produced, still⟩ := source.ended standing.supplied
    obtain ⟨answered, noted⟩ := standing.asked positive ended produced
    exact ⟨_, _, answered, by simp [served], standing.running, standing.room, still, fun _ => rfl,
      noted⟩

theorem emit {emission : Emission} {delivery : Delivery} (source : Consumer.Passes capacity passes)
    (standing : b.Standing passes capacity left log sink)
    (meant : emission.triple.delivery? = some delivery) :
    ∃ next, match Sink.accept sink emission.graph delivery with
      | (.ok (), after) => b.emit emission = (true, next) ∧ next.Stands passes capacity (.ok left)
        (log ++ [.offered emission.graph delivery (.ok ())]) after
      | (.error cause, after) => b.emit emission = (false, next) ∧ next.Stands passes capacity
        (.error cause) (log ++ [.offered emission.graph delivery (.error cause)]) after := by
  have noted (answer : Except Text Unit) :
      (b.consumer.log ++ [Contact.offered emission.graph delivery answer]).filter
        (!·.isProduction) = log ++ [Contact.offered emission.graph delivery answer] := by
    rw [List.filter_append, standing.noted]
    simp
  obtain ⟨inner, answered, still⟩ := source.accept emission.graph delivery standing.supplied
  generalize Sink.accept sink emission.graph delivery = accepted at answered still ⊢
  obtain ⟨cause | done, after⟩ := accepted
  · exact ⟨_, emit_of_refused standing.running meant answered, rfl, ⟨left, still⟩, noted _⟩
  · exact ⟨_, emit_of_taken standing.running meant answered, standing.running, standing.room, still,
      standing.exhausted, noted _⟩

end Standing

theorem passes_of_passes (source : Consumer.Passes capacity passes) (positive : 0 < capacity) :
    Hooks.Passes capacity fun state log sink (b : Bridge (Logged κ)) =>
      b.Stands passes capacity state log sink :=
  ⟨Standing.bytes source positive, Standing.ended source positive, Standing.emit source⟩

end Bridge

namespace Session

variable {κ ρ : Type} [Consumer κ] [Sink ρ] {base : Text} {settings : Settings} {s : Session κ}
  {passes : Bytes → ρ → κ → Prop} {consumer : κ} {document : Bytes} {sink : ρ}

def concluded (answer : Except Text Unit) (result : Except Halt Unit) : Outcome :=
  match answer with
  | .ok () => reported result
  | .error cause => .error (.tripleDelivery cause)

structure Heard (ran : Session κ) (passes : Bytes → ρ → κ → Prop)
    (heard : Except Text Unit × List Contact × ρ) (result : Except Halt Unit) : Prop where
  deliveries : ran.contacts.filter (!·.isProduction) = heard.2.1
  outcome : ran.run.outcome = concluded heard.1 result
  sink : ∃ left binding, ran.run.session.binding = some binding ∧
    passes left heard.2.2 binding.consumer

omit [Sink ρ] in
theorem run_binding {engine : Engine} {binding : Binding κ} (ready : s.Ready engine binding) :
    s.run.session.binding = some
      { binding with consumer := (engine.run (s.watched binding)).host.consumer.inner } := by
  rw [run_of_ready ready]
  show some { binding with consumer := (engine.run (s.entry binding)).host.consumer } = _
  rw [run_unlogged]
  rfl

theorem run_heard (opened : openWith base settings = .ok s)
    (source : Consumer.Passes settings.chunkCapacity passes) (ready : passes document sink consumer)
    (unmarked : ¬ [0xEF, 0xBB, 0xBF] <+: document) {x : Extractor}
    (reader : x = ⟨base, settings.processing, settings.chunkCapacity, false⟩) :
    (s.bind consumer).Heard passes (Sink.hear sink (x.whole document).sent.reverse)
      (Extractor.verdict (x.whole document)) := by
  obtain ⟨sound, rfl⟩ := openWith_eq_ok_iff.mp opened
  have valid := (Extractor.problem?_eq_none_iff.mp sound).2.2.2
  have positive := (Settings.problem?_eq_none_iff.mp valid).1
  have hooks := Bridge.passes_of_passes source positive
  have bound : ((extracting base settings).bind consumer).Ready x.engine ⟨0, consumer⟩ :=
    ⟨rfl, reader ▸ rfl, rfl⟩
  have capacity : x.capacity = settings.chunkCapacity := congrArg Extractor.capacity reader
  have fresh : x.consumed = false := congrArg Extractor.consumed reader
  have entry : (((extracting base settings).bind consumer).watched ⟨0, consumer⟩).Stands passes
      settings.chunkCapacity (.ok document) [] sink :=
    ⟨rfl, rfl, ready, (by rintro ⟨⟩), rfl⟩
  rw [← capacity] at hooks entry
  have hears := Extractor.hears_run hooks fresh unmarked entry
  have final := run_binding bound
  have outcome := run_settled bound
  have contacts := run_contacts bound
  unfold Run.Hears at hears
  generalize Sink.hear sink (x.whole document).sent.reverse = heard at hears ⊢
  obtain ⟨cause | done, offered, after⟩ := heard
  · obtain ⟨failed, ⟨left, supplied⟩, noted⟩ := hears
    refine ⟨?_, ?_, left, _, final, supplied⟩
    · rw [contacts]
      exact noted
    · rw [outcome]
      simp only [Bridge.settle, failed, concluded]
  · obtain ⟨ended, left, standing⟩ := hears
    refine ⟨?_, ?_, left, _, final, standing.supplied⟩
    · rw [contacts]
      exact standing.noted
    · rw [outcome, ended]
      exact Bridge.settle_of_running standing.running _

def streamed (base : Text) (script : List Stream.Event) (sink : ρ) : Session (StreamConsumer ρ) :=
  (extracting base {}).bind (.new ⟨script, sink⟩)

omit [Consumer κ] in
theorem parseStream_eq {script : List Stream.Event} {opened : Session κ}
    (accepted : openWith base {} = .ok opened) :
    parseStream base script sink = ((streamed base script sink).run.outcome,
      ((streamed base script sink).run.session.binding.map (·.consumer.stream.sink)).getD sink) := by
  obtain ⟨sound, _⟩ := openWith_eq_ok_iff.mp accepted
  have found : (openWith base {} : Except OpeningProblem (Session (StreamConsumer ρ))) =
      .ok (extracting base {}) := openWith_eq_ok_iff.mpr ⟨sound, rfl⟩
  unfold parseStream
  rw [found]
  rfl

-- Reading from a stream does what this session does: the same calls of the sink in the same order, the
-- same outcome, and the sink ends in the same state.
structure ParsedAlike (base : Text) (script : List Stream.Event) (sink : ρ) (given : Session κ)
    (passes : Bytes → ρ → κ → Prop) : Prop where
  deliveries : (streamed base script sink).contacts.filter (!·.isProduction) =
    given.contacts.filter (!·.isProduction)
  outcome : (parseStream base script sink).1 = given.run.outcome
  sink : ∃ left binding, given.run.session.binding = some binding ∧
    passes left (parseStream base script sink).2 binding.consumer

theorem parsedAlike {script : List Stream.Event} (proper : Stream.Proper script)
    (sound : Stream.failure? script = none) (opened : openWith base {} = .ok s)
    (source : Consumer.Passes ({} : Settings).chunkCapacity passes)
    (ready : passes (Stream.content script) sink consumer)
    (unmarked : ¬ [0xEF, 0xBB, 0xBF] <+: Stream.content script) :
    ParsedAlike base script sink (s.bind consumer) passes := by
  obtain ⟨accepted, _⟩ := openWith_eq_ok_iff.mp opened
  have started : (openWith base {} : Except OpeningProblem (Session (StreamConsumer ρ))) =
      .ok (extracting base {}) := openWith_eq_ok_iff.mpr ⟨accepted, rfl⟩
  have here := run_heard started (StreamConsumer.passes (by decide)) (⟨proper, sound, rfl, rfl⟩ :
    StreamConsumer.Passing (Stream.content script) sink (.new ⟨script, sink⟩)) unmarked rfl
  have there := run_heard opened source ready unmarked rfl
  obtain ⟨_, binding, bound, passing⟩ := here.sink
  have last : (parseStream base script sink).2 = binding.consumer.stream.sink := by
    rw [parseStream_eq opened]
    show ((streamed base script sink).run.session.binding.map (·.consumer.stream.sink)).getD sink = _
    rw [show (streamed base script sink).run.session.binding = some binding from bound]
    rfl
  refine ⟨here.deliveries.trans there.deliveries.symm, ?_, ?_⟩
  · rw [parseStream_eq opened]
    exact here.outcome.trans there.outcome.symm
  · rw [last, passing.sink]
    exact there.sink

-- What a stream answers to any requests, and what parsing it comes to.
theorem stream_parsed_as_given {script : List Stream.Event} (proper : Stream.Proper script)
    {requests : List Nat} (asked : ∀ size ∈ requests, 0 < size) (sink : ρ) :
    Stream.Delivers (Stream.content script) (Stream.failure? script) requests
        ((StreamConsumer.new ⟨script, sink⟩).answers requests) ∧
      (Stream.failure? script = none → ¬ [0xEF, 0xBB, 0xBF] <+: Stream.content script →
        ∀ {κ : Type} [Consumer κ] (base : Text) (s : Session κ) (passes : Bytes → ρ → κ → Prop)
          (consumer : κ), openWith base {} = .ok s →
            Consumer.Passes ({} : Settings).chunkCapacity passes →
              passes (Stream.content script) sink consumer →
                ParsedAlike base script sink (s.bind consumer) passes) :=
  ⟨StreamConsumer.delivers_of_proper asked (.new ⟨script, sink⟩) proper,
    fun sound unmarked _ _ _ _ _ _ opened source ready =>
      parsedAlike proper sound opened source ready unmarked⟩

-- Two statements with interruptions before and between the pieces, the same bytes in one piece, and a
-- sink that refuses the second statement.
def interrupted : List Stream.Event :=
  [.interruption, .data (Markup.ascii "<p property='u:p' cont"), .interruption, .interruption,
    .data (Markup.ascii "ent='c'/><b property='u:q' content='d'/>")]

def smooth : List Stream.Event :=
  [.data (Markup.ascii "<p property='u:p' content='c'/><b property='u:q' content='d'/>")]

def declining : Lines := ⟨[], 0, some 1⟩

theorem interrupted_parsed_as_given :
    Stream.Proper interrupted ∧
      Stream.Delivers (Stream.content interrupted) none [3, 4096, 1, 4096, 1]
        ((StreamConsumer.new ⟨interrupted, declining⟩).answers [3, 4096, 1, 4096, 1]) ∧
      ParsedAlike "http://e/".toList interrupted declining
        ((extracting "http://e/".toList {}).bind (StreamConsumer.new ⟨smooth, declining⟩))
        StreamConsumer.Passing := by
  have proper : Stream.Proper interrupted :=
    .interruption (.data (by decide) (.interruption (.interruption (.data (by decide) .nil))))
  have opened : openWith "http://e/".toList {} =
      .ok (extracting "http://e/".toList {} : Session (StreamConsumer Lines)) :=
    openWith_eq_ok_iff.mpr ⟨by decide, rfl⟩
  have asked : ∀ size ∈ [3, 4096, 1, 4096, 1], 0 < size := by decide
  obtain ⟨delivers, alike⟩ := stream_parsed_as_given proper asked declining
  have same : StreamConsumer.Passing (Stream.content interrupted) declining
      (.new ⟨smooth, declining⟩) :=
    ⟨.data (by decide) .nil, rfl, by decide, rfl⟩
  exact ⟨proper, delivers, alike rfl (by decide) _ _ _ _ opened (StreamConsumer.passes (by decide)) same⟩

end Session
end Rdfa
