import Rdfa.Bridge
import Rdfa.Proofs.Consumer.Contact
import Rdfa.Proofs.Hooks.Trace

-- A run of any engine, cut into turns: one call of the engine, its answer, and what the consumer was
-- asked while it was being answered.
namespace Rdfa

structure Turn where
  exchange : Exchange
  contacts : List Contact

namespace Bridge

variable {κ : Type} [Consumer κ]

def turns (b : Bridge (Logged κ)) : List Exchange → List Turn
  | [] => []
  | call :: rest =>
    let next := Hooks.answered b call
    ⟨call, next.consumer.log.drop b.consumer.log.length⟩ :: next.turns rest

theorem turns_exchange (b : Bridge (Logged κ)) (calls : List Exchange) :
    (b.turns calls).map (·.exchange) = calls := by
  induction calls generalizing b with
  | nil => rfl
  | cons call rest ih => simp [turns, ih]

def unproduced (b : Bridge (Logged κ)) (size : Nat) (cause : Text) (inner : κ) :
    Bridge (Logged κ) :=
  { b with
    consumer := ⟨inner, b.consumer.log ++ [.produced size (.error cause)]⟩
    stats := { b.stats with fillRequests := b.stats.fillRequests + 1 }
    failure := some (.inputProduction cause) }

def supplied (b : Bridge (Logged κ)) (size : Nat) (chunk : Bytes) (inner : κ) :
    Bridge (Logged κ) :=
  { b with
    consumer := ⟨inner, b.consumer.log ++ [.produced size (.ok chunk)]⟩
    stats := b.stats.countFill (chunk.take size).length (size < chunk.length)
    ended := (chunk.take size).isEmpty }

def served (b : Bridge (Logged κ)) (size : Nat) (chunk : Bytes) : Filled :=
  ⟨chunk.take size, b.padByte, (chunk.take size).length⟩

def undelivered (b : Bridge (Logged κ)) (graph : Graph) (delivery : Delivery) (cause : Text)
    (inner : κ) : Bridge (Logged κ) :=
  { b.acquire.release with
    consumer := ⟨inner, b.consumer.log ++ [.offered graph delivery (.error cause)]⟩
    failure := some (.tripleDelivery cause) }

def delivered (b : Bridge (Logged κ)) (graph : Graph) (delivery : Delivery) (inner : κ) :
    Bridge (Logged κ) :=
  { b.acquire.release with
    consumer := ⟨inner, b.consumer.log ++ [.offered graph delivery (.ok ())]⟩
    stats := b.stats.countDelivery graph delivery }

-- All that one turn can be, with the state it starts from and the state it leads to. No case looks
-- at the engine, and the consumer appears in none but the four in which it is asked.
inductive Step : Bridge (Logged κ) → Turn → Bridge (Logged κ) → Prop where
  | fillRefused {b : Bridge (Logged κ)} {size : Nat} {failure : Failure}
      (failed : b.failure = some failure) : Step b ⟨.filled size none, []⟩ b
  | fillEnded {b : Bridge (Logged κ)} {size : Nat} (running : b.failure = none)
      (ended : b.ended = true) : Step b ⟨.filled size (some .nothing), []⟩ b
  | fillEmpty {b : Bridge (Logged κ)} {size : Nat} (running : b.failure = none)
      (more : b.ended = false) (noRoom : min size b.capacity = 0) :
      Step b ⟨.filled size (some .nothing), []⟩ { b with ended := true }
  | inputFailed {b : Bridge (Logged κ)} {size : Nat} {cause : Text} {inner : κ}
      (running : b.failure = none) (more : b.ended = false) (room : min size b.capacity ≠ 0)
      (answered : Consumer.produce b.consumer.inner (min size b.capacity) = (.error cause, inner)) :
      Step b ⟨.filled size none, [.produced (min size b.capacity) (.error cause)]⟩
        (b.unproduced (min size b.capacity) cause inner)
  | inputRead {b : Bridge (Logged κ)} {size : Nat} {chunk : Bytes} {inner : κ}
      (running : b.failure = none) (more : b.ended = false) (room : min size b.capacity ≠ 0)
      (answered : Consumer.produce b.consumer.inner (min size b.capacity) = (.ok chunk, inner)) :
      Step b ⟨.filled size (some (b.served (min size b.capacity) chunk)),
          [.produced (min size b.capacity) (.ok chunk)]⟩
        (b.supplied (min size b.capacity) chunk inner)
  | emissionRefused {b : Bridge (Logged κ)} {emission : Emission} {failure : Failure}
      (failed : b.failure = some failure) :
      Step b ⟨.emitted emission false, []⟩ b.acquire.release
  | codeUnknown {b : Bridge (Logged κ)} {emission : Emission} (running : b.failure = none)
      (unknown : emission.triple.delivery? = none) :
      Step b ⟨.emitted emission false, []⟩
        { b.acquire.release with failure := some (unknownCode emission.triple.code) }
  | deliveryRefused {b : Bridge (Logged κ)} {emission : Emission} {delivery : Delivery}
      {cause : Text} {inner : κ} (running : b.failure = none)
      (meant : emission.triple.delivery? = some delivery)
      (answered : Consumer.accept b.consumer.inner emission.graph delivery = (.error cause, inner)) :
      Step b ⟨.emitted emission false, [.offered emission.graph delivery (.error cause)]⟩
        (b.undelivered emission.graph delivery cause inner)
  | deliveryTaken {b : Bridge (Logged κ)} {emission : Emission} {delivery : Delivery} {inner : κ}
      (running : b.failure = none) (meant : emission.triple.delivery? = some delivery)
      (answered : Consumer.accept b.consumer.inner emission.graph delivery = (.ok (), inner)) :
      Step b ⟨.emitted emission true, [.offered emission.graph delivery (.ok ())]⟩
        (b.delivered emission.graph delivery inner)

theorem Step.log {b next : Bridge (Logged κ)} {turn : Turn} (step : Step b turn next) :
    next.consumer.log = b.consumer.log ++ turn.contacts := by
  cases step <;> simp [unproduced, supplied, undelivered, delivered, acquire, release]

theorem fill_of_failed {b : Bridge (Logged κ)} {size room : Nat} {cause : Text} {inner : κ}
    (running : b.failure = none) (more : b.ended = false) (least : min size b.capacity = room)
    (positive : room ≠ 0) (answered : Consumer.produce b.consumer.inner room = (.error cause, inner)) :
    b.fill size = (none, b.unproduced room cause inner) := by
  simp only [fill, running, more, least, positive, request, unproduced, Logged.produce_eq answered,
    Option.isSome_none, Bool.false_eq_true, if_false]

theorem fill_of_produced {b : Bridge (Logged κ)} {size room : Nat} {chunk : Bytes} {inner : κ}
    (running : b.failure = none) (more : b.ended = false) (least : min size b.capacity = room)
    (positive : room ≠ 0) (answered : Consumer.produce b.consumer.inner room = (.ok chunk, inner)) :
    b.fill size = (some (b.served room chunk), b.supplied room chunk inner) := by
  simp only [fill, running, more, least, positive, request, served, supplied,
    Logged.produce_eq answered, Option.isSome_none, Bool.false_eq_true, if_false]

theorem emit_of_refused {b : Bridge (Logged κ)} {emission : Emission} {delivery : Delivery}
    {cause : Text} {inner : κ} (running : b.failure = none)
    (meant : emission.triple.delivery? = some delivery)
    (answered : Consumer.accept b.consumer.inner emission.graph delivery = (.error cause, inner)) :
    b.emit emission = (false, b.undelivered emission.graph delivery cause inner) := by
  simp [emit_of_running running, deliver, undelivered, acquire, release, meant, Logged.accept_eq answered]

theorem emit_of_taken {b : Bridge (Logged κ)} {emission : Emission} {delivery : Delivery} {inner : κ}
    (running : b.failure = none) (meant : emission.triple.delivery? = some delivery)
    (answered : Consumer.accept b.consumer.inner emission.graph delivery = (.ok (), inner)) :
    b.emit emission = (true, b.delivered emission.graph delivery inner) := by
  simp [emit_of_running running, deliver, delivered, acquire, release, meant, Logged.accept_eq answered]

theorem fill_step (b : Bridge (Logged κ)) (size : Nat) :
    ∃ contacts, Step b ⟨.filled size (b.fill size).1, contacts⟩ (b.fill size).2 := by
  cases failed : b.failure with
  | some failure =>
    refine ⟨[], ?_⟩
    simpa [fill, failed] using Step.fillRefused failed
  | none =>
    cases ended : b.ended with
    | true =>
      refine ⟨[], ?_⟩
      simpa [fill, failed, ended] using Step.fillEnded failed ended
    | false =>
      by_cases room : min size b.capacity = 0
      · refine ⟨[], ?_⟩
        simpa only [fill, failed, ended, room, Option.isSome_none, Bool.false_eq_true, if_false,
          if_true] using Step.fillEmpty failed ended room
      · rcases answered : Consumer.produce b.consumer.inner (min size b.capacity) with
          ⟨answer, inner⟩
        cases answer with
        | error cause =>
          rw [fill_of_failed failed ended rfl room answered]
          exact ⟨_, .inputFailed failed ended room answered⟩
        | ok chunk =>
          rw [fill_of_produced failed ended rfl room answered]
          exact ⟨_, .inputRead failed ended room answered⟩

theorem emit_step (b : Bridge (Logged κ)) (emission : Emission) :
    ∃ contacts, Step b ⟨.emitted emission (b.emit emission).1, contacts⟩ (b.emit emission).2 := by
  cases failed : b.failure with
  | some failure =>
    rw [emit_of_failure failed]
    exact ⟨[], .emissionRefused failed⟩
  | none =>
    cases meant : emission.triple.delivery? with
    | none =>
      have refused : b.emit emission = (false,
          { b.acquire.release with failure := some (unknownCode emission.triple.code) }) := by
        simp [emit_of_running failed, deliver, acquire, release, meant]
      rw [refused]
      exact ⟨[], .codeUnknown failed meant⟩
    | some delivery =>
      rcases answered : Consumer.accept b.consumer.inner emission.graph delivery with
        ⟨answer, inner⟩
      cases answer with
      | error cause =>
        rw [emit_of_refused failed meant answered]
        exact ⟨_, .deliveryRefused failed meant answered⟩
      | ok taken =>
        rw [emit_of_taken failed meant answered]
        exact ⟨_, .deliveryTaken failed meant answered⟩

def unlogged (b : Bridge (Logged κ)) : Bridge κ :=
  { b with consumer := b.consumer.inner }

theorem Step.fill_unlogged {b next : Bridge (Logged κ)} {size : Nat} {answer : Option Filled}
    {contacts : List Contact} (step : Step b ⟨.filled size answer, contacts⟩ next) :
    b.unlogged.fill size = (answer, next.unlogged) := by
  cases step with
  | fillRefused failed => simp [fill, unlogged, failed]
  | fillEnded running ended => simp [fill, unlogged, running, ended]
  | fillEmpty running more noRoom =>
    simp only [fill, unlogged, running, more, noRoom, Option.isSome_none, Bool.false_eq_true,
      if_false, if_true]
  | inputFailed running more room answered =>
    simp only [fill, unlogged, running, more, room, Option.isSome_none, Bool.false_eq_true,
      if_false, request, answered, unproduced]
  | inputRead running more room answered =>
    simp only [fill, unlogged, running, more, room, Option.isSome_none, Bool.false_eq_true,
      if_false, request, answered, served, supplied]

theorem Step.emit_unlogged {b next : Bridge (Logged κ)} {emission : Emission} {accepted : Bool}
    {contacts : List Contact} (step : Step b ⟨.emitted emission accepted, contacts⟩ next) :
    b.unlogged.emit emission = (accepted, next.unlogged) := by
  cases step with
  | emissionRefused failed => exact emit_of_failure (b := b.unlogged) failed emission
  | codeUnknown running unknown =>
    rw [emit_of_running (b := b.unlogged) running]
    simp [deliver, unlogged, acquire, release, unknown]
  | deliveryRefused running meant answered =>
    rw [emit_of_running (b := b.unlogged) running]
    simp [deliver, unlogged, undelivered, acquire, release, meant, answered]
  | deliveryTaken running meant answered =>
    rw [emit_of_running (b := b.unlogged) running]
    simp [deliver, unlogged, delivered, acquire, release, meant, answered]

theorem unlogged_mirrors : Hooks.Mirrors (unlogged (κ := κ)) := by
  refine ⟨?_, ?_⟩
  · intro b size
    obtain ⟨contacts, step⟩ := b.fill_step size
    exact step.fill_unlogged
  · intro b emission
    obtain ⟨contacts, step⟩ := b.emit_step emission
    exact step.emit_unlogged

theorem Step.received {b next : Bridge (Logged κ)} {turn : Turn} {graph : Graph} {triple : Triple}
    {answer : Except Text Unit} (step : Step b turn next)
    (heard : .received graph triple answer ∈ turn.contacts) :
    ∃ emission accepted, turn.exchange = .emitted emission accepted ∧ emission.graph = graph ∧
      emission.triple.delivery? = some (.triple triple) := by
  have same {emission : Emission} {delivery : Delivery} {given : Except Text Unit}
      (offer : .received graph triple answer ∈ [Contact.offered emission.graph delivery given]) :
      emission.graph = graph ∧ delivery = .triple triple := by
    cases delivery <;> cases List.mem_singleton.mp offer
    exact ⟨rfl, rfl⟩
  cases step with
  | fillRefused _ => cases heard
  | fillEnded _ _ => cases heard
  | fillEmpty _ _ _ => cases heard
  | emissionRefused _ => cases heard
  | codeUnknown _ _ => cases heard
  | inputFailed _ _ _ _ => cases List.mem_singleton.mp heard
  | inputRead _ _ _ _ => cases List.mem_singleton.mp heard
  | deliveryRefused _ meant _ =>
    obtain ⟨graph, rfl⟩ := same heard
    exact ⟨_, _, rfl, graph, meant⟩
  | deliveryTaken _ meant _ =>
    obtain ⟨graph, rfl⟩ := same heard
    exact ⟨_, _, rfl, graph, meant⟩

inductive Path : Bridge (Logged κ) → List Turn → Bridge (Logged κ) → Prop where
  | nil {b : Bridge (Logged κ)} : Path b [] b
  | cons {b next last : Bridge (Logged κ)} {turn : Turn} {rest : List Turn}
      (step : Step b turn next) (later : Path next rest last) : Path b (turn :: rest) last

theorem Step.contacts {b next : Bridge (Logged κ)} {turn : Turn} (step : Step b turn next) :
    next.consumer.log.drop b.consumer.log.length = turn.contacts := by
  rw [step.log]
  exact List.drop_left

-- Every chain of calls is such a path, through the turns that are read off the log.
theorem path_of_trace {b last : Bridge (Logged κ)} {calls : List Exchange}
    (trace : Hooks.Trace b calls last) : Path b (b.turns calls) last := by
  induction trace with
  | nil => exact .nil
  | @fill b next last size answer rest asked later ih =>
    obtain ⟨contacts, step⟩ := fill_step b size
    have asked : b.fill size = (answer, next) := asked
    rw [asked] at step
    have reached : Hooks.answered b (.filled size answer) = next := congrArg Prod.snd asked
    simp only [turns, reached, step.contacts]
    exact .cons step ih
  | @emit b next last emission accepted rest asked later ih =>
    obtain ⟨contacts, step⟩ := emit_step b emission
    have asked : b.emit emission = (accepted, next) := asked
    rw [asked] at step
    have reached : Hooks.answered b (.emitted emission accepted) = next := congrArg Prod.snd asked
    simp only [turns, reached, step.contacts]
    exact .cons step ih

theorem run_path (engine : Engine) (b : Bridge (Logged κ)) :
    Path b (b.turns (engine.run b).calls) (engine.run b).host :=
  path_of_trace (engine.run_trace b)

theorem Path.log {b last : Bridge (Logged κ)} {turns : List Turn} (path : Path b turns last) :
    last.consumer.log = b.consumer.log ++ turns.flatMap (·.contacts) := by
  induction path with
  | nil => simp
  | cons step later ih => rw [ih, step.log, List.flatMap_cons, List.append_assoc]

theorem Path.split {b last : Bridge (Logged κ)} {before after : List Turn} {turn : Turn}
    (path : Path b (before ++ turn :: after) last) :
    ∃ middle next, Path b before middle ∧ Step middle turn next ∧ Path next after last := by
  induction before generalizing b with
  | nil =>
    cases path with
    | cons step later => exact ⟨b, _, .nil, step, later⟩
  | cons first before ih =>
    cases path with
    | cons step later =>
      obtain ⟨middle, next, earlier, here, rest⟩ := ih later
      exact ⟨middle, next, .cons step earlier, here, rest⟩

theorem Step.heard {b next : Bridge (Logged κ)} {turn : Turn} (step : Step b turn next) (accepted : turn.exchange.isRefused = false) :
    turn.contacts.filter (!·.isProduction) =
      (turn.exchange.announced?.bind Emission.heard?).toList := by
  cases step with
  | fillRefused _ => cases accepted
  | inputFailed _ _ _ _ => cases accepted
  | emissionRefused _ => cases accepted
  | codeUnknown _ _ => cases accepted
  | deliveryRefused _ _ _ => cases accepted
  | fillEnded _ _ => rfl
  | fillEmpty _ _ _ => rfl
  | inputRead _ _ _ _ => rfl
  | deliveryTaken _ meant _ => simp [Exchange.announced?, Emission.heard?, meant]

theorem Path.heard {b last : Bridge (Logged κ)} {turns : List Turn} (path : Path b turns last)
    (accepted : ∀ turn ∈ turns, turn.exchange.isRefused = false) :
    (turns.flatMap (·.contacts)).filter (!·.isProduction) =
      ((turns.map (·.exchange)).filterMap Exchange.announced?).filterMap Emission.heard? := by
  induction path with
  | nil => rfl
  | @cons b next last turn rest step later ih =>
    obtain ⟨first, others⟩ := List.forall_mem_cons.mp accepted
    rw [List.flatMap_cons, List.filter_append, step.heard first, ih others, List.map_cons]
    cases announced : turn.exchange.announced? with
    | none => simp [announced]
    | some emission => cases heard : emission.heard? <;> simp [announced, heard]

end Bridge
end Rdfa
