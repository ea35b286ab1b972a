import Rdfa.Proofs.Bridge.Turn
import Rdfa.Proofs.Consumer.Failing
import Rdfa.Proofs.Hooks.Parting

-- A bridge to a consumer that is made to fail, beside the bridge to the same consumer spared. They take
-- the same turns up to the call that fails.
namespace Rdfa.Bridge

section Determined

variable {κ : Type} [Consumer κ] {b next next' : Bridge (Logged κ)}

theorem Step.fill_eq {size : Nat} {answer : Option Filled} {contacts : List Contact}
    (step : Step b ⟨.filled size answer, contacts⟩ next) : b.fill size = (answer, next) := by
  cases step with
  | fillRefused failed => simp [fill, failed]
  | fillEnded running ended => simp [fill, running, ended]
  | fillEmpty running more noRoom =>
    simp only [fill, running, more, noRoom, Option.isSome_none, Bool.false_eq_true, if_false,
      if_true]
  | inputFailed running more room answered =>
    simp only [fill, running, more, room, Option.isSome_none, Bool.false_eq_true, if_false, request,
      Logged.produce_eq answered, unproduced]
  | inputRead running more room answered =>
    simp only [fill, running, more, room, Option.isSome_none, Bool.false_eq_true, if_false, request,
      Logged.produce_eq answered, served, supplied]

theorem Step.emit_eq {emission : Emission} {accepted : Bool} {contacts : List Contact}
    (step : Step b ⟨.emitted emission accepted, contacts⟩ next) :
    b.emit emission = (accepted, next) := by
  cases step with
  | emissionRefused failed => exact emit_of_failure failed emission
  | codeUnknown running unknown =>
    simp [emit_of_running running, deliver, acquire, release, unknown]
  | deliveryRefused running meant answered => exact emit_of_refused running meant answered
  | deliveryTaken running meant answered => exact emit_of_taken running meant answered

theorem Step.unique {turn turn' : Turn} (one : Step b turn next) (other : Step b turn' next')
    (asked : turn.exchange.question = turn'.exchange.question) : turn = turn' ∧ next = next' := by
  have exchanges : turn.exchange = turn'.exchange ∧ next = next' := by
    rcases turn with ⟨call, contacts⟩
    rcases turn' with ⟨call', contacts'⟩
    cases call with
    | filled size answer =>
      cases call' with
      | filled size' answer' =>
        cases asked
        cases one.fill_eq.symm.trans other.fill_eq
        exact ⟨rfl, rfl⟩
      | emitted emission accepted => cases asked
    | emitted emission accepted =>
      cases call' with
      | filled size answer => cases asked
      | emitted emission' accepted' =>
        cases asked
        cases one.emit_eq.symm.trans other.emit_eq
        exact ⟨rfl, rfl⟩
  obtain ⟨exchange, reached⟩ := exchanges
  have contacts : turn.contacts = turn'.contacts := by
    rw [← one.contacts, ← other.contacts, reached]
  refine ⟨?_, reached⟩
  rcases turn with ⟨call, asked⟩
  cases exchange
  cases contacts
  rfl

variable {size : Nat} {emission : Emission} {delivery : Delivery}

theorem input_step (running : b.failure = none) (more : b.ended = false)
    (room : min size b.capacity ≠ 0) :
    ∃ exchange answer next, Step b ⟨exchange, [.produced (min size b.capacity) answer]⟩ next ∧
      exchange.question = .bytes size := by
  rcases answered : Consumer.produce b.consumer.inner (min size b.capacity) with ⟨answer, inner⟩
  cases answer with
  | error cause => exact ⟨_, _, _, .inputFailed running more room answered, rfl⟩
  | ok chunk => exact ⟨_, _, _, .inputRead running more room answered, rfl⟩

theorem delivery_step (running : b.failure = none)
    (meant : emission.triple.delivery? = some delivery) :
    ∃ exchange answer next, Step b ⟨exchange, [.offered emission.graph delivery answer]⟩ next ∧
      exchange.question = .statement emission := by
  rcases answered : Consumer.accept b.consumer.inner emission.graph delivery with ⟨answer, inner⟩
  cases answer with
  | error cause => exact ⟨_, _, _, .deliveryRefused running meant answered, rfl⟩
  | ok done => exact ⟨_, _, _, .deliveryTaken running meant answered, rfl⟩

end Determined

variable {κ : Type} [Consumer κ] {b next last : Bridge (Logged (Failing κ))} {turn : Turn}
  {kind : Contact.Kind} {left : Nat} {cause : Text}

def spared (b : Bridge (Logged (Failing κ))) : Bridge (Logged κ) :=
  { b with consumer := ⟨b.consumer.inner.inner, b.consumer.log⟩ }

-- The call that fails is still to come, after `left` others of its kind.
def Awaits (b : Bridge (Logged (Failing κ))) (kind : Contact.Kind) (left : Nat) (cause : Text) :
    Prop :=
  b.consumer.inner = .planned b.consumer.inner.inner kind left cause

def failureOf (kind : Contact.Kind) (cause : Text) : Failure :=
  match kind with
  | .fill => .inputProduction cause
  | .triple | .namespace => .tripleDelivery cause

-- A turn at the call that fails; the spared consumer is asked the same.
structure Breaks (b : Bridge (Logged (Failing κ))) (turn : Turn) (next : Bridge (Logged (Failing κ)))
    (kind : Contact.Kind) (cause : Text) : Prop where
  failed : next.failure = some (failureOf kind cause)
  spared : ∃ contact turn' next', contact.kind = kind ∧ turn.contacts = [contact.failed cause] ∧
    Step b.spared turn' next' ∧ turn'.exchange.question = turn.exchange.question ∧
    turn'.contacts = [contact]

theorem Step.spared (step : Step b turn next) (awaits : b.Awaits kind left cause) :
    (Step b.spared turn next.spared ∧ ∃ left', next.Awaits kind left' cause ∧
      left = left' + turn.contacts.countP (·.kind = kind)) ∨
    (left = 0 ∧ Breaks b turn next kind cause) := by
  have planned : b.consumer.inner = .planned b.consumer.inner.inner kind left cause := awaits
  cases step with
  | fillRefused failed => exact .inl ⟨.fillRefused failed, left, awaits, rfl⟩
  | fillEnded running ended => exact .inl ⟨.fillEnded running ended, left, awaits, rfl⟩
  | fillEmpty running more noRoom => exact .inl ⟨.fillEmpty running more noRoom, left, awaits, rfl⟩
  | emissionRefused failed => exact .inl ⟨.emissionRefused failed, left, awaits, rfl⟩
  | codeUnknown running unknown => exact .inl ⟨.codeUnknown running unknown, left, awaits, rfl⟩
  | @inputFailed size given inner running more room answered =>
    rw [planned] at answered
    rcases Failing.planned_answer answered with ⟨rfl, rfl, same⟩ | ⟨left', inside, kept, counted⟩
    · obtain ⟨exchange, answer, next', other, question⟩ :=
        @input_step κ _ b.spared size running more room
      cases same
      exact .inr ⟨rfl, rfl, _, _, _, rfl, rfl, other, question, rfl⟩
    · refine .inl ⟨.inputFailed running more room inside, left', kept, ?_⟩
      simpa [Contact.kind, eq_comm] using counted
  | @inputRead size chunk inner running more room answered =>
    rw [planned] at answered
    rcases Failing.planned_answer answered with ⟨_, _, same⟩ | ⟨left', inside, kept, counted⟩
    · cases same
    · refine .inl ⟨.inputRead running more room inside, left', kept, ?_⟩
      simpa [Contact.kind, eq_comm] using counted
  | @deliveryRefused emission delivery given inner running meant answered =>
    rw [Failing.accept_eq, planned] at answered
    rcases Failing.planned_answer answered with ⟨rfl, rfl, same⟩ | ⟨left', inside, kept, counted⟩
    · obtain ⟨exchange, answer, next', other, question⟩ :=
        @delivery_step κ _ b.spared _ _ running meant
      cases same
      refine .inr ⟨rfl, ?_, _, _, _, Contact.kind_offered _ _ _, ?_, other, question, rfl⟩
      · cases delivery <;> rfl
      · rw [Contact.failed_offered]
    · refine .inl ⟨.deliveryRefused running meant inside, left', kept, ?_⟩
      simpa [Contact.kind_offered, eq_comm] using counted
  | @deliveryTaken emission delivery inner running meant answered =>
    rw [Failing.accept_eq, planned] at answered
    rcases Failing.planned_answer answered with ⟨_, _, same⟩ | ⟨left', inside, kept, counted⟩
    · cases same
    · refine .inl ⟨.deliveryTaken running meant inside, left', kept, ?_⟩
      simpa [Contact.kind_offered, eq_comm] using counted

end Rdfa.Bridge
