import Rdfa.Proofs.Consumer.Contact

-- A consumer made to fail at one of its calls.
namespace Rdfa

inductive Contact.Kind where
  | fill
  | triple
  | namespace
deriving DecidableEq

namespace Contact

def kind : Contact → Kind
  | .produced _ _ => .fill
  | .received _ _ _ => .triple
  | .declared _ _ _ => .namespace

def failed (cause : Text) : Contact → Contact
  | .produced size _ => .produced size (.error cause)
  | .received graph triple _ => .received graph triple (.error cause)
  | .declared name iri _ => .declared name iri (.error cause)

end Contact

def Delivery.kind : Delivery → Contact.Kind
  | .triple _ => .triple
  | .namespace _ _ => .namespace

theorem Contact.kind_offered (graph : Graph) (delivery : Delivery) (answer : Except Text Unit) :
    (offered graph delivery answer).kind = delivery.kind := by
  cases delivery <;> rfl

theorem Contact.failed_offered (graph : Graph) (delivery : Delivery) (answer : Except Text Unit)
    (cause : Text) :
    (offered graph delivery answer).failed cause = offered graph delivery (.error cause) := by
  cases delivery <;> rfl

-- It answers as the consumer inside, but for one call of `kind`: `left` others of that kind come before
-- it, and it fails for `cause` without asking inside.
structure Failing (κ : Type) where
  inner : κ
  kind : Contact.Kind
  left : Option Nat
  cause : Text

namespace Failing

variable {κ : Type} {f : Failing κ} {kind : Contact.Kind} {α : Type}

def planned (inner : κ) (kind : Contact.Kind) (number : Nat) (cause : Text) : Failing κ :=
  ⟨inner, kind, some number, cause⟩

def answer (f : Failing κ) (kind : Contact.Kind) (inside : Except Text α × κ) :
    Except Text α × Failing κ :=
  if f.kind = kind then
    match f.left with
    | some 0 => (.error f.cause, { f with left := none })
    | some (left + 1) => (inside.1, { f with inner := inside.2, left := some left })
    | none => (inside.1, { f with inner := inside.2 })
  else (inside.1, { f with inner := inside.2 })

theorem answer_cases (f : Failing κ) (kind : Contact.Kind) (inside : Except Text α × κ) :
    (f.kind = kind ∧ f.left = some 0 ∧
      f.answer kind inside = (.error f.cause, { f with left := none })) ∨
    ∃ left, f.answer kind inside = (inside.1, { f with inner := inside.2, left }) ∧
      f.left = left.map (· + if f.kind = kind then 1 else 0) := by
  unfold answer
  by_cases counted : f.kind = kind
  · rw [if_pos counted]
    rcases planned : f.left with _ | _ | left
    · exact .inr ⟨none, rfl, rfl⟩
    · exact .inl ⟨counted, rfl, rfl⟩
    · exact .inr ⟨some left, rfl, by simp [counted]⟩
  · rw [if_neg counted]
    exact .inr ⟨f.left, rfl, by simp [counted]⟩

-- As long as the failing call is planned, it comes now, or the answer is the one from inside.
theorem planned_answer {inner : κ} {asked : Contact.Kind} {left : Nat} {cause : Text}
    {inside : Except Text α × κ} {answer : Except Text α} {next : Failing κ}
    (answered : (planned inner kind left cause).answer asked inside = (answer, next)) :
    (kind = asked ∧ left = 0 ∧ answer = .error cause) ∨
    ∃ left', inside = (answer, next.inner) ∧ next = planned next.inner kind left' cause ∧
      left = left' + if kind = asked then 1 else 0 := by
  rcases answer_cases (planned inner kind left cause) asked inside with
    ⟨same, now, failed⟩ | ⟨left', given, counted⟩
  · cases answered.symm.trans failed
    exact .inl ⟨same, Option.some.inj now, rfl⟩
  · cases answered.symm.trans given
    cases left' with
    | none => cases counted
    | some left' => exact .inr ⟨left', rfl, rfl, Option.some.inj counted⟩

variable [Consumer κ]

theorem supply_answer_le {inside : Except Text α × κ}
    (bound : Consumer.supply inside.2 ≤ Consumer.supply f.inner) :
    Consumer.supply (f.answer kind inside).2.inner ≤ Consumer.supply f.inner := by
  rcases f.answer_cases kind inside with ⟨_, _, failed⟩ | ⟨left, answered, _⟩
  · exact Nat.le_of_eq (congrArg (fun given => Consumer.supply given.2.inner) failed)
  · rw [answered]
    exact bound

instance : Consumer (Failing κ) where
  produce f size := f.answer .fill (Consumer.produce f.inner size)
  receive f graph triple := f.answer .triple (Consumer.receive f.inner graph triple)
  receiveNamespace f name iri := f.answer .namespace (Consumer.receiveNamespace f.inner name iri)
  supply f := Consumer.supply f.inner
  supply_produce_lt {f size chunk} asked answered more := by
    rcases f.answer_cases .fill (Consumer.produce f.inner size) with ⟨_, _, failed⟩ | ⟨_, inside, _⟩
    · rw [failed] at answered
      cases answered
    · rw [inside] at answered ⊢
      exact Consumer.supply_produce_lt asked answered more
  supply_produce_le f size := supply_answer_le (Consumer.supply_produce_le f.inner size)
  supply_receive_le f graph triple :=
    supply_answer_le (Consumer.supply_receive_le f.inner graph triple)
  supply_receiveNamespace_le f name iri :=
    supply_answer_le (Consumer.supply_receiveNamespace_le f.inner name iri)

theorem accept_eq (f : Failing κ) (graph : Graph) (delivery : Delivery) :
    Consumer.accept f graph delivery =
      f.answer delivery.kind (Consumer.accept f.inner graph delivery) := by
  cases delivery <;> rfl

end Failing
end Rdfa
