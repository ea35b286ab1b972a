import Rdfa.Consumer

-- What passes between a consumer and whoever calls it, one entry a call.
namespace Rdfa

inductive Contact where
  | produced (size : Nat) (answer : Except Text Bytes)
  | received (graph : Graph) (triple : Triple) (answer : Except Text Unit)
  | declared (name iri : Text) (answer : Except Text Unit)

namespace Contact

-- A delivery handed over, and the answer to it. Declared prefixes belong to no graph.
def offered (graph : Graph) (delivery : Delivery) (answer : Except Text Unit) : Contact :=
  match delivery with
  | .triple triple => .received graph triple answer
  | .namespace name iri => .declared name iri answer

def isProduction : Contact → Bool
  | .produced _ _ => true
  | .received _ _ _ | .declared _ _ _ => false

@[simp] theorem isProduction_offered (graph : Graph) (delivery : Delivery)
    (answer : Except Text Unit) : (offered graph delivery answer).isProduction = false := by
  cases delivery <;> rfl

end Contact

def Emission.heard? (emission : Emission) : Option Contact :=
  emission.triple.delivery?.map fun delivery => .offered emission.graph delivery (.ok ())

structure Logged (κ : Type) where
  inner : κ
  log : List Contact

namespace Logged

def ofInner {κ : Type} (inner : κ) : Logged κ := ⟨inner, []⟩

variable {κ : Type} [Consumer κ]

instance : Consumer (Logged κ) where
  produce w size :=
    let answer := Consumer.produce w.inner size
    (answer.1, ⟨answer.2, w.log ++ [.produced size answer.1]⟩)
  receive w graph triple :=
    let answer := Consumer.receive w.inner graph triple
    (answer.1, ⟨answer.2, w.log ++ [.received graph triple answer.1]⟩)
  receiveNamespace w name iri :=
    let answer := Consumer.receiveNamespace w.inner name iri
    (answer.1, ⟨answer.2, w.log ++ [.declared name iri answer.1]⟩)
  supply w := Consumer.supply w.inner
  supply_produce_lt asked answered more := Consumer.supply_produce_lt asked answered more
  supply_produce_le w size := Consumer.supply_produce_le w.inner size
  supply_receive_le w graph triple := Consumer.supply_receive_le w.inner graph triple
  supply_receiveNamespace_le w name iri := Consumer.supply_receiveNamespace_le w.inner name iri

theorem produce_eq {w : Logged κ} {size : Nat} {answer : Except Text Bytes} {inner : κ}
    (answered : Consumer.produce w.inner size = (answer, inner)) :
    Consumer.produce w size = (answer, ⟨inner, w.log ++ [.produced size answer]⟩) := by
  show ((Consumer.produce w.inner size).1, _) = _
  rw [answered]

theorem accept_eq {w : Logged κ} {graph : Graph} {delivery : Delivery} {answer : Except Text Unit}
    {inner : κ} (answered : Consumer.accept w.inner graph delivery = (answer, inner)) :
    Consumer.accept w graph delivery =
      (answer, ⟨inner, w.log ++ [.offered graph delivery answer]⟩) := by
  cases delivery with
  | triple triple =>
    have received : Consumer.receive w.inner graph triple = (answer, inner) := answered
    show ((Consumer.receive w.inner graph triple).1, _) = _
    rw [received]
    rfl
  | «namespace» name iri =>
    have declared : Consumer.receiveNamespace w.inner name iri = (answer, inner) := answered
    show ((Consumer.receiveNamespace w.inner name iri).1, _) = _
    rw [declared]
    rfl

end Logged
end Rdfa
