import Rdfa.Triple

-- The host's side: where bytes come from and where statements go.
namespace Rdfa

-- `produce` is asked for at most so many bytes and answers with some, with none at the end, or
-- with an error. `supply` bounds the non-empty answers that are still to come.
class Consumer (κ : Type) where
  produce : κ → Nat → Except Text Bytes × κ
  receive : κ → Graph → Triple → Except Text Unit × κ
  -- Declared prefixes; most consumers have no use for them.
  receiveNamespace : κ → Text → Text → Except Text Unit × κ :=
    fun consumer _ _ => (.ok (), consumer)
  supply : κ → Nat
  supply_produce_lt : ∀ {consumer : κ} {size : Nat} {chunk : Bytes}, 0 < size →
    (produce consumer size).1 = .ok chunk → chunk ≠ [] →
      supply (produce consumer size).2 < supply consumer
  supply_produce_le : ∀ (consumer : κ) (size : Nat),
    supply (produce consumer size).2 ≤ supply consumer
  supply_receive_le : ∀ (consumer : κ) (graph : Graph) (triple : Triple),
    supply (receive consumer graph triple).2 ≤ supply consumer
  supply_receiveNamespace_le : ∀ (consumer : κ) (name iri : Text),
    supply (receiveNamespace consumer name iri).2 ≤ supply consumer

def Consumer.accept {κ : Type} [Consumer κ] (consumer : κ) (graph : Graph) :
    Delivery → Except Text Unit × κ
  | .triple triple => Consumer.receive consumer graph triple
  | .namespace name iri => Consumer.receiveNamespace consumer name iri

theorem Consumer.supply_accept_le {κ : Type} [Consumer κ] (consumer : κ) (graph : Graph)
    (delivery : Delivery) :
    Consumer.supply (Consumer.accept consumer graph delivery).2 ≤ Consumer.supply consumer := by
  cases delivery with
  | triple triple => exact Consumer.supply_receive_le consumer graph triple
  | «namespace» name iri => exact Consumer.supply_receiveNamespace_le consumer name iri

end Rdfa
