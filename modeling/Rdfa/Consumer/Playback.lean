import Rdfa.Consumer

-- A consumer with fixed input that refuses chosen calls, and a log of what any consumer sees.
namespace Rdfa

-- Counters are of calls made so far; a refusal is planned by the number of its call.
structure Playback where
  pieces : List Bytes
  fills : Nat := 0
  triples : Nat := 0
  namespaces : Nat := 0
  failFill : Option Nat := none
  failTriple : Option Nat := none
  failNamespace : Option Nat := none
deriving Repr, DecidableEq

namespace Playback

def refusal (planned : Option Nat) (number : Nat) (before after : String) : Except Text Unit :=
  if planned = some number then
    .error (before.toList ++ Text.decimal number ++ after.toList)
  else .ok ()

def produce (p : Playback) (_ : Nat) : Except Text Bytes × Playback :=
  let counted := { p with fills := p.fills + 1 }
  match refusal p.failFill p.fills "fill " " failed" with
  | .error cause => (.error cause, counted)
  | .ok () =>
    match p.pieces with
    | [] => (.ok [], counted)
    | piece :: rest => (.ok piece, { counted with pieces := rest })

def receive (p : Playback) (_ : Graph) (_ : Triple) : Except Text Unit × Playback :=
  (refusal p.failTriple p.triples "delivery " " refused", { p with triples := p.triples + 1 })

def receiveNamespace (p : Playback) (_ _ : Text) : Except Text Unit × Playback :=
  (refusal p.failNamespace p.namespaces "namespace " " refused",
    { p with namespaces := p.namespaces + 1 })

instance : Consumer Playback where
  produce := produce
  receive := receive
  receiveNamespace := receiveNamespace
  supply p := p.pieces.length
  supply_produce_lt _ answered more := by
    unfold produce at answered ⊢
    split at answered
    · cases answered
    · split at answered
      · cases answered
        exact absurd rfl more
      · next pieces => simp [pieces]
  supply_produce_le p _ := by
    unfold produce
    split
    · exact Nat.le_refl _
    · split
      · exact Nat.le_refl _
      · next pieces => simp [pieces]
  supply_receive_le _ _ _ := Nat.le_refl _
  supply_receiveNamespace_le _ _ _ := Nat.le_refl _

end Playback

inductive Callback where
  | fill (size : Nat)
  | triple (graph : Graph) (triple : Triple)
  | refusedTriple (graph : Graph) (triple : Triple)
  | namespace (name iri : Text)
  | refusedNamespace (name iri : Text)
deriving Repr, DecidableEq

-- A consumer and its calls, latest first. It answers as the consumer inside.
structure Watched (κ : Type) where
  inner : κ
  seen : List Callback
deriving Repr, DecidableEq

namespace Watched

variable {κ : Type} [Consumer κ]

def calls (w : Watched κ) : List Callback := w.seen.reverse

def note (w : Watched κ) (answer : Except Text Unit × κ) (accepted refused : Callback) :
    Except Text Unit × Watched κ :=
  (answer.1, ⟨answer.2, (if answer.1.isOk then accepted else refused) :: w.seen⟩)

instance : Consumer (Watched κ) where
  produce w size :=
    let answer := Consumer.produce w.inner size
    (answer.1, ⟨answer.2, .fill size :: w.seen⟩)
  receive w graph triple :=
    w.note (Consumer.receive w.inner graph triple) (.triple graph triple)
      (.refusedTriple graph triple)
  receiveNamespace w name iri :=
    w.note (Consumer.receiveNamespace w.inner name iri) (.namespace name iri)
      (.refusedNamespace name iri)
  supply w := Consumer.supply w.inner
  supply_produce_lt asked answered more := Consumer.supply_produce_lt asked answered more
  supply_produce_le w size := Consumer.supply_produce_le w.inner size
  supply_receive_le w graph triple := Consumer.supply_receive_le w.inner graph triple
  supply_receiveNamespace_le w name iri := Consumer.supply_receiveNamespace_le w.inner name iri

end Watched

-- A consumer that may leave declared prefixes to the default, which ignores them.
structure Selective (κ : Type) where
  inner : κ
  namespaces : Bool
deriving Repr, DecidableEq

instance {κ : Type} [Consumer κ] : Consumer (Selective κ) where
  produce s size :=
    let answer := Consumer.produce s.inner size
    (answer.1, { s with inner := answer.2 })
  receive s graph triple :=
    let answer := Consumer.receive s.inner graph triple
    (answer.1, { s with inner := answer.2 })
  receiveNamespace s name iri :=
    if s.namespaces then
      let answer := Consumer.receiveNamespace s.inner name iri
      (answer.1, { s with inner := answer.2 })
    else (.ok (), s)
  supply s := Consumer.supply s.inner
  supply_produce_lt asked answered more := Consumer.supply_produce_lt asked answered more
  supply_produce_le s size := Consumer.supply_produce_le s.inner size
  supply_receive_le s graph triple := Consumer.supply_receive_le s.inner graph triple
  supply_receiveNamespace_le s name iri := by
    split
    · exact Consumer.supply_receiveNamespace_le s.inner name iri
    · exact Nat.le_refl _

end Rdfa
