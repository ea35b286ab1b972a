import Rdfa.Consumer.Playback

-- Consumers that hand out a document in given pieces and take whatever they are told.
namespace Rdfa

-- A consumer that answers requests for `capacity` bytes with the pieces in order, then with none, and
-- takes every delivery at any time.
structure Consumer.Supplies {κ : Type} [Consumer κ] (capacity : Nat)
    (supplies : List Bytes → κ → Prop) : Prop where
  bytes : ∀ {consumer chunk rest}, supplies (chunk :: rest) consumer →
    ∃ next, Consumer.produce consumer capacity = (.ok chunk, next) ∧ supplies rest next
  ended : ∀ {consumer}, supplies [] consumer →
    ∃ next, Consumer.produce consumer capacity = (.ok [], next) ∧ supplies [] next
  accepts : ∀ {consumer chunks} (graph : Graph) (delivery : Delivery), supplies chunks consumer →
    ∃ next, Consumer.accept consumer graph delivery = (.ok (), next) ∧ supplies chunks next

def Fitting (capacity : Nat) (chunks : List Bytes) : Prop :=
  ∀ chunk ∈ chunks, chunk ≠ [] ∧ chunk.length ≤ capacity

namespace Session

theorem playback_supplies (capacity : Nat) :
    Consumer.Supplies capacity fun chunks (p : Playback) =>
      p.pieces = chunks ∧ p.failFill = none ∧ p.failTriple = none ∧ p.failNamespace = none := by
  refine ⟨?_, ?_, ?_⟩
  · rintro p chunk rest ⟨pieces, fills, triples, namespaces⟩
    have produced : p.produce capacity =
        (.ok chunk, { p with fills := p.fills + 1, pieces := rest }) := by
      simp [Playback.produce, Playback.refusal, pieces, fills]
    exact ⟨_, produced, rfl, fills, triples, namespaces⟩
  · rintro p ⟨pieces, fills, triples, namespaces⟩
    have produced : p.produce capacity = (.ok [], { p with fills := p.fills + 1 }) := by
      simp [Playback.produce, Playback.refusal, pieces, fills]
    exact ⟨_, produced, pieces, fills, triples, namespaces⟩
  · rintro p chunks graph delivery ⟨pieces, fills, triples, namespaces⟩
    cases delivery with
    | triple triple =>
      have received : p.receive graph triple = (.ok (), { p with triples := p.triples + 1 }) := by
        simp [Playback.receive, Playback.refusal, triples]
      exact ⟨_, received, pieces, fills, triples, namespaces⟩
    | «namespace» name iri =>
      have declared : p.receiveNamespace name iri =
          (.ok (), { p with namespaces := p.namespaces + 1 }) := by
        simp [Playback.receiveNamespace, Playback.refusal, namespaces]
      exact ⟨_, declared, pieces, fills, triples, namespaces⟩

theorem playback_ready (chunks : List Bytes) :
    ({ pieces := chunks } : Playback).pieces = chunks ∧
      ({ pieces := chunks } : Playback).failFill = none ∧
      ({ pieces := chunks } : Playback).failTriple = none ∧
      ({ pieces := chunks } : Playback).failNamespace = none := ⟨rfl, rfl, rfl, rfl⟩

end Session
end Rdfa
