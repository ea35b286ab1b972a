import Rdfa.Proofs.Element.Built

-- The rules for a start tag with declared prefixes announced, and the same rules without: what is said
-- of prefixes apart they announce the same, name the same nodes and come to the same.
namespace Rdfa

def Emission.isDeclaration (emission : Emission) : Bool := emission.triple.code = Code.namespaceIri

def Emission.hush (sent : List Emission) : List Emission := sent.filter (!·.isDeclaration)

namespace Element

def Output.hushed (output : Output) : Output := { output with sent := Emission.hush output.sent }

-- The second piece of work says nothing of prefixes, and is the first in everything else.
def Work.Hushed {α : Type} (first second : Work α) : Prop :=
  ∀ output, second.run output.hushed = ((first.run output).1, (first.run output).2.hushed)

namespace Work.Hushed

variable {α β : Type}

theorem pure (value : α) : Hushed (pure value : Work α) (pure value) := fun _ => rfl

theorem bind {first second : Work α} {next others : α → Work β} (begun : Hushed first second)
    (gone : ∀ output, Hushed (next (first.run output).1) (others (first.run output).1)) :
    Hushed (first >>= next) (second >>= others) := by
  intro output
  show (others (second.run output.hushed).1).run (second.run output.hushed).2 = _
  rw [begun output]
  exact gone output (first.run output).2

end Work.Hushed

open Work

theorem isDeclaration_literal (graph : Graph) (subject predicate value : Text)
    (datatype language : Option Text) :
    Emission.isDeclaration ⟨graph, literal subject predicate value datatype language⟩ = false := by
  cases datatype with
  | none => rfl
  | some datatype =>
    by_cases xml : datatype = Vocabulary.xmlLiteral <;>
      simp [Emission.isDeclaration, literal, xml, Code.namespaceIri, Code.xmlLiteral,
        Code.typedLiteral]

theorem hush_of_none {sent : List Emission}
    (undeclared : ∀ emission ∈ sent, emission.isDeclaration = false) : Emission.hush sent = sent :=
  List.filter_eq_self.mpr fun emission present => by simp [undeclared emission present]

theorem send_hushed {sent : List Emission}
    (undeclared : ∀ emission ∈ sent, emission.isDeclaration = false) : Hushed (send sent) (send sent) := by
  intro output
  have said : Emission.hush (output.sent ++ sent) = Emission.hush output.sent ++ sent := by
    rw [Emission.hush, List.filter_append]
    exact congrArg _ (hush_of_none undeclared)
  show ((), (⟨output.nodes, Emission.hush output.sent ++ sent⟩ : Output)) = _
  rw [← said]
  rfl

theorem nodeOf_hushed (label : Text) : Hushed (nodeOf label) (nodeOf label) := by
  intro output
  cases known : output.nodes.labels.lookup label with
  | some node =>
    have there : output.hushed.nodes.labels.lookup label = some node := known
    rw [nodeOf_known known, nodeOf_known there]
  | none =>
    have there : output.hushed.nodes.labels.lookup label = none := known
    rw [nodeOf_unknown known, nodeOf_unknown there]
    rfl

theorem report_hushed (name iri : Text) :
    Hushed (send [⟨.processor, prefixReport name iri⟩]) (pure ()) := by
  intro output
  have said : Emission.hush (output.sent ++ [⟨.processor, prefixReport name iri⟩]) =
      Emission.hush output.sent := by
    rw [Emission.hush, List.filter_append]
    exact List.append_nil _
  show ((), output.hushed) = ((), (⟨output.nodes, Emission.hush (output.sent ++ _)⟩ : Output))
  rw [said]
  rfl

theorem Stated.undeclared {kinds : Kinds} {emission : Emission} (stated : Stated kinds emission.triple) :
    emission.isDeclaration = false := by
  obtain ⟨graph, triple⟩ := emission
  cases stated with
  | link => rfl
  | literal => exact isDeclaration_literal _ _ _ _ _ _

theorem Work.Built.hushed {α : Type} {yields : α → Prop} {first second : Work α}
    (built : Built .any yields first second) : Hushed first second := by
  induction built with
  | pure => exact .pure _
  | send stated => exact send_hushed fun emission present => (stated emission present).undeclared
  | report name iri => exact report_hushed name iri
  | mint => exact fun _ => rfl
  | nodeOf label => exact nodeOf_hushed label
  | bind begun _ ihFirst ihSecond => exact .bind ihFirst fun output => ihSecond _ (begun.yielded output)

theorem process_hushed (processing : Processing) (place : Place) (attributes : Attributes) :
    Hushed (process processing place attributes) (process processing.hushed place attributes) :=
  (process_built_any processing place attributes).hushed

theorem PendingLiteral.hush_emissions (pending : PendingLiteral) :
    Emission.hush pending.emissions = pending.emissions := by
  refine hush_of_none fun emission present => ?_
  obtain ⟨predicate, _, rfl⟩ := List.mem_map.mp present
  exact isDeclaration_literal _ _ _ _ _ _

end Element
end Rdfa
