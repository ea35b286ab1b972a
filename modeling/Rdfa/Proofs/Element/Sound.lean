import Rdfa.Proofs.Element.Built
import Rdfa.Proofs.Element.Naming

-- The rules for a start tag keep to the kinds that its texts respect: what they announce fits, and so
-- does all they hand on to the children and to the end of the element.
namespace Rdfa.Element

variable {kinds : Kinds} {tags : List Attributes}

theorem Stated.fits {emission : Emission} (stated : Stated kinds emission.triple) : emission.Fits kinds := by
  obtain ⟨graph, triple⟩ := emission
  cases stated with
  | link node word other => exact link_fits graph node word other
  | literal value node word typed spoken => exact literal_fits graph value node word typed spoken

def Nodes.Sound (kinds : Kinds) (nodes : Nodes) : Prop :=
  ∀ label node, nodes.labels.lookup label = some node → kinds.node node

theorem Nodes.Sound.none : Nodes.none.Sound kinds := fun _ _ found => by cases found

-- Work that keeps the nodes sound, adds statements that fit, and comes to a value with `yields`.
structure Work.Sound (kinds : Kinds) {α : Type} (yields : α → Prop) (work : Work α) : Prop where
  kept : ∀ output, output.nodes.Sound kinds → (work.run output).2.nodes.Sound kinds
  yielded : ∀ output, output.nodes.Sound kinds → yields (work.run output).1
  added : ∀ output, output.nodes.Sound kinds → ∃ sent, (work.run output).2.sent = output.sent ++ sent ∧
    ∀ emission ∈ sent, emission.Fits kinds

namespace Work.Sound

variable {α β : Type} {yields : α → Prop} {after : β → Prop}

theorem silent {work : Work α} (same : ∀ output, (work.run output).2.sent = output.sent)
    (kept : ∀ output, output.nodes.Sound kinds → (work.run output).2.nodes.Sound kinds)
    (yielded : ∀ output, output.nodes.Sound kinds → yields (work.run output).1) :
    Sound kinds yields work :=
  ⟨kept, yielded, fun output _ => ⟨[], by rw [same, List.append_nil], by simp⟩⟩

theorem pure {value : α} (held : yields value) : Sound kinds yields (pure value : Work α) :=
  silent (fun _ => rfl) (fun _ sound => sound) fun _ _ => held

theorem bind {work : Work α} {next : α → Work β} (first : Sound kinds yields work)
    (second : ∀ value, yields value → Sound kinds after (next value)) :
    Sound kinds after (work >>= next) := by
  refine ⟨fun output sound => ?_, fun output sound => ?_, fun output sound => ?_⟩
  · exact (second _ (first.yielded output sound)).kept _ (first.kept output sound)
  · exact (second _ (first.yielded output sound)).yielded _ (first.kept output sound)
  · obtain ⟨early, earlier, fitEarly⟩ := first.added output sound
    obtain ⟨late, later, fitLate⟩ :=
      (second _ (first.yielded output sound)).added (work.run output).2 (first.kept output sound)
    refine ⟨early ++ late, ?_, List.forall_mem_append.mpr ⟨fitEarly, fitLate⟩⟩
    rw [← List.append_assoc, ← earlier]
    exact later

end Work.Sound

open Work

theorem PendingLiteral.Sound.emissions {pending : PendingLiteral} (sound : pending.Sound kinds) :
    ∀ emission ∈ pending.emissions, emission.Fits kinds := by
  intro emission present
  obtain ⟨predicate, listed, rfl⟩ := List.mem_map.mp present
  exact literal_fits _ _ sound.subject (sound.predicates predicate listed) sound.datatype
    sound.language

theorem PendingLiteral.Sound.append {pending : PendingLiteral} (sound : pending.Sound kinds)
    (text : Text) : (pending.append text).Sound kinds :=
  { sound with }

theorem send_sound {emissions : List Emission} (fit : ∀ emission ∈ emissions, emission.Fits kinds) :
    Work.Sound kinds (fun _ => True) (send emissions) :=
  ⟨fun _ sound => sound, fun _ _ => trivial, fun _ _ => ⟨emissions, rfl, fit⟩⟩

theorem get_sound : Work.Sound kinds (fun output => output.nodes.Sound kinds) (get : Work Output) :=
  .silent (fun _ => rfl) (fun _ sound => sound) fun _ sound => sound

section Minted

variable (minted : ∀ number, kinds.node (Nodes.name number))

include minted

theorem mint_sound : Work.Sound kinds kinds.node mint :=
  .silent (fun _ => rfl) (fun _ sound => sound) fun output _ => minted output.nodes.minted

theorem nodeOf_sound (label : Text) :
    Work.Sound kinds kinds.node (nodeOf label) := by
  unfold nodeOf
  refine .bind get_sound fun output sound => ?_
  split
  · next node found => exact .pure (sound label node found)
  · refine .bind (mint_sound minted) fun node named => .bind ?_ fun _ (_ : True) => .pure named
    refine .silent (fun _ => rfl) (fun output sound other term found => ?_) fun _ _ => trivial
    have entry : ((label, node) :: output.nodes.labels).lookup other = some term := found
    rw [List.lookup_cons] at entry
    split at entry
    · cases entry
      exact named
    · exact sound other term entry

theorem Work.Built.sound {α : Type} {yields : α → Prop} {work hushed : Work α}
    (built : Built kinds yields work hushed) : Work.Sound kinds yields work := by
  induction built with
  | pure held => exact .pure held
  | send stated => exact send_sound fun emission present => (stated emission present).fits
  | report name iri =>
    refine send_sound ?_
    simp only [List.forall_mem_singleton]
    exact prefixReport_fits _ _ _
  | mint => exact mint_sound minted
  | nodeOf label => exact nodeOf_sound minted label
  | bind _ _ ihFirst ihSecond => exact .bind ihFirst ihSecond

end Minted

theorem process_sound (cover : kinds.Cover tags) (processing : Processing) {place : Place}
    (sound : place.Sound kinds) {attributes : Attributes} (tag : attributes ∈ tags) :
    Work.Sound kinds
      (fun entered => entered.1.Sound kinds ∧
        ∀ pending ∈ entered.2, pending.Sound kinds ∧ pending.pieces = [])
      (process processing place attributes) :=
  (process_built cover processing sound tag).sound cover.minted

end Rdfa.Element
