import Mathlib.Data.List.Nodup
import Rdfa.Proofs.Element.Built

-- What work does with the nodes, call by call: fresh ones are handed out, and labels are entered in the table
-- with them. Whatever the rules do, no node is handed out twice and the table stays one-to-one.
namespace Rdfa.Element

inductive Deed where
  -- A fresh node was asked for, and this one was handed out.
  | minted (node : Text)
  | labelled (label node : Text)
deriving Repr, DecidableEq

namespace Nodes

def act (nodes : Nodes) : Deed → Nodes
  | .minted _ => { nodes with minted := nodes.minted + 1 }
  | .labelled label node => { nodes with labels := (label, node) :: nodes.labels }

def after (nodes : Nodes) (deeds : List Deed) : Nodes := deeds.foldl act nodes

-- The nodes of the table are of those handed out, and no two labels have one.
structure Orderly (nodes : Nodes) : Prop where
  formed : ∀ pair ∈ nodes.labels, ∃ number < nodes.minted, pair.2 = name number
  distinct : (nodes.labels.map (·.2)).Nodup

-- What may be done with the nodes as they stand: a new label may get a node that no other has.
inductive Permits (nodes : Nodes) : Deed → Prop where
  | minted : Permits nodes (.minted (name nodes.minted))
  | labelled {label : Text} {number : Nat} (handed : number < nodes.minted)
      (unknown : nodes.labels.lookup label = Option.none)
      (free : ∀ pair ∈ nodes.labels, pair.2 ≠ name number) :
      Permits nodes (.labelled label (name number))

def Admits (nodes : Nodes) : List Deed → Prop
  | [] => True
  | deed :: later => nodes.Permits deed ∧ (nodes.act deed).Admits later

variable {nodes : Nodes} {deed : Deed} {deeds early late : List Deed} {label other node : Text}

theorem after_append (nodes : Nodes) (early late : List Deed) :
    nodes.after (early ++ late) = (nodes.after early).after late := List.foldl_append

theorem admits_append_iff :
    nodes.Admits (early ++ late) ↔ nodes.Admits early ∧ (nodes.after early).Admits late := by
  induction early generalizing nodes with
  | nil => exact (and_iff_right trivial).symm
  | cons deed early ih => exact (and_congr_right fun _ => ih).trans and_assoc.symm

theorem mem_of_lookup (known : nodes.labels.lookup label = some node) : (label, node) ∈ nodes.labels := by
  obtain ⟨before, after, labels, _⟩ := List.lookup_eq_some_iff.mp known
  rw [labels]
  exact List.mem_append_cons_self

namespace Orderly

theorem none : Nodes.none.Orderly := ⟨by simp [Nodes.none], List.nodup_nil⟩

theorem next_free (orderly : nodes.Orderly) : ∀ pair ∈ nodes.labels, pair.2 ≠ name nodes.minted := by
  intro pair present same
  obtain ⟨number, handed, named⟩ := orderly.formed pair present
  exact absurd (name_injective (named.symm.trans same)) (Nat.ne_of_lt handed)

theorem act (orderly : nodes.Orderly) (permitted : nodes.Permits deed) : (nodes.act deed).Orderly := by
  cases permitted with
  | minted =>
    refine ⟨fun pair present => ?_, orderly.distinct⟩
    obtain ⟨number, handed, named⟩ := orderly.formed pair present
    exact ⟨number, Nat.lt_succ_of_lt handed, named⟩
  | @labelled label number handed unknown free =>
    refine ⟨List.forall_mem_cons.mpr ⟨⟨number, handed, rfl⟩, orderly.formed⟩, ?_⟩
    refine List.nodup_cons.mpr ⟨fun present => ?_, orderly.distinct⟩
    obtain ⟨pair, known, same⟩ := List.mem_map.mp present
    exact free pair known same

theorem after (orderly : nodes.Orderly) (admitted : nodes.Admits deeds) : (nodes.after deeds).Orderly := by
  induction deeds generalizing nodes with
  | nil => exact orderly
  | cons deed later ih => exact ih (orderly.act admitted.1) admitted.2

theorem lookup_injective (orderly : nodes.Orderly) (here : nodes.labels.lookup label = some node)
    (there : nodes.labels.lookup other = some node) : label = other :=
  congrArg Prod.fst (List.inj_on_of_nodup_map orderly.distinct (mem_of_lookup here) (mem_of_lookup there) rfl)

end Orderly

theorem Permits.kept (permitted : nodes.Permits deed) (known : nodes.labels.lookup label = some node) :
    (nodes.act deed).labels.lookup label = some node := by
  cases permitted with
  | minted => exact known
  | @labelled other number _ unknown _ =>
    have apart : (label == other) = false := by
      rw [beq_eq_false_iff_ne]
      rintro rfl
      cases unknown.symm.trans known
    rw [Nodes.act, List.lookup_cons, apart]
    exact known

theorem Admits.kept (admitted : nodes.Admits deeds) (known : nodes.labels.lookup label = some node) :
    (nodes.after deeds).labels.lookup label = some node := by
  induction deeds generalizing nodes with
  | nil => exact known
  | cons deed later ih => exact ih admitted.2 (admitted.1.kept known)

theorem minted_le_act (nodes : Nodes) (deed : Deed) : nodes.minted ≤ (nodes.act deed).minted := by
  cases deed with
  | minted node => exact Nat.le_succ _
  | labelled label node => exact Nat.le_refl _

theorem minted_le_after (nodes : Nodes) (deeds : List Deed) : nodes.minted ≤ (nodes.after deeds).minted := by
  induction deeds generalizing nodes with
  | nil => exact Nat.le_refl _
  | cons deed later ih => exact Nat.le_trans (nodes.minted_le_act deed) (ih _)

theorem Admits.counted (admitted : nodes.Admits deeds) (present : .minted node ∈ deeds) :
    ∃ number < (nodes.after deeds).minted, node = name number := by
  induction deeds generalizing nodes with
  | nil => cases present
  | cons deed later ih =>
    rcases List.mem_cons.mp present with rfl | present
    · obtain ⟨permitted, _⟩ := admitted
      cases permitted
      exact ⟨nodes.minted, minted_le_after (nodes.act (.minted _)) later, rfl⟩
    · exact ih admitted.2 present

-- The node handed out next was never handed out before, and no label has it.
theorem Orderly.fresh (orderly : nodes.Orderly) (admitted : nodes.Admits (early ++ [.minted node])) :
    .minted node ∉ early ∧ ∀ pair ∈ (nodes.after early).labels, pair.2 ≠ node := by
  obtain ⟨before, permitted, _⟩ := admits_append_iff.mp admitted
  cases permitted
  refine ⟨fun again => ?_, (orderly.after before).next_free⟩
  obtain ⟨number, counted, same⟩ := before.counted again
  exact absurd (name_injective same) (Nat.ne_of_gt counted)

end Nodes

-- The calls of work that starts from `output`, and what each does with the nodes. Nothing is asked of them here.
inductive Work.Does : {α : Type} → Work α → Output → List Deed → Prop where
  | pure {α : Type} (value : α) (output : Output) : Does (pure value) output []
  | get (output : Output) : Does get output []
  | send (emissions : List Emission) (output : Output) : Does (send emissions) output []
  | mint (output : Output) : Does mint output [.minted (mint.run output).1]
  | label (label node : Text) (output : Output) :
      Does (modify fun output =>
        { output with nodes := { output.nodes with labels := (label, node) :: output.nodes.labels } })
        output [.labelled label node]
  | bind {α β : Type} {work : Work α} {next : α → Work β} {output : Output} {early late : List Deed}
      (first : Does work output early) (second : Does (next (work.run output).1) (work.run output).2 late) :
      Does (work >>= next) output (early ++ late)

theorem Work.Does.nodes {α : Type} {work : Work α} {output : Output} {deeds : List Deed}
    (does : work.Does output deeds) : (work.run output).2.nodes = output.nodes.after deeds := by
  induction does with
  | pure | get | send | mint | label => rfl
  | bind _ _ ihFirst ihSecond =>
    rw [Nodes.after_append, ← ihFirst]
    exact ihSecond

def Work.Lawful {α : Type} (work : Work α) : Prop :=
  ∀ output, output.nodes.Orderly → ∃ deeds, work.Does output deeds ∧ output.nodes.Admits deeds

namespace Work.Lawful

variable {α β : Type}

theorem pure (value : α) : Lawful (Pure.pure value : Work α) := fun output _ =>
  ⟨[], .pure value output, trivial⟩

theorem bind {work : Work α} {next : α → Work β} (first : work.Lawful)
    (second : ∀ output, (next (work.run output).1).Lawful) : (work >>= next).Lawful := by
  intro output orderly
  obtain ⟨early, did, admitted⟩ := first output orderly
  have still : (work.run output).2.nodes.Orderly := did.nodes ▸ orderly.after admitted
  obtain ⟨late, does, allowed⟩ := second output (work.run output).2 still
  rw [did.nodes] at allowed
  exact ⟨early ++ late, .bind did does, Nodes.admits_append_iff.mpr ⟨admitted, allowed⟩⟩

end Work.Lawful

open Work

theorem send_lawful (emissions : List Emission) : (send emissions).Lawful := fun output _ =>
  ⟨[], .send emissions output, trivial⟩

theorem mint_lawful : mint.Lawful := fun output _ => ⟨_, .mint output, .minted, trivial⟩

theorem nodeOf_lawful (label : Text) : (nodeOf label).Lawful := by
  intro output orderly
  have got : (get : Work Output).run output = (output, output) := rfl
  unfold nodeOf
  cases known : output.nodes.labels.lookup label with
  | some node =>
    refine ⟨[] ++ [], .bind (.get output) ?_, trivial⟩
    simp only [got, known]
    exact .pure node output
  | none =>
    let node := Nodes.name output.nodes.minted
    refine ⟨[] ++ ([.minted node] ++ ([.labelled label node] ++ [])), .bind (.get output) ?_, ?_⟩
    · simp only [got, known]
      exact .bind (.mint output) (.bind (.label label node _) (.pure node _))
    · exact ⟨.minted, .labelled (Nat.lt_succ_self _) known orderly.next_free, trivial⟩

theorem Work.Built.lawful {α : Type} {yields : α → Prop} {work hushed : Work α}
    (built : Built .any yields work hushed) : work.Lawful := by
  induction built with
  | pure => exact .pure _
  | send | report => exact send_lawful _
  | mint => exact mint_lawful
  | nodeOf label => exact nodeOf_lawful label
  | bind begun _ ihFirst ihSecond => exact .bind ihFirst fun output => ihSecond _ (begun.yielded output)

theorem process_lawful (processing : Processing) (place : Place) (attributes : Attributes) :
    (process processing place attributes).Lawful :=
  (process_built_any processing place attributes).lawful

end Rdfa.Element
