import Rdfa.Proofs.Element.Naming

-- A one-to-one pairing of nodes as a renaming: one function on the numbers of a series, which never
-- takes two of them to the same.
namespace Rdfa.Element

def Nodes.number? (term : Text) : Option Nat :=
  let number := Nat.ofDigitChars 10 (term.drop 3) 0
  if Nodes.name number = term then some number else .none

theorem Nodes.number?_name (n : Nat) : Nodes.number? (Nodes.name n) = some n := by
  have read : Nat.ofDigitChars 10 ((Nodes.name n).drop 3) 0 = n := Nat.ofDigitChars_ten_toDigits
  simp [Nodes.number?, read]

theorem Nodes.number?_of_plain {term : Text} (plain : isLabel term = false) :
    Nodes.number? term = .none := by
  unfold Nodes.number?
  dsimp only
  split
  · next named =>
    rw [← named, Nodes.isLabel_name] at plain
    cases plain
  · rfl

def Nodes.renumbered (renumber : Nat → Nat) (term : Text) : Text :=
  (Nodes.number? term).elim term fun number => Nodes.name (renumber number)

namespace Naming

variable {naming : Naming} {m n : Nat}

theorem Counted.renumber (counted : Counted [] naming m n) :
    ∃ renumber : Nat → Nat, Function.Injective renumber ∧
      ∀ a b, naming.Term a b → b = Nodes.renumbered renumber a := by
  have partner {a b : Text} (named : naming a b) : ∃ j < n, b = Nodes.name j := by
    rcases counted.there named with own | ⟨label, found⟩
    · exact own
    · cases found
  have paired (k : Nat) : ∃ j, (∀ b, naming (Nodes.name k) b → b = Nodes.name j) ∧
      (naming (Nodes.name k) (Nodes.name j) ∨ j = n + k) := by
    by_cases named : ∃ b, naming (Nodes.name k) b
    · obtain ⟨b, named⟩ := named
      obtain ⟨j, _, rfl⟩ := partner named
      exact ⟨j, fun c also => ((counted.unique named also).mp rfl).symm, .inl named⟩
    · exact ⟨n + k, fun b found => absurd ⟨b, found⟩ named, .inr rfl⟩
  obtain ⟨renumber, partners⟩ := Classical.axiomOfChoice paired
  refine ⟨renumber, fun k l same => ?_, fun a b term => ?_⟩
  · have below {i : Nat} (named : naming (Nodes.name i) (Nodes.name (renumber i))) :
        renumber i < n := by
      obtain ⟨j, less, same⟩ := partner named
      exact Nodes.name_injective same ▸ less
    rcases (partners k).2 with first | first <;> rcases (partners l).2 with second | second
    · exact Nodes.name_injective ((counted.unique first second).mpr (congrArg Nodes.name same))
    · have less := below first
      omega
    · have less := below second
      omega
    · omega
  · cases term with
    | node named =>
      obtain ⟨k, _, rfl⟩ := counted.here named
      rw [(partners k).1 b named, Nodes.renumbered, Nodes.number?_name]
      rfl
    | plain unlabelled =>
      rw [Nodes.renumbered, Nodes.number?_of_plain unlabelled]
      rfl

end Naming
end Rdfa.Element
