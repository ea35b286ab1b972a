import Rdfa.Proofs.Triple.RoundTrip

-- Whatever is read as one statement stands on one line: no part of a statement lets a line's end pass.
namespace Rdfa.NTriples

def Reaches (rest text : Text) : Prop :=
  ∃ raw, text = raw ++ rest ∧ ∀ c ∈ raw, isBreak c = false

variable {text middle rest : Text}

theorem Reaches.refl (text : Text) : Reaches text text := ⟨[], rfl, by simp⟩

theorem Reaches.trans (far : Reaches rest middle) (near : Reaches middle text) : Reaches rest text := by
  obtain ⟨late, rfl, later⟩ := far
  obtain ⟨early, rfl, earlier⟩ := near
  exact ⟨early ++ late, by rw [List.append_assoc], List.forall_mem_append.mpr ⟨earlier, later⟩⟩

theorem Reaches.cons {c : Char} (near : Reaches rest text) (here : isBreak c = false) :
    Reaches rest (c :: text) := by
  obtain ⟨raw, rfl, later⟩ := near
  exact ⟨c :: raw, rfl, List.forall_mem_cons.mpr ⟨here, later⟩⟩

theorem skip_reaches (text : Text) : Reaches (skip text) text := by
  refine ⟨text.takeWhile fun c => c = ' ' || c = '\t', List.takeWhile_append_dropWhile.symm, ?_⟩
  intro c present
  exact not_isBreak (by decide) (by decide) (List.all_eq_true.mp List.all_takeWhile c present)

theorem Alphabet.read_reaches {a : Alphabet} (unbroken : a.Unbroken) {value : Text}
    (read : a.read text = some (value, rest)) : Reaches rest text := by
  obtain ⟨raw, spells, rfl⟩ := spells_of_read read
  refine ⟨raw ++ [a.close], by simp, List.forall_mem_append.mpr ⟨spells.unbroken unbroken, ?_⟩⟩
  exact List.forall_mem_singleton.mpr unbroken.close

theorem label?_reaches {value : Text} (read : label? text = some (value, rest)) : Reaches rest text := by
  obtain ⟨label, whole⟩ := label?_eq_some read
  refine ⟨value, whole, fun c present => ?_⟩
  unfold isBlankNodeLabel at label
  split at label
  · next first body =>
    simp only [Bool.and_eq_true, List.all_eq_true] at label
    obtain ⟨⟨start, chars⟩, _⟩ := label
    have first : isBreak first = false := not_isBreak (by decide) (by decide) start
    have later : ∀ c ∈ body, isBreak c = false := fun c inside =>
      not_isBreak (p := fun c => isLabelChar c || c = '.') (by decide) (by decide) (chars c inside)
    simp only [List.mem_cons] at present
    rcases present with rfl | rfl | rfl | inside
    · rfl
    · rfl
    · exact first
    · exact later c inside
  · cases label

theorem language?_reaches {value : Text} (read : language? text = some (value, rest)) :
    Reaches rest text := by
  obtain ⟨language, whole⟩ := language?_eq_some read
  refine ⟨value, whole, fun c present => ?_⟩
  exact not_isBreak (by decide) (by decide) (isLanguageChar_of_isLanguage language c present)

theorem iri?_reaches {value : Text} (read : iri? text = some (value, rest)) : Reaches rest text := by
  unfold iri? at read
  split at read
  · exact (Alphabet.read_reaches iri_unbroken read).cons rfl
  · cases read

theorem node?_reaches {value : Text} (read : node? text = some (value, rest)) : Reaches rest text := by
  rcases Option.or_eq_some_iff.mp read with iri | ⟨_, label⟩
  · exact iri?_reaches iri
  · exact label?_reaches label

theorem annotated?_reaches {value : Option Text × Option Text}
    (read : annotated? text = some (value, rest)) : Reaches rest text := by
  unfold annotated? at read
  split at read
  · obtain ⟨⟨_, _⟩, found, same⟩ := Option.map_eq_some_iff.mp read
    cases same
    exact (language?_reaches found).cons rfl
  · obtain ⟨⟨_, _⟩, found, same⟩ := Option.map_eq_some_iff.mp read
    cases same
    exact ((iri?_reaches found).cons rfl).cons rfl
  · cases read
    exact .refl _

theorem object?_reaches {subject predicate : Text} {triple : Triple}
    (read : object? subject predicate text = some (triple, rest)) : Reaches rest text := by
  unfold object? at read
  split at read
  · obtain ⟨⟨_, _⟩, string, read⟩ := Option.bind_eq_some_iff.mp read
    obtain ⟨⟨_, _⟩, found, same⟩ := Option.map_eq_some_iff.mp read
    cases same
    exact ((annotated?_reaches found).trans (Alphabet.read_reaches string_unbroken string)).cons rfl
  · obtain ⟨⟨_, _⟩, found, same⟩ := Option.map_eq_some_iff.mp read
    cases same
    exact (Alphabet.read_reaches iri_unbroken found).cons rfl
  · obtain ⟨⟨_, _⟩, found, same⟩ := Option.map_eq_some_iff.mp read
    cases same
    exact label?_reaches found

theorem isEnd_reaches (ends : isEnd text = true) : Reaches [] text := by
  unfold isEnd at ends
  split at ends
  · next tail =>
    have near := skip_reaches tail
    split at ends
    · next nothing =>
      rw [nothing] at near
      exact near.cons rfl
    · next c remark found =>
      simp only [Bool.and_eq_true, decide_eq_true_eq, Bool.not_eq_true', List.any_eq_false] at ends
      obtain ⟨rfl, unbroken⟩ := ends
      rw [found] at near
      have remark : Reaches [] ('#' :: remark) :=
        .cons ⟨remark, by simp, fun c present => by simpa using unbroken c present⟩ rfl
      exact (remark.trans near).cons rfl
  · cases ends

theorem read?_one_line {triple : Triple} (read : read? text = some triple) :
    ∀ c ∈ text, isBreak c = false := by
  obtain ⟨first, second, third, named, stated, given, ended⟩ := read?_eq_some_iff.mp read
  have third := (isEnd_reaches ended).trans (skip_reaches third)
  have second := third.trans ((object?_reaches given).trans (skip_reaches second))
  have first := second.trans ((iri?_reaches stated).trans (skip_reaches first))
  obtain ⟨raw, whole, unbroken⟩ := first.trans ((node?_reaches named).trans (skip_reaches text))
  rw [whole, List.append_nil]
  exact unbroken

end Rdfa.NTriples
