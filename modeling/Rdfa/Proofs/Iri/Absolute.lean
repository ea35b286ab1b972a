import Rdfa.Iri
import Rdfa.Triple

-- Resolution against an absolute base gives an absolute IRI, and an absolute IRI is no blank node label.
namespace Rdfa

theorem Text.cut_append_of_not_mem {mark : Char} {lead : Text} (free : mark ∉ lead) (text : Text) :
    (cut mark (lead ++ text)).1 = lead ++ (cut mark text).1 := by
  induction lead with
  | nil => rfl
  | cons c lead ih =>
    simp only [List.mem_cons, not_or] at free
    simp [cut, Ne.symm free.1, ih free.2]

theorem Text.cut_fst_append (mark : Char) (text : Text) : ∃ tail, text = (cut mark text).1 ++ tail := by
  cases found : (cut mark text).2 with
  | none =>
    refine ⟨[], ?_⟩
    induction text with
    | nil => rfl
    | cons c text ih =>
      by_cases same : c = mark
      · simp [cut, same] at found
      · simp only [cut, same, if_false] at found ⊢
        simpa using ih found
  | some rest => exact ⟨mark :: rest, (cut_append found).symm⟩

namespace Iri

structure IsScheme (scheme : Text) : Prop where
  letter : ∃ c rest, scheme = c :: rest ∧ c.isAlpha = true
  chars : ∀ c ∈ scheme, isSchemeChar c = true

theorem isSchemeChar_of_isAlpha {c : Char} (letter : c.isAlpha = true) : isSchemeChar c = true := by
  simp [isSchemeChar, Char.isAlphanum, letter]

theorem scheme?_eq_some_iff {text scheme rest : Text} :
    scheme? text = some (scheme, rest) ↔ IsScheme scheme ∧ text = scheme ++ ':' :: rest := by
  constructor
  · intro found
    unfold scheme? at found
    split at found
    · cases found
    · next c tail =>
      split at found
      · next letter =>
        split at found
        · next left dropped =>
          cases found
          have first := isSchemeChar_of_isAlpha letter
          refine ⟨⟨⟨c, tail.takeWhile isSchemeChar, ?_, letter⟩, ?_⟩, ?_⟩
          · rw [List.takeWhile_cons_of_pos first]
          · exact List.all_eq_true.mp List.all_takeWhile
          · rw [← dropped, List.takeWhile_append_dropWhile]
        · cases found
      · cases found
  · rintro ⟨⟨⟨c, tail, rfl, letter⟩, chars⟩, rfl⟩
    have colon : isSchemeChar ':' = false := by decide
    have dropped : (c :: tail ++ ':' :: rest).dropWhile isSchemeChar = ':' :: rest := by
      rw [List.dropWhile_append_of_pos chars]
      simp [colon]
    have taken : (c :: tail ++ ':' :: rest).takeWhile isSchemeChar = c :: tail := by
      rw [List.takeWhile_append_of_pos chars]
      simp [colon]
    rw [List.cons_append] at dropped taken ⊢
    simp only [scheme?, letter, if_true, dropped, taken]

theorem isAbsolute_iff {text : Text} :
    isAbsolute text = true ↔ ∃ scheme rest, IsScheme scheme ∧ text = scheme ++ ':' :: rest := by
  unfold isAbsolute
  rw [Option.isSome_iff_exists]
  constructor
  · rintro ⟨⟨scheme, rest⟩, found⟩
    exact ⟨scheme, rest, scheme?_eq_some_iff.mp found⟩
  · rintro ⟨scheme, rest, found⟩
    exact ⟨_, scheme?_eq_some_iff.mpr found⟩

theorem isAbsolute_append {text : Text} (absolute : isAbsolute text = true) (rest : Text) :
    isAbsolute (text ++ rest) = true := by
  obtain ⟨scheme, tail, valid, rfl⟩ := isAbsolute_iff.mp absolute
  exact isAbsolute_iff.mpr ⟨scheme, tail ++ rest, valid, by simp⟩

theorem scheme?_cut {mark : Char} (outside : isSchemeChar mark = false) (other : mark ≠ ':')
    (text : Text) : (scheme? (Text.cut mark text).1).map (·.1) = (scheme? text).map (·.1) := by
  cases whole : scheme? text with
  | some found =>
    obtain ⟨scheme, rest⟩ := found
    obtain ⟨valid, rfl⟩ := scheme?_eq_some_iff.mp whole
    have free : mark ∉ scheme ++ [':'] := by
      intro present
      rcases List.mem_append.mp present with inside | last
      · rw [valid.chars mark inside] at outside
        cases outside
      · exact other (List.mem_singleton.mp last)
    have cut : (Text.cut mark (scheme ++ ':' :: rest)).1 = scheme ++ ':' :: (Text.cut mark rest).1 := by
      have lead := Text.cut_append_of_not_mem free rest
      rwa [List.append_assoc, List.append_assoc] at lead
    rw [scheme?_eq_some_iff.mpr ⟨valid, cut⟩]
    rfl
  | none =>
    cases front : scheme? (Text.cut mark text).1 with
    | none => rfl
    | some found =>
      obtain ⟨scheme, rest⟩ := found
      obtain ⟨valid, here⟩ := scheme?_eq_some_iff.mp front
      obtain ⟨tail, all⟩ := Text.cut_fst_append mark text
      have longer : text = scheme ++ ':' :: (rest ++ tail) := by
        rw [all, here, List.append_assoc]
        rfl
      rw [scheme?_eq_some_iff.mpr ⟨valid, longer⟩] at whole
      cases whole

theorem split_scheme (text : Text) : (split text).scheme = (scheme? text).map (·.1) := by
  rw [← scheme?_cut (by decide : isSchemeChar '#' = false) (by decide) text,
    ← scheme?_cut (by decide : isSchemeChar '?' = false) (by decide)]
  unfold split
  dsimp only
  split
  · next found => rw [found]; rfl
  · next found => rw [found]; rfl

theorem target_scheme (base r : Reference) : (target base r).scheme = r.scheme.or base.scheme := by
  unfold target
  cases scheme : r.scheme with
  | some scheme => rfl
  | none =>
    simp only [Option.isSome_none, Bool.false_eq_true, if_false]
    split
    · rfl
    · split <;> rfl

theorem compose_scheme {r : Reference} {scheme : Text} (given : r.scheme = some scheme) :
    ∃ rest, compose r = scheme ++ ':' :: rest := by
  simp [compose, given]

theorem isAbsolute_resolve {base : Text} (absolute : isAbsolute base = true) (reference : Text) :
    isAbsolute (resolve base reference) = true := by
  have scheme : ∃ scheme, IsScheme scheme ∧
      (target (split base) (split reference)).scheme = some scheme := by
    rw [target_scheme, split_scheme, split_scheme]
    cases own : scheme? reference with
    | some found => exact ⟨found.1, (scheme?_eq_some_iff.mp own).1, rfl⟩
    | none =>
      obtain ⟨found, given⟩ := Option.isSome_iff_exists.mp absolute
      exact ⟨found.1, (scheme?_eq_some_iff.mp given).1, by rw [given]; rfl⟩
  obtain ⟨scheme, valid, given⟩ := scheme
  obtain ⟨rest, composed⟩ := compose_scheme given
  exact isAbsolute_iff.mpr ⟨scheme, rest, valid, composed⟩

theorem isLabel_of_isAbsolute {text : Text} (absolute : isAbsolute text = true) :
    isLabel text = false := by
  obtain ⟨scheme, rest, ⟨⟨c, tail, rfl, letter⟩, _⟩, rfl⟩ := isAbsolute_iff.mp absolute
  have other : c ≠ '_' := by
    rintro rfl
    exact absurd letter (by decide)
  simp [isLabel, List.isPrefixOf, Ne.symm other]

end Iri
end Rdfa
