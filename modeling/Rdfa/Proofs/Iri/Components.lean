import Rdfa.Proofs.Iri.Absolute
import Rdfa.Proofs.Iri.Characters

-- A reference as components and as text. Writing undoes reading; reading undoes writing, but for a path
-- that begins like an authority where there is none before it.
namespace Rdfa

namespace Text

theorem ne_of_not_mem {mark : Char} {text : Text} (free : mark ∉ text) :
    ∀ c ∈ text, decide (c ≠ mark) = true :=
  fun _ inside => decide_eq_true fun same => free (same ▸ inside)

def behind (mark : Char) (rest : Option Text) : Text := rest.elim [] (mark :: ·)

theorem append_cut (mark : Char) (text : Text) :
    (cut mark text).1 ++ behind mark (cut mark text).2 = text := by
  induction text with
  | nil => rfl
  | cons c text ih =>
    by_cases same : c = mark
    · simp [cut, same, behind]
    · simpa [cut, same] using ih

theorem cut_append_behind {mark : Char} {lead : Text} (free : mark ∉ lead) (rest : Option Text) :
    cut mark (lead ++ behind mark rest) = (lead, rest) := by
  induction lead with
  | nil => cases rest <;> simp [behind, cut]
  | cons c lead ih =>
    simp only [List.mem_cons, not_or] at free
    simp [cut, Ne.symm free.1, ih free.2]

theorem isSome_cut_iff {mark : Char} {text : Text} : (cut mark text).2.isSome = true ↔ mark ∈ text := by
  induction text with
  | nil => simp [cut]
  | cons c text ih =>
    by_cases same : c = mark
    · simp [cut, same]
    · simp [cut, same, ih, Ne.symm same]

theorem cut_fst_eq_iff {mark : Char} {text : Text} : (cut mark text).1 = text ↔ mark ∉ text := by
  have whole := append_cut mark text
  rw [← isSome_cut_iff]
  cases found : (cut mark text).2 with
  | none =>
    rw [found, behind, Option.elim_none, List.append_nil] at whole
    simp [whole]
  | some rest =>
    rw [found] at whole
    refine iff_of_false (fun same => ?_) (by simp)
    rw [same] at whole
    simp [behind] at whole

end Text

namespace Iri

open Text (behind)

def hosted (authority : Option Text) : Text := authority.elim [] (['/', '/'] ++ ·)

-- Components that a text can have: none of them has a mark inside at which it would end.
structure Reference.Formed (r : Reference) : Prop where
  scheme : ∀ scheme ∈ r.scheme, IsScheme scheme
  authority : ∀ authority ∈ r.authority, '/' ∉ authority ∧ '?' ∉ authority ∧ '#' ∉ authority
  path : '?' ∉ r.path ∧ '#' ∉ r.path
  query : ∀ query ∈ r.query, '#' ∉ query
  rooted : r.authority.isSome = true → r.path = [] ∨ ∃ rest, r.path = '/' :: rest

-- The components as they are found again in the text. Where there is no authority, a path that begins
-- with two slashes is taken for one.
def Reference.reread (r : Reference) : Reference :=
  match r.authority with
  | some _ => r
  | none => { r with authority := (splitAuthority r.path).1, path := (splitAuthority r.path).2 }

@[simp] theorem Reference.reread_scheme (r : Reference) : r.reread.scheme = r.scheme := by
  unfold reread
  split <;> rfl

@[simp] theorem Reference.reread_query (r : Reference) : r.reread.query = r.query := by
  unfold reread
  split <;> rfl

@[simp] theorem Reference.reread_fragment (r : Reference) : r.reread.fragment = r.fragment := by
  unfold reread
  split <;> rfl

theorem append_splitAuthority (text : Text) :
    hosted (splitAuthority text).1 ++ (splitAuthority text).2 = text := by
  unfold splitAuthority
  split
  · next rest =>
    show '/' :: '/' :: rest.takeWhile (· ≠ '/') ++ rest.dropWhile (· ≠ '/') = _
    rw [List.cons_append, List.cons_append, List.takeWhile_append_dropWhile]
  · rfl

theorem splitAuthority_hosted {authority path : Text} (whole : '/' ∉ authority)
    (rooted : path = [] ∨ ∃ rest, path = '/' :: rest) :
    splitAuthority ('/' :: '/' :: (authority ++ path)) = (some authority, path) := by
  have other := Text.ne_of_not_mem whole
  show (some ((authority ++ path).takeWhile (· ≠ '/')), (authority ++ path).dropWhile (· ≠ '/')) = _
  rw [List.takeWhile_append_of_pos other, List.dropWhile_append_of_pos other]
  rcases rooted with rfl | ⟨rest, rfl⟩
  · simp
  · simp

theorem splitAuthority_rooted (text : Text) (found : (splitAuthority text).1.isSome = true) :
    (splitAuthority text).2 = [] ∨ ∃ rest, (splitAuthority text).2 = '/' :: rest := by
  unfold splitAuthority at found ⊢
  split at found
  · next rest =>
    dsimp only
    cases left : rest.dropWhile (· ≠ '/') with
    | nil => exact .inl rfl
    | cons c tail =>
      have stopped := List.head?_dropWhile_not (· ≠ '/') rest
      rw [left] at stopped
      have slash : c = '/' := by simpa using stopped
      exact .inr ⟨tail, by rw [slash]⟩
  · cases found

theorem splitAuthority_whole (text : Text) : ∀ authority ∈ (splitAuthority text).1, '/' ∉ authority := by
  unfold splitAuthority
  split
  · rintro _ ⟨⟩ inside
    have other := List.all_eq_true.mp List.all_takeWhile _ inside
    simp at other
  · simp

theorem compose_eq (r : Reference) :
    compose r = r.scheme.elim [] (· ++ [':']) ++ (hosted r.authority ++ r.path) ++
      behind '?' r.query ++ behind '#' r.fragment := by
  simp only [compose, hosted, behind, List.append_assoc]

theorem compose_fragment (r : Reference) :
    compose r = compose { r with fragment := none } ++ behind '#' r.fragment := by
  rw [compose_eq, compose_eq { r with fragment := none }]
  exact congrArg (· ++ _) (List.append_nil _).symm

theorem split_fragment (text : Text) : (split text).fragment = (Text.cut '#' text).2 := rfl

theorem compose_unfragmented (text : Text) :
    compose { split text with fragment := none } = (Text.cut '#' text).1 := by
  have query := Text.append_cut '?' (Text.cut '#' text).1
  unfold split
  dsimp only
  split
  · next scheme rest found =>
    obtain ⟨_, written⟩ := scheme?_eq_some_iff.mp found
    have authority := append_splitAuthority rest
    calc compose _
        = scheme ++ ':' :: rest ++ behind '?' (Text.cut '?' (Text.cut '#' text).1).2 := by
          rw [compose_eq, authority]
          simp [behind]
      _ = (Text.cut '#' text).1 := by rw [← written, query]
  · have authority := append_splitAuthority (Text.cut '?' (Text.cut '#' text).1).1
    calc compose _
        = (Text.cut '?' (Text.cut '#' text).1).1 ++
            behind '?' (Text.cut '?' (Text.cut '#' text).1).2 := by
          rw [compose_eq, authority]
          simp [behind]
      _ = (Text.cut '#' text).1 := query

theorem compose_split (text : Text) : compose (split text) = text := by
  rw [compose_fragment, compose_unfragmented, split_fragment, Text.append_cut]

theorem isSome_fragment_iff {text : Text} : (split text).fragment.isSome = true ↔ '#' ∈ text := by
  rw [split_fragment, Text.isSome_cut_iff]

theorem splitAuthority_free {mark : Char} {text : Text} (free : mark ∉ text) :
    (∀ authority ∈ (splitAuthority text).1, mark ∉ authority) ∧ mark ∉ (splitAuthority text).2 := by
  have parts := splitAuthority_all (p := (· ≠ mark)) fun c inside same => free (same ▸ inside)
  exact ⟨fun authority given inside => parts.1 authority given mark inside rfl,
    fun inside => parts.2 mark inside rfl⟩

theorem split_formed (text : Text) : (split text).Formed := by
  have hash := Text.not_mem_cut '#' text
  have mark := Text.not_mem_cut '?' (Text.cut '#' text).1
  have query := Text.append_cut '?' (Text.cut '#' text).1
  have unhashed : '#' ∉ (Text.cut '?' (Text.cut '#' text).1).1 := by
    intro inside
    exact hash (query ▸ List.mem_append_left _ inside)
  have queried : ∀ query ∈ (Text.cut '?' (Text.cut '#' text).1).2, '#' ∉ query := by
    intro found given inside
    rw [Option.mem_def.mp given] at query
    exact hash (query ▸ List.mem_append_right _ (List.mem_cons_of_mem _ inside))
  -- Behind a scheme, or without one, only authority and path are left.
  have formed {rest : Text} (unmarked : '?' ∉ rest) (free : '#' ∉ rest) {leading : Option Text}
      (valid : ∀ scheme ∈ leading, IsScheme scheme) :
      Reference.Formed ⟨leading, (splitAuthority rest).1, (splitAuthority rest).2,
        (Text.cut '?' (Text.cut '#' text).1).2, (Text.cut '#' text).2⟩ := by
    have marks := splitAuthority_free unmarked
    have hashes := splitAuthority_free free
    refine ⟨valid, fun authority given => ?_, ⟨marks.2, hashes.2⟩, queried, splitAuthority_rooted rest⟩
    exact ⟨splitAuthority_whole rest authority given, marks.1 authority given, hashes.1 authority given⟩
  unfold split
  dsimp only
  split
  · next scheme rest found =>
    obtain ⟨valid, written⟩ := scheme?_eq_some_iff.mp found
    rw [written] at mark unhashed
    have inside {c : Char} (later : c ∈ rest) : c ∈ scheme ++ ':' :: rest :=
      List.mem_append_right _ (List.mem_cons_of_mem _ later)
    refine formed (fun later => mark (inside later)) (fun later => unhashed (inside later)) ?_
    rintro _ ⟨⟩
    exact valid
  · exact formed mark unhashed (by simp)

theorem IsScheme.free {scheme : Text} (valid : IsScheme scheme) {mark : Char}
    (outside : isSchemeChar mark = false) : mark ∉ scheme := by
  intro inside
  rw [valid.chars mark inside] at outside
  cases outside

theorem hosted_free {mark : Char} {component : Option Text} (other : mark ≠ '/')
    (free : ∀ authority ∈ component, mark ∉ authority) : mark ∉ hosted component := by
  cases component with
  | none => simp [hosted]
  | some authority => simp [hosted, other, free authority rfl]

theorem splitAuthority_of_not_prefix {text : Text} (other : ¬ ['/', '/'] <+: text) :
    splitAuthority text = (none, text) := by
  unfold splitAuthority
  split
  · exact absurd (List.prefix_append ['/', '/'] _) other
  · rfl

-- Nothing is read otherwise unless a path begins like an authority where there is none.
theorem Reference.reread_eq_iff {r : Reference} :
    r.reread = r ↔ (r.authority = none → ¬ ['/', '/'] <+: r.path) := by
  obtain ⟨scheme, authority, path, query, fragment⟩ := r
  cases authority with
  | some authority => simp [reread]
  | none =>
    refine ⟨fun same _ begun => ?_, fun other => ?_⟩
    · obtain ⟨rest, rfl⟩ := begun
      have taken := congrArg Reference.authority same
      cases taken
    · simp only [reread, splitAuthority_of_not_prefix (other rfl)]

theorem splitAuthority_written {r : Reference} (formed : r.Formed) :
    splitAuthority (hosted r.authority ++ r.path) = (r.reread.authority, r.reread.path) := by
  obtain ⟨scheme, authority, path, query, fragment⟩ := r
  cases authority with
  | none => rfl
  | some authority => exact splitAuthority_hosted (formed.authority authority rfl).1 (formed.rooted rfl)

-- The marks that end a component stand between the components only, so each is found where it was put.
theorem split_compose {r : Reference} (formed : r.Formed) (absolute : r.scheme.isSome = true) :
    split (compose r) = r.reread := by
  obtain ⟨scheme, given⟩ := Option.isSome_iff_exists.mp absolute
  have valid := formed.scheme scheme given
  have free (mark : Char) (outside : isSchemeChar mark = false) (colon : mark ≠ ':') (slash : mark ≠ '/')
      (authority : ∀ authority ∈ r.authority, mark ∉ authority) (path : mark ∉ r.path) :
      mark ∉ scheme ++ ':' :: (hosted r.authority ++ r.path) := by
    simp [valid.free outside, colon, hosted_free slash authority, path]
  have unmarked := free '?' (by decide) (by decide) (by decide)
    (fun authority given => (formed.authority authority given).2.1) formed.path.1
  have unhashed := free '#' (by decide) (by decide) (by decide)
    (fun authority given => (formed.authority authority given).2.2) formed.path.2
  have queried : '#' ∉ behind '?' r.query := by
    cases found : r.query with
    | none => simp [behind]
    | some query => simp [behind, formed.query query found]
  have written : compose r = scheme ++ ':' :: (hosted r.authority ++ r.path) ++ behind '?' r.query ++
      behind '#' r.fragment := by
    rw [compose_eq, given]
    simp
  have fragment : Text.cut '#' (compose r) =
      (scheme ++ ':' :: (hosted r.authority ++ r.path) ++ behind '?' r.query, r.fragment) := by
    rw [written]
    exact Text.cut_append_behind (List.not_mem_append unhashed queried) r.fragment
  have query := Text.cut_append_behind unmarked r.query
  have own : scheme? (scheme ++ ':' :: (hosted r.authority ++ r.path)) =
      some (scheme, hosted r.authority ++ r.path) := scheme?_eq_some_iff.mpr ⟨valid, rfl⟩
  unfold split
  simp only [fragment, query, own, splitAuthority_written formed]
  rw [← given, ← r.reread_scheme, ← r.reread_query, ← r.reread_fragment]

end Iri
end Rdfa
