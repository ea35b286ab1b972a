import Rdfa.Proofs.Iri.Resolution

-- What is resolved once stays as it is, whatever it is resolved against: it has a scheme of its own, and
-- no dotted segment is left in its path unless the base had one.
namespace Rdfa.Iri

variable {base r : Reference} {path : Text}

def Dotless (path : Text) : Prop := ∀ segment ∈ segments path, isDotted segment = false

theorem Dotless.plain (dotless : Dotless path) : ∀ segment ∈ segments path, Plain segment :=
  fun segment inside => ⟨segments_whole inside, dotless segment inside⟩

theorem dotless_nil : Dotless [] := List.forall_mem_singleton.mpr plain_empty.ordinary

theorem dotless_slash : Dotless ('/' :: path) ↔ Dotless path := by
  unfold Dotless
  rw [segments_slash, List.forall_mem_cons]
  exact and_iff_right plain_empty.ordinary

theorem dotless_removeDotSegments (path : Text) : Dotless (removeDotSegments path) := by
  obtain ⟨first, rest, plain, others, written⟩ := removeDotSegments_plain path
  have parts : segments (removeDotSegments path) = first :: rest := by
    rw [written]
    exact segments_slashed plain.whole fun segment inside => (others segment inside).whole
  intro segment inside
  rw [parts] at inside
  rcases List.mem_cons.mp inside with rfl | later
  · exact plain.ordinary
  · exact (others segment later).ordinary

theorem removeDotSegments_of_dotless (dotless : Dotless path) : removeDotSegments path = path := by
  obtain ⟨first, rest, parts, written⟩ := segments_eq path
  have plain := dotless.plain
  rw [parts] at plain
  obtain ⟨here, others⟩ := List.forall_mem_cons.mp plain
  rw [written]
  exact removeDotSegments_undotted here others

theorem dotless_dropWhile (dotless : Dotless path) : Dotless (path.dropWhile (· ≠ '/')) := by
  obtain ⟨first, rest, parts, written, whole⟩ := segments_cases path
  rw [written, (span_slash (whole first List.mem_cons_self) rest).2]
  cases rest with
  | nil => exact dotless_nil
  | cons next rest =>
    rw [slashed_cons, dotless_slash]
    intro segment inside
    have here : '/' ∉ next := whole next (by simp)
    rw [segments_slashed here fun segment later => whole segment (by simp [later])] at inside
    exact dotless segment (parts ▸ List.mem_cons_of_mem first inside)

theorem dotless_splitAuthority (dotless : Dotless path) : Dotless (splitAuthority path).2 := by
  unfold splitAuthority
  split
  · exact dotless_dropWhile (dotless_slash.mp (dotless_slash.mp dotless))
  · exact dotless

theorem Reference.reread_dotless (dotless : Dotless r.path) : Dotless r.reread.path := by
  unfold reread
  split
  · exact dotless
  · exact dotless_splitAuthority dotless

theorem target_dotless (dotless : Dotless base.path) (r : Reference) : Dotless (target base r).path := by
  unfold target
  split
  · exact dotless_removeDotSegments _
  · split
    · exact dotless_removeDotSegments _
    · split
      · exact dotless
      · exact dotless_removeDotSegments _

theorem target_of_settled (absolute : r.scheme.isSome = true) (dotless : Dotless r.path) :
    target base r = r := by
  rw [target, if_pos absolute, removeDotSegments_of_dotless dotless]

theorem resolve_of_settled {text : Text} (absolute : isAbsolute text = true)
    (dotless : Dotless (split text).path) (base : Text) : resolve base text = text := by
  have scheme : (split text).scheme.isSome = true := by
    rw [split_scheme, Option.isSome_map]
    exact absolute
  rw [resolve, target_of_settled scheme dotless, compose_split]

theorem dotless_resolve {base : Text} (absolute : isAbsolute base = true)
    (dotless : Dotless (split base).path) (reference : Text) :
    Dotless (split (resolve base reference)).path := by
  rw [split_resolve absolute]
  exact Reference.reread_dotless (target_dotless dotless _)

theorem scheme_resolve {base : Text} (absolute : isAbsolute base = true) (reference : Text) :
    (split (resolve base reference)).scheme = (split reference).scheme.or (split base).scheme := by
  rw [split_resolve absolute, Reference.reread_scheme, target_scheme]

def resolveAlong (base : Text) (references : List Text) : Text := references.foldl resolve base

theorem isAbsolute_resolveAlong {base : Text} (absolute : isAbsolute base = true)
    (references : List Text) : isAbsolute (resolveAlong base references) = true := by
  induction references generalizing base with
  | nil => exact absolute
  | cons reference rest ih => exact ih (isAbsolute_resolve absolute reference)

theorem hash_mem_resolveAlong_iff {base : Text} (absolute : isAbsolute base = true)
    (references : List Text) :
    '#' ∈ resolveAlong base references ↔ '#' ∈ references.getLast?.getD base := by
  rcases List.eq_nil_or_concat references with rfl | ⟨earlier, last, rfl⟩
  · rfl
  · have resolved : resolveAlong base (earlier.concat last) =
        resolve (resolveAlong base earlier) last := by
      rw [resolveAlong, List.concat_eq_append, List.foldl_append]
      rfl
    rw [resolved, hash_mem_resolve_iff (isAbsolute_resolveAlong absolute earlier)]
    simp

end Rdfa.Iri
