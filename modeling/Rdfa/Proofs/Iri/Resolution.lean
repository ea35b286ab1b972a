import Mathlib.Data.List.TakeWhile
import Rdfa.Proofs.Iri.Components
import Rdfa.Proofs.Iri.Segments

-- What resolution makes of the components of base and reference, and what of it is found again in the text.
namespace Rdfa.Iri

def directory (path : Text) : Text := (path.reverse.dropWhile (· ≠ '/')).reverse

theorem directory_append {last : Text} (whole : '/' ∉ last) (lead : Text) :
    directory (lead ++ '/' :: last) = lead ++ ['/'] := by
  have other := Text.ne_of_not_mem (mt List.mem_reverse.mp whole)
  have mirrored : (lead ++ '/' :: last).reverse = last.reverse ++ '/' :: lead.reverse := by simp
  rw [directory, mirrored, List.dropWhile_append_of_pos other]
  simp

theorem directory_whole {path : Text} (whole : '/' ∉ path) : directory path = [] := by
  have bare : path.reverse.dropWhile (· ≠ '/') = [] :=
    List.dropWhile_eq_nil_iff.mpr (Text.ne_of_not_mem (mt List.mem_reverse.mp whole))
  rw [directory, bare, List.reverse_nil]

theorem segments_append {segment : Text} (whole : '/' ∉ segment) (path : Text) :
    segments (segment ++ '/' :: path) = segment :: segments path := by
  obtain ⟨first, rest, parts, written, others⟩ := segments_cases path
  have joined : segment ++ '/' :: path = segment ++ slashed (first :: rest) := by
    rw [slashed_cons, ← written]
  rw [joined, parts, segments_slashed whole others]

theorem segments_slash (path : Text) : segments ('/' :: path) = [] :: segments path :=
  segments_append plain_empty.whole path

theorem directory_eq_segments (base path : Text) :
    directory base ++ path = ['/'].intercalate ((segments base).dropLast ++ segments path) := by
  obtain ⟨first, rest, parts, written, whole⟩ := segments_cases base
  obtain ⟨head, tail, others, same⟩ := segments_eq path
  rw [parts, others]
  rcases List.eq_nil_or_concat rest with rfl | ⟨init, last, ends⟩
  · rw [written, slashed, List.flatMap_nil, List.append_nil, directory_whole (whole first (by simp))]
    rw [List.dropLast_singleton, List.nil_append, List.nil_append, intercalate_cons, ← same]
  · rw [List.concat_eq_append] at ends
    subst ends
    have lead : base = first ++ slashed init ++ '/' :: last := by
      rw [written, slashed_append, slashed_cons, List.append_assoc]
      simp [slashed]
    rw [lead, directory_append (whole last (by simp))]
    rw [← List.cons_append, List.dropLast_concat, List.cons_append, intercalate_cons, slashed_append,
      slashed_cons, ← same]
    simp

variable {base r : Reference} {mark : Char} {path : Text}

theorem removeDotSegments_free (other : mark ≠ '/') (free : mark ∉ path) :
    mark ∉ removeDotSegments path := by
  have all : ∀ c ∈ path, c ≠ mark := fun c inside same => free (same ▸ inside)
  exact fun inside => removeDotsFrom_all (p := (· ≠ mark)) other.symm (by simp) all mark inside rfl

theorem directory_free (free : mark ∉ path) : mark ∉ directory path := fun inside =>
  free (List.mem_reverse.mp ((List.dropWhile_suffix _).subset (List.mem_reverse.mp inside)))

theorem merge_free (other : mark ≠ '/') (around : mark ∉ base.path) (free : mark ∉ path) :
    mark ∉ merge base path := by
  unfold merge
  split
  · exact List.not_mem_cons_of_ne_of_not_mem other free
  · exact List.not_mem_append (directory_free around) free

theorem removeDotSegments_rooted (rooted : path = [] ∨ ∃ rest, path = '/' :: rest) :
    removeDotSegments path = [] ∨ ∃ rest, removeDotSegments path = '/' :: rest := by
  rcases rooted with rfl | ⟨rest, rfl⟩
  · left
    simp [removeDotSegments, removeDotsFrom]
  · exact .inr ⟨_, removeDotSegments_root rest⟩

theorem merge_slashed {parts : List Text} {last : Text} (whole : '/' ∉ last)
    (written : base.path = slashed (parts ++ [last])) (path : Text) :
    merge base path = slashed parts ++ '/' :: path := by
  have lead : base.path = slashed parts ++ '/' :: last := by
    rw [written, slashed_append]
    simp [slashed]
  have taken := directory_append whole (slashed parts)
  have present : (base.authority.isSome && base.path.isEmpty) = false := by simp [lead]
  rw [merge, if_neg (Bool.eq_false_iff.mp present)]
  show directory base.path ++ path = _
  rw [lead, taken, List.append_assoc, List.singleton_append]

theorem merge_hosted (formed : base.Formed) (host : base.authority.isSome = true) :
    ∃ parts, (∀ segment ∈ parts, '/' ∉ segment) ∧
      ∀ path, merge base path = slashed parts ++ '/' :: path := by
  rcases formed.rooted host with empty | ⟨rest, rooted⟩
  · refine ⟨[], nothing_whole, fun path => ?_⟩
    rw [merge, host, empty]
    rfl
  · have present : segments rest ≠ [] := List.splitOn_ne_nil '/' rest
    have ends := List.dropLast_concat_getLast present
    have lead : base.path =
        slashed ((segments rest).dropLast ++ [(segments rest).getLast present]) := by
      rw [ends, slashed_segments, rooted]
    refine ⟨(segments rest).dropLast, fun segment inside => ?_, merge_slashed ?_ lead⟩
    · exact segments_whole (List.dropLast_subset _ inside)
    · exact segments_whole (List.getLast_mem present)

theorem merge_rooted (formed : base.Formed) (host : base.authority.isSome = true) (path : Text) :
    ∃ rest, merge base path = '/' :: rest := by
  obtain ⟨parts, _, merged⟩ := merge_hosted formed host
  rw [merged path]
  cases parts with
  | nil => exact ⟨path, rfl⟩
  | cons first rest => exact ⟨_, rfl⟩

theorem target_formed (around : base.Formed) (formed : r.Formed) : (target base r).Formed := by
  have dotless {path : Text} (free : '?' ∉ path ∧ '#' ∉ path) :
      '?' ∉ removeDotSegments path ∧ '#' ∉ removeDotSegments path :=
    ⟨removeDotSegments_free (by decide) free.1, removeDotSegments_free (by decide) free.2⟩
  unfold target
  split
  · exact { formed with
      path := dotless formed.path
      rooted := fun host => removeDotSegments_rooted (formed.rooted host) }
  · split
    · exact { formed with
        scheme := around.scheme
        path := dotless formed.path
        rooted := fun host => removeDotSegments_rooted (formed.rooted host) }
    · split
      · refine { around with query := fun query given => ?_ }
        rcases Option.or_eq_some_iff.mp given with own | ⟨_, inherited⟩
        · exact formed.query query own
        · exact around.query query inherited
      · refine { formed with
          scheme := around.scheme
          authority := around.authority
          path := dotless ?_
          rooted := fun host => removeDotSegments_rooted ?_ }
        · split
          · exact formed.path
          · exact ⟨merge_free (by decide) around.path.1 formed.path.1,
              merge_free (by decide) around.path.2 formed.path.2⟩
        · split
          · next rooted => exact .inr (List.head?_eq_some_iff.mp rooted)
          · exact .inr (merge_rooted around host _)

theorem isSome_target_scheme {base : Text} (absolute : isAbsolute base = true) (r : Reference) :
    (target (split base) r).scheme.isSome = true := by
  rw [target_scheme, split_scheme, Option.isSome_or, Option.isSome_map]
  exact Bool.or_eq_true_iff.mpr (.inr absolute)

theorem split_resolve {base : Text} (absolute : isAbsolute base = true) (reference : Text) :
    split (resolve base reference) = (target (split base) (split reference)).reread :=
  split_compose (target_formed (split_formed base) (split_formed reference))
    (isSome_target_scheme absolute _)

theorem target_fragment (base r : Reference) : (target base r).fragment = r.fragment := by
  unfold target
  split
  · rfl
  · split
    · rfl
    · split <;> rfl

theorem hash_mem_resolve_iff {base : Text} (absolute : isAbsolute base = true) (reference : Text) :
    '#' ∈ resolve base reference ↔ '#' ∈ reference := by
  rw [← isSome_fragment_iff, split_resolve absolute, Reference.reread_fragment, target_fragment,
    isSome_fragment_iff]

theorem resolve_nil (base : Text) : resolve base [] = (Text.cut '#' base).1 :=
  compose_unfragmented base

-- A path read beside the last segment of the base's path, or from the root where that path is empty
-- behind an authority.
def beside (base : Reference) (path : Text) : Text :=
  if base.authority.isSome && base.path.isEmpty then '/' :: path
  else ['/'].intercalate ((segments base.path).dropLast ++ segments path)

theorem merge_eq_beside (base : Reference) (path : Text) : merge base path = beside base path := by
  unfold merge beside
  split
  · rfl
  · exact directory_eq_segments base.path path

-- The components that section 5.2.2 of RFC 3986 assigns to a reference, before they are written as text.
inductive Assigned (base r : Reference) : Reference → Prop where
  | ownScheme {scheme : Text} (own : r.scheme = some scheme) :
      Assigned base r ⟨some scheme, r.authority, removeDotSegments r.path, r.query, r.fragment⟩
  | ownAuthority {authority : Text} (plain : r.scheme = none) (own : r.authority = some authority) :
      Assigned base r ⟨base.scheme, some authority, removeDotSegments r.path, r.query, r.fragment⟩
  | samePath (plain : r.scheme = none) (here : r.authority = none) (empty : r.path = []) :
      Assigned base r ⟨base.scheme, base.authority, base.path, r.query.or base.query, r.fragment⟩
  | rooted {rest : Text} (plain : r.scheme = none) (here : r.authority = none)
      (path : r.path = '/' :: rest) :
      Assigned base r ⟨base.scheme, base.authority, removeDotSegments r.path, r.query, r.fragment⟩
  | relative {c : Char} {rest : Text} (plain : r.scheme = none) (here : r.authority = none)
      (path : r.path = c :: rest) (other : c ≠ '/') :
      Assigned base r
        ⟨base.scheme, base.authority, removeDotSegments (beside base r.path), r.query, r.fragment⟩

theorem assigned_iff {base r t : Reference} : Assigned base r t ↔ t = target base r := by
  constructor
  · intro assigned
    cases assigned with
    | ownScheme own => simp [target, own]
    | ownAuthority plain own => simp [target, plain, own]
    | samePath plain here empty => simp [target, plain, here, empty]
    | rooted plain here path => simp [target, plain, here, path]
    | relative plain here path other =>
      simp [target, plain, here, path, other, merge_eq_beside]
  · rintro rfl
    obtain ⟨scheme, authority, path, query, fragment⟩ := r
    cases scheme with
    | some scheme => exact .ownScheme rfl
    | none =>
      cases authority with
      | some authority => exact .ownAuthority rfl rfl
      | none =>
        cases path with
        | nil => exact .samePath rfl rfl rfl
        | cons c rest =>
          by_cases slash : c = '/'
          · subst slash
            exact .rooted rfl rfl rfl
          · have relative : Assigned base ⟨none, none, c :: rest, query, fragment⟩ _ :=
              .relative rfl rfl rfl slash
            simpa [target, slash, merge_eq_beside] using relative

theorem Assigned.authority_eq {base r t : Reference} (assigned : Assigned base r t) :
    t.authority = if (r.scheme.isSome || r.authority.isSome) = true then r.authority else base.authority := by
  cases assigned <;> simp_all

-- What the text of a resolved reference reads as: the components `t` it was assigned, unless a path that
-- begins with two slashes follows no authority. Then what follows these up to the next slash is read as one.
structure Reads (base reference : Text) (t : Reference) : Prop where
  assigned : ∀ u, Assigned (split base) (split reference) u ↔ u = t
  authority : t.authority =
    if ((split reference).scheme.isSome || (split reference).authority.isSome) = true
    then (split reference).authority else (split base).authority
  same : split (resolve base reference) = t ↔ (t.authority = none → ¬ ['/', '/'] <+: t.path)
  taken : ∀ path, t.authority = none → t.path = '/' :: '/' :: path →
    split (resolve base reference) = { t with
      authority := some (path.takeWhile (· ≠ '/'))
      path := path.dropWhile (· ≠ '/') }

theorem resolve_reads_assigned {base : Text} (absolute : isAbsolute base = true) (reference : Text) :
    ∃ t, Reads base reference t := by
  have read := split_resolve absolute reference
  have assigned : Assigned (split base) (split reference) (target (split base) (split reference)) :=
    assigned_iff.mpr rfl
  refine ⟨target (split base) (split reference), fun u => assigned_iff, assigned.authority_eq, ?_, ?_⟩
  · rw [read]
    exact Reference.reread_eq_iff
  · intro path here begun
    rw [read, Reference.reread, here, begun]
    rfl

theorem rootless_reads : isAbsolute "urn:a".toList = true ∧
    ∃ t, Reads "urn:a".toList "/.//h/y".toList t :=
  ⟨by decide, resolve_reads_assigned (by decide) _⟩

theorem rootless_gains_authority :
    isAbsolute "urn:a".toList = true ∧ (split "urn:a".toList).authority = none ∧
      split "/.//h/y".toList = ⟨none, none, "/.//h/y".toList, none, none⟩ ∧
      (target (split "urn:a".toList) (split "/.//h/y".toList)).path = "//h/y".toList ∧
      split (resolve "urn:a".toList "/.//h/y".toList) =
        ⟨some "urn".toList, some "h".toList, "/y".toList, none, none⟩ := by
  decide +kernel

end Rdfa.Iri
