import Rdfa.Proofs.Iri.Stable

-- A reference resolved a second time, against what came of it the first time. A scheme or an authority of
-- its own is all it needs to stay; otherwise only its path decides.
namespace Rdfa.Iri

variable {base r : Reference} {path : Text}

theorem target_authority (plain : r.scheme = none) (here : r.authority = none) :
    (target base r).authority = base.authority := by
  have assigned : Assigned base r (target base r) := assigned_iff.mpr rfl
  simpa [plain, here] using assigned.authority_eq

theorem target_query (plain : r.scheme = none) (here : r.authority = none) :
    (target base r).query = if r.path.isEmpty then r.query.or base.query else r.query := by
  simp only [target, plain, here, Option.isSome_none, Bool.false_eq_true, if_false]
  split <;> rfl

theorem target_path_empty (plain : r.scheme = none) (here : r.authority = none) (empty : r.path = []) :
    (target base r).path = base.path := by
  simp [target, plain, here, empty]

theorem target_path_rooted (plain : r.scheme = none) (here : r.authority = none)
    (rooted : r.path = '/' :: path) : (target base r).path = removeDotSegments r.path := by
  simp [target, plain, here, rooted]

theorem target_path_relative {c : Char} (plain : r.scheme = none) (here : r.authority = none)
    (begun : r.path = c :: path) (other : c ≠ '/') :
    (target base r).path = removeDotSegments (merge base r.path) := by
  simp [target, plain, here, begun, other]

theorem target_of_scheme (own : r.scheme.isSome = true) (base other : Reference) :
    target base r = target other r := by
  rw [target, target, if_pos own, if_pos own]

theorem target_of_authority {other : Reference} (own : r.authority.isSome = true)
    (same : other.scheme = base.scheme) : target other r = target base r := by
  simp only [target, own, if_true, same]

theorem compose_path_iff : compose { r with path } = compose r ↔ path = r.path := by
  rw [compose_eq, compose_eq, List.append_left_inj, List.append_left_inj, List.append_right_inj,
    List.append_right_inj]

-- The second time only the path can come out otherwise.
theorem target_again (base : Reference) (plain : r.scheme = none) (here : r.authority = none) :
    target (target base r).reread r =
      { (target base r).reread with path := (target (target base r).reread r).path } := by
  have scheme : (target (target base r).reread r).scheme = (target base r).reread.scheme := by
    rw [target_scheme, plain, Option.none_or]
  have authority : (target (target base r).reread r).authority = (target base r).reread.authority :=
    target_authority plain here
  have query : (target (target base r).reread r).query = (target base r).reread.query := by
    rw [target_query plain here, Reference.reread_query, target_query plain here]
    split
    · cases r.query <;> rfl
    · rfl
  have fragment : (target (target base r).reread r).fragment = (target base r).reread.fragment := by
    rw [target_fragment, Reference.reread_fragment, target_fragment]
  simp only [← scheme, ← authority, ← query, ← fragment]

theorem resolve_twice_path_iff {base reference : Text} (absolute : isAbsolute base = true)
    (plain : (split reference).scheme = none) (here : (split reference).authority = none) :
    resolve (resolve base reference) reference = resolve base reference ↔
      (target (split (resolve base reference)) (split reference)).path =
        (split (resolve base reference)).path := by
  have again := target_again (split base) plain here
  rw [← split_resolve absolute] at again
  have second : resolve (resolve base reference) reference =
      compose { split (resolve base reference) with
        path := (target (split (resolve base reference)) (split reference)).path } :=
    congrArg compose again
  rw [second, ← compose_path_iff, compose_split]

theorem resolve_twice_iff {base : Text} (absolute : isAbsolute base = true) (reference : Text) :
    resolve (resolve base reference) reference = resolve base reference ↔
      (split reference).scheme.isSome = true ∨ (split reference).authority.isSome = true ∨
        (target (split (resolve base reference)) (split reference)).path =
          (split (resolve base reference)).path := by
  cases plain : (split reference).scheme with
  | some scheme =>
    have own : (split reference).scheme.isSome = true := by rw [plain]; rfl
    refine iff_of_true ?_ (.inl rfl)
    rw [resolve, target_of_scheme own _ (split base), ← resolve]
  | none =>
    cases here : (split reference).authority with
    | some authority =>
      have own : (split reference).authority.isSome = true := by rw [here]; rfl
      have same : (split (resolve base reference)).scheme = (split base).scheme := by
        rw [scheme_resolve absolute, plain, Option.none_or]
      refine iff_of_true ?_ (.inr (.inl rfl))
      rw [resolve, target_of_authority own same, ← resolve]
    | none =>
      rw [resolve_twice_path_iff absolute plain here]
      simp

section Hosted

theorem Reference.reread_of_hosted (host : r.authority.isSome = true) : r.reread = r :=
  reread_eq_iff.mpr fun absent => by simp [absent] at host

theorem split_resolve_hosted {base reference : Text} (absolute : isAbsolute base = true)
    (host : (split base).authority.isSome = true) (plain : (split reference).scheme = none)
    (here : (split reference).authority = none) :
    split (resolve base reference) = target (split base) (split reference) := by
  rw [split_resolve absolute]
  refine Reference.reread_of_hosted ?_
  rwa [target_authority plain here]

theorem merged_eq (formed : base.Formed) (host : base.authority.isSome = true) (dotless : Dotless path) :
    ∃ lead, (∀ segment ∈ lead, Plain segment) ∧
      removeDotSegments (merge base path) = slashed (lead ++ segments path) := by
  obtain ⟨parts, whole, merged⟩ := merge_hosted formed host
  have present : segments path ≠ [] := List.splitOn_ne_nil '/' path
  have all : ∀ segment ∈ parts ++ segments path, '/' ∉ segment :=
    List.forall_mem_append.mpr ⟨whole, fun segment inside => segments_whole inside⟩
  have kept : ∀ segment ∈ parts.foldl keep [], Plain segment := by
    refine foldl_keep_all (by simp) ?_
    intro segment inside ordinary
    exact ⟨whole segment inside, ordinary⟩
  refine ⟨(parts.foldl keep []).reverse, ?_, ?_⟩
  · intro segment inside
    exact kept segment (List.mem_reverse.mp inside)
  · rw [merged, ← slashed_segments, ← slashed_append,
      removeDotSegments_slashed all (List.append_ne_nil_of_right_ne_nil _ present),
      undotted_append dotless.plain present]

variable {base reference : Text} (absolute : isAbsolute base = true)
  (host : (split base).authority.isSome = true) (plain : (split reference).scheme = none)
  (here : (split reference).authority = none)

include absolute host plain here

theorem resolve_twice_of_rooted
    (rooted : (split reference).path = [] ∨ ∃ rest, (split reference).path = '/' :: rest) :
    resolve (resolve base reference) reference = resolve base reference := by
  rw [resolve_twice_path_iff absolute plain here]
  rcases rooted with empty | ⟨rest, rooted⟩
  · exact target_path_empty plain here empty
  · rw [target_path_rooted plain here rooted, split_resolve_hosted absolute host plain here,
      target_path_rooted plain here rooted]

-- All segments of the path but the last are there twice the second time.
theorem resolve_twice_relative_iff {c : Char} {rest : Text} (begun : (split reference).path = c :: rest)
    (other : c ≠ '/') (dotless : Dotless (split reference).path) :
    resolve (resolve base reference) reference = resolve base reference ↔
      '/' ∉ (split reference).path := by
  rw [resolve_twice_path_iff absolute plain here, split_resolve_hosted absolute host plain here]
  generalize split reference = r at plain here begun dotless ⊢
  obtain ⟨lead, plains, first⟩ := merged_eq (split_formed base) host dotless
  rw [← target_path_relative plain here begun other] at first
  have present : segments r.path ≠ [] := List.splitOn_ne_nil '/' r.path
  have ends := List.dropLast_concat_getLast present
  have whole := dotless.plain
  have single : ∀ segment ∈ lead ++ segments r.path, Plain segment :=
    List.forall_mem_append.mpr ⟨plains, whole⟩
  have doubled : ∀ segment ∈ lead ++ ((segments r.path).dropLast ++ segments r.path), Plain segment :=
    List.forall_mem_append.mpr ⟨plains, List.forall_mem_append.mpr
      ⟨fun segment inside => whole segment (List.dropLast_subset _ inside), whole⟩⟩
  have second : (target (target (split base) r) r).path =
      slashed (lead ++ ((segments r.path).dropLast ++ segments r.path)) := by
    rw [← ends, ← List.append_assoc] at first
    rw [target_path_relative plain here begun other,
      merge_slashed (whole _ (List.getLast_mem present)).whole first, ← slashed_segments,
      ← slashed_append, List.append_assoc]
    exact removeDotSegments_undotted plain_empty doubled
  have slashless {parts : List Text} (plain : ∀ segment ∈ parts, Plain segment) :
      ∀ segment ∈ parts, '/' ∉ segment := fun segment inside => (plain segment inside).whole
  rw [first, second, ← dropLast_segments_iff]
  constructor
  · intro same
    have parts := slashed_injective (slashless doubled) (slashless single) same
    exact List.append_left_eq_self.mp (List.append_cancel_left parts)
  · intro alone
    rw [alone, List.nil_append]

end Hosted
end Rdfa.Iri
