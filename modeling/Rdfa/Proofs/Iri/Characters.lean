import Rdfa.Iri

-- Resolution invents no characters: what it makes of two texts is made of theirs and of the marks
-- between the components.
namespace Rdfa.Iri

variable {p : Char → Prop}

structure Reference.All (p : Char → Prop) (r : Reference) : Prop where
  scheme : ∀ scheme ∈ r.scheme, ∀ c ∈ scheme, p c
  authority : ∀ authority ∈ r.authority, ∀ c ∈ authority, p c
  path : ∀ c ∈ r.path, p c
  query : ∀ query ∈ r.query, ∀ c ∈ query, p c
  fragment : ∀ fragment ∈ r.fragment, ∀ c ∈ fragment, p c

theorem cut_all (mark : Char) {text : Text} (all : ∀ c ∈ text, p c) :
    (∀ c ∈ (Text.cut mark text).1, p c) ∧ ∀ rest ∈ (Text.cut mark text).2, ∀ c ∈ rest, p c := by
  induction text with
  | nil => simp [Text.cut]
  | cons first text ih =>
    obtain ⟨here, later⟩ := List.forall_mem_cons.mp all
    unfold Text.cut
    split
    · exact ⟨by simp, by simpa using later⟩
    · exact ⟨List.forall_mem_cons.mpr ⟨here, (ih later).1⟩, (ih later).2⟩

theorem scheme?_all {text scheme rest : Text} (found : scheme? text = some (scheme, rest))
    (all : ∀ c ∈ text, p c) : (∀ c ∈ scheme, p c) ∧ ∀ c ∈ rest, p c := by
  unfold scheme? at found
  split at found
  · cases found
  · split at found
    · split at found
      · next dropped =>
        cases found
        refine ⟨fun c inside => all c (List.takeWhile_subset _ inside), fun c inside => all c ?_⟩
        exact (List.dropWhile_suffix _).subset (dropped ▸ List.mem_cons_of_mem _ inside)
      · cases found
    · cases found

theorem splitAuthority_all {text : Text} (all : ∀ c ∈ text, p c) :
    (∀ authority ∈ (splitAuthority text).1, ∀ c ∈ authority, p c) ∧
      ∀ c ∈ (splitAuthority text).2, p c := by
  unfold splitAuthority
  split
  · next rest =>
    have tail : ∀ c ∈ rest, p c := fun c inside => all c (by simp [inside])
    refine ⟨?_, fun c inside => tail c ((List.dropWhile_suffix _).subset inside)⟩
    rintro _ ⟨⟩ c inside
    exact tail c (List.takeWhile_subset _ inside)
  · exact ⟨by simp, all⟩

theorem split_all {text : Text} (all : ∀ c ∈ text, p c) : (split text).All p := by
  have fragment := cut_all '#' all
  have query := cut_all '?' fragment.1
  unfold split
  dsimp only
  split
  · next scheme rest found =>
    have scheme := scheme?_all found query.1
    have authority := splitAuthority_all scheme.2
    exact ⟨by simpa using scheme.1, authority.1, authority.2, query.2, fragment.2⟩
  · have authority := splitAuthority_all query.1
    exact ⟨by simp, authority.1, authority.2, query.2, fragment.2⟩

theorem dropSegment_all {output : Text} (all : ∀ c ∈ output, p c) : ∀ c ∈ dropSegment output, p c :=
  fun c inside => all c ((List.dropWhile_suffix _).subset (List.mem_of_mem_drop inside))

theorem removeDotsFrom_all {output input : Text} (slash : p '/') (before : ∀ c ∈ output, p c)
    (after : ∀ c ∈ input, p c) : ∀ c ∈ removeDotsFrom output input, p c := by
  fun_induction removeDotsFrom output input with
  | case1 output => simpa using before
  | case2 output rest ih => exact ih before fun c inside => after c (by simp [inside])
  | case3 output rest ih => exact ih before fun c inside => after c (by simp [inside])
  | case4 output rest ih => exact ih before fun c inside => after c (by simp_all)
  | case5 output ih => exact ih before (by simpa using slash)
  | case6 output rest ih =>
    exact ih (dropSegment_all before) fun c inside => after c (by simp_all)
  | case7 output ih => exact ih (dropSegment_all before) (by simpa using slash)
  | case8 output => simpa using before
  | case9 output => simpa using before
  | case10 output first rest _ _ _ _ _ _ _ _ ih =>
    obtain ⟨here, later⟩ := List.forall_mem_cons.mp after
    refine ih (List.forall_mem_append.mpr ⟨fun c inside => ?_, ?_⟩) fun c inside => ?_
    · exact later c (List.takeWhile_subset _ (List.mem_reverse.mp inside))
    · exact List.forall_mem_cons.mpr ⟨here, before⟩
    · exact later c ((List.dropWhile_suffix _).subset inside)

theorem merge_all {base : Reference} {path : Text} (slash : p '/') (around : base.All p)
    (all : ∀ c ∈ path, p c) : ∀ c ∈ merge base path, p c := by
  unfold merge
  split
  · exact List.forall_mem_cons.mpr ⟨slash, all⟩
  · refine List.forall_mem_append.mpr ⟨fun c inside => around.path c ?_, all⟩
    exact List.mem_reverse.mp ((List.dropWhile_suffix _).subset (List.mem_reverse.mp inside))

theorem target_all {base r : Reference} (slash : p '/') (around : base.All p) (all : r.All p) :
    (target base r).All p := by
  have dotless {path : Text} (inside : ∀ c ∈ path, p c) : ∀ c ∈ removeDotSegments path, p c :=
    removeDotsFrom_all slash (by simp) inside
  unfold target
  split
  · exact { all with path := dotless all.path }
  · split
    · exact { all with scheme := around.scheme, path := dotless all.path }
    · split
      · refine { around with query := fun query given => ?_, fragment := all.fragment }
        rcases Option.or_eq_some_iff.mp given with own | ⟨_, inherited⟩
        · exact all.query query own
        · exact around.query query inherited
      · refine { all with scheme := around.scheme, authority := around.authority, path := dotless ?_ }
        split
        · exact all.path
        · exact merge_all slash around all.path

def marks : Text := [':', '/', '?', '#']

theorem elim_all {component : Option Text} {write : Text → Text}
    (written : ∀ text ∈ component, ∀ c ∈ write text, p c) : ∀ c ∈ component.elim [] write, p c := by
  cases component with
  | none => simp
  | some text => exact written text rfl

theorem compose_all {r : Reference} (marked : ∀ c ∈ marks, p c) (all : r.All p) :
    ∀ c ∈ compose r, p c := by
  have slash := marked '/' (by decide)
  unfold compose
  simp only [List.forall_mem_append]
  refine ⟨⟨⟨⟨?_, ?_⟩, all.path⟩, ?_⟩, ?_⟩
  · refine elim_all fun scheme given => List.forall_mem_append.mpr ⟨all.scheme scheme given, ?_⟩
    exact List.forall_mem_singleton.mpr (marked ':' (by decide))
  · refine elim_all fun authority given => List.forall_mem_append.mpr ⟨?_, all.authority authority given⟩
    simpa using slash
  · exact elim_all fun query given =>
      List.forall_mem_cons.mpr ⟨marked '?' (by decide), all.query query given⟩
  · exact elim_all fun fragment given =>
      List.forall_mem_cons.mpr ⟨marked '#' (by decide), all.fragment fragment given⟩

theorem resolve_all {base reference : Text} (marked : ∀ c ∈ marks, p c) (around : ∀ c ∈ base, p c)
    (all : ∀ c ∈ reference, p c) : ∀ c ∈ resolve base reference, p c :=
  compose_all marked (target_all (marked '/' (by decide)) (split_all around) (split_all all))

end Rdfa.Iri
