import Rdfa.Iri

-- Paths by segments: taking `.` and `..` out of a path, one segment after the other, against what the
-- function on characters does.
namespace Rdfa.Iri

-- The parts of a path between its slashes. An empty path has one part, which is empty.
def segments (path : Text) : List Text := path.splitOn '/'

def isDotted (segment : Text) : Bool := segment = ['.'] || segment = ['.', '.']

-- The segments that remain, the last one first, after one more: `.` is dropped, and `..` removes what
-- remains last, if anything does.
def keep (kept : List Text) (segment : Text) : List Text :=
  if segment = ['.'] then kept
  else if segment = ['.', '.'] then kept.tail
  else segment :: kept

-- A path that ends in a dotted segment keeps its slash there.
def trailing (segments : List Text) : List Text :=
  if segments.getLast?.any isDotted then [[]] else []

def undotted (segments : List Text) : List Text :=
  (segments.foldl keep []).reverse ++ trailing segments

def slashed (segments : List Text) : Text := segments.flatMap ('/' :: ·)

structure Plain (segment : Text) : Prop where
  whole : '/' ∉ segment
  ordinary : isDotted segment = false

theorem Plain.ne {segment : Text} (plain : Plain segment) : segment ≠ ['.'] ∧ segment ≠ ['.', '.'] := by
  simpa [isDotted] using plain.ordinary

theorem isDotted_cases {segment : Text} (dotted : isDotted segment = true) :
    segment = ['.'] ∨ segment = ['.', '.'] := by
  simpa [isDotted] using dotted

theorem slashed_cons (segment : Text) (rest : List Text) :
    slashed (segment :: rest) = '/' :: (segment ++ slashed rest) := rfl

theorem slashed_append (first second : List Text) :
    slashed (first ++ second) = slashed first ++ slashed second := List.flatMap_append

theorem intercalate_cons (segment : Text) (rest : List Text) :
    ['/'].intercalate (segment :: rest) = segment ++ slashed rest := by
  induction rest generalizing segment with
  | nil => simp [slashed]
  | cons next rest ih => rw [List.intercalate_cons_cons, ih, slashed_cons, List.append_assoc,
      List.singleton_append]

theorem segments_eq (path : Text) :
    ∃ first rest, segments path = first :: rest ∧ path = first ++ slashed rest := by
  cases parts : segments path with
  | nil => exact absurd parts (List.splitOn_ne_nil '/' path)
  | cons first rest =>
    refine ⟨first, rest, rfl, ?_⟩
    rw [← intercalate_cons, ← parts, segments, List.intercalate_splitOn]

theorem segments_whole {path segment : Text} (inside : segment ∈ segments path) : '/' ∉ segment := by
  induction path generalizing segment with
  | nil => simp_all [segments]
  | cons c path ih =>
    unfold segments at inside ih
    rw [List.splitOn_cons_eq_if_modifyHead] at inside
    split at inside
    · rcases List.mem_cons.mp inside with rfl | later
      · simp
      · exact ih later
    · next other =>
      cases parts : path.splitOn '/' with
      | nil => simp [parts] at inside
      | cons first rest =>
        rw [parts, List.modifyHead_cons] at inside
        rcases List.mem_cons.mp inside with rfl | later
        · have free := ih (parts ▸ List.mem_cons_self)
          intro present
          rcases List.mem_cons.mp present with same | tail
          · simp [← same] at other
          · exact free tail
        · exact ih (parts ▸ List.mem_cons_of_mem _ later)

theorem segments_cases (path : Text) :
    ∃ first rest, segments path = first :: rest ∧ path = first ++ slashed rest ∧
      ∀ segment ∈ first :: rest, '/' ∉ segment := by
  obtain ⟨first, rest, parts, written⟩ := segments_eq path
  exact ⟨first, rest, parts, written, fun segment inside => segments_whole (parts ▸ inside)⟩

theorem segments_slashed {first : Text} {rest : List Text} (whole : '/' ∉ first)
    (others : ∀ segment ∈ rest, '/' ∉ segment) : segments (first ++ slashed rest) = first :: rest := by
  rw [segments, ← intercalate_cons]
  exact List.splitOn_intercalate '/' (List.forall_mem_cons.mpr ⟨whole, others⟩) (by simp)

theorem slashed_segments (path : Text) : slashed (segments path) = '/' :: path := by
  obtain ⟨first, rest, parts, written⟩ := segments_eq path
  rw [parts, slashed_cons, ← written]

theorem dropLast_segments_iff : (segments path).dropLast = [] ↔ '/' ∉ path := by
  obtain ⟨first, rest, parts, written, whole⟩ := segments_cases path
  rw [parts, written]
  cases rest with
  | nil => simpa [slashed] using whole
  | cons next rest => simp [slashed]

theorem span_slash {segment : Text} (whole : '/' ∉ segment) (rest : List Text) :
    (segment ++ slashed rest).takeWhile (· ≠ '/') = segment ∧
      (segment ++ slashed rest).dropWhile (· ≠ '/') = slashed rest := by
  have other : ∀ c ∈ segment, decide (c ≠ '/') = true := by
    intro c inside
    exact decide_eq_true fun same => whole (same ▸ inside)
  rw [List.takeWhile_append_of_pos other, List.dropWhile_append_of_pos other]
  cases rest <;> simp [slashed]

-- What comes before the first slash is the segment, so a plain one is not taken for dots.
theorem Plain.not_dots {segment : Text} (plain : Plain segment) (rest : List Text) :
    (∀ tail, segment ++ slashed rest ≠ '.' :: '/' :: tail) ∧ segment ++ slashed rest ≠ ['.'] ∧
      (∀ tail, segment ++ slashed rest ≠ '.' :: '.' :: '/' :: tail) ∧
        segment ++ slashed rest ≠ ['.', '.'] := by
  obtain ⟨taken, _⟩ := span_slash plain.whole rest
  obtain ⟨one, two⟩ := plain.ne
  refine ⟨?_, ?_, ?_, ?_⟩
  · intro tail same
    rw [same] at taken
    exact one (by simpa using taken.symm)
  · intro same
    rw [same] at taken
    exact one (by simpa using taken.symm)
  · intro tail same
    rw [same] at taken
    exact two (by simpa using taken.symm)
  · intro same
    rw [same] at taken
    exact two (by simpa using taken.symm)

theorem removeDotsFrom_plain {segment : Text} (plain : Plain segment) (output : Text)
    (rest : List Text) :
    removeDotsFrom output (slashed (segment :: rest)) =
      removeDotsFrom (('/' :: segment).reverse ++ output) (slashed rest) := by
  obtain ⟨taken, dropped⟩ := span_slash plain.whole rest
  obtain ⟨dotSlash, dot, dotsSlash, dots⟩ := plain.not_dots rest
  rw [slashed_cons, removeDotsFrom]
  · rw [taken, dropped, List.reverse_cons, List.append_assoc, List.singleton_append]
  all_goals simp_all

theorem removeDotsFrom_first {segment : Text} (plain : Plain segment) (rest : List Text) :
    removeDotsFrom [] (segment ++ slashed rest) = removeDotsFrom segment.reverse (slashed rest) := by
  cases segment with
  | nil => rfl
  | cons c segment =>
    have whole : '/' ∉ segment := fun inside => plain.whole (List.mem_cons_of_mem c inside)
    have head : c ≠ '/' := fun same => plain.whole (by simp [same])
    obtain ⟨taken, dropped⟩ := span_slash whole rest
    obtain ⟨dotSlash, dot, dotsSlash, dots⟩ := plain.not_dots rest
    simp only [List.cons_append] at dotSlash dot dotsSlash dots ⊢
    rw [removeDotsFrom]
    · rw [taken, dropped, List.reverse_cons]
    all_goals simp_all

theorem trailing_cons {segment : Text} {rest : List Text}
    (inside : isDotted segment = false ∨ rest ≠ []) : trailing (segment :: rest) = trailing rest := by
  cases rest with
  | nil =>
    have ordinary : isDotted segment = false := by simpa using inside
    simp [trailing, ordinary]
  | cons next rest => simp [trailing, List.getLast?_cons_cons]

theorem trailing_dotted {segment : Text} (dotted : isDotted segment = true) :
    trailing [segment] = [[]] := by simp [trailing, dotted]

theorem removeDotsFrom_dot (output : Text) (rest : List Text) :
    removeDotsFrom output (slashed (['.'] :: rest)) =
      removeDotsFrom output (slashed (if rest = [] then [[]] else rest)) := by
  cases rest with
  | nil => simp [slashed, removeDotsFrom]
  | cons next rest => simp [slashed, removeDotsFrom]

theorem removeDotsFrom_dots (output : Text) (rest : List Text) :
    removeDotsFrom output (slashed (['.', '.'] :: rest)) =
      removeDotsFrom (dropSegment output) (slashed (if rest = [] then [[]] else rest)) := by
  cases rest with
  | nil => simp [slashed, removeDotsFrom]
  | cons next rest => simp [slashed, removeDotsFrom]

theorem dropSegment_first {segment : Text} (whole : '/' ∉ segment) :
    dropSegment segment.reverse = [] := by
  have other : ∀ c ∈ segment.reverse, decide (c ≠ '/') = true := by
    intro c inside
    exact decide_eq_true fun same => whole (same ▸ List.mem_reverse.mp inside)
  have bare : (segment.reverse ++ []).dropWhile (· ≠ '/') = [].dropWhile (· ≠ '/') :=
    List.dropWhile_append_of_pos other
  rw [List.append_nil, List.dropWhile_nil] at bare
  rw [dropSegment, bare, List.drop_nil]

theorem dropSegment_behind {segment : Text} (whole : '/' ∉ segment) (output : Text) :
    dropSegment (('/' :: segment).reverse ++ output) = output := by
  have other : ∀ c ∈ segment.reverse, decide (c ≠ '/') = true := by
    intro c inside
    exact decide_eq_true fun same => whole (same ▸ List.mem_reverse.mp inside)
  rw [dropSegment, List.reverse_cons, List.append_assoc, List.dropWhile_append_of_pos other]
  simp

-- A first segment, and behind it those that are kept: what is put out so far.
def putOut (first : Text) (kept : List Text) : Text := first ++ slashed kept.reverse

theorem putOut_cons (first segment : Text) (kept : List Text) :
    (putOut first (segment :: kept)).reverse = ('/' :: segment).reverse ++ (putOut first kept).reverse := by
  rw [putOut, putOut, List.reverse_cons, slashed_append, ← List.append_assoc, List.reverse_append]
  simp [slashed]

theorem dropSegment_putOut {first : Text} {kept : List Text} (whole : '/' ∉ first)
    (others : ∀ segment ∈ kept, '/' ∉ segment) :
    ∃ front, (front = first ∨ front = []) ∧
      dropSegment (putOut first kept).reverse = (putOut front kept.tail).reverse := by
  cases kept with
  | nil =>
    refine ⟨[], .inr rfl, ?_⟩
    rw [putOut, List.reverse_nil, slashed, List.flatMap_nil, List.append_nil, dropSegment_first whole]
    rfl
  | cons last kept =>
    refine ⟨first, .inl rfl, ?_⟩
    rw [putOut_cons, dropSegment_behind (others last List.mem_cons_self), List.tail_cons]

theorem removeDotsFrom_dotted {first segment : Text} {kept : List Text} (whole : '/' ∉ first)
    (others : ∀ segment ∈ kept, '/' ∉ segment) (dotted : isDotted segment = true)
    (rest : List Text) :
    ∃ front, (front = first ∨ front = []) ∧
      removeDotsFrom (putOut first kept).reverse (slashed (segment :: rest)) =
        removeDotsFrom (putOut front (keep kept segment)).reverse
          (slashed (if rest = [] then [[]] else rest)) := by
  rcases isDotted_cases dotted with rfl | rfl
  · exact ⟨first, .inl rfl, removeDotsFrom_dot _ rest⟩
  · obtain ⟨front, origin, dropped⟩ := dropSegment_putOut whole others
    refine ⟨front, origin, ?_⟩
    rw [removeDotsFrom_dots, dropped]
    rfl

theorem keep_plain {segment : Text} (plain : Plain segment) (kept : List Text) :
    keep kept segment = segment :: kept := by
  simp [keep, plain.ne]

theorem keep_all {p : Text → Prop} {kept : List Text} {segment : Text} (before : ∀ s ∈ kept, p s)
    (here : isDotted segment = false → p segment) : ∀ s ∈ keep kept segment, p s := by
  unfold keep
  split
  · exact before
  · split
    · intro s inside
      exact before s (List.mem_of_mem_tail inside)
    · have ordinary : isDotted segment = false := by simp_all [isDotted]
      exact List.forall_mem_cons.mpr ⟨here ordinary, before⟩

theorem foldl_keep_all {p : Text → Prop} {rest kept : List Text} (before : ∀ s ∈ kept, p s)
    (later : ∀ s ∈ rest, isDotted s = false → p s) : ∀ s ∈ rest.foldl keep kept, p s := by
  induction rest generalizing kept with
  | nil => exact before
  | cons segment rest ih =>
    obtain ⟨here, beyond⟩ := List.forall_mem_cons.mp later
    exact ih (keep_all before here) beyond

theorem removeDotsFrom_end (first : Text) (kept : List Text) :
    removeDotsFrom (putOut first kept).reverse (slashed [[]]) = putOut first kept ++ ['/'] := by
  rw [removeDotsFrom_plain ⟨by simp, by decide⟩]
  simp [slashed, removeDotsFrom]

-- Whatever follows, the segments behind the first one are kept and removed as by `keep`; the first one
-- goes only where there is none behind it to remove.
theorem removeDotsFrom_slashed {first : Text} {kept rest : List Text} (whole : '/' ∉ first)
    (others : ∀ segment ∈ kept, '/' ∉ segment) (later : ∀ segment ∈ rest, '/' ∉ segment) :
    ∃ front, (front = first ∨ front = []) ∧
      removeDotsFrom (putOut first kept).reverse (slashed rest) =
        putOut front (rest.foldl keep kept) ++ slashed (trailing rest) := by
  induction rest generalizing first kept with
  | nil => exact ⟨first, .inl rfl, by simp [slashed, removeDotsFrom, trailing]⟩
  | cons segment rest ih =>
    obtain ⟨here, beyond⟩ := List.forall_mem_cons.mp later
    have kept_whole := keep_all others fun _ => here
    rw [List.foldl_cons]
    cases dotted : isDotted segment with
    | false =>
      have plain : Plain segment := ⟨here, dotted⟩
      rw [removeDotsFrom_plain plain, ← putOut_cons, ← keep_plain plain, trailing_cons (.inl dotted)]
      exact ih whole kept_whole beyond
    | true =>
      obtain ⟨front, origin, removed⟩ := removeDotsFrom_dotted whole others dotted rest
      rw [removed]
      by_cases last : rest = []
      · refine ⟨front, origin, ?_⟩
        rw [if_pos last, removeDotsFrom_end, last, trailing_dotted dotted]
        rfl
      · have front_whole : '/' ∉ front := by
          rcases origin with rfl | rfl
          · exact whole
          · simp
        obtain ⟨final, reached, done⟩ := ih front_whole kept_whole beyond
        rw [if_neg last, trailing_cons (.inr last)]
        refine ⟨final, ?_, done⟩
        rcases reached with rfl | rfl
        · exact origin
        · exact .inr rfl

theorem plain_empty : Plain [] := ⟨by simp, by decide⟩

theorem nothing_whole : ∀ segment ∈ ([] : List Text), '/' ∉ segment := by simp

theorem slashed_injective {parts others : List Text} (whole : ∀ segment ∈ parts, '/' ∉ segment)
    (also : ∀ segment ∈ others, '/' ∉ segment) (same : slashed parts = slashed others) :
    parts = others := by
  have split : [] :: parts = [] :: others := by
    rw [← segments_slashed plain_empty.whole whole, ← segments_slashed plain_empty.whole also, same]
  exact (List.cons.inj split).2

theorem trailing_plain (rest : List Text) : ∀ segment ∈ trailing rest, Plain segment := by
  unfold trailing
  split
  · exact List.forall_mem_singleton.mpr plain_empty
  · simp

theorem removeDotSegments_dotted {first : Text} (dotted : isDotted first = true) (next : Text)
    (rest : List Text) :
    removeDotSegments (first ++ slashed (next :: rest)) = removeDotSegments (next ++ slashed rest) := by
  rcases isDotted_cases dotted with rfl | rfl
  · simp [slashed, removeDotSegments, removeDotsFrom]
  · simp [slashed, removeDotSegments, removeDotsFrom]

theorem removeDotSegments_behind {first : Text} {rest : List Text} (plain : Plain first)
    (whole : ∀ segment ∈ rest, '/' ∉ segment) :
    ∃ front kept, Plain front ∧ (∀ segment ∈ kept, Plain segment) ∧
      removeDotSegments (first ++ slashed rest) = front ++ slashed kept := by
  obtain ⟨front, origin, removed⟩ :=
    removeDotsFrom_slashed plain.whole nothing_whole whole
  have kept : ∀ segment ∈ rest.foldl keep [], Plain segment := by
    refine foldl_keep_all (by simp) ?_
    intro segment inside ordinary
    exact ⟨whole segment inside, ordinary⟩
  refine ⟨front, undotted rest, ?_, ?_, ?_⟩
  · rcases origin with rfl | rfl
    · exact plain
    · exact plain_empty
  · intro segment inside
    rcases List.mem_append.mp inside with early | last
    · exact kept segment (List.mem_reverse.mp early)
    · exact trailing_plain rest segment last
  · have started : (putOut first []).reverse = first.reverse := by simp [putOut, slashed]
    rw [removeDotSegments, removeDotsFrom_first plain, ← started, removed, putOut, undotted,
      slashed_append, List.append_assoc]

-- What comes out is a first segment and others behind their slashes, none of them dotted. Dotted
-- segments in front of the first that is copied are dropped one by one.
theorem removeDotSegments_plain (path : Text) :
    ∃ first rest, Plain first ∧ (∀ segment ∈ rest, Plain segment) ∧
      removeDotSegments path = first ++ slashed rest := by
  obtain ⟨first, rest, parts, rfl⟩ := segments_eq path
  have whole : ∀ segment ∈ first :: rest, '/' ∉ segment := by
    intro segment inside
    exact segments_whole (parts ▸ inside)
  clear parts
  induction rest generalizing first with
  | nil =>
    cases dotted : isDotted first with
    | false => exact removeDotSegments_behind ⟨whole first List.mem_cons_self, dotted⟩ (by simp)
    | true =>
      refine ⟨[], [], plain_empty, by simp, ?_⟩
      rcases isDotted_cases dotted with rfl | rfl
      · simp [slashed, removeDotSegments, removeDotsFrom]
      · simp [slashed, removeDotSegments, removeDotsFrom]
  | cons next rest ih =>
    obtain ⟨here, others⟩ := List.forall_mem_cons.mp whole
    cases dotted : isDotted first with
    | false => exact removeDotSegments_behind ⟨here, dotted⟩ others
    | true =>
      rw [removeDotSegments_dotted dotted]
      exact ih next others

theorem removeDotsFrom_undotted {rest : List Text} (plain : ∀ segment ∈ rest, Plain segment)
    (output : Text) : removeDotsFrom output (slashed rest) = output.reverse ++ slashed rest := by
  induction rest generalizing output with
  | nil => simp [slashed, removeDotsFrom]
  | cons segment rest ih =>
    obtain ⟨here, others⟩ := List.forall_mem_cons.mp plain
    rw [removeDotsFrom_plain here, ih others, slashed_cons]
    simp

theorem removeDotSegments_undotted {first : Text} {rest : List Text} (plain : Plain first)
    (others : ∀ segment ∈ rest, Plain segment) :
    removeDotSegments (first ++ slashed rest) = first ++ slashed rest := by
  rw [removeDotSegments, removeDotsFrom_first plain, removeDotsFrom_undotted others,
    List.reverse_reverse]

theorem undotted_ne_nil {rest : List Text} (present : rest ≠ []) : undotted rest ≠ [] := by
  have whole := List.dropLast_concat_getLast present
  generalize rest.dropLast = front, rest.getLast present = last at whole
  subst whole
  cases dotted : isDotted last with
  | true => simp [undotted, trailing, dotted]
  | false =>
    have ends : keep (front.foldl keep []) last = last :: front.foldl keep [] := by
      simp_all [keep, isDotted]
    simp [undotted, ends]

theorem removeDotSegments_root (rest : Text) :
    removeDotSegments ('/' :: rest) = '/' :: ['/'].intercalate (undotted (segments rest)) := by
  obtain ⟨first, others, parts, written⟩ := segments_eq rest
  have whole : ∀ segment ∈ first :: others, '/' ∉ segment := by
    intro segment inside
    exact segments_whole (parts ▸ inside)
  obtain ⟨front, origin, removed⟩ :=
    removeDotsFrom_slashed plain_empty.whole nothing_whole whole
  have outermost : front = [] := by
    rcases origin with rfl | rfl
    · rfl
    · rfl
  obtain ⟨head, tail, kept⟩ := List.exists_cons_of_ne_nil (undotted_ne_nil (List.cons_ne_nil first others))
  calc removeDotSegments ('/' :: rest)
      = removeDotsFrom (putOut [] []).reverse (slashed (first :: others)) := by
        rw [written, slashed_cons]
        rfl
    _ = slashed (undotted (first :: others)) := by
        rw [removed, outermost, undotted, slashed_append]
        rfl
    _ = '/' :: ['/'].intercalate (undotted (segments rest)) := by
        rw [parts, kept, intercalate_cons, slashed_cons]

theorem foldl_keep_plain {rest : List Text} (plain : ∀ segment ∈ rest, Plain segment)
    (kept : List Text) : rest.foldl keep kept = rest.reverse ++ kept := by
  induction rest generalizing kept with
  | nil => rfl
  | cons segment rest ih =>
    obtain ⟨here, later⟩ := List.forall_mem_cons.mp plain
    rw [List.foldl_cons, keep_plain here, ih later, List.reverse_cons, List.append_assoc,
      List.singleton_append]

theorem undotted_append {parts rest : List Text} (plain : ∀ segment ∈ rest, Plain segment)
    (present : rest ≠ []) : undotted (parts ++ rest) = (parts.foldl keep []).reverse ++ rest := by
  have ends := List.dropLast_concat_getLast present
  have last := (plain _ (List.getLast_mem present)).ordinary
  have untrailed : trailing (parts ++ rest) = [] := by
    rw [← ends]
    simp [trailing, last]
  rw [undotted, untrailed, List.foldl_append, foldl_keep_plain plain]
  simp

theorem removeDotSegments_slashed {parts : List Text} (whole : ∀ segment ∈ parts, '/' ∉ segment)
    (present : parts ≠ []) : removeDotSegments (slashed parts) = slashed (undotted parts) := by
  obtain ⟨first, rest, rfl⟩ := List.exists_cons_of_ne_nil present
  obtain ⟨here, others⟩ := List.forall_mem_cons.mp whole
  obtain ⟨head, tail, kept⟩ := List.exists_cons_of_ne_nil (undotted_ne_nil present)
  rw [slashed_cons, removeDotSegments_root, segments_slashed here others, kept, intercalate_cons,
    slashed_cons]

theorem removeDotSegments_normalizes (path rest : Text) :
    (['.'] ∉ segments (removeDotSegments path) ∧ ['.', '.'] ∉ segments (removeDotSegments path)) ∧
      removeDotSegments (removeDotSegments path) = removeDotSegments path ∧
      removeDotSegments ('/' :: rest) = '/' :: ['/'].intercalate (undotted (segments rest)) := by
  obtain ⟨first, others, plain, all, written⟩ := removeDotSegments_plain path
  have parts : segments (removeDotSegments path) = first :: others := by
    rw [written]
    exact segments_slashed plain.whole fun segment inside => (all segment inside).whole
  have plains : ∀ segment ∈ first :: others, Plain segment := List.forall_mem_cons.mpr ⟨plain, all⟩
  refine ⟨⟨?_, ?_⟩, ?_, removeDotSegments_root rest⟩
  · rw [parts]
    exact fun inside => (plains _ inside).ne.1 rfl
  · rw [parts]
    exact fun inside => (plains _ inside).ne.2 rfl
  · rw [written]
    exact removeDotSegments_undotted plain all

end Rdfa.Iri
