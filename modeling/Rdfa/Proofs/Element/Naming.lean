import Rdfa.Element.Output

-- Two runs of the rules side by side, which may name their nodes differently. What they announce is the
-- same up to a pairing of their blank nodes, and the pairing is one-to-one.
namespace Rdfa.Element

theorem Nodes.name_injective {m n : Nat} (same : Nodes.name m = Nodes.name n) : m = n := by
  have digits : Nat.toDigits 10 m = Nat.toDigits 10 n := List.append_cancel_left same
  have read := congrArg (Nat.ofDigitChars 10 · 0) digits
  simpa [Nat.ofDigitChars_toDigits] using read

theorem Nodes.isLabel_name (n : Nat) : isLabel (Nodes.name n) = true := rfl

-- Which node of one run is which of the other.
abbrev Naming := Text → Text → Prop

namespace Naming

variable {naming wider : Naming} {a b : Text} {nodes others : Nodes}

def Within (naming wider : Naming) : Prop := ∀ a b, naming a b → wider a b

theorem Within.refl (naming : Naming) : naming.Within naming := fun _ _ named => named

theorem Within.trans {widest : Naming} (first : naming.Within wider) (second : wider.Within widest) :
    naming.Within widest := fun a b named => second a b (first a b named)

def pairing (naming : Naming) (a b : Text) : Naming := fun c d => naming c d ∨ (c = a ∧ d = b)

theorem within_pairing (naming : Naming) (a b : Text) : naming.Within (naming.pairing a b) :=
  fun _ _ named => .inl named

theorem pairing_self (naming : Naming) (a b : Text) : naming.pairing a b a b := .inr ⟨rfl, rfl⟩

inductive Term (naming : Naming) : Text → Text → Prop where
  | node {a b : Text} (named : naming a b) : Term naming a b
  | plain {iri : Text} (unlabelled : isLabel iri = false) : Term naming iri iri

theorem Term.mono (within : naming.Within wider) (term : naming.Term a b) : wider.Term a b := by
  cases term with
  | node named => exact .node (within _ _ named)
  | plain unlabelled => exact .plain unlabelled

-- Nodes given beforehand to labels, a different one to each and none of the series that is counted.
structure Marks (marks : List (Text × Text)) : Prop where
  labels : ∀ {label b}, marks.lookup label = some b → isLabel b = true
  outside : ∀ {label b}, marks.lookup label = some b → ∀ k, b ≠ Nodes.name k
  unique : ∀ {label also b}, marks.lookup label = some b → marks.lookup also = some b → also = label

variable {marks : List (Text × Text)}

-- A one-to-one pairing of the nodes of two runs that have counted so far. The first has no other nodes
-- than those of its series, the second also those of `marks`.
structure Counted (marks : List (Text × Text)) (naming : Naming) (minted mintedThere : Nat) :
    Prop where
  marked : Marks marks
  unique : ∀ {a b a' b'}, naming a b → naming a' b' → (a = a' ↔ b = b')
  here : ∀ {a b}, naming a b → ∃ k < minted, a = Nodes.name k
  there : ∀ {a b}, naming a b →
    (∃ k < mintedThere, b = Nodes.name k) ∨ ∃ label, marks.lookup label = some b

namespace Counted

variable {m n : Nat}

theorem labels (counted : Counted marks naming m n) (named : naming a b) :
    isLabel a = true ∧ isLabel b = true := by
  refine ⟨?_, ?_⟩
  · obtain ⟨k, _, rfl⟩ := counted.here named
    exact Nodes.isLabel_name k
  · rcases counted.there named with ⟨k, _, rfl⟩ | ⟨label, found⟩
    · exact Nodes.isLabel_name k
    · exact counted.marked.labels found

theorem term_unique (counted : Counted marks naming m n) {c d : Text} (first : naming.Term a b)
    (second : naming.Term c d) : a = c ↔ b = d := by
  cases first with
  | node named =>
    cases second with
    | node also => exact counted.unique named also
    | plain unlabelled =>
      obtain ⟨left, right⟩ := counted.labels named
      refine ⟨?_, ?_⟩ <;> (rintro rfl; simp_all)
  | plain unlabelled =>
    cases second with
    | node also =>
      obtain ⟨left, right⟩ := counted.labels also
      refine ⟨?_, ?_⟩ <;> (rintro rfl; simp_all)
    | plain _ => exact Iff.rfl

theorem skip (counted : Counted marks naming m n) {m' n' : Nat} (more : m ≤ m')
    (moreThere : n ≤ n') : Counted marks naming m' n' := by
  refine ⟨counted.marked, counted.unique, fun named => ?_, fun named => ?_⟩
  · obtain ⟨k, less, same⟩ := counted.here named
    exact ⟨k, Nat.lt_of_lt_of_le less more, same⟩
  · rcases counted.there named with ⟨k, less, same⟩ | given
    · exact .inl ⟨k, Nat.lt_of_lt_of_le less moreThere, same⟩
    · exact .inr given

theorem next_free (counted : Counted marks naming m n) : ∀ a, ¬ naming a (Nodes.name n) := by
  intro a named
  rcases counted.there named with ⟨k, less, same⟩ | ⟨label, found⟩
  · exact absurd (Nodes.name_injective same) (Nat.ne_of_gt less)
  · exact counted.marked.outside found n rfl

theorem pair (counted : Counted marks naming m n) (free : ∀ a, ¬ naming a b)
    (origin : (∃ k < n, b = Nodes.name k) ∨ ∃ label, marks.lookup label = some b) :
    Counted marks (naming.pairing (Nodes.name m) b) (m + 1) n := by
  have new : ∀ {c d}, naming c d → c ≠ Nodes.name m := by
    intro c d named same
    obtain ⟨k, less, rfl⟩ := counted.here named
    exact absurd (Nodes.name_injective same) (Nat.ne_of_lt less)
  refine ⟨counted.marked, ?_, ?_, ?_⟩
  · rintro c d c' d' (named | ⟨rfl, rfl⟩) (also | ⟨rfl, rfl⟩)
    · exact counted.unique named also
    · refine ⟨fun same => absurd same (new named), ?_⟩
      rintro rfl
      exact absurd named (free c)
    · refine ⟨fun same => absurd same.symm (new also), ?_⟩
      rintro rfl
      exact absurd also (free c')
    · simp
  · rintro c d (named | ⟨rfl, rfl⟩)
    · obtain ⟨k, less, same⟩ := counted.here named
      exact ⟨k, Nat.lt_succ_of_lt less, same⟩
    · exact ⟨m, Nat.lt_succ_self m, rfl⟩
  · rintro c d (named | ⟨rfl, rfl⟩)
    · exact counted.there named
    · exact origin

theorem mint (counted : Counted marks naming m n) :
    Counted marks (naming.pairing (Nodes.name m) (Nodes.name n)) (m + 1) (n + 1) :=
  (counted.skip (Nat.le_refl m) (Nat.le_succ n)).pair counted.next_free
    (.inl ⟨n, Nat.lt_succ_self n, rfl⟩)

end Counted

-- Two runs that have come to `nodes` and `others`: they agree on every label both have met, and what
-- only the second knows is what it was given beforehand.
structure Joins (marks : List (Text × Text)) (naming : Naming) (nodes others : Nodes) : Prop where
  counted : Counted marks naming nodes.minted others.minted
  kept : ∀ {label b}, marks.lookup label = some b → others.labels.lookup label = some b
  known : ∀ {label a}, nodes.labels.lookup label = some a →
    ∃ b, others.labels.lookup label = some b ∧ naming a b
  waiting : ∀ {label b}, nodes.labels.lookup label = none → others.labels.lookup label = some b →
    marks.lookup label = some b ∧ ∀ a, ¬ naming a b

namespace Joins

theorem initial (marked : Marks marks) : Joins marks (fun _ _ => False) .none ⟨0, marks⟩ := by
  refine ⟨⟨marked, ?_, ?_, ?_⟩, fun found => found, ?_, fun _ found => ⟨found, fun _ => id⟩⟩
  · intro a b a' b' named
    cases named
  · intro a b named
    cases named
  · intro a b named
    cases named
  · intro label a found
    cases found

theorem skip (joins : Joins marks naming nodes others) {m n : Nat} (here : nodes.minted ≤ m)
    (there : others.minted ≤ n) :
    Joins marks naming { nodes with minted := m } { others with minted := n } :=
  ⟨joins.counted.skip here there, joins.kept, joins.known, joins.waiting⟩

theorem mint (joins : Joins marks naming nodes others) :
    Joins marks (naming.pairing (Nodes.name nodes.minted) (Nodes.name others.minted))
      { nodes with minted := nodes.minted + 1 } { others with minted := others.minted + 1 } := by
  refine ⟨joins.counted.mint, joins.kept, ?_, ?_⟩
  · intro label c found
    obtain ⟨d, there, named⟩ := joins.known found
    exact ⟨d, there, .inl named⟩
  · intro label d unknown found
    obtain ⟨given, free⟩ := joins.waiting unknown found
    refine ⟨given, ?_⟩
    rintro c (named | ⟨rfl, rfl⟩)
    · exact free c named
    · exact joins.counted.marked.outside given _ rfl

-- A label that neither run has met gets a node on both sides.
theorem learn (joins : Joins marks naming nodes others) (named : naming a b) {label : Text}
    (new : others.labels.lookup label = none) :
    Joins marks naming { nodes with labels := (label, a) :: nodes.labels }
      { others with labels := (label, b) :: others.labels } := by
  refine ⟨joins.counted, ?_, ?_, ?_⟩
  · intro also d given
    have there := joins.kept given
    have differ : also ≠ label := by
      rintro rfl
      rw [new] at there
      cases there
    simpa only [List.lookup_cons, beq_false_of_ne differ] using there
  · intro also c found
    by_cases same : also = label
    · subst same
      simp only [List.lookup_cons_self, Option.some.injEq] at found ⊢
      subst found
      exact ⟨b, rfl, named⟩
    · simp only [List.lookup_cons, beq_false_of_ne same] at found ⊢
      exact joins.known found
  · intro also d unknown found
    by_cases same : also = label
    · subst same
      simp at unknown
    · simp only [List.lookup_cons, beq_false_of_ne same] at unknown found
      exact joins.waiting unknown found

-- A label that waits in the second run is met in the first.
theorem meet (joins : Joins marks naming nodes others) {label : Text}
    (unknown : nodes.labels.lookup label = none) (found : others.labels.lookup label = some b) :
    Joins marks (naming.pairing (Nodes.name nodes.minted) b)
      ⟨nodes.minted + 1, (label, Nodes.name nodes.minted) :: nodes.labels⟩ others := by
  obtain ⟨given, free⟩ := joins.waiting unknown found
  refine ⟨joins.counted.pair free (.inr ⟨label, given⟩), joins.kept, ?_, ?_⟩
  · intro also c here
    by_cases same : also = label
    · subst same
      simp only [List.lookup_cons_self, Option.some.injEq] at here
      subst here
      exact ⟨b, found, pairing_self naming _ b⟩
    · simp only [List.lookup_cons, beq_false_of_ne same] at here
      obtain ⟨d, there, named⟩ := joins.known here
      exact ⟨d, there, .inl named⟩
  · intro also d missing there
    by_cases same : also = label
    · subst same
      simp at missing
    · simp only [List.lookup_cons, beq_false_of_ne same] at missing
      obtain ⟨given', free'⟩ := joins.waiting missing there
      refine ⟨given', ?_⟩
      rintro c (named | ⟨rfl, rfl⟩)
      · exact free' c named
      · exact same (joins.counted.marked.unique given given')

end Joins
end Naming
end Rdfa.Element
