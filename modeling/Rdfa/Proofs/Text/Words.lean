import Rdfa.Text.Basic

-- The words of a text: there is one way to take it apart into runs without a blank in them, with blanks
-- between any two of the runs.
namespace Rdfa.Text

structure IsRun (word : Text) : Prop where
  content : word ≠ []
  unbroken : ∀ c ∈ word, isAsciiBlank c = false

inductive Spaced : List Text → Text → Prop where
  | nothing : Spaced [] []
  | blank {c : Char} {tokens : List Text} {text : Text} (blank : isAsciiBlank c = true)
      (rest : Spaced tokens text) : Spaced tokens (c :: text)
  | word {word : Text} {tokens : List Text} {text : Text} (run : IsRun word)
      (apart : ∀ c ∈ text.head?, isAsciiBlank c = true) (rest : Spaced tokens text) :
      Spaced (word :: tokens) (word ++ text)

theorem Spaced.gap {gap text : Text} {tokens : List Text} (spaced : Spaced tokens text)
    (blank : ∀ c ∈ gap, isAsciiBlank c = true) : Spaced tokens (gap ++ text) := by
  induction gap with
  | nil => exact spaced
  | cons c gap ih =>
    obtain ⟨here, others⟩ := List.forall_mem_cons.mp blank
    exact .blank here (ih others)

theorem wordsFrom_run {word : Text} (unbroken : ∀ c ∈ word, isAsciiBlank c = false) (begun text : Text) :
    wordsFrom begun (word ++ text) = wordsFrom (word.reverse ++ begun) text := by
  induction word generalizing begun with
  | nil => rfl
  | cons c word ih =>
    obtain ⟨here, others⟩ := List.forall_mem_cons.mp unbroken
    rw [List.cons_append, wordsFrom, here]
    simp [ih others]

theorem wordsFrom_ended {begun text : Text} (begins : begun ≠ [])
    (apart : ∀ c ∈ text.head?, isAsciiBlank c = true) :
    wordsFrom begun text = begun.reverse :: wordsFrom [] text := by
  cases text with
  | nil => simp [wordsFrom, begins]
  | cons c rest =>
    have blank : isAsciiBlank c = true := apart c rfl
    simp [wordsFrom, blank, begins]

theorem Spaced.words_eq {text : Text} {tokens : List Text} (spaced : Spaced tokens text) :
    words text = tokens := by
  unfold words
  induction spaced with
  | nothing => rfl
  | blank blank _ ih => simp [wordsFrom, blank, ih]
  | @word word tokens text run apart _ ih =>
    have begun : word.reverse ≠ [] := List.reverse_ne_nil_iff.mpr run.content
    rw [wordsFrom_run run.unbroken, List.append_nil, wordsFrom_ended begun apart, ih,
      List.reverse_reverse]

theorem spaced_ended {begun text : Text} (unbroken : ∀ c ∈ begun, isAsciiBlank c = false)
    (apart : ∀ c ∈ text.head?, isAsciiBlank c = true) (rest : Spaced (wordsFrom [] text) text) :
    Spaced (wordsFrom begun text) (begun.reverse ++ text) := by
  by_cases empty : begun = []
  · subst empty
    exact rest
  · rw [wordsFrom_ended empty apart]
    refine .word ⟨List.reverse_ne_nil_iff.mpr empty, ?_⟩ apart rest
    intro c inside
    exact unbroken c (List.mem_reverse.mp inside)

theorem spaced_wordsFrom {begun : Text} (unbroken : ∀ c ∈ begun, isAsciiBlank c = false) (text : Text) :
    Spaced (wordsFrom begun text) (begun.reverse ++ text) := by
  -- The induction is on what is still to be read; the word under way stands in front of it.
  induction text generalizing begun with
  | nil => exact spaced_ended unbroken (by simp) .nothing
  | cons c rest ih =>
    cases blank : isAsciiBlank c with
    | true =>
      have later : Spaced (wordsFrom [] rest) rest := ih (by simp)
      refine spaced_ended unbroken (by simpa using blank) ?_
      simpa [wordsFrom, blank] using Spaced.blank blank later
    | false =>
      have longer : ∀ d ∈ c :: begun, isAsciiBlank d = false :=
        List.forall_mem_cons.mpr ⟨blank, unbroken⟩
      have further := ih longer
      rw [List.reverse_cons, List.append_assoc] at further
      simpa [wordsFrom, blank] using further

theorem words_eq_iff {text : Text} {tokens : List Text} : words text = tokens ↔ Spaced tokens text := by
  constructor
  · intro same
    rw [← same]
    exact spaced_wordsFrom (by simp) text
  · intro spaced
    exact spaced.words_eq

def spread (pieces : List (Text × Text)) (tail : Text) : Text :=
  pieces.flatMap (fun piece => piece.1 ++ piece.2) ++ tail

-- What stands around the tokens is blank, and something stands between any two of them.
structure Gaps (pieces : List (Text × Text)) (tail : Text) : Prop where
  before : ∀ piece ∈ pieces, ∀ c ∈ piece.1, isAsciiBlank c = true
  behind : ∀ c ∈ tail, isAsciiBlank c = true
  between : ∀ piece ∈ pieces.tail, piece.1 ≠ []

theorem spaced_spread {pieces : List (Text × Text)} {tail : Text} (gaps : Gaps pieces tail)
    (runs : ∀ token ∈ pieces.map Prod.snd, IsRun token) :
    Spaced (pieces.map Prod.snd) (spread pieces tail) := by
  induction pieces with
  | nil =>
    have blank : Spaced [] (tail ++ []) := Spaced.nothing.gap gaps.behind
    rwa [List.append_nil] at blank
  | cons piece rest ih =>
    obtain ⟨run, others⟩ := List.forall_mem_cons.mp runs
    obtain ⟨blank, blanks⟩ := List.forall_mem_cons.mp gaps.before
    have later : Gaps rest tail :=
      ⟨blanks, gaps.behind, fun next inside => gaps.between next (List.mem_of_mem_tail inside)⟩
    -- The next gap, or what stands behind the last token, begins with a blank.
    have apart : ∀ c ∈ (spread rest tail).head?, isAsciiBlank c = true := by
      intro c first
      cases rest with
      | nil => exact gaps.behind c (List.mem_of_mem_head? first)
      | cons next rest =>
        have spaced : next.1 ≠ [] := gaps.between next (List.mem_cons_self ..)
        have inside : c ∈ next.1.head? := by
          simpa [spread, List.head?_append, List.head?_eq_some_head spaced] using first
        exact blanks next (List.mem_cons_self ..) c (List.mem_of_mem_head? inside)
    have spaced := (Spaced.word run apart (ih later others)).gap blank
    simpa [spread, List.append_assoc] using spaced

end Rdfa.Text
