import Rdfa.Declaration
import Rdfa.Proofs.Text.Words

-- The `prefix` attribute accounts for all its tokens. Each of them is in one declaration, as its name or its
-- namespace, or in one warning, and this with what a warning is for leaves one way to read the attribute.
namespace Rdfa

open Text (IsRun Spaced)

theorem Text.before?_eq_some_iff {tail text rest : Text} :
    Text.before? tail text = some rest ↔ text = rest ++ tail := by
  unfold Text.before?
  constructor
  · intro found
    obtain ⟨reversed, after, rfl⟩ := Option.map_eq_some_iff.mp found
    have split := Text.eq_append_of_after? after
    rw [← List.reverse_reverse text, split, List.reverse_append, List.reverse_reverse]
  · intro split
    rw [split, List.reverse_append, Text.after?_append]
    exact congrArg some (List.reverse_reverse rest)

namespace Declaration

def tokens (declared : Declaration) : List Text := [declared.name ++ [':'], declared.namespaceIri]

def sources : Except Warning Declaration → List Text
  | .ok declared => declared.tokens
  | .error (.notAPrefix token) => [token]
  | .error (.prefixWithoutNamespace name) => [name ++ [':']]
  | .error _ => []

def warning? : Except Warning Declaration → Option Warning
  | .ok _ => none
  | .error warning => some warning

-- The items of the attribute: they take up its tokens one after the other. A token that stands alone is no
-- name of a prefix, unless it is the last one and has no namespace behind it.
structure Accounts (items : List (Except Warning Declaration)) (tokens : List Text) : Prop where
  taken : items.flatMap sources = tokens
  single : ∀ warning, .error warning ∈ items → ∃ token, sources (.error warning) = [token]
  nameless : ∀ token, .error (.notAPrefix token) ∈ items → ∀ name, token ≠ name ++ [':']
  last : ∀ name before after, items = before ++ .error (.prefixWithoutNamespace name) :: after →
    after = []

namespace Accounts

variable {item : Except Warning Declaration} {items : List (Except Warning Declaration)}
  {tokens : List Text}

theorem nothing : Accounts [] [] := by
  refine ⟨rfl, by simp, by simp, ?_⟩
  intro name before after split
  cases before <;> cases split

theorem rest (accounts : Accounts (item :: items) tokens) : Accounts items (items.flatMap sources) := by
  refine ⟨rfl, ?_, ?_, ?_⟩
  · intro warning present
    exact accounts.single warning (List.mem_cons_of_mem item present)
  · intro token present
    exact accounts.nameless token (List.mem_cons_of_mem item present)
  · intro name before after split
    exact accounts.last name (item :: before) after (congrArg (item :: ·) split)

theorem cons (accounts : Accounts items tokens)
    (single : ∀ warning, item = .error warning → ∃ token, sources (.error warning) = [token])
    (nameless : ∀ token, item = .error (.notAPrefix token) → ∀ name, token ≠ name ++ [':'])
    (ended : ∀ name, item ≠ .error (.prefixWithoutNamespace name)) :
    Accounts (item :: items) (sources item ++ tokens) := by
  refine ⟨by rw [List.flatMap_cons, accounts.taken], ?_, ?_, ?_⟩
  · intro warning present
    rcases List.mem_cons.mp present with here | later
    · exact single warning here.symm
    · exact accounts.single warning later
  · intro token present
    rcases List.mem_cons.mp present with here | later
    · exact nameless token here.symm
    · exact accounts.nameless token later
  · intro name before after split
    cases before with
    | nil => exact absurd (List.cons.inj split).1 (ended name)
    | cons first before => exact accounts.last name before after (List.cons.inj split).2

theorem pair (accounts : Accounts items tokens) (declared : Declaration) :
    Accounts (.ok declared :: items) (declared.tokens ++ tokens) := by
  apply accounts.cons
  · rintro warning ⟨⟩
  · rintro token ⟨⟩
  · rintro name ⟨⟩

theorem stray (accounts : Accounts items tokens) {token : Text}
    (nameless : ∀ name, token ≠ name ++ [':']) :
    Accounts (.error (.notAPrefix token) :: items) (token :: tokens) := by
  apply accounts.cons
  · rintro warning ⟨⟩
    exact ⟨token, rfl⟩
  · rintro other ⟨⟩
    exact nameless
  · rintro name ⟨⟩

theorem dangling (name : Text) :
    Accounts [.error (.prefixWithoutNamespace name)] [name ++ [':']] := by
  refine ⟨rfl, ?_, by simp, ?_⟩
  · intro warning present
    cases List.mem_singleton.mp present
    exact ⟨_, rfl⟩
  · intro other before after split
    cases before with
    | nil => exact (List.cons.inj split).2.symm
    | cons first before => simp at split

end Accounts

theorem readTokens_accounts (tokens : List Text) : Accounts (readTokens tokens) tokens := by
  have nameless {token : Text} (bare : Text.before? [':'] token = none) (name : Text) :
      token ≠ name ++ [':'] := by
    intro same
    rw [Text.before?_eq_some_iff.mpr same] at bare
    cases bare
  -- The cases are those of the reader: one token left, or two of which the first is no name or is one.
  fun_induction readTokens tokens with
  | case1 => exact .nothing
  | case2 token bare => exact Accounts.nothing.stray (nameless bare)
  | case3 token name found =>
    rw [Text.before?_eq_some_iff.mp found]
    exact .dangling name
  | case4 token next rest bare ih => exact ih.stray (nameless bare)
  | case5 token next rest name found ih =>
    rw [Text.before?_eq_some_iff.mp found]
    exact ih.pair ⟨name, next⟩

theorem readTokens_stray {token : Text} (nameless : ∀ name, token ≠ name ++ [':']) (rest : List Text) :
    readTokens (token :: rest) = .error (.notAPrefix token) :: readTokens rest := by
  have bare : Text.before? [':'] token = none := by
    cases found : Text.before? [':'] token with
    | none => rfl
    | some name => exact absurd (Text.before?_eq_some_iff.mp found) (nameless name)
  cases rest with
  | nil => simp [readTokens, bare]
  | cons next rest => simp [readTokens, bare]

theorem Accounts.readTokens_eq {items : List (Except Warning Declaration)} {tokens : List Text}
    (accounts : Accounts items tokens) : readTokens tokens = items := by
  induction items generalizing tokens with
  | nil =>
    rw [← accounts.taken]
    rfl
  | cons item items ih =>
    have later := ih accounts.rest
    rw [← accounts.taken, List.flatMap_cons]
    cases item with
    | ok declared =>
      have named : Text.before? [':'] (declared.name ++ [':']) = some declared.name :=
        Text.before?_eq_some_iff.mpr rfl
      simp [sources, Declaration.tokens, readTokens, named, later]
    | error warning =>
      obtain ⟨token, alone⟩ := accounts.single warning (List.mem_cons_self ..)
      cases warning with
      | notAPrefix stray =>
        have skipped := readTokens_stray (accounts.nameless stray (List.mem_cons_self ..))
          (items.flatMap sources)
        rw [later] at skipped
        exact skipped
      | prefixWithoutNamespace name =>
        have named : Text.before? [':'] (name ++ [':']) = some name := Text.before?_eq_some_iff.mpr rfl
        cases accounts.last name [] items rfl
        simp [sources, readTokens, named]
      | _ => cases alone

theorem read_eq_iff {value : Text} {items : List (Except Warning Declaration)} :
    read value = items ↔ Accounts items (Text.words value) := by
  constructor
  · intro same
    rw [← same]
    exact readTokens_accounts _
  · intro accounts
    exact accounts.readTokens_eq

structure Writable (declared : Declaration) : Prop where
  name : ∀ c ∈ declared.name, Text.isAsciiBlank c = false
  namespaceIri : IsRun declared.namespaceIri

theorem Writable.runs {declared : Declaration} (writable : declared.Writable) :
    ∀ token ∈ declared.tokens, IsRun token := by
  intro token present
  rcases List.mem_cons.mp present with rfl | second
  · refine ⟨by simp, ?_⟩
    intro c inside
    rcases List.mem_append.mp inside with name | colon
    · exact writable.name c name
    · cases List.mem_singleton.mp colon
      rfl
  · cases List.mem_singleton.mp second
    exact writable.namespaceIri

theorem accounts_ok (written : List Declaration) :
    Accounts (written.map .ok) (written.flatMap Declaration.tokens) := by
  induction written with
  | nil => exact .nothing
  | cons declared written ih => exact ih.pair declared

theorem read_written {written : List Declaration} {value : Text}
    (spaced : Spaced (written.flatMap Declaration.tokens) value) :
    declarations value = written ∧ warnings value = [] := by
  have items : read value = written.map .ok := by
    rw [read_eq_iff, spaced.words_eq]
    exact accounts_ok written
  unfold declarations warnings
  rw [items, List.filterMap_map, List.filterMap_map]
  exact ⟨List.filterMap_some, by simp⟩

-- All tokens of an attribute are in its declarations and warnings, in order, and each is there once; and
-- declarations are read as they were written, whatever blanks stand between their tokens.
theorem tokens_accounted (value : Text) :
    (∃ items, Accounts items (Text.words value) ∧
      Spaced (Text.words value) value ∧
      declarations value = items.filterMap Except.toOption ∧
      warnings value = items.filterMap warning?) ∧
    ∀ written : List Declaration, (∀ declared ∈ written, declared.Writable) → ∀ pieces tail,
      pieces.map Prod.snd = written.flatMap Declaration.tokens → Text.Gaps pieces tail →
        declarations (Text.spread pieces tail) = written ∧ warnings (Text.spread pieces tail) = [] := by
  refine ⟨⟨read value, readTokens_accounts _, Text.words_eq_iff.mp rfl, rfl, rfl⟩, ?_⟩
  intro written writable pieces tail same gaps
  have runs : ∀ token ∈ pieces.map Prod.snd, IsRun token := by
    intro token present
    rw [same] at present
    obtain ⟨declared, listed, inside⟩ := List.mem_flatMap.mp present
    exact (writable declared listed).runs token inside
  have spaced := Text.spaced_spread gaps runs
  rw [same] at spaced
  exact read_written spaced

-- A token that is no name shifts nothing: the one behind it is read as a name again.
example : declarations "x a: u b:".toList = [⟨"a".toList, "u".toList⟩] ∧
    warnings "x a: u b:".toList =
      [.notAPrefix "x".toList, .prefixWithoutNamespace "b".toList] := by decide

def colons : List Declaration := [⟨"a:b".toList, "u:v:".toList⟩, ⟨[], "w".toList⟩]

def colonPieces : List (Text × Text) :=
  [(" ".toList, "a:b:".toList), ("\t\n".toList, "u:v:".toList), ("\x0c".toList, ":".toList),
    ("\r ".toList, "w".toList)]

theorem colons_accounted :
    (∀ declared ∈ colons, declared.Writable) ∧
      colonPieces.map Prod.snd = colons.flatMap Declaration.tokens ∧ Text.Gaps colonPieces " ".toList ∧
      declarations (Text.spread colonPieces " ".toList) = colons ∧
      warnings (Text.spread colonPieces " ".toList) = [] := by
  have writable : ∀ declared ∈ colons, declared.Writable := by
    intro declared listed
    rcases List.mem_cons.mp listed with rfl | second
    · exact ⟨by simp [Text.isAsciiBlank], by decide, by simp [Text.isAsciiBlank]⟩
    · cases List.mem_singleton.mp second
      exact ⟨by simp, by decide, by simp [Text.isAsciiBlank]⟩
  have same : colonPieces.map Prod.snd = colons.flatMap Declaration.tokens := by decide
  have gaps : Text.Gaps colonPieces " ".toList := ⟨by decide, by decide, by decide⟩
  exact ⟨writable, same, gaps, (tokens_accounted []).2 colons writable colonPieces _ same gaps⟩

end Declaration
end Rdfa
