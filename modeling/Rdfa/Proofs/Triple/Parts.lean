import Rdfa.Proofs.Triple.Reader

-- What each part of the reader finds: a part that is grammatical, which is all that it takes away, and
-- the same part again where the writer wrote one.
namespace Rdfa.NTriples

inductive Alphabet.Spells (a : Alphabet) : Text → Text → Prop where
  | nil : a.Spells [] []
  | plain {c : Char} {raw value : Text} (inside : c ≠ a.close) (plain : a.plain c = true)
      (more : a.Spells raw value) : a.Spells (c :: raw) (c :: value)
  | short {letter c : Char} {raw value : Text} (short : a.short letter = some c)
      (more : a.Spells raw value) : a.Spells ('\\' :: letter :: raw) (c :: value)
  | numbered {mark c : Char} {digits raw value : Text} (marked : mark = 'u' ∨ mark = 'U')
      (number : numbered? digits = some c) (more : a.Spells raw value) :
      a.Spells ('\\' :: mark :: (digits ++ raw)) (c :: value)

theorem isSome_digit?_of_number? {radix : Nat} {digits : Text} {code : Nat}
    (number : Entity.number? radix digits = some code) :
    ∀ d ∈ digits, (Entity.digit? radix d).isSome = true := by
  unfold Entity.number? at number
  split at number
  · cases number
  · generalize 0 = start at number
    induction digits generalizing start with
    | nil => simp
    | cons d digits ih =>
      rw [List.foldlM_cons] at number
      obtain ⟨next, read, more⟩ := Option.bind_eq_some_iff.mp number
      obtain ⟨value, digit, _⟩ := Option.map_eq_some_iff.mp read
      refine List.forall_mem_cons.mpr ⟨by rw [digit]; rfl, ?_⟩
      cases digits with
      | nil => simp
      | cons e digits => exact ih (by simp) next more

def isHexDigit (c : Char) : Bool := (Entity.digit? 16 c).isSome

theorem isHexDigit_of_numbered? {digits : Text} {c : Char} (number : numbered? digits = some c) :
    ∀ d ∈ digits, isHexDigit d = true := by
  obtain ⟨code, read, _⟩ := Option.bind_eq_some_iff.mp number
  exact isSome_digit?_of_number? read

theorem not_isBreak {p : Char → Bool} (newline : p '\n' = false) (carriage : p '\r' = false) {c : Char}
    (inside : p c = true) : isBreak c = false := by
  have first : c ≠ '\n' := by
    rintro rfl
    exact absurd inside (by simp [newline])
  have second : c ≠ '\r' := by
    rintro rfl
    exact absurd inside (by simp [carriage])
  simp [isBreak, first, second]

namespace Alphabet

variable {a : Alphabet} {text raw value rest : Text}

theorem spells_after (front : Text) {tail value : Text} {c : Char} {found : Option (Text × Text)}
    (further : ∀ value, found = some (value, rest) →
      ∃ raw, a.Spells raw value ∧ tail = raw ++ a.close :: rest)
    (spells : ∀ raw value, a.Spells raw value → a.Spells (front ++ raw) (c :: value))
    (read : (found.map fun r => (c :: r.1, r.2)) = some (value, rest)) :
    ∃ raw, a.Spells raw value ∧ front ++ tail = raw ++ a.close :: rest := by
  obtain ⟨⟨more, left⟩, known, same⟩ := Option.map_eq_some_iff.mp read
  cases same
  obtain ⟨raw, spelled, whole⟩ := further more known
  exact ⟨front ++ raw, spells raw more spelled, by rw [whole, List.append_assoc]⟩

theorem spells_of_read (read : a.read text = some (value, rest)) :
    ∃ raw, a.Spells raw value ∧ text = raw ++ a.close :: rest := by
  fun_induction Alphabet.read a text generalizing value with
  | case1 => cases read
  | case2 d₁ d₂ d₃ d₄ tail ih =>
    obtain ⟨c, number, read⟩ := Option.bind_eq_some_iff.mp read
    exact spells_after ['\\', 'u', d₁, d₂, d₃, d₄] (fun _ => ih)
      (fun _ _ more => .numbered (.inl rfl) number more) read
  | case3 d₁ d₂ d₃ d₄ d₅ d₆ d₇ d₈ tail ih =>
    obtain ⟨c, number, read⟩ := Option.bind_eq_some_iff.mp read
    exact spells_after ['\\', 'U', d₁, d₂, d₃, d₄, d₅, d₆, d₇, d₈] (fun _ => ih)
      (fun _ _ more => .numbered (.inr rfl) number more) read
  | case4 letter tail _ _ ih =>
    obtain ⟨c, short, read⟩ := Option.bind_eq_some_iff.mp read
    exact spells_after ['\\', letter] (fun _ => ih) (fun _ _ more => .short short more) read
  | case5 =>
    cases read
    exact ⟨[], .nil, rfl⟩
  | case6 c tail _ _ _ inside plain ih =>
    exact spells_after [c] (fun _ => ih) (fun _ _ more => .plain inside plain more) read
  | case7 => cases read

theorem read_cons {c : Char} (escape : c ≠ '\\') (inside : c ≠ a.close) (plain : a.plain c = true) :
    a.read (c :: text) = (a.read text).map fun r => (c :: r.1, r.2) := by
  rw [Alphabet.read.eq_def]
  split
  · simp at *
  · simp_all
  · simp_all
  · simp_all
  · simp_all

theorem read_short {letter c : Char} (short : a.short letter = some c) (four : letter ≠ 'u')
    (eight : letter ≠ 'U') :
    a.read ('\\' :: letter :: text) = (a.read text).map fun r => (c :: r.1, r.2) := by
  rw [Alphabet.read.eq_4 a letter text (by simp [four]) (by simp [eight]), short]
  rfl

theorem read_close (escape : a.close ≠ '\\') : a.read (a.close :: text) = some ([], text) := by
  rw [Alphabet.read.eq_def]
  split <;> simp_all

theorem read_plain (escape : a.close ≠ '\\')
    (own : ∀ c ∈ text, c ≠ '\\' ∧ c ≠ a.close ∧ a.plain c = true) :
    a.read (text ++ a.close :: rest) = some (text, rest) := by
  induction text with
  | nil => exact read_close escape
  | cons c text ih =>
    obtain ⟨⟨first, inside, plain⟩, later⟩ := List.forall_mem_cons.mp own
    rw [List.cons_append, read_cons first inside plain, ih later]
    rfl

-- An alphabet in which a line's end can stand neither for itself nor after a backslash.
structure Unbroken (a : Alphabet) : Prop where
  close : isBreak a.close = false
  plain : ∀ c, a.plain c = true → isBreak c = false
  short : ∀ letter c, a.short letter = some c → isBreak letter = false

theorem Spells.unbroken (unbroken : a.Unbroken) (spells : a.Spells raw value) :
    ∀ c ∈ raw, isBreak c = false := by
  induction spells with
  | nil => simp
  | plain _ plain _ ih => exact List.forall_mem_cons.mpr ⟨unbroken.plain _ plain, ih⟩
  | short short _ ih =>
    exact List.forall_mem_cons.mpr ⟨rfl, List.forall_mem_cons.mpr ⟨unbroken.short _ _ short, ih⟩⟩
  | @numbered mark c digits raw value marked number more ih =>
    refine List.forall_mem_cons.mpr ⟨rfl, List.forall_mem_cons.mpr ⟨?_, ?_⟩⟩
    · rcases marked with rfl | rfl <;> rfl
    · refine List.forall_mem_append.mpr ⟨fun d present => ?_, ih⟩
      exact not_isBreak (by decide) (by decide) (isHexDigit_of_numbered? number d present)

end Alphabet

theorem iri_unbroken : iri.Unbroken :=
  ⟨rfl, fun _ => not_isBreak (by decide) (by decide), fun _ _ short => nomatch short⟩

theorem string_unbroken : string.Unbroken := by
  refine ⟨rfl, fun _ => not_isBreak (by decide) (by decide), fun letter c short => ?_⟩
  have short : (shortened? letter).isSome = true := by
    rw [show shortened? letter = some c from short]
    rfl
  exact not_isBreak (p := fun letter => (shortened? letter).isSome) rfl rfl short

theorem iri_spells {raw value : Text} (spells : iri.Spells raw value) :
    '>' ∉ raw ∧ ((raw = value ∧ ∀ c ∈ value, isIriChar c = true) ∨ value.length < raw.length) := by
  induction spells with
  | nil => simp
  | @plain c raw value inside plain _ ih =>
    refine ⟨fun present => ?_, ?_⟩
    · rcases List.mem_cons.mp present with same | later
      · exact inside same.symm
      · exact ih.1 later
    rcases ih.2 with ⟨rfl, own⟩ | longer
    · exact .inl ⟨rfl, List.forall_mem_cons.mpr ⟨plain, own⟩⟩
    · exact .inr (Nat.succ_lt_succ longer)
  | short short => cases short
  | @numbered mark c digits raw value marked number _ ih =>
    have shorter : value.length ≤ raw.length := by
      rcases ih.2 with ⟨rfl, _⟩ | longer
      · exact Nat.le_refl _
      · exact Nat.le_of_lt longer
    refine ⟨?_, .inr (by simp only [List.length_cons, List.length_append]; omega)⟩
    have digits : '>' ∉ digits := fun present =>
      absurd (isHexDigit_of_numbered? number '>' present) (by decide)
    rcases marked with rfl | rfl <;> simp [digits, ih.1]

theorem eq_of_append_mark {mark : Char} {first second rest more : Text} (left : mark ∉ first)
    (same : first ++ mark :: rest = second ++ mark :: more) (short : second.length ≤ first.length) :
    first = second ∧ rest = more := by
  rcases List.append_eq_append_iff.mp same with ⟨between, longer, tail⟩ | ⟨between, longer, tail⟩
  · have empty : between = [] := by
      rw [longer, List.length_append] at short
      exact List.length_eq_zero_iff.mp (by omega)
    subst empty
    exact ⟨by simpa using longer.symm, by simpa using tail⟩
  · cases between with
    | nil => exact ⟨by simpa using longer, by simpa using tail.symm⟩
    | cons c between =>
      rw [List.cons_append, List.cons.injEq] at tail
      exact absurd (by rw [longer, ← tail.1]; simp) left

theorem iri_read_iff {text rest more : Text} :
    iri.read (text ++ '>' :: rest) = some (text, more) ↔
      (∀ c ∈ text, isIriChar c = true) ∧ more = rest := by
  constructor
  · intro read
    obtain ⟨raw, spells, whole⟩ := Alphabet.spells_of_read read
    obtain ⟨free, spelled⟩ := iri_spells spells
    have short : text.length ≤ raw.length := by
      rcases spelled with ⟨rfl, _⟩ | longer
      · exact Nat.le_refl _
      · exact Nat.le_of_lt longer
    obtain ⟨rfl, left⟩ := eq_of_append_mark free whole.symm short
    rcases spelled with ⟨_, own⟩ | longer
    · exact ⟨own, left⟩
    · exact absurd longer (Nat.lt_irrefl _)
  · rintro ⟨own, rfl⟩
    refine Alphabet.read_plain (by decide) fun c present => ?_
    have plain := own c present
    refine ⟨?_, ?_, plain⟩
    · rintro rfl
      exact absurd plain (by decide)
    · rintro rfl
      exact absurd plain (by decide)

theorem escaped_cases (c : Char) :
    (escaped c = [c] ∧ isStringChar c = true) ∨
      ∃ letter ∈ ['"', '\\', 'n', 'r', 't'],
        escaped c = ['\\', letter] ∧ shortened? letter = some c := by
  unfold escaped
  split
  · next same => subst same; exact .inr ⟨'"', by decide, rfl, rfl⟩
  · split
    · next same => subst same; exact .inr ⟨'\\', by decide, rfl, rfl⟩
    · split
      · next same => subst same; exact .inr ⟨'n', by decide, rfl, rfl⟩
      · split
        · next same => subst same; exact .inr ⟨'r', by decide, rfl, rfl⟩
        · split
          · next same => subst same; exact .inr ⟨'t', by decide, rfl, rfl⟩
          · next quote slash newline carriage _ =>
            exact .inl ⟨rfl, by simp [isStringChar, quote, slash, newline, carriage]⟩

theorem string_read_escaped (text rest : Text) :
    string.read (text.flatMap escaped ++ '"' :: rest) = some (text, rest) := by
  induction text with
  | nil => exact Alphabet.read_close (by decide)
  | cons c text ih =>
    rw [List.flatMap_cons, List.append_assoc]
    rcases escaped_cases c with ⟨same, own⟩ | ⟨letter, known, short, means⟩
    · have other : c ≠ '\\' ∧ c ≠ '"' := by
        constructor <;> · rintro rfl; exact absurd own (by decide)
      rw [same, List.singleton_append, Alphabet.read_cons other.1 other.2 own, ih]
      rfl
    · have wide : letter ≠ 'u' ∧ letter ≠ 'U' := by
        constructor <;> · rintro rfl; exact absurd known (by decide)
      rw [short]
      rw [List.cons_append, List.singleton_append, Alphabet.read_short means wide.1 wide.2, ih]
      rfl

theorem labelBody_leads (text : Text) : labelBody text <+: text := by
  have run : labelBody text <+: text.takeWhile fun c => isLabelChar c || c = '.' := by
    rw [← List.reverse_suffix, labelBody, List.reverse_reverse]
    exact List.dropWhile_suffix _
  exact run.trans (List.takeWhile_prefix _)

theorem labelBody_chars (text : Text) :
    ∀ c ∈ labelBody text, isLabelChar c = true ∨ c = '.' := by
  intro c present
  have inside : c ∈ text.takeWhile fun c => isLabelChar c || c = '.' :=
    List.mem_reverse.mp ((List.dropWhile_suffix _).subset (List.mem_reverse.mp present))
  simpa using List.all_eq_true.mp List.all_takeWhile c inside

theorem labelBody_last (text : Text) : (labelBody text).getLast? ≠ some '.' := by
  unfold labelBody
  rw [List.getLast?_reverse]
  intro dot
  have other := List.head?_dropWhile_not (· = '.')
    (text.takeWhile fun c => isLabelChar c || c = '.').reverse
  rw [dot] at other
  exact absurd other (by decide)

theorem label?_eq_some {text value rest : Text} (read : label? text = some (value, rest)) :
    isBlankNodeLabel value = true ∧ text = value ++ rest := by
  unfold label? at read
  split at read
  · next c tail =>
    split at read
    · next start =>
      cases read
      refine ⟨?_, ?_⟩
      · simpa [isBlankNodeLabel, start, labelBody_last tail] using labelBody_chars tail
      · exact congrArg (fun tail => '_' :: ':' :: c :: tail)
          (List.prefix_iff_eq_append.mp (labelBody_leads tail)).symm
    · cases read
  · cases read

theorem labelBody_append {body rest : Text}
    (chars : body.all (fun c => isLabelChar c || c = '.') = true) (last : body.getLast? ≠ some '.')
    (ends : ∀ c ∈ rest.head?, isLabelChar c = false ∧ c ≠ '.') : labelBody (body ++ rest) = body := by
  have empty : rest.takeWhile (fun c => isLabelChar c || c = '.') = [] := by
    cases rest with
    | nil => rfl
    | cons c rest =>
      obtain ⟨other, noDot⟩ := ends c rfl
      exact List.takeWhile_cons_of_neg (by simp [other, noDot])
  unfold labelBody
  rw [List.takeWhile_append_of_pos (List.all_eq_true.mp chars), empty, List.append_nil]
  cases reversed : body.reverse with
  | nil => simpa using reversed.symm
  | cons c front =>
    have whole : body = front.reverse ++ [c] := by simpa using congrArg List.reverse reversed
    have noDot : c ≠ '.' := by simpa [whole] using last
    rw [List.dropWhile_cons_of_neg (by simpa using noDot), whole, List.reverse_cons]

theorem label?_append {text rest : Text} (label : isBlankNodeLabel text = true)
    (ends : ∀ c ∈ rest.head?, isLabelChar c = false ∧ c ≠ '.') :
    label? (text ++ rest) = some (text, rest) := by
  unfold isBlankNodeLabel at label
  split at label
  · next c tail =>
    simp only [Bool.and_eq_true, decide_eq_true_eq] at label
    obtain ⟨⟨start, chars⟩, last⟩ := label
    simp [label?, start, labelBody_append chars last ends]
  · cases label

theorem label?_iff {text rest more : Text} (ends : ∀ c ∈ rest.head?, isLabelChar c = false ∧ c ≠ '.') :
    label? (text ++ rest) = some (text, more) ↔ isBlankNodeLabel text = true ∧ more = rest := by
  constructor
  · intro read
    obtain ⟨label, whole⟩ := label?_eq_some read
    exact ⟨label, (List.append_cancel_left whole).symm⟩
  · rintro ⟨label, rfl⟩
    exact label?_append label ends

theorem language?_eq_some {text value rest : Text} (read : language? text = some (value, rest)) :
    isLanguage value = true ∧ text = value ++ rest := by
  unfold language? at read
  dsimp only at read
  split at read
  · next grammatical =>
    cases read
    exact ⟨grammatical, List.takeWhile_append_dropWhile.symm⟩
  · cases read

theorem mem_of_mem_intercalate {mark c : Char} {parts : List Text} (other : c ≠ mark)
    (present : c ∈ [mark].intercalate parts) : ∃ part ∈ parts, c ∈ part := by
  induction parts with
  | nil => cases present
  | cons part parts ih =>
    cases parts with
    | nil => exact ⟨part, by simp, by simpa using present⟩
    | cons next parts =>
      rw [List.intercalate_cons_cons] at present
      rcases List.mem_append.mp present with inside | later
      · rcases List.mem_append.mp inside with here | between
        · exact ⟨part, List.mem_cons_self, here⟩
        · exact absurd (List.mem_singleton.mp between) other
      · obtain ⟨found, listed, here⟩ := ih later
        exact ⟨found, List.mem_cons_of_mem _ listed, here⟩

theorem isLanguageChar_of_isLanguage {text : Text} (language : isLanguage text = true) :
    ∀ c ∈ text, isLanguageChar c = true := by
  intro c present
  by_cases dash : c = '-'
  · simp [isLanguageChar, dash]
  · have whole : ['-'].intercalate (text.splitOn '-') = text := List.intercalate_splitOn '-'
    rw [← whole] at present
    obtain ⟨part, listed, here⟩ := mem_of_mem_intercalate dash present
    unfold isLanguage at language
    split at language
    · cases language
    · next first parts split =>
      simp only [Bool.and_eq_true, List.all_eq_true] at language
      rw [split] at listed
      rcases List.mem_cons.mp listed with rfl | later
      · simp [isLanguageChar, Char.isAlphanum, language.1.2 c here]
      · simp [isLanguageChar, (language.2 part later).2 c here]

theorem language?_append {text rest : Text} (language : isLanguage text = true)
    (ends : ∀ c ∈ rest.head?, isLanguageChar c = false) :
    language? (text ++ rest) = some (text, rest) := by
  have chars := isLanguageChar_of_isLanguage language
  have stop : rest.takeWhile isLanguageChar = [] ∧ rest.dropWhile isLanguageChar = rest := by
    cases rest with
    | nil => exact ⟨rfl, rfl⟩
    | cons c rest => simp [ends c rfl]
  simp [language?, List.takeWhile_append_of_pos chars, List.dropWhile_append_of_pos chars, stop,
    language]

theorem language?_iff {text rest more : Text} (ends : ∀ c ∈ rest.head?, isLanguageChar c = false) :
    language? (text ++ rest) = some (text, more) ↔ isLanguage text = true ∧ more = rest := by
  constructor
  · intro read
    obtain ⟨language, whole⟩ := language?_eq_some read
    exact ⟨language, (List.append_cancel_left whole).symm⟩
  · rintro ⟨language, rfl⟩
    exact language?_append language ends

end Rdfa.NTriples
