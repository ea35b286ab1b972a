import Mathlib.Data.List.Induction
import Mathlib.Tactic.SplitIfs
import Rdfa.Element.Attributes
import Rdfa.Proofs.Text.Utf8

-- References in a text are decoded one by one: what stands before one plays no part, and neither does what
-- another gave. So text that was escaped is decoded to what it was.
namespace Rdfa

namespace Entity

def Bare (name : Text) : Prop := '&' ∉ name ∧ ';' ∉ name

instance : DecidablePred Bare := fun name => inferInstanceAs (Decidable ('&' ∉ name ∧ ';' ∉ name))

-- What a reference is decoded to: a character, or itself where it names none.
def reference (name : Text) : Text :=
  match expand? name with
  | some c => [c]
  | none => '&' :: name ++ [';']

-- Nothing is left open: no ampersand stands after the last semicolon, and none at all where there is
-- no semicolon.
def Settled (text : Text) : Prop := '&' ∉ text.reverse.takeWhile (· ≠ ';')

instance : DecidablePred Settled := fun text =>
  inferInstanceAs (Decidable ('&' ∉ text.reverse.takeWhile (· ≠ ';')))

def escaped (c : Char) : Text :=
  if c = '&' then "&amp;".toList
  else if c = '<' then "&lt;".toList
  else if c = '>' then "&gt;".toList
  else if c = '"' then "&quot;".toList
  else if c = '\x27' then "&apos;".toList
  else [c]

def escape (text : Text) : Text := text.flatMap escaped

namespace Decoder

variable {name : Text}

def finish (d : Decoder) (text : Text) : Text := (text.foldl step d).settle.text.reverse

def after (d : Decoder) (earlier : Text) : Decoder := { d with text := d.text ++ earlier }

theorem step_after (d : Decoder) (earlier : Text) (c : Char) :
    (d.after earlier).step c = (d.step c).after earlier := by
  obtain ⟨_ | name, made⟩ := d
  · by_cases ampersand : c = '&'
    · simp [after, step, ampersand]
    · simp [after, step, ampersand]
  · by_cases semicolon : c = ';'
    · cases resolved : expand? name.reverse <;> simp [after, step, semicolon, resolved]
    · by_cases ampersand : c = '&'
      · simp [after, step, ampersand]
      · simp [after, step, semicolon, ampersand]

theorem foldl_after (text : Text) (d : Decoder) (earlier : Text) :
    text.foldl step (d.after earlier) = (text.foldl step d).after earlier := by
  induction text generalizing d with
  | nil => rfl
  | cons c rest ih => rw [List.foldl_cons, List.foldl_cons, step_after, ih]

theorem settle_after (d : Decoder) (earlier : Text) :
    (d.after earlier).settle = d.settle.after earlier := by
  obtain ⟨_ | name, made⟩ := d
  · rfl
  · simp [after, settle]

theorem finish_after (d : Decoder) (earlier text : Text) :
    (d.after earlier).finish text = earlier.reverse ++ d.finish text := by
  rw [finish, foldl_after, settle_after, after, List.reverse_append, finish]

theorem foldl_name (bare : Bare name) (seen made : Text) :
    name.foldl step ⟨some seen, made⟩ = ⟨some (name.reverse ++ seen), made⟩ := by
  induction name generalizing seen with
  | nil => rfl
  | cons c rest ih =>
    simp only [Bare, List.mem_cons, not_or] at bare
    obtain ⟨⟨ampersand, restless⟩, semicolon, unended⟩ := bare
    have grown : step ⟨some seen, made⟩ c = ⟨some (c :: seen), made⟩ := by
      simp [step, Ne.symm ampersand, Ne.symm semicolon]
    rw [List.foldl_cons, grown, ih ⟨restless, unended⟩]
    simp

theorem finish_name (bare : Bare name) (rest : Text) :
    finish ⟨some [], []⟩ (name ++ rest) = finish ⟨some name.reverse, []⟩ rest := by
  rw [finish, List.foldl_append, foldl_name bare, List.append_nil, finish]

theorem finish_closed (made text : Text) : finish ⟨none, made⟩ text = made.reverse ++ decode text :=
  finish_after initial made text

end Decoder

open Decoder

variable {name : Text}

theorem decode_cons {c : Char} (plain : c ≠ '&') (rest : Text) : decode (c :: rest) = c :: decode rest := by
  have read : decode (c :: rest) = finish ⟨none, [c]⟩ rest := by simp [decode, finish, initial, step, plain]
  rw [read, finish_closed]
  rfl

theorem decode_ampersand (rest : Text) : decode ('&' :: rest) = finish ⟨some [], []⟩ rest := rfl

theorem decode_reference (bare : Bare name) (rest : Text) :
    decode ('&' :: name ++ ';' :: rest) = reference name ++ decode rest := by
  have ended : finish ⟨some name.reverse, []⟩ (';' :: rest) =
      finish ⟨none, (reference name).reverse⟩ rest := by
    cases resolved : expand? name <;> simp [finish, step, reference, resolved]
  rw [List.cons_append, decode_ampersand, finish_name bare, ended, finish_closed, List.reverse_reverse]

theorem decode_stray (bare : Bare name) (rest : Text) :
    decode ('&' :: name ++ '&' :: rest) = '&' :: name ++ decode ('&' :: rest) := by
  have again : finish ⟨some name.reverse, []⟩ ('&' :: rest) =
      finish ((Decoder.mk (some []) []).after (name.reverse ++ ['&'])) rest := by
    simp [finish, step, after]
  rw [List.cons_append, decode_ampersand, finish_name bare, again, finish_after, decode_ampersand]
  simp

theorem decode_unended (bare : Bare name) : decode ('&' :: name) = '&' :: name := by
  have kept : finish ⟨some name.reverse, []⟩ [] = '&' :: name := by simp [finish, settle]
  rw [decode_ampersand, ← name.append_nil, finish_name bare, List.append_nil, kept]

theorem step_semicolon (d : Decoder) : (d.step ';').opened = none := by
  obtain ⟨_ | name, made⟩ := d
  · rfl
  · cases resolved : expand? name.reverse <;> simp [step, resolved]

-- Text that leaves nothing open is decoded apart from what follows. The induction is on the last
-- character: a semicolon closes whatever was open, and another one leaves open what was.
theorem opened_of_settled {text : Text} (settled : Settled text) :
    (text.foldl step initial).opened = none := by
  induction text using List.reverseRecOn with
  | nil => rfl
  | append_singleton text c ih =>
    rw [List.foldl_append, List.foldl_cons, List.foldl_nil]
    by_cases semicolon : c = ';'
    · rw [semicolon, step_semicolon]
    · simp only [Settled, List.reverse_append, List.reverse_singleton, List.singleton_append,
        List.takeWhile_cons, ne_eq, semicolon, not_false_eq_true, decide_true, if_true, List.mem_cons,
        not_or] at settled
      simp [step, ih settled.2, Ne.symm settled.1]

theorem decode_append {text : Text} (settled : Settled text) (rest : Text) :
    decode (text ++ rest) = decode text ++ decode rest := by
  obtain ⟨made, read⟩ : ∃ made, text.foldl step initial = ⟨none, made⟩ :=
    ⟨_, congrArg (Decoder.mk · _) (opened_of_settled settled)⟩
  have first : decode text = made.reverse := by rw [decode, read, settle]
  have both : decode (text ++ rest) = finish ⟨none, made⟩ rest := by
    rw [decode, finish, List.foldl_append, read]
  rw [both, finish_closed, first]

theorem decode_escaped (c : Char) (rest : Text) : decode (escaped c ++ rest) = c :: decode rest := by
  have predefined (name : Text) {c : Char} (bare : Bare name) (known : expand? name = some c) :
      decode ('&' :: name ++ ';' :: rest) = c :: decode rest := by
    rw [decode_reference bare, reference, known]
    rfl
  unfold escaped
  split_ifs with ampersand less greater quote apostrophe
  · exact ampersand ▸ predefined ['a', 'm', 'p'] (by simp [Bare]) rfl
  · exact less ▸ predefined ['l', 't'] (by simp [Bare]) rfl
  · exact greater ▸ predefined ['g', 't'] (by simp [Bare]) rfl
  · exact quote ▸ predefined ['q', 'u', 'o', 't'] (by simp [Bare]) rfl
  · exact apostrophe ▸ predefined ['a', 'p', 'o', 's'] (by simp [Bare]) rfl
  · exact decode_cons ampersand rest

theorem decode_escape (text : Text) : decode (escape text) = text := by
  induction text with
  | nil => rfl
  | cons c rest ih => rw [escape, List.flatMap_cons, decode_escaped, ← escape, ih]

end Entity

namespace Element

open Entity (Bare Settled escape expand?)
open Utf8 (encode)

-- What is decoded is decoded once, and each part of a text on its own: a reference that names nothing
-- and an ampersand that begins none stay as they were, and what stands around them is decoded as it would
-- be without them.
theorem decodeText_piecewise :
    (∀ text, decodeText (encode (escape text)) = text) ∧
    (∀ first second, Settled first → decodeText (encode first ++ encode second) =
      decodeText (encode first) ++ decodeText (encode second)) ∧
    (∀ before name rest, Settled before → Bare name → expand? name = none →
      decodeText (encode (before ++ '&' :: name ++ ';' :: rest)) =
        decodeText (encode before) ++ '&' :: name ++ ';' :: decodeText (encode rest)) ∧
    (∀ before name rest, Settled before → Bare name →
      decodeText (encode (before ++ '&' :: name ++ '&' :: rest)) =
        decodeText (encode before) ++ '&' :: name ++ decodeText (encode ('&' :: rest))) ∧
    (∀ before name, Settled before → Bare name →
      decodeText (encode (before ++ '&' :: name)) = decodeText (encode before) ++ '&' :: name) := by
  have read (text : Text) : decodeText (encode text) = Entity.decode text :=
    congrArg Entity.decode (Utf8.decode_encode text)
  simp only [← Utf8.encode_append, read]
  refine ⟨Entity.decode_escape, fun first second settled => Entity.decode_append settled second, ?_, ?_, ?_⟩
  · intro before name rest settled bare unknown
    have kept : Entity.reference name = '&' :: name ++ [';'] := by rw [Entity.reference, unknown]
    rw [List.append_assoc, Entity.decode_append settled, Entity.decode_reference bare, kept]
    simp
  · intro before name rest settled bare
    rw [List.append_assoc, Entity.decode_append settled, Entity.decode_stray bare, List.append_assoc]
  · intro before name settled bare
    rw [Entity.decode_append settled, Entity.decode_unended bare]

theorem decodeText_neighbours :
    decodeText (encode (escape "&lt; é".toList)) = "&lt; é".toList ∧
    Settled "é&#x;&amp;lt;".toList ∧
    decodeText (encode "é&#x;&amp;lt;".toList ++ encode "&gt;&amp".toList) =
      "é&#x;&lt;>&amp".toList ∧
    Settled "&lt;".toList ∧ Bare "nowhere".toList ∧ expand? "nowhere".toList = none ∧
    decodeText (encode ("&lt;".toList ++ '&' :: "nowhere".toList ++ ';' :: "&gt;".toList)) =
      "<&nowhere;>".toList ∧
    decodeText (encode ("&lt;".toList ++ '&' :: "nowhere".toList ++ '&' :: "gt;".toList)) =
      "<&nowhere>".toList ∧
    decodeText (encode ("&lt;".toList ++ '&' :: "nowhere".toList)) = "<&nowhere".toList := by
  have settled : Settled "é&#x;&amp;lt;".toList ∧ Settled "&lt;".toList := by decide +kernel
  have bare : Bare "nowhere".toList := by decide +kernel
  have unknown : expand? "nowhere".toList = none := by decide +kernel
  obtain ⟨escaping, apart, unresolved, stray, unended⟩ := decodeText_piecewise
  refine ⟨escaping _, settled.1, (apart _ _ settled.1).trans ?_, settled.2, bare, unknown,
    (unresolved _ _ _ settled.2 bare unknown).trans ?_, (stray _ _ _ settled.2 bare).trans ?_,
    (unended _ _ settled.2 bare).trans ?_⟩
  all_goals decide +kernel

end Element
end Rdfa
