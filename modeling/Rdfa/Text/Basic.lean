-- Text as a list of characters and input as a list of bytes, with the small scanners every other
-- module shares. All of them know ASCII only; classes of Unicode have modules of their own.
namespace Rdfa

abbrev Text := List Char

abbrev Bytes := List UInt8

namespace Text

def isAsciiBlank (c : Char) : Bool :=
  c = ' ' || c = '\t' || c = '\n' || c = '\x0c' || c = '\r'

def asciiLower (text : Text) : Text := text.map Char.toLower

-- The part before the first `mark` and, if there is one, the part after it.
def cut (mark : Char) : Text → Text × Option Text
  | [] => ([], none)
  | c :: rest => if c = mark then ([], some rest) else (c :: (cut mark rest).1, (cut mark rest).2)

def after? : (lead text : Text) → Option Text
  | [], text => some text
  | _ :: _, [] => none
  | a :: lead, b :: text => if a = b then after? lead text else none

def before? (tail text : Text) : Option Text :=
  (after? tail.reverse text.reverse).map List.reverse

-- The word under way is kept in reverse.
def wordsFrom (word : Text) : Text → List Text
  | [] => if word.isEmpty then [] else [word.reverse]
  | c :: rest =>
    if isAsciiBlank c then
      if word.isEmpty then wordsFrom [] rest else word.reverse :: wordsFrom [] rest
    else wordsFrom (c :: word) rest

def words (text : Text) : List Text := wordsFrom [] text

def decimal (n : Nat) : Text := Nat.toDigits 10 n

theorem cut_append {mark : Char} {text rest : Text} (found : (cut mark text).2 = some rest) :
    (cut mark text).1 ++ mark :: rest = text := by
  induction text with
  | nil => simp [cut] at found
  | cons c text ih =>
    by_cases same : c = mark
    · simp_all [cut]
    · simp only [cut, same, if_false] at found ⊢
      simp [ih found]

theorem not_mem_cut (mark : Char) (text : Text) : mark ∉ (cut mark text).1 := by
  induction text with
  | nil => simp [cut]
  | cons c text ih =>
    by_cases same : c = mark
    · simp [cut, same]
    · simp [cut, same, ih, Ne.symm same]

theorem after?_append (lead text : Text) : after? lead (lead ++ text) = some text := by
  induction lead with
  | nil => rfl
  | cons c lead ih => simp [after?, ih]

theorem eq_append_of_after? {lead text rest : Text} (found : after? lead text = some rest) :
    text = lead ++ rest := by
  induction lead generalizing text with
  | nil => simpa [after?] using found
  | cons c lead ih =>
    cases text with
    | nil => simp [after?] at found
    | cons d text =>
      simp only [after?] at found
      split at found
      · next same => simp [same, ih found]
      · cases found

end Text
end Rdfa
