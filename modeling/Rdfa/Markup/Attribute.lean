import Rdfa.Markup.Token

-- The attributes of a start tag. Values may be quoted, bare or missing; a key may stand only once.
namespace Rdfa.Markup

structure Attribute where
  key : Bytes
  value : Bytes
deriving Repr, DecidableEq

-- Why a tag has no list of attributes. Offsets count from the first byte of the tag's content.
inductive AttributeFlaw where
  | duplicate (position earlier : Nat)
  | missingValue (position : Nat)
  | openQuote (position : Nat) (quote : UInt8)
deriving Repr, DecidableEq

def AttributeFlaw.message : AttributeFlaw → Text
  | duplicate position earlier => "position ".toList ++ Text.decimal position ++
      ": duplicated attribute, previous declaration at position ".toList ++ Text.decimal earlier
  | missingValue position => "position ".toList ++ Text.decimal position ++
      ": `=` must be followed by an attribute value".toList
  | openQuote position quote => "position ".toList ++ Text.decimal position ++
      ": missing closing quote `".toList ++ [Char.ofUInt8 quote] ++ "` in attribute value".toList

namespace Attribute

def readValue (size : Nat) (rest : Bytes) : Except AttributeFlaw (Bytes × Bytes) :=
  match rest.dropWhile isBlank with
  | [] => .error (.missingValue size)
  | b :: rest =>
    if b = 0x22 || b = 0x27 then
      match rest.dropWhile (· ≠ b) with
      | [] => .error (.openQuote size b)
      | _ :: after => .ok (rest.takeWhile (· ≠ b), after)
    else .ok (b :: rest.takeWhile (!isBlank ·), rest.dropWhile (!isBlank ·))

theorem readValue_length {size : Nat} {rest value after : Bytes}
    (read : readValue size rest = .ok (value, after)) : after.length ≤ rest.length := by
  have skipped := (List.dropWhile_sublist (l := rest) isBlank).length_le
  unfold readValue at read
  split at read
  · cases read
  · next b body found =>
    rw [found] at skipped
    split at read
    · split at read
      · cases read
      · next _ tail closed =>
        have inner := (List.dropWhile_sublist (l := body) (· ≠ b)).length_le
        rw [closed] at inner
        simp only [Except.ok.injEq, Prod.mk.injEq] at read
        simp only [List.length_cons] at skipped inner
        rw [← read.2]
        omega
    · simp only [Except.ok.injEq, Prod.mk.injEq] at read
      have inner := (List.dropWhile_sublist (l := body) (!isBlank ·)).length_le
      simp only [List.length_cons] at skipped
      rw [← read.2]
      omega

def endsKey (b : UInt8) : Bool := b = 0x3D || isBlank b

-- The attributes in `unread`, the last part of a content of `size` bytes; `seen` has the keys so
-- far with their offsets. The first byte of a key is taken whatever it is.
def scan (size : Nat) (seen : List (Bytes × Nat)) (unread : Bytes) :
    Except AttributeFlaw (List Attribute) :=
  match _found : unread.dropWhile isBlank with
  | [] => .ok []
  | b :: more =>
    let key := b :: more.takeWhile (!endsKey ·)
    let position := size - (more.length + 1)
    match seen.lookup key with
    | some earlier => .error (.duplicate position earlier)
    | none =>
      match _after : (more.dropWhile (!endsKey ·)).dropWhile isBlank with
      | 0x3D :: body =>
        match _read : readValue size body with
        | .error flaw => .error flaw
        | .ok (value, rest) => (scan size ((key, position) :: seen) rest).map (⟨key, value⟩ :: ·)
      | rest => (scan size ((key, position) :: seen) rest).map (⟨key, []⟩ :: ·)
termination_by unread.length
decreasing_by
  all_goals
    have skipped := (List.dropWhile_sublist (l := unread) isBlank).length_le
    rw [_found] at skipped
    have named := (List.dropWhile_sublist (l := more) (!endsKey ·)).length_le
    have spaced := (List.dropWhile_sublist (l := more.dropWhile (!endsKey ·)) isBlank).length_le
    rw [_after] at spaced
    simp only [List.length_cons] at skipped spaced
  · have valued := readValue_length _read
    omega
  · omega

end Attribute

def Tag.attributes (tag : Tag) : Except AttributeFlaw (List Attribute) :=
  Attribute.scan tag.content.length [] (tag.content.drop tag.name.length)

end Rdfa.Markup
