import Rdfa.Text.Utf8

-- Well-formed bytes: those of a text, which are read as that text whatever stood before them.
namespace Rdfa.Utf8

def encode (text : Text) : Bytes := text.flatMap String.utf8EncodeChar

theorem encode_append (first second : Text) :
    encode (first ++ second) = encode first ++ encode second := List.flatMap_append

namespace Decoder

variable {d : Decoder}

theorem step_lead (ready : d.underWay = none) {b : Nat} (small : b < 256) :
    d.step (UInt8.ofNat b) = d.lead b := by
  simp only [step, ready, UInt8.toNat_ofNat', Nat.mod_eq_of_lt small]

theorem lead_two {b : Nat} (least : 0xC2 ≤ b) (most : b < 0xE0) : d.lead b = d.await (b - 0xC0) 1 := by
  have ascii : ¬ b < 0x80 := by omega
  simp [lead, ascii, Nat.not_lt.mpr least, most]

-- The second byte is bounded further where a shorter form or a surrogate would be meant.
theorem lead_three {b : Nat} (least : 0xE0 ≤ b) (most : b < 0xF0) :
    d.lead b = d.await (b - 0xE0) 2 (if b = 0xE0 then 0xA0 else 0x80)
      (if b = 0xED then 0x9F else 0xBF) := by
  have shorter : ¬ b < 0x80 ∧ ¬ b < 0xC2 ∧ ¬ b < 0xE0 := by omega
  by_cases first : b = 0xE0
  · simp [lead, first]
  · by_cases surrogate : b = 0xED
    · simp [lead, surrogate]
    · simp [lead, shorter, first, surrogate, most]

theorem lead_four {b : Nat} (least : 0xF0 ≤ b) (most : b ≤ 0xF4) :
    d.lead b = d.await (b - 0xF0) 3 (if b = 0xF0 then 0x90 else 0x80)
      (if b = 0xF4 then 0x8F else 0xBF) := by
  have shorter : ¬ b < 0x80 ∧ ¬ b < 0xC2 ∧ ¬ b < 0xE0 ∧ b ≠ 0xE0 ∧ b ≠ 0xED ∧ ¬ b < 0xF0 := by omega
  by_cases first : b = 0xF0
  · simp [lead, first]
  · by_cases last : b = 0xF4
    · simp [lead, last]
    · have middle : b < 0xF4 := by omega
      simp [lead, shorter, first, last, middle]

theorem step_more {value missing low high b : Nat} (small : b < 256) (least : low ≤ b) (most : b ≤ high)
    (more : 1 < missing) :
    (d.await value missing low high).step (UInt8.ofNat b) =
      d.await (value * 64 + (b - 0x80)) (missing - 1) := by
  simp [step, await, Nat.mod_eq_of_lt small, least, most, Nat.not_le.mpr more]

theorem step_last {value low high b : Nat} (small : b < 256) (least : low ≤ b) (most : b ≤ high) :
    (d.await value 1 low high).step (UInt8.ofNat b) = d.put (Char.ofNat (value * 64 + (b - 0x80))) := by
  simp [step, await, put, Nat.mod_eq_of_lt small, least, most]

theorem put_ready (c : Char) : (d.put c).underWay = none := rfl

theorem foldl_encodeChar (ready : d.underWay = none) (c : Char) :
    (String.utf8EncodeChar c).foldl step d = d.put c := by
  have valid : c.val.toNat < 0xD800 ∨ 0xDFFF < c.val.toNat ∧ c.val.toNat < 0x110000 := c.valid
  have whole : Char.ofNat c.val.toNat = c := c.ofNat_toNat
  -- The cases are the lengths of the forms.
  unfold String.utf8EncodeChar
  generalize c.val.toNat = v at valid whole ⊢
  dsimp only
  split
  · next short =>
    have ascii : v < 0x80 := by omega
    rw [List.foldl_cons, List.foldl_nil, step_lead ready (by omega), lead, if_pos ascii, whole]
  · split
    · next long short =>
      have value : (v / 64 % 32 + 192 - 0xC0) * 64 + (v % 64 + 128 - 0x80) = v := by omega
      rw [List.foldl_cons, step_lead ready (by omega), lead_two (by omega) (by omega), List.foldl_cons,
        step_last (by omega) (by omega) (by omega), value, whole, List.foldl_nil]
    · split
      · next long short =>
        have value : ((v / 4096 % 16 + 224 - 0xE0) * 64 + (v / 64 % 64 + 128 - 0x80)) * 64 +
            (v % 64 + 128 - 0x80) = v := by omega
        rw [List.foldl_cons, step_lead ready (by omega), lead_three (by omega) (by omega),
          List.foldl_cons, step_more (by omega) (by split <;> omega) (by split <;> omega) (by omega),
          List.foldl_cons, step_last (by omega) (by omega) (by omega), value, whole, List.foldl_nil]
      · next long =>
        have value : (((v / 262144 % 8 + 240 - 0xF0) * 64 + (v / 4096 % 64 + 128 - 0x80)) * 64 +
            (v / 64 % 64 + 128 - 0x80)) * 64 + (v % 64 + 128 - 0x80) = v := by omega
        rw [List.foldl_cons, step_lead ready (by omega), lead_four (by omega) (by omega),
          List.foldl_cons, step_more (by omega) (by split <;> omega) (by split <;> omega) (by omega),
          List.foldl_cons, step_more (by omega) (by omega) (by omega) (by omega),
          List.foldl_cons, step_last (by omega) (by omega) (by omega), value, whole, List.foldl_nil]

theorem foldl_encode (ready : d.underWay = none) (text : Text) :
    (encode text).foldl step d = { d with text := text.reverse ++ d.text } := by
  induction text generalizing d with
  | nil => rfl
  | cons c rest ih =>
    rw [encode, List.flatMap_cons, List.foldl_append, foldl_encodeChar ready c]
    refine (ih (d.put_ready c)).trans ?_
    simp [put, ready]

end Decoder

theorem decode_encode (text : Text) : decode (encode text) = text := by
  have read : decoded (encode text) = ⟨none, text.reverse ++ [], true⟩ := by
    rw [decoded, Decoder.foldl_encode rfl]
    rfl
  rw [decode, read, List.append_nil, List.reverse_reverse]

end Rdfa.Utf8
