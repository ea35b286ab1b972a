import Rdfa.Document.Processor

-- Element names up to letter case, and the parts of a name that tell a void element.
namespace Rdfa
namespace Markup

theorem lowerByte_eq_colon {b : UInt8} : lowerByte b = 0x3A ↔ b = 0x3A := by
  unfold lowerByte
  split
  · next capital =>
    have low : 0x41 ≤ b.toNat := UInt8.le_iff_toNat_le.mp capital.1
    have high : b.toNat ≤ 0x5A := UInt8.le_iff_toNat_le.mp capital.2
    rw [← UInt8.toNat_inj, ← UInt8.toNat_inj, UInt8.toNat_add]
    simp only [UInt8.toNat_ofNat]
    omega
  · exact Iff.rfl

theorem sameLetters_iff {a b : Bytes} :
    sameLetters a b = true ↔ a.map lowerByte = b.map lowerByte := decide_eq_true_iff

theorem sameLetters_symm {a b : Bytes} (same : sameLetters a b = true) :
    sameLetters b a = true :=
  sameLetters_iff.mpr (sameLetters_iff.mp same).symm

theorem sameLetters_trans {a b c : Bytes} (left : sameLetters a b = true)
    (right : sameLetters b c = true) : sameLetters a c = true :=
  sameLetters_iff.mpr ((sameLetters_iff.mp left).trans (sameLetters_iff.mp right))

theorem map_localName (name : Bytes) :
    (localName name).map lowerByte = localName (name.map lowerByte) := by
  have colon : (fun b : UInt8 => decide (b ≠ 0x3A)) ∘ lowerByte = fun b => decide (b ≠ 0x3A) := by
    funext b
    simp only [Function.comp, ne_eq, lowerByte_eq_colon]
  unfold localName
  rw [List.dropWhile_map, colon]
  cases name.dropWhile (· ≠ 0x3A) with
  | nil => rfl
  | cons b rest => rfl

theorem sameLetters_localName {a b : Bytes} (same : sameLetters a b = true) :
    sameLetters (localName a) (localName b) = true := by
  rw [sameLetters_iff] at same ⊢
  rw [map_localName, map_localName, same]

theorem mem_colon_map {name : Bytes} : 0x3A ∈ name.map lowerByte ↔ 0x3A ∈ name := by
  simp only [List.mem_map, lowerByte_eq_colon, exists_eq_right]

theorem takeWhile_reverse {name : Bytes} (plain : 0x3A ∉ name) (before : Bytes) :
    (name.reverse ++ before).takeWhile (· ≠ 0x3A) = name.reverse ++ before.takeWhile (· ≠ 0x3A) := by
  refine List.takeWhile_append_of_pos fun b present => ?_
  have other : b ≠ 0x3A := fun same => plain (same ▸ List.mem_reverse.mp present)
  exact decide_eq_true other

theorem lastName_eq_localName {name : Bytes} (single : 0x3A ∉ localName name) :
    lastName name = localName name := by
  have parts := List.takeWhile_append_dropWhile (p := (· ≠ (0x3A : UInt8))) (l := name)
  unfold localName at single ⊢
  unfold lastName
  cases found : name.dropWhile (· ≠ 0x3A) with
  | nil =>
    rw [found] at single
    have whole := takeWhile_reverse single []
    simp only [List.append_nil, List.takeWhile_nil] at whole
    rw [whole, List.reverse_reverse]
  | cons colon rest =>
    rw [found] at single parts
    have isColon : colon = 0x3A := by
      have stopped := List.head?_dropWhile_not (· ≠ (0x3A : UInt8)) name
      rw [found] at stopped
      simpa using stopped
    rw [← parts, List.reverse_append, List.reverse_cons, List.append_assoc,
      takeWhile_reverse single]
    simp [isColon]

end Markup

namespace Document

theorem isVoid_sameLetters {a b : Bytes} (same : Markup.sameLetters a b = true)
    (void : isVoid a = true) : isVoid b = true := by
  simp only [isVoid, List.any_eq_true] at void ⊢
  obtain ⟨name, known, letters⟩ := void
  exact ⟨name, known, Markup.sameLetters_trans (Markup.sameLetters_symm same) letters⟩

theorem isVoid_no_colon {name : Bytes} (void : isVoid name = true) : 0x3A ∉ name := by
  simp only [isVoid, List.any_eq_true] at void
  obtain ⟨known, listed, letters⟩ := void
  have plain : ∀ known ∈ voidNames, 0x3A ∉ known := by decide
  rw [← Markup.mem_colon_map, Markup.sameLetters_iff.mp letters, Markup.mem_colon_map]
  exact plain known listed

-- A start tag is told by the part of its name after the first colon, an end tag by the part after the
-- last. For void elements it comes to the same.
theorem isVoid_lastName {name : Bytes} (void : isVoid (Markup.localName name) = true) :
    isVoid (Markup.lastName name) = true := by
  rw [Markup.lastName_eq_localName (isVoid_no_colon void)]
  exact void

end Document
end Rdfa
