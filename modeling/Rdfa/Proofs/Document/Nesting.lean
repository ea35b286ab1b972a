import Rdfa.Proofs.Document.Positions
import Rdfa.Proofs.Document.Sound
import Rdfa.Proofs.Document.Steps
import Rdfa.Proofs.Markup.Nesting

-- Two readings of the same bytes, one of them with a start tag fewer that waits for its end tag. They make the
-- same known until the one with fewer meets an end tag for which none is left.
namespace Rdfa.Document

open Markup

namespace Processor

variable {processing : Processing} {p : Processor} {item item' : Item}

-- Where a token stands matters for reports of flaws only.
theorem step_anywhere (same : item'.token = item.token) {result : Processor × List Emission}
    (stepped : p.step processing item = .ok result) : p.step processing item' = .ok result := by
  unfold step at stepped ⊢
  rw [same]
  cases token : item.token <;> rw [token] at stepped
  case opening tag =>
    dsimp only at stepped ⊢
    split at stepped
    · next void =>
      rw [if_pos void]
      simp only [thenClose_eq_ok_iff, openElement_eq_ok_iff] at stepped ⊢
      exact stepped
    · next void =>
      rw [if_neg void]
      exact openElement_eq_ok_iff.mpr (openElement_eq_ok_iff.mp stepped)
  case standalone tag =>
    simp only [thenClose_eq_ok_iff, openElement_eq_ok_iff] at stepped ⊢
    exact stepped
  case closing name => exact closeElement_eq_ok_iff.mpr (closeElement_eq_ok_iff.mp stepped)
  case text bytes => exact stepped
  case cdata bytes => exact stepped
  case aside => exact stepped

end Processor

namespace Reading

variable {processing : Processing} {r low : Reading}

structure Lowered (r low : Reading) : Prop where
  sound : r.malformation = none
  lowSound : low.malformation = none
  lexer : r.lexer.Lowered low.lexer
  processor : low.processor = r.processor
  sent : low.sent = r.sent

-- An end tag was read for which no start tag was left.
def Unmatched (r : Reading) : Prop :=
  ∃ position name, r.malformation = some ⟨position, .markup (.unmatchedClosing name)⟩

def Spare (processing : Processing) (r : Reading) (bytes : Bytes) : Prop :=
  ∀ early, early <+: bytes → (r.read processing early).lexer.nesting ≠ 0

theorem spare_nil : r.Spare processing [] ↔ r.lexer.nesting ≠ 0 := by
  constructor
  · intro spare
    exact spare [] List.nil_prefix
  · intro here early inside
    rw [List.prefix_nil.mp inside]
    exact here

theorem spare_cons {byte : UInt8} {rest : Bytes} :
    r.Spare processing (byte :: rest) ↔
      r.lexer.nesting ≠ 0 ∧ (r.readByte processing byte).Spare processing rest := by
  constructor
  · intro spare
    refine ⟨spare [] (List.nil_prefix), ?_⟩
    intro early inside
    exact spare (byte :: early) (List.cons_prefix_cons.mpr ⟨rfl, inside⟩)
  · rintro ⟨here, later⟩ early inside
    rcases List.prefix_cons_iff.mp inside with rfl | ⟨tail, rfl, further⟩
    · exact here
    · exact later tail further

namespace Lowered

theorem waits (lowered : r.Lowered low) : r.lexer.nesting ≠ 0 := by
  have more := lowered.lexer.nesting
  omega

theorem take {item item' : Item} (lowered : r.Lowered low) (same : item'.token = item.token)
    (sound : (r.take processing item).malformation = none) :
    (r.take processing item).Lowered (low.take processing item') := by
  cases stepped : r.processor.step processing item with
  | error refusal =>
    simp only [Reading.take, stepped] at sound
    cases sound
  | ok result =>
    have alike := Processor.step_anywhere same stepped
    simp only [Reading.take, stepped, lowered.processor, alike, lowered.sent]
    exact ⟨lowered.sound, lowered.lowSound, lowered.lexer, rfl, rfl⟩

theorem takeAny {item item' : Option Item} (lowered : r.Lowered low)
    (same : item'.map (·.token) = item.map (·.token))
    (sound : (item.elim r (r.take processing)).malformation = none) :
    (item.elim r (r.take processing)).Lowered (item'.elim low (low.take processing)) := by
  cases item with
  | none =>
    cases Option.map_eq_none_iff.mp same
    exact lowered
  | some item =>
    obtain ⟨other, rfl, token⟩ := Option.map_eq_some_iff.mp same
    exact lowered.take token sound

theorem readByte (lowered : r.Lowered low) {byte : UInt8}
    (sound : (r.readByte processing byte).malformation = none) :
    (r.readByte processing byte).Lowered (low.readByte processing byte) ∨
      (r.readByte processing byte).lexer.nesting = 0 ∧
        (low.readByte processing byte).Unmatched := by
  have steps := lowered.lexer.step byte
  generalize read : r.lexer.step byte = step, lowRead : low.lexer.step byte = lowStep at steps
  cases steps with
  | flawed misread _ =>
    rw [readByte_of_error lowered.sound read] at sound
    cases sound
  | @unmatched next item last position name =>
    refine .inr ⟨?_, position, name, ?_⟩
    · rw [readByte_of_ok lowered.sound read]
      cases item with
      | none => exact last
      | some item => exact (congrArg Lexer.nesting (take_lexer _ item)).trans last
    · rw [readByte_of_error lowered.lowSound lowRead]
      rfl
  | @alike next lowNext item item' lexers same =>
    rw [readByte_of_ok lowered.sound read] at sound
    rw [readByte_of_ok lowered.sound read, readByte_of_ok lowered.lowSound lowRead]
    have further : ({ r with lexer := next } : Reading).Lowered { low with lexer := lowNext } :=
      ⟨lowered.sound, lowered.lowSound, lexers, lowered.processor, lowered.sent⟩
    exact .inl (further.takeAny same sound)

theorem read (lowered : r.Lowered low) {bytes : Bytes}
    (sound : (r.read processing bytes).malformation = none) :
    r.Spare processing bytes ∧ (r.read processing bytes).Lowered (low.read processing bytes) ∨
      ¬ r.Spare processing bytes ∧ (low.read processing bytes).Unmatched := by
  -- The induction is on the bytes; what carries it is that one of the readings has a start tag fewer.
  induction bytes generalizing r low with
  | nil => exact .inl ⟨spare_nil.mpr lowered.waits, lowered⟩
  | cons byte rest ih =>
    have here : (r.readByte processing byte).malformation = none := sound_of_read sound
    rcases lowered.readByte here with further | ⟨last, position, name, failed⟩
    · rcases ih further sound with ⟨spare, alike⟩ | ⟨exhausted, unmatched⟩
      · exact .inl ⟨spare_cons.mpr ⟨lowered.waits, spare⟩, alike⟩
      · exact .inr ⟨fun spare => exhausted (spare_cons.mp spare).2, unmatched⟩
    · refine .inr ⟨?_, position, name, ?_⟩
      · intro spare
        exact (spare_cons.mp spare).2 [] List.nil_prefix last
      · show ((low.readByte processing byte).read processing rest).malformation = _
        rw [read_of_malformation failed, failed]

theorem close (lowered : r.Lowered low) (sound : (r.close processing).malformation = none) :
    (low.close processing).malformation = none ∧
      (low.close processing).sent = (r.close processing).sent := by
  cases closed : r.lexer.close with
  | error misread =>
    rw [close_of_error lowered.sound closed] at sound
    cases sound
  | ok item =>
    obtain ⟨item', lowClosed, same⟩ := lowered.lexer.close closed
    rw [close_of_ok lowered.sound closed] at sound
    rw [close_of_ok lowered.sound closed, close_of_ok lowered.lowSound lowClosed]
    rw [finishing_malformation] at sound ⊢
    have last := lowered.takeAny same sound
    refine ⟨last.lowSound, ?_⟩
    unfold finishing
    rw [last.sound, last.lowSound]
    show List.reverse _ ++ _ = List.reverse _ ++ _
    rw [last.processor, last.sent]

end Lowered

end Reading
end Rdfa.Document
