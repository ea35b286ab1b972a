import Rdfa.Proofs.Document.Reading
import Rdfa.Proofs.Markup.Sources

-- Where a flaw of the open elements is reported: at the first byte of the tag that shows it, counted from
-- the first byte that is read.
namespace Rdfa.Document

open Markup

def Flaw.isOfStack : Flaw → Bool
  | tooDeep _ | mismatched _ _ | unexpected _ => true
  | markup _ | attributes _ => false

-- The first letter of a message, which tells the flaws of the open elements from all others.
def Flaw.letter : Flaw → Char
  | markup (.unmatchedClosing _) | markup .namelessDoctype => 'i'
  | markup _ => 's'
  | attributes _ => 'p'
  | tooDeep _ => 'e'
  | mismatched _ _ => 'm'
  | unexpected _ => 'u'

theorem Flaw.head_message (flaw : Flaw) : flaw.message.head? = some flaw.letter := by
  cases flaw with
  | markup flaw => cases flaw <;> rfl
  | attributes flaw => cases flaw <;> rfl
  | tooDeep limit => rfl
  | mismatched expected found => rfl
  | unexpected found => rfl

theorem Flaw.isOfStack_iff (flaw : Flaw) :
    flaw.isOfStack = true ↔ flaw.letter ∈ ['e', 'm', 'u'] := by
  cases flaw with
  | markup flaw => cases flaw <;> simp [isOfStack, letter]
  | attributes flaw => simp [isOfStack, letter]
  | tooDeep limit => simp [isOfStack, letter]
  | mismatched expected found => simp [isOfStack, letter]
  | unexpected found => simp [isOfStack, letter]

theorem Flaw.isOfStack_of_message {flaw other : Flaw} (ofStack : flaw.isOfStack = true)
    (same : other.message = flaw.message) : other.isOfStack = true := by
  have letters : some other.letter = some flaw.letter := by
    rw [← head_message, same, head_message]
  rw [isOfStack_iff] at ofStack ⊢
  rwa [Option.some.inj letters]

inductive Flaw.Offends : Flaw → Token → Prop where
  | opening (limit : Nat) (tag : Tag) : Offends (.tooDeep limit) (.opening tag)
  | standalone (limit : Nat) (tag : Tag) : Offends (.tooDeep limit) (.standalone tag)
  | mismatched (expected found : Bytes) : Offends (.mismatched expected found) (.closing found)
  | unexpected (found : Bytes) : Offends (.unexpected found) (.closing found)

namespace Processor

variable {processing : Processing} {p : Processor} {refusal : Refusal} {item : Item}

theorem tooDeep_offends {tag : Tag} (starts : item.token.start? = some tag) (limit : Nat) :
    (Flaw.tooDeep limit).Offends item.token := by
  generalize item.token = token at starts
  cases token <;> cases starts
  case opening => exact .opening limit tag
  case standalone => exact .standalone limit tag

theorem step_error (failed : p.step processing item = .error refusal)
    (ofStack : refusal.malformation.flaw.isOfStack = true) :
    refusal.malformation.position = item.position ∧ refusal.malformation.flaw.Offends item.token := by
  cases starts : item.token.start? with
  | some tag =>
    rcases (step_eq_error_iff starts).mp failed with ⟨_, rfl⟩ | ⟨_, flaw, _, rfl⟩
    · exact ⟨rfl, tooDeep_offends starts _⟩
    · cases ofStack
  | none =>
    obtain ⟨name, closing, _, _, rfl⟩ := closing_of_refusal starts failed
    refine ⟨rfl, ?_⟩
    rw [closing]
    cases p.stack with
    | nil => exact .unexpected name
    | cons frame rest => exact .mismatched frame.name name

end Processor

-- A flaw that a tag shows and that is reported where the tag begins, behind `before`.
structure Malformation.Blames (malformation : Malformation) (before source : Bytes) : Prop where
  position : malformation.position = before.length
  tag : ∃ token, token.Written source ∧ malformation.flaw.Offends token

structure Malformation.PointsAt (malformation : Malformation) (processing : Processing) (base : Text)
    (before source : Bytes) : Prop extends malformation.Blames before source where
  sound : ((Reading.initial base).read processing before).malformation = none
  found : ((Reading.initial base).read processing (before ++ source)).malformation =
    some malformation

theorem Malformation.Blames.bracket {malformation : Malformation} {before source : Bytes}
    (blames : malformation.Blames before source) : source.head? = some 0x3C := by
  obtain ⟨token, written, offends⟩ := blames.tag
  generalize malformation.flaw = flaw at offends
  cases offends <;> cases written <;> rfl

namespace Reading

variable {processing : Processing} {base : Text} {r : Reading} {before source : Bytes}
  {malformation : Malformation}

structure Under (r : Reading) (before source : Bytes) : Prop where
  sound : r.malformation = none
  behind : r.lexer.Behind before source

theorem under_initial (base : Text) : (initial base).Under [] [] := ⟨rfl, Lexer.behind_initial⟩

inductive Advanced (before source : Bytes) (byte : UInt8) (r : Reading) : Prop where
  | sound {before' source' : Bytes} (same : before' ++ source' = before ++ (source ++ [byte]))
      (under : r.Under before' source') : Advanced before source byte r
  | flawed {malformation : Malformation} (found : r.malformation = some malformation)
      (shown : malformation.flaw.isOfStack = true → malformation.Blames before (source ++ [byte])) :
      Advanced before source byte r

theorem Under.take (under : r.Under before source) {byte : UInt8} {lexer : Lexer} {item : Item}
    (moved : Lexer.Moved before source byte lexer (some item)) :
    (Reading.take processing { r with lexer } item).Advanced before source byte := by
  unfold Reading.take
  split
  · next refusal failed =>
    refine .flawed rfl fun ofStack => ?_
    cases moved with
    | afterText _ => cases failed
    | completed written _ =>
      obtain ⟨position, offends⟩ := Processor.step_error failed ofStack
      exact ⟨position, _, written, offends⟩
  · cases moved with
    | afterText behind => exact .sound (List.append_assoc ..) ⟨under.sound, behind⟩
    | completed _ behind => exact .sound (List.append_nil _) ⟨under.sound, behind⟩

theorem Under.readByte (under : r.Under before source) (byte : UInt8) :
    (r.readByte processing byte).Advanced before source byte := by
  cases read : r.lexer.step byte with
  | error misread =>
    rw [readByte_of_error under.sound read]
    refine .flawed rfl fun ofStack => ?_
    cases ofStack
  | ok result =>
    rcases result with ⟨lexer, item⟩
    have moved := under.behind.step lexer item read
    rw [readByte_of_ok under.sound read]
    cases item with
    | some item => exact under.take moved
    | none =>
      cases moved with
      | longer behind => exact .sound rfl ⟨under.sound, behind⟩

theorem pointsAt_of_read {rest : Bytes}
    (under : ((initial base).read processing (before ++ source)).Under before source)
    (failed : ((initial base).read processing (before ++ source ++ rest)).malformation =
      some malformation)
    (ofStack : malformation.flaw.isOfStack = true) :
    ∃ before' source', before' ++ source' <+: before ++ source ++ rest ∧
      malformation.PointsAt processing base before' source' := by
  -- The induction is on what is left to read behind the token under way.
  induction rest generalizing before source with
  | nil =>
    rw [List.append_nil] at failed
    cases under.sound.symm.trans failed
  | cons byte rest ih =>
    have next : before ++ source ++ byte :: rest = before ++ (source ++ [byte]) ++ rest := by simp
    have read : ((initial base).read processing (before ++ source)).readByte processing byte =
        (initial base).read processing (before ++ (source ++ [byte])) := by
      rw [← List.append_assoc, read_append _ _ (before ++ source)]
      rfl
    have advanced : ((initial base).read processing (before ++ (source ++ [byte]))).Advanced
        before source byte := by
      rw [← read]
      exact under.readByte byte
    rw [next] at failed ⊢
    cases advanced with
    | sound same further =>
      rw [← same] at failed further ⊢
      exact ih further failed
    | flawed stopped shown =>
      rw [read_append, read_of_malformation stopped, stopped] at failed
      cases failed
      refine ⟨before, source ++ [byte], List.prefix_append _ _, shown ofStack, ?_, stopped⟩
      have sound := under.sound
      rw [read_append] at sound
      exact sound_of_read sound

theorem malformation_of_close (failed : (r.close processing).malformation = some malformation)
    (ofStack : malformation.flaw.isOfStack = true) : r.malformation = some malformation := by
  cases sound : r.malformation with
  | some first =>
    rw [close_of_malformation sound, sound] at failed
    exact failed
  | none =>
    cases closed : r.lexer.close with
    | error misread =>
      rw [close_of_error sound closed] at failed
      cases failed
      cases ofStack
    | ok item =>
      rw [close_of_ok sound closed, finishing_malformation] at failed
      cases item with
      | none => cases sound.symm.trans failed
      | some item =>
        obtain ⟨bytes, text⟩ := Lexer.text_of_close closed
        have taken : (r.take processing item).malformation = r.malformation := by
          simp only [take, Processor.step, text]
        cases sound.symm.trans (taken.symm.trans failed)

end Reading
end Rdfa.Document
