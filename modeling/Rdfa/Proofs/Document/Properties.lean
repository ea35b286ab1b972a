import Rdfa.Proofs.Document.Chronicle
import Rdfa.Proofs.Extractor.Whole

-- What the elements of a document say of themselves by `property`: each open element has a node for
-- those inside it to speak of, and what it leaves to its end is said when it is left.
namespace Rdfa

namespace Document

open Element

variable {processing : Processing} {base : Text} {p : Processor} {opened : List Standing}

namespace Processor

def Led (p : Processor) : Prop := ∀ frame ∈ p.stack, frame.scope.parentObject.isSome = true

theorem Holds.led (holds : p.Holds processing base opened) : p.Led := by
  intro frame present
  rw [holds.stack] at present
  obtain ⟨standing, listed, rfl⟩ := List.mem_map.mp present
  obtain ⟨before, after, rfl⟩ := List.append_of_mem listed
  have stands := holds.stands
  rw [elements, List.map_append, List.map_cons] at stands
  exact standing.element.parentObject_isSome processing (stands.of_around.subject_isSome rfl)

end Processor

namespace Reading

variable {r : Reading}

theorem holds_take (holds : r.processor.Holds processing base opened) (item : Markup.Item) :
    ∃ last, (take processing r item).processor.Holds processing base last := by
  cases stepped : r.processor.step processing item with
  | error refusal =>
    rw [take_of_error stepped]
    exact ⟨opened, holds⟩
  | ok result =>
    simp only [take, stepped]
    obtain ⟨stages, last, moves⟩ := holds.step stepped
    exact ⟨last, moves.holds⟩

theorem holds_readByte (holds : r.processor.Holds processing base opened) (byte : UInt8) :
    ∃ last, (r.readByte processing byte).processor.Holds processing base last := by
  unfold readByte
  split
  · exact ⟨opened, holds⟩
  · split
    · exact ⟨opened, holds⟩
    · exact ⟨opened, holds⟩
    · next lexer item _ => exact holds_take (r := { r with lexer }) holds item

theorem holds_read (holds : r.processor.Holds processing base opened) (bytes : Bytes) :
    ∃ last, (r.read processing bytes).processor.Holds processing base last := by
  induction bytes generalizing r opened with
  | nil => exact ⟨opened, holds⟩
  | cons byte rest ih =>
    obtain ⟨last, next⟩ := holds_readByte holds byte
    exact ih next

theorem led_read (base : Text) (bytes : Bytes) :
    ((Reading.initial base).read processing bytes).processor.Led := by
  have initial : (Reading.initial base).processor.Holds processing base [] := .initial base
  obtain ⟨last, holds⟩ := holds_read initial bytes
  exact holds.led

end Reading

theorem Recounts.subject_isSome {known : List Attributes} {sent : List Emission} {stages : List Stage}
    (recounts : Recounts processing base known sent stages) :
    ∀ e ∈ entries stages, e.place.subject.isSome = true := by
  intro e present
  obtain ⟨stage, listed, same⟩ := List.mem_filterMap.mp present
  cases stage with
  | left element text => cases same
  | entered element around =>
    cases same
    exact (recounts.stand e around listed).subject_isSome rfl

def Stage.properties (processing : Processing) : Stage → List Emission
  | entered element _ => (element.reckoned processing).stated element.attributes
  | left element text => Forest.complete (element.pending processing) text

-- What the elements that stand open have left to their ends is said when they are left, so nothing is
-- said twice and nothing is forgotten: the sum over what is still open carries the induction.
theorem Follows.properties {α : Type} [DecidableEq α] {heard : Emission → Option α} {kept : Entry → List α}
    (completes : ∀ e text, (Forest.complete (e.pending processing) text).filterMap heard = kept e)
    {around last : List Entry} {stages : List Stage} (follows : Follows around stages last) :
    ((stages.flatMap (Stage.properties processing)).filterMap heard ++ last.flatMap kept).Perm
      (around.flatMap kept ++ (entries stages).flatMap fun e =>
        ((e.reckoned processing).stated e.attributes).filterMap heard ++ kept e) := by
  induction follows with
  | nil around => simp [entries]
  | @enter e around last stages later ih =>
    refine List.perm_iff_count.mpr fun a => ?_
    have counted := List.perm_iff_count.mp ih a
    simp only [entries_entered, List.flatMap_cons, List.filterMap_append, List.count_append,
      Stage.properties] at counted ⊢
    omega
  | @leave e around last stages text later ih =>
    have said : (Stage.left e text).properties processing =
        Forest.complete (e.pending processing) text := rfl
    rw [entries_left, List.flatMap_cons, List.flatMap_cons, List.filterMap_append, said, completes e text,
      List.append_assoc, List.append_assoc]
    exact ih.append_left (kept e)

end Document

namespace Extractor

open Document

variable {x : Extractor}

theorem whole_recounts {document : Bytes} (sound : (x.whole document).malformation = none) :
    ∃ stages, Recounts x.processing x.base (tags document) (x.whole document).sent.reverse stages := by
  unfold whole finished at sound ⊢
  have read : ((Reading.initial x.base).read x.processing document).malformation = none := by
    cases failed : ((Reading.initial x.base).read x.processing document).malformation with
    | none => rfl
    | some malformation =>
      rw [Reading.close_of_malformation failed, failed] at sound
      cases sound
  exact ((Reading.Tells.initial x.base).read read).close sound

end Extractor
end Rdfa
