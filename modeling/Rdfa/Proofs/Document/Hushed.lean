import Rdfa.Proofs.Document.Renamed
import Rdfa.Proofs.Element.Hushed

-- A document read with declared prefixes announced and without. The readings are the same at every byte,
-- but for what is said of prefixes.
namespace Rdfa

open Emission Element

theorem Emission.hush_append (sent more : List Emission) :
    hush (sent ++ more) = hush sent ++ hush more := List.filter_append sent more

theorem Emission.hush_reverse (sent : List Emission) : hush sent.reverse = (hush sent).reverse :=
  List.filter_reverse

namespace Document

variable {processing : Processing}

namespace Processor

def hushed (result : Processor × List Emission) : Processor × List Emission :=
  (result.1, hush result.2)

theorem enter_hushed (p : Processor) (name : Bytes) (attributes : Element.Attributes) :
    p.enter processing.hushed name attributes = hushed (p.enter processing name attributes) := by
  have same := Element.process_hushed processing (p.rebase name attributes).place attributes
    ⟨(p.rebase name attributes).nodes, []⟩
  have clean : Output.hushed ⟨(p.rebase name attributes).nodes, []⟩ =
      ⟨(p.rebase name attributes).nodes, []⟩ := rfl
  rw [clean] at same
  unfold enter
  dsimp only
  rw [same]
  rfl

theorem openElement_hushed (p : Processor) (position : Nat) (tag : Markup.Tag) :
    p.openElement processing.hushed position tag =
      (p.openElement processing position tag).map hushed := by
  unfold openElement
  show (if processing.maxDepth ≤ p.stack.length then _ else _) = _
  split
  · rfl
  · cases tag.attributes with
    | error flaw => rfl
    | ok attributes => exact congrArg Except.ok (p.enter_hushed tag.name _)

theorem hush_waiting (frame : Frame) :
    hush (frame.pending.elim [] (·.emissions)) = frame.pending.elim [] (·.emissions) := by
  cases frame.pending with
  | none => rfl
  | some pending => exact pending.hush_emissions

theorem closeTop_hushed (p : Processor) : hushed p.closeTop = p.closeTop := by
  unfold closeTop
  split
  · rfl
  · next frame rest _ => exact congrArg (Prod.mk _) (hush_waiting frame)

theorem thenClose_hushed (opened : Step) :
    thenClose (opened.map hushed) = (thenClose opened).map hushed := by
  cases opened with
  | error refusal => rfl
  | ok result =>
    have last : hush result.1.closeTop.2 = result.1.closeTop.2 :=
      congrArg Prod.snd result.1.closeTop_hushed
    show Except.ok (result.1.closeTop.1, hush result.2 ++ result.1.closeTop.2) =
      Except.ok (result.1.closeTop.1, hush (result.2 ++ result.1.closeTop.2))
    rw [hush_append, last]

theorem closeElement_hushed (p : Processor) (position : Nat) (name : Bytes) :
    p.closeElement processing.hushed position name =
      (p.closeElement processing position name).map hushed := by
  have closed := p.closeTop_hushed
  show p.closeElement processing position name = _
  unfold closeElement
  dsimp only
  split
  · split <;> rfl
  · split
    · exact congrArg Except.ok closed.symm
    · split <;> rfl

theorem step_hushed (p : Processor) (item : Markup.Item) :
    p.step processing.hushed item = (p.step processing item).map hushed := by
  unfold step
  cases item.token with
  | opening tag =>
    dsimp only
    rw [openElement_hushed, thenClose_hushed]
    show (if processing.voidElements && _ then _ else _) = _
    split <;> rfl
  | standalone tag =>
    dsimp only
    rw [openElement_hushed, thenClose_hushed]
  | closing name => exact p.closeElement_hushed item.position name
  | text bytes => rfl
  | cdata bytes => rfl
  | aside => rfl

theorem finish_hushed (p : Processor) :
    p.finish processing.hushed = hush (p.finish processing) := by
  have waiting : hush p.remaining = p.remaining := by
    unfold remaining
    induction p.stack with
    | nil => rfl
    | cons frame rest ih => rw [List.flatMap_cons, hush_append, hush_waiting, ih]
  have warned := (p.ending_built (.any []) processing).hushed ⟨p.nodes, []⟩
  unfold finish
  rw [hush_append, waiting]
  exact congrArg (p.remaining ++ ·) (congrArg (·.2.sent) warned)

end Processor

namespace Reading

def hushed (r : Reading) : Reading := { r with sent := hush r.sent }

theorem take_hushed (r : Reading) (item : Markup.Item) :
    r.hushed.take processing.hushed item = (r.take processing item).hushed := by
  have alike : r.processor.step processing.hushed item =
      (r.processor.step processing item).map Processor.hushed := r.processor.step_hushed item
  cases stepped : r.processor.step processing item with
  | error refusal =>
    rw [stepped] at alike
    rw [take_of_error stepped, take_of_error (r := r.hushed) alike]
    rfl
  | ok result =>
    simp only [take, hushed, alike, stepped, Except.map, Processor.hushed, hush_append, hush_reverse]

theorem readByte_hushed (r : Reading) (byte : UInt8) :
    r.hushed.readByte processing.hushed byte = (r.readByte processing byte).hushed := by
  unfold readByte
  cases failed : r.malformation with
  | some malformation => simp only [hushed, failed]
  | none =>
    rcases step : r.lexer.step byte with flaw | ⟨lexer, item⟩
    · simp only [hushed, failed, step, misread, fail]
    · cases item with
      | none => simp only [hushed, failed, step]
      | some item =>
        simp only [hushed, failed, step]
        exact take_hushed { r with lexer, malformation := none } item

theorem read_hushed (r : Reading) (bytes : Bytes) :
    r.hushed.read processing.hushed bytes = (r.read processing bytes).hushed := by
  induction bytes generalizing r with
  | nil => rfl
  | cons byte rest ih =>
    show (r.hushed.readByte processing.hushed byte).read processing.hushed rest = _
    rw [readByte_hushed, ih]
    rfl

theorem finishing_hushed (r : Reading) :
    r.hushed.finishing processing.hushed = (r.finishing processing).hushed := by
  unfold finishing
  cases failed : r.malformation with
  | some malformation => simp only [hushed, failed]
  | none => simp only [hushed, failed, Processor.finish_hushed, hush_append, hush_reverse]

theorem close_hushed (r : Reading) :
    r.hushed.close processing.hushed = (r.close processing).hushed := by
  cases failed : r.malformation with
  | some malformation =>
    have also : r.hushed.malformation = some malformation := failed
    rw [close_of_malformation failed, close_of_malformation also]
  | none =>
    have also : r.hushed.malformation = none := failed
    cases closed : r.lexer.close with
    | error flaw =>
      have there : r.hushed.lexer.close = .error flaw := closed
      rw [close_of_error failed closed, close_of_error also there]
      rfl
    | ok item =>
      have there : r.hushed.lexer.close = .ok item := closed
      rw [close_of_ok failed closed, close_of_ok also there, ← finishing_hushed]
      cases item with
      | none => rfl
      | some item => exact congrArg _ (take_hushed r item)

theorem drain_hushed (r : Reading) :
    r.hushed.drain.1 = hush r.drain.1 ∧ r.hushed.drain.2 = r.drain.2 :=
  ⟨(hush_reverse r.sent).symm, rfl⟩

end Reading
end Document
end Rdfa
