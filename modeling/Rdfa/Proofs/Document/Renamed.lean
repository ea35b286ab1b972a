import Rdfa.Proofs.Document.Reading
import Rdfa.Proofs.Element.Renamed

-- A document read twice, by readings that name their nodes differently: they come to the same flaws, and
-- announce the same but for the names.
namespace Rdfa

open Element.Naming

namespace Document

variable {marks : List (Text × Text)} {visible : Graph → Bool} {naming wider : Element.Naming}
  {processing other : Processing}

def Processor.unlabelled (p : Processor) (tag : Markup.Tag) : Bool :=
  match tag.attributes with
  | .error _ => true
  | .ok attributes =>
    (p.rebase tag.name (.ofMarkup attributes)).place.unlabelled (.ofMarkup attributes)

def Processor.unlabelledItem (p : Processor) (item : Markup.Item) : Bool :=
  match item.token with
  | .opening tag | .standalone tag => p.unlabelled tag
  | .closing _ | .text _ | .cdata _ | .aside => true

def Reading.unlabelled (processing : Processing) (r : Reading) : Bytes → Bool
  | [] => true
  | byte :: rest =>
    (match r.malformation, r.lexer.step byte with
      | none, .ok (_, some item) => r.processor.unlabelledItem item
      | _, _ => true) &&
    Reading.unlabelled processing (r.readByte processing byte) rest

structure Frames (naming : Element.Naming) (frame beside : Frame) : Prop where
  name : beside.name = frame.name
  scope : naming.Scopes frame.scope beside.scope
  pending : naming.Waits frame.pending beside.pending

theorem Frames.mono (within : naming.Within wider) {frame beside : Frame}
    (frames : Frames naming frame beside) : Frames wider frame beside :=
  ⟨frames.name, frames.scope.mono within, frames.pending.mono within⟩

structure Processors (marks : List (Text × Text)) (naming : Element.Naming) (p q : Processor) :
    Prop where
  origin : q.origin = p.origin
  base : q.base = p.base
  absolute : Iri.isAbsolute p.origin = true ∧ Iri.isAbsolute p.base = true
  stack : List.Forall₂ (Frames naming) p.stack q.stack
  nodes : Joins marks naming p.nodes q.nodes

namespace Processors

variable {p q : Processor}

theorem place (twins : Processors marks naming p q) : naming.Places p.place q.place := by
  obtain ⟨origin, base, ⟨grounded, absolute⟩, stack, _⟩ := twins
  unfold Processor.place
  generalize p.stack = frames at stack ⊢
  generalize q.stack = besides at stack ⊢
  cases stack with
  | nil =>
    refine ⟨base, absolute, ?_, rfl⟩
    rw [origin]
    exact ⟨.plain (Iri.isLabel_of_isAbsolute grounded), .none, rfl, by simp [Scope.root], rfl, rfl,
      rfl⟩
  | cons frame _ => exact ⟨base, absolute, frame.scope, rfl⟩

theorem rebase (twins : Processors marks naming p q) (name : Bytes)
    (attributes : Element.Attributes) :
    Processors marks naming (p.rebase name attributes) (q.rebase name attributes) := by
  unfold Processor.rebase
  split
  · exact { twins with
      base := by rw [twins.base]
      absolute := ⟨twins.absolute.1, Iri.isAbsolute_resolve twins.absolute.2 _⟩ }
  · exact twins

end Processors

-- What two processors come to, with more nodes paired: the same flaw, or states that are alike again.
inductive Steps (marks : List (Text × Text)) (visible : Graph → Bool) (naming : Element.Naming) :
    Processor.Step → Processor.Step → Prop where
  | refused {wider : Element.Naming} {first second : Processor.Refusal}
      (same : second.malformation = first.malformation) (within : naming.Within wider)
      (twins : Processors marks wider first.processor second.processor)
      (alike : wider.Alike visible first.sent second.sent) :
      Steps marks visible naming (.error first) (.error second)
  | on {wider : Element.Naming} {p q : Processor} {sent others : List Emission}
      (within : naming.Within wider) (twins : Processors marks wider p q)
      (alike : wider.Alike visible sent others) :
      Steps marks visible naming (.ok (p, sent)) (.ok (q, others))

namespace Processors

variable {p q : Processor}

theorem refusal (twins : Processors marks naming p q) (position : Nat) (flaw : Flaw) :
    Steps marks visible naming (.error (p.refusal position flaw)) (.error (q.refusal position flaw)) :=
  .refused rfl (Within.refl naming) twins .nil

theorem enter (comparable : processing.Comparable visible other)
    (twins : Processors marks naming p q) (name : Bytes) {attributes : Element.Attributes}
    (unlabelled : (p.rebase name attributes).place.unlabelled attributes = true) :
    Steps marks visible naming (.ok (p.enter processing name attributes))
      (.ok (q.enter other name attributes)) := by
  have based := twins.rebase name attributes
  obtain ⟨wider, within, joins, ⟨scopes, waits⟩, sent, others, here, there, alike⟩ :=
    Element.process_abreast comparable based.place unlabelled
      ⟨(p.rebase name attributes).nodes, []⟩ ⟨(q.rebase name attributes).nodes, []⟩ based.nodes
  rw [List.nil_append] at here there
  refine .on within ⟨based.origin, based.base, based.absolute, ?_, joins⟩ ?_
  · exact .cons ⟨rfl, scopes, waits⟩ (based.stack.imp fun _ _ frames => frames.mono within)
  · subst here there
    exact alike

theorem openElement (comparable : processing.Comparable visible other)
    (twins : Processors marks naming p q) (position : Nat) {tag : Markup.Tag}
    (unlabelled : p.unlabelled tag = true) :
    Steps marks visible naming (p.openElement processing position tag)
      (q.openElement other position tag) := by
  have depth : q.stack.length = p.stack.length := twins.stack.length_eq.symm
  unfold Processor.openElement
  rw [depth, comparable.maxDepth]
  split
  · exact twins.refusal position _
  · cases read : tag.attributes with
    | error flaw => exact twins.refusal position _
    | ok attributes =>
      refine twins.enter comparable tag.name ?_
      simpa [Processor.unlabelled, read] using unlabelled

theorem waiting {frame beside : Frame} (frames : Frames naming frame beside) :
    naming.Alike visible (frame.pending.elim [] (·.emissions))
      (beside.pending.elim [] (·.emissions)) := by
  have pending := frames.pending
  generalize frame.pending = here at pending ⊢
  generalize beside.pending = there at pending ⊢
  cases pending with
  | none => exact .nil
  | some pending => exact pending.emissions

theorem closeTop (visible : Graph → Bool) (twins : Processors marks naming p q) :
    Processors marks naming p.closeTop.1 q.closeTop.1 ∧
      naming.Alike visible p.closeTop.2 q.closeTop.2 := by
  have stack := twins.stack
  unfold Processor.closeTop
  generalize p.stack = frames at stack ⊢
  generalize q.stack = besides at stack ⊢
  cases stack with
  | nil => exact ⟨twins, .nil⟩
  | cons frame rest => exact ⟨{ twins with stack := rest }, waiting frame⟩

theorem thenClose {first second : Processor.Step} (steps : Steps marks visible naming first second) :
    Steps marks visible naming (Processor.thenClose first) (Processor.thenClose second) := by
  cases steps with
  | refused same within twins alike => exact .refused same within twins alike
  | on within twins alike =>
    obtain ⟨closed, more⟩ := twins.closeTop visible
    exact .on within closed (alike.append more)

theorem closeElement (comparable : processing.Comparable visible other)
    (twins : Processors marks naming p q) (position : Nat) (name : Bytes) :
    Steps marks visible naming (p.closeElement processing position name)
      (q.closeElement other position name) := by
  have closed := twins.closeTop visible
  have stack := twins.stack
  unfold Processor.closeElement Processor.answers
  rw [comparable.voidElements]
  generalize p.stack = frames at stack ⊢
  generalize q.stack = besides at stack ⊢
  cases stack with
  | nil =>
    dsimp only
    split
    · exact .on (Within.refl naming) twins .nil
    · exact twins.refusal position _
  | cons frame rest =>
    dsimp only
    rw [frame.name]
    split
    · exact .on (Within.refl naming) closed.1 closed.2
    · split
      · exact .on (Within.refl naming) twins .nil
      · exact twins.refusal position _

theorem appendText (twins : Processors marks naming p q) (text : Text) :
    Processors marks naming (p.appendText text) (q.appendText text) := by
  refine { twins with stack := ?_ }
  refine List.rel_map (fun frame beside frames => ?_) twins.stack
  have pending := frames.pending
  refine ⟨frames.name, frames.scope, ?_⟩
  dsimp only
  generalize frame.pending = here at pending ⊢
  generalize beside.pending = there at pending ⊢
  cases pending with
  | none => exact .none
  | some pending => exact .some { pending with pieces := congrArg (text :: ·) pending.pieces }

theorem step (comparable : processing.Comparable visible other)
    (twins : Processors marks naming p q) {item : Markup.Item}
    (unlabelled : p.unlabelledItem item = true) :
    Steps marks visible naming (p.step processing item) (q.step other item) := by
  unfold Processor.step
  unfold Processor.unlabelledItem at unlabelled
  rw [comparable.voidElements]
  cases token : item.token with
  | opening tag =>
    rw [token] at unlabelled
    have opened := twins.openElement comparable item.position unlabelled
    dsimp only
    split
    · exact thenClose opened
    · exact opened
  | standalone tag =>
    rw [token] at unlabelled
    exact thenClose (twins.openElement comparable item.position unlabelled)
  | closing name => exact twins.closeElement comparable item.position name
  | text bytes => exact .on (Within.refl naming) (twins.appendText _) .nil
  | cdata bytes => exact .on (Within.refl naming) (twins.appendText _) .nil
  | aside => exact .on (Within.refl naming) twins .nil

theorem remaining (twins : Processors marks naming p q) :
    naming.Alike visible p.remaining q.remaining := by
  have stack := twins.stack
  unfold Processor.remaining
  generalize p.stack = frames at stack ⊢
  generalize q.stack = besides at stack ⊢
  induction stack with
  | nil => exact .nil
  | cons frame _ ih => exact (waiting frame).append ih

-- The node of the last report is named after all others.
theorem finish (comparable : processing.Comparable visible other)
    (twins : Processors marks naming p q) :
    ∃ wider m n, naming.Within wider ∧ Counted marks wider m n ∧
      wider.Alike visible (p.finish processing) (q.finish other) := by
  have depth : q.stack.length = p.stack.length := twins.stack.length_eq.symm
  unfold Processor.finish Processor.ending
  rw [depth]
  split
  · exact ⟨naming, _, _, Within.refl naming, twins.nodes.counted, twins.remaining.append .nil⟩
  · have warned : Element.Work.Abreast marks visible naming (fun _ _ _ => True)
        (Element.warn processing (.unclosedElements p.stack.length))
        (Element.warn other (.unclosedElements p.stack.length)) :=
      Element.warn_abreast comparable _
    obtain ⟨wider, within, joins, _, sent, others, here, there, alike⟩ :=
      warned ⟨p.nodes, []⟩ ⟨q.nodes, []⟩ twins.nodes
    rw [List.nil_append] at here there
    subst here there
    exact ⟨wider, _, _, within, joins.counted, (twins.remaining.mono within).append alike⟩

end Processors

structure Readings (marks : List (Text × Text)) (visible : Graph → Bool) (naming : Element.Naming)
    (r s : Reading) : Prop where
  lexer : s.lexer = r.lexer
  processor : Processors marks naming r.processor s.processor
  sent : naming.Alike visible r.sent s.sent
  malformation : s.malformation = r.malformation

namespace Readings

variable {r s : Reading}

theorem fail (twins : Readings marks visible naming r s) (malformation : Malformation) :
    Readings marks visible naming (r.fail malformation) (s.fail malformation) :=
  { twins with malformation := rfl }

theorem take (comparable : processing.Comparable visible other)
    (twins : Readings marks visible naming r s) {item : Markup.Item}
    (unlabelled : r.processor.unlabelledItem item = true) :
    ∃ wider, naming.Within wider ∧
      Readings marks visible wider (r.take processing item) (s.take other item) := by
  have steps := twins.processor.step comparable unlabelled
  unfold Reading.take
  generalize r.processor.step processing item = here at steps ⊢
  generalize s.processor.step other item = there at steps ⊢
  cases steps with
  | refused same within processors alike =>
    exact ⟨_, within, twins.lexer, processors, alike.reverse.append (twins.sent.mono within),
      congrArg some same⟩
  | on within processors alike =>
    refine ⟨_, within, twins.lexer, processors, ?_, twins.malformation⟩
    exact alike.reverse.append (twins.sent.mono within)

theorem readByte (comparable : processing.Comparable visible other)
    (twins : Readings marks visible naming r s) {byte : UInt8} {rest : Bytes}
    (unlabelled : r.unlabelled processing (byte :: rest) = true) :
    ∃ wider, naming.Within wider ∧
      Readings marks visible wider (r.readByte processing byte) (s.readByte other byte) := by
  have first := (Bool.and_eq_true _ _ ▸ unlabelled).1
  unfold Reading.readByte
  rw [twins.malformation, twins.lexer]
  cases failed : r.malformation with
  | some malformation => exact ⟨naming, Within.refl naming, twins⟩
  | none =>
    rcases stepped : r.lexer.step byte with flaw | ⟨lexer, item⟩
    · exact ⟨naming, Within.refl naming, twins.fail _⟩
    · have moved : Readings marks visible naming { r with lexer, malformation := none }
          { s with lexer, malformation := none } :=
        { twins with lexer := rfl, malformation := rfl }
      cases item with
      | none => exact ⟨naming, Within.refl naming, moved⟩
      | some item =>
        simp only [failed, stepped] at first
        exact moved.take comparable first

theorem read (comparable : processing.Comparable visible other)
    (twins : Readings marks visible naming r s) {bytes : Bytes}
    (unlabelled : r.unlabelled processing bytes = true) :
    ∃ wider, naming.Within wider ∧
      Readings marks visible wider (r.read processing bytes) (s.read other bytes) := by
  induction bytes generalizing r s naming with
  | nil => exact ⟨naming, Within.refl naming, twins⟩
  | cons byte rest ih =>
    obtain ⟨wider, within, next⟩ := twins.readByte comparable unlabelled
    obtain ⟨widest, further, last⟩ := ih next (Bool.and_eq_true _ _ ▸ unlabelled).2
    exact ⟨widest, within.trans further, last⟩

theorem unlabelled_of_close {lexer : Markup.Lexer} {item : Markup.Item}
    (closed : lexer.close = .ok (some item)) (p : Processor) : p.unlabelledItem item = true := by
  obtain ⟨bytes, text⟩ := Markup.Lexer.text_of_close closed
  rw [Processor.unlabelledItem, text]

def Finished (marks : List (Text × Text)) (visible : Graph → Bool) (naming : Element.Naming)
    (r s : Reading) : Prop :=
  ∃ wider m n, naming.Within wider ∧ Counted marks wider m n ∧ wider.Alike visible r.sent s.sent ∧
    s.malformation = r.malformation

theorem finished (twins : Readings marks visible naming r s) :
    Finished marks visible naming r s :=
  ⟨naming, _, _, Within.refl naming, twins.processor.nodes.counted, twins.sent, twins.malformation⟩

theorem finishing {wider : Element.Naming} (comparable : processing.Comparable visible other)
    (within : naming.Within wider) (twins : Readings marks visible wider r s) :
    Finished marks visible naming (r.finishing processing) (s.finishing other) := by
  unfold Reading.finishing
  rw [twins.malformation]
  split
  · exact ⟨wider, _, _, within, twins.processor.nodes.counted, twins.sent, twins.malformation⟩
  · obtain ⟨widest, m, n, further, counted, alike⟩ := twins.processor.finish comparable
    exact ⟨widest, m, n, within.trans further, counted,
      alike.reverse.append (twins.sent.mono further), rfl⟩

theorem close (comparable : processing.Comparable visible other)
    (twins : Readings marks visible naming r s) :
    Finished marks visible naming (r.close processing) (s.close other) := by
  cases failed : r.malformation with
  | some malformation =>
    rw [Reading.close_of_malformation failed,
      Reading.close_of_malformation (twins.malformation.trans failed)]
    exact twins.finished
  | none =>
    have sound : s.malformation = none := twins.malformation.trans failed
    cases closed : r.lexer.close with
    | error flaw =>
      rw [Reading.close_of_error failed closed,
        Reading.close_of_error sound (twins.lexer ▸ closed)]
      exact (twins.fail _).finished
    | ok item =>
      rw [Reading.close_of_ok failed closed, Reading.close_of_ok sound (twins.lexer ▸ closed)]
      cases item with
      | none => exact twins.finishing comparable (Within.refl naming)
      | some item =>
        obtain ⟨wider, within, last⟩ :=
          twins.take comparable (unlabelled_of_close closed r.processor)
        exact last.finishing comparable within

end Readings

end Document
end Rdfa
