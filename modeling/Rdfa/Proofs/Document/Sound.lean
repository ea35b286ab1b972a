import Rdfa.Proofs.Document.Renamed
import Rdfa.Proofs.Element.Sound

-- A document is read in terms of the kinds that its tags respect: at every byte the open elements, the
-- literals that wait and the statements made so far keep to them.
namespace Rdfa

-- The tokens that these bytes complete, up to a flaw of the markup.
def Markup.Lexer.items : Markup.Lexer → Bytes → List Markup.Item
  | _, [] => []
  | l, byte :: rest =>
    match l.step byte with
    | .error _ => []
    | .ok (next, item) => item.toList ++ next.items rest

namespace Document

def attributes? (item : Markup.Item) : Option Element.Attributes :=
  match item.token with
  | .opening tag | .standalone tag => tag.attributes.toOption.map .ofMarkup
  | .closing _ | .text _ | .cdata _ | .aside => none

def tags (document : Bytes) : List Element.Attributes :=
  (Markup.Lexer.initial.items document).filterMap attributes?

variable {kinds : Element.Kinds} {tags : List Element.Attributes} {processing : Processing}

structure Frame.Sound (kinds : Element.Kinds) (frame : Frame) : Prop where
  scope : frame.scope.Sound kinds
  pending : ∀ pending ∈ frame.pending, pending.Sound kinds

structure Processor.Sound (kinds : Element.Kinds) (p : Processor) : Prop where
  origin : kinds.base p.origin
  base : kinds.base p.base
  frames : ∀ frame ∈ p.stack, frame.Sound kinds
  nodes : p.nodes.Sound kinds

def Processor.Step.Sound (kinds : Element.Kinds) (step : Processor.Step) : Prop :=
  ∀ next sent, step = .ok (next, sent) →
    next.Sound kinds ∧ ∀ emission ∈ sent, emission.Fits kinds

theorem Frame.Sound.waiting {frame : Frame} (sound : frame.Sound kinds) :
    ∀ emission ∈ frame.pending.elim [] (·.emissions), emission.Fits kinds := by
  cases waiting : frame.pending with
  | none => exact fun _ present => nomatch present
  | some pending => exact (sound.pending pending waiting).emissions

namespace Processor

theorem Step.Sound.error (refusal : Refusal) : Step.Sound kinds (.error refusal) := by
  rintro next sent ⟨⟩

theorem Step.Sound.ok {p : Processor} {sent : List Emission} (sound : p.Sound kinds)
    (fit : ∀ emission ∈ sent, emission.Fits kinds) : Step.Sound kinds (.ok (p, sent)) := by
  rintro next more ⟨⟩
  exact ⟨sound, fit⟩

namespace Sound

variable {p : Processor}

theorem initial {base : Text} (based : kinds.base base) : (initial base).Sound kinds :=
  ⟨based, based, by simp [Processor.initial], .none⟩

theorem closeTop (sound : p.Sound kinds) : Step.Sound kinds (.ok p.closeTop) := by
  unfold Processor.closeTop
  split
  · exact .ok sound (by simp)
  · next frame rest stack =>
    have frames := sound.frames
    rw [stack, List.forall_mem_cons] at frames
    exact .ok { sound with frames := frames.2 } frames.1.waiting

theorem appendText (sound : p.Sound kinds) (text : Text) : (p.appendText text).Sound kinds := by
  refine { sound with frames := ?_ }
  intro frame present
  obtain ⟨before, listed, rfl⟩ := List.mem_map.mp present
  have kept := sound.frames before listed
  refine ⟨kept.scope, fun pending waiting => ?_⟩
  obtain ⟨earlier, waited, rfl⟩ := Option.map_eq_some_iff.mp waiting
  exact (kept.pending earlier waited).append text

theorem closeElement (sound : p.Sound kinds) (position : Nat) (name : Bytes) :
    Step.Sound kinds (p.closeElement processing position name) := by
  unfold Processor.closeElement
  dsimp only
  split
  · split
    · exact .ok sound (by simp)
    · exact .error _
  · split
    · exact sound.closeTop
    · split
      · exact .ok sound (by simp)
      · exact .error _

end Sound

theorem Step.Sound.thenClose {step : Step} (sound : Step.Sound kinds step) :
    Step.Sound kinds (thenClose step) := by
  cases step with
  | error refusal => exact .error refusal
  | ok result =>
    obtain ⟨reached, fit⟩ := sound _ _ rfl
    obtain ⟨closed, more⟩ := reached.closeTop _ _ rfl
    exact .ok closed (List.forall_mem_append.mpr ⟨fit, more⟩)

namespace Sound

variable {p : Processor} (cover : kinds.Cover tags)

include cover

theorem rebase (sound : p.Sound kinds) (name : Bytes) {attributes : Element.Attributes}
    (tag : attributes ∈ tags) : (p.rebase name attributes).Sound kinds := by
  unfold Processor.rebase
  split
  · next href _ given =>
    have listed : href ∈ attributes.references := by simp [Element.Attributes.references, given]
    exact { sound with base := cover.reference attributes tag href listed _ sound.base }
  · exact sound

theorem place (sound : p.Sound kinds) : p.place.Sound kinds := by
  unfold Processor.place
  split
  · exact ⟨sound.base, cover.root sound.origin⟩
  · next frame rest stack =>
    exact ⟨sound.base, (sound.frames frame (stack ▸ List.mem_cons_self)).scope⟩

theorem enter (sound : p.Sound kinds) (name : Bytes) {attributes : Element.Attributes}
    (tag : attributes ∈ tags) : Step.Sound kinds (.ok (p.enter processing name attributes)) := by
  have based := sound.rebase cover name tag
  have process := Element.process_sound cover processing (based.place cover) tag
  obtain ⟨scope, waits⟩ := process.yielded ⟨(p.rebase name attributes).nodes, []⟩ based.nodes
  obtain ⟨sent, added, fit⟩ := process.added ⟨(p.rebase name attributes).nodes, []⟩ based.nodes
  rw [List.nil_append] at added
  refine .ok ⟨based.origin, based.base, ?_, process.kept _ based.nodes⟩ (added ▸ fit)
  have pending := fun pending present => (waits pending present).1
  exact List.forall_mem_cons.mpr ⟨⟨scope, pending⟩, based.frames⟩

theorem openElement (sound : p.Sound kinds) (position : Nat) {tag : Markup.Tag}
    (known : ∀ attributes ∈ tag.attributes.toOption, .ofMarkup attributes ∈ tags) :
    Step.Sound kinds (p.openElement processing position tag) := by
  unfold Processor.openElement
  split
  · exact .error _
  · cases read : tag.attributes with
    | error flaw => exact .error _
    | ok attributes => exact sound.enter cover tag.name (known attributes (by rw [read]; rfl))

theorem step (sound : p.Sound kinds) {item : Markup.Item}
    (known : ∀ attributes ∈ attributes? item, attributes ∈ tags) :
    Step.Sound kinds (p.step processing item) := by
  unfold attributes? at known
  unfold Processor.step
  cases token : item.token with
  | opening tag =>
    rw [token] at known
    have opened : Step.Sound kinds (p.openElement processing item.position tag) :=
      sound.openElement cover item.position fun attributes read =>
        known _ (Option.map_eq_some_iff.mpr ⟨attributes, read, rfl⟩)
    dsimp only
    split
    · exact opened.thenClose
    · exact opened
  | standalone tag =>
    rw [token] at known
    exact (sound.openElement cover item.position fun attributes read =>
      known _ (Option.map_eq_some_iff.mpr ⟨attributes, read, rfl⟩)).thenClose
  | closing name => exact sound.closeElement item.position name
  | text bytes => exact .ok (sound.appendText _) (by simp)
  | cdata bytes => exact .ok (sound.appendText _) (by simp)
  | aside => exact .ok sound (by simp)

theorem finish (sound : p.Sound kinds) :
    ∀ emission ∈ p.finish processing, emission.Fits kinds := by
  unfold Processor.finish
  refine List.forall_mem_append.mpr ⟨fun emission present => ?_, ?_⟩
  · obtain ⟨frame, listed, inside⟩ := List.mem_flatMap.mp present
    exact (sound.frames frame listed).waiting emission inside
  · obtain ⟨sent, added, fit⟩ :=
      ((p.ending_built cover processing).sound cover.minted).added ⟨p.nodes, []⟩ sound.nodes
    rw [List.nil_append] at added
    exact added ▸ fit

end Sound
end Processor

structure Reading.Sound (kinds : Element.Kinds) (r : Reading) : Prop where
  processor : r.processor.Sound kinds
  sent : ∀ emission ∈ r.sent, emission.Fits kinds

namespace Reading

theorem take_lexer (r : Reading) (item : Markup.Item) : (take processing r item).lexer = r.lexer := by
  unfold take
  split <;> rfl

namespace Sound

variable {r : Reading}

theorem initial {base : Text} (based : kinds.base base) : (initial base).Sound kinds :=
  ⟨.initial based, by simp [Reading.initial]⟩

theorem fail (sound : r.Sound kinds) (malformation : Malformation) : (r.fail malformation).Sound kinds :=
  { sound with }

variable (cover : kinds.Cover tags)

include cover

theorem take (sound : r.Sound kinds) {item : Markup.Item}
    (known : ∀ attributes ∈ attributes? item, attributes ∈ tags) :
    (Reading.take processing r item).Sound kinds := by
  have step : Processor.Step.Sound kinds (r.processor.step processing item) :=
    sound.processor.step cover known
  unfold Reading.take
  split
  · next refusal failed =>
    obtain ⟨flaw, rfl⟩ := Processor.refusal_of_step failed
    exact sound.fail _
  · next next sent stepped =>
    obtain ⟨reached, fit⟩ := step next sent stepped
    refine ⟨reached, List.forall_mem_append.mpr ⟨fun emission present => ?_, sound.sent⟩⟩
    exact fit emission (List.mem_reverse.mp present)

theorem read (sound : r.Sound kinds) {bytes : Bytes}
    (known : ∀ attributes ∈ (r.lexer.items bytes).filterMap attributes?, attributes ∈ tags) :
    (r.read processing bytes).Sound kinds := by
  induction bytes generalizing r with
  | nil => exact sound
  | cons byte rest ih =>
    show ((r.readByte processing byte).read processing rest).Sound kinds
    unfold Reading.readByte
    cases failed : r.malformation with
    | some malformation =>
      dsimp only
      rw [read_of_malformation failed]
      exact sound
    | none =>
      unfold Markup.Lexer.items at known
      cases stepped : r.lexer.step byte with
      | error flaw =>
        dsimp only
        rw [read_of_malformation rfl]
        exact sound.fail _
      | ok reached =>
        obtain ⟨lexer, item⟩ := reached
        rw [stepped] at known
        have moved : ({ r with lexer, malformation := none } : Reading).Sound kinds := { sound with }
        cases item with
        | none => exact ih moved known
        | some item =>
          dsimp only at known ⊢
          rw [List.filterMap_append, List.forall_mem_append] at known
          have here : ∀ attributes ∈ attributes? item, attributes ∈ tags :=
            fun attributes given => known.1 attributes (by simpa using given)
          refine ih (moved.take cover here) ?_
          rw [take_lexer]
          exact known.2

theorem finishing (sound : r.Sound kinds) :
    ∀ emission ∈ (r.finishing processing).sent, emission.Fits kinds := by
  unfold Reading.finishing
  split
  · exact sound.sent
  · refine List.forall_mem_append.mpr ⟨fun emission present => ?_, sound.sent⟩
    exact sound.processor.finish cover emission (List.mem_reverse.mp present)

theorem close (sound : r.Sound kinds) :
    ∀ emission ∈ (r.close processing).sent, emission.Fits kinds := by
  cases failed : r.malformation with
  | some malformation =>
    rw [close_of_malformation failed]
    exact sound.sent
  | none =>
    cases closed : r.lexer.close with
    | error flaw =>
      rw [close_of_error failed closed]
      exact sound.sent
    | ok item =>
      rw [close_of_ok failed closed]
      cases item with
      | none => exact sound.finishing cover
      | some item =>
        obtain ⟨bytes, text⟩ := Markup.Lexer.text_of_close closed
        refine (sound.take cover fun attributes given => ?_).finishing cover
        rw [attributes?, text] at given
        cases given

end Sound
end Reading
end Document
end Rdfa
