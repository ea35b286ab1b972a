import Mathlib.Data.List.Forall2
import Rdfa.Proofs.Document.Chronicle
import Rdfa.Proofs.Document.Steps
import Rdfa.Proofs.Element.Content
import Rdfa.Proofs.Extractor.Evaluation

-- What is read inside an element: the elements beneath only hear its text, and of them only their names
-- and scopes play a part. So a literal that waits is completed by that text, and says what the same
-- element with the text in `content` says at once.
namespace Rdfa.Document

open Element

def heard (item : Markup.Item) : List Text :=
  match item.token with
  | .text bytes => [decodeText bytes]
  | .cdata bytes => [Utf8.decode bytes]
  | .opening _ | .standalone _ | .closing _ | .aside => []

def textIn (items : List Markup.Item) : Text := (items.flatMap heard).flatten

def Alike (beneath others : List Frame) : Prop :=
  List.Forall₂ (fun frame other => other.name = frame.name ∧ other.scope = frame.scope) beneath others

theorem Alike.hear {beneath others : List Frame} (alike : Alike beneath others) (texts : List Text) :
    Alike (beneath.map (·.hear texts)) (others.map (·.hear texts)) :=
  List.forall₂_map_left_iff.mpr (List.forall₂_map_right_iff.mpr alike)

theorem map_hear_nil (frames : List Frame) : frames.map (·.hear []) = frames :=
  (List.map_congr_left fun frame _ => frame.hear_nil).trans (List.map_id _)

theorem map_hear_append (frames : List Frame) (first second : List Text) :
    (frames.map (·.hear first)).map (·.hear second) = frames.map (·.hear (first ++ second)) := by
  rw [List.map_map]
  exact List.map_congr_left fun frame _ => frame.hear_append first second

namespace Processor

variable {processing : Processing} {p next : Processor} {above beneath others : List Frame}
  {sent : List Emission}

def restacked (p : Processor) (frames : List Frame) : Processor := { p with stack := frames }

theorem place_restacked (stack : p.stack = above ++ beneath) (alike : Alike beneath others) :
    (p.restacked (above ++ others)).place = p.place := by
  obtain ⟨origin, base, frames, nodes⟩ := p
  cases stack
  cases above with
  | cons frame above => rfl
  | nil =>
    cases alike with
    | nil => rfl
    | cons same _ => simp [restacked, place, same.2]

theorem rebase_restacked (p : Processor) (frames : List Frame) (name : Bytes) (attributes : Attributes) :
    (p.restacked frames).rebase name attributes = (p.rebase name attributes).restacked frames := by
  unfold rebase restacked
  cases isBaseName name <;> cases attributes.href <;> rfl

def frameOf (processing : Processing) (p : Processor) (name : Bytes) (attributes : Attributes) : Frame :=
  (⟨name, p.entry name attributes, []⟩ : Standing).frame processing

theorem enter_restacked (stack : p.stack = above ++ beneath) (alike : Alike beneath others) (name : Bytes)
    (attributes : Attributes) :
    (p.restacked (above ++ others)).enter processing name attributes =
      ((p.enter processing name attributes).1.restacked
          (p.frameOf processing name attributes :: (above ++ others)),
        (p.enter processing name attributes).2) := by
  have entry : (p.restacked (above ++ others)).entry name attributes = p.entry name attributes := by
    unfold Processor.entry
    have rebased : (p.rebase name attributes).stack = above ++ beneath := by rw [rebase_stack, stack]
    rw [rebase_restacked, place_restacked rebased alike]
    rfl
  rw [enter_eq, enter_eq, entry, rebase_restacked]
  rfl

theorem openElement_restacked {position : Nat} {tag : Markup.Tag} (stack : p.stack = above ++ beneath)
    (opened : p.openElement processing position tag = .ok (next, sent)) :
    ∃ frame, next.stack = (frame :: above) ++ beneath ∧ ∀ others, Alike beneath others →
      (p.restacked (above ++ others)).openElement processing position tag =
        .ok (next.restacked ((frame :: above) ++ others), sent) := by
  obtain ⟨room, attributes, read, entered⟩ := openElement_eq_ok_iff.mp opened
  refine ⟨p.frameOf processing tag.name (.ofMarkup attributes), ?_, fun others alike => ?_⟩
  · rw [enter_eq] at entered
    rw [List.cons_append, ← stack]
    exact (congrArg (·.1.stack) entered).symm
  · refine openElement_eq_ok_iff.mpr ⟨?_, attributes, read, ?_⟩
    · have same : (above ++ others).length = p.stack.length := by
        rw [stack, List.length_append, List.length_append, List.Forall₂.length_eq alike]
      exact same ▸ room
    · rw [enter_restacked stack alike, entered]
      rfl

theorem thenClose_restacked {position : Nat} {tag : Markup.Tag} (stack : p.stack = above ++ beneath)
    (closed : thenClose (p.openElement processing position tag) = .ok (next, sent)) :
    next.stack = above ++ beneath ∧ ∀ others, Alike beneath others →
      thenClose ((p.restacked (above ++ others)).openElement processing position tag) =
        .ok (next.restacked (above ++ others), sent) := by
  obtain ⟨q, first, opened, same⟩ := thenClose_eq_ok_iff.mp closed
  obtain ⟨frame, reached, elsewhere⟩ := openElement_restacked stack opened
  rw [List.cons_append] at reached
  simp only [closeTop, reached, Prod.mk.injEq] at same
  obtain ⟨rfl, rfl⟩ := same
  exact ⟨rfl, fun others alike => thenClose_eq_ok_iff.mpr ⟨_, _, elsewhere others alike, rfl⟩⟩

theorem closeElement_restacked {position : Nat} {name : Bytes} (stack : p.stack = above ++ beneath)
    (closed : p.closeElement processing position name = .ok (next, sent))
    (stays : beneath.length ≤ next.stack.length) :
    ∃ left, next.stack = left ++ beneath ∧ ∀ others, Alike beneath others →
      (p.restacked (above ++ others)).closeElement processing position name =
        .ok (next.restacked (left ++ others), sent) := by
  rcases closeElement_eq_ok_iff.mp closed with ⟨⟨frame, top, answered⟩, popped⟩ | ⟨silent, void, same⟩
  · cases above with
    | nil =>
      rw [List.nil_append] at stack
      cases beneath with
      | nil =>
        rw [stack] at top
        cases top
      | cons inner beneath =>
        simp only [closeTop, stack, Prod.mk.injEq] at popped
        rw [← popped.1] at stays
        exact absurd stays (Nat.not_succ_le_self _)
    | cons inner above =>
      rw [List.cons_append] at stack
      simp only [closeTop, stack, Prod.mk.injEq] at popped
      obtain ⟨rfl, rfl⟩ := popped
      refine ⟨above, rfl, fun others alike => closeElement_eq_ok_iff.mpr (.inl ⟨⟨frame, ?_, answered⟩, rfl⟩)⟩
      rw [stack] at top
      exact top
  · cases same
    refine ⟨above, stack, fun others alike => closeElement_eq_ok_iff.mpr (.inr ⟨?_, void, rfl⟩)⟩
    rw [stack] at silent
    cases above with
    | cons inner above => exact silent
    | nil =>
      cases alike with
      | nil => exact silent
      | cons same _ => simpa [answers, restacked, same.1] using silent

theorem step_restacked {item : Markup.Item} (stack : p.stack = above ++ beneath)
    (stepped : p.step processing item = .ok (next, sent)) (stays : beneath.length ≤ next.stack.length) :
    ∃ left, next.stack = left ++ beneath.map (·.hear (heard item)) ∧ ∀ others, Alike beneath others →
      (p.restacked (above ++ others)).step processing item =
        .ok (next.restacked (left ++ others.map (·.hear (heard item))), sent) := by
  unfold heard
  unfold Processor.step at stepped ⊢
  cases token : item.token with
  | opening tag =>
    rw [token] at stepped
    simp only [map_hear_nil]
    dsimp only at stepped
    split at stepped
    · next void =>
      simp only [void, if_true]
      exact ⟨above, thenClose_restacked stack stepped⟩
    · next lasts =>
      simp only [lasts]
      obtain ⟨frame, reached, elsewhere⟩ := openElement_restacked stack stepped
      exact ⟨frame :: above, reached, elsewhere⟩
  | standalone tag =>
    rw [token] at stepped
    simp only [map_hear_nil]
    exact ⟨above, thenClose_restacked stack stepped⟩
  | closing name =>
    rw [token] at stepped
    simp only [map_hear_nil]
    exact closeElement_restacked stack stepped stays
  | text bytes =>
    rw [token] at stepped
    cases stepped
    refine ⟨above.map (·.hear [decodeText bytes]), ?_, fun others _ => ?_⟩
    · rw [← List.map_append, ← stack]
      rfl
    · rw [← List.map_append]
      rfl
  | cdata bytes =>
    rw [token] at stepped
    cases stepped
    refine ⟨above.map (·.hear [Utf8.decode bytes]), ?_, fun others _ => ?_⟩
    · rw [← List.map_append, ← stack]
      rfl
    · rw [← List.map_append]
      rfl
  | aside =>
    rw [token] at stepped
    cases stepped
    simp only [map_hear_nil]
    exact ⟨above, stack, fun others _ => rfl⟩

-- Tokens read one after another while the elements that are open up to a depth stay open.
inductive Inside (processing : Processing) (depth : Nat) :
    Processor → List Markup.Item → Processor → List Emission → Prop where
  | nil {p : Processor} : Inside processing depth p [] p []
  | cons {p next last : Processor} {item : Markup.Item} {rest : List Markup.Item}
      {sent more : List Emission} (step : p.step processing item = .ok (next, sent))
      (stays : depth ≤ next.stack.length) (later : Inside processing depth next rest last more) :
      Inside processing depth p (item :: rest) last (sent ++ more)

theorem Inside.restacked {items : List Markup.Item} {last : Processor}
    (reads : p.Inside processing beneath.length items last sent) (stack : p.stack = above ++ beneath) :
    ∃ left, last.stack = left ++ beneath.map (·.hear (items.flatMap heard)) ∧
      ∀ others, Alike beneath others →
        (p.restacked (above ++ others)).Inside processing beneath.length items
          (last.restacked (left ++ others.map (·.hear (items.flatMap heard)))) sent := by
  generalize level : beneath.length = depth at reads
  -- The induction is on the tokens; what was above at first may have come and gone.
  induction reads generalizing above beneath with
  | nil =>
    simp only [List.flatMap_nil, map_hear_nil]
    exact ⟨above, stack, fun others _ => .nil⟩
  | @cons p next last item rest sent more step stays later ih =>
    obtain ⟨middle, reached, elsewhere⟩ := step_restacked stack step (level ▸ stays)
    obtain ⟨left, final, further⟩ := ih reached (by rw [List.length_map, level])
    simp only [map_hear_append, ← List.flatMap_cons] at final further
    refine ⟨left, final, fun others alike => .cons (elsewhere others alike) ?_ ?_⟩
    · have same : others.length = depth := by rw [← List.Forall₂.length_eq alike, level]
      simp [Processor.restacked, same]
    · have inside := further _ (alike.hear (heard item))
      rwa [map_hear_append] at inside

-- How a start tag whose property is the element's text compares with the same start tag with that text
-- in `content`. Both are told by what they make of the processor and what they announce.
structure SaysTheSame (processing : Processing) (depth : Nat) (value : Text)
    (text given : Processor × List Emission) : Prop where
  children : given.1.place = text.1.place
  nodes : given.1.nodes = text.1.nodes
  start : text.2 = given.2.filter (!·.isValue)
  -- Inside both, the same is read and said. The literals of the one are announced when it is left, by a
  -- tag or at the end of input, and then the other has nothing to say.
  close : ∀ {items : List Markup.Item} {last : Processor} {inside : List Emission},
    text.1.Inside processing depth items last inside → textIn items = value →
      ∃ other, given.1.Inside processing depth items other inside ∧
        (last.stack.length = depth →
          last.closeTop = (other.closeTop.1, given.2.filter Emission.isValue) ∧
            other.closeTop.2 = []) ∧
        ∃ inner outer, last.remaining = inner ++ (given.2.filter Emission.isValue ++ outer) ∧
          other.remaining = inner ++ outer

section Inserting

variable (p : Processor) (name : Bytes) (attributes : Attributes) (position : Nat) (value : Text)

theorem rebase_inserting : p.rebase name (attributes.inserting position "content" value) =
    p.rebase name attributes := by
  have agree : (attributes.inserting position "content" value).AgreeBut "content" attributes :=
    attributes.inserting_agrees position value (by decide) (by decide)
  have href : (attributes.inserting position "content" value).href = attributes.href :=
    agree.first _ (by decide)
  unfold rebase
  rw [href]

theorem entry_inserting : p.entry name (attributes.inserting position "content" value) =
    (p.entry name attributes).withContent position value := by
  unfold Processor.entry Entry.withContent
  rw [rebase_inserting]

end Inserting

theorem alike_refl (frames : List Frame) : Alike frames frames :=
  List.forall₂_same.mpr fun _ _ => ⟨rfl, rfl⟩

theorem enter_inserting (p : Processor) (name : Bytes) {attributes : Attributes}
    (typed : attributes.datatype.isSome = true) (absent : attributes.content = none) (position : Nat)
    (value : Text) :
    (p.enter processing name (attributes.inserting position "content" value)).1 =
      (p.enter processing name attributes).1.restacked
        ({ p.frameOf processing name attributes with pending := none } :: p.stack) := by
  have agrees := (p.entry name attributes).content_agrees processing absent typed position value
  rw [enter_eq, enter_eq, entry_inserting, rebase_inserting, agrees.after]
  unfold Processor.restacked frameOf Standing.frame
  rw [agrees.scope, agrees.pending]
  rfl

theorem sent_inserting (p : Processor) (name : Bytes) (attributes : Attributes) (position : Nat)
    (value : Text) : (p.enter processing name (attributes.inserting position "content" value)).2 =
      ((p.entry name attributes).withContent position value).sent processing := by
  rw [enter_eq, entry_inserting]

theorem frameOf_emissions (p : Processor) (name : Bytes) (attributes : Attributes) (texts : List Text) :
    ((p.frameOf processing name attributes).hear texts).pending.elim [] (·.emissions) =
      Forest.complete ((p.entry name attributes).pending processing) texts.flatten := by
  unfold frameOf Standing.frame
  rw [Frame.hear_nil]
  exact Frame.hear_emissions (pending_unheard _) texts

-- Two processors that differ in one frame, which has a literal in the one and none in the other: the
-- literal is all that they announce differently, when the frame is left or at the end of input.
section Silenced

variable {last : Processor} {left outer : List Frame} {frame : Frame}

theorem closeTop_silenced (stack : last.stack = left ++ frame :: outer)
    (innermost : last.stack.length = outer.length + 1) :
    last.closeTop = ((last.restacked (left ++ { frame with pending := none } :: outer)).closeTop.1,
      frame.pending.elim [] (·.emissions)) ∧
    (last.restacked (left ++ { frame with pending := none } :: outer)).closeTop.2 = [] := by
  have nothing : left = [] := by
    rw [stack, List.length_append, List.length_cons] at innermost
    exact List.length_eq_zero_iff.mp (by omega)
  subst nothing
  simp [closeTop, stack, restacked]

theorem remaining_silenced (stack : last.stack = left ++ frame :: outer) : ∃ inner further,
    last.remaining = inner ++ (frame.pending.elim [] (·.emissions) ++ further) ∧
    (last.restacked (left ++ { frame with pending := none } :: outer)).remaining = inner ++ further := by
  refine ⟨left.flatMap fun frame => frame.pending.elim [] (·.emissions),
    outer.flatMap fun frame => frame.pending.elim [] (·.emissions), ?_, ?_⟩
  · rw [remaining, stack, List.flatMap_append, List.flatMap_cons]
  · rw [remaining, restacked, List.flatMap_append, List.flatMap_cons]
    rfl

end Silenced

theorem content_states_text (p : Processor) (name : Bytes) {attributes : Attributes}
    (typed : attributes.datatype.isSome = true) (absent : attributes.content = none) (position : Nat)
    (value : Text) :
    SaysTheSame processing (p.stack.length + 1) value (p.enter processing name attributes)
      (p.enter processing name (attributes.inserting position "content" value)) := by
  have agrees := (p.entry name attributes).content_agrees processing absent typed position value
  have entered : (p.enter processing name (attributes.inserting position "content" value)).1 = _ :=
    p.enter_inserting name typed absent position value
  have stack : (p.enter processing name attributes).1.stack =
      [] ++ p.frameOf processing name attributes :: p.stack := by rw [enter_eq]; rfl
  have alike : Alike (p.frameOf processing name attributes :: p.stack)
      ({ p.frameOf processing name attributes with pending := none } :: p.stack) :=
    .cons ⟨rfl, rfl⟩ (alike_refl p.stack)
  refine ⟨?_, ?_, ?_, fun {items last inside} reads text => ?_⟩
  · rw [entered]
    exact place_restacked stack alike
  · rw [entered]
    rfl
  · rw [sent_inserting, agrees.others, enter_eq]
  · have above : (p.enter processing name attributes).1.Inside processing
        (p.frameOf processing name attributes :: p.stack).length items last inside := reads
    obtain ⟨left, final, elsewhere⟩ := above.restacked stack
    have elsewhere := elsewhere _ alike
    rw [List.nil_append, ← entered] at elsewhere
    -- What the frame heard is the value, so its literal is what `content` states.
    have said : ((p.frameOf processing name attributes).hear (items.flatMap heard)).pending.elim []
        (·.emissions) = (p.enter processing name
          (attributes.inserting position "content" value)).2.filter Emission.isValue := by
      rw [frameOf_emissions, show (items.flatMap heard).flatten = value from text, sent_inserting,
        agrees.values]
    rw [List.map_cons] at final
    rw [← said]
    refine ⟨_, elsewhere, fun level => closeTop_silenced final ?_, remaining_silenced final⟩
    rw [level, List.length_map]

-- `<p property="dc:title v:y" datatype="nowhere" lang="en">a<i property="v:x"><![CDATA[b]]></i>`, where
-- no vocabulary is in force.
def undated : Attributes :=
  ⟨[("property".toList, "dc:title v:y".toList), ("datatype".toList, "nowhere".toList),
    ("lang".toList, "en".toList)]⟩

def undatedText : List Markup.Item :=
  [.text (Markup.ascii "a"), .opening Extractor.named.tag, .cdata (Markup.ascii "b"),
    .closing (Markup.ascii "i")].map (⟨0, ·⟩)

def undatedStart (attributes : Attributes) : Processor × List Emission :=
  (Processor.initial "http://e/".toList).enter {} (Markup.ascii "p") attributes

theorem undated_reads :
    ∃ last inside, (undatedStart undated).1.Inside {} 1 undatedText last inside ∧
      last.stack.length = 1 := by
  have plain : (({} : Processing).voidElements &&
      isVoid (Markup.localName Extractor.named.tag.name)) = false := by decide +kernel
  have opens (p : Processor) (room : p.stack.length = 1) :
      p.step {} ⟨0, .opening Extractor.named.tag⟩ =
        .ok (p.enter {} Extractor.named.tag.name (.ofMarkup Extractor.named.attributes)) := by
    simp only [step, plain]
    exact openElement_eq_ok_iff.mpr ⟨by rw [room]; decide, _, Extractor.named.read, rfl⟩
  have closes (p : Processor) (frame : Frame) (top : p.stack.head? = some frame)
      (letters : frame.name = Markup.ascii "i") :
      p.step {} ⟨0, .closing (Markup.ascii "i")⟩ = .ok p.closeTop :=
    closeElement_eq_ok_iff.mpr (.inl ⟨⟨frame, top, by simp [answers, letters]⟩, rfl⟩)
  refine ⟨_, _, .cons rfl ?_ (.cons (opens _ rfl) ?_ (.cons rfl ?_ (.cons (closes _ _ rfl ?_) ?_ .nil))), ?_⟩
  all_goals decide +kernel

theorem undated_states_text :
    (undated.datatype.isSome = true ∧ undated.content = none) ∧
      SaysTheSame {} 1 "ab".toList (undatedStart undated)
        (undatedStart (undated.inserting 1 "content" "ab".toList)) ∧
      ∃ last other inside, (undatedStart undated).1.Inside {} 1 undatedText last inside ∧
        (undatedStart (undated.inserting 1 "content" "ab".toList)).1.Inside {} 1 undatedText other inside ∧
        last.closeTop.2 = (undatedStart (undated.inserting 1 "content" "ab".toList)).2.filter
          Emission.isValue := by
  have typed : undated.datatype.isSome = true := by decide
  have absent : undated.content = none := by decide
  have compares : SaysTheSame {} 1 "ab".toList (undatedStart undated)
      (undatedStart (undated.inserting 1 "content" "ab".toList)) :=
    content_states_text (.initial "http://e/".toList) (Markup.ascii "p") typed absent 1 "ab".toList
  obtain ⟨last, inside, reads, level⟩ := undated_reads
  obtain ⟨other, also, left, _⟩ := compares.close reads (by decide +kernel)
  exact ⟨⟨typed, absent⟩, compares, last, other, inside, reads, also, congrArg Prod.snd (left level).1⟩

example : ((undatedStart (undated.inserting 1 "content" "ab".toList)).2.filter Emission.isValue).map
    (fun emission => (emission.triple.predicate, emission.triple.object, emission.triple.language)) =
    [("http://purl.org/dc/terms/title".toList, "ab".toList, some "en".toList),
      ("http://rdf.data-vocabulary.org/#y".toList, "ab".toList, some "en".toList)] := by
  decide +kernel

end Processor
end Rdfa.Document
