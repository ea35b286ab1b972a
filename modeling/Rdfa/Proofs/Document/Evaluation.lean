import Rdfa.Proofs.Document.Forest
import Rdfa.Proofs.Document.Reading
import Rdfa.Proofs.Markup.Names

-- The stack of open elements computes what the evaluation of the tree does. Every open literal hears
-- every text at once, so the state after a forest is the state before it with its text given to all
-- frames: this is what the induction carries for the frames beneath.
namespace Rdfa.Document

namespace Frame

def hear (frame : Frame) (texts : List Text) : Frame :=
  { frame with pending := frame.pending.map fun waiting =>
      { waiting with pieces := texts.reverse ++ waiting.pieces } }

theorem hear_nil (frame : Frame) : frame.hear [] = frame := by
  rcases frame with ⟨name, scope, pending⟩
  cases pending <;> rfl

theorem hear_append (frame : Frame) (first second : List Text) :
    (frame.hear first).hear second = frame.hear (first ++ second) := by
  rcases frame with ⟨name, scope, pending⟩
  cases pending <;> simp [hear]

theorem hear_emissions {frame : Frame} (unheard : Element.Unheard frame.pending)
    (texts : List Text) :
    (frame.hear texts).pending.elim [] (·.emissions) =
      Forest.complete frame.pending texts.flatten := by
  rcases frame with ⟨name, scope, pending⟩
  cases pending with
  | none => rfl
  | some waiting =>
    have empty : waiting.pieces = [] := unheard waiting rfl
    simp [hear, empty, Element.PendingLiteral.emissions, Element.PendingLiteral.value,
      Forest.complete]

end Frame

namespace Processor

def after (p : Processor) (result : Forest.Evaluated) : Processor :=
  { p with base := result.base, stack := p.stack.map (·.hear result.texts), nodes := result.nodes }

-- No open element should have closed itself.
def Lasting (processing : Processing) (p : Processor) : Prop :=
  ∀ frame ∈ p.stack, closesItself processing frame.name = false

theorem Lasting.after {processing : Processing} {p : Processor} (lasting : p.Lasting processing)
    (result : Forest.Evaluated) : (p.after result).Lasting processing := by
  intro frame present
  obtain ⟨frame, standing, rfl⟩ := List.mem_map.mp present
  exact lasting frame standing

theorem appendText_eq (p : Processor) (text : Text) :
    p.appendText text = p.after ⟨p.base, p.nodes, [], [text]⟩ := rfl

theorem place_after (p : Processor) (result : Forest.Evaluated) :
    (p.after result).place = { p.place with base := result.base } := by
  rcases p with ⟨origin, base, stack, nodes⟩
  cases stack <;> rfl

variable {processing : Processing} {p : Processor} {start : StartTag}

theorem rebase_eq (p : Processor) (start : StartTag) :
    p.rebase start.tag.name (.ofMarkup start.attributes) =
      { p with base := Forest.baseFrom p.base start } := by
  unfold rebase Forest.baseFrom
  cases isBaseName start.tag.name with
  | false => rfl
  | true => cases (Element.Attributes.ofMarkup start.attributes).href <;> rfl

def within (p : Processor) (start : StartTag) (scope : Scope)
    (waiting : Option Element.PendingLiteral) (nodes : Element.Nodes) : Processor :=
  { p with
    base := Forest.baseFrom p.base start
    stack := ⟨start.tag.name, scope, waiting⟩ :: p.stack
    nodes }

def placeOf (p : Processor) (start : StartTag) : Element.Place :=
  { p.place with base := Forest.baseFrom p.base start }

variable {scope : Scope} {waiting : Option Element.PendingLiteral} {entered : Element.Output}

-- The start tag hands on `scope` to what is inside and leaves `waiting` to be completed at its end.
def Opens (processing : Processing) (p : Processor) (start : StartTag) (scope : Scope)
    (waiting : Option Element.PendingLiteral) (entered : Element.Output) : Prop :=
  (Element.process processing (p.placeOf start) (.ofMarkup start.attributes)).run ⟨p.nodes, []⟩ =
    ((scope, waiting), entered)

theorem Opens.unheard (opens : p.Opens processing start scope waiting entered) :
    Element.Unheard waiting := by
  have ensures := (Element.process_ensures processing (p.placeOf start)
    (.ofMarkup start.attributes)).yielded ⟨p.nodes, []⟩
  rw [opens] at ensures
  exact ensures

theorem openElement_eq (room : p.stack.length < processing.maxDepth)
    (opens : p.Opens processing start scope waiting entered) (position : Nat) :
    p.openElement processing position start.tag =
      .ok (p.within start scope waiting entered.nodes, entered.sent) := by
  have place : (p.rebase start.tag.name (.ofMarkup start.attributes)).place = p.placeOf start := by
    rw [rebase_eq]
    rcases p with ⟨origin, base, stack, nodes⟩
    cases stack <;> rfl
  have nodes : (p.rebase start.tag.name (.ofMarkup start.attributes)).nodes = p.nodes := by
    rw [rebase_eq]
  unfold Opens at opens
  simp only [openElement, Nat.not_le.mpr room, if_false, start.read, enter, place, nodes, opens]
  rw [rebase_eq]
  rfl

theorem closeTop_hear (p : Processor) {frame : Frame} (unheard : Element.Unheard frame.pending)
    (texts : List Text) :
    { p with stack := frame.hear texts :: p.stack }.closeTop =
      (p, Forest.complete frame.pending texts.flatten) := by
  simp only [closeTop, Frame.hear_emissions unheard]

theorem within_after (p : Processor) (start : StartTag) (scope : Scope)
    (waiting : Option Element.PendingLiteral) (nodes : Element.Nodes) (inside : Forest.Evaluated) :
    (p.within start scope waiting nodes).after inside =
      { p.after inside with
        stack := (⟨start.tag.name, scope, waiting⟩ : Frame).hear inside.texts ::
          (p.after inside).stack } := rfl

theorem after_after (p : Processor) (first second : Forest.Evaluated) :
    (p.after first).after second =
      p.after { second with texts := first.texts ++ second.texts } := by
  simp [after, Frame.hear_append]

theorem reads_childless (room : p.stack.length < processing.maxDepth)
    (opens : p.Opens processing start scope waiting entered) {item : Markup.Item}
    (written : item.token = .standalone start.tag ∨
      item.token = .opening start.tag ∧ closesItself processing start.tag.name = true) :
    p.Reads processing [item]
      (p.after ⟨Forest.baseFrom p.base start, entered.nodes, [], []⟩)
      (entered.sent ++ Forest.complete waiting []) := by
  have opened := openElement_eq room opens item.position
  have closed : (p.within start scope waiting entered.nodes).closeTop =
      (p.after ⟨Forest.baseFrom p.base start, entered.nodes, [], []⟩,
        Forest.complete waiting []) := by
    have unheard : Element.Unheard (⟨start.tag.name, scope, waiting⟩ : Frame).pending :=
      opens.unheard
    have left := closeTop_hear (p.after ⟨Forest.baseFrom p.base start, entered.nodes, [], []⟩)
      unheard []
    simpa [within, after, Frame.hear_nil] using left
  have step : p.step processing item =
      thenClose (p.openElement processing item.position start.tag) := by
    rcases written with token | ⟨token, void⟩
    · simp only [step, token]
    · unfold closesItself at void
      simp only [step, token, void, if_true]
  refine .single ?_
  rw [step, opened]
  simp only [thenClose, Except.map, closed]

theorem reads_answered (room : p.stack.length < processing.maxDepth)
    (opens : p.Opens processing start scope waiting entered)
    (standing : closesItself processing start.tag.name = false) {name : Bytes}
    (answers : name = start.tag.name ∨
      processing.voidElements = true ∧ Markup.sameLetters start.tag.name name = true)
    {first last : Markup.Item} {inner : List Markup.Item}
    (opening : first.token = .opening start.tag) (closing : last.token = .closing name)
    {inside : Forest.Evaluated}
    (reads : (p.within start scope waiting entered.nodes).Reads processing inner
      ((p.within start scope waiting entered.nodes).after inside) inside.sent) :
    p.Reads processing (first :: (inner ++ [last])) (p.after inside)
      (entered.sent ++ (inside.sent ++ Forest.complete waiting inside.texts.flatten)) := by
  have opened : p.step processing first =
      .ok (p.within start scope waiting entered.nodes, entered.sent) := by
    unfold closesItself at standing
    simp only [step, opening, standing, Bool.false_eq_true, if_false]
    exact openElement_eq room opens first.position
  have answered : Processor.answers processing
      ((⟨start.tag.name, scope, waiting⟩ : Frame).hear inside.texts) name = true := by
    rcases answers with rfl | ⟨letters, same⟩
    · simp [Processor.answers, Frame.hear]
    · simp [Processor.answers, Frame.hear, letters, same]
  have closed : ((p.within start scope waiting entered.nodes).after inside).step processing last =
      .ok (p.after inside, Forest.complete waiting inside.texts.flatten) := by
    rw [within_after]
    simp only [step, closing, closeElement, answered, if_true]
    have unheard : Element.Unheard (⟨start.tag.name, scope, waiting⟩ : Frame).pending :=
      opens.unheard
    exact congrArg Except.ok (closeTop_hear (p.after inside) unheard inside.texts)
  exact .cons opened (reads.append (.single closed))

-- An element that stays open is no void element, so no end tag of one is meant for it.
theorem not_answers_of_void {frame : Frame} {name : Bytes}
    (letters : processing.voidElements = true)
    (stands : closesItself processing frame.name = false)
    (void : isVoid (Markup.localName name) = true) :
    Processor.answers processing frame name = false := by
  rw [closesItself, letters, Bool.true_and] at stands
  refine Bool.eq_false_iff.mpr fun answered => ?_
  have same : Markup.sameLetters name frame.name = true := by
    simp only [Processor.answers, letters, Bool.true_and, Bool.or_eq_true,
      decide_eq_true_eq] at answered
    rcases answered with rfl | same
    · exact Markup.sameLetters_iff.mpr rfl
    · exact Markup.sameLetters_symm same
  have also := isVoid_sameLetters (Markup.sameLetters_localName same) void
  cases stands.symm.trans also

theorem step_stray_void (lasting : p.Lasting processing)
    (letters : processing.voidElements = true) {name : Bytes}
    (void : isVoid (Markup.localName name) = true) {item : Markup.Item}
    (closing : item.token = .closing name) : p.step processing item = .ok (p, []) := by
  have tolerated : isVoid (Markup.lastName name) = true := isVoid_lastName void
  simp only [step, closing, closeElement, letters, tolerated, Bool.and_self, if_true]
  split
  · rfl
  · next frame rest top =>
    have standing : frame ∈ p.stack := by simp [top]
    have other := not_answers_of_void letters (lasting frame standing) void
    simp only [other, Bool.false_eq_true, if_false]

-- Whatever is written after an element, the element itself leaves behind its literal and what is
-- inside it, and the processor is at the level it was at before.
theorem reads_element {ending : Ending} {children : Forest} {inside : Forest.Evaluated}
    {items : List Markup.Item} (room : p.stack.length < processing.maxDepth)
    (lasting : p.Lasting processing) (fits : ending.Fits processing start children)
    (opens : p.Opens processing start scope waiting entered)
    (evaluated : children.evaluate processing ⟨Forest.baseFrom p.base start, scope, false⟩
      entered.nodes = inside)
    (reads : ∀ inner : List Markup.Item, inner.map (·.token) = children.tokens →
      closesItself processing start.tag.name = false →
        (p.within start scope waiting entered.nodes).Reads processing inner
          ((p.within start scope waiting entered.nodes).after inside) inside.sent)
    (spelled : items.map (·.token) = ending.opening start :: (children.tokens ++ ending.closing)) :
    p.Reads processing items (p.after inside)
      (entered.sent ++ (inside.sent ++ Forest.complete waiting inside.texts.flatten)) := by
  obtain ⟨first, others, rfl, opening, rest⟩ := List.map_eq_cons_iff.mp spelled
  obtain ⟨inner, close, rfl, inner_tokens, closing⟩ := List.map_eq_append_iff.mp rest
  cases fits with
  | slash =>
    cases List.map_eq_nil_iff.mp inner_tokens
    cases List.map_eq_nil_iff.mp closing
    subst evaluated
    exact reads_childless room opens (.inl opening)
  | none void =>
    cases List.map_eq_nil_iff.mp inner_tokens
    cases List.map_eq_nil_iff.mp closing
    subst evaluated
    exact reads_childless room opens (.inr ⟨opening, void⟩)
  | @tag name _ answers childless =>
    obtain ⟨last, behind, rfl, ended, nothing⟩ := List.map_eq_cons_iff.mp closing
    cases List.map_eq_nil_iff.mp nothing
    cases void : closesItself processing start.tag.name with
    | false =>
      exact reads_answered room opens void answers opening ended (reads inner inner_tokens void)
    | true =>
      cases childless void
      cases List.map_eq_nil_iff.mp inner_tokens
      subst evaluated
      have same : Markup.sameLetters start.tag.name name = true := by
        rcases answers with rfl | ⟨_, same⟩
        · exact Markup.sameLetters_iff.mpr rfl
        · exact same
      obtain ⟨letters, known⟩ := Bool.and_eq_true_iff.mp void
      have also := isVoid_sameLetters (Markup.sameLetters_localName same) known
      have alone := reads_childless room opens (.inr ⟨opening, void⟩)
      have stray : (p.after ⟨Forest.baseFrom p.base start, entered.nodes, [], []⟩).step processing
          last = .ok (_, []) := step_stray_void (lasting.after _) letters also ended
      simpa [Forest.evaluate] using alone.append (.single stray)

theorem reads_text {text : Text} {item : Markup.Item} {items : List Markup.Item}
    {later : Forest.Evaluated} (step : p.step processing item = .ok (p.appendText text, []))
    (reads : (p.appendText text).Reads processing items ((p.appendText text).after later)
      later.sent) :
    p.Reads processing (item :: items) (p.after { later with texts := text :: later.texts })
      later.sent := by
  have heard : (p.appendText text).after later =
      p.after { later with texts := text :: later.texts } := by
    rw [appendText_eq, after_after]
    rfl
  rw [heard] at reads
  exact .cons step reads

theorem Lasting.appendText (lasting : p.Lasting processing) (text : Text) :
    (p.appendText text).Lasting processing := by
  rw [appendText_eq]
  exact lasting.after _

theorem length_appendText (p : Processor) (text : Text) :
    (p.appendText text).stack.length = p.stack.length := List.length_map _

theorem place_appendText (p : Processor) (text : Text) : (p.appendText text).place = p.place := by
  rcases p with ⟨origin, base, stack, nodes⟩
  cases stack <;> rfl

theorem place_base (p : Processor) : p.place.base = p.base := by
  unfold place
  split <;> rfl

theorem evaluate_element {ending : Ending} {children rest : Forest} {inside : Forest.Evaluated}
    (opens : p.Opens processing start scope waiting entered)
    (evaluated : children.evaluate processing ⟨Forest.baseFrom p.base start, scope, false⟩
      entered.nodes = inside) :
    (Forest.element start ending children rest).evaluate processing p.place p.nodes =
      let later := rest.evaluate processing (p.after inside).place (p.after inside).nodes
      { later with
        sent := entered.sent ++ (inside.sent ++ Forest.complete waiting inside.texts.flatten) ++
          later.sent
        texts := inside.texts ++ later.texts } := by
  have nodes : (p.after inside).nodes = inside.nodes := rfl
  unfold Opens placeOf at opens
  simp only [Forest.evaluate, place_base, opens, evaluated, place_after, nodes,
    List.append_assoc]

theorem reads_forest {forest : Forest} {p : Processor} {items : List Markup.Item}
    (wellFormed : forest.WellFormed processing p.stack.length) (lasting : p.Lasting processing)
    (spelled : items.map (·.token) = forest.tokens) :
    p.Reads processing items (p.after (forest.evaluate processing p.place p.nodes))
      (forest.evaluate processing p.place p.nodes).sent := by
  -- The induction is on the forest; `p` stands for any stack beneath it, of as many frames as there are
  -- elements around the forest.
  induction forest generalizing p items with
  | nil =>
    cases List.map_eq_nil_iff.mp spelled
    have same : p.after (Forest.nil.evaluate processing p.place p.nodes) = p := by
      rcases p with ⟨origin, base, stack, nodes⟩
      cases stack <;> simp [after, Forest.evaluate, place, Frame.hear_nil]
    rw [same]
    exact .nil
  | text bytes rest ih =>
    obtain ⟨item, later, rfl, token, rest_tokens⟩ := List.map_eq_cons_iff.mp spelled
    have step : p.step processing item = .ok (p.appendText (Element.decodeText bytes), []) := by
      simp only [step, token]
    refine reads_text step ?_
    rw [← place_appendText p (Element.decodeText bytes)]
    exact ih ((length_appendText p _).symm ▸ wellFormed) (lasting.appendText _) rest_tokens
  | cdata bytes rest ih =>
    obtain ⟨item, later, rfl, token, rest_tokens⟩ := List.map_eq_cons_iff.mp spelled
    have step : p.step processing item = .ok (p.appendText (Utf8.decode bytes), []) := by
      simp only [step, token]
    refine reads_text step ?_
    rw [← place_appendText p (Utf8.decode bytes)]
    exact ih ((length_appendText p _).symm ▸ wellFormed) (lasting.appendText _) rest_tokens
  | aside rest ih =>
    obtain ⟨item, later, rfl, token, rest_tokens⟩ := List.map_eq_cons_iff.mp spelled
    have step : p.step processing item = .ok (p, []) := by simp only [step, token]
    have reads := ih wellFormed lasting rest_tokens
    exact .cons step reads
  | element start ending children rest ihChildren ihRest =>
    obtain ⟨room, fits, inner, outer⟩ := wellFormed
    rcases opens : (Element.process processing (p.placeOf start)
      (.ofMarkup start.attributes)).run ⟨p.nodes, []⟩ with ⟨⟨scope, waiting⟩, entered⟩
    rcases evaluated : children.evaluate processing
      ⟨Forest.baseFrom p.base start, scope, false⟩ entered.nodes with inside
    have regrouped : items.map (·.token) =
        (ending.opening start :: (children.tokens ++ ending.closing)) ++ rest.tokens := by
      simpa [Forest.tokens] using spelled
    obtain ⟨here, later, rfl, here_tokens, later_tokens⟩ := List.map_eq_append_iff.mp regrouped
    have inward : ∀ inside_items : List Markup.Item,
        inside_items.map (·.token) = children.tokens →
          closesItself processing start.tag.name = false →
            (p.within start scope waiting entered.nodes).Reads processing inside_items
              ((p.within start scope waiting entered.nodes).after inside) inside.sent := by
      intro inside_items written standing
      have still : (p.within start scope waiting entered.nodes).Lasting processing :=
        List.forall_mem_cons.mpr ⟨standing, lasting⟩
      rw [← evaluated]
      exact ihChildren (p := p.within start scope waiting entered.nodes) inner still written
    have first := reads_element room lasting fits opens evaluated inward here_tokens
    have level : (p.after inside).stack.length = p.stack.length := List.length_map _
    have second := ihRest (level.symm ▸ outer) (lasting.after inside) later_tokens
    rw [after_after] at second
    rw [evaluate_element opens evaluated]
    exact first.append second

end Processor
end Rdfa.Document
