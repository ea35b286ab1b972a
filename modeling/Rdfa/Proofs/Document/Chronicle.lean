import Rdfa.Proofs.Document.Evaluation
import Rdfa.Proofs.Document.Sound
import Rdfa.Proofs.Document.Stages

-- The stages of any document that is read without a flaw, however its elements come to their ends: each
-- element is entered inside those that stand open and is left before them, if only at the end of input.
namespace Rdfa.Document

open Element

inductive Follows : List Entry → List Stage → List Entry → Prop where
  | nil (around : List Entry) : Follows around [] around
  | enter {e : Entry} {around last : List Entry} {stages : List Stage}
      (later : Follows (e :: around) stages last) : Follows around (.entered e around :: stages) last
  | leave {e : Entry} {around last : List Entry} {stages : List Stage} {text : Text}
      (later : Follows around stages last) : Follows (e :: around) (.left e text :: stages) last

theorem Follows.append {around middle last : List Entry} {first second : List Stage}
    (early : Follows around first middle) (late : Follows middle second last) :
    Follows around (first ++ second) last := by
  induction early with
  | nil => exact late
  | enter _ ih => exact .enter (ih late)
  | leave _ ih => exact .leave (ih late)

structure Standing where
  name : Bytes
  element : Entry
  texts : List Text

variable (processing : Processing)

def Standing.frame (standing : Standing) : Frame :=
  (⟨standing.name, standing.element.scope processing, standing.element.pending processing⟩ :
    Frame).hear standing.texts

def Standing.hear (standing : Standing) (text : Text) : Standing :=
  { standing with texts := standing.texts ++ [text] }

def entries (stages : List Stage) : List Entry :=
  stages.filterMap fun
    | .entered element _ => some element
    | .left _ _ => none

@[simp] theorem entries_entered (e : Entry) (around : List Entry) (stages : List Stage) :
    entries (.entered e around :: stages) = e :: entries stages := rfl

@[simp] theorem entries_left (e : Entry) (text : Text) (stages : List Stage) :
    entries (.left e text :: stages) = entries stages := rfl

def elements (standing : List Standing) : List Entry := standing.map (·.element)

def Chained (nodes : Nodes) : List Entry → Nodes → Prop
  | [], last => last = nodes
  | e :: later, last => e.nodes = nodes ∧ Chained (e.after processing) later last

variable {processing} {base : Text} {p : Processor} {opened : List Standing}

theorem chained_append_iff {nodes last : Nodes} {first second : List Entry} :
    Chained processing nodes (first ++ second) last ↔
      ∃ middle, Chained processing nodes first middle ∧ Chained processing middle second last := by
  induction first generalizing nodes with
  | nil =>
    constructor
    · intro chained
      exact ⟨nodes, rfl, chained⟩
    · rintro ⟨_, rfl, chained⟩
      exact chained
  | cons e first ih =>
    constructor
    · rintro ⟨here, later⟩
      obtain ⟨middle, early, late⟩ := ih.mp later
      exact ⟨middle, ⟨here, early⟩, late⟩
    · rintro ⟨middle, ⟨here, early⟩, late⟩
      exact ⟨here, ih.mpr ⟨middle, early, late⟩⟩

theorem pending_unheard (e : Entry) : Unheard (e.pending processing) :=
  (process_ensures processing e.place e.attributes).yielded ⟨e.nodes, []⟩

theorem Standing.frame_hear (standing : Standing) (text : Text) :
    (standing.hear text).frame processing = (standing.frame processing).hear [text] :=
  (Frame.hear_append _ _ _).symm

theorem Standing.emissions (standing : Standing) :
    (standing.frame processing).pending.elim [] (·.emissions) =
      (Stage.left standing.element standing.texts.flatten).sent processing :=
  Frame.hear_emissions (pending_unheard standing.element) standing.texts

namespace Processor

structure Holds (processing : Processing) (base : Text) (p : Processor) (opened : List Standing) :
    Prop where
  origin : p.origin = base
  stack : p.stack = opened.map (Standing.frame processing)
  stands : Stands processing (.outermost base) p.place (elements opened)

-- What a token makes of the elements that stand open, and what is sent on the way.
structure Moves (processing : Processing) (base : Text) (opened : List Standing)
    (known : List Attributes) (next : Processor) (sent : List Emission) (stages : List Stage)
    (last : List Standing) : Prop where
  holds : next.Holds processing base last
  follows : Follows (elements opened) stages (elements last)
  sent : sent = stages.flatMap (Stage.sent processing)
  entered : (entries stages).map (·.attributes) = known
  stand : ∀ e around, .entered e around ∈ stages →
    Stands processing (.outermost base) e.place around

namespace Holds

theorem initial (base : Text) : (Processor.initial base).Holds processing base [] :=
  ⟨rfl, rfl, .outside base⟩

theorem silent (holds : p.Holds processing base opened) :
    Moves processing base opened [] p [] [] opened :=
  ⟨holds, .nil _, rfl, rfl, fun _ _ present => by cases present⟩

end Holds

theorem place_eq (origin : p.origin = base) (stack : p.stack = opened.map (Standing.frame processing))
    {place : Place} (stands : Stands processing (.outermost base) place (elements opened)) :
    p.place = { place with base := p.base } := by
  unfold Processor.place
  cases opened with
  | nil =>
    rw [List.map_nil] at stack
    cases stands with
    | outside base => simp only [stack, origin, Place.outermost]
  | cons standing rest =>
    rw [List.map_cons] at stack
    cases stands with
    | inside base outer =>
      simp only [stack]
      rfl

def entry (p : Processor) (name : Bytes) (attributes : Attributes) : Entry :=
  ⟨(p.rebase name attributes).place, attributes, p.nodes⟩

theorem place_rebased (p : Processor) (base : Text) :
    ({ p with base } : Processor).place = { p.place with base } := by
  obtain ⟨origin, old, stack, nodes⟩ := p
  cases stack <;> rfl

theorem rebase_only (p : Processor) (name : Bytes) (attributes : Attributes) :
    p.rebase name attributes = { p with base := (p.rebase name attributes).base } := by
  unfold rebase
  split <;> rfl

theorem enter_eq (p : Processor) (name : Bytes) (attributes : Attributes) :
    p.enter processing name attributes =
      ({ p with
          base := (p.rebase name attributes).base
          stack := (⟨name, p.entry name attributes, []⟩ : Standing).frame processing :: p.stack
          nodes := (p.entry name attributes).after processing },
        (p.entry name attributes).sent processing) := by
  have nodes : (p.rebase name attributes).nodes = p.nodes := by rw [rebase_only]
  have stack : (p.rebase name attributes).stack = p.stack := by rw [rebase_only]
  have origin : (p.rebase name attributes).origin = p.origin := by rw [rebase_only]
  unfold enter Standing.frame
  rw [Frame.hear_nil]
  dsimp only
  rw [stack, origin, nodes]
  rfl

theorem Holds.enter (holds : p.Holds processing base opened) (name : Bytes)
    (attributes : Attributes) :
    Moves processing base opened [attributes] (p.enter processing name attributes).1
      (p.enter processing name attributes).2
      [.entered (p.entry name attributes) (elements opened)]
      (⟨name, p.entry name attributes, []⟩ :: opened) := by
  have place : (p.rebase name attributes).place =
      { p.place with base := (p.rebase name attributes).base } := by
    rw [rebase_only]
    exact p.place_rebased _
  have stands : Stands processing (.outermost base) (p.entry name attributes).place
      (elements opened) := by
    unfold entry
    rw [place]
    exact holds.stands.rebase _
  rw [enter_eq]
  refine ⟨⟨holds.origin, congrArg _ holds.stack, .inside _ stands⟩, .enter (.nil _), ?_, rfl, ?_⟩
  · exact (List.append_nil _).symm
  · intro e around entered
    cases List.mem_singleton.mp entered
    exact stands

theorem chained_enter (p : Processor) (name : Bytes) (attributes : Attributes) :
    Chained processing p.nodes [p.entry name attributes] (p.enter processing name attributes).1.nodes := by
  rw [enter_eq]
  exact ⟨rfl, rfl⟩

@[simp] theorem closeTop_nodes (p : Processor) : p.closeTop.1.nodes = p.nodes := by
  unfold Processor.closeTop
  split <;> rfl

theorem Holds.leave {standing : Standing} (holds : p.Holds processing base (standing :: opened)) :
    Moves processing base (standing :: opened) [] p.closeTop.1 p.closeTop.2
      [.left standing.element standing.texts.flatten] opened := by
  have stack := holds.stack
  rw [List.map_cons] at stack
  have closed : p.closeTop = ({ p with stack := opened.map (Standing.frame processing) },
      (Stage.left standing.element standing.texts.flatten).sent processing) := by
    unfold Processor.closeTop
    rw [stack, ← standing.emissions]
  have stands : Stands processing (.outermost base) standing.element.place (elements opened) := by
    have inside : Stands processing (.outermost base) p.place
        ([] ++ standing.element :: elements opened) := holds.stands
    exact inside.of_around
  have place := place_eq (p := { p with stack := opened.map (Standing.frame processing) })
    holds.origin rfl stands
  rw [closed]
  refine ⟨⟨holds.origin, rfl, ?_⟩, .leave (.nil _), (List.append_nil _).symm, rfl, fun e around => ?_⟩
  · rw [place]
    exact stands.rebase _
  · simp

theorem Holds.hear (holds : p.Holds processing base opened) (text : Text) :
    Moves processing base opened [] (p.appendText text) [] [] (opened.map (·.hear text)) := by
  have same : elements (opened.map (·.hear text)) = elements opened := by
    simp [elements, Standing.hear, Function.comp_def]
  have place : (p.appendText text).place = p.place := by
    obtain ⟨origin, base, stack, nodes⟩ := p
    cases stack <;> rfl
  refine ⟨⟨holds.origin, ?_, ?_⟩, ?_, rfl, rfl, fun _ _ present => by cases present⟩
  · show p.stack.map (Frame.hear · [text]) = _
    rw [holds.stack, List.map_map, List.map_map]
    exact List.map_congr_left fun standing _ => (standing.frame_hear text).symm
  · rw [place, same]
    exact holds.stands
  · rw [same]
    exact .nil _

namespace Moves

variable {known more : List Attributes} {next last : Processor} {sent others : List Emission}
  {stages later : List Stage} {middle final : List Standing}

theorem append (first : Moves processing base opened known next sent stages middle)
    (second : Moves processing base middle more last others later final) :
    Moves processing base opened (known ++ more) last (sent ++ others) (stages ++ later) final := by
  refine ⟨second.holds, first.follows.append second.follows, ?_, ?_, fun e around entered => ?_⟩
  · rw [first.sent, second.sent, List.flatMap_append]
  · rw [entries, List.filterMap_append, List.map_append]
    exact congrArg₂ _ first.entered second.entered
  · rcases List.mem_append.mp entered with early | late
    · exact first.stand e around early
    · exact second.stand e around late

end Moves

variable {next : Processor} {sent : List Emission}

theorem Holds.openElement (holds : p.Holds processing base opened) {position : Nat} {tag : Markup.Tag}
    (stepped : p.openElement processing position tag = .ok (next, sent)) :
    ∃ e attributes, tag.attributes = .ok attributes ∧
      Moves processing base opened [.ofMarkup attributes] next sent [.entered e (elements opened)]
        (⟨tag.name, e, []⟩ :: opened) ∧ Chained processing p.nodes [e] next.nodes := by
  unfold Processor.openElement at stepped
  split at stepped
  · cases stepped
  · split at stepped
    · cases stepped
    · next attributes read =>
      have entered := holds.enter tag.name (.ofMarkup attributes)
      have chained : Chained processing p.nodes _ _ := p.chained_enter tag.name (.ofMarkup attributes)
      rw [Except.ok.inj stepped] at entered chained
      exact ⟨_, attributes, read, entered, chained⟩

theorem Holds.openAndClose (holds : p.Holds processing base opened) {position : Nat}
    {tag : Markup.Tag}
    (stepped : thenClose (p.openElement processing position tag) = .ok (next, sent)) :
    ∃ stages attributes, tag.attributes = .ok attributes ∧
      Moves processing base opened [.ofMarkup attributes] next sent stages opened ∧
      Chained processing p.nodes (entries stages) next.nodes := by
  unfold thenClose at stepped
  cases entered : p.openElement processing position tag with
  | error refusal =>
    rw [entered] at stepped
    cases stepped
  | ok result =>
    rw [entered] at stepped
    obtain ⟨e, attributes, read, moves, chained⟩ := holds.openElement entered
    cases stepped
    refine ⟨_, attributes, read, moves.append moves.holds.leave, ?_⟩
    rw [closeTop_nodes]
    exact chained

theorem Holds.closeElement (holds : p.Holds processing base opened) {position : Nat} {name : Bytes}
    (stepped : p.closeElement processing position name = .ok (next, sent)) :
    ∃ stages last, Moves processing base opened [] next sent stages last ∧
      Chained processing p.nodes (entries stages) next.nodes := by
  unfold Processor.closeElement at stepped
  dsimp only at stepped
  split at stepped
  · split at stepped
    · cases stepped
      exact ⟨_, _, holds.silent, rfl⟩
    · cases stepped
  · next frame rest stack =>
    split at stepped
    · cases opened with
      | nil => cases stack.symm.trans holds.stack
      | cons standing opened =>
        have left := holds.leave
        have same := p.closeTop_nodes
        rw [Except.ok.inj stepped] at left same
        exact ⟨_, _, left, same⟩
    · split at stepped
      · cases stepped
        exact ⟨_, _, holds.silent, rfl⟩
      · cases stepped

theorem Holds.step_chained (holds : p.Holds processing base opened) {item : Markup.Item}
    (stepped : p.step processing item = .ok (next, sent)) :
    ∃ stages last, Moves processing base opened (attributes? item).toList next sent stages last ∧
      Chained processing p.nodes (entries stages) next.nodes := by
  -- The cases are the kinds of tokens.
  unfold Processor.step at stepped
  unfold attributes?
  cases token : item.token with
  | opening tag =>
    rw [token] at stepped
    dsimp only at stepped ⊢
    split at stepped
    · obtain ⟨stages, attributes, read, moves⟩ := holds.openAndClose stepped
      exact ⟨stages, opened, by rw [read]; exact moves⟩
    · obtain ⟨e, attributes, read, moves⟩ := holds.openElement stepped
      exact ⟨_, _, by rw [read]; exact moves⟩
  | standalone tag =>
    rw [token] at stepped
    dsimp only at stepped ⊢
    obtain ⟨stages, attributes, read, moves⟩ := holds.openAndClose stepped
    exact ⟨stages, opened, by rw [read]; exact moves⟩
  | closing name =>
    rw [token] at stepped
    exact holds.closeElement stepped
  | text bytes =>
    rw [token] at stepped
    cases stepped
    exact ⟨_, _, holds.hear _, rfl⟩
  | cdata bytes =>
    rw [token] at stepped
    cases stepped
    exact ⟨_, _, holds.hear _, rfl⟩
  | aside =>
    rw [token] at stepped
    cases stepped
    exact ⟨_, _, holds.silent, rfl⟩

theorem Holds.step (holds : p.Holds processing base opened) {item : Markup.Item}
    (stepped : p.step processing item = .ok (next, sent)) :
    ∃ stages last, Moves processing base opened (attributes? item).toList next sent stages last := by
  obtain ⟨stages, last, moves, _⟩ := holds.step_chained stepped
  exact ⟨stages, last, moves⟩

theorem Holds.remaining (holds : p.Holds processing base opened) :
    ∃ stages, Follows (elements opened) stages [] ∧
      p.remaining = stages.flatMap (Stage.sent processing) ∧
      entries stages = [] ∧ ∀ e around, .entered e around ∉ stages := by
  refine ⟨opened.map fun standing => .left standing.element standing.texts.flatten, ?_, ?_, ?_, ?_⟩
  · clear holds
    induction opened with
    | nil => exact .nil _
    | cons standing opened ih => exact .leave ih
  · rw [Processor.remaining, holds.stack, List.flatMap_map, List.flatMap_map]
    simp only [Standing.emissions]
  · simp [entries]
  · simp

theorem finish_factual (p : Processor) :
    Emission.factual (p.finish processing) = Emission.factual p.remaining := by
  unfold finish ending
  rw [Emission.factual_append]
  split
  · exact List.append_nil _
  · have warned := (warn_states processing (.unclosedElements p.stack.length)).stated ⟨p.nodes, []⟩
    rw [warned]
    exact List.append_nil _

end Processor

-- All that is said of a document is said in these stages. Its start tags are `known`; each enters an
-- element where it stands, and no element is open before or after.
structure Recounts (processing : Processing) (base : Text) (known : List Attributes)
    (sent : List Emission) (stages : List Stage) : Prop where
  follows : Follows [] stages []
  entered : (entries stages).map (·.attributes) = known
  stand : ∀ e around, .entered e around ∈ stages →
    Stands processing (.outermost base) e.place around
  facts : Emission.factual sent = Emission.factual (stages.flatMap (Stage.sent processing))

namespace Reading

def Tells (processing : Processing) (base : Text) (known : List Attributes) (r : Reading) : Prop :=
  ∃ stages last, Processor.Moves processing base [] known r.processor r.sent.reverse stages last

variable {r : Reading} {known : List Attributes}

namespace Tells

theorem initial (base : Text) : (Reading.initial base).Tells processing base [] :=
  ⟨[], [], (Processor.Holds.initial base).silent⟩

theorem take (tells : r.Tells processing base known) {item : Markup.Item}
    (sound : (Reading.take processing r item).malformation = none) :
    (Reading.take processing r item).Tells processing base (known ++ (attributes? item).toList) := by
  obtain ⟨stages, opened, moves⟩ := tells
  unfold Reading.take at sound ⊢
  cases stepped : r.processor.step processing item with
  | error refusal =>
    rw [stepped] at sound
    cases sound
  | ok result =>
    obtain ⟨next, sent⟩ := result
    obtain ⟨later, last, moved⟩ := moves.holds.step stepped
    refine ⟨stages ++ later, last, ?_⟩
    dsimp only
    rw [List.reverse_append, List.reverse_reverse]
    exact moves.append moved

end Tells

theorem Tells.read {bytes : Bytes} (tells : r.Tells processing base known)
    (sound : (r.read processing bytes).malformation = none) :
    (r.read processing bytes).Tells processing base
      (known ++ (r.lexer.items bytes).filterMap attributes?) := by
  -- The induction is on the bytes; each completes at most one token.
  induction bytes generalizing r known with
  | nil =>
    rw [Markup.Lexer.items, List.filterMap_nil, List.append_nil]
    exact tells
  | cons byte rest ih =>
    have fine := sound_of_read sound
    have next : (r.readByte processing byte).malformation = none := sound_of_read sound
    show ((r.readByte processing byte).read processing rest).Tells processing base _
    cases stepped : r.lexer.step byte with
    | error flaw =>
      rw [readByte_of_error fine stepped] at next
      cases next
    | ok reached =>
      obtain ⟨lexer, item⟩ := reached
      have read : r.readByte processing byte = _ := readByte_of_ok fine stepped
      rw [Markup.Lexer.items, stepped]
      cases item with
      | none =>
        have same : (r.readByte processing byte).lexer = lexer := by rw [read]; rfl
        have moved : (r.readByte processing byte).Tells processing base known := by rw [read]; exact tells
        have later := ih moved sound
        rw [same] at later
        exact later
      | some item =>
        have same : (r.readByte processing byte).lexer = lexer := by
          rw [read]
          exact take_lexer _ item
        have begun : ({ r with lexer } : Reading).Tells processing base known := tells
        have moved : (r.readByte processing byte).Tells processing base
            (known ++ (attributes? item).toList) := by
          rw [read] at next ⊢
          exact begun.take next
        have later := ih moved sound
        rw [same, List.append_assoc] at later
        have here : (some item).toList.filterMap attributes? = (attributes? item).toList := by
          cases found : attributes? item <;> simp [found]
        rw [List.filterMap_append, here]
        exact later

theorem recounts_finishing {stages : List Stage} {opened : List Standing}
    (moves : Processor.Moves processing base [] known r.processor r.sent.reverse stages opened)
    (sound : r.malformation = none) :
    ∃ last, entries last = [] ∧ r.processor.remaining = last.flatMap (Stage.sent processing) ∧
      Recounts processing base known (r.finishing processing).sent.reverse (stages ++ last) := by
  obtain ⟨last, follows, remaining, silent, unentered⟩ := moves.holds.remaining
  refine ⟨last, silent, remaining, moves.follows.append follows, ?_, fun e around entered => ?_, ?_⟩
  · rw [entries, List.filterMap_append, List.map_append, ← List.append_nil known]
    exact congrArg₂ _ moves.entered (congrArg _ silent)
  · rcases List.mem_append.mp entered with early | late
    · exact moves.stand e around early
    · exact absurd late (unentered e around)
  · have finished : (r.finishing processing).sent.reverse =
        r.sent.reverse ++ r.processor.finish processing := by
      simp [Reading.finishing, sound]
    rw [finished, Emission.factual_append, Processor.finish_factual, remaining, moves.sent,
      List.flatMap_append, Emission.factual_append]

theorem Tells.finishing (tells : r.Tells processing base known) (sound : r.malformation = none) :
    ∃ stages, Recounts processing base known (r.finishing processing).sent.reverse stages := by
  obtain ⟨stages, opened, moves⟩ := tells
  obtain ⟨last, _, _, recounts⟩ := recounts_finishing moves sound
  exact ⟨stages ++ last, recounts⟩

theorem Tells.close (tells : r.Tells processing base known)
    (sound : (r.close processing).malformation = none) :
    ∃ stages, Recounts processing base known (r.close processing).sent.reverse stages := by
  cases failed : r.malformation with
  | some malformation =>
    rw [close_of_malformation failed, failed] at sound
    cases sound
  | none =>
    cases closed : r.lexer.close with
    | error flaw =>
      rw [close_of_error failed closed] at sound
      cases sound
    | ok item =>
      rw [close_of_ok failed closed] at sound ⊢
      rw [finishing_malformation] at sound
      cases item with
      | none => exact tells.finishing sound
      | some item =>
        obtain ⟨bytes, text⟩ := Markup.Lexer.text_of_close closed
        have nothing : attributes? item = none := by rw [attributes?, text]
        have taken := tells.take sound
        rw [nothing, Option.toList_none, List.append_nil] at taken
        exact taken.finishing sound

end Reading
end Rdfa.Document
