import Rdfa.Proofs.Document.Properties
import Rdfa.Proofs.Document.Shorthand
import Rdfa.Proofs.Element.Uses

-- The warnings of a document: each element goes on with the nodes where the one before it left off, so all
-- that is named has one register, and what is diagnosed follows from it.
namespace Rdfa

open Document Element

theorem Markup.Lexer.items_of_tokens? {l last : Lexer} {bytes : Bytes} {tokens : List Token}
    (read : l.tokens? bytes = some (tokens, last)) : (l.items bytes).map (·.token) = tokens := by
  induction bytes generalizing l tokens with
  | nil =>
    cases read
    rfl
  | cons b bytes ih =>
    obtain ⟨next, item, later, stepped, rest, rfl⟩ := tokens?_cons_eq_some_iff.mp read
    rw [items, stepped]
    dsimp only
    rw [List.map_append, ih rest]
    cases item <;> rfl

namespace Document

variable {processing : Processing} {base : Text} {p next : Processor} {opened : List Standing}
  {nodes last : Nodes} {stages : List Stage} {sent : List Emission}

def register (elements : List Entry) : List Use := elements.flatMap Entry.uses

theorem diagnoses_complete (pending : Option PendingLiteral) (text : Text) :
    Diagnoses [] (Forest.complete pending text) := by
  refine .of_besides fun emission present => ?_
  unfold Forest.complete at present
  split at present
  · cases present
  · obtain ⟨predicate, _, rfl⟩ := List.mem_map.mp present
    rfl

theorem Recounts.registered {known : List Attributes} (announces : processing.announceWarnings = true)
    (recounts : Recounts processing base known sent stages) :
    ∀ e ∈ entries stages, e.Registered processing := fun e present =>
  Entry.registered announces (recounts.subject_isSome e present)

section Chained

variable {elements : List Entry}

theorem Chained.giveAll (chained : Chained processing nodes elements last)
    (registered : ∀ e ∈ elements, e.Registered processing) : last = nodes.giveAll (register elements) := by
  induction elements generalizing nodes with
  | nil => exact chained
  | cons e later ih =>
    obtain ⟨here, others⟩ := List.forall_mem_cons.mp registered
    obtain ⟨rfl, chained⟩ := chained
    rw [ih chained others, here.after, ← Nodes.giveAll_append]
    rfl

theorem Chained.nodes_eq {before after : List Entry} {e : Entry}
    (chained : Chained processing nodes (before ++ e :: after) last)
    (registered : ∀ d ∈ before, d.Registered processing) : e.nodes = nodes.giveAll (register before) := by
  obtain ⟨middle, early, here, _⟩ := chained_append_iff.mp chained
  rw [here]
  exact early.giveAll registered

-- Elements are diagnosed when they are entered, and never when they are left.
theorem Chained.diagnoses (chained : Chained processing nodes (entries stages) last)
    (registered : ∀ e ∈ entries stages, e.Registered processing) :
    Diagnoses (numbered nodes.minted (register (entries stages)))
      (stages.flatMap (Stage.sent processing)) := by
  induction stages generalizing nodes with
  | nil => exact .nil
  | cons stage later ih =>
    rw [List.flatMap_cons]
    cases stage with
    | entered e around =>
      rw [entries_entered] at chained registered ⊢
      obtain ⟨here, others⟩ := List.forall_mem_cons.mp registered
      obtain ⟨rfl, chained⟩ := chained
      have further := ih chained others
      rw [here.after, Nodes.giveAll_minted] at further
      rw [register, List.flatMap_cons, numbered_append]
      exact here.sent.append further
    | left e text =>
      rw [entries_left] at chained registered ⊢
      exact (diagnoses_complete (e.pending processing) text).append (ih chained registered)

theorem Chained.uses_at (chained : Chained processing .none elements last)
    (registered : ∀ e ∈ elements, e.Registered processing) (others : List Use) {e : Entry}
    (present : e ∈ elements) :
    ∃ before after, register elements ++ others = before ++ e.uses ++ after ∧
      e.nodes = Nodes.none.giveAll before ∧ e.nodes.minted = before.length := by
  obtain ⟨before, after, rfl⟩ := List.append_of_mem present
  have nodes := chained.nodes_eq fun d early => registered d (List.mem_append_left _ early)
  refine ⟨register before, register after ++ others, ?_, nodes, ?_⟩
  · rw [register, List.flatMap_append, List.flatMap_cons]
    simp only [register, List.append_assoc]
  · rw [nodes, Nodes.giveAll_minted]
    exact Nat.zero_add _

end Chained

-- No two warnings have one node, and none has a node that is named for anything else.
structure Apart (processing : Processing) (elements : List Entry) (diagnoses : List (Nat × Warning)) :
    Prop where
  distinct : (diagnoses.map fun (number, _) => Nodes.name number).Nodup
  typed : ∀ e ∈ elements, e.place.anonymous e.attributes = true →
    ∃ node, (e.reckoned processing).roles.typed = some node ∧ ∀ d ∈ diagnoses, Nodes.name d.1 ≠ node
  hanging : ∀ e ∈ elements, e.hangs = true →
    ∃ node, (e.scope processing).parentObject = some node ∧ ∀ d ∈ diagnoses, Nodes.name d.1 ≠ node
  labelled : ∀ e ∈ elements, ∀ pair ∈ (e.after processing).labels, ∀ d ∈ diagnoses, Nodes.name d.1 ≠ pair.2

theorem Chained.apart {elements : List Entry} (chained : Chained processing .none elements last)
    (registered : ∀ e ∈ elements, e.Registered processing) (others : List Use) :
    Apart processing elements (numbered 0 (register elements ++ others)) := by
  have of_use {e : Entry} (present : e ∈ elements) {number : Nat} {use : Use}
      (found : e.uses[number]? = some use) (other : use.warning? = none) :
      ∀ d ∈ numbered 0 (register elements ++ others),
        Nodes.name d.1 ≠ Nodes.name (e.nodes.minted + number) := by
    obtain ⟨before, after, whole, _, minted⟩ := chained.uses_at registered others present
    have inside := (List.getElem?_eq_some_iff.mp found).1
    refine numbered_apart ?_ other
    rw [whole, minted, List.append_assoc, List.getElem?_append_right (Nat.le_add_right _ _),
      Nat.add_sub_cancel_left, List.getElem?_append_left inside, found]
  constructor
  case distinct => exact numbered_nodup _
  case typed =>
    intro e present anonymous
    obtain ⟨number, use, typed⟩ := (registered e present).typed anonymous
    exact ⟨_, typed, of_use present use rfl⟩
  case hanging =>
    intro e present hangs
    obtain ⟨number, use, object⟩ := (registered e present).hanging hangs
    exact ⟨_, object, of_use present use rfl⟩
  case labelled =>
    rintro e present ⟨label, node⟩ known
    obtain ⟨before, after, whole, nodes, _⟩ := chained.uses_at registered others present
    rw [(registered e present).after, nodes, ← Nodes.giveAll_append] at known
    obtain ⟨⟨⟩⟩ | ⟨number, use, rfl⟩ := Nodes.exists_of_label known
    have inside := (List.getElem?_eq_some_iff.mp use).1
    have found : (register elements ++ others)[number]? = some (.label label) := by
      rw [whole, List.getElem?_append_left inside, use]
    exact (Nat.zero_add number).symm ▸ numbered_apart found rfl

namespace Processor

theorem Holds.takes_chained (holds : p.Holds processing base opened) {tokens : List Markup.Token}
    (takes : p.Takes processing tokens next sent) :
    ∃ stages last, Moves processing base opened (tokens.filterMap fun token => attributes? ⟨0, token⟩) next
        sent stages last ∧ Chained processing p.nodes (entries stages) next.nodes := by
  -- The induction is on the tokens.
  induction tokens generalizing p opened sent with
  | nil =>
    obtain ⟨rfl, rfl⟩ := takes_nil_iff.mp takes
    exact ⟨[], opened, holds.silent, rfl⟩
  | cons token tokens ih =>
    obtain _ | ⟨stepped, later⟩ := takes
    obtain ⟨early, middle, moves, chained⟩ := holds.step_chained stepped
    obtain ⟨late, last, others, further⟩ := ih moves.holds later
    refine ⟨early ++ late, last, ?_, ?_⟩
    · have both := moves.append others
      rw [List.filterMap_cons]
      cases found : attributes? ⟨0, token⟩ <;> rw [found] at both <;> exact both
    · rw [entries, List.filterMap_append]
      exact chained_append_iff.mpr ⟨_, chained, further⟩

end Processor

def leftOpen (count : Nat) : List Warning := if count = 0 then [] else [.unclosedElements count]

theorem Processor.finish_diagnoses (announces : processing.announceWarnings = true) (p : Processor) :
    ∃ told, p.finish processing = p.remaining ++ told ∧
      Diagnoses (numbered p.nodes.minted ((leftOpen p.stack.length).map .warning)) told := by
  refine ⟨_, rfl, ?_⟩
  unfold leftOpen ending
  split
  · exact .nil
  · have registers : (warn processing (.unclosedElements p.stack.length)).Registers p.nodes _ _ :=
      warn_registers announces _
    obtain ⟨_, told, ran, _, diagnosed⟩ := registers []
    rw [ran]
    exact diagnosed

-- A document is told in stages, each element with the nodes from those before it, and nothing is said beyond
-- the stages but that elements are open at the end. All warnings are those of the register.
structure Diagnosed (processing : Processing) (base : Text) (known : List Attributes) (count : Nat)
    (sent : List Emission) (stages : List Stage) : Prop where
  recounts : Recounts processing base known sent stages
  chained : ∃ last, Chained processing .none (entries stages) last
  said : stages.flatMap (Stage.sent processing) <+: sent
  diagnoses : Diagnoses (numbered 0 (register (entries stages) ++ (leftOpen count).map .warning)) sent

namespace Reading

variable {r : Reading} {known : List Attributes}

def Notes (processing : Processing) (base : Text) (known : List Attributes) (r : Reading) : Prop :=
  ∃ stages opened, Processor.Moves processing base [] known r.processor r.sent.reverse stages opened ∧
    Chained processing .none (entries stages) r.processor.nodes

theorem notes_read {document : Bytes} (sound : ((initial base).read processing document).malformation = none) :
    ((initial base).read processing document).Notes processing base (tags document) := by
  obtain ⟨tokens, sent, comes⟩ := comes_of_sound sound
  have holds : (initial base).processor.Holds processing base [] := .initial base
  obtain ⟨stages, opened, moves, chained⟩ := holds.takes_chained comes.processor
  have known : tags document = tokens.filterMap fun token => attributes? ⟨0, token⟩ := by
    rw [← Markup.Lexer.items_of_tokens? comes.lexer, List.filterMap_map]
    rfl
  have said : ((initial base).read processing document).sent.reverse = sent := by
    rw [comes.sent, List.reverse_append, List.reverse_reverse]
    rfl
  exact ⟨stages, opened, by rw [known, said]; exact moves, chained⟩

theorem Notes.text (notes : r.Notes processing base known) {item : Markup.Item} {bytes : Bytes}
    (text : item.token = .text bytes) : (take processing r item).Notes processing base known ∧
      (take processing r item).processor.stack.length = r.processor.stack.length := by
  obtain ⟨stages, opened, moves, chained⟩ := notes
  have taken : take processing r item =
      { r with processor := r.processor.appendText (decodeText bytes) } := by
    simp only [take, Processor.step, text]
    rfl
  rw [taken]
  refine ⟨⟨stages, opened.map (·.hear (decodeText bytes)), ?_, chained⟩, List.length_map _⟩
  have heard := moves.append (moves.holds.hear (decodeText bytes))
  simp only [List.append_nil] at heard
  exact heard

theorem Notes.finishing (announces : processing.announceWarnings = true)
    (notes : r.Notes processing base known) (sound : r.malformation = none) :
    ∃ stages, Diagnosed processing base known r.processor.stack.length
      (r.finishing processing).sent.reverse stages := by
  obtain ⟨stages, opened, moves, chained⟩ := notes
  obtain ⟨last, silent, remaining, recounts⟩ := recounts_finishing moves sound
  obtain ⟨told, finish, diagnosed⟩ := r.processor.finish_diagnoses announces
  have all : entries (stages ++ last) = entries stages := by
    rw [entries, List.filterMap_append]
    exact (congrArg _ silent).trans (List.append_nil _)
  rw [← all] at chained
  have registered := recounts.registered announces
  have said : (r.finishing processing).sent.reverse =
      (stages ++ last).flatMap (Stage.sent processing) ++ told := by
    simp [Reading.finishing, sound, finish, remaining, moves.sent]
  refine ⟨stages ++ last, recounts, ⟨_, chained⟩, ⟨told, said.symm⟩, ?_⟩
  rw [chained.giveAll registered, Nodes.giveAll_minted] at diagnosed
  rw [said, numbered_append]
  exact (chained.diagnoses registered).append diagnosed

end Reading

def openAtEnd (processing : Processing) (base : Text) (document : Bytes) : Nat :=
  ((Reading.initial base).read processing document).processor.stack.length

end Document

theorem Extractor.whole_diagnoses {x : Extractor} {document : Bytes}
    (sound : (x.whole document).malformation = none) (announces : x.processing.announceWarnings = true) :
    ∃ stages, Diagnosed x.processing x.base (tags document) (openAtEnd x.processing x.base document)
      (x.whole document).sent.reverse stages := by
  unfold whole finished at sound ⊢
  have read := Reading.sound_of_close sound
  have notes := Reading.notes_read read
  unfold openAtEnd
  generalize (Reading.initial x.base).read x.processing document = r at sound read notes
  cases closed : r.lexer.close with
  | error flaw =>
    rw [Reading.close_of_error read closed] at sound
    cases sound
  | ok item =>
    rw [Reading.close_of_ok read closed] at sound ⊢
    rw [Reading.finishing_malformation] at sound
    cases item with
    | none => exact notes.finishing announces sound
    | some item =>
      obtain ⟨bytes, text⟩ := Markup.Lexer.text_of_close closed
      obtain ⟨heard, standing⟩ := notes.text text
      rw [← standing]
      exact heard.finishing announces sound

end Rdfa
