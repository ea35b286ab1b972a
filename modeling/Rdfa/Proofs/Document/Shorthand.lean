import Rdfa.Proofs.Document.Strays
import Rdfa.Proofs.Markup.Tokens

-- A self-closed tag and what it stands for: a start tag and its end tag or, where void elements are known,
-- the start tag alone. The processor is led to the same state and sends the same on the way.
namespace Rdfa.Document

open Markup

namespace Processor

variable {processing : Processing} {p next middle last : Processor} {tokens more : List Token}
  {sent others : List Emission} {item : Item}

def Takes (processing : Processing) (p : Processor) (tokens : List Token) (last : Processor)
    (sent : List Emission) : Prop :=
  p.Reads processing (tokens.map (⟨0, ·⟩)) last sent

theorem takes_nil_iff : p.Takes processing [] last sent ↔ last = p ∧ sent = [] := by
  constructor
  · rintro ⟨⟩
    exact ⟨rfl, rfl⟩
  · rintro ⟨rfl, rfl⟩
    exact .nil

theorem takes_item_iff : p.Takes processing [item.token] last sent ↔
    p.step processing item = .ok (last, sent) := by
  have same : (⟨0, item.token⟩ : Item).token = item.token := rfl
  constructor
  · rintro (_ | ⟨stepped, ⟨⟩⟩)
    rw [List.append_nil]
    exact step_anywhere same.symm stepped
  · intro stepped
    exact .single (step_anywhere same stepped)

theorem takes_append_iff : p.Takes processing (tokens ++ more) last sent ↔
    ∃ middle early late, p.Takes processing tokens middle early ∧
      middle.Takes processing more last late ∧ sent = early ++ late := by
  induction tokens generalizing p sent with
  | nil => simp [takes_nil_iff]
  | cons token tokens ih =>
    constructor
    · rintro (_ | ⟨stepped, later⟩)
      obtain ⟨middle, early, late, one, two, rfl⟩ := ih.mp later
      refine ⟨middle, _, late, .cons stepped one, two, ?_⟩
      rw [List.append_assoc]
    · rintro ⟨middle, _, late, _ | ⟨stepped, one⟩, two, rfl⟩
      rw [List.append_assoc]
      exact .cons stepped (ih.mpr ⟨middle, _, late, one, two, rfl⟩)

theorem Lasting.takes (lasting : p.Lasting processing) (takes : p.Takes processing tokens last sent) :
    last.Lasting processing := by
  induction tokens generalizing p sent with
  | nil =>
    obtain ⟨rfl, _⟩ := takes_nil_iff.mp takes
    exact lasting
  | cons token tokens ih =>
    obtain _ | ⟨stepped, later⟩ := takes
    exact ih (lasting.step stepped) later

end Processor

namespace Reading

variable {processing : Processing} {r : Reading} {bytes : Bytes} {tokens : List Token} {lexer : Lexer}
  {last : Processor} {sent : List Emission}

structure Comes (processing : Processing) (r : Reading) (bytes : Bytes) (tokens : List Token)
    (sent : List Emission) : Prop where
  lexer : r.lexer.tokens? bytes = some (tokens, (r.read processing bytes).lexer)
  processor : r.processor.Takes processing tokens (r.read processing bytes).processor sent
  sent : (r.read processing bytes).sent = sent.reverse ++ r.sent

theorem read_of_takes (sound : r.malformation = none) (read : r.lexer.tokens? bytes = some (tokens, lexer))
    (takes : r.processor.Takes processing tokens last sent) :
    r.read processing bytes = ⟨lexer, last, sent.reverse ++ r.sent, none⟩ := by
  induction bytes generalizing r tokens sent with
  | nil =>
    cases read
    obtain ⟨rfl, rfl⟩ := Processor.takes_nil_iff.mp takes
    exact congrArg (Reading.mk r.lexer r.processor r.sent) sound
  | cons b bytes ih =>
    obtain ⟨next, item, later, stepped, rest, rfl⟩ := Lexer.tokens?_cons_eq_some_iff.mp read
    obtain ⟨middle, early, late, one, two, rfl⟩ := Processor.takes_append_iff.mp takes
    have moved : r.readByte processing b = ⟨next, middle, early.reverse ++ r.sent, none⟩ := by
      rw [readByte_of_ok sound stepped]
      cases item with
      | none =>
        obtain ⟨rfl, rfl⟩ := Processor.takes_nil_iff.mp one
        exact congrArg (Reading.mk next r.processor r.sent) sound
      | some item =>
        have taken := Processor.takes_item_iff.mp one
        simp only [Option.elim, take, taken, sound]
    show (r.readByte processing b).read processing bytes = _
    rw [moved, ih rfl rest two, List.reverse_append, List.append_assoc]

variable (processing) in
theorem comes_of_readByte {b : UInt8} (sound : (r.readByte processing b).malformation = none) :
    ∃ item sent, r.lexer.step b = .ok ((r.readByte processing b).lexer, item) ∧
      r.processor.Takes processing (item.map (·.token)).toList (r.readByte processing b).processor sent ∧
      (r.readByte processing b).sent = sent.reverse ++ r.sent := by
  have read : (r.read processing [b]).malformation = none := sound
  have fine : r.malformation = none := sound_of_read read
  cases stepped : r.lexer.step b with
  | error misread =>
    rw [readByte_of_error fine stepped] at sound
    cases sound
  | ok reached =>
    obtain ⟨lexer, item⟩ := reached
    rw [readByte_of_ok fine stepped] at sound ⊢
    cases item with
    | none => exact ⟨none, [], rfl, .nil, rfl⟩
    | some item =>
      simp only [Option.elim, take] at sound ⊢
      cases taken : r.processor.step processing item with
      | error refusal =>
        rw [taken] at sound
        cases sound
      | ok result =>
        exact ⟨some item, result.2, rfl, Processor.takes_item_iff.mpr taken, rfl⟩

theorem comes_of_sound (sound : (r.read processing bytes).malformation = none) :
    ∃ tokens sent, r.Comes processing bytes tokens sent := by
  induction bytes generalizing r with
  | nil => exact ⟨[], [], rfl, .nil, rfl⟩
  | cons b bytes ih =>
    have next : (r.readByte processing b).malformation = none := sound_of_read sound
    obtain ⟨item, early, stepped, taken, said⟩ := comes_of_readByte processing next
    obtain ⟨later, late, comes⟩ := ih (r := r.readByte processing b) sound
    refine ⟨(item.map (·.token)).toList ++ later, early ++ late, ?_, ?_, ?_⟩
    · exact Lexer.tokens?_cons_eq_some_iff.mpr ⟨_, item, later, stepped, comes.lexer, rfl⟩
    · exact Processor.takes_append_iff.mpr ⟨_, early, late, taken, comes.processor, rfl⟩
    · rw [List.reverse_append, List.append_assoc, ← said]
      exact comes.sent

-- Two readings that made the same known and read on in the same way, but that more start tags wait in one.
structure Beside (extra : Nat) (r high : Reading) : Prop where
  sound : r.malformation = none
  highSound : high.malformation = none
  lexer : r.lexer.Raised extra high.lexer
  processor : high.processor = r.processor
  sent : high.sent = r.sent

namespace Beside

variable {extra : Nat} {high : Reading}

theorem read (beside : Beside extra r high) {bytes : Bytes}
    (sound : (r.read processing bytes).malformation = none) :
    Beside extra (r.read processing bytes) (high.read processing bytes) := by
  obtain ⟨tokens, sent, comes⟩ := comes_of_sound sound
  obtain ⟨reached, read, raised⟩ := beside.lexer.tokens? comes.lexer
  have takes : high.processor.Takes processing tokens (r.read processing bytes).processor sent :=
    beside.processor ▸ comes.processor
  have same := read_of_takes beside.highSound read takes
  rw [same]
  exact ⟨sound, rfl, raised, rfl, by rw [beside.sent, comes.sent]⟩

theorem finishing (beside : Beside extra r high) :
    (high.finishing processing).malformation = none ∧
      (high.finishing processing).sent = (r.finishing processing).sent := by
  rw [finishing_malformation]
  refine ⟨beside.highSound, ?_⟩
  simp only [Reading.finishing, beside.sound, beside.highSound, beside.processor, beside.sent]

theorem close (beside : Beside extra r high) (sound : (r.close processing).malformation = none) :
    (high.close processing).malformation = none ∧
      (high.close processing).sent = (r.close processing).sent := by
  cases closed : r.lexer.close with
  | error misread =>
    rw [close_of_error beside.sound closed] at sound
    cases sound
  | ok item =>
    obtain ⟨item', highClosed, same⟩ := beside.lexer.close closed
    rw [close_of_ok beside.sound closed] at sound ⊢
    rw [close_of_ok beside.highSound highClosed]
    cases item with
    | none =>
      cases Option.map_eq_none_iff.mp same
      exact beside.finishing
    | some item =>
      obtain ⟨other, rfl, token⟩ := Option.map_eq_some_iff.mp same
      rw [finishing_malformation] at sound
      cases taken : r.processor.step processing item with
      | error refusal =>
        simp only [Option.elim, take, taken] at sound
        cases sound
      | ok result =>
        have alike := Processor.step_anywhere token taken
        simp only [Option.elim, take, taken, alike, beside.processor, beside.sent]
        exact finishing ⟨beside.sound, beside.highSound, beside.lexer, rfl, rfl⟩

end Beside

end Reading

-- `<n …/>`
def selfClosed (tag : Tag) : Bytes := [0x3C] ++ tag.content ++ [0x2F, 0x3E]

-- `<n …>`
def startTag (tag : Tag) : Bytes := [0x3C] ++ tag.content ++ [0x3E]

-- What may be written for the self-closed tag, as long as it is read as the tags it looks like.
inductive Rewriting (processing : Processing) (tag : Tag) : Bytes → Prop where
  | paired (spells : Lexer.Spells (startTag tag ++ endTag tag.name) [.opening tag, .closing tag.name]) :
      Rewriting processing tag (startTag tag ++ endTag tag.name)
  | alone (letters : processing.voidElements = true) (void : isVoid (localName tag.name) = true)
      (spells : Lexer.Spells (startTag tag) [.opening tag]) : Rewriting processing tag (startTag tag)

namespace Processor

variable {processing : Processing} {p next : Processor} {tag : Tag} {sent : List Emission}

theorem takes_alone (letters : processing.voidElements = true)
    (void : isVoid (localName tag.name) = true)
    (taken : p.Takes processing [.standalone tag] next sent) :
    p.Takes processing [.opening tag] next sent := by
  have stepped : p.step processing ⟨0, .standalone tag⟩ = .ok (next, sent) := takes_item_iff.mp taken
  have opening : p.step processing ⟨0, .opening tag⟩ = .ok (next, sent) := by
    simp only [step, letters, void, Bool.and_self, if_true] at stepped ⊢
    exact stepped
  exact takes_item_iff.mpr opening

-- Either the start tag closes the element, and the end tag is let pass, or the end tag answers it.
theorem takes_paired (lasting : p.Lasting processing)
    (taken : p.Takes processing [.standalone tag] next sent) :
    p.Takes processing [.opening tag, .closing tag.name] next sent := by
  have stepped : p.step processing ⟨0, .standalone tag⟩ = .ok (next, sent) := takes_item_iff.mp taken
  show p.Takes processing ([.opening tag] ++ [.closing tag.name]) next sent
  by_cases void : closesItself processing tag.name = true
  · obtain ⟨letters, known⟩ := Bool.and_eq_true_iff.mp void
    have reached : next.Lasting processing := lasting.takes taken
    have stray : next.step processing ⟨0, .closing tag.name⟩ = .ok (next, []) :=
      step_stray_void reached letters known rfl
    exact takes_append_iff.mpr ⟨next, sent, [], takes_alone letters known taken,
      takes_item_iff.mpr stray, (List.append_nil _).symm⟩
  · simp only [step] at stepped
    obtain ⟨q, first, opened, same⟩ := thenClose_eq_ok_iff.mp stepped
    obtain ⟨frame, named, stack⟩ := stack_of_openElement opened
    have opening : p.step processing ⟨0, .opening tag⟩ = .ok (q, first) := by
      simp only [step]
      exact (if_neg void).trans opened
    have answered : answers processing frame tag.name = true := by
      simp [answers, named]
    have closing : q.step processing ⟨0, .closing tag.name⟩ = .ok q.closeTop :=
      closeElement_eq_ok_iff.mpr (.inl ⟨⟨frame, by rw [stack]; rfl, answered⟩, rfl⟩)
    cases same
    exact takes_append_iff.mpr ⟨q, first, _, takes_item_iff.mpr opening,
      takes_item_iff.mpr closing, rfl⟩

end Processor

theorem Rewriting.spells {processing : Processing} {tag : Tag} {rewritten : Bytes}
    (rewriting : Rewriting processing tag rewritten) :
    ∃ tail tokens extra, rewritten = 0x3C :: tail ∧ Lexer.Spells rewritten tokens ∧
      (tokens.map Token.opens).sum = (tokens.map Token.closes).sum + extra ∧
      ∀ {p next : Processor} {sent : List Emission}, p.Lasting processing →
        p.Takes processing [.standalone tag] next sent → p.Takes processing tokens next sent := by
  cases rewriting with
  | paired spells => exact ⟨_, _, 0, rfl, spells, rfl, Processor.takes_paired⟩
  | alone letters void spells =>
    exact ⟨_, _, 1, rfl, spells, rfl, fun _ taken => Processor.takes_alone letters void taken⟩

namespace Reading

variable {processing : Processing} {r : Reading} {tag : Tag} {content rewritten rest : Bytes}

theorem beside_shorthand (lasting : r.processor.Lasting processing) (mode : r.lexer.mode = .text content)
    (single : Lexer.Spells (selfClosed tag) [.standalone tag]) (rewriting : Rewriting processing tag rewritten)
    (sound : (r.read processing (selfClosed tag)).malformation = none) :
    ∃ extra, Beside extra (r.read processing (selfClosed tag)) (r.read processing rewritten) := by
  obtain ⟨tail, tokens, extra, rfl, spells, opens, instead⟩ := rewriting.spells
  have fine : r.malformation = none := sound_of_read sound
  obtain ⟨read, sent, comes⟩ := comes_of_sound sound
  obtain ⟨here, found, ended, level⟩ := single.tokens? mode
  obtain ⟨there, written, ends, raised⟩ := spells.tokens? mode
  obtain ⟨rfl, here_eq⟩ : read = Lexer.textToken content ++ [.standalone tag] ∧
      (r.read processing (selfClosed tag)).lexer = here := by
    have same := comes.lexer.symm.trans found
    simpa using same
  obtain ⟨middle, early, late, heard, taken, rfl⟩ := Processor.takes_append_iff.mp comes.processor
  have all : r.processor.Takes processing (Lexer.textToken content ++ tokens)
      (r.read processing (selfClosed tag)).processor (early ++ late) :=
    Processor.takes_append_iff.mpr ⟨middle, early, late, heard, instead (lasting.takes heard) taken, rfl⟩
  have reached := read_of_takes fine written all
  refine ⟨extra, ⟨sound, ?_, ?_, ?_, ?_⟩⟩ <;> rw [reached]
  · rw [here_eq]
    refine ⟨ends.trans ended.symm, ?_⟩
    have unchanged : here.nesting = r.lexer.nesting := level
    show there.nesting = here.nesting + extra
    omega
  · exact comes.sent.symm

theorem close_shorthand (lasting : r.processor.Lasting processing) (mode : r.lexer.mode = .text content)
    (single : Lexer.Spells (selfClosed tag) [.standalone tag]) (rewriting : Rewriting processing tag rewritten)
    (sound : ((r.read processing (selfClosed tag ++ rest)).close processing).malformation = none) :
    ((r.read processing (rewritten ++ rest)).close processing).malformation = none ∧
      ((r.read processing (rewritten ++ rest)).close processing).sent =
        ((r.read processing (selfClosed tag ++ rest)).close processing).sent := by
  rw [read_append] at sound ⊢
  rw [read_append]
  have behind := sound_of_close sound
  obtain ⟨extra, beside⟩ := beside_shorthand lasting mode single rewriting (sound_of_read behind)
  exact (beside.read behind).close sound

end Reading
end Rdfa.Document
