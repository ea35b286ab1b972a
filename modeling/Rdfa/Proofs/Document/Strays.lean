import Mathlib.Data.List.TakeWhile
import Rdfa.Proofs.Document.Evaluation
import Rdfa.Proofs.Document.Nesting
import Rdfa.Proofs.Document.Tolerance

-- The end tag of a void element where none is due. The open elements do not know it. But the count of the
-- start tags that wait for an end tag falls, so the document is read as before only as long as enough wait.
namespace Rdfa

namespace Markup

def endTag (name : Bytes) : Bytes := [0x3C, 0x2F] ++ name ++ [0x3E]

def marks : List UInt8 := [0x3E, 0x22, 0x27, 0x20, 0x09, 0x0A, 0x0D]

theorem isBlank_of_plain {b : UInt8} (plain : b ∉ marks) : isBlank b = false := by
  simp only [marks, List.mem_cons, not_or] at plain
  simp [isBlank, plain]

theorem closingName_of_plain {name : Bytes} (plain : ∀ b ∈ name, b ∉ marks) :
    Lexer.closingName name.reverse = name := by
  have unblank : name.reverse.dropWhile isBlank = name.reverse := by
    cases written : name.reverse with
    | nil => rfl
    | cons b rest =>
      have inside : b ∈ name := by
        rw [← List.mem_reverse, written]
        exact List.mem_cons_self
      exact List.dropWhile_cons_of_neg (by simp [isBlank_of_plain (plain b inside)])
  unfold Lexer.closingName
  rw [unblank]
  split
  · exact name.reverse_reverse
  · exact name.reverse_reverse

theorem localName_of_plain {name : Bytes} (plain : 0x3A ∉ name) : localName name = name := by
  have bare : name.dropWhile (· ≠ 0x3A) = [] := by
    rw [List.dropWhile_eq_nil_iff]
    intro b inside
    exact decide_eq_true fun same => plain (same ▸ inside)
  rw [localName, bare]

namespace Lexer

variable {l : Lexer} {content : Bytes} {b : UInt8}

theorem step_bracket (mode : l.mode = .text content) :
    l.step 0x3C = .ok (⟨l.offset + 1, l.offset, l.nesting, .bracket⟩,
      if content.isEmpty then none else some ⟨l.start, .text content.reverse⟩) := by
  simp only [step, mode, inText, if_true]

theorem step_slash (mode : l.mode = .bracket) : l.step 0x2F = l.stay (.closing [] none) := by
  simp only [step, mode]
  rfl

theorem step_plain (mode : l.mode = .closing content none) (plain : b ∉ marks) :
    l.step b = l.stay (.closing (b :: content) none) := by
  simp only [marks, List.mem_cons, not_or] at plain
  simp [step, mode, inClosing, requote, plain]

variable {name : Bytes}

theorem step_unmatched (mode : l.mode = .closing name.reverse none)
    (plain : ∀ b ∈ name, b ∉ marks) (unnested : l.nesting = 0) :
    l.step 0x3E = .error ⟨l.start, .unmatchedClosing ((Utf8.decode? name).getD [])⟩ := by
  simp [step, mode, inClosing, completeClosing, closingName_of_plain plain, unnested, fail]

theorem step_end {nesting : Nat} (mode : l.mode = .closing name.reverse none)
    (plain : ∀ b ∈ name, b ∉ marks) (nested : l.nesting = nesting + 1) :
    l.step 0x3E = l.complete (.closing name) nesting := by
  simp [step, mode, inClosing, completeClosing, closingName_of_plain plain, nested]

end Lexer
end Markup

namespace Document

open Markup

theorem isVoid_plain {name : Bytes} (void : isVoid name = true) : ∀ b ∈ name, b ∉ marks := by
  simp only [isVoid, List.any_eq_true] at void
  obtain ⟨known, listed, letters⟩ := void
  have plain : ∀ known ∈ voidNames, ∀ b ∈ known.map lowerByte, b ∉ marks := by
    decide +kernel
  have same : ∀ b ∈ marks, lowerByte b = b := by decide +kernel
  intro b inside mark
  refine plain known listed b ?_ mark
  rw [← sameLetters_iff.mp letters, ← same b mark]
  exact List.mem_map_of_mem inside

namespace Processor

variable {processing : Processing} {p next : Processor} {item : Item} {sent : List Emission}

theorem Lasting.closeTop (lasting : p.Lasting processing) : p.closeTop.1.Lasting processing := by
  unfold Processor.closeTop
  split
  · exact lasting
  · next frame rest open_ =>
    intro inner present
    exact lasting inner (open_ ▸ List.mem_cons_of_mem frame present)

theorem Lasting.closeElement {position : Nat} {name : Bytes} (lasting : p.Lasting processing)
    (closed : p.closeElement processing position name = .ok (next, sent)) :
    next.Lasting processing := by
  rcases closeElement_eq_ok_iff.mp closed with ⟨_, popped⟩ | ⟨_, _, kept⟩
  · have reached : p.closeTop.1 = next := congrArg Prod.fst popped
    rw [← reached]
    exact lasting.closeTop
  · cases kept
    exact lasting

theorem Lasting.step (lasting : p.Lasting processing)
    (stepped : p.step processing item = .ok (next, sent)) : next.Lasting processing := by
  have unmoved (stack : next.stack = p.stack) : next.Lasting processing := by
    unfold Lasting
    rw [stack]
    exact lasting
  cases token : item.token with
  | opening tag =>
    have made := stack_of_opening token stepped
    split at made
    · exact unmoved made
    · next void =>
      obtain ⟨frame, named, stack⟩ := made
      have lasts : closesItself processing frame.name = false := by
        rw [named]
        exact Bool.eq_false_iff.mpr void
      unfold Lasting
      rw [stack]
      exact List.forall_mem_cons.mpr ⟨lasts, lasting⟩
  | standalone tag =>
    simp only [Processor.step, token] at stepped
    exact unmoved (stack_of_thenClose stepped)
  | closing name =>
    simp only [Processor.step, token] at stepped
    exact lasting.closeElement stepped
  | text bytes =>
    simp only [Processor.step, token] at stepped
    cases stepped
    exact lasting.appendText _
  | cdata bytes =>
    simp only [Processor.step, token] at stepped
    cases stepped
    exact lasting.appendText _
  | aside =>
    simp only [Processor.step, token] at stepped
    cases stepped
    exact lasting

def hear (p : Processor) (content : Bytes) : Processor :=
  if content.isEmpty then p else p.appendText (Element.decodeText content.reverse)

theorem Lasting.hear (lasting : p.Lasting processing) (content : Bytes) :
    (p.hear content).Lasting processing := by
  unfold Processor.hear
  split
  · exact lasting
  · exact lasting.appendText _

end Processor

namespace Reading

variable {processing : Processing} {r : Reading} {content name rest : Bytes}

theorem take_keeps {holds : Processor → Prop}
    (kept : ∀ {p item next sent}, holds p → p.step processing item = .ok (next, sent) → holds next)
    (begun : holds r.processor) (item : Item) : holds (r.take processing item).processor := by
  cases stepped : r.processor.step processing item with
  | error refusal =>
    rw [take_of_error stepped]
    exact begun
  | ok result =>
    simp only [take, stepped]
    exact kept begun stepped

theorem read_keeps {holds : Processor → Prop}
    (kept : ∀ {p item next sent}, holds p → p.step processing item = .ok (next, sent) → holds next)
    (begun : holds r.processor) (bytes : Bytes) : holds (r.read processing bytes).processor := by
  induction bytes generalizing r with
  | nil => exact begun
  | cons byte rest ih =>
    refine ih ?_
    unfold readByte
    split
    · exact begun
    · split
      · exact begun
      · exact begun
      · next lexer item _ => exact take_keeps (r := { r with lexer }) kept begun item

theorem lasting_read (base : Text) (bytes : Bytes) :
    ((initial base).read processing bytes).processor.Lasting processing := by
  refine read_keeps Processor.Lasting.step ?_ bytes
  rintro frame ⟨⟩

-- A place in front of `rest` at which no token is under way, unless it is a text that ends there.
def Between (r : Reading) (rest : Bytes) : Prop :=
  ∃ content, r.lexer.mode = .text content ∧ (content = [] ∨ ∀ b ∈ rest.head?, b = 0x3C)

def settled (r : Reading) (content : Bytes) : Reading :=
  { r with lexer := { r.lexer with mode := .text [] }, processor := r.processor.hear content }

variable (processing) in
theorem readByte_bracket (sound : r.malformation = none) (mode : r.lexer.mode = .text content) :
    r.readByte processing 0x3C =
      { r with
        lexer := ⟨r.lexer.offset + 1, r.lexer.offset, r.lexer.nesting, .bracket⟩
        processor := r.processor.hear content } := by
  rw [readByte_of_ok sound (Lexer.step_bracket mode)]
  cases content with
  | nil => rfl
  | cons b content => rfl

theorem read_name (sound : r.malformation = none) (mode : r.lexer.mode = .closing content none)
    (plain : ∀ b ∈ name, b ∉ marks) :
    r.read processing name =
      { r with
        lexer := ⟨r.lexer.offset + name.length, r.lexer.start, r.lexer.nesting,
          .closing (name.reverse ++ content) none⟩ } := by
  induction name generalizing r content with
  | nil =>
    rw [List.reverse_nil, List.nil_append, ← mode]
    rfl
  | cons b name ih =>
    obtain ⟨here, later⟩ := List.forall_mem_cons.mp plain
    have read : r.readByte processing b =
        { r with lexer := { r.lexer with
            offset := r.lexer.offset + 1, mode := .closing (b :: content) none } } :=
      readByte_of_ok sound (Lexer.step_plain mode here)
    have unflawed : (r.readByte processing b).malformation = none := by
      rw [read]
      exact sound
    have further : (r.readByte processing b).lexer.mode = .closing (b :: content) none := by rw [read]
    show (r.readByte processing b).read processing name = _
    rw [ih unflawed further later, read, List.reverse_cons, List.append_assoc, List.length_cons]
    simp only [Nat.add_assoc, Nat.add_comm 1]
    rfl

theorem read_unended (sound : r.malformation = none) (mode : r.lexer.mode = .text content)
    (plain : ∀ b ∈ name, b ∉ marks) :
    r.read processing ([0x3C, 0x2F] ++ name) =
      { r with
        lexer := ⟨r.lexer.offset + 2 + name.length, r.lexer.offset, r.lexer.nesting,
          .closing name.reverse none⟩
        processor := r.processor.hear content } := by
  rw [read_append]
  have begun : r.read processing [0x3C, 0x2F] =
      { r with
        lexer := ⟨r.lexer.offset + 2, r.lexer.offset, r.lexer.nesting, .closing [] none⟩
        processor := r.processor.hear content } := by
    have bracket := readByte_bracket processing sound mode
    have within : (r.readByte processing 0x3C).lexer.mode = .bracket := by rw [bracket]
    have unflawed : (r.readByte processing 0x3C).malformation = none := by
      rw [bracket]
      exact sound
    show (r.readByte processing 0x3C).readByte processing 0x2F = _
    rw [readByte_of_ok unflawed (Lexer.step_slash within), bracket]
    rfl
  have within : (r.read processing [0x3C, 0x2F]).lexer.mode = .closing [] none := by rw [begun]
  have unflawed : (r.read processing [0x3C, 0x2F]).malformation = none := by
    rw [begun]
    exact sound
  rw [read_name unflawed within plain, begun, List.append_nil]

variable (processing) in
theorem unmatched_endTag (sound : r.malformation = none) (mode : r.lexer.mode = .text content)
    (plain : ∀ b ∈ name, b ∉ marks) (unnested : r.lexer.nesting = 0) :
    (r.read processing (endTag name)).Unmatched := by
  rw [endTag, read_append, read_unended sound mode plain]
  have stopped := Lexer.step_unmatched (l := ⟨r.lexer.offset + 2 + name.length, r.lexer.offset,
    r.lexer.nesting, .closing name.reverse none⟩) rfl plain unnested
  show Unmatched (readByte processing _ 0x3E)
  rw [readByte_of_error (by exact sound) stopped]
  exact ⟨_, _, rfl⟩

theorem lowered_endTag (letters : processing.voidElements = true) (void : isVoid name = true)
    (sound : r.malformation = none) (mode : r.lexer.mode = .text content)
    (lasting : r.processor.Lasting processing) (nested : r.lexer.nesting ≠ 0) :
    (r.settled content).Lowered (r.read processing (endTag name)) := by
  have plain := isVoid_plain void
  obtain ⟨nesting, waiting⟩ := Nat.exists_eq_succ_of_ne_zero nested
  rw [endTag, read_append, read_unended sound mode plain]
  have ended := Lexer.step_end (l := ⟨r.lexer.offset + 2 + name.length, r.lexer.offset,
    r.lexer.nesting, .closing name.reverse none⟩) rfl plain waiting
  have locally : isVoid (localName name) = true := by
    rw [localName_of_plain (isVoid_no_colon void)]
    exact void
  have stray : (r.processor.hear content).step processing ⟨r.lexer.offset, .closing name⟩ =
      .ok (r.processor.hear content, []) :=
    Processor.step_stray_void (lasting.hear content) letters locally rfl
  show Lowered _ (readByte processing _ 0x3E)
  rw [readByte_of_ok (by exact sound) ended]
  simp only [Option.elim, take, stray]
  exact ⟨sound, sound, ⟨rfl, waiting.symm⟩, rfl, rfl⟩

theorem settled_nil (mode : r.lexer.mode = .text []) : r.settled [] = r := by
  rcases r with ⟨⟨offset, start, nesting, _⟩, processor, sent, malformation⟩
  cases mode
  rfl

variable (processing) in
theorem readByte_settled (sound : r.malformation = none) (mode : r.lexer.mode = .text content) :
    (r.settled content).readByte processing 0x3C = r.readByte processing 0x3C := by
  rw [readByte_bracket processing sound mode,
    readByte_bracket (r := r.settled content) processing sound rfl]
  rfl

theorem close_settled (sound : r.malformation = none) (mode : r.lexer.mode = .text content) :
    ((r.settled content).close processing).malformation = (r.close processing).malformation ∧
      ((r.settled content).close processing).sent = (r.close processing).sent := by
  cases content with
  | nil =>
    rw [settled_nil mode]
    exact ⟨rfl, rfl⟩
  | cons b content =>
    have ends : r.lexer.close = .ok (some ⟨r.lexer.start, .text (b :: content).reverse⟩) := by
      simp [Lexer.close, mode]
    rw [close_of_ok sound ends, close_of_ok (r := r.settled (b :: content)) sound rfl]
    simp only [finishing_malformation]
    refine ⟨rfl, ?_⟩
    simp [finishing, take, Processor.step, settled, Processor.hear, sound]

variable (processing) in
theorem read_settled (sound : r.malformation = none) (mode : r.lexer.mode = .text content)
    (place : content = [] ∨ ∀ b ∈ rest.head?, b = 0x3C) :
    ((r.settled content).Spare processing rest ↔ r.Spare processing rest) ∧
      (((r.settled content).read processing rest).close processing).malformation =
        ((r.read processing rest).close processing).malformation ∧
      (((r.settled content).read processing rest).close processing).sent =
        ((r.read processing rest).close processing).sent := by
  rcases place with rfl | bracket
  · rw [settled_nil mode]
    exact ⟨Iff.rfl, rfl, rfl⟩
  · cases rest with
    | nil =>
      refine ⟨?_, close_settled sound mode⟩
      rw [spare_nil, spare_nil]
      rfl
    | cons b rest =>
      obtain rfl : b = 0x3C := bracket b rfl
      have same := readByte_settled processing sound mode
      have read : (r.settled content).read processing (0x3C :: rest) =
          r.read processing (0x3C :: rest) := congrArg (Reading.read processing · rest) same
      rw [read, spare_cons, spare_cons, same]
      exact ⟨Iff.rfl, rfl, rfl⟩

theorem close_stray (letters : processing.voidElements = true) (void : isVoid name = true)
    (lasting : r.processor.Lasting processing) (between : r.Between rest)
    (sound : ((r.read processing rest).close processing).malformation = none) :
    r.Spare processing rest ∧
        ((r.read processing (endTag name ++ rest)).close processing).malformation = none ∧
        ((r.read processing (endTag name ++ rest)).close processing).sent =
          ((r.read processing rest).close processing).sent ∨
      ¬ r.Spare processing rest ∧
        ((r.read processing (endTag name ++ rest)).close processing).Unmatched := by
  have whole : (r.read processing rest).malformation = none := sound_of_close sound
  have here : r.malformation = none := sound_of_read whole
  obtain ⟨content, mode, place⟩ := between
  obtain ⟨spare, unflawed, sent⟩ := read_settled processing here mode place
  rw [read_append]
  by_cases nested : r.lexer.nesting = 0
  · obtain ⟨position, flaw, failed⟩ := unmatched_endTag processing here mode
      (isVoid_plain void) nested
    refine .inr ⟨fun enough => enough [] List.nil_prefix nested, position, flaw, ?_⟩
    rw [read_of_malformation failed, close_of_malformation failed, failed]
  · have lowered := lowered_endTag letters void here mode lasting nested
    rw [sound] at unflawed
    rcases lowered.read (sound_of_close unflawed) with
      ⟨enough, alike⟩ | ⟨exhausted, position, flaw, failed⟩
    · obtain ⟨fine, same⟩ := alike.close unflawed
      exact .inl ⟨spare.mp enough, fine, same.trans sent⟩
    · refine .inr ⟨fun enough => exhausted (spare.mpr enough), position, flaw, ?_⟩
      rw [close_of_malformation failed, failed]

end Reading
end Document
end Rdfa
