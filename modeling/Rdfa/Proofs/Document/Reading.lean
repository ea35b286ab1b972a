import Rdfa.Proofs.Document.Steps
import Rdfa.Proofs.Element.Announced

-- Reading step by step: tokens without a flaw as a chain of steps of the processor, and what a reading
-- keeps to at every byte.
namespace Rdfa

theorem Markup.Lexer.text_of_close {lexer : Markup.Lexer} {item : Markup.Item}
    (closed : lexer.close = .ok (some item)) : ∃ bytes, item.token = .text bytes := by
  unfold Markup.Lexer.close at closed
  split at closed <;> try cases closed
  split at closed <;> cases closed
  exact ⟨_, rfl⟩

namespace Document

namespace Processor

variable {processing : Processing}

inductive Reads (processing : Processing) :
    Processor → List Markup.Item → Processor → List Emission → Prop where
  | nil {p : Processor} : Reads processing p [] p []
  | cons {p next last : Processor} {item : Markup.Item} {rest : List Markup.Item}
      {sent more : List Emission} (step : p.step processing item = .ok (next, sent))
      (later : Reads processing next rest last more) :
      Reads processing p (item :: rest) last (sent ++ more)

theorem Reads.append {p middle last : Processor} {first second : List Markup.Item}
    {sent more : List Emission} (earlier : Reads processing p first middle sent)
    (later : Reads processing middle second last more) :
    Reads processing p (first ++ second) last (sent ++ more) := by
  induction earlier with
  | nil => exact later
  | cons step _ ih =>
    rw [List.append_assoc]
    exact .cons step (ih later)

theorem Reads.single {p next : Processor} {item : Markup.Item} {sent : List Emission}
    (step : p.step processing item = .ok (next, sent)) : Reads processing p [item] next sent := by
  simpa using Reads.cons step .nil

theorem waiting_announces (frame : Frame) :
    ∀ emission ∈ frame.pending.elim [] (·.emissions), Announceable emission.triple := by
  intro emission present
  cases waiting : frame.pending with
  | none =>
    rw [waiting] at present
    cases present
  | some pending =>
    rw [waiting] at present
    exact pending.emissions_announceable emission present

theorem closeTop_announces (p : Processor) :
    ∀ emission ∈ p.closeTop.2, Announceable emission.triple := by
  intro emission present
  unfold closeTop at present
  split at present
  · cases present
  · next frame rest _ => exact waiting_announces frame emission present

theorem openElement_announces {p next : Processor} {position : Nat} {tag : Markup.Tag}
    {sent : List Emission} (opened : p.openElement processing position tag = .ok (next, sent)) :
    ∀ emission ∈ sent, Announceable emission.triple := by
  unfold openElement at opened
  split at opened
  · cases opened
  · split at opened
    · cases opened
    · next attributes _ =>
      have ensures := Element.process_ensures processing
        (p.rebase tag.name (.ofMarkup attributes)).place (.ofMarkup attributes)
      obtain ⟨added, output, fit⟩ :=
        ensures.added ⟨(p.rebase tag.name (.ofMarkup attributes)).nodes, []⟩
      cases opened
      rw [List.nil_append] at output
      intro emission present
      exact fit emission (output ▸ present)

theorem thenClose_announces {opened : Step} {next : Processor} {sent : List Emission}
    (announces : ∀ p first, opened = .ok (p, first) →
      ∀ emission ∈ first, Announceable emission.triple)
    (closed : thenClose opened = .ok (next, sent)) :
    ∀ emission ∈ sent, Announceable emission.triple := by
  cases opened with
  | error refusal => cases closed
  | ok result =>
    rcases result with ⟨p, first⟩
    cases closed
    intro emission present
    rcases List.mem_append.mp present with early | late
    · exact announces p first rfl emission early
    · exact closeTop_announces p emission late

theorem step_announces {p next : Processor} {item : Markup.Item} {sent : List Emission}
    (step : p.step processing item = .ok (next, sent)) :
    ∀ emission ∈ sent, Announceable emission.triple := by
  have opened (tag : Markup.Tag) : ∀ q first,
      p.openElement processing item.position tag = .ok (q, first) →
        ∀ emission ∈ first, Announceable emission.triple :=
    fun _ _ => openElement_announces
  unfold Processor.step at step
  split at step
  · next tag _ =>
    dsimp only at step
    split at step
    · exact thenClose_announces (opened tag) step
    · exact opened tag _ _ step
  · next tag _ => exact thenClose_announces (opened tag) step
  · next name _ =>
    unfold closeElement at step
    dsimp only at step
    split at step
    · split at step
      · cases step
        simp
      · cases step
    · split at step
      · have closed : p.closeTop.2 = sent := congrArg Prod.snd (Except.ok.inj step)
        rw [← closed]
        exact closeTop_announces p
      · split at step
        · cases step
          simp
        · cases step
  · cases step
    simp
  · cases step
    simp
  · cases step
    simp

theorem ending_built {kinds : Element.Kinds} {tags : List Element.Attributes} (cover : kinds.Cover tags)
    (processing : Processing) (p : Processor) : Element.Work.Built kinds (fun _ => True)
      (p.ending processing) (p.ending processing.hushed) := by
  unfold ending
  split
  · exact .pure trivial
  · exact Element.warn_built cover processing _

theorem finish_announces (p : Processor) :
    ∀ emission ∈ p.finish processing, Announceable emission.triple := by
  intro emission present
  unfold finish at present
  rcases List.mem_append.mp present with waited | warned
  · obtain ⟨frame, _, inside⟩ := List.mem_flatMap.mp waited
    exact waiting_announces frame emission inside
  · obtain ⟨added, output, fit⟩ := (p.ending_built (.any []) processing).ensures.added ⟨p.nodes, []⟩
    rw [output] at warned
    exact fit emission warned

end Processor

namespace Reading

variable {processing : Processing}

theorem foldl_take {r : Reading} {items : List Markup.Item} {last : Processor}
    {sent : List Emission} (reads : r.processor.Reads processing items last sent) :
    items.foldl (take processing) r =
      { r with processor := last, sent := sent.reverse ++ r.sent } := by
  induction items generalizing r sent with
  | nil =>
    cases reads
    rfl
  | cons item rest ih =>
    cases reads with
    | @cons p next last _ _ first more step later =>
      have taken : take processing r item =
          { r with processor := next, sent := first.reverse ++ r.sent } := by
        simp only [take, step]
      rw [List.foldl_cons, taken, ih later]
      simp

theorem readByte_of_error {r : Reading} {byte : UInt8} {flaw : Markup.Misread}
    (sound : r.malformation = none) (read : r.lexer.step byte = .error flaw) :
    r.readByte processing byte = r.misread flaw := by
  simp only [readByte, sound, read]

theorem readByte_of_ok {r : Reading} {byte : UInt8} {lexer : Markup.Lexer}
    {item : Option Markup.Item} (sound : r.malformation = none)
    (read : r.lexer.step byte = .ok (lexer, item)) :
    r.readByte processing byte =
      item.elim { r with lexer } (take processing { r with lexer }) := by
  simp only [readByte, sound, read]
  cases item <;> rfl

def finishing (processing : Processing) (r : Reading) : Reading :=
  match r.malformation with
  | some _ => r
  | none => { r with sent := (r.processor.finish processing).reverse ++ r.sent }

theorem close_of_malformation {r : Reading} {malformation : Malformation}
    (failed : r.malformation = some malformation) : r.close processing = r := by
  simp only [close, failed]

theorem close_of_error {r : Reading} {flaw : Markup.Misread}
    (sound : r.malformation = none) (closed : r.lexer.close = .error flaw) :
    r.close processing = r.misread flaw := by
  simp only [close, sound, closed]

theorem close_of_ok {r : Reading} {item : Option Markup.Item}
    (sound : r.malformation = none) (closed : r.lexer.close = .ok item) :
    r.close processing = (item.elim r (r.take processing)).finishing processing := by
  simp only [close, sound, closed]
  cases item <;> rfl

theorem finishing_malformation (r : Reading) :
    (r.finishing processing).malformation = r.malformation := by
  unfold finishing
  split <;> rfl

theorem sound_of_take {r : Reading} {item : Markup.Item} (sound : (r.take processing item).malformation = none) :
    r.malformation = none := by
  unfold take at sound
  split at sound
  · cases sound
  · exact sound

theorem sound_of_read {r : Reading} {bytes : Bytes} (sound : (r.read processing bytes).malformation = none) :
    r.malformation = none := by
  cases failed : r.malformation with
  | none => rfl
  | some malformation =>
    rw [read_of_malformation failed, failed] at sound
    cases sound

theorem sound_of_close {r : Reading} (sound : (r.close processing).malformation = none) :
    r.malformation = none := by
  cases failed : r.malformation with
  | none => rfl
  | some malformation =>
    rw [close_of_malformation failed, failed] at sound
    cases sound

def Announces (r : Reading) : Prop := ∀ emission ∈ r.sent, Announceable emission.triple

theorem Announces.take {r : Reading} (announces : r.Announces) (item : Markup.Item) :
    (take processing r item).Announces := by
  cases step : r.processor.step processing item with
  | error refusal =>
    rw [take_of_error step]
    exact announces
  | ok result =>
    simp only [Reading.take, step]
    intro emission present
    rcases List.mem_append.mp present with late | early
    · exact Processor.step_announces step emission (List.mem_reverse.mp late)
    · exact announces emission early

theorem Announces.readByte {r : Reading} (announces : r.Announces) (byte : UInt8) :
    (r.readByte processing byte).Announces := by
  unfold Reading.readByte
  split
  · exact announces
  · split
    · exact announces
    · exact announces
    · next lexer item _ =>
      have moved : ({ r with lexer } : Reading).Announces := announces
      exact moved.take item

theorem Announces.read {r : Reading} (announces : r.Announces) (bytes : Bytes) :
    (r.read processing bytes).Announces := by
  induction bytes generalizing r with
  | nil => exact announces
  | cons byte rest ih => exact ih (announces.readByte byte)

theorem Announces.finish {r : Reading} (announces : r.Announces) :
    ({ r with sent := (r.processor.finish processing).reverse ++ r.sent } : Reading).Announces := by
  intro emission present
  rcases List.mem_append.mp present with late | early
  · exact Processor.finish_announces _ emission (List.mem_reverse.mp late)
  · exact announces emission early

theorem Announces.close {r : Reading} (announces : r.Announces) :
    (r.close processing).Announces := by
  unfold Reading.close
  split
  · exact announces
  · split
    · exact announces
    · next item _ =>
      cases item with
      | none =>
        dsimp only
        split
        · exact announces
        · exact announces.finish
      | some item =>
        have taken : (Reading.take processing r item).Announces := announces.take item
        dsimp only
        split
        · exact taken
        · exact taken.finish

def following (r : Reading) (earlier : List Emission) : Reading :=
  { r with sent := r.sent ++ earlier }

variable (r : Reading) (earlier : List Emission)

theorem take_following (item : Markup.Item) :
    take processing (r.following earlier) item = (take processing r item).following earlier := by
  unfold take
  cases step : r.processor.step processing item with
  | error refusal => simp only [following, step, fail, List.append_assoc]
  | ok result => simp only [following, step, List.append_assoc]

theorem readByte_following (byte : UInt8) :
    (r.following earlier).readByte processing byte =
      (r.readByte processing byte).following earlier := by
  unfold readByte
  cases failed : r.malformation with
  | some malformation => simp only [following, failed]
  | none =>
    rcases step : r.lexer.step byte with flaw | ⟨lexer, item⟩
    · simp only [following, failed, step, misread, fail]
    · cases item with
      | none => simp only [following, failed, step]
      | some item =>
        simp only [following, failed, step]
        exact take_following { r with lexer, malformation := none } earlier item

theorem read_following (bytes : Bytes) :
    (r.following earlier).read processing bytes = (r.read processing bytes).following earlier := by
  induction bytes generalizing r with
  | nil => rfl
  | cons byte rest ih =>
    show ((r.following earlier).readByte processing byte).read processing rest = _
    rw [readByte_following, ih]
    rfl

theorem close_following :
    (r.following earlier).close processing = (r.close processing).following earlier := by
  unfold close
  cases failed : r.malformation with
  | some malformation => simp only [following, failed]
  | none =>
    cases closed : r.lexer.close with
    | error flaw => simp only [following, failed, closed, misread, fail]
    | ok item =>
      cases item with
      | none => simp only [following, failed, closed, List.append_assoc]
      | some item =>
        have taken : take processing (r.following earlier) item =
            (take processing r item).following earlier := take_following r earlier item
        simp only [following, failed, closed] at taken ⊢
        rw [taken]
        cases after : (take processing r item).malformation <;> simp [after]

theorem following_drain : r.drain.2.following r.drain.1.reverse = r := by
  simp [drain, following]

end Reading
end Document
end Rdfa
