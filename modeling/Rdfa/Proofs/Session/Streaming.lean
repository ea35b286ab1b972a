import Rdfa.Proofs.Consumer.Supplies
import Rdfa.Proofs.Extractor.Schedule
import Rdfa.Proofs.Session.Counts
import Rdfa.Proofs.Session.FirstFailure

-- A run with a consumer that takes everything streams: no call up to a request for bytes depends on the
-- answer to it, what a tag makes known is delivered before more bytes are asked for, and the whole input
-- is asked for, piece by piece and once more at the end.
namespace Rdfa

open Document

namespace Bridge

variable {κ : Type} [Consumer κ] {supplies : List Bytes → κ → Prop} {capacity : Nat}
  {left : Option (List Bytes)} {log : List Contact} {b : Bridge (Logged κ)}

structure Noting (supplies : List Bytes → κ → Prop) (capacity : Nat) (left : Option (List Bytes))
    (log : List Contact) (b : Bridge (Logged κ)) : Prop where
  running : b.failure = none
  room : b.capacity = capacity
  fitting : Fitting capacity (left.getD [])
  supplied : supplies (left.getD []) b.consumer.inner
  exhausted : b.ended = left.isNone
  noted : b.consumer.log = log

namespace Noting

theorem asked {chunks : List Bytes} {answer : Bytes} {inner : κ}
    (noting : b.Noting supplies capacity (some chunks) log) (positive : capacity ≠ 0)
    (produced : Consumer.produce b.consumer.inner capacity = (.ok answer, inner)) :
    b.fill capacity = (some (b.served capacity answer), b.supplied capacity answer inner) := by
  have least : min capacity b.capacity = capacity := by rw [noting.room, Nat.min_self]
  exact fill_of_produced noting.running noting.exhausted least positive produced

theorem bytes {chunk : Bytes} {rest : List Bytes} (source : Consumer.Supplies capacity supplies)
    (positive : capacity ≠ 0) (noting : b.Noting supplies capacity (some (chunk :: rest)) log) :
    ∃ filled next, b.fill capacity = (some filled, next) ∧ filled.reported ≠ 0 ∧
      filled.taken capacity = chunk ∧
      next.Noting supplies capacity (some rest) (log ++ [.produced capacity (.ok chunk)]) := by
  obtain ⟨inner, produced, still⟩ := source.bytes noting.supplied
  obtain ⟨⟨content, short⟩, others⟩ := List.forall_mem_cons.mp noting.fitting
  have whole : chunk.take capacity = chunk := List.take_of_length_le short
  have nonempty : chunk.length ≠ 0 := fun empty => content (List.length_eq_zero_iff.mp empty)
  refine ⟨_, _, noting.asked positive produced, ?_, ?_, ?_⟩
  · simpa only [served, whole] using nonempty
  · simp [served, Filled.taken, whole, Nat.min_eq_left short]
  · refine ⟨noting.running, noting.room, others, still, ?_, ?_⟩
    · simpa [Bridge.supplied, whole] using content
    · rw [← noting.noted]
      rfl

theorem ended (source : Consumer.Supplies capacity supplies) (positive : capacity ≠ 0)
    (noting : b.Noting supplies capacity (some []) log) :
    ∃ filled next, b.fill capacity = (some filled, next) ∧ filled.reported = 0 ∧
      next.Noting supplies capacity none (log ++ [.produced capacity (.ok [])]) := by
  obtain ⟨inner, produced, still⟩ := source.ended noting.supplied
  refine ⟨_, _, noting.asked positive produced, ?_, ?_⟩
  · simp [served]
  · refine ⟨noting.running, noting.room, noting.fitting, still, ?_, ?_⟩
    · simp [Bridge.supplied]
    · rw [← noting.noted]
      rfl

theorem silent (noting : b.Noting supplies capacity none log) :
    b.fill capacity = (some .nothing, b) := by
  have closed : b.ended = true := noting.exhausted
  simp [fill, noting.running, closed]

theorem accepted {emission : Emission} (source : Consumer.Supplies capacity supplies)
    (noting : b.Noting supplies capacity left log) (announceable : Announceable emission.triple) :
    ∃ next, b.emit emission = (true, next) ∧
      next.Noting supplies capacity left (log ++ emission.heard?.toList) := by
  obtain ⟨delivery, meant⟩ := Option.isSome_iff_exists.mp announceable.delivery?_isSome
  obtain ⟨inner, taken, still⟩ := source.accepts emission.graph delivery noting.supplied
  refine ⟨_, emit_of_taken noting.running meant taken, noting.running, noting.room, noting.fitting,
    still, noting.exhausted, ?_⟩
  rw [← noting.noted]
  simp [delivered, Emission.heard?, meant]

end Noting

omit [Consumer κ] in
theorem settle_of_running {b : Bridge κ} (running : b.failure = none) (result : Except Halt Unit) :
    b.settle result = reported result := by
  cases result with
  | ok done => simp [settle, running, reported]
  | error halt => cases halt <;> simp [settle, running, reported, baselessInterruption]

theorem notes_of_supplies (source : Consumer.Supplies capacity supplies)
    (positive : capacity ≠ 0) :
    Hooks.Notes capacity fun left log (b : Bridge (Logged κ)) =>
      b.Noting supplies capacity left log := by
  refine ⟨fun noting => ?_, fun noting => ?_, fun noting => ?_, fun noting announceable => ?_⟩
  · exact noting.bytes source positive
  · exact noting.ended source positive
  · exact ⟨_, _, noting.silent, rfl, noting⟩
  · exact noting.accepted source announceable

end Bridge

namespace Contact

theorem sum_bytesUsed (contacts : List Contact) :
    (contacts.map (·.bytesUsed)).sum =
      ((contacts.filter (·.isProduction)).map (·.bytesUsed)).sum := by
  induction contacts with
  | nil => rfl
  | cons contact rest ih =>
    cases contact with
    | produced size answer => exact congrArg (_ + ·) ih
    | received graph triple answer => exact (Nat.zero_add _).trans ih
    | declared name iri answer => exact (Nat.zero_add _).trans ih

theorem countP_isCut (contacts : List Contact) :
    contacts.countP (·.isCut) = (contacts.filter (·.isProduction)).countP (·.isCut) := by
  rw [List.countP_filter]
  refine List.countP_congr fun contact _ => ?_
  cases contact <;> simp [isProduction, isCut]

end Contact

namespace Extractor

structure Completes (x : Extractor) (bytes : Bytes) (byte : UInt8) (item : Markup.Item)
    (sent : List Emission) : Prop where
  sound : ((Reading.initial x.base).read x.processing bytes).malformation = none
  completed : ∃ lexer,
    ((Reading.initial x.base).read x.processing bytes).lexer.step byte = .ok (lexer, some item)
  processed : ∃ processor,
    ((Reading.initial x.base).read x.processing bytes).processor.step x.processing item =
      .ok (processor, sent)

theorem Completes.known {x : Extractor} {bytes : Bytes} {byte : UInt8} {item : Markup.Item}
    {sent : List Emission} (completes : x.Completes bytes byte item sent) :
    ((Reading.initial x.base).read x.processing (bytes ++ [byte])).malformation = none ∧
      heard ((Reading.initial x.base).read x.processing (bytes ++ [byte])) =
        heard ((Reading.initial x.base).read x.processing bytes) ++
          sent.filterMap Emission.heard? := by
  obtain ⟨sound, ⟨lexer, completed⟩, ⟨processor, processed⟩⟩ := completes
  rw [Reading.read_append]
  generalize (Reading.initial x.base).read x.processing bytes = r at sound completed processed ⊢
  have read : r.read x.processing [byte] =
      { r with lexer, processor, sent := sent.reverse ++ r.sent } := by
    show r.readByte x.processing byte = _
    simp only [Reading.readByte, Reading.take, sound, completed, processed]
  rw [read]
  exact ⟨sound, by simp [heard, Reading.drain]⟩

end Extractor

theorem reported_eq_ok_iff {result : Except Halt Unit} : reported result = .ok () ↔ result = .ok () := by
  cases result with
  | ok done => simp [reported]
  | error halt => cases halt <;> simp [reported]

namespace Session

variable {κ : Type} [Consumer κ] {base : Text} {settings : Settings} {s : Session κ}
  {supplies : List Bytes → κ → Prop} {consumer : κ}

theorem run_contacts_of_supplies {x : Extractor} {chunks : List Bytes}
    (opened : openWith base settings = .ok s)
    (reader : x = ⟨base, settings.processing, settings.chunkCapacity, false⟩)
    (source : Consumer.Supplies settings.chunkCapacity supplies)
    (fitting : Fitting settings.chunkCapacity chunks) (ready : supplies chunks consumer) :
    (s.bind consumer).contacts = x.contacts chunks ∧
      (s.bind consumer).run.outcome =
        reported (Extractor.verdict (x.whole (Extractor.document chunks))) ∧
      (s.bind consumer).run.session.stats = .ofContacts (x.contacts chunks) := by
  obtain ⟨sound, rfl⟩ := openWith_eq_ok_iff.mp opened
  subst reader
  have valid := (Extractor.problem?_eq_none_iff.mp sound).2.2.2
  have positive := (Settings.problem?_eq_none_iff.mp valid).1
  have hooks := Bridge.notes_of_supplies source (Nat.ne_of_gt positive)
  have bound : ((extracting base settings).bind consumer).Ready _ ⟨0, consumer⟩ := ⟨rfl, rfl, rfl⟩
  have entry : (((extracting base settings).bind consumer).watched ⟨0, consumer⟩).Noting supplies
      settings.chunkCapacity (some chunks) [] :=
    ⟨rfl, rfl, fitting, ready, rfl, rfl⟩
  obtain ⟨ended, left, noting⟩ := Extractor.leaves_run
    (x := ⟨base, settings.processing, settings.chunkCapacity, false⟩) hooks rfl entry
  have calls : ((extracting base settings).bind consumer).contacts =
      (⟨base, settings.processing, settings.chunkCapacity, false⟩ : Extractor).contacts chunks :=
    (run_contacts bound).trans noting.noted
  refine ⟨calls, ?_, ?_⟩
  · rw [run_settled bound, ended]
    exact Bridge.settle_of_running noting.running _
  · rw [run_stats bound, calls]

-- The last byte of the first pieces completes a token: when more bytes are asked for, all it made known
-- has been delivered, after all that was known before it.
def Eager (x : Extractor) (contacts : List Contact) (early : List Bytes) : Prop :=
  ∀ bytes byte item sent, Extractor.document early = bytes ++ [byte] →
    x.Completes bytes byte item sent →
      ∃ before answer after,
        contacts = before ++ .produced x.capacity (.ok answer) :: after ∧
        before.countP (·.isProduction) = early.length ∧
        before.filter (!·.isProduction) =
          Extractor.heard ((Reading.initial x.base).read x.processing bytes) ++
            sent.filterMap Emission.heard?

-- All the pieces were asked for and read whole, and then once more to learn that there are none.
structure ReadWhole (capacity : Nat) (chunks : List Bytes) (contacts : List Contact)
    (stats : Stats) : Prop where
  requests : contacts.filter (·.isProduction) =
    (chunks ++ [[]]).map fun answer => .produced capacity (.ok answer)
  fillRequests : stats.fillRequests = chunks.length + 1
  bytesRead : stats.bytesRead = chunks.flatten.length
  truncatedChunks : stats.truncatedChunks = 0

theorem eager_contacts {x : Extractor} (early late : List Bytes) :
    Eager x (x.contacts (early ++ late)) early := by
  intro bytes byte item sent last completes
  obtain ⟨sound, known⟩ := completes.known
  have begun : early ≠ [] := by
    rintro rfl
    exact absurd last.symm (List.append_ne_nil_of_right_ne_nil bytes (List.cons_ne_nil byte []))
  rw [← last] at sound known
  rw [← known]
  exact Extractor.contacts_eager begun sound late

theorem readWhole_contacts {x : Extractor} {chunks : List Bytes}
    (fitting : Fitting x.capacity chunks)
    (sound : (x.whole (Extractor.document chunks)).malformation = none) :
    ReadWhole x.capacity chunks (x.contacts chunks) (.ofContacts (x.contacts chunks)) := by
  have requests := Extractor.contacts_complete sound
  have short : ∀ answer ∈ chunks ++ [[]], answer.length ≤ x.capacity := by
    intro answer present
    rcases List.mem_append.mp present with chunk | last
    · exact (fitting answer chunk).2
    · rw [List.mem_singleton.mp last]
      exact Nat.zero_le _
  have used : (chunks ++ [[]]).map (fun answer : Bytes => min x.capacity answer.length) =
      (chunks ++ [[]]).map List.length :=
    List.map_congr_left fun answer present => Nat.min_eq_right (short answer present)
  refine ⟨requests, ?_, ?_, ?_⟩
  · show List.countP _ _ = _
    rw [List.countP_eq_length_filter, requests, List.length_map, List.length_append]
    rfl
  · show List.sum _ = _
    rw [Contact.sum_bytesUsed, requests, List.map_map]
    show ((chunks ++ [[]]).map fun answer : Bytes => min x.capacity answer.length).sum = _
    rw [used, List.length_flatten, List.map_append, List.sum_append]
    rfl
  · show List.countP _ _ = 0
    rw [Contact.countP_isCut, requests, List.countP_map, List.countP_eq_zero]
    intro answer present
    simpa [Contact.isCut] using short answer present

-- Two runs of one extractor on inputs with the same first pieces, and each of them by itself.
theorem run_streams {κ₁ κ₂ : Type} [Consumer κ₁] [Consumer κ₂] {base : Text} {settings : Settings}
    {s₁ : Session κ₁} {s₂ : Session κ₂} (opened₁ : openWith base settings = .ok s₁)
    (opened₂ : openWith base settings = .ok s₂) {supplies₁ : List Bytes → κ₁ → Prop}
    {supplies₂ : List Bytes → κ₂ → Prop}
    (source₁ : Consumer.Supplies settings.chunkCapacity supplies₁)
    (source₂ : Consumer.Supplies settings.chunkCapacity supplies₂)
    {early late₁ late₂ : List Bytes} (fitting₁ : Fitting settings.chunkCapacity (early ++ late₁))
    (fitting₂ : Fitting settings.chunkCapacity (early ++ late₂)) {consumer₁ : κ₁} {consumer₂ : κ₂}
    (ready₁ : supplies₁ (early ++ late₁) consumer₁)
    (ready₂ : supplies₂ (early ++ late₂) consumer₂) :
    Callback.through (early.length + 1) ((s₁.bind consumer₁).contacts.map (·.callback)) =
        Callback.through (early.length + 1) ((s₂.bind consumer₂).contacts.map (·.callback)) ∧
      Eager ⟨base, settings.processing, settings.chunkCapacity, false⟩ (s₁.bind consumer₁).contacts
        early ∧
      ((s₁.bind consumer₁).run.outcome = .ok () →
        ReadWhole settings.chunkCapacity (early ++ late₁) (s₁.bind consumer₁).contacts
          (s₁.bind consumer₁).run.session.stats) := by
  obtain ⟨calls₁, outcome, stats⟩ := run_contacts_of_supplies opened₁ rfl source₁ fitting₁ ready₁
  obtain ⟨calls₂, _, _⟩ := run_contacts_of_supplies opened₂ rfl source₂ fitting₂ ready₂
  rw [calls₁, calls₂, outcome, stats]
  refine ⟨Extractor.contacts_causal _ early late₁ late₂, eager_contacts early late₁, fun ended => ?_⟩
  exact readWhole_contacts fitting₁ (Extractor.verdict_eq_ok_iff.mp (reported_eq_ok_iff.mp ended))

-- `<p content="c" property="u:x"/>` after a byte order mark, and two ways to go on.
def marked : List Bytes :=
  [[0xEF, 0xBB, 0xBF] ++ Markup.ascii "<p content=\"c\" property=\"u:x\"/>"]

def childless : List Bytes := ["<i>", "</i>"].map Markup.ascii

def unclosed : List Bytes := ["t<b>"].map Markup.ascii

def marker : Extractor := ⟨"http://e/".toList, {}, ({} : Settings).chunkCapacity, false⟩

def stated : RawTriple :=
  Element.literal "http://e/".toList "u:x".toList "c".toList none none

theorem marked_completes :
    marker.Completes (Markup.ascii "<p content=\"c\" property=\"u:x\"/") 0x3E
      ⟨0, .standalone ⟨Markup.ascii "p content=\"c\" property=\"u:x\""⟩⟩ [⟨.default, stated⟩] := by
  refine ⟨by decide +kernel, ⟨_, rfl⟩, ?_⟩
  generalize stepped : Processor.step _ _ _ = opened
  have sent : opened.toOption.map (·.2) = some [⟨.default, stated⟩] := by
    rw [← stepped]
    decide +kernel
  cases opened with
  | error refusal => cases sent
  | ok result =>
    rcases result with ⟨processor, made⟩
    cases sent
    exact ⟨processor, rfl⟩

theorem marked_streams :
    Fitting ({} : Settings).chunkCapacity (marked ++ childless) ∧
      Fitting ({} : Settings).chunkCapacity (marked ++ unclosed) ∧
      Callback.through 2 (((extracting "http://e/".toList {}).bind
          ({ pieces := marked ++ childless } : Playback)).contacts.map (·.callback)) =
        Callback.through 2 (((extracting "http://e/".toList {}).bind
          ({ pieces := marked ++ unclosed } : Playback)).contacts.map (·.callback)) ∧
      (∃ before answer after,
        ((extracting "http://e/".toList {}).bind
            ({ pieces := marked ++ childless } : Playback)).contacts =
          before ++ .produced 4096 (.ok answer) :: after ∧
        before.countP (·.isProduction) = 1 ∧
        before.filter (!·.isProduction) = [.received .default (stated.asTriple .literal) (.ok ())]) ∧
      ReadWhole 4096 (marked ++ childless)
        ((extracting "http://e/".toList {}).bind
          ({ pieces := marked ++ childless } : Playback)).contacts
        ((extracting "http://e/".toList {}).bind
          ({ pieces := marked ++ childless } : Playback)).run.session.stats := by
  have opened : openWith "http://e/".toList {} =
      .ok (extracting "http://e/".toList {} : Session Playback) :=
    openWith_eq_ok_iff.mpr ⟨by decide, rfl⟩
  have fitting₁ : Fitting ({} : Settings).chunkCapacity (marked ++ childless) := by
    unfold Fitting
    decide
  have fitting₂ : Fitting ({} : Settings).chunkCapacity (marked ++ unclosed) := by
    unfold Fitting
    decide
  have sound : (marker.whole (Extractor.document (marked ++ childless))).malformation = none := by
    decide +kernel
  have ended := (run_contacts_of_supplies opened rfl (playback_supplies _) fitting₁
    (playback_ready _)).2.1
  obtain ⟨causal, eager, whole⟩ := run_streams opened opened (playback_supplies _)
    (playback_supplies _) fitting₁ fitting₂ (playback_ready _) (playback_ready _)
  refine ⟨fitting₁, fitting₂, causal, eager _ _ _ _ (by decide) marked_completes, whole ?_⟩
  exact ended.trans (congrArg reported (Extractor.verdict_eq_ok_iff.mpr sound))

end Session
end Rdfa
