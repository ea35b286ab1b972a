import Rdfa.Consumer.Stream

-- What a source that is read piecemeal answers, whatever is asked for: its bytes in order and none
-- twice, then its failure if it has one. Of interruptions nothing is seen.
namespace Rdfa.Stream

def content : List Event → Bytes
  | [] => []
  | .data bytes :: rest => bytes ++ content rest
  | .interruption :: rest | .failure _ :: rest => content rest

def failure? : List Event → Option Text
  | [] => none
  | .failure cause :: _ => some cause
  | .data _ :: rest | .interruption :: rest => failure? rest

-- Pieces with something in them and interruptions; nothing comes after a failure.
inductive Proper : List Event → Prop where
  | nil : Proper []
  | data {bytes : Bytes} {rest : List Event} (present : bytes ≠ []) (later : Proper rest) :
      Proper (.data bytes :: rest)
  | interruption {rest : List Event} (later : Proper rest) : Proper (.interruption :: rest)
  | failure (cause : Text) : Proper [.failure cause]

theorem content_putBack (left : Bytes) (rest : List Event) :
    content (putBack left rest) = left ++ content rest := by
  unfold putBack
  split
  · next empty => rw [List.isEmpty_iff.mp empty, List.nil_append]
  · rfl

theorem failure?_putBack (left : Bytes) (rest : List Event) :
    failure? (putBack left rest) = failure? rest := by
  unfold putBack
  split <;> rfl

theorem Proper.putBack {left : Bytes} {rest : List Event} (proper : Proper rest) :
    Proper (putBack left rest) := by
  unfold Stream.putBack
  split
  · exact proper
  · next content => exact .data (by simpa using content) proper

inductive Read (size : Nat) (script : List Event) : Except Text Bytes × List Event → Prop where
  | chunk {chunk : Bytes} {rest : List Event} (present : chunk ≠ []) (short : chunk.length ≤ size)
      (next : content script = chunk ++ content rest) (proper : Proper rest)
      (same : failure? rest = failure? script) : Read size script (.ok chunk, rest)
  | failed {cause : Text} (spent : content script = []) (failing : failure? script = some cause) :
      Read size script (.error cause, [])
  | ended (spent : content script = []) (sound : failure? script = .none) :
      Read size script (.ok [], [])

theorem readInto_proper {buffer : Bytes} (room : 0 < buffer.length) {script : List Event}
    (proper : Proper script) :
    Read buffer.length script ((readInto buffer script).1.map (readInto buffer script).2.1.take,
      (readInto buffer script).2.2) := by
  induction proper with
  | nil =>
    rw [readInto_nil]
    exact .ended rfl rfl
  | failure cause =>
    rw [readInto_failure]
    exact .failed rfl rfl
  | @interruption rest later ih =>
    -- The same read, of the same bytes.
    rw [readInto_interruption]
    generalize ((readInto buffer rest).1.map (readInto buffer rest).2.1.take,
      (readInto buffer rest).2.2) = answered at ih ⊢
    cases ih with
    | chunk present short next proper same => exact .chunk present short next proper same
    | failed spent failing => exact .failed spent failing
    | ended spent sound => exact .ended spent sound
  | @data bytes rest present later ih =>
    simp only [readInto_data, Except.map, List.take_left]
    refine .chunk ?_ (List.length_take_le _ bytes) ?_ later.putBack (failure?_putBack _ _)
    · have positive : 0 < (bytes.take buffer.length).length := by
        rw [List.length_take]
        exact Nat.lt_min.mpr ⟨room, List.length_pos_iff.mpr present⟩
      exact List.length_pos_iff.mp positive
    · rw [content_putBack, ← List.append_assoc, List.take_append_drop]
      rfl

-- What a buffer holds before a read is not seen after it.
theorem readInto_alike {buffer other : Bytes} (same : buffer.length = other.length)
    (script : List Event) :
    (readInto buffer script).1.map (readInto buffer script).2.1.take =
        (readInto other script).1.map (readInto other script).2.1.take ∧
      (readInto buffer script).2.2 = (readInto other script).2.2 := by
  induction script with
  | nil => simp [readInto_nil, Except.map]
  | cons event rest ih =>
    cases event with
    | interruption =>
      rw [readInto_interruption, readInto_interruption]
      exact ih
    | failure cause => simp [readInto_failure, Except.map]
    | data bytes => simp only [readInto_data, Except.map, List.take_left, same, and_self]

def bytesOf : Except Text Bytes → Bytes
  | .ok bytes => bytes
  | .error _ => []

def isError : Except Text Bytes → Bool
  | .ok _ => false
  | .error _ => true

def final (fault : Option Text) (early : List (Except Text Bytes)) : Except Text Bytes :=
  match fault with
  | some cause => if early.any isError then .ok [] else .error cause
  | none => .ok []

inductive Answers : Bytes → Option Text → List Nat → List (Except Text Bytes) → Prop where
  | nil {left : Bytes} {fault : Option Text} : Answers left fault [] []
  | chunk {bytes left : Bytes} {fault : Option Text} {size : Nat} {requests : List Nat}
      {later : List (Except Text Bytes)} (present : bytes ≠ []) (short : bytes.length ≤ size)
      (rest : Answers left fault requests later) :
      Answers (bytes ++ left) fault (size :: requests) (.ok bytes :: later)
  | failed {cause : Text} {size : Nat} {requests : List Nat} {later : List (Except Text Bytes)}
      (rest : Answers [] none requests later) :
      Answers [] (some cause) (size :: requests) (.error cause :: later)
  | ended {size : Nat} {requests : List Nat} {later : List (Except Text Bytes)}
      (rest : Answers [] none requests later) :
      Answers [] none (size :: requests) (.ok [] :: later)

-- What is known of the answers to these requests, of a source with `whole` in it and maybe a fault.
structure Delivers (whole : Bytes) (fault : Option Text) (requests : List Nat)
    (answers : List (Except Text Bytes)) : Prop where
  answered : answers.length = requests.length
  short : ∀ pair ∈ requests.zip answers, (bytesOf pair.2).length ≤ pair.1
  inOrder : answers.flatMap bytesOf <+: whole
  -- As long as bytes are left, some of them are the answer.
  before : ∀ early answer late, answers = early ++ answer :: late → early.flatMap bytesOf ≠ whole →
    ∃ bytes, answer = .ok bytes ∧ bytes ≠ []
  exhausted : ∀ early answer late, answers = early ++ answer :: late → bytesOf answer = [] →
    early.flatMap bytesOf = whole
  after : ∀ early answer late, answers = early ++ answer :: late → early.flatMap bytesOf = whole →
    answer = final fault early

namespace Answers

variable {left : Bytes} {fault : Option Text} {requests : List Nat}
  {early late : List (Except Text Bytes)} {answer : Except Text Bytes}

theorem length (given : Answers left fault requests early) : early.length = requests.length := by
  induction given with
  | nil => rfl
  | chunk _ _ _ ih => exact congrArg Nat.succ ih
  | failed _ ih => exact congrArg Nat.succ ih
  | ended _ ih => exact congrArg Nat.succ ih

theorem short (given : Answers left fault requests early) :
    ∀ pair ∈ requests.zip early, (bytesOf pair.2).length ≤ pair.1 := by
  induction given with
  | nil => simp
  | chunk _ short _ ih => exact List.forall_mem_cons.mpr ⟨short, ih⟩
  | failed _ ih => exact List.forall_mem_cons.mpr ⟨Nat.zero_le _, ih⟩
  | ended _ ih => exact List.forall_mem_cons.mpr ⟨Nat.zero_le _, ih⟩

theorem inOrder (given : Answers left fault requests early) :
    early.flatMap bytesOf <+: left := by
  induction given with
  | nil => exact List.nil_prefix
  | @chunk bytes _ _ _ _ _ _ _ _ ih => exact (List.prefix_append_right_inj bytes).mpr ih
  | failed _ ih => exact ih
  | ended _ ih => exact ih

theorem before (given : Answers left fault requests (early ++ answer :: late))
    (missing : early.flatMap bytesOf ≠ left) : ∃ bytes, answer = .ok bytes ∧ bytes ≠ [] := by
  induction early generalizing left fault requests with
  | nil =>
    cases given with
    | chunk present _ _ => exact ⟨_, rfl, present⟩
    | failed _ => exact absurd rfl missing
    | ended _ => exact absurd rfl missing
  | cons first early ih =>
    cases given with
    | @chunk bytes _ _ _ _ _ _ _ rest =>
      exact ih rest fun whole => missing (congrArg (bytes ++ ·) whole)
    | failed rest => exact ih rest missing
    | ended rest => exact ih rest missing

theorem after (given : Answers left fault requests (early ++ answer :: late))
    (whole : early.flatMap bytesOf = left) :
    answer = final fault early := by
  induction early generalizing left fault requests with
  | nil =>
    cases given with
    | chunk present _ _ => exact absurd (List.append_eq_nil_iff.mp whole.symm).1 present
    | failed _ => rfl
    | ended _ => rfl
  | cons first early ih =>
    cases given with
    | chunk _ _ rest => exact ih rest (List.append_cancel_left whole)
    | failed rest => exact ih rest whole
    | ended rest => exact ih rest whole

theorem delivers (given : Answers left fault requests early) :
    Delivers left fault requests early := by
  refine ⟨given.length, given.short, given.inOrder, fun _ _ _ cut => (cut ▸ given).before, ?_,
    fun _ _ _ cut => (cut ▸ given).after⟩
  intro early answer late cut nothing
  refine Classical.byContradiction fun missing => ?_
  obtain ⟨bytes, rfl, present⟩ := (cut ▸ given).before missing
  exact present nothing

end Answers

end Rdfa.Stream

namespace Rdfa.StreamConsumer

open Rdfa.Stream

variable {ρ : Type}

@[simp] theorem length_resize (scratch : Bytes) (size : Nat) : (resize scratch size).length = size := by
  simp only [resize, List.length_append, List.length_take, List.length_replicate]
  omega

-- A consumer that kept its buffer answers as a new one.
theorem produce_stream (consumer : StreamConsumer ρ) (size : Nat) :
    (consumer.produce size).1 = (consumer.stream.produce size).1 ∧
      (consumer.produce size).2.stream = (consumer.stream.produce size).2 := by
  have same : (resize consumer.scratch size).length = (resize [] size).length := by simp
  obtain ⟨answer, script⟩ := readInto_alike same consumer.stream.script
  exact ⟨answer, congrArg (fun script => { consumer.stream with script }) script⟩

theorem produce_proper {size : Nat} (asked : 0 < size) {consumer : StreamConsumer ρ}
    (proper : Proper consumer.stream.script) :
    Read size consumer.stream.script
      ((consumer.produce size).1, (consumer.produce size).2.stream.script) := by
  have room : 0 < (resize [] size).length := by rwa [length_resize]
  have reads := readInto_proper room proper
  rw [length_resize] at reads
  obtain ⟨answer, stream⟩ := consumer.produce_stream size
  rw [answer, stream]
  exact reads

def answers (consumer : StreamConsumer ρ) : List Nat → List (Except Text Bytes)
  | [] => []
  | size :: rest => (consumer.produce size).1 :: (consumer.produce size).2.answers rest

theorem answers_proper {requests : List Nat} (asked : ∀ size ∈ requests, 0 < size)
    (consumer : StreamConsumer ρ) (proper : Proper consumer.stream.script) :
    Answers (content consumer.stream.script) (failure? consumer.stream.script) requests
      (consumer.answers requests) := by
  induction requests generalizing consumer with
  | nil => exact .nil
  | cons size requests ih =>
    obtain ⟨first, others⟩ := List.forall_mem_cons.mp asked
    have reads := produce_proper first proper
    have later := ih others (consumer.produce size).2
    unfold answers
    generalize (consumer.produce size).1 = answer at reads ⊢
    generalize (consumer.produce size).2 = after at reads later ⊢
    obtain ⟨⟨script, sink⟩, scratch⟩ := after
    dsimp only at reads later
    cases reads with
    | chunk present short next proper same =>
      rw [next, ← same]
      exact .chunk present short (later proper)
    | failed spent failing =>
      rw [spent, failing]
      exact .failed (later .nil)
    | ended spent sound =>
      rw [spent, sound]
      exact .ended (later .nil)

theorem delivers_of_proper {requests : List Nat} (asked : ∀ size ∈ requests, 0 < size)
    (consumer : StreamConsumer ρ) (proper : Proper consumer.stream.script) :
    Delivers (content consumer.stream.script) (failure? consumer.stream.script) requests
      (consumer.answers requests) :=
  (answers_proper asked consumer proper).delivers

end Rdfa.StreamConsumer
