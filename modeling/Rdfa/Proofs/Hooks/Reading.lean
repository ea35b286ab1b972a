import Mathlib.Algebra.Ring.Nat
import Mathlib.Data.List.Forall2
import Rdfa.Bridge
import Rdfa.Hooks.Feed
import Rdfa.Hooks.Reader
import Rdfa.Proofs.Hooks.Trace

-- Reads one after another, whatever the host answers. A refusal is the last the host hears of the reader, and a
-- read of no bytes is never heard.
namespace Rdfa

namespace Hooks.Reader

variable {η : Type} {fill : η → Nat → Option Filled × η} {reader : Reader} {host last : η} {size : Nat}
  {sizes : List Nat} {answers : List (Option Bytes)} {calls : List Exchange}

def readAll (fill : η → Nat → Option Filled × η) : Reader → η → List Nat → List (Option Bytes) × Reader × η
  | reader, host, [] => ([], reader, host)
  | reader, host, size :: rest =>
    let first := readBy fill reader host size
    let later := readAll fill first.2.1 first.2.2 rest
    (first.1 :: later.1, later.2)

inductive Outcome (fill : η → Nat → Option Filled × η) (reader : Reader) (host : η) (size : Nat) :
    Option Bytes × Reader × η → Prop where
  | stuck (interrupted : reader.interrupted = true) : Outcome fill reader host size (none, reader, host)
  | empty (running : reader.interrupted = false) (nothing : size = 0) :
      Outcome fill reader host size (some [], reader, host)
  | refused {next : η} (running : reader.interrupted = false) (asked : size ≠ 0)
      (answered : fill host size = (none, next)) :
      Outcome fill reader host size (none, { reader with interrupted := true }, next)
  | filled {filled : Filled} {next : η} (running : reader.interrupted = false) (asked : size ≠ 0)
      (answered : fill host size = (some filled, next)) :
      Outcome fill reader host size (some (filled.taken size),
        { reader with bytesRead := reader.bytesRead + (filled.taken size).length }, next)

theorem readBy_outcome (fill : η → Nat → Option Filled × η) (reader : Reader) (host : η) (size : Nat) :
    Outcome fill reader host size (readBy fill reader host size) := by
  unfold readBy
  split
  · next interrupted => exact .stuck interrupted
  · next running =>
    rw [Bool.not_eq_true] at running
    split
    · next nothing => exact .empty running nothing
    · next asked =>
      split
      · next answered => exact .refused running asked answered
      · next answered => exact .filled running asked answered

-- What reads one after another come to, and the calls they make of the host.
inductive Pulls (fill : η → Nat → Option Filled × η) :
    η → List Nat → List (Option Bytes) → List Exchange → η → Prop where
  | nil {host : η} : Pulls fill host [] [] [] host
  | empty {host last : η} {sizes : List Nat} {answers : List (Option Bytes)} {calls : List Exchange}
      (later : Pulls fill host sizes answers calls last) :
      Pulls fill host (0 :: sizes) (some [] :: answers) calls last
  | filled {host next last : η} {size : Nat} {filled : Filled} {sizes : List Nat}
      {answers : List (Option Bytes)} {calls : List Exchange} (asked : size ≠ 0)
      (answered : fill host size = (some filled, next)) (later : Pulls fill next sizes answers calls last) :
      Pulls fill host (size :: sizes) (some (filled.taken size) :: answers)
        (.filled size (some filled) :: calls) last
  | refused {host last : η} {size : Nat} (sizes : List Nat) (asked : size ≠ 0)
      (answered : fill host size = (none, last)) :
      Pulls fill host (size :: sizes) (none :: sizes.map fun _ => none) [.filled size none] last

theorem readAll_append (reader : Reader) (host : η) (early late : List Nat) :
    readAll fill reader host (early ++ late) =
      let first := readAll fill reader host early
      let second := readAll fill first.2.1 first.2.2 late
      (first.1 ++ second.1, second.2) := by
  induction early generalizing reader host with
  | nil => rfl
  | cons size early ih =>
    rw [List.cons_append, readAll, ih]
    rfl

theorem readBy_interrupted (interrupted : reader.interrupted = true) (host : η) (size : Nat) :
    readBy fill reader host size = (none, reader, host) := by
  rw [readBy, if_pos interrupted]

theorem readAll_interrupted (interrupted : reader.interrupted = true) (host : η) (sizes : List Nat) :
    readAll fill reader host sizes = (sizes.map fun _ => none, reader, host) := by
  induction sizes with
  | nil => rfl
  | cons size sizes ih =>
    simp only [readAll, readBy_interrupted interrupted, ih, List.map_cons]

theorem readAll_pulls (fill : η → Nat → Option Filled × η) (running : reader.interrupted = false) (host : η)
    (sizes : List Nat) : ∃ calls, Pulls fill host sizes (readAll fill reader host sizes).1 calls
      (readAll fill reader host sizes).2.2 := by
  -- The cases are the outcomes of the first read: the others go on from there, unless it was refused.
  induction sizes generalizing reader host with
  | nil => exact ⟨[], .nil⟩
  | cons size sizes ih =>
    have outcome := readBy_outcome fill reader host size
    unfold readAll
    generalize readBy fill reader host size = first at outcome ⊢
    cases outcome with
    | stuck interrupted => cases running.symm.trans interrupted
    | empty _ nothing =>
      obtain ⟨calls, later⟩ := ih running host
      subst nothing
      exact ⟨calls, .empty later⟩
    | @refused next _ asked answered =>
      dsimp only
      rw [readAll_interrupted rfl]
      exact ⟨[.filled size none], .refused sizes asked answered⟩
    | @filled filled next _ asked answered =>
      have further : ({ reader with bytesRead := reader.bytesRead + (filled.taken size).length } :
        Reader).interrupted = false := running
      obtain ⟨calls, later⟩ := ih further next
      exact ⟨_, .filled asked answered later⟩

theorem Pulls.asked (pulls : Pulls fill host sizes answers calls last) :
    ∀ call ∈ calls, ∃ size answer, size ≠ 0 ∧ call = .filled size answer := by
  induction pulls with
  | nil => simp
  | empty _ ih => exact ih
  | filled asked _ _ ih => exact List.forall_mem_cons.mpr ⟨⟨_, _, asked, rfl⟩, ih⟩
  | refused sizes asked _ => exact List.forall_mem_singleton.mpr ⟨_, _, asked, rfl⟩

theorem readBy_bounded (fill : η → Nat → Option Filled × η) (reader : Reader) (host : η) (size : Nat) :
    ∀ bytes ∈ (readBy fill reader host size).1, bytes.length ≤ size := by
  have outcome := readBy_outcome fill reader host size
  generalize readBy fill reader host size = result at outcome ⊢
  cases outcome with
  | stuck _ | refused _ _ _ => rintro bytes ⟨⟩
  | empty _ _ =>
    rintro bytes ⟨⟩
    exact Nat.zero_le size
  | @filled filled _ _ _ _ =>
    rintro bytes ⟨⟩
    exact filled.taken_length_le size

theorem readAll_bounded (fill : η → Nat → Option Filled × η) (reader : Reader) (host : η) (sizes : List Nat) :
    List.Forall₂ (fun size answer => ∀ bytes ∈ answer, bytes.length ≤ size) sizes
      (readAll fill reader host sizes).1 := by
  induction sizes generalizing reader host with
  | nil => exact .nil
  | cons size sizes ih => exact .cons (readBy_bounded fill reader host size) (ih _ _)

def delivered (answer : Option Bytes) : Nat := answer.elim 0 List.length

theorem readBy_counted (fill : η → Nat → Option Filled × η) (reader : Reader) (host : η) (size : Nat) :
    (readBy fill reader host size).2.1.bytesRead =
      reader.bytesRead + delivered (readBy fill reader host size).1 := by
  have outcome := readBy_outcome fill reader host size
  generalize readBy fill reader host size = result at outcome ⊢
  cases outcome <;> rfl

theorem readAll_counted (fill : η → Nat → Option Filled × η) (reader : Reader) (host : η) (sizes : List Nat) :
    (readAll fill reader host sizes).2.1.bytesRead =
      reader.bytesRead + ((readAll fill reader host sizes).1.map delivered).sum := by
  induction sizes generalizing reader host with
  | nil => rfl
  | cons size sizes ih =>
    rw [readAll, ih, readBy_counted, List.map_cons, List.sum_cons, Nat.add_assoc]

theorem readBy_fails (fill : η → Nat → Option Filled × η) (reader : Reader) (host : η) (size : Nat) :
    (readBy fill reader host size).2.1.interrupted = (readBy fill reader host size).1.isNone := by
  have outcome := readBy_outcome fill reader host size
  generalize readBy fill reader host size = result at outcome ⊢
  cases outcome with
  | stuck interrupted => exact interrupted
  | refused _ _ _ => rfl
  | empty running _ | filled running _ _ => exact running

theorem readAll_fails (failed : none ∈ (readAll fill reader host sizes).1) :
    (readAll fill reader host sizes).2.1.interrupted = true := by
  induction sizes generalizing reader host with
  | nil => cases failed
  | cons size sizes ih =>
    rcases List.mem_cons.mp failed with here | there
    · have interrupted := readBy_fails fill reader host size
      rw [← here] at interrupted
      rw [readAll, readAll_interrupted interrupted]
      exact interrupted
    · exact ih there

theorem readBy_zero (fill : η → Nat → Option Filled × η) (reader : Reader) (host : η) :
    (readBy fill reader host 0).2 = (reader, host) := by
  unfold readBy
  split <;> rfl

theorem readAll_filter (fill : η → Nat → Option Filled × η) (reader : Reader) (host : η) (sizes : List Nat) :
    (readAll fill reader host (sizes.filter (· ≠ 0))).2 = (readAll fill reader host sizes).2 := by
  induction sizes generalizing reader host with
  | nil => rfl
  | cons size sizes ih =>
    by_cases nothing : size = 0
    · subst nothing
      rw [List.filter_cons_of_neg (by decide), ih, readAll, readBy_zero]
    · rw [List.filter_cons_of_pos (by simpa using nothing), readAll, readAll]
      exact ih _ _

end Hooks.Reader

namespace Bridge

variable {κ : Type} [Consumer κ]

-- The bridge takes its input to be at an end exactly when it says so.
theorem ended_fill (b : Bridge κ) (size : Nat) :
    (b.fill size).2.ended = (b.ended || (Exchange.filled size (b.fill size).1).isEnd) := by
  unfold fill
  split
  · exact (Bool.or_false b.ended).symm
  · split
    · next ended => simp [ended, Exchange.isEnd, Filled.nothing]
    · next more =>
      split
      · simp [Exchange.isEnd, Filled.nothing]
      · unfold request
        rw [Bool.not_eq_true] at more
        split
        · exact (Bool.or_false b.ended).symm
        · next chunk _ _ =>
          rw [more, Bool.false_or]
          dsimp only [Exchange.isEnd]
          cases chunk.take (min size b.capacity) <;> rfl

theorem ended_of_pulls {b last : Bridge κ} {sizes : List Nat} {answers : List (Option Bytes)}
    {calls : List Exchange} (pulls : Hooks.Reader.Pulls Bridge.fill b sizes answers calls last) :
    last.ended = (b.ended || calls.any (·.isEnd)) := by
  induction pulls with
  | nil => simp
  | empty _ ih => exact ih
  | @filled b next last size filled sizes answers calls asked answered later ih =>
    have ended := b.ended_fill size
    rw [answered] at ended
    rw [ih, ended, List.any_cons, Bool.or_assoc]
  | @refused b last size sizes asked answered =>
    have ended := b.ended_fill size
    rw [answered] at ended
    rw [ended, List.any_cons, List.any_nil, Bool.or_false]

end Bridge

namespace Hooks.Reader

-- What holds of the reads of a new reader, whatever the sizes of their buffers are.
structure Steady {η : Type} (fill : η → Nat → Option Filled × η) (host : η) (sizes : List Nat)
    (calls : List Exchange) : Prop where
  pulls : Pulls fill host sizes (readAll fill initial host sizes).1 calls (readAll fill initial host sizes).2.2
  bounded : List.Forall₂ (fun size answer => ∀ bytes ∈ answer, bytes.length ≤ size) sizes
    (readAll fill initial host sizes).1
  counted : (readAll fill initial host sizes).2.1.bytesRead =
    ((readAll fill initial host sizes).1.map delivered).sum
  -- An empty buffer is never asked for. It is as good as none.
  asked : ∀ call ∈ calls, ∃ size answer, size ≠ 0 ∧ call = .filled size answer
  unheard : (readAll fill initial host (sizes.filter (· ≠ 0))).2 = (readAll fill initial host sizes).2
  stuck : ∀ early late, early ++ late = sizes → none ∈ (readAll fill initial host early).1 →
    readAll fill initial host sizes =
      ((readAll fill initial host early).1 ++ late.map fun _ => none, (readAll fill initial host early).2)

theorem steady_of_pulls {η : Type} {fill : η → Nat → Option Filled × η} {host : η} {sizes : List Nat}
    {calls : List Exchange} (pulls : Pulls fill host sizes (readAll fill initial host sizes).1 calls
      (readAll fill initial host sizes).2.2) : Steady fill host sizes calls := by
  constructor
  case pulls => exact pulls
  case bounded => exact readAll_bounded fill initial host sizes
  case counted => exact (readAll_counted fill initial host sizes).trans (Nat.zero_add _)
  case asked => exact pulls.asked
  case unheard => exact readAll_filter fill initial host sizes
  case stuck =>
    rintro early late rfl failed
    have interrupted := readAll_fails failed
    rw [readAll_append]
    dsimp only
    rw [readAll_interrupted interrupted]

theorem readAll_steady :
    (∀ {η : Type} (fill : η → Nat → Option Filled × η) (host : η) (sizes : List Nat),
      ∃ calls, Steady fill host sizes calls) ∧
      ∀ {κ : Type} [Consumer κ] (b : Bridge κ) (sizes : List Nat), ∃ calls,
        Steady Bridge.fill b sizes calls ∧
          (readAll Bridge.fill initial b sizes).2.2.ended = (b.ended || calls.any (·.isEnd)) := by
  have running : initial.interrupted = false := rfl
  constructor
  · intro η fill host sizes
    obtain ⟨calls, pulls⟩ := readAll_pulls fill running host sizes
    exact ⟨calls, steady_of_pulls pulls⟩
  · intro κ _ b sizes
    obtain ⟨calls, pulls⟩ := readAll_pulls Bridge.fill running b sizes
    exact ⟨calls, steady_of_pulls pulls, Bridge.ended_of_pulls pulls⟩

-- The host claims more than it wrote and refuses the second call.
example : readAll Feed.fill initial { Feed.ofPieces [[1, 2, 3], [4]] with excess := 9, refusedFill := some 1 }
      [0, 2, 0, 8, 0, 4] =
    ([some [], some [1, 2], some [], none, none, none], ⟨true, 2⟩,
      { Feed.ofPieces [[3], [4]] with excess := 9, fills := 2, refusedFill := some 1 }) := by decide

end Hooks.Reader
end Rdfa
