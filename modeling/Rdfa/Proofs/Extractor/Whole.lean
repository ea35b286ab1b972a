import Rdfa.Proofs.Document.Reading
import Rdfa.Proofs.Extractor.Sending

-- A document read as a whole, and how an extractor goes on after each piece of it: what is announced on the
-- way is left out of what is still to be read, and in all it comes to the same.
namespace Rdfa

open Document

namespace Extractor

def finished (x : Extractor) (r : Reading) (document : Bytes) : Reading :=
  (r.read x.processing document).close x.processing

def whole (x : Extractor) (document : Bytes) : Reading := x.finished (.initial x.base) document

def verdict (r : Reading) : Except Halt Unit :=
  match r.malformation with
  | some malformation => stopAt malformation
  | none => .ok ()

variable {x : Extractor} {r : Reading}

theorem finished_append (first second : Bytes) :
    x.finished (r.read x.processing first) second = x.finished r (first ++ second) := by
  rw [finished, finished, Reading.read_append]

theorem finished_of_malformation {malformation : Malformation}
    (failed : r.malformation = some malformation) (document : Bytes) :
    x.finished r document = r := by
  rw [finished, Reading.read_of_malformation failed]
  simp only [Reading.close, failed]

-- What is known is announced first. Then a malformed document is given up, and any other is read on.
theorem resume_of_malformation {malformation : Malformation}
    (failed : r.malformation = some malformation) :
    x.resume r = sendAll r.drain.1 (.stop (stopAt malformation)) := by
  simp only [resume, Reading.drain, failed]

theorem resume_of_sound (sound : r.malformation = none) :
    x.resume r = sendAll r.drain.1 (x.ask id r.drain.2 fun _ => x.conclude r.drain.2) := by
  simp only [resume, Reading.drain, sound]

theorem finished_drain (document : Bytes) :
    (x.finished r document).sent.reverse =
        r.drain.1 ++ (x.finished r.drain.2 document).sent.reverse ∧
      verdict (x.finished r document) = verdict (x.finished r.drain.2 document) := by
  have drained : x.finished r document =
      (x.finished r.drain.2 document).following r.drain.1.reverse := by
    rw [finished, finished, ← Reading.close_following, ← Reading.read_following,
      Reading.following_drain]
  rw [drained]
  exact ⟨by simp [Reading.following], rfl⟩

theorem announces_initial (base : Text) : (Reading.initial base).Announces := by
  intro emission present
  cases present

theorem announces_drain (announces : r.Announces) :
    (∀ emission ∈ r.drain.1, Announceable emission.triple) ∧ r.drain.2.Announces := by
  refine ⟨fun emission present => announces emission (List.mem_reverse.mp present), ?_⟩
  intro emission present
  cases present

theorem withoutMark_eq {chunk rest : Bytes} (unmarked : ¬ [0xEF, 0xBB, 0xBF] <+: chunk ++ rest) :
    withoutMark chunk = chunk := by
  unfold withoutMark
  split
  · next marked =>
    have front := List.isPrefixOf_iff_prefix.mp marked
    exact absurd (front.trans (List.prefix_append chunk rest)) unmarked
  · rfl

theorem engine_start (fresh : x.consumed = false) : x.engine.start = x.start := by
  show (if x.consumed then _ else x.start) = x.start
  rw [fresh]
  rfl

end Extractor
end Rdfa
