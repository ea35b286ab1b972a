import Rdfa.Proofs.Extractor.Partial

-- What a run of the extractor can end with, whatever its host does: the end of the document, a flaw of
-- the document, or an interruption, and that exactly when a call was refused.
namespace Rdfa

open Exchange

-- The end of a run that is put down to the host or to the document, not to the engine.
structure Blameless (result : Except Halt Unit) (calls : List Exchange) : Prop where
  interrupted : result = .error .interrupted ↔ ∃ call ∈ calls, call.isRefused = true
  malformed : ∀ fault, result = .error (.fault fault) →
    ∃ position detail, fault = .malformed position detail

namespace Extractor

open Document

variable {x : Extractor} {η : Type} [Hooks η]

theorem verdict_malformed {r : Reading} {halt : Halt} (stopped : verdict r = .error halt) :
    ∃ position detail, halt = .fault (.malformed position detail) := by
  unfold verdict at stopped
  split at stopped
  · cases stopped
    exact ⟨_, _, rfl⟩
  · cases stopped

-- An extractor that was not used yet never reports a fault of its own.
theorem run_blameless (fresh : x.consumed = false) (host : η) :
    Blameless (x.engine.run host).result (x.engine.run host).calls := by
  cases unwinds_run fresh host with
  | @refused earlier last made accepted refused begun left =>
    refine ⟨iff_of_true left ⟨last, by simp [made], refused⟩, fun fault ended => ?_⟩
    cases left.symm.trans ended
  | through accepted all ended =>
    refine ⟨iff_of_false (fun interrupted => ?_) ?_, fun fault stopped => ?_⟩
    · obtain ⟨_, _, flawed⟩ := verdict_malformed (ended.symm.trans interrupted)
      cases flawed
    · rintro ⟨call, present, refused⟩
      cases (accepted call present).symm.trans refused
    · obtain ⟨position, detail, flawed⟩ := verdict_malformed (ended.symm.trans stopped)
      exact ⟨position, detail, Halt.fault.inj flawed⟩

theorem run_announceable (x : Extractor) (host : η) {emission : Emission} {accepted : Bool}
    (made : .emitted emission accepted ∈ (x.engine.run host).calls) :
    Announceable emission.triple := by
  have told : (x.whole (document (pieces (x.engine.run host).calls))).Announces :=
    ((announces_initial x.base).read _).close
  have present : emission ∈ announcements (x.engine.run host).calls :=
    List.mem_filterMap.mpr ⟨.emitted emission accepted, made, rfl⟩
  exact told emission (List.mem_reverse.mp (begins_run.subset present))

end Extractor
end Rdfa
