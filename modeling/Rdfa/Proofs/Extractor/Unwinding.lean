import Rdfa.Hooks.Feed
import Rdfa.Proofs.Extractor.Blameless

-- An extractor leaves its host at the first call that is refused, and calls that an interruption, as it
-- calls nothing else. It reads one document.
namespace Rdfa.Extractor

variable {x : Extractor} {η : Type} [Hooks η]

theorem last_of_refused (fresh : x.consumed = false) (host : η) {before after : List Exchange}
    {call : Exchange} (made : (x.engine.run host).calls = before ++ call :: after)
    (refused : call.isRefused = true) : after = [] := by
  cases unwinds_run fresh host with
  | @refused earlier last ended accepted _ _ _ =>
    rcases List.eq_nil_or_concat after with empty | ⟨rest, final, more⟩
    · exact empty
    · rw [made, more, List.concat_eq_append] at ended
      rw [← List.cons_append, ← List.append_assoc] at ended
      have cut : before ++ call :: rest = earlier := List.append_inj_left' ended rfl
      have answered := accepted call (by simp [← cut])
      cases answered.symm.trans refused
  | through accepted _ _ =>
    have answered := accepted call (by simp [made])
    cases answered.symm.trans refused

-- The first document that an extractor is given, by any host, and what becomes of a second one.
structure Unwound (x : Extractor) (host : η) : Prop where
  asked : Hooks.Trace host (x.parse host).1.calls (x.parse host).1.host
  last : ∀ before call after, (x.parse host).1.calls = before ++ call :: after →
    call.isRefused = true → after = []
  interrupted : (x.parse host).1.result = .error .interrupted ↔
    ∃ call ∈ (x.parse host).1.calls, call.isRefused = true
  again : ∀ {ζ : Type} [Hooks ζ] (other : ζ), ((x.parse host).2.parse other).1 =
    ⟨.error (.fault (.internal "engine has already parsed its input".toList)), other, []⟩

theorem fresh_of_opened {base : Text} {settings : Settings} (opened : ofBase base settings = .ok x) :
    x.consumed = false := by
  unfold ofBase at opened
  split at opened
  · cases opened
  · cases opened
    rfl

theorem parse_unwound {base : Text} {settings : Settings} (opened : ofBase base settings = .ok x)
    (host : η) : Unwound x host := by
  have fresh := fresh_of_opened opened
  refine ⟨x.engine.run_trace host, ?_, (run_blameless fresh host).interrupted, ?_⟩
  · intro before call after made refused
    exact last_of_refused fresh host made refused
  · intro ζ _ other
    exact run_of_consumed rfl other

def cautious : Extractor := ⟨"http://e/".toList, {}, 16, false⟩

def forbidding : Hooks.Feed :=
  { Hooks.Feed.ofPieces [Markup.ascii "<p property='x'>", Markup.ascii "<p property='y'>"] with
    refusedEmit := some 1 }

theorem cautious_unwound :
    ofBase "http://e/".toList { chunkCapacity := 16 } = .ok cautious ∧ Unwound cautious forbidding := by
  have opened : ofBase "http://e/".toList { chunkCapacity := 16 } = .ok cautious := rfl
  exact ⟨opened, parse_unwound opened forbidding⟩

example : (cautious.parse forbidding).1.calls.map Exchange.isRefused = [false, false, true] := by
  decide +kernel

end Rdfa.Extractor
