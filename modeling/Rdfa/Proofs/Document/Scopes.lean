import Rdfa.Proofs.Document.Chronicle
import Rdfa.Proofs.Element.Kinds
import Rdfa.Proofs.Scope.Lexical

-- The scopes of a document: a start tag pushes one and declares in it, and the end of the element pops
-- it. So a prefix is read by the elements that stand open, whatever was closed before.
namespace Rdfa

namespace Element

variable (processing : Processing)

theorem declaredIn_prefixes {s t : Scope} (same : s.prefixes = t.prefixes) (declared : List (Text × Text)) :
    (declaredIn s declared).prefixes = (declaredIn t declared).prefixes := by
  induction declared generalizing s t with
  | nil => exact same
  | cons d rest ih =>
    refine ih ?_
    by_cases admits : Scope.Admits d.1
    · simp [Scope.declare_of_admits _ admits, Except.toOption, same]
    · obtain ⟨_, first⟩ := s.declare_of_not_admits admits d.2
      obtain ⟨_, second⟩ := t.declare_of_not_admits admits d.2
      simpa [first, second, Except.toOption] using same

theorem vocabularyIn_prefixes (base : Text) (attributes : Attributes) (scope : Scope) :
    (vocabularyIn base attributes scope).prefixes = scope.prefixes := by
  unfold vocabularyIn
  split <;> rfl

theorem Place.scope_prefixes (place : Place) (attributes : Attributes) :
    (place.scope attributes).prefixes = (declaredIn place.parent attributes.declared).prefixes := by
  have entered := declaredIn_prefixes (vocabularyIn_prefixes place.base attributes place.parent)
    attributes.declared
  rw [← entered]
  unfold Place.scope enterLanguage
  split <;> rfl

namespace Entry

variable (e : Entry)

theorem scope_prefixes : (e.scope processing).prefixes = (e.place.scope e.attributes).prefixes := by
  obtain ⟨object, same⟩ := e.outcome processing
  rw [scope, same, ← (e.right processing).scope]
  unfold leave
  split <;> rfl

def acts : List Scopes.Act :=
  .push :: (e.attributes.declared.map (fun d => .declare d.1 d.2) ++ [.adopt (e.scope processing)])

end Entry
end Element

namespace Scopes

open Element

def inside (s : Scopes) (scope : Scope) : Scopes := ⟨scope, s.top :: s.below⟩

def nest (base : Text) (scopes : List Scope) : Scopes :=
  scopes.foldr (fun scope outer => outer.inside scope) (outermost base)

theorem run_declares (s : Scopes) (declared : List (Text × Text)) :
    s.run (declared.map fun d => .declare d.1 d.2) = { s with top := declaredIn s.top declared } := by
  induction declared generalizing s with
  | nil => rfl
  | cons d rest ih => exact ih _

theorem run_entered (processing : Processing) (s : Scopes) (e : Entry) (parent : e.place.parent = s.top) :
    s.run (e.acts processing) = s.inside (e.scope processing) := by
  have kept := (e.scope_prefixes processing).trans (e.place.scope_prefixes e.attributes)
  rw [parent] at kept
  rw [Entry.acts, run_cons, run_append, run_declares, run_singleton]
  simp only [act, ← kept, inside]

end Scopes

namespace Document

open Element Scopes

variable {processing : Processing} {base : Text}

def Stage.acts (processing : Processing) : Stage → List Act
  | .entered element _ => element.acts processing
  | .left _ _ => [.pop]

def scopesIn (processing : Processing) (base : Text) (around : List Entry) : Scopes :=
  nest base (around.map (·.scope processing))

theorem Stands.parent {place : Place} {around : List Entry}
    (stands : Stands processing (.outermost base) place around) :
    place.parent = (scopesIn processing base around).top := by
  cases stands <;> rfl

theorem Follows.scopes {around last : List Entry} {stages : List Stage} (follows : Follows around stages last)
    (stand : ∀ e outer, .entered e outer ∈ stages → Stands processing (.outermost base) e.place outer) :
    (scopesIn processing base around).run (stages.flatMap (Stage.acts processing)) =
      scopesIn processing base last := by
  -- The induction is on the stages: each element is entered in the scope of the element around it.
  induction follows with
  | nil => rfl
  | @enter e around last stages later ih =>
    have here := stand e around List.mem_cons_self
    have further := ih fun d outer present => stand d outer (List.mem_cons_of_mem _ present)
    rw [List.flatMap_cons, run_append, Stage.acts, run_entered processing _ e here.parent]
    exact further
  | @leave e around last stages text later ih =>
    have further := ih fun d outer present => stand d outer (List.mem_cons_of_mem _ present)
    rw [List.flatMap_cons, run_append]
    exact further

def Processor.scopes (p : Processor) : Scopes := nest p.origin (p.stack.map (·.scope))

theorem Processor.place_parent (p : Processor) : p.place.parent = p.scopes.top := by
  obtain ⟨origin, base, stack, nodes⟩ := p
  cases stack <;> rfl

theorem Processor.Holds.scopes {p : Processor} {opened : List Standing}
    (holds : p.Holds processing base opened) : p.scopes = scopesIn processing base (elements opened) := by
  have same : p.stack.map (·.scope) = (elements opened).map (·.scope processing) := by
    rw [holds.stack, elements, List.map_map, List.map_map]
    rfl
  rw [Processor.scopes, scopesIn, same, holds.origin]

-- However scopes are pushed and popped and whatever is declared in them, prefixes are read as they are
-- nested; and what was read of a document left the scopes that its tags so far push and pop.
theorem prefixes_scoped (processing : Processing) (base : Text) :
    (∀ acts, Lexical base acts) ∧
    (∀ bytes, ((Reading.initial base).read processing bytes).malformation = none →
      ∃ stages last, Follows [] stages last ∧
        (entries stages).map (·.attributes) =
          ((Reading.initial base).lexer.items bytes).filterMap attributes? ∧
        ((Reading.initial base).read processing bytes).processor.scopes =
          (outermost base).run (stages.flatMap (Stage.acts processing)) ∧
        ((Reading.initial base).read processing bytes).processor.place.parent =
          ((outermost base).run (stages.flatMap (Stage.acts processing))).top) := by
  refine ⟨run_scoped base, fun bytes sound => ?_⟩
  have tells : (Reading.initial base).Tells processing base [] := .initial base
  obtain ⟨stages, opened, moves⟩ := tells.read sound
  have scopes := moves.holds.scopes.trans (moves.follows.scopes moves.stand).symm
  exact ⟨stages, elements opened, moves.follows, moves.entered, scopes,
    (Processor.place_parent _).trans (congrArg _ scopes)⟩

-- A prefix declared anew in a child scope and again in one that was left, and a label's mark declared.
def redeclared : List Act :=
  [.declare "dc".toList "u:a".toList, .push, .declare "DC".toList "u:b".toList,
    .declare "_".toList "u:c".toList, .push, .declare "dC".toList "u:d".toList, .pop]

def redeclaring : Bytes := Markup.ascii "<p prefix='dc: u:a'><q prefix='DC: u:b _: u:c'><r prefix='dC: u:d'/>"

theorem redeclared_scoped :
    ((outermost "http://e/".toList).run redeclared).top.namespace? "Dc".toList = some "u:b".toList ∧
    ¬ Scope.Admits "_".toList ∧
    (outermost "http://e/".toList).run (redeclared ++ [.declare "_".toList []]) =
      (outermost "http://e/".toList).run redeclared ∧
    Balanced [.declare "dc".toList []] ∧
    (outermost "http://e/".toList).run (redeclared ++ (.push :: [.declare "dc".toList []] ++ [.pop])) =
      (outermost "http://e/".toList).run redeclared ∧
    ((Reading.initial "http://e/".toList).read {} redeclaring).malformation = none ∧
    ∃ stages last, Follows [] stages last ∧
      (entries stages).map (·.attributes) =
        ((Reading.initial "http://e/".toList).lexer.items redeclaring).filterMap attributes? ∧
      ((Reading.initial "http://e/".toList).read {} redeclaring).processor.scopes =
        (outermost "http://e/".toList).run (stages.flatMap (Stage.acts {})) ∧
      ((Reading.initial "http://e/".toList).read {} redeclaring).processor.place.parent =
        ((outermost "http://e/".toList).run (stages.flatMap (Stage.acts {}))).top := by
  have unfit : ¬ Scope.Admits "_".toList := by decide +kernel
  have balanced : Balanced [.declare "dc".toList []] := .declare _ _ .nil
  have sound : ((Reading.initial "http://e/".toList).read {} redeclaring).malformation = none := by
    decide +kernel
  obtain ⟨lexical, read⟩ := prefixes_scoped {} "http://e/".toList
  refine ⟨((lexical redeclared).found _).trans ?_, unfit, ((lexical redeclared).refused _ _ unfit).2,
    balanced, (lexical redeclared).restored _ balanced, sound, read _ sound⟩
  decide +kernel

end Document
end Rdfa
