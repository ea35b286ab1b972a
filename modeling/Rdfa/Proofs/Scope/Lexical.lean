import Rdfa.Scope

-- Scopes on a stack. A prefix is looked up among what was declared in the scopes that are still on it,
-- and a scope that is left takes its declarations along.
namespace Rdfa

namespace Scope

def Admits (name : Text) : Prop := name ≠ ['_'] ∧ isPrefixName name = true

instance : DecidablePred Admits := fun name =>
  inferInstanceAs (Decidable (name ≠ ['_'] ∧ isPrefixName name = true))

variable (scope : Scope) {name : Text}

theorem declare_of_admits (admits : Admits name) (iri : Text) : scope.declare name iri =
    .ok { scope with prefixes := (Text.lowercase name, iri) :: scope.prefixes } := by
  rw [declare, if_neg admits.1, if_pos admits.2]

theorem declare_of_not_admits (refused : ¬ Admits name) (iri : Text) :
    ∃ warning, scope.declare name iri = .error warning := by
  unfold declare
  split
  · exact ⟨_, rfl⟩
  · next other =>
    rw [if_neg fun valid => refused ⟨other, valid⟩]
    exact ⟨_, rfl⟩

end Scope

structure Scopes where
  top : Scope
  below : List Scope
deriving Repr, DecidableEq

namespace Scopes

-- What is done to scopes. `adopt` leaves the prefixes and takes all else from another scope.
inductive Act where
  | declare (name iri : Text)
  | adopt (other : Scope)
  | push
  | pop

def act (s : Scopes) : Act → Scopes
  | .declare name iri => { s with top := (s.top.declare name iri).toOption.getD s.top }
  | .adopt other => { s with top := { other with prefixes := s.top.prefixes } }
  | .push => ⟨s.top, s.top :: s.below⟩
  | .pop =>
    match s.below with
    | [] => s
    | outer :: further => ⟨outer, further⟩

def run (s : Scopes) (acts : List Act) : Scopes := acts.foldl act s

def outermost (base : Text) : Scopes := ⟨Scope.root base, []⟩

theorem run_append (s : Scopes) (first second : List Act) :
    s.run (first ++ second) = (s.run first).run second := List.foldl_append

theorem run_cons (s : Scopes) (a : Act) (rest : List Act) : s.run (a :: rest) = (s.act a).run rest := rfl

theorem run_singleton (s : Scopes) (a : Act) : s.run [a] = s.act a := rfl

structure Ledger where
  own : List (Text × Text)
  outer : List (List (Text × Text))

namespace Ledger

def empty : Ledger := ⟨[], []⟩

def act (l : Ledger) : Act → Ledger
  | .declare name iri => if Scope.Admits name then { l with own := (name, iri) :: l.own } else l
  | .adopt _ => l
  | .push => ⟨[], l.own :: l.outer⟩
  | .pop =>
    match l.outer with
    | [] => l
    | layer :: further => ⟨layer, further⟩

def standing (l : Ledger) : List (Text × Text) := l.own ++ l.outer.flatten

end Ledger

def standing (acts : List Act) : List (Text × Text) := (acts.foldl Ledger.act .empty).standing

def admitted? : Act → Option (Text × Text)
  | .declare name iri => if Scope.Admits name then some (name, iri) else none
  | _ => none

def small (declared : List (Text × Text)) : List (Text × Text) :=
  declared.map fun d => (Text.lowercase d.1, d.2)

theorem lookup_small (declared : List (Text × Text)) (key : Text) :
    (small declared).lookup key =
      (declared.find? fun d => Text.lowercase d.1 = key).map (·.2) := by
  induction declared with
  | nil => rfl
  | cons d rest ih =>
    by_cases same : Text.lowercase d.1 = key
    · simp [small, same]
    · have other : (key == Text.lowercase d.1) = false := by simpa using Ne.symm same
      simpa [small, List.lookup_cons, other, same] using ih

inductive Records : Ledger → Scopes → Prop where
  | outermost {own : List (Text × Text)} {scope : Scope} (kept : scope.prefixes = small own) :
      Records ⟨own, []⟩ ⟨scope, []⟩
  | inside {own layer : List (Text × Text)} {layers : List (List (Text × Text))} {scope outer : Scope}
      {scopes : List Scope} (further : Records ⟨layer, layers⟩ ⟨outer, scopes⟩)
      (kept : scope.prefixes = small (own ++ (layer :: layers).flatten)) :
      Records ⟨own, layer :: layers⟩ ⟨scope, outer :: scopes⟩

namespace Records

variable {l : Ledger} {s : Scopes}

theorem kept (records : Records l s) : s.top.prefixes = small l.standing := by
  cases records with
  | outermost kept => simpa [Ledger.standing] using kept
  | inside further kept => exact kept

theorem within (records : Records l s) {own : List (Text × Text)} {scope : Scope}
    (kept : scope.prefixes = small (own ++ l.outer.flatten)) :
    Records { l with own } { s with top := scope } := by
  cases records with
  | outermost _ => exact .outermost (by simpa using kept)
  | inside further _ => exact .inside further kept

theorem act (records : Records l s) (a : Act) : Records (l.act a) (s.act a) := by
  cases a with
  | declare name iri =>
    by_cases admits : Scope.Admits name
    · simp only [Ledger.act, Scopes.act, if_pos admits, s.top.declare_of_admits admits]
      exact records.within (congrArg _ records.kept)
    · obtain ⟨warning, refused⟩ := s.top.declare_of_not_admits admits iri
      simp only [Ledger.act, Scopes.act, if_neg admits, refused]
      exact records
  | adopt other => exact records.within records.kept
  | push => exact .inside records records.kept
  | pop =>
    cases records with
    | outermost kept => exact .outermost kept
    | inside further _ => exact further

theorem run (records : Records l s) (acts : List Act) : Records (acts.foldl Ledger.act l) (s.run acts) := by
  induction acts generalizing l s with
  | nil => exact records
  | cons a rest ih => exact ih (records.act a)

end Records

theorem run_prefixes (base : Text) (acts : List Act) :
    ((outermost base).run acts).top.prefixes = small (standing acts) :=
  have begun : Records .empty (outermost base) := .outermost rfl
  (begun.run acts).kept

theorem Ledger.act_sublist (l : Ledger) (a : Act) :
    (l.act a).standing.reverse.Sublist (l.standing.reverse ++ (admitted? a).toList) := by
  cases a with
  | declare name iri =>
    by_cases admits : Scope.Admits name
    · simp [Ledger.act, admitted?, admits, standing]
    · simp [Ledger.act, admitted?, admits]
  | adopt other => simp [Ledger.act, admitted?]
  | push => simp [Ledger.act, admitted?, standing]
  | pop =>
    obtain ⟨own, outer⟩ := l
    cases outer with
    | nil => simp [Ledger.act, admitted?]
    | cons layer further => simp [Ledger.act, admitted?, standing]

theorem standing_sublist (acts : List Act) :
    (standing acts).reverse.Sublist (acts.filterMap admitted?) := by
  suffices further : ∀ l : Ledger, (acts.foldl Ledger.act l).standing.reverse.Sublist
      (l.standing.reverse ++ acts.filterMap admitted?) from further .empty
  induction acts with
  | nil => simp
  | cons a rest ih =>
    intro l
    have whole : (a :: rest).filterMap admitted? = (admitted? a).toList ++ rest.filterMap admitted? := by
      cases made : admitted? a <;> simp [made]
    rw [whole, ← List.append_assoc]
    exact (ih (l.act a)).trans ((l.act_sublist a).append_right _)

example : standing [.declare "dc".toList "u:a".toList, .push, .declare "DC".toList "u:b".toList,
    .declare "_".toList "u:c".toList, .push, .declare "dC".toList "u:d".toList, .pop] =
    [("DC".toList, "u:b".toList), ("dc".toList, "u:a".toList)] := by decide +kernel

-- What begins and ends in one scope: whatever is pushed is popped.
inductive Balanced : List Act → Prop where
  | nil : Balanced []
  | declare (name iri : Text) {rest : List Act} (later : Balanced rest) : Balanced (.declare name iri :: rest)
  | adopt (other : Scope) {rest : List Act} (later : Balanced rest) : Balanced (.adopt other :: rest)
  | nested {inner rest : List Act} (inside : Balanced inner) (later : Balanced rest) :
      Balanced (.push :: inner ++ .pop :: rest)

theorem act_pop {s : Scopes} {outer : Scope} {further : List Scope} (below : s.below = outer :: further) :
    s.act .pop = ⟨outer, further⟩ := by
  simp [act, below]

theorem run_nested (s : Scopes) (inner rest : List Act) :
    s.run (.push :: inner ++ .pop :: rest) = (((s.act .push).run inner).act .pop).run rest := by
  rw [List.cons_append, run_cons, run_append, run_cons]

theorem Balanced.level {acts : List Act} (balanced : Balanced acts) (s : Scopes) :
    (s.run acts).below = s.below := by
  induction balanced generalizing s with
  | nil => rfl
  | declare name iri _ ih => exact ih _
  | adopt other _ ih => exact ih _
  | nested _ _ ihInside ihLater => rw [run_nested, act_pop (ihInside _), ihLater]

theorem Balanced.restores {inner : List Act} (balanced : Balanced inner) (s : Scopes) :
    s.run (.push :: inner ++ [.pop]) = s := by
  rw [run_nested, act_pop (balanced.level _)]
  rfl

theorem refused_declare {name : Text} (refused : ¬ Scope.Admits name) (s : Scopes) (iri : Text) :
    s.act (.declare name iri) = s := by
  obtain ⟨warning, failed⟩ := s.top.declare_of_not_admits refused iri
  simp [act, failed, Except.toOption]

-- What a prefix stands for after all this: what it was last declared as in the scopes that are still there,
-- whatever its letter case, or else what it stands for in every document. Nothing comes of a declaration that
-- is refused, and nothing is left of a child scope once it is left, so all is read as before it.
structure Lexical (base : Text) (acts : List Act) : Prop where
  found (name : Text) : ((outermost base).run acts).top.namespace? name =
    (((standing acts).find? fun d => Text.lowercase d.1 = Text.lowercase name).map (·.2)).or
      (Vocabulary.initialPrefix? (Text.lowercase name))
  latest : (standing acts).reverse.Sublist (acts.filterMap admitted?)
  refused (name iri : Text) (unfit : ¬ Scope.Admits name) :
    (∃ warning, ((outermost base).run acts).top.declare name iri = .error warning) ∧
      (outermost base).run (acts ++ [.declare name iri]) = (outermost base).run acts
  restored (inner : List Act) (balanced : Balanced inner) :
    (outermost base).run (acts ++ (.push :: inner ++ [.pop])) = (outermost base).run acts

theorem run_scoped (base : Text) (acts : List Act) : Lexical base acts where
  found name := by
    rw [Scope.namespace?, run_prefixes, lookup_small]
  latest := standing_sublist acts
  refused name iri unfit := by
    refine ⟨Scope.declare_of_not_admits _ unfit iri, ?_⟩
    rw [run_append, run_singleton, refused_declare unfit]
  restored inner balanced := by
    rw [run_append, balanced.restores]

end Scopes
end Rdfa
