import Mathlib.Data.List.Sigma
import Rdfa.Proofs.Element.Kinds
import Rdfa.Proofs.Element.Roles
import Rdfa.Proofs.Element.Warned

-- The nodes that are named while a start tag is processed, each with what it is named for, and the warnings
-- among them: every warning is sent as two statements of its own node, one right after the other.
namespace Rdfa

-- Each of the values told in one piece, in order, among what is said besides.
inductive Amid {α β : Type} (besides : α → Prop) (tell : β → List α) : List β → List α → Prop where
  | nil : Amid besides tell [] []
  | aside {said : α} {values : List β} {later : List α} (plain : besides said)
      (others : Amid besides tell values later) : Amid besides tell values (said :: later)
  | told (value : β) {values : List β} {later : List α} (others : Amid besides tell values later) :
      Amid besides tell (value :: values) (tell value ++ later)

namespace Amid

variable {α β γ : Type} {besides : α → Prop} {tell : β → List α} {early late : List β}
  {first second : List α}

theorem append (one : Amid besides tell early first) (two : Amid besides tell late second) :
    Amid besides tell (early ++ late) (first ++ second) := by
  induction one with
  | nil => exact two
  | aside plain _ ih => exact .aside plain ih
  | told value _ ih =>
    rw [List.append_assoc]
    exact .told value ih

theorem one (value : β) : Amid besides tell [value] (tell value) := by
  rw [← List.append_nil (tell value)]
  exact .told value .nil

theorem of_besides (plain : ∀ said ∈ first, besides said) : Amid besides tell [] first := by
  induction first with
  | nil => exact .nil
  | cons said later ih =>
    obtain ⟨here, others⟩ := List.forall_mem_cons.mp plain
    exact .aside here (ih others)

theorem filterMap {besides' : γ → Prop} {tell' : β → List γ} (hear : α → Option γ)
    (plain : ∀ said heard, besides said → hear said = some heard → besides' heard)
    (told : ∀ value, (tell value).filterMap hear = tell' value) (amid : Amid besides tell early first) :
    Amid besides' tell' early (first.filterMap hear) := by
  induction amid with
  | nil => exact .nil
  | @aside said _ _ here _ ih =>
    cases found : hear said with
    | none => rwa [List.filterMap_cons_none found]
    | some heard =>
      rw [List.filterMap_cons_some found]
      exact .aside (plain said heard here found) ih
  | told value _ ih =>
    rw [List.filterMap_append, told]
    exact .told value ih

end Amid

-- A statement about the processing that tells of no prefix.
def Emission.isDiagnostic (emission : Emission) : Bool :=
  emission.graph = .processor && emission.triple.code ≠ Code.namespaceIri

def Scope.complaint? (scope : Scope) (token : Text) : Option Warning :=
  match scope.resolveToken token with
  | .ok _ => none
  | .error warning => some warning

def Scope.complaints (scope : Scope) (value : Option Text) : List Warning :=
  (Text.words (value.getD [])).filterMap scope.complaint?

namespace Element

inductive Use where
  | warning (warning : Warning)
  -- The types of an element that names no other node for them.
  | typed
  -- The object of relations that is still to be found.
  | hanging
  | label (label : Text)
deriving Repr, DecidableEq

namespace Nodes

def give (nodes : Nodes) (use : Use) : Nodes where
  minted := nodes.minted + 1
  labels := match use with
    | .label label => (label, name nodes.minted) :: nodes.labels
    | .warning _ | .typed | .hanging => nodes.labels

def giveAll (nodes : Nodes) (uses : List Use) : Nodes := uses.foldl give nodes

theorem giveAll_append (nodes : Nodes) (first second : List Use) :
    nodes.giveAll (first ++ second) = (nodes.giveAll first).giveAll second := List.foldl_append

theorem giveAll_minted (nodes : Nodes) (uses : List Use) :
    (nodes.giveAll uses).minted = nodes.minted + uses.length := by
  induction uses generalizing nodes with
  | nil => rfl
  | cons use rest ih =>
    show ((nodes.give use).giveAll rest).minted = _
    rw [ih, List.length_cons, Nat.add_left_comm, Nat.add_comm]
    rfl

theorem exists_of_label {nodes : Nodes} {uses : List Use} {label node : Text}
    (known : (label, node) ∈ (nodes.giveAll uses).labels) : (label, node) ∈ nodes.labels ∨
      ∃ number, uses[number]? = some (.label label) ∧ node = name (nodes.minted + number) := by
  induction uses generalizing nodes with
  | nil => exact .inl known
  | cons use later ih =>
    rcases ih known with before | ⟨number, found, rfl⟩
    · cases use with
      | label other =>
        rcases List.mem_cons.mp before with same | older
        · cases same
          exact .inr ⟨0, rfl, rfl⟩
        · exact .inl older
      | warning _ | typed | hanging => exact .inl before
    · refine .inr ⟨number + 1, found, ?_⟩
      rw [Nat.add_comm number, ← Nat.add_assoc]
      rfl

end Nodes

def Use.warning? : Use → Option Warning
  | .warning told => some told
  | .typed | .hanging | .label _ => none

def numbered (number : Nat) (uses : List Use) : List (Nat × Warning) :=
  (uses.zipIdx number).filterMap fun (use, number) => use.warning?.map (number, ·)

theorem numbered_append (number : Nat) (first second : List Use) :
    numbered number (first ++ second) =
      numbered number first ++ numbered (number + first.length) second := by
  rw [numbered, List.zipIdx_append, List.filterMap_append]
  rfl

theorem numbered_warnings (number : Nat) (uses : List Use) :
    (numbered number uses).map (·.2) = uses.filterMap Use.warning? := by
  have each (entry : Use × Nat) :
      (entry.1.warning?.map (entry.2, ·)).map (·.2) = (Use.warning? ∘ Prod.fst) entry := by
    rcases entry with ⟨_ | _ | _ | _, number⟩ <;> rfl
  rw [numbered, List.map_filterMap]
  simp only [each]
  rw [← List.filterMap_map, List.zipIdx_map_fst]

theorem mem_numbered_iff {uses : List Use} {number : Nat} {warning : Warning} :
    (number, warning) ∈ numbered 0 uses ↔ uses[number]? = some (.warning warning) := by
  rw [numbered, List.mem_filterMap, ← List.mk_mem_zipIdx_iff_getElem?]
  constructor
  · rintro ⟨⟨use, number⟩, present, same⟩
    cases use <;> cases same
    exact present
  · intro present
    exact ⟨_, present, rfl⟩

theorem numbered_nodup (uses : List Use) :
    ((numbered 0 uses).map fun (number, _) => Nodes.name number).Nodup := by
  have distinct := List.pairwise_map.mp (List.nodup_zipIdx_map_snd uses)
  refine List.pairwise_map.mpr (distinct.filterMap _ ?_)
  rintro ⟨_, number⟩ ⟨_, other⟩ apart ⟨_, _⟩ here ⟨_, _⟩ there
  obtain ⟨_, _, ⟨⟩⟩ := Option.map_eq_some_iff.mp here
  obtain ⟨_, _, ⟨⟩⟩ := Option.map_eq_some_iff.mp there
  exact fun same => apart (Nodes.name_injective same)

theorem numbered_apart {uses : List Use} {number : Nat} {use : Use} (found : uses[number]? = some use)
    (other : use.warning? = none) : ∀ d ∈ numbered 0 uses, Nodes.name d.1 ≠ Nodes.name number := by
  rintro ⟨number', warning⟩ present same
  obtain rfl : number' = number := Nodes.name_injective same
  cases found.symm.trans (mem_numbered_iff.mp present)
  cases other

-- Each warning is told by the two statements of its node, and nothing comes between them.
abbrev Diagnoses : List (Nat × Warning) → List Emission → Prop :=
  Amid (·.isDiagnostic = false) fun (number, warning) => warned number warning

-- Work that names nodes for these uses, from `nodes` on, and sends what the warnings among them are due.
def Work.Registers {α : Type} (nodes : Nodes) (uses : List Use) (yields : α → Prop) (work : Work α) :
    Prop :=
  ∀ sent, ∃ value added, work.run ⟨nodes, sent⟩ = (value, ⟨nodes.giveAll uses, sent ++ added⟩) ∧
    yields value ∧ Diagnoses (numbered nodes.minted uses) added

namespace Work.Registers

variable {α β : Type} {nodes : Nodes} {early late : List Use} {yields also : α → Prop} {after : β → Prop}

theorem pure {value : α} (held : yields value) : Registers nodes [] yields (pure value : Work α) := by
  intro sent
  refine ⟨value, [], ?_, held, .nil⟩
  rw [List.append_nil]
  rfl

theorem bind {work : Work α} {next : α → Work β} (first : Registers nodes early yields work)
    (second : ∀ value, yields value → Registers (nodes.giveAll early) late after (next value)) :
    Registers nodes (early ++ late) after (work >>= next) := by
  intro sent
  obtain ⟨value, added, ran, held, diagnosed⟩ := first sent
  obtain ⟨result, more, went, holds, further⟩ := second value held (sent ++ added)
  refine ⟨result, added ++ more, ?_, holds, ?_⟩
  · rw [StateT.run_bind, ran]
    refine went.trans ?_
    rw [Nodes.giveAll_append, List.append_assoc]
  · rw [numbered_append]
    rw [Nodes.giveAll_minted] at further
    exact diagnosed.append further

theorem afterPlain {work : Work α} {next : α → Work β} (first : Registers nodes [] yields work)
    (second : ∀ value, yields value → Registers nodes late after (next value)) :
    Registers nodes late after (work >>= next) := first.bind second

theorem bindPlain {work : Work α} {next : α → Work β} (first : Registers nodes early yields work)
    (second : ∀ value, yields value → Registers (nodes.giveAll early) [] after (next value)) :
    Registers nodes early after (work >>= next) := by
  have both := first.bind second
  rwa [List.append_nil] at both

theorem weaken {work : Work α} (registers : Registers nodes early yields work)
    (implies : ∀ value, yields value → also value) : Registers nodes early also work := by
  intro sent
  obtain ⟨value, added, ran, held, diagnosed⟩ := registers sent
  exact ⟨value, added, ran, implies value held, diagnosed⟩

theorem and {work : Work α} {facts : List Emission} (registers : Registers nodes early yields work)
    (states : work.States facts also) :
    Registers nodes early (fun value => yields value ∧ also value) work := by
  intro sent
  obtain ⟨value, added, ran, held, diagnosed⟩ := registers sent
  have further := states.yielded ⟨nodes, sent⟩
  rw [ran] at further
  exact ⟨value, added, ran, ⟨held, further⟩, diagnosed⟩

theorem yielding {work : Work α} {facts : List Emission} (registers : Registers nodes early yields work)
    (states : work.States facts also) : Registers nodes early also work := by
  apply (registers.and states).weaken
  rintro value ⟨_, held⟩
  exact held

end Work.Registers

open Work

variable {nodes : Nodes}

theorem send_registers {sent : List Emission} (plain : ∀ emission ∈ sent, emission.isDiagnostic = false) :
    (send sent).Registers nodes [] (fun _ => True) :=
  fun _ => ⟨(), sent, rfl, trivial, .of_besides plain⟩

theorem send_map_registers (values : List Text) (statement : Text → RawTriple) :
    (send (values.map fun value => ⟨.default, statement value⟩)).Registers nodes [] fun _ => True := by
  refine send_registers fun emission present => ?_
  obtain ⟨value, _, rfl⟩ := List.mem_map.mp present
  rfl

theorem mint_typed : mint.Registers nodes [.typed] (· = Nodes.name nodes.minted) := by
  intro sent
  refine ⟨Nodes.name nodes.minted, [], ?_, rfl, .nil⟩
  rw [List.append_nil]
  rfl

theorem mint_hanging : mint.Registers nodes [.hanging] (· = Nodes.name nodes.minted) := by
  intro sent
  refine ⟨Nodes.name nodes.minted, [], ?_, rfl, .nil⟩
  rw [List.append_nil]
  rfl

-- A label that was met before is no reason for a new node.
def labelUses (nodes : Nodes) (label : Text) : List Use :=
  match nodes.labels.lookup label with
  | some _ => []
  | none => [.label label]

theorem nodeOf_registers (label : Text) :
    (nodeOf label).Registers nodes (labelUses nodes label) fun _ => True := by
  intro sent
  unfold labelUses
  cases known : nodes.labels.lookup label with
  | some node =>
    refine ⟨node, [], ?_, trivial, .nil⟩
    rw [List.append_nil]
    exact nodeOf_known known
  | none =>
    refine ⟨Nodes.name nodes.minted, [], ?_, trivial, .nil⟩
    rw [List.append_nil]
    exact nodeOf_unknown known

section Announcing

variable {processing : Processing} (announces : processing.announceWarnings = true)

include announces

theorem warn_registers (warning : Warning) :
    (warn processing warning).Registers nodes [.warning warning] fun _ => True := by
  intro sent
  refine ⟨(), warned nodes.minted warning, ?_, trivial, .one (nodes.minted, warning)⟩
  rw [warn_run]
  simp only [perWarning, notice, announces, if_true]
  rfl

theorem warnAll_registers (warnings : List Warning) :
    (warnAll processing warnings).Registers nodes (warnings.map .warning) fun _ => True := by
  induction warnings generalizing nodes with
  | nil => exact .pure trivial
  | cons warning rest ih => exact (warn_registers announces warning).bind fun _ _ => ih

theorem declareAll_registers (declared : List (Text × Text)) (scope : Scope) :
    (declareAll processing scope declared).Registers nodes ((refusals declared).map .warning)
      fun _ => True := by
  induction declared generalizing nodes scope with
  | nil => exact .pure trivial
  | cons pair rest ih =>
    obtain ⟨name, iri⟩ := pair
    cases refusal : Scope.refusal? name with
    | none =>
      have refused : refusals ((name, iri) :: rest) = refusals rest := by simp [refusals, refusal]
      rw [declareAll_of_ok (scope.declare_of_admits (Scope.admits_of_refusal refusal) iri), refused]
      have announced : (announcePrefix processing name iri).Registers nodes [] fun _ => True := by
        unfold announcePrefix
        split
        · exact send_registers (List.forall_mem_singleton.mpr rfl)
        · exact .pure trivial
      exact announced.afterPlain fun _ _ => ih _
    | some warning =>
      have refused : refusals ((name, iri) :: rest) = warning :: refusals rest := by
        simp [refusals, refusal]
      rw [declareAll_of_error (scope.declare_of_refusal refusal iri), refused]
      exact (warn_registers announces warning).bind fun _ _ => ih _

end Announcing

end Element
end Rdfa
