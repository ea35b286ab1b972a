import Rdfa.Proofs.Element.States
import Rdfa.Proofs.Scope.Lexical

-- What is reported of an element while it is entered, run by run: a warning is two statements of a new node,
-- and a declaration is announced or warned of, whatever was declared before.
namespace Rdfa

def Scope.refusal? (name : Text) : Option Warning :=
  if name = ['_'] then some .reservedPrefix
  else if isPrefixName name then none else some (.invalidPrefix name)

namespace Scope

theorem declare_of_refusal {name : Text} {warning : Warning} (refused : refusal? name = some warning)
    (scope : Scope) (iri : Text) : scope.declare name iri = .error warning := by
  unfold refusal? at refused
  unfold declare
  split at refused
  · next reserved =>
    cases refused
    exact if_pos reserved
  · next other =>
    split at refused
    · cases refused
    · next invalid =>
      cases refused
      rw [if_neg other, if_neg invalid]

theorem admits_of_refusal {name : Text} (fit : refusal? name = none) : Admits name := by
  unfold refusal? at fit
  split at fit
  · cases fit
  · next other =>
    split at fit
    · next valid => exact ⟨other, valid⟩
    · cases fit

end Scope

namespace Element

def warned (number : Nat) (warning : Warning) : List Emission :=
  [⟨.processor, link (Nodes.name number) Vocabulary.rdfType warning.kind.iri⟩,
    ⟨.processor, literal (Nodes.name number) Vocabulary.description warning.message none none⟩]

def Nodes.past (nodes : Nodes) (count : Nat) : Nodes := { nodes with minted := nodes.minted + count }

variable (processing : Processing)

def notice (number : Nat) (warning : Warning) : List Emission :=
  if processing.announceWarnings then warned number warning else []

def perWarning : Nat := if processing.announceWarnings then 1 else 0

theorem warn_run (warning : Warning) (output : Output) :
    (warn processing warning).run output = ((), ⟨output.nodes.past (perWarning processing),
      output.sent ++ notice processing output.nodes.minted warning⟩) := by
  unfold warn perWarning notice
  cases processing.announceWarnings with
  | false => exact congrArg (fun sent => ((), (⟨output.nodes, sent⟩ : Output))) (List.append_nil _).symm
  | true => rfl

def announcement (name iri : Text) : List Emission :=
  if processing.announcePrefixes then [⟨.processor, prefixReport name iri⟩] else []

theorem announcePrefix_run (name iri : Text) (output : Output) :
    (announcePrefix processing name iri).run output =
      ((), ⟨output.nodes, output.sent ++ announcement processing name iri⟩) := by
  unfold announcePrefix announcement
  cases processing.announcePrefixes with
  | false => exact congrArg (fun sent => ((), (⟨output.nodes, sent⟩ : Output))) (List.append_nil _).symm
  | true => rfl

def refusals (declared : List (Text × Text)) : List Warning :=
  declared.filterMap fun d => Scope.refusal? d.1

-- What is reported of declarations, in order. The first warning has the node with this number.
def reports (number : Nat) : List (Text × Text) → List Emission
  | [] => []
  | (name, iri) :: rest =>
    match Scope.refusal? name with
    | none => announcement processing name iri ++ reports number rest
    | some warning => notice processing number warning ++ reports (number + perWarning processing) rest

theorem declareAll_run (declared : List (Text × Text)) (scope : Scope) (output : Output) :
    (declareAll processing scope declared).run output = (declaredIn scope declared,
      ⟨output.nodes.past (perWarning processing * (refusals declared).length),
        output.sent ++ reports processing output.nodes.minted declared⟩) := by
  induction declared generalizing scope output with
  | nil =>
    simp only [reports, List.append_nil]
    rfl
  | cons pair rest ih =>
    obtain ⟨name, iri⟩ := pair
    cases refusal : Scope.refusal? name with
    | none =>
      have accepted := scope.declare_of_admits (Scope.admits_of_refusal refusal) iri
      rw [declareAll_of_ok accepted, StateT.run_bind, announcePrefix_run]
      refine (ih _ _).trans ?_
      simp [declaredIn, accepted, Except.toOption, refusals, reports, refusal]
    | some warning =>
      have rejected := scope.declare_of_refusal refusal iri
      rw [declareAll_of_error rejected, StateT.run_bind, warn_run]
      refine (ih _ _).trans ?_
      simp [declaredIn, rejected, Except.toOption, refusals, reports, refusal, Nodes.past,
        Nat.mul_add, Nat.add_assoc, Nat.add_comm (perWarning processing)]

theorem reports_append (number : Nat) (first second : List (Text × Text)) :
    reports processing number (first ++ second) = reports processing number first ++
      reports processing (number + perWarning processing * (refusals first).length) second := by
  induction first generalizing number with
  | nil => simp [reports, refusals]
  | cons pair rest ih =>
    obtain ⟨name, iri⟩ := pair
    cases refusal : Scope.refusal? name with
    | none => simp [reports, refusals, refusal, ih]
    | some warning =>
      simp [reports, refusals, refusal, ih, Nat.mul_add, Nat.add_assoc,
        Nat.add_comm (perWarning processing)]

end Element
end Rdfa
