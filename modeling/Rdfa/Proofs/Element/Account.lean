import Rdfa.Proofs.Element.Roles

-- A start tag as an account: first its values are read and its nodes get their parts, then all it states
-- follows from these, and so does what it hands on to its children.
namespace Rdfa

structure Scope.Continues (before after : Scope) : Prop where
  subject : after.parentSubject = before.parentSubject
  object : after.parentObject = before.parentObject
  incomplete : after.incomplete = before.incomplete

theorem Scope.Continues.trans {first second third : Scope} (early : first.Continues second)
    (late : second.Continues third) : first.Continues third :=
  ⟨late.subject.trans early.subject, late.object.trans early.object,
    late.incomplete.trans early.incomplete⟩

namespace Element

theorem vocabularyIn_continues (base : Text) (attributes : Attributes) (scope : Scope) :
    scope.Continues (vocabularyIn base attributes scope) := by
  unfold vocabularyIn
  split <;> exact ⟨rfl, rfl, rfl⟩

theorem declaredIn_continues (scope : Scope) (declared : List (Text × Text)) :
    scope.Continues (declaredIn scope declared) := by
  induction declared generalizing scope with
  | nil => exact ⟨rfl, rfl, rfl⟩
  | cons pair rest ih =>
    suffices first : scope.Continues ((scope.declare pair.1 pair.2).toOption.getD scope) from
      first.trans (ih _)
    unfold Scope.declare
    split
    · exact ⟨rfl, rfl, rfl⟩
    · split <;> exact ⟨rfl, rfl, rfl⟩

theorem Place.scope_continues (place : Place) (attributes : Attributes) :
    place.parent.Continues (place.scope attributes) := by
  have entered := vocabularyIn_continues place.base attributes place.parent
  have declared := entered.trans (declaredIn_continues _ (attributes.namespaces ++
    (Declaration.declarations (attributes.prefixes.getD [])).map fun d => (d.name, d.namespaceIri)))
  unfold Place.scope enterLanguage
  split <;> exact ⟨declared.subject, declared.object, declared.incomplete⟩

open Work

structure Reckoned where
  scope : Scope
  values : Values
  roles : Roles

def Values.relations (values : Values) (subject object : Text) : List Emission :=
  values.rels.map (fun rel => ⟨.default, link subject rel object⟩) ++
    values.revs.map fun rev => ⟨.default, link object rev subject⟩

namespace Reckoned

variable (attributes : Attributes) (r : Reckoned)

def typings : List Emission :=
  match r.roles.typed with
  | none => []
  | some typed => r.values.types.map fun type => ⟨.default, link typed Vocabulary.rdfType type⟩

def related : List Emission :=
  match attributes.hasRelation, r.roles.subject, r.roles.object with
  | true, some subject, some object => r.values.relations subject object
  | _, _, _ => []

def waiting : List Incomplete :=
  match attributes.hasRelation, r.roles.subject, r.roles.object with
  | true, some _, some _ | false, _, _ => []
  | true, _, _ => r.values.rels.map (⟨·, true⟩) ++ r.values.revs.map (⟨·, false⟩)

def datatype : Option Text :=
  match attributes.datatype.map Text.trim with
  | none | some [] => none
  | some token => (r.scope.resolveToken token).toOption

def stated : List Emission :=
  match r.roles.subject, propertyValue attributes r.values r.roles with
  | some subject, .node (some term) =>
    r.values.properties.map fun property => ⟨.default, link subject property term⟩
  | some subject, .content value => r.values.properties.map fun property =>
    ⟨.default, literal subject property value (r.datatype attributes) r.scope.language⟩
  | _, _ => []

def pending : Option PendingLiteral :=
  match r.roles.subject, propertyValue attributes r.values r.roles with
  | some subject, .text =>
    if r.values.properties.isEmpty then none
    else
      let datatype := r.datatype attributes
      let language := if datatype.isSome then none else r.scope.language
      some { subject, predicates := r.values.properties, datatype, language, pieces := [] }
  | _, _ => none

def completed (parent : Scope) : List Emission :=
  match r.roles.skipped, r.roles.subject with
  | false, some subject => completions parent subject
  | _, _ => []

end Reckoned

variable (processing : Processing) (place : Place) (attributes : Attributes)

def reckon : Work Reckoned := do
  let scope ← enter processing place attributes
  let values ← resolve processing scope place.base attributes
  let roles ← assign place attributes values
  return ⟨scope, values, roles⟩

def Reckoned.conclude (r : Reckoned) (related : Roles × List Incomplete) :
    Work (Scope × Option PendingLiteral) := do
  let (roles, incomplete) := related
  let pending ← describe processing r.scope attributes r.values roles
  match roles.skipped, roles.subject with
  | false, some subject => send (completions place.parent subject)
  | _, _ => pure ()
  return (leave place.parent r.scope roles incomplete, pending)

def Reckoned.speak (r : Reckoned) : Work (Scope × Option PendingLiteral) := do
  sendTypes r.values r.roles
  let related ← relate attributes r.values r.roles
  r.conclude processing place attributes related

theorem process_eq : process processing place attributes =
    reckon processing place attributes >>= Reckoned.speak processing place attributes := rfl

-- What is reckoned before anything is said, but that a vocabulary is used.
structure Reckoned.Right (r : Reckoned) : Prop where
  scope : r.scope = place.scope attributes
  values : r.values.ReadAt place attributes
  roles : r.roles.Given place attributes

theorem reckon_states : States (vocabularyFact place.base attributes)
    (Reckoned.Right place attributes) (reckon processing place attributes) := by
  unfold reckon
  refine (enter_states processing place attributes).bindSilent fun scope entered => ?_
  subst entered
  refine (resolve_states processing place attributes).bindSilent fun values read => ?_
  exact (assign_states read).bindSilent fun roles given => .pure ⟨rfl, read, given⟩

theorem sendTypes_states (r : Reckoned) :
    States r.typings (fun _ => True) (sendTypes r.values r.roles) := by
  unfold sendTypes Reckoned.typings
  cases r.roles.typed with
  | none => exact .pure trivial
  | some typed => exact send_map_states _ _

def Reckoned.Relates (r : Reckoned) (outcome : Roles × List Incomplete) : Prop :=
  ∃ object, outcome = ({ r.roles with object }, r.waiting attributes)

theorem relate_states (r : Reckoned) :
    States (r.related attributes) (r.Relates attributes) (relate attributes r.values r.roles) := by
  obtain ⟨scope, values, ⟨subject, object, typed, skipped⟩⟩ := r
  unfold relate Reckoned.related Reckoned.Relates Reckoned.waiting
  cases attributes.hasRelation with
  | false => exact .pure ⟨object, rfl⟩
  | true =>
    cases subject with
    | none => exact mint_states.bindSilent fun node _ => .pure ⟨some node, rfl⟩
    | some subject =>
      cases object with
      | none => exact mint_states.bindSilent fun node _ => .pure ⟨some node, rfl⟩
      | some object =>
        have stated := (send_map_states values.rels (link subject · object)).bind fun _ _ =>
          send_map_states values.revs (link object · subject)
        exact stated.bindSilent fun _ _ => .pure ⟨some object, rfl⟩

theorem resolveDatatype_states (r : Reckoned) :
    States [] (· = r.datatype attributes) (resolveDatatype processing r.scope attributes) := by
  unfold resolveDatatype Reckoned.datatype
  rcases attributes.datatype.map Text.trim with _ | _ | ⟨c, token⟩
  · exact .pure rfl
  · exact .pure rfl
  · dsimp only
    cases r.scope.resolveToken (c :: token) with
    | ok datatype => exact .pure rfl
    | error warning => exact (warn_states processing warning).bindSilent fun _ _ => .pure rfl

theorem describe_states (r : Reckoned) :
    States (r.stated attributes) (· = r.pending attributes)
      (describe processing r.scope attributes r.values r.roles) := by
  unfold describe Reckoned.stated Reckoned.pending
  cases r.roles.subject with
  | none => exact .pure rfl
  | some subject =>
    have datatype := resolveDatatype_states processing attributes r
    cases properties : r.values.properties with
    | nil =>
      cases propertyValue attributes r.values r.roles with
      | node term => cases term <;> exact .pure rfl
      | content value => exact .pure rfl
      | text => exact .pure rfl
    | cons first others =>
      cases propertyValue attributes r.values r.roles with
      | node term =>
        cases term with
        | none => exact datatype.bindSilent fun _ _ => .pure rfl
        | some term =>
          have stated := send_map_states (first :: others) (link subject · term)
          exact datatype.bind fun _ _ => stated.bindSilent fun _ _ => .pure rfl
      | content value =>
        have stated := send_map_states (first :: others)
          (literal subject · value (r.datatype attributes) r.scope.language)
        refine datatype.bind fun found same => ?_
        subst same
        exact stated.bindSilent fun _ _ => .pure rfl
      | text =>
        refine datatype.bindSilent fun found same => .pure ?_
        subst same
        rfl

theorem completions_states (parent : Scope) (subject : Text) :
    States (completions parent subject) (fun _ => True) (send (completions parent subject)) := by
  refine send_states fun emission present => ?_
  obtain ⟨waiting, _, rfl⟩ := List.mem_map.mp present
  rfl

theorem conclude_states (r : Reckoned) (object : Option Text) (incomplete : List Incomplete) :
    States (r.stated attributes ++ r.completed place.parent)
      (· = (leave place.parent r.scope { r.roles with object } incomplete, r.pending attributes))
      (r.conclude processing place attributes ({ r.roles with object }, incomplete)) := by
  have described := describe_states processing attributes { r with roles := { r.roles with object } }
  unfold Reckoned.conclude
  refine described.bind fun pending left => ?_
  subst left
  unfold Reckoned.completed
  dsimp only
  split
  · exact (completions_states _ _).bindSilent fun _ _ => .pure rfl
  · exact .pure rfl

def Reckoned.Speaks (r : Reckoned) (outcome : Scope × Option PendingLiteral) : Prop :=
  ∃ object, outcome =
    (leave place.parent r.scope { r.roles with object } (r.waiting attributes), r.pending attributes)

def Reckoned.spoken (r : Reckoned) : List Emission :=
  r.typings ++ (r.related attributes ++ (r.stated attributes ++ r.completed place.parent))

theorem speak_states (r : Reckoned) :
    States (r.spoken place attributes) (r.Speaks place attributes)
      (r.speak processing place attributes) := by
  unfold Reckoned.speak Reckoned.spoken
  refine (sendTypes_states r).bind fun _ _ => ?_
  refine (relate_states attributes r).bind fun related found => ?_
  obtain ⟨object, rfl⟩ := found
  exact (conclude_states processing place attributes r object _).weaken fun _ same => ⟨object, same⟩

theorem Reckoned.Right.propertyValue_ne {place : Place} {attributes : Attributes} {r : Reckoned}
    (right : r.Right place attributes) : propertyValue attributes r.values r.roles ≠ .node none := by
  intro missing
  unfold propertyValue at missing
  split at missing
  · cases missing
  · split at missing
    · cases missing
    · split at missing
      · next target =>
        have named : r.values.target = none := PropertyValue.node.inj missing
        simp [named] at target
      · split at missing
        · next typed =>
          simp only [Bool.and_eq_true, Option.isNone_iff_eq_none] at typed
          have named := right.roles.typed typed.1 typed.2
          rw [PropertyValue.node.inj missing] at named
          cases named
        · cases missing

end Element
end Rdfa
