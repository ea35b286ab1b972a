import Rdfa.Proofs.Element.Entry
import Rdfa.Proofs.Element.Register

-- What an element has to complain of, and all that it names nodes for, told from its start tag, where it
-- stands and which labels were met before.
namespace Rdfa.Element

open Work

variable {processing : Processing} {nodes : Nodes} {scope : Scope} {place : Place} {attributes : Attributes}

def resourceUses (scope : Scope) (base : Text) (nodes : Nodes) (value : Option Text) : List Use :=
  match value with
  | none => []
  | some value =>
    match scope.resolveResource base value with
    | .error warning => [.warning warning]
    | .ok term => if isLabel term then labelUses nodes term else []

def resourceComplaints (scope : Scope) (base : Text) (value : Option Text) : List Warning :=
  match value.map (scope.resolveResource base) with
  | some (.error warning) => [warning]
  | some (.ok _) | none => []

-- The types of the element have no node that is named: one is made for them.
def Place.anonymous (place : Place) (attributes : Attributes) : Bool :=
  attributes.type.isSome && !place.hasTarget attributes &&
    if attributes.hasRelation then attributes.about.isNone
    else !(place.scope attributes).names place.base attributes.about && !place.isRoot

-- What is wrong with the datatype. It is consulted only where there is a property to state.
def datatypeComplaints (scope : Scope) (attributes : Attributes) : List Warning :=
  match scope.iris attributes.property, attributes.datatype.map Text.trim with
  | [], _ | _, none | _, some [] => []
  | _ :: _, some token => (scope.complaint? token).toList

def declarationComplaints (attributes : Attributes) : List Warning :=
  Declaration.warnings (attributes.prefixes.getD []) ++ refusals attributes.declared

def listComplaints (scope : Scope) (attributes : Attributes) : List Warning :=
  scope.complaints attributes.type ++ (scope.complaints attributes.rel ++
    (scope.complaints attributes.rev ++ scope.complaints attributes.property))

def valueUses (scope : Scope) (base : Text) (nodes : Nodes) (attributes : Attributes) : List Use :=
  let lists := (listComplaints scope attributes).map .warning
  let about := resourceUses scope base (nodes.giveAll lists) attributes.about
  lists ++ (about ++ resourceUses scope base (nodes.giveAll (lists ++ about)) attributes.resource)

def typedUses (place : Place) (attributes : Attributes) : List Use :=
  if place.anonymous attributes then [.typed] else []

def hangingUses (place : Place) (attributes : Attributes) : List Use :=
  if place.hangs attributes then [.hanging] else []

def readingUses (nodes : Nodes) (place : Place) (attributes : Attributes) : List Use :=
  let declaring := (declarationComplaints attributes).map .warning
  declaring ++ valueUses (place.scope attributes) place.base (nodes.giveAll declaring) attributes

def speakingUses (place : Place) (attributes : Attributes) : List Use :=
  hangingUses place attributes ++
    (datatypeComplaints (place.scope attributes) attributes).map .warning

theorem warnings_of_map (warnings : List Warning) :
    (warnings.map Use.warning).filterMap Use.warning? = warnings := by
  rw [List.filterMap_map]
  exact List.filterMap_some

theorem resourceUses_warnings (scope : Scope) (base : Text) (nodes : Nodes) (value : Option Text) :
    (resourceUses scope base nodes value).filterMap Use.warning? = resourceComplaints scope base value := by
  unfold resourceUses resourceComplaints labelUses
  cases value with
  | none => rfl
  | some value =>
    dsimp only [Option.map]
    cases scope.resolveResource base value with
    | error warning => rfl
    | ok term =>
      dsimp only
      split
      · split <;> rfl
      · rfl

section Announcing

variable (announces : processing.announceWarnings = true)

include announces

theorem resolveTokens_registers (tokens : List Text) :
    (resolveTokens processing scope tokens).Registers nodes
      ((tokens.filterMap scope.complaint?).map .warning) fun _ => True := by
  induction tokens generalizing nodes with
  | nil => exact .pure trivial
  | cons token rest ih =>
    unfold resolveTokens
    rw [List.filterMap_cons]
    unfold Scope.complaint?
    cases scope.resolveToken token with
    | ok iri => exact ih.bindPlain fun _ _ => .pure trivial
    | error warning => exact (warn_registers announces warning).bind fun _ _ => ih

theorem resolveList_registers (value : Option Text) :
    (resolveList processing scope value).Registers nodes ((scope.complaints value).map .warning)
      fun _ => True :=
  resolveTokens_registers announces _

theorem resolveResource_registers (base : Text) (value : Option Text) :
    (resolveResource processing scope base value).Registers nodes (resourceUses scope base nodes value)
      fun _ => True := by
  unfold resolveResource resourceUses
  cases value with
  | none => exact .pure trivial
  | some value =>
    dsimp only
    cases scope.resolveResource base value with
    | error warning => exact (warn_registers announces warning).bindPlain fun _ _ => .pure trivial
    | ok term =>
      dsimp only
      split
      · exact (nodeOf_registers term).bindPlain fun _ _ => .pure trivial
      · exact .pure trivial

-- The warnings before the values are read: malformed items of `prefix`, and declarations that are refused.
theorem enterPrefixes_registers (attributes : Attributes) (scope : Scope) :
    (enterPrefixes processing attributes scope).Registers nodes
      ((declarationComplaints attributes).map .warning) fun _ => True := by
  unfold enterPrefixes declarationComplaints
  rw [List.map_append]
  exact (warnAll_registers announces _).bind fun _ _ => declareAll_registers announces _ scope

omit announces in
theorem enterVocabulary_registers (base : Text) (attributes : Attributes) (scope : Scope) :
    (enterVocabulary base attributes scope).Registers nodes [] fun _ => True := by
  unfold enterVocabulary
  split
  · exact .pure trivial
  · exact .pure trivial
  · exact (send_registers (List.forall_mem_singleton.mpr rfl)).bindPlain fun _ _ => .pure trivial

theorem enter_registers (place : Place) (attributes : Attributes) :
    (enter processing place attributes).Registers nodes ((declarationComplaints attributes).map .warning)
      (· = place.scope attributes) := by
  have registers : (enter processing place attributes).Registers nodes
      ((declarationComplaints attributes).map .warning) fun _ => True := by
    unfold enter
    refine (enterVocabulary_registers _ _ _).afterPlain fun scope _ => ?_
    exact (enterPrefixes_registers announces attributes scope).bindPlain fun _ _ => .pure trivial
  exact registers.yielding (enter_states processing place attributes)

theorem resolveDatatype_registers {property : Text} {others : List Text}
    (consulted : scope.iris attributes.property = property :: others) :
    (resolveDatatype processing scope attributes).Registers nodes
      ((datatypeComplaints scope attributes).map .warning) fun _ => True := by
  unfold resolveDatatype datatypeComplaints
  rw [consulted]
  rcases attributes.datatype.map Text.trim with _ | _ | ⟨c, token⟩
  · exact .pure trivial
  · exact .pure trivial
  · dsimp only
    unfold Scope.complaint?
    cases scope.resolveToken (c :: token) with
    | ok datatype => exact .pure trivial
    | error warning => exact (warn_registers announces warning).bindPlain fun _ _ => .pure trivial

theorem resolve_registers (place : Place) (attributes : Attributes) :
    (resolve processing (place.scope attributes) place.base attributes).Registers nodes
      (valueUses (place.scope attributes) place.base nodes attributes) (Values.ReadAt place attributes) := by
  have registers : (resolve processing (place.scope attributes) place.base attributes).Registers nodes
      (valueUses (place.scope attributes) place.base nodes attributes) fun _ => True := by
    unfold resolve valueUses listComplaints
    simp only [List.map_append, List.append_assoc, Nodes.giveAll_append]
    refine (resolveList_registers announces _).bind fun types _ => ?_
    refine (resolveList_registers announces _).bind fun rels _ => ?_
    refine (resolveList_registers announces _).bind fun revs _ => ?_
    refine (resolveList_registers announces _).bind fun properties _ => ?_
    refine (resolveResource_registers announces _ _).bind fun about _ => ?_
    exact (resolveResource_registers announces _ _).bindPlain fun resource _ => .pure trivial
  exact registers.yielding (resolve_states processing place attributes)

end Announcing

def Roles.TypedFrom (nodes : Nodes) (place : Place) (attributes : Attributes) (roles : Roles) : Prop :=
  place.anonymous attributes = true → roles.typed = some (Nodes.name nodes.minted)

section Parts

variable {values : Values} (read : values.ReadAt place attributes)

theorem pure_registers {roles : Roles} (named : place.anonymous attributes = false) :
    (pure roles : Work Roles).Registers nodes (typedUses place attributes)
      (Roles.TypedFrom nodes place attributes) := by
  unfold typedUses
  rw [named]
  refine .pure fun anonymous => ?_
  rw [named] at anonymous
  cases anonymous

theorem mint_registers {make : Text → Roles} (anonymous : place.anonymous attributes = true)
    (typed : ∀ node, (make node).typed = some node) :
    (mint >>= fun node => pure (make node)).Registers nodes (typedUses place attributes)
      (Roles.TypedFrom nodes place attributes) := by
  unfold typedUses
  rw [anonymous]
  refine mint_typed.bindPlain fun node minted => .pure fun _ => ?_
  rw [typed, minted]

include read

theorem relationRoles_registers (relation : attributes.hasRelation = true) :
    (relationRoles place attributes values).Registers nodes (typedUses place attributes)
      (Roles.TypedFrom nodes place attributes) := by
  have target := read.target
  have anonymous : place.anonymous attributes =
      (attributes.type.isSome && !values.target.isSome && attributes.about.isNone) := by
    rw [Place.anonymous, relation, if_pos rfl, target]
  unfold relationRoles
  dsimp only
  split
  · next typed =>
    simp only [Bool.and_eq_true] at typed
    cases found : values.target with
    | some target => exact pure_registers (by simp [anonymous, found])
    | none => exact mint_registers (by simp [anonymous, found, typed]) fun _ => rfl
  · next untyped =>
    refine pure_registers ?_
    rw [anonymous, Bool.and_right_comm, Bool.eq_false_iff.mpr untyped, Bool.false_and]

theorem anonymous_eq (relation : attributes.hasRelation = false) : place.anonymous attributes =
    (attributes.type.isSome && !values.target.isSome && (!values.about.isSome && !place.isRoot)) := by
  rw [Place.anonymous, relation, if_neg Bool.false_ne_true, read.target, read.about]

theorem textRoles_registers (relation : attributes.hasRelation = false) :
    (textRoles place attributes values).Registers nodes (typedUses place attributes)
      (Roles.TypedFrom nodes place attributes) := by
  have anonymous := anonymous_eq read relation
  unfold textRoles
  dsimp only
  split
  · next typed =>
    split
    · next about => exact pure_registers (by simp [anonymous, about])
    · next about =>
      split
      · next root => exact pure_registers (by simp [anonymous, root])
      · next inside =>
        split
        · next target => exact pure_registers (by simp [anonymous, target])
        · next target =>
          exact mint_registers (by simp [anonymous, about, target, inside, typed]) fun _ => rfl
  · next untyped => exact pure_registers (by simp [anonymous, Bool.eq_false_iff.mpr untyped])

theorem plainRoles_registers (relation : attributes.hasRelation = false) :
    (plainRoles place attributes values).Registers nodes (typedUses place attributes)
      (Roles.TypedFrom nodes place attributes) := by
  have anonymous := anonymous_eq read relation
  unfold plainRoles
  split
  · next subject named =>
    refine pure_registers ?_
    cases about : values.about with
    | some about => simp [anonymous, about]
    | none =>
      rw [about, Option.none_or] at named
      simp [anonymous, named]
  · next unnamed =>
    obtain ⟨about, target⟩ := Option.or_eq_none_iff.mp unnamed
    split
    · next root => exact pure_registers (by simp [anonymous, root])
    · next inside =>
      split
      · next typed =>
        exact mint_registers (by simp [anonymous, about, target, inside, typed]) fun _ => rfl
      · next untyped => exact pure_registers (by simp [anonymous, Bool.eq_false_iff.mpr untyped])

theorem assign_registers : (assign place attributes values).Registers nodes
    (typedUses place attributes) fun roles =>
      Roles.TypedFrom nodes place attributes roles ∧ Roles.Given place attributes roles := by
  refine Registers.and ?_ (assign_states read)
  unfold assign
  split
  · next relation => exact relationRoles_registers read relation
  · next unrelated =>
    have relation := Bool.eq_false_iff.mpr unrelated
    split
    · exact textRoles_registers read relation
    · exact plainRoles_registers read relation

end Parts

theorem sendTypes_registers (values : Values) (roles : Roles) :
    (sendTypes values roles).Registers nodes [] fun _ => True := by
  unfold sendTypes
  split
  · exact .pure trivial
  · exact send_map_registers _ _

section Spoken

variable {r : Reckoned} (right : r.Right place attributes)

include right

theorem relate_registers (named : r.roles.subject.isSome = true) :
    (relate attributes r.values r.roles).Registers nodes (hangingUses place attributes) fun related =>
      (place.hangs attributes = true → related.1.object = some (Nodes.name nodes.minted)) ∧
        r.Relates attributes related := by
  refine Registers.and ?_ (relate_states attributes r)
  obtain ⟨subject, same⟩ := Option.isSome_iff_exists.mp named
  unfold relate hangingUses Place.hangs
  cases relation : attributes.hasRelation with
  | false => exact .pure (by simp)
  | true =>
    have led := right.roles.object relation
    rw [if_pos rfl, same]
    cases object : r.roles.object with
    | some object =>
      rw [object] at led
      rw [← led]
      refine (send_map_registers _ _).afterPlain fun _ _ => ?_
      exact (send_map_registers _ _).bindPlain fun _ _ => .pure (by simp)
    | none =>
      rw [object] at led
      rw [← led]
      refine mint_hanging.bindPlain fun node minted => .pure fun _ => ?_
      rw [minted]

variable (announces : processing.announceWarnings = true)

include announces

theorem describe_registers (named : r.roles.subject.isSome = true) (object : Option Text) :
    (describe processing r.scope attributes r.values { r.roles with object }).Registers nodes
      ((datatypeComplaints (place.scope attributes) attributes).map .warning)
      (· = r.pending attributes) := by
  have registers : (describe processing r.scope attributes r.values { r.roles with object }).Registers
      nodes ((datatypeComplaints (place.scope attributes) attributes).map .warning) fun _ => True := by
    obtain ⟨subject, same⟩ := Option.isSome_iff_exists.mp named
    have properties := right.values.properties
    unfold describe
    dsimp only
    rw [same, right.scope]
    cases consulted : (place.scope attributes).iris attributes.property with
    | nil =>
      rw [consulted] at properties
      rw [properties, datatypeComplaints, consulted]
      exact .pure trivial
    | cons property others =>
      rw [consulted] at properties
      rw [properties]
      refine (resolveDatatype_registers announces consulted).bindPlain fun found _ => ?_
      split
      · exact .pure trivial
      · exact (send_map_registers _ _).bindPlain fun _ _ => .pure trivial
      · exact (send_map_registers _ _).bindPlain fun _ _ => .pure trivial
      · exact .pure trivial
  have described := describe_states processing attributes { r with roles := { r.roles with object } }
  exact registers.yielding described

theorem conclude_registers (named : r.roles.subject.isSome = true) (object : Option Text)
    (incomplete : List Incomplete) :
    (r.conclude processing place attributes ({ r.roles with object }, incomplete)).Registers nodes
      ((datatypeComplaints (place.scope attributes) attributes).map .warning)
      (· = (leave place.parent r.scope { r.roles with object } incomplete, r.pending attributes)) := by
  unfold Reckoned.conclude
  refine (describe_registers right announces named object).bindPlain fun pending left => ?_
  subst left
  dsimp only
  split
  · refine (send_registers fun emission present => ?_).bindPlain fun _ _ => .pure rfl
    obtain ⟨waiting, _, rfl⟩ := List.mem_map.mp present
    rfl
  · exact .pure rfl

theorem speak_registers (named : r.roles.subject.isSome = true) :
    (r.speak processing place attributes).Registers nodes (speakingUses place attributes) fun outcome =>
      place.hangs attributes = true → outcome.1.parentObject = some (Nodes.name nodes.minted) := by
  unfold Reckoned.speak speakingUses
  refine (sendTypes_registers _ _).afterPlain fun _ _ => ?_
  refine (relate_registers right named).bind fun related known => ?_
  obtain ⟨minted, object, rfl⟩ := known
  refine (conclude_registers right announces named object _).weaken fun outcome same hangs => ?_
  have standing : r.roles.skipped = false := by
    rw [right.roles.skipped, Bool.and_eq_false_iff]
    simp only [Place.hangs, Bool.and_eq_true] at hangs
    exact .inr (by simp [Place.passes, hangs.1])
  have found : object = some (Nodes.name nodes.minted) := minted hangs
  rw [same, found]
  simp [leave, standing]

omit right in
theorem reckon_registers (place : Place) (attributes : Attributes) :
    (reckon processing place attributes).Registers nodes
      (readingUses nodes place attributes ++ typedUses place attributes) fun r =>
        Roles.TypedFrom (nodes.giveAll (readingUses nodes place attributes)) place attributes r.roles ∧
          r.Right place attributes := by
  unfold reckon readingUses
  rw [List.append_assoc, Nodes.giveAll_append]
  refine (enter_registers announces place attributes).bind fun scope entered => ?_
  subst entered
  refine (resolve_registers announces place attributes).bind fun values read => ?_
  refine (assign_registers read).bindPlain fun roles given => .pure ?_
  exact ⟨given.1, rfl, read, given.2⟩

end Spoken

namespace Entry

variable (processing) (e : Entry)

def uses : List Use :=
  readingUses e.nodes e.place e.attributes ++ typedUses e.place e.attributes ++
    speakingUses e.place e.attributes

-- All that is wrong with the values of an element, in the order in which it is found.
def causes : List Warning :=
  let scope := e.place.scope e.attributes
  declarationComplaints e.attributes ++ listComplaints scope e.attributes ++
    resourceComplaints scope e.place.base e.attributes.about ++
    resourceComplaints scope e.place.base e.attributes.resource ++ datatypeComplaints scope e.attributes

-- Nothing that is wrong goes without a warning, and nothing else is warned of.
theorem uses_warnings : e.uses.filterMap Use.warning? = e.causes := by
  have typed : (typedUses e.place e.attributes).filterMap Use.warning? = [] := by
    unfold typedUses
    split <;> rfl
  have hanging : (hangingUses e.place e.attributes).filterMap Use.warning? = [] := by
    unfold hangingUses
    split <;> rfl
  simp only [uses, readingUses, valueUses, speakingUses, causes, List.filterMap_append, warnings_of_map,
    resourceUses_warnings, typed, hanging, List.append_assoc, List.nil_append]

structure Registered : Prop where
  after : e.after processing = e.nodes.giveAll e.uses
  sent : Diagnoses (numbered e.nodes.minted e.uses) (e.sent processing)
  typed : e.place.anonymous e.attributes = true → ∃ number, e.uses[number]? = some .typed ∧
    (e.reckoned processing).roles.typed = some (Nodes.name (e.nodes.minted + number))
  hanging : e.hangs = true → ∃ number, e.uses[number]? = some .hanging ∧
    (e.scope processing).parentObject = some (Nodes.name (e.nodes.minted + number))

variable {processing e}

theorem registered (announces : processing.announceWarnings = true)
    (found : e.place.subject.isSome = true) : e.Registered processing := by
  have reckoning : (reckon processing e.place e.attributes).Registers e.nodes _ _ :=
    reckon_registers announces e.place e.attributes
  obtain ⟨r, early, reckoned, ⟨typed, right⟩, diagnosed⟩ := reckoning []
  generalize given : readingUses e.nodes e.place e.attributes ++ typedUses e.place e.attributes = first
    at reckoned diagnosed
  have speaking : (r.speak processing e.place e.attributes).Registers (e.nodes.giveAll first) _ _ :=
    speak_registers right announces (right.roles.subject found)
  obtain ⟨outcome, late, spoken, hanging, further⟩ := speaking early
  have uses : e.uses = first ++ speakingUses e.place e.attributes := by rw [Entry.uses, given]
  have run : e.run processing = (outcome, ⟨e.nodes.giveAll e.uses, early ++ late⟩) := by
    rw [Entry.run, process_eq, StateT.run_bind, reckoned, uses, Nodes.giveAll_append]
    exact spoken
  refine ⟨by rw [after, run], ?_, fun anonymous => ?_, fun hangs => ?_⟩
  · rw [sent, run, uses, numbered_append]
    rw [Nodes.giveAll_minted] at further
    exact diagnosed.append further
  · refine ⟨(readingUses e.nodes e.place e.attributes).length, ?_, ?_⟩
    · simp [Entry.uses, typedUses, anonymous]
    · rw [Entry.reckoned, reckoned, typed anonymous, Nodes.giveAll_minted]
  · have use : hangingUses e.place e.attributes = [.hanging] := if_pos hangs
    refine ⟨first.length, ?_, ?_⟩
    · simp [uses, speakingUses, use]
    · rw [scope, run, hanging hangs, Nodes.giveAll_minted]

end Entry

end Rdfa.Element
