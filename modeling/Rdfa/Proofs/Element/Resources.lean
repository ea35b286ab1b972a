import Rdfa.Proofs.Element.Entry
import Rdfa.Proofs.Iri.Absolute

-- Which resources an element speaks of: what its values name, and the part that each of them plays.
namespace Rdfa

def Scope.iri? (scope : Scope) (base : Text) (value : Option Text) : Option Text :=
  (value.bind fun value => (scope.resolveResource base value).toOption).filter (!isLabel ·)

theorem Scope.iri?_empty {base : Text} (absolute : Iri.isAbsolute base = true) (scope : Scope) :
    scope.iri? base (some []) = some (Iri.resolve base []) := by
  have unlabelled := Iri.isLabel_of_isAbsolute (Iri.isAbsolute_resolve absolute [])
  simp [iri?, resolveResource, bracketed?, Text.after?, expand?, Text.cut, Except.toOption,
    Option.filter, unlabelled]

namespace Element

open Work

variable {place : Place} {attributes : Attributes} {values : Values}

theorem Work.States.also {α : Type} {facts : List Emission} {yields more : α → Prop} {work : Work α}
    (states : States facts yields work) (held : ∀ output, more (work.run output).1) :
    States facts (fun value => yields value ∧ more value) work :=
  { states with yielded := fun output => ⟨states.yielded output, held output⟩ }

theorem resolveResource_names (processing : Processing) (scope : Scope) (base : Text)
    (value : Option Text) :
    States [] (fun found => found.isSome = scope.names base value ∧
        ∀ iri ∈ scope.iri? base value, found = some iri)
      (resolveResource processing scope base value) := by
  refine (resolveResource_states processing scope base value).also fun output iri named => ?_
  obtain ⟨found, unlabelled⟩ := Option.filter_eq_some_iff.mp named
  obtain ⟨value, rfl, resolved⟩ := Option.bind_eq_some_iff.mp found
  unfold resolveResource
  cases read : scope.resolveResource base value with
  | error warning => simp [read, Except.toOption] at resolved
  | ok term =>
    have same : term = iri := by simpa [read, Except.toOption] using resolved
    subst same
    have plain : isLabel term = false := by simpa using unlabelled
    simp only [read, plain, Bool.false_eq_true, if_false]
    rfl

structure Values.Named (place : Place) (attributes : Attributes) (values : Values) : Prop where
  about : ∀ iri ∈ (place.scope attributes).iri? place.base attributes.about, values.about = some iri
  unnamed : (place.scope attributes).names place.base attributes.about = false → values.about = none
  target : (place.scope attributes).names place.base attributes.resource = false →
    values.target = (attributes.href.or attributes.src).map (Iri.resolve place.base)

theorem resolve_names (processing : Processing) :
    States [] (Values.Named place attributes)
      (resolve processing (place.scope attributes) place.base attributes) := by
  have missing {found : Option Text} {named : Bool} (same : found.isSome = named)
      (absent : named = false) : found = none :=
    Option.not_isSome_iff_eq_none.mp (Bool.eq_false_iff.mp (same.trans absent))
  unfold resolve
  refine (resolveList_states processing _ _).bindSilent fun types _ => ?_
  refine (resolveList_states processing _ _).bindSilent fun rels _ => ?_
  refine (resolveList_states processing _ _).bindSilent fun revs _ => ?_
  refine (resolveList_states processing _ _).bindSilent fun properties _ => ?_
  refine (resolveResource_names processing _ _ _).bindSilent fun about read => ?_
  refine (resolveResource_states processing _ _ _).bindSilent fun resource known => .pure ?_
  refine ⟨read.2, missing read.1, fun absent => ?_⟩
  rw [missing known absent, Option.none_or]

-- What the element names besides by `about` is an object of its statements and not their subject.
def Attributes.leadsAway (attributes : Attributes) : Bool :=
  attributes.hasRelation || attributes.speaksOfText

structure Roles.Follow (place : Place) (attributes : Attributes) (values : Values) (roles : Roles) :
    Prop where
  about : ∀ about ∈ values.about, roles.subject = some about
  around : values.about = none → attributes.leadsAway = true → roles.subject = place.subject
  target : values.about = none → attributes.leadsAway = false →
    ∀ target ∈ values.target, roles.subject = some target
  root : values.about = none → values.target = none → place.isRoot = true →
    roles.subject = some place.base
  object : attributes.hasRelation = true → ∀ target ∈ values.target, roles.object = some target

theorem Roles.follow_of_leadsAway (away : attributes.leadsAway = true) {object typed : Option Text}
    (led : attributes.hasRelation = true → ∀ target ∈ values.target, object = some target) :
    Roles.Follow place attributes values ⟨values.about.or place.subject, object, typed, false⟩ := by
  refine ⟨fun about named => ?_, fun unnamed _ => ?_, fun _ here => ?_, fun unnamed _ root => ?_, led⟩
  · rw [Option.mem_def.mp named, Option.some_or]
  · rw [unnamed, Option.none_or]
  · rw [away] at here
    cases here
  · rw [unnamed, Option.none_or, Place.subject, root, if_pos rfl]

theorem relationRoles_follow (relation : attributes.hasRelation = true) :
    States [] (Roles.Follow place attributes values) (relationRoles place attributes values) := by
  have away : attributes.leadsAway = true := by simp [Attributes.leadsAway, relation]
  unfold relationRoles
  dsimp only
  split
  · cases named : values.target with
    | some target =>
      exact .pure (Roles.follow_of_leadsAway away fun _ _ found => named.symm.trans found)
    | none =>
      refine mint_states.bindSilent fun node _ => .pure (Roles.follow_of_leadsAway away ?_)
      simp [named]
  · exact .pure (Roles.follow_of_leadsAway away fun _ _ found => found)

theorem textRoles_follow (relation : attributes.hasRelation = false)
    (away : attributes.leadsAway = true) :
    States [] (Roles.Follow place attributes values) (textRoles place attributes values) := by
  have follow {object typed : Option Text} : Roles.Follow place attributes values
      ⟨values.about.or place.subject, object, typed, false⟩ :=
    Roles.follow_of_leadsAway away (by simp [relation])
  unfold textRoles
  dsimp only
  split
  · split
    · exact .pure follow
    · split
      · exact .pure follow
      · split
        · exact .pure follow
        · exact mint_states.bindSilent fun node _ => .pure follow
  · exact .pure follow

theorem plainRoles_follow (here : attributes.leadsAway = false) :
    States [] (Roles.Follow place attributes values) (plainRoles place attributes values) := by
  have relation : attributes.hasRelation = false := (Bool.or_eq_false_iff.mp here).1
  unfold plainRoles
  split
  · next subject named =>
    refine .pure ⟨fun about found => ?_, by simp [here], fun unnamed _ target found => ?_,
      fun unnamed missing _ => ?_, by simp [relation]⟩
    · rw [Option.mem_def.mp found] at named
      exact named.symm
    · rw [unnamed, Option.mem_def.mp found] at named
      exact named.symm
    · rw [unnamed, missing] at named
      cases named
  · next unnamed =>
    obtain ⟨about, target⟩ := Option.or_eq_none_iff.mp unnamed
    have follow {roles : Roles} (root : place.isRoot = true → roles.subject = some place.base) :
        Roles.Follow place attributes values roles :=
      ⟨by simp [about], by simp [here], by simp [target], fun _ _ => root, by simp [relation]⟩
    split
    · exact .pure (follow fun _ => rfl)
    · next inside =>
      split
      · exact mint_states.bindSilent fun node _ => .pure (follow fun root => absurd root inside)
      · exact .pure (follow fun root => absurd root inside)

theorem assign_follow :
    States [] (Roles.Follow place attributes values) (assign place attributes values) := by
  unfold assign
  split
  · next relation => exact relationRoles_follow relation
  · next unrelated =>
    have relation : attributes.hasRelation = false := Bool.eq_false_iff.mpr unrelated
    split
    · next text => exact textRoles_follow relation (Bool.or_eq_true_iff.mpr (.inr text))
    · next plain =>
      have silent : attributes.speaksOfText = false := Bool.eq_false_iff.mpr plain
      exact plainRoles_follow (by rw [Attributes.leadsAway, relation, silent]; rfl)

structure Reckoned.Names (place : Place) (attributes : Attributes) (r : Reckoned) : Prop where
  values : r.values.Named place attributes
  roles : r.roles.Follow place attributes r.values

theorem reckon_names (processing : Processing) : States (vocabularyFact place.base attributes)
    (Reckoned.Names place attributes) (reckon processing place attributes) := by
  unfold reckon
  refine (enter_states processing place attributes).bindSilent fun scope entered => ?_
  subst entered
  refine (resolve_names processing).bindSilent fun values named => ?_
  exact assign_follow.bindSilent fun roles follow => .pure ⟨named, follow⟩

namespace Entry

variable (processing : Processing) (e : Entry)

theorem names : (e.reckoned processing).Names e.place e.attributes :=
  (reckon_names processing).yielded _

def finds (value : Option Text) : Bool := (e.place.scope e.attributes).names e.place.base value

theorem subject_of_about {iri : Text}
    (named : (e.place.scope e.attributes).iri? e.place.base e.attributes.about = some iri) :
    e.subject processing = some iri :=
  (e.names processing).roles.about iri ((e.names processing).values.about iri named)

theorem subject_of_unnamed (root : e.place.isRoot = true) (unnamed : e.finds e.attributes.about = false)
    (undirected : e.attributes.leadsAway = true ∨ e.place.hasTarget e.attributes = false) :
    e.subject processing = some e.place.base := by
  have about := (e.names processing).values.unnamed unnamed
  rcases undirected with away | missing
  · have subject := (e.names processing).roles.around about away
    rw [Place.subject, root, if_pos rfl] at subject
    exact subject
  · have target := (e.right processing).values.target
    rw [missing] at target
    exact (e.names processing).roles.root about
      (Option.not_isSome_iff_eq_none.mp (Bool.eq_false_iff.mp target)) root

-- What an element makes of the resource `term` that it names besides by `about`: the object of its
-- relations, else the value of its properties, else its subject, to which waiting relations lead.
structure Contributes (term : Text) : Prop where
  object : e.attributes.hasRelation = true → ∀ subject ∈ e.subject processing,
    (e.reckoned processing).related e.attributes = e.links subject term
  value : e.attributes.hasRelation = false → e.attributes.speaksOfText = true →
    ∀ subject ∈ e.subject processing, (e.reckoned processing).stated e.attributes =
      (e.iris e.attributes.property).map fun property => ⟨.default, link subject property term⟩
  subject : e.attributes.leadsAway = false → e.finds e.attributes.about = false →
    e.subject processing = some term ∧
      (e.reckoned processing).completed e.place.parent = completions e.place.parent term

theorem contributes_of_target {term : Text} (given : (e.reckoned processing).values.target = some term) :
    e.Contributes processing term := by
  have values := (e.right processing).values
  refine ⟨fun relation subject named => ?_, fun relation speaks subject named => ?_,
    fun here unnamed => ?_⟩
  · have object := (e.names processing).roles.object relation term given
    unfold Entry.subject at named
    simp only [Reckoned.related, relation, Option.mem_def.mp named, object, Values.relations, values.rels,
      values.revs]
    rfl
  · have unread : e.attributes.content = none ∧ e.attributes.datatype = none := by
      simp only [Attributes.speaksOfText, Bool.and_eq_true, Option.isNone_iff_eq_none] at speaks
      exact ⟨speaks.1.2, speaks.2⟩
    have node : propertyValue e.attributes (e.reckoned processing).values
        (e.reckoned processing).roles = .node (some term) := by
      simp [propertyValue, unread, relation, given]
    unfold Entry.subject at named
    simp only [Reckoned.stated, Option.mem_def.mp named, node, values.properties]
    rfl
  · have about := (e.names processing).values.unnamed unnamed
    have subject : e.subject processing = some term :=
      (e.names processing).roles.target about here term given
    have target : e.place.hasTarget e.attributes = true := by
      rw [← values.target, given]
      rfl
    exact ⟨subject, e.completed_of_stands processing subject (by simp [Entry.passes, Place.passes, target])⟩

theorem contributes_of_reference {reference : Text} (absent : e.finds e.attributes.resource = false)
    (given : e.attributes.href.or e.attributes.src = some reference) :
    e.Contributes processing (Iri.resolve e.place.base reference) := by
  have target := (e.names processing).values.target absent
  rw [given] at target
  exact e.contributes_of_target processing target

end Entry
end Element
end Rdfa
