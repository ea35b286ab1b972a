import Rdfa.Proofs.Element.States

-- What can be told of the parts an element's nodes play from its attributes alone, whatever the nodes
-- are called.
namespace Rdfa.Element

open Work

section Given

variable (place : Place) (attributes : Attributes)

-- The element adds nothing to the chain of subjects: it states no relation, property or type, and names
-- nothing.
def Place.passes : Bool :=
  !attributes.hasRelation && attributes.property.isNone && attributes.type.isNone &&
    !(place.scope attributes).names place.base attributes.about && !place.hasTarget attributes

def Attributes.speaksOfText : Bool :=
  attributes.property.isSome && attributes.content.isNone && attributes.datatype.isNone

-- The element has no subject of its own, and speaks of what the elements around it left for that.
def Place.bare : Bool :=
  !(place.scope attributes).names place.base attributes.about &&
    (attributes.hasRelation || attributes.speaksOfText ||
      !place.hasTarget attributes && attributes.type.isNone)

def Place.hasObject : Bool :=
  place.hasTarget attributes || attributes.type.isSome && attributes.about.isNone

-- The relations of the element are left to what is inside it.
def Place.hangs : Bool := attributes.hasRelation && !place.hasObject attributes

structure Roles.Given (roles : Roles) : Prop where
  subject : place.subject.isSome = true → roles.subject.isSome = true
  typed : attributes.type.isSome = true → attributes.about = none → roles.typed.isSome = true
  object : attributes.hasRelation = true → roles.object.isSome = place.hasObject attributes
  skipped : roles.skipped = (!place.isRoot && place.passes attributes)
  bare : place.isRoot = false → place.bare attributes = true → roles.subject = place.parent.parentObject

end Given

variable {place : Place} {attributes : Attributes} {values : Values}

def Place.outermost (base : Text) : Place := ⟨base, Scope.root base, true⟩

theorem Place.subject_of_inside (inside : place.isRoot = false) :
    place.subject = place.parent.parentObject := by
  simp [Place.subject, inside]

namespace Values.ReadAt

theorem about_eq_none (read : values.ReadAt place attributes) (bare : place.bare attributes = true) :
    values.about = none := by
  have absent := read.about
  simp only [Place.bare, Bool.and_eq_true, Bool.not_eq_true'] at bare
  rw [bare.1] at absent
  exact Option.not_isSome_iff_eq_none.mp (Bool.eq_false_iff.mp absent)

theorem given (read : values.ReadAt place attributes) {object typed : Option Text}
    (passes : place.passes attributes = false)
    (said : attributes.type.isSome = true → attributes.about = none → typed.isSome = true)
    (led : attributes.hasRelation = true → object.isSome = place.hasObject attributes) :
    Roles.Given place attributes ⟨values.about.or place.subject, object, typed, false⟩ := by
  refine ⟨fun found => ?_, said, led, by simp [passes], fun inside bare => ?_⟩
  · simp [found]
  · rw [read.about_eq_none bare, Place.subject_of_inside inside]
    rfl

end Values.ReadAt

theorem relationRoles_states (read : values.ReadAt place attributes)
    (relation : attributes.hasRelation = true) :
    States [] (Roles.Given place attributes) (relationRoles place attributes values) := by
  have passes : place.passes attributes = false := by simp [Place.passes, relation]
  unfold relationRoles
  dsimp only
  split
  · next typed =>
    have object : true = place.hasObject attributes := by simp only [Place.hasObject, typed, Bool.or_true]
    cases values.target with
    | some target => exact .pure (read.given passes (fun _ _ => rfl) fun _ => object)
    | none =>
      exact mint_states.bindSilent fun node _ =>
        .pure (read.given passes (fun _ _ => rfl) fun _ => object)
  · next untyped =>
    have object : values.target.isSome = place.hasObject attributes := by
      rw [Place.hasObject, Bool.eq_false_iff.mpr untyped, Bool.or_false, read.target]
    refine .pure (read.given passes (fun type about => ?_) fun _ => object)
    simp [type, about] at untyped

theorem textRoles_states (read : values.ReadAt place attributes)
    (relation : attributes.hasRelation = false) (property : attributes.property.isSome = true) :
    States [] (Roles.Given place attributes) (textRoles place attributes values) := by
  have passes : place.passes attributes = false := by
    simp [Place.passes, Option.isSome_iff_ne_none.mp property]
  have typed : ∀ typed : Text, Roles.Given place attributes
      ⟨values.about.or place.subject, some typed, some typed, false⟩ :=
    fun _ => read.given passes (fun _ _ => rfl) (by simp [relation])
  unfold textRoles
  dsimp only
  split
  · split
    · exact .pure (typed _)
    · split
      · exact .pure (typed _)
      · split
        · exact .pure (typed _)
        · exact mint_states.bindSilent fun node _ => .pure (typed node)
  · next untyped =>
    exact .pure (read.given passes (fun type => absurd type untyped) (by simp [relation]))

theorem plainRoles_states (read : values.ReadAt place attributes)
    (relation : attributes.hasRelation = false) (plain : attributes.speaksOfText = false) :
    States [] (Roles.Given place attributes) (plainRoles place attributes values) := by
  have passes : place.passes attributes = (attributes.property.isNone && attributes.type.isNone &&
      !values.about.isSome && !values.target.isSome) := by
    simp [Place.passes, relation, read.about, read.target]
  have bare : place.bare attributes = (!values.about.isSome &&
      (!values.target.isSome && attributes.type.isNone)) := by
    simp [Place.bare, relation, plain, read.about, read.target]
  have unrelated {object : Option Text} :
      attributes.hasRelation = true → object.isSome = place.hasObject attributes := by
    simp [relation]
  unfold plainRoles
  split
  · next subject named =>
    have present : (!values.about.isSome && !values.target.isSome) = false := by
      cases about : values.about <;> cases target : values.target <;> simp_all
    refine .pure ⟨fun _ => rfl, fun type _ => by simp [type], unrelated, ?_, fun _ bared => ?_⟩
    · rw [passes, Bool.and_assoc, present]
      simp
    · rw [bare, ← Bool.and_assoc, present] at bared
      cases bared
  · next unnamed =>
    obtain ⟨about, target⟩ := Option.or_eq_none_iff.mp unnamed
    split
    · next root =>
      exact .pure ⟨fun _ => rfl, fun type _ => by simp [type], unrelated, by simp [root],
        fun inside => by simp [root] at inside⟩
    · next inside =>
      split
      · next typed =>
        have named : attributes.type.isNone = false := by simpa using typed
        refine mint_states.bindSilent fun node _ => .pure ⟨fun _ => rfl, fun _ _ => rfl, unrelated,
          ?_, fun _ bared => ?_⟩
        · simp [passes, named]
        · simp [bare, named] at bared
      · next untyped =>
        have absent : attributes.type = none := by simpa using untyped
        have standing : place.isRoot = false := by simpa using inside
        refine .pure ⟨fun found => ?_, fun type => by simp [absent] at type, unrelated, ?_,
          fun _ _ => rfl⟩
        · rwa [Place.subject_of_inside standing] at found
        · simp [passes, standing, absent, about, target]

-- The parts an element's nodes play, whichever rule gives them out.
theorem assign_states (read : values.ReadAt place attributes) :
    States [] (Roles.Given place attributes) (assign place attributes values) := by
  unfold assign
  split
  · next relation => exact relationRoles_states read relation
  · next unrelated =>
    have relation : attributes.hasRelation = false := Bool.eq_false_iff.mpr unrelated
    split
    · next speaks =>
      have property : attributes.property.isSome = true := by
        simp only [Bool.and_eq_true] at speaks
        exact speaks.1.1
      exact textRoles_states read relation property
    · next plain => exact plainRoles_states read relation (Bool.eq_false_iff.mpr plain)

end Rdfa.Element
