import Rdfa.Proofs.Element.Abreast

-- What two runs that name their nodes differently have in common while a start tag is processed: scopes,
-- values, parts and waiting literals, as long as no token of the tag is read as a blank node label.
namespace Rdfa

def Scope.unlabelled (scope : Scope) (token : Text) : Bool :=
  match scope.resolveToken token with
  | .ok iri => !isLabel iri
  | .error _ => true

theorem Scope.unlabelled_of_ok {scope : Scope} {token iri : Text}
    (unlabelled : scope.unlabelled token = true) (found : scope.resolveToken token = .ok iri) :
    isLabel iri = false := by
  simpa [Scope.unlabelled, found] using unlabelled

namespace Element

def Attributes.tokens (attributes : Attributes) : List Text :=
  [attributes.type, attributes.rel, attributes.rev, attributes.property].flatMap
      (fun value => Text.words (value.getD [])) ++
    (attributes.datatype.map Text.trim).toList

def vocabularyIn (base : Text) (attributes : Attributes) (scope : Scope) : Scope :=
  match attributes.vocab with
  | none => scope
  | some [] => { scope with vocabulary := none }
  | some value => { scope with vocabulary := some (Iri.resolve base value) }

def declaredIn (scope : Scope) (declared : List (Text × Text)) : Scope :=
  declared.foldl (fun scope pair => (scope.declare pair.1 pair.2).toOption.getD scope) scope

def Place.scope (place : Place) (attributes : Attributes) : Scope :=
  enterLanguage attributes (declaredIn (vocabularyIn place.base attributes place.parent)
    (attributes.namespaces ++ (Declaration.declarations (attributes.prefixes.getD [])).map
      fun d => (d.name, d.namespaceIri)))

def Place.unlabelled (place : Place) (attributes : Attributes) : Bool :=
  attributes.tokens.all (place.scope attributes).unlabelled

structure Unlabelled (scope : Scope) (attributes : Attributes) : Prop where
  list : ∀ value ∈ [attributes.type, attributes.rel, attributes.rev, attributes.property],
    ∀ token ∈ Text.words (value.getD []), scope.unlabelled token = true
  datatype : ∀ token, attributes.datatype.map Text.trim = some token →
    scope.unlabelled token = true

theorem Place.unlabelled_iff {place : Place} {attributes : Attributes} :
    place.unlabelled attributes = true ↔ Unlabelled (place.scope attributes) attributes := by
  unfold Place.unlabelled Attributes.tokens
  rw [List.all_eq_true, List.forall_mem_append]
  constructor
  · rintro ⟨lists, datatype⟩
    refine ⟨fun value listed token present => lists token ?_, fun token given => datatype token ?_⟩
    · exact List.mem_flatMap.mpr ⟨value, listed, present⟩
    · rw [given]
      exact List.mem_singleton_self token
  · rintro ⟨lists, datatype⟩
    refine ⟨fun token present => ?_, fun token present => datatype token (by simpa using present)⟩
    obtain ⟨value, listed, inside⟩ := List.mem_flatMap.mp present
    exact lists value listed token inside

namespace Naming

abbrev Terms (naming : Naming) : Option Text → Option Text → Prop := Option.Rel naming.Term

structure Scopes (naming : Naming) (s t : Scope) : Prop where
  subject : naming.Term s.parentSubject t.parentSubject
  object : naming.Terms s.parentObject t.parentObject
  incomplete : t.incomplete = s.incomplete
  plain : ∀ waiting ∈ s.incomplete, isLabel waiting.predicate = false
  language : t.language = s.language
  vocabulary : t.vocabulary = s.vocabulary
  prefixes : t.prefixes = s.prefixes

structure Places (naming : Naming) (place other : Place) : Prop where
  base : other.base = place.base
  absolute : Iri.isAbsolute place.base = true
  parent : naming.Scopes place.parent other.parent
  isRoot : other.isRoot = place.isRoot

structure Values (naming : Naming) (values others : Element.Values) : Prop where
  types : others.types = values.types
  rels : others.rels = values.rels
  revs : others.revs = values.revs
  properties : others.properties = values.properties
  plain : ∀ iri ∈ values.types ++ values.rels ++ values.revs ++ values.properties,
    isLabel iri = false
  about : naming.Terms values.about others.about
  target : naming.Terms values.target others.target

structure Roles (naming : Naming) (roles others : Element.Roles) : Prop where
  subject : naming.Terms roles.subject others.subject
  object : naming.Terms roles.object others.object
  typed : naming.Terms roles.typed others.typed
  skipped : others.skipped = roles.skipped

structure Pending (naming : Naming) (pending other : PendingLiteral) : Prop where
  subject : naming.Term pending.subject other.subject
  predicates : other.predicates = pending.predicates
  plain : ∀ predicate ∈ pending.predicates, isLabel predicate = false
  datatype : other.datatype = pending.datatype
  typed : ∀ iri, pending.datatype = some iri → isLabel iri = false
  language : other.language = pending.language
  pieces : other.pieces = pending.pieces

variable {naming wider : Naming} {visible : Graph → Bool}

theorem Terms.mono (within : naming.Within wider) {a b : Option Text} (terms : naming.Terms a b) :
    wider.Terms a b := by
  cases terms with
  | some term => exact .some (term.mono within)
  | none => exact .none

theorem Terms.or {a b c d : Option Text} (first : naming.Terms a b) (second : naming.Terms c d) :
    naming.Terms (a.or c) (b.or d) := by
  cases first with
  | some term => exact .some term
  | none => exact second

theorem Scopes.mono (within : naming.Within wider) {s t : Scope} (scopes : naming.Scopes s t) :
    wider.Scopes s t :=
  { scopes with subject := scopes.subject.mono within, object := scopes.object.mono within }

theorem Places.mono (within : naming.Within wider) {place other : Place}
    (places : naming.Places place other) : wider.Places place other :=
  { places with parent := places.parent.mono within }

theorem Values.mono (within : naming.Within wider) {values others : Element.Values}
    (alike : naming.Values values others) : wider.Values values others :=
  { alike with about := alike.about.mono within, target := alike.target.mono within }

theorem Roles.mono (within : naming.Within wider) {roles others : Element.Roles}
    (alike : naming.Roles roles others) : wider.Roles roles others :=
  ⟨alike.subject.mono within, alike.object.mono within, alike.typed.mono within, alike.skipped⟩

theorem Pending.mono (within : naming.Within wider) {pending other : PendingLiteral}
    (alike : naming.Pending pending other) : wider.Pending pending other :=
  { alike with subject := alike.subject.mono within }

abbrev Waits (naming : Naming) : Option PendingLiteral → Option PendingLiteral → Prop :=
  Option.Rel naming.Pending

theorem Waits.mono (within : naming.Within wider) {a b : Option PendingLiteral}
    (waits : naming.Waits a b) : wider.Waits a b := by
  cases waits with
  | some pending => exact .some (pending.mono within)
  | none => exact .none

theorem Scopes.expand? {s t : Scope} (scopes : naming.Scopes s t) (value : Text) :
    t.expand? value = s.expand? value := by
  simp only [Scope.expand?, Scope.namespace?, scopes.prefixes]

theorem Scopes.resolveToken {s t : Scope} (scopes : naming.Scopes s t) (token : Text) :
    t.resolveToken token = s.resolveToken token := by
  simp only [Scope.resolveToken, scopes.expand?, scopes.vocabulary]

theorem Scopes.resolveResource {s t : Scope} (scopes : naming.Scopes s t) (base value : Text) :
    t.resolveResource base value = s.resolveResource base value := by
  simp only [Scope.resolveResource, scopes.expand?]

theorem Scopes.declare {s t : Scope} (scopes : naming.Scopes s t) (name iri : Text) :
    (∃ warning, s.declare name iri = .error warning ∧ t.declare name iri = .error warning) ∨
      ∃ s' t', s.declare name iri = .ok s' ∧ t.declare name iri = .ok t' ∧ naming.Scopes s' t' := by
  unfold Scope.declare
  split
  · exact .inl ⟨_, rfl, rfl⟩
  · split
    · exact .inr ⟨_, _, rfl, rfl, { scopes with prefixes := by rw [scopes.prefixes] }⟩
    · exact .inl ⟨_, rfl, rfl⟩

theorem Places.subject {place other : Place} (places : naming.Places place other) :
    naming.Terms place.subject other.subject := by
  unfold Place.subject
  rw [places.isRoot, places.base]
  split
  · exact .some (.plain (Iri.isLabel_of_isAbsolute places.absolute))
  · exact places.parent.object

theorem Pending.emissions {pending other : PendingLiteral} (alike : naming.Pending pending other) :
    naming.Alike visible pending.emissions other.emissions := by
  unfold PendingLiteral.emissions PendingLiteral.value
  rw [alike.predicates, alike.datatype, alike.language, alike.pieces]
  exact .map fun predicate present =>
    .literal .default alike.subject (alike.plain predicate present) _ alike.typed _

end Naming

end Element
end Rdfa
