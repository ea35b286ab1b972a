import Rdfa.Declaration
import Rdfa.Element.Attributes
import Rdfa.Element.Output
import Rdfa.Scope
import Rdfa.Text.Blank

-- The processing rules for one start tag: from the attributes and the scope of the parent to the
-- statements that are known at once, the scope of the children, and a literal that is complete only
-- when the element ends.
namespace Rdfa.Element

structure Place where
  -- The document base in force.
  base : Text
  parent : Scope
  -- No element is open around it.
  isRoot : Bool
deriving Repr, DecidableEq

-- What an element speaks of that names nothing itself.
def Place.subject (place : Place) : Option Text :=
  if place.isRoot then some place.base else place.parent.parentObject

-- A literal that waits for the text inside its element. The pieces are kept latest first.
structure PendingLiteral where
  subject : Text
  predicates : List Text
  datatype : Option Text
  language : Option Text
  pieces : List Text
deriving Repr, DecidableEq

def PendingLiteral.append (pending : PendingLiteral) (text : Text) : PendingLiteral :=
  { pending with pieces := text :: pending.pieces }

def PendingLiteral.value (pending : PendingLiteral) : Text := pending.pieces.reverse.flatten

def PendingLiteral.emissions (pending : PendingLiteral) : List Emission :=
  pending.predicates.map fun predicate =>
    ⟨.default, literal pending.subject predicate pending.value pending.datatype pending.language⟩

variable (processing : Processing)

def enterVocabulary (base : Text) (attributes : Attributes) (scope : Scope) : Work Scope := do
  match attributes.vocab with
  | none => return scope
  | some [] => return { scope with vocabulary := none }
  | some value =>
    let vocabulary := Iri.resolve base value
    send [⟨.default, link base Vocabulary.usesVocabulary vocabulary⟩]
    return { scope with vocabulary := some vocabulary }

def warnAll : List Warning → Work Unit
  | [] => pure ()
  | warning :: rest => do warn processing warning; warnAll rest

def declareAll (scope : Scope) : List (Text × Text) → Work Scope
  | [] => return scope
  | (name, iri) :: rest => do
    match scope.declare name iri with
    | .ok scope =>
      if processing.announcePrefixes then send [⟨.processor, prefixReport name iri⟩]
      declareAll scope rest
    | .error warning =>
      warn processing warning
      declareAll scope rest

-- Declarations by `xmlns` come first, but what is wrong with `prefix` is said before them.
def enterPrefixes (attributes : Attributes) (scope : Scope) : Work Scope := do
  let value := attributes.prefixes.getD []
  warnAll processing (Declaration.warnings value)
  declareAll processing scope (attributes.namespaces ++
    (Declaration.declarations value).map fun d => (d.name, d.namespaceIri))

def enterLanguage (attributes : Attributes) (scope : Scope) : Scope :=
  match attributes.language with
  | none => scope
  | some [] => { scope with language := none }
  | some language => { scope with language := some language }

def enter (place : Place) (attributes : Attributes) : Work Scope := do
  let scope ← enterVocabulary place.base attributes place.parent
  let scope ← enterPrefixes processing attributes scope
  return enterLanguage attributes scope

def resolveTokens (scope : Scope) : List Text → Work (List Text)
  | [] => return []
  | token :: rest => do
    match scope.resolveToken token with
    | .ok iri => return iri :: (← resolveTokens scope rest)
    | .error warning =>
      warn processing warning
      resolveTokens scope rest

def resolveList (scope : Scope) (value : Option Text) : Work (List Text) :=
  resolveTokens processing scope (Text.words (value.getD []))

def resolveResource (scope : Scope) (base : Text) (value : Option Text) : Work (Option Text) := do
  match value with
  | none => return none
  | some value =>
    match scope.resolveResource base value with
    | .ok term => if isLabel term then return some (← nodeOf term) else return some term
    | .error warning =>
      warn processing warning
      return none

structure Values where
  types : List Text
  rels : List Text
  revs : List Text
  properties : List Text
  about : Option Text
  -- From `resource`, else `href`, else `src`.
  target : Option Text
deriving Repr, DecidableEq

def resolve (scope : Scope) (base : Text) (attributes : Attributes) : Work Values := do
  let types ← resolveList processing scope attributes.type
  let rels ← resolveList processing scope attributes.rel
  let revs ← resolveList processing scope attributes.rev
  let properties ← resolveList processing scope attributes.property
  let about ← resolveResource processing scope base attributes.about
  let resource ← resolveResource processing scope base attributes.resource
  let target := resource.or ((attributes.href.or attributes.src).map (Iri.resolve base))
  return { types, rels, revs, properties, about, target }

structure Roles where
  subject : Option Text
  object : Option Text
  -- What the types are said of.
  typed : Option Text
  -- The element adds nothing to the chain of subjects.
  skipped : Bool
deriving Repr, DecidableEq

-- Without `rel` and `rev`, where `property` speaks of the element's text.
def textRoles (place : Place) (attributes : Attributes) (values : Values) : Work Roles := do
  let subject := values.about.or place.subject
  if attributes.type.isSome then
    let typed ← match values.about, values.target with
      | some about, _ => pure about
      | none, target =>
        if place.isRoot then pure place.base
        else match target with
          | some target => pure target
          | none => mint
    return { subject, object := some typed, typed := some typed, skipped := false }
  else return { subject, object := none, typed := none, skipped := false }

-- Without `rel` and `rev` otherwise.
def plainRoles (place : Place) (attributes : Attributes) (values : Values) : Work Roles := do
  match values.about.or values.target with
  | some subject =>
    let typed := if attributes.type.isSome then some subject else none
    return { subject := some subject, object := none, typed, skipped := false }
  | none =>
    if place.isRoot then
      let typed := if attributes.type.isSome then some place.base else none
      return { subject := some place.base, object := none, typed, skipped := false }
    else if attributes.type.isSome then
      let node ← mint
      return { subject := some node, object := none, typed := some node, skipped := false }
    else
      let skipped := attributes.property.isNone
      return { subject := place.parent.parentObject, object := none, typed := none, skipped }

def relationRoles (place : Place) (attributes : Attributes) (values : Values) : Work Roles := do
  let subject := values.about.or place.subject
  if attributes.type.isSome && attributes.about.isNone then
    let object ← match values.target with
      | some target => pure target
      | none => mint
    return { subject, object := some object, typed := some object, skipped := false }
  else
    let typed := if attributes.type.isSome then values.about else none
    return { subject, object := values.target, typed, skipped := false }

def assign (place : Place) (attributes : Attributes) (values : Values) : Work Roles :=
  if attributes.hasRelation then relationRoles place attributes values
  else if attributes.property.isSome && attributes.content.isNone && attributes.datatype.isNone then
    textRoles place attributes values
  else plainRoles place attributes values

def sendTypes (values : Values) (roles : Roles) : Work Unit :=
  match roles.typed with
  | none => pure ()
  | some typed => send (values.types.map fun type => ⟨.default, link typed Vocabulary.rdfType type⟩)

-- States the relations, or leaves them to a descendant behind a fresh node.
def relate (attributes : Attributes) (values : Values) (roles : Roles) :
    Work (Roles × List Incomplete) := do
  if attributes.hasRelation then
    match roles.subject, roles.object with
    | some subject, some object =>
      send (values.rels.map fun rel => ⟨.default, link subject rel object⟩)
      send (values.revs.map fun rev => ⟨.default, link object rev subject⟩)
      return (roles, [])
    | _, _ =>
      let node ← mint
      return ({ roles with object := some node },
        values.rels.map (⟨·, true⟩) ++ values.revs.map (⟨·, false⟩))
  else return (roles, [])

def resolveDatatype (scope : Scope) (attributes : Attributes) : Work (Option Text) := do
  match attributes.datatype.map Text.trim with
  | none | some [] => return none
  | some token =>
    match scope.resolveToken token with
    | .ok datatype => return some datatype
    | .error warning =>
      warn processing warning
      return none

inductive PropertyValue where
  | node (term : Option Text)
  | content (value : Text)
  | text
deriving Repr, DecidableEq

def propertyValue (attributes : Attributes) (values : Values) (roles : Roles) : PropertyValue :=
  match attributes.content with
  | some content => .content content
  | none =>
    if attributes.datatype.isSome then .text
    else if !attributes.hasRelation && values.target.isSome then .node values.target
    else if attributes.type.isSome && attributes.about.isNone then .node roles.typed
    else .text

def describe (scope : Scope) (attributes : Attributes) (values : Values) (roles : Roles) :
    Work (Option PendingLiteral) := do
  match roles.subject with
  | none => return none
  | some subject =>
    if values.properties.isEmpty then return none
    else
      let datatype ← resolveDatatype processing scope attributes
      match propertyValue attributes values roles with
      | .node none => return none
      | .node (some term) =>
        send (values.properties.map fun property => ⟨.default, link subject property term⟩)
        return none
      | .content value =>
        send (values.properties.map fun property =>
          ⟨.default, literal subject property value datatype scope.language⟩)
        return none
      | .text =>
        let language := if datatype.isSome then none else scope.language
        return some { subject, predicates := values.properties, datatype, language, pieces := [] }

def completions (parent : Scope) (subject : Text) : List Emission :=
  parent.incomplete.map fun waiting =>
    ⟨.default,
      if waiting.forward then link parent.parentSubject waiting.predicate subject
      else link subject waiting.predicate parent.parentSubject⟩

-- The scope of the children. A skipped element hands on what it was given.
def leave (parent scope : Scope) (roles : Roles) (incomplete : List Incomplete) : Scope :=
  if roles.skipped then scope
  else
    { scope with
      parentSubject := roles.subject.getD parent.parentSubject
      parentObject := some ((roles.object.or roles.subject).getD parent.parentSubject)
      incomplete }

-- A start tag processed: the scope of the children and the literal that waits, if any.
def process (place : Place) (attributes : Attributes) : Work (Scope × Option PendingLiteral) := do
  let scope ← enter processing place attributes
  let values ← resolve processing scope place.base attributes
  let roles ← assign place attributes values
  sendTypes values roles
  let (roles, incomplete) ← relate attributes values roles
  let pending ← describe processing scope attributes values roles
  match roles.skipped, roles.subject with
  | false, some subject => send (completions place.parent subject)
  | _, _ => pure ()
  return (leave place.parent scope roles incomplete, pending)

end Rdfa.Element
