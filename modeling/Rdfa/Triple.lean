import Rdfa.Vocabulary

-- Statements on their way out: as an engine announces them, with a bare code for the kind of
-- object, and as a consumer sees them.
namespace Rdfa

inductive Graph where
  | default
  | processor
deriving Repr, DecidableEq

-- An announced statement. The code tells what the object is; engines may use any.
structure RawTriple where
  subject : Text
  predicate : Text
  object : Text
  code : UInt8
  datatype : Option Text
  language : Option Text
deriving Repr, DecidableEq

namespace Code

def namespaceIri : UInt8 := 0

def iri : UInt8 := 1

def plainLiteral : UInt8 := 2

def xmlLiteral : UInt8 := 3

def typedLiteral : UInt8 := 4

end Code

inductive ObjectKind where
  | resource
  | blankNode
  | literal
deriving Repr, DecidableEq

structure Triple where
  subject : Text
  predicate : Text
  object : Text
  kind : ObjectKind
  datatype : Option Text
  language : Option Text
deriving Repr, DecidableEq

def Triple.isLiteral (triple : Triple) : Bool := triple.kind = .literal

def isLabel (term : Text) : Bool := ['_', ':'].isPrefixOf term

inductive Delivery where
  | triple (triple : Triple)
  | namespace (name iri : Text)
deriving Repr, DecidableEq

namespace RawTriple

-- Datatype and language belong to literals only, and a literal with a datatype has no language.
def asTriple (raw : RawTriple) (kind : ObjectKind) : Triple :=
  { subject := raw.subject, predicate := raw.predicate, object := raw.object, kind,
    datatype := if kind = .literal then raw.datatype else none,
    language := if kind = .literal ∧ raw.datatype = none then raw.language else none }

-- What is delivered for an announcement; nothing if its code has no meaning.
def delivery? (raw : RawTriple) : Option Delivery :=
  if raw.code = Code.namespaceIri then some (.namespace raw.predicate raw.object)
  else if raw.code = Code.iri then
    some (.triple (raw.asTriple (if isLabel raw.object then .blankNode else .resource)))
  else if raw.code = Code.plainLiteral ∨ raw.code = Code.typedLiteral then
    some (.triple (raw.asTriple .literal))
  else if raw.code = Code.xmlLiteral then
    some (.triple { raw.asTriple .literal with datatype := some Vocabulary.xmlLiteral })
  else none

end RawTriple

structure Emission where
  graph : Graph
  triple : RawTriple
deriving Repr, DecidableEq

end Rdfa
