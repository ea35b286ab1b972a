import Rdfa.Iri
import Rdfa.Text.Identifier
import Rdfa.Text.Lowercase
import Rdfa.Vocabulary
import Rdfa.Warning

-- The evaluation context an element hands to its children, and how attribute values are read in it.
namespace Rdfa

-- A predicate that waits for a descendant; `forward` when the descendant is the object.
structure Incomplete where
  predicate : Text
  forward : Bool
deriving Repr, DecidableEq

-- `prefixes` holds small-letter names, the latest declaration first.
structure Scope where
  parentSubject : Text
  parentObject : Option Text
  incomplete : List Incomplete
  language : Option Text
  vocabulary : Option Text
  prefixes : List (Text × Text)
deriving Repr, DecidableEq

namespace Scope

def root (base : Text) : Scope :=
  { parentSubject := base, parentObject := none, incomplete := [], language := none,
    vocabulary := none, prefixes := [] }

def isPrefixName : Text → Bool
  | [] => false
  | first :: rest =>
    (first = '_' || Text.isIdentifierStart first) &&
      rest.all fun c => c = '-' || c = '.' || Text.isIdentifierContinue c

def declare (scope : Scope) (name namespaceIri : Text) : Except Warning Scope :=
  if name = ['_'] then .error .reservedPrefix
  else if isPrefixName name then
    .ok { scope with prefixes := (Text.lowercase name, namespaceIri) :: scope.prefixes }
  else .error (.invalidPrefix name)

-- The namespace of a prefix: the document's own declarations come before the initial ones.
def namespace? (scope : Scope) (name : Text) : Option Text :=
  let small := Text.lowercase name
  (scope.prefixes.lookup small).or (Vocabulary.initialPrefix? small)

-- The IRI of `prefix:reference`, if the prefix is known. A blank node label stands for itself.
def expand? (scope : Scope) (value : Text) : Option Text :=
  match Text.cut ':' value with
  | (_, none) => none
  | (name, some reference) =>
    if name = ['_'] then some value
    else if name.isEmpty then some (Vocabulary.xhtml ++ reference)
    else (scope.namespace? name).map (· ++ reference)

def resolveToken (scope : Scope) (token : Text) : Except Warning Text :=
  if ':' ∈ token then
    match scope.expand? token with
    | some iri => .ok iri
    | none => if Iri.isAbsolute token then .ok token else .error (.unknownCurie token)
  else
    match scope.vocabulary with
    | some vocabulary => .ok (vocabulary ++ token)
    | none =>
      match Vocabulary.initialTerm? (Text.lowercase token) with
      | some iri => .ok iri
      | none => .error (.unknownTerm token)

def bracketed? (value : Text) : Option Text :=
  (Text.after? ['['] value).bind (Text.before? [']'])

def resolveResource (scope : Scope) (base value : Text) : Except Warning Text :=
  match bracketed? value with
  | some inner =>
    match scope.expand? inner with
    | some iri => .ok iri
    | none => .error (.unknownSafeCurie value)
  | none => .ok ((scope.expand? value).getD (Iri.resolve base value))

end Scope
end Rdfa
