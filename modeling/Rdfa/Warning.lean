import Rdfa.Text.Basic

-- What the processor graph can report about a document.
namespace Rdfa

inductive Warning.Kind where
  | unresolvedTerm
  | unresolvedCurie
  | prefixRedefinition
  | documentError
deriving Repr, DecidableEq

def Warning.Kind.iri : Warning.Kind → Text
  | .unresolvedTerm => "http://www.w3.org/ns/rdfa#UnresolvedTerm".toList
  | .unresolvedCurie => "http://www.w3.org/ns/rdfa#UnresolvedCURIE".toList
  | .prefixRedefinition => "http://www.w3.org/ns/rdfa#PrefixRedefinition".toList
  | .documentError => "http://www.w3.org/ns/rdfa#DocumentError".toList

inductive Warning where
  | unknownTerm (token : Text)
  | unknownCurie (token : Text)
  | unknownSafeCurie (value : Text)
  | reservedPrefix
  | invalidPrefix (name : Text)
  | notAPrefix (token : Text)
  | prefixWithoutNamespace (name : Text)
  | unclosedElements (count : Nat)
deriving Repr, DecidableEq

namespace Warning

def kind : Warning → Kind
  | unknownTerm _ => .unresolvedTerm
  | unknownCurie _ | unknownSafeCurie _ => .unresolvedCurie
  | reservedPrefix | invalidPrefix _ | notAPrefix _ | prefixWithoutNamespace _ =>
    .prefixRedefinition
  | unclosedElements _ => .documentError

def message : Warning → Text
  | unknownTerm token => "unresolved term '".toList ++ token ++ "'".toList
  | unknownCurie token => "unresolved CURIE '".toList ++ token ++ "'".toList
  | unknownSafeCurie value => "unresolved safe CURIE '".toList ++ value ++ "'".toList
  | reservedPrefix => "the '_' prefix is reserved for blank nodes".toList
  | invalidPrefix name => "'".toList ++ name ++ "' is not a valid prefix name".toList
  | notAPrefix token => "expected 'prefix:' in @prefix, found '".toList ++ token ++ "'".toList
  | prefixWithoutNamespace name => "prefix '".toList ++ name ++ "' has no namespace IRI".toList
  | unclosedElements count =>
    Text.decimal count ++ " element(s) still open at end of input".toList

end Warning
end Rdfa
