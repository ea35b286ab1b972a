import Rdfa.Warning

-- The `prefix` attribute: names with a colon, each followed by a namespace.
namespace Rdfa

structure Declaration where
  name : Text
  namespaceIri : Text
deriving Repr, DecidableEq

namespace Declaration

-- A token that is no name is skipped alone, so the next one is read as a name again.
def readTokens : List Text → List (Except Warning Declaration)
  | [] => []
  | [token] =>
    match Text.before? [':'] token with
    | none => [.error (.notAPrefix token)]
    | some name => [.error (.prefixWithoutNamespace name)]
  | token :: next :: rest =>
    match Text.before? [':'] token with
    | none => .error (.notAPrefix token) :: readTokens (next :: rest)
    | some name => .ok ⟨name, next⟩ :: readTokens rest

def read (value : Text) : List (Except Warning Declaration) := readTokens (Text.words value)

def declarations (value : Text) : List Declaration :=
  (read value).filterMap Except.toOption

def warnings (value : Text) : List Warning :=
  (read value).filterMap fun
    | .ok _ => none
    | .error warning => some warning

end Declaration
end Rdfa
