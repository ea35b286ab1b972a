import Rdfa.Text.Basic

-- IRI references: their five components, and resolution against a base.
namespace Rdfa.Iri

-- A component that is absent differs from one that is empty; only the path is always there.
structure Reference where
  scheme : Option Text
  authority : Option Text
  path : Text
  query : Option Text
  fragment : Option Text
deriving Repr, DecidableEq

def isSchemeChar (c : Char) : Bool := c.isAlphanum || c = '+' || c = '-' || c = '.'

def scheme? (text : Text) : Option (Text × Text) :=
  match text with
  | [] => none
  | c :: _ =>
    if c.isAlpha then
      match text.dropWhile isSchemeChar with
      | ':' :: rest => some (text.takeWhile isSchemeChar, rest)
      | _ => none
    else none

def isAbsolute (text : Text) : Bool := (scheme? text).isSome

-- What is left once fragment and query are off, and possibly a scheme.
def splitAuthority (text : Text) : Option Text × Text :=
  match text with
  | '/' :: '/' :: rest => (some (rest.takeWhile (· ≠ '/')), rest.dropWhile (· ≠ '/'))
  | _ => (none, text)

def split (text : Text) : Reference :=
  let (rest, fragment) := Text.cut '#' text
  let (rest, query) := Text.cut '?' rest
  let (scheme, rest) := match scheme? rest with
    | some (scheme, rest) => (some scheme, rest)
    | none => (none, rest)
  let (authority, path) := splitAuthority rest
  { scheme, authority, path, query, fragment }

def compose (r : Reference) : Text :=
  (r.scheme.elim [] (· ++ [':'])) ++ (r.authority.elim [] (['/', '/'] ++ ·)) ++ r.path ++
    (r.query.elim [] ('?' :: ·)) ++ (r.fragment.elim [] ('#' :: ·))

-- The output is kept in reverse, so its last segment comes first.
def dropSegment (output : Text) : Text := (output.dropWhile (· ≠ '/')).drop 1

def removeDotsFrom (output : Text) (input : Text) : Text :=
  match input with
  | [] => output.reverse
  | '.' :: '.' :: '/' :: rest => removeDotsFrom output rest
  | '.' :: '/' :: rest => removeDotsFrom output rest
  | '/' :: '.' :: '/' :: rest => removeDotsFrom output ('/' :: rest)
  | ['/', '.'] => removeDotsFrom output ['/']
  | '/' :: '.' :: '.' :: '/' :: rest => removeDotsFrom (dropSegment output) ('/' :: rest)
  | ['/', '.', '.'] => removeDotsFrom (dropSegment output) ['/']
  | ['.'] => output.reverse
  | ['.', '.'] => output.reverse
  | c :: rest =>
    -- The first character is taken whatever it is, so a leading slash goes with its segment.
    removeDotsFrom ((rest.takeWhile (· ≠ '/')).reverse ++ c :: output) (rest.dropWhile (· ≠ '/'))
termination_by input.length
decreasing_by
  all_goals simp only [List.length_cons, List.length_nil]
  all_goals try omega
  exact Nat.lt_succ_of_le (List.dropWhile_sublist _).length_le

def removeDotSegments (path : Text) : Text := removeDotsFrom [] path

def merge (base : Reference) (path : Text) : Text :=
  if base.authority.isSome && base.path.isEmpty then '/' :: path
  else (base.path.reverse.dropWhile (· ≠ '/')).reverse ++ path

def target (base r : Reference) : Reference :=
  if r.scheme.isSome then { r with path := removeDotSegments r.path }
  else if r.authority.isSome then
    { r with scheme := base.scheme, path := removeDotSegments r.path }
  else if r.path.isEmpty then
    { base with query := r.query.or base.query, fragment := r.fragment }
  else
    let path := if r.path.head? = some '/' then r.path else merge base r.path
    { r with scheme := base.scheme, authority := base.authority, path := removeDotSegments path }

def resolve (base reference : Text) : Text := compose (target (split base) (split reference))

end Rdfa.Iri
