import Rdfa.Text.Basic

-- TOML documents as trees, and the rules by which the lines of a document put a tree together.
namespace Rdfa.Toml

-- How a table came to be, which decides who may still add to it.
inductive Origin where
  -- On the way to another header.
  | implied
  -- By dotted keys.
  | dotted
  -- By a header of its own.
  | header
deriving Repr, DecidableEq

inductive Value where
  | string (text : Text)
  | integer (number : Int)
  | float (text : Text)
  | boolean (value : Bool)
  | moment (text : Text)
  | array (items : List Value)
  | inline (entries : List (Text × Value))
  | table (origin : Origin) (entries : List (Text × Value))
  -- Tables with a common name, latest first.
  | tables (elements : List (List (Text × Value)))

abbrev Entries := List (Text × Value)

namespace Entries

def replace (key : Text) (value : Value) : Entries → Entries
  | [] => []
  | entry :: rest => if entry.1 = key then (key, value) :: rest else entry :: replace key value rest

-- A key and its value. A key stands once, and only tables made by dotted keys take more of them.
def assign (value : Value) : List Text → Entries → Option Entries
  | [], _ => none
  | [key], entries =>
    match entries.lookup key with
    | none => some (entries ++ [(key, value)])
    | some _ => none
  | key :: rest, entries =>
    match entries.lookup key with
    | none => (assign value rest []).map fun inner => entries ++ [(key, .table .dotted inner)]
    | some (.table .dotted inner) =>
      (assign value rest inner).map fun inner => replace key (.table .dotted inner) entries
    | some _ => none

def inside (key : Text) (entries : Entries) (change : Entries → Option Entries) : Option Entries :=
  match entries.lookup key with
  | some (.table origin inner) =>
    (change inner).map fun inner => replace key (.table origin inner) entries
  | some (.tables (latest :: earlier)) =>
    (change latest).map fun latest => replace key (.tables (latest :: earlier)) entries
  | _ => none

def within (change : Entries → Option Entries) : List Text → Entries → Option Entries
  | [], entries => change entries
  | key :: rest, entries => inside key entries (within change rest)

-- A header. A table is opened once, unless so far it was only on the way to another.
def openTable : List Text → Entries → Option Entries
  | [], _ => none
  | [key], entries =>
    match entries.lookup key with
    | none => some (entries ++ [(key, .table .header [])])
    | some (.table .implied inner) => some (replace key (.table .header inner) entries)
    | some _ => none
  | key :: rest, entries =>
    match entries.lookup key with
    | none => (openTable rest []).map fun inner => entries ++ [(key, .table .implied inner)]
    | some _ => inside key entries (openTable rest)

def openElement : List Text → Entries → Option Entries
  | [], _ => none
  | [key], entries =>
    match entries.lookup key with
    | none => some (entries ++ [(key, .tables [[]])])
    | some (.tables elements) => some (replace key (.tables ([] :: elements)) entries)
    | some _ => none
  | key :: rest, entries =>
    match entries.lookup key with
    | none => (openElement rest []).map fun inner => entries ++ [(key, .table .implied inner)]
    | some _ => inside key entries (openElement rest)

end Entries
end Rdfa.Toml
