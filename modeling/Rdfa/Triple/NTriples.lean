import Rdfa.Triple

-- One statement on one line of N-Triples.
namespace Rdfa.NTriples

def escaped (c : Char) : Text :=
  if c = '"' then ['\\', '"']
  else if c = '\\' then ['\\', '\\']
  else if c = '\n' then ['\\', 'n']
  else if c = '\r' then ['\\', 'r']
  else if c = '\t' then ['\\', 't']
  else [c]

def term (text : Text) : Text := if isLabel text then text else '<' :: text ++ ['>']

-- What follows the closing quotation mark of a literal. A language goes before a datatype.
def annotation (datatype language : Option Text) : Text :=
  match language, datatype with
  | some language, _ => '@' :: language
  | none, some datatype => ['^', '^', '<'] ++ datatype ++ ['>']
  | none, none => []

def object (triple : Triple) : Text :=
  match triple.kind with
  | .resource | .blankNode => term triple.object
  | .literal =>
    '"' :: triple.object.flatMap escaped ++ '"' :: annotation triple.datatype triple.language

def line (triple : Triple) : Text :=
  term triple.subject ++ ' ' :: term triple.predicate ++ ' ' :: object triple ++ [' ', '.']

end Rdfa.NTriples
