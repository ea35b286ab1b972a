import Rdfa.Settings
import Rdfa.Triple
import Rdfa.Warning

-- What processing an element leaves behind besides its scope: announcements, and blank nodes that
-- were named on the way.
namespace Rdfa.Element

-- `minted` counts the nodes named so far. `labels` maps labels written in the document to nodes of
-- the same series, so the two kinds cannot meet.
structure Nodes where
  minted : Nat
  labels : List (Text × Text)
deriving Repr, DecidableEq

def Nodes.none : Nodes := ⟨0, []⟩

def Nodes.name (number : Nat) : Text := "_:b".toList ++ Text.decimal number

-- `sent` is in the order of announcement.
structure Output where
  nodes : Nodes
  sent : List Emission
deriving Repr, DecidableEq

abbrev Work := StateM Output

def send (emissions : List Emission) : Work Unit :=
  modify fun output => { output with sent := output.sent ++ emissions }

def mint : Work Text := do
  let output ← get
  set { output with nodes := { output.nodes with minted := output.nodes.minted + 1 } }
  return Nodes.name output.nodes.minted

def nodeOf (label : Text) : Work Text := do
  match (← get).nodes.labels.lookup label with
  | some node => return node
  | none =>
    let node ← mint
    modify fun output =>
      { output with nodes := { output.nodes with labels := (label, node) :: output.nodes.labels } }
    return node

def link (subject predicate object : Text) : RawTriple :=
  { subject, predicate, object, code := Code.iri, datatype := none, language := none }

-- A statement whose object is a literal; without a datatype it is plain.
def literal (subject predicate value : Text) (datatype language : Option Text) : RawTriple :=
  match datatype with
  | some datatype =>
    { subject, predicate, object := value,
      code := if datatype = Vocabulary.xmlLiteral then Code.xmlLiteral else Code.typedLiteral,
      datatype := some datatype, language := none }
  | none =>
    { subject, predicate, object := value, code := Code.plainLiteral, datatype := none, language }

def prefixReport (name iri : Text) : RawTriple :=
  { subject := "@prefix".toList, predicate := name, object := iri, code := Code.namespaceIri,
    datatype := none, language := none }

def warn (processing : Processing) (warning : Warning) : Work Unit := do
  if processing.announceWarnings then
    let node ← mint
    send [⟨.processor, link node Vocabulary.rdfType warning.kind.iri⟩,
      ⟨.processor, literal node Vocabulary.description warning.message none none⟩]

end Rdfa.Element
