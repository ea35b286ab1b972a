import Rdfa.Element.Rules

-- Open elements on a stack, innermost first. Tokens go in, announcements come out; an element's
-- text is the text of everything inside it.
namespace Rdfa.Document

structure Frame where
  name : Bytes
  -- The scope of the element's children.
  scope : Scope
  pending : Option Element.PendingLiteral
deriving Repr, DecidableEq

inductive Flaw where
  | markup (flaw : Markup.Flaw)
  | attributes (flaw : Markup.AttributeFlaw)
  | tooDeep (limit : Nat)
  | mismatched (expected found : Bytes)
  | unexpected (found : Bytes)
deriving Repr, DecidableEq

def Flaw.message : Flaw → Text
  | markup flaw => flaw.message
  | attributes flaw => flaw.message
  | tooDeep limit => "elements nested deeper than ".toList ++ Text.decimal limit
  | mismatched expected found => "mismatched end tag: expected </".toList ++ Utf8.decode expected ++
      ">, found </".toList ++ Utf8.decode found ++ ">".toList
  | unexpected found => "unexpected end tag </".toList ++ Utf8.decode found ++ ">".toList

structure Malformation where
  position : Nat
  flaw : Flaw
deriving Repr, DecidableEq

def voidNames : List Bytes :=
  ["area", "base", "br", "col", "embed", "hr", "img", "input", "link", "meta", "param", "source",
    "track", "wbr"].map Markup.ascii

def isVoid (name : Bytes) : Bool := voidNames.any (Markup.sameLetters name)

-- `origin` is the base the document was opened with, `base` the one in force.
structure Processor where
  origin : Text
  base : Text
  stack : List Frame
  nodes : Element.Nodes
deriving Repr, DecidableEq

namespace Processor

def initial (base : Text) : Processor := ⟨base, base, [], .none⟩

-- A flaw undoes nothing: what was reached and announced before it was noticed stays.
structure Refusal where
  malformation : Malformation
  processor : Processor
  sent : List Emission
deriving Repr, DecidableEq

abbrev Step := Except Refusal (Processor × List Emission)

def refusal (p : Processor) (position : Nat) (flaw : Flaw) : Refusal := ⟨⟨position, flaw⟩, p, []⟩

def isBaseName (name : Bytes) : Bool :=
  Markup.sameLetters (Markup.localName name) (Markup.ascii "base")

-- A `base` element moves the base, for its own attributes too.
def rebase (p : Processor) (name : Bytes) (attributes : Element.Attributes) : Processor :=
  match isBaseName name, attributes.href with
  | true, some href => { p with base := Iri.resolve p.base href }
  | _, _ => p

def place (p : Processor) : Element.Place :=
  match p.stack with
  | [] => { base := p.base, parent := Scope.root p.origin, isRoot := true }
  | frame :: _ => { base := p.base, parent := frame.scope, isRoot := false }

def enter (processing : Processing) (p : Processor) (name : Bytes)
    (attributes : Element.Attributes) : Processor × List Emission :=
  let p := p.rebase name attributes
  let ((scope, pending), output) :=
    (Element.process processing p.place attributes).run ⟨p.nodes, []⟩
  ({ p with stack := ⟨name, scope, pending⟩ :: p.stack, nodes := output.nodes }, output.sent)

-- A start tag. The depth is looked at before the attributes.
def openElement (processing : Processing) (p : Processor) (position : Nat) (tag : Markup.Tag) :
    Step :=
  if processing.maxDepth ≤ p.stack.length then
    .error (p.refusal position (.tooDeep processing.maxDepth))
  else
    match tag.attributes with
    | .error flaw => .error (p.refusal position (.attributes flaw))
    | .ok attributes => .ok (p.enter processing tag.name (.ofMarkup attributes))

def closeTop (p : Processor) : Processor × List Emission :=
  match p.stack with
  | [] => (p, [])
  | frame :: rest => ({ p with stack := rest }, frame.pending.elim [] (·.emissions))

def thenClose (step : Step) : Step :=
  step.map fun (p, sent) => (p.closeTop.1, sent ++ p.closeTop.2)

-- Letter case does not matter where void elements are known.
def answers (processing : Processing) (frame : Frame) (name : Bytes) : Bool :=
  frame.name = name || (processing.voidElements && Markup.sameLetters frame.name name)

def closeElement (processing : Processing) (p : Processor) (position : Nat) (name : Bytes) : Step :=
  let tolerated := processing.voidElements && isVoid (Markup.lastName name)
  match p.stack with
  | [] => if tolerated then .ok (p, []) else .error (p.refusal position (.unexpected name))
  | frame :: _ =>
    if answers processing frame name then .ok p.closeTop
    else if tolerated then .ok (p, [])
    else .error (p.refusal position (.mismatched frame.name name))

def appendText (p : Processor) (text : Text) : Processor :=
  { p with stack := p.stack.map fun frame =>
    { frame with pending := frame.pending.map (·.append text) } }

def step (processing : Processing) (p : Processor) (item : Markup.Item) : Step :=
  match item.token with
  | .opening tag =>
    let opened := p.openElement processing item.position tag
    if processing.voidElements && isVoid (Markup.localName tag.name) then thenClose opened
    else opened
  | .standalone tag => thenClose (p.openElement processing item.position tag)
  | .closing name => p.closeElement processing item.position name
  | .text bytes => .ok (p.appendText (Element.decodeText bytes), [])
  | .cdata bytes => .ok (p.appendText (Utf8.decode bytes), [])
  | .aside => .ok (p, [])

def remaining (p : Processor) : List Emission :=
  p.stack.flatMap fun frame => frame.pending.elim [] (·.emissions)

def ending (processing : Processing) (p : Processor) : Element.Work Unit :=
  if p.stack.length = 0 then pure () else Element.warn processing (.unclosedElements p.stack.length)

def finish (processing : Processing) (p : Processor) : List Emission :=
  p.remaining ++ ((p.ending processing).run ⟨p.nodes, []⟩).2.sent

end Processor
end Rdfa.Document
