import Rdfa.Document.Processor

-- Documents as trees, and what they mean without any stack: a start tag is processed with its
-- parent's scope, then the children from left to right with the scope it hands on, then the literal
-- it left to wait is stated with all text inside the element.
namespace Rdfa.Document

structure StartTag where
  tag : Markup.Tag
  attributes : List Markup.Attribute
  read : tag.attributes = .ok attributes

-- How an element is brought to an end: by an end tag, by the slash of its own tag, or by nothing.
inductive Ending where
  | tag (name : Bytes)
  | slash
  | none

inductive Forest where
  | nil
  | text (bytes : Bytes) (rest : Forest)
  | cdata (bytes : Bytes) (rest : Forest)
  | aside (rest : Forest)
  | element (start : StartTag) (ending : Ending) (children rest : Forest)

def closesItself (processing : Processing) (name : Bytes) : Bool :=
  processing.voidElements && isVoid (Markup.localName name)

namespace Ending

def opening (ending : Ending) (start : StartTag) : Markup.Token :=
  match ending with
  | .tag _ | .none => .opening start.tag
  | .slash => .standalone start.tag

def closing : Ending → List Markup.Token
  | .tag name => [.closing name]
  | .slash | .none => []

-- The endings an element may have. Void elements have no content, and need no end tag.
inductive Fits (processing : Processing) (start : StartTag) : Ending → Forest → Prop where
  | tag {name : Bytes} {children : Forest}
      (answers : name = start.tag.name ∨
        processing.voidElements = true ∧ Markup.sameLetters start.tag.name name = true)
      (childless : closesItself processing start.tag.name = true → children = .nil) :
      Fits processing start (.tag name) children
  | slash : Fits processing start .slash .nil
  | none (void : closesItself processing start.tag.name = true) : Fits processing start .none .nil

end Ending

namespace Forest

def tokens : Forest → List Markup.Token
  | nil => []
  | text bytes rest => .text bytes :: rest.tokens
  | cdata bytes rest => .cdata bytes :: rest.tokens
  | aside rest => .aside :: rest.tokens
  | element start ending children rest =>
    ending.opening start :: (children.tokens ++ (ending.closing ++ rest.tokens))

-- A forest inside `depth` open elements that can be written down: nowhere too deep, and every element
-- ended in a way it may be.
def WellFormed (processing : Processing) : Nat → Forest → Prop
  | _, nil => True
  | depth, text _ rest | depth, cdata _ rest | depth, aside rest => rest.WellFormed processing depth
  | depth, element start ending children rest =>
    depth < processing.maxDepth ∧ ending.Fits processing start children ∧
      children.WellFormed processing (depth + 1) ∧ rest.WellFormed processing depth

-- What evaluating a forest leaves behind; `texts` is all text inside it, in document order.
structure Evaluated where
  base : Text
  nodes : Element.Nodes
  sent : List Emission
  texts : List Text

def baseFrom (base : Text) (start : StartTag) : Text :=
  if Processor.isBaseName start.tag.name then
    ((Element.Attributes.ofMarkup start.attributes).href.map (Iri.resolve base)).getD base
  else base

def complete (waiting : Option Element.PendingLiteral) (text : Text) : List Emission :=
  match waiting with
  | Option.none => []
  | some literal =>
    literal.predicates.map fun predicate =>
      ⟨.default, Element.literal literal.subject predicate text literal.datatype literal.language⟩

def evaluate (processing : Processing) : Forest → Element.Place → Element.Nodes → Evaluated
  | nil, place, nodes => ⟨place.base, nodes, [], []⟩
  | text bytes rest, place, nodes =>
    let later := rest.evaluate processing place nodes
    { later with texts := Element.decodeText bytes :: later.texts }
  | cdata bytes rest, place, nodes =>
    let later := rest.evaluate processing place nodes
    { later with texts := Utf8.decode bytes :: later.texts }
  | aside rest, place, nodes => rest.evaluate processing place nodes
  | element start _ children rest, place, nodes =>
    let place := { place with base := baseFrom place.base start }
    let ((scope, waiting), entered) :=
      (Element.process processing place (.ofMarkup start.attributes)).run ⟨nodes, []⟩
    let inside := children.evaluate processing ⟨place.base, scope, false⟩ entered.nodes
    let later := rest.evaluate processing { place with base := inside.base } inside.nodes
    { base := later.base
      nodes := later.nodes
      sent := entered.sent ++ inside.sent ++ complete waiting inside.texts.flatten ++ later.sent
      texts := inside.texts ++ later.texts }

def evaluateDocument (processing : Processing) (base : Text) (forest : Forest) : Evaluated :=
  forest.evaluate processing ⟨base, Scope.root base, true⟩ .none

end Forest
end Rdfa.Document
