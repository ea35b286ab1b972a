import Rdfa.Entity
import Rdfa.Markup.Attribute

-- The attributes of one element by meaning. Names are compared without regard to ASCII letter case,
-- and of two attributes with one name the first counts.
namespace Rdfa.Element

-- Names in small letters and values with their references decoded, in document order.
structure Attributes where
  pairs : List (Text × Text)
deriving Repr, DecidableEq

def decodeText (bytes : Bytes) : Text := Entity.decode (Utf8.decode bytes)

namespace Attributes

def ofMarkup (attributes : List Markup.Attribute) : Attributes :=
  ⟨attributes.map fun a => (Text.asciiLower (Utf8.decode a.key), decodeText a.value)⟩

def first? (attributes : Attributes) (name : String) : Option Text :=
  attributes.pairs.lookup name.toList

def last? (attributes : Attributes) (name : String) : Option Text :=
  attributes.pairs.reverse.lookup name.toList

variable (attributes : Attributes)

def about := attributes.first? "about"
def resource := attributes.first? "resource"
def href := attributes.first? "href"
def src := attributes.first? "src"
def type := attributes.first? "typeof"
def property := attributes.first? "property"
def content := attributes.first? "content"
def datatype := attributes.first? "datatype"
def rel := attributes.first? "rel"
def rev := attributes.first? "rev"
def vocab := attributes.first? "vocab"
def prefixes := attributes.first? "prefix"

-- `xml:lang` counts before `lang`, wherever they stand.
def language : Option Text := (attributes.last? "xml:lang").or (attributes.first? "lang")

def namespaces : List (Text × Text) :=
  attributes.pairs.filterMap fun pair =>
    (Text.after? "xmlns:".toList pair.1).map fun name => (name, pair.2)

def hasRelation : Bool := attributes.rel.isSome || attributes.rev.isSome

end Attributes
end Rdfa.Element
