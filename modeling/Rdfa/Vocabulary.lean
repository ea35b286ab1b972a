import Rdfa.Text.Basic

-- The IRIs the processing rules mention, and the prefixes and terms every document starts with.
namespace Rdfa.Vocabulary

def rdfType : Text := "http://www.w3.org/1999/02/22-rdf-syntax-ns#type".toList

def xmlLiteral : Text := "http://www.w3.org/1999/02/22-rdf-syntax-ns#XMLLiteral".toList

def usesVocabulary : Text := "http://www.w3.org/ns/rdfa#usesVocabulary".toList

def description : Text := "http://purl.org/dc/terms/description".toList

def xhtml : Text := "http://www.w3.org/1999/xhtml/vocab#".toList

def initialPrefixes : List (String × String) := [
  ("as", "https://www.w3.org/ns/activitystreams#"),
  ("cc", "http://creativecommons.org/ns#"),
  ("csvw", "http://www.w3.org/ns/csvw#"),
  ("ctag", "http://commontag.org/ns#"),
  ("dc", "http://purl.org/dc/terms/"),
  ("dc11", "http://purl.org/dc/elements/1.1/"),
  ("dcat", "http://www.w3.org/ns/dcat#"),
  ("dcterms", "http://purl.org/dc/terms/"),
  ("dqv", "http://www.w3.org/ns/dqv#"),
  ("duv", "https://www.w3.org/ns/duv#"),
  ("foaf", "http://xmlns.com/foaf/0.1/"),
  ("gr", "http://purl.org/goodrelations/v1#"),
  ("grddl", "http://www.w3.org/2003/g/data-view#"),
  ("ical", "http://www.w3.org/2002/12/cal/icaltzd#"),
  ("jsonld", "http://www.w3.org/ns/json-ld#"),
  ("ldp", "http://www.w3.org/ns/ldp#"),
  ("ma", "http://www.w3.org/ns/ma-ont#"),
  ("oa", "http://www.w3.org/ns/oa#"),
  ("odrl", "http://www.w3.org/ns/odrl/2/"),
  ("og", "http://ogp.me/ns#"),
  ("org", "http://www.w3.org/ns/org#"),
  ("owl", "http://www.w3.org/2002/07/owl#"),
  ("prov", "http://www.w3.org/ns/prov#"),
  ("qb", "http://purl.org/linked-data/cube#"),
  ("rdf", "http://www.w3.org/1999/02/22-rdf-syntax-ns#"),
  ("rdfa", "http://www.w3.org/ns/rdfa#"),
  ("rdfs", "http://www.w3.org/2000/01/rdf-schema#"),
  ("rev", "http://purl.org/stuff/rev#"),
  ("rif", "http://www.w3.org/2007/rif#"),
  ("rr", "http://www.w3.org/ns/r2rml#"),
  ("schema", "http://schema.org/"),
  ("sd", "http://www.w3.org/ns/sparql-service-description#"),
  ("sioc", "http://rdfs.org/sioc/ns#"),
  ("skos", "http://www.w3.org/2004/02/skos/core#"),
  ("skosxl", "http://www.w3.org/2008/05/skos-xl#"),
  ("sosa", "http://www.w3.org/ns/sosa/"),
  ("ssn", "http://www.w3.org/ns/ssn/"),
  ("time", "http://www.w3.org/2006/time#"),
  ("v", "http://rdf.data-vocabulary.org/#"),
  ("vcard", "http://www.w3.org/2006/vcard/ns#"),
  ("void", "http://rdfs.org/ns/void#"),
  ("wdr", "http://www.w3.org/2007/05/powder#"),
  ("wdrs", "http://www.w3.org/2007/05/powder-s#"),
  ("xhv", "http://www.w3.org/1999/xhtml/vocab#"),
  ("xml", "http://www.w3.org/XML/1998/namespace"),
  ("xsd", "http://www.w3.org/2001/XMLSchema#")]

-- Terms that need no vocabulary; their letter case does not matter.
def initialTerms : List (String × String) := [
  ("describedby", "http://www.w3.org/2007/05/powder-s#describedby"),
  ("license", "http://www.w3.org/1999/xhtml/vocab#license"),
  ("role", "http://www.w3.org/1999/xhtml/vocab#role")]

def initialPrefix? (name : Text) : Option Text :=
  (initialPrefixes.find? fun entry => entry.1.toList = name).map fun entry => entry.2.toList

def initialTerm? (name : Text) : Option Text :=
  (initialTerms.find? fun entry => entry.1.toList = name).map fun entry => entry.2.toList

end Rdfa.Vocabulary
