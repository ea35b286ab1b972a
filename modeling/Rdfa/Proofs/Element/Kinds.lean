import Rdfa.Proofs.Element.Renaming
import Rdfa.Proofs.Vocabulary

-- What the terms of a document may be like, by the places where they stand. Any choice of kinds that the
-- document's own texts respect is kept by all that is read from it.
namespace Rdfa.Element

structure Kinds where
  -- What references are read against; a vocabulary is one too.
  base : Text → Prop
  -- What names something: a subject, or an object that is no literal.
  node : Text → Prop
  -- What stands where only IRIs belong: a predicate or a datatype.
  word : Text → Prop
  -- What a declared prefix stands for.
  declared : Text → Prop
  language : Text → Prop

def Kinds.any : Kinds where
  base _ := True
  node _ := True
  word _ := True
  declared _ := True
  language _ := True

-- All that an element declares, by `xmlns` and by `prefix`.
def Attributes.declared (attributes : Attributes) : List (Text × Text) :=
  attributes.namespaces ++ (Declaration.declarations (attributes.prefixes.getD [])).map
    fun d => (d.name, d.namespaceIri)

def Attributes.types (attributes : Attributes) : List Text := Text.words (attributes.type.getD [])

def Attributes.terms (attributes : Attributes) : List Text :=
  [attributes.rel, attributes.rev, attributes.property].flatMap
      (fun value => Text.words (value.getD [])) ++
    (attributes.datatype.map Text.trim).toList

theorem Attributes.tokens_eq (attributes : Attributes) :
    attributes.tokens = attributes.types ++ attributes.terms := by
  simp [tokens, types, terms]

-- All that may be read as a CURIE and is no token.
def Attributes.named (attributes : Attributes) : List Text :=
  attributes.about.toList ++ attributes.resource.toList

def Attributes.references (attributes : Attributes) : List Text :=
  attributes.vocab.toList ++ attributes.href.toList ++ attributes.src.toList ++ attributes.named

end Element

structure Scope.Sound (kinds : Element.Kinds) (scope : Scope) : Prop where
  subject : kinds.node scope.parentSubject
  object : ∀ node ∈ scope.parentObject, kinds.node node
  incomplete : ∀ waiting ∈ scope.incomplete, kinds.word waiting.predicate
  language : ∀ language ∈ scope.language, kinds.language language
  vocabulary : ∀ iri ∈ scope.vocabulary, kinds.base iri
  prefixes : ∀ name namespaceIri, scope.prefixes.lookup name = some namespaceIri →
    kinds.declared namespaceIri

theorem Scope.Sound.any (scope : Scope) : scope.Sound .any := by
  constructor <;> intros <;> trivial

structure Triple.Fits (kinds : Element.Kinds) (triple : Triple) : Prop where
  subject : kinds.node triple.subject
  predicate : kinds.word triple.predicate
  object : triple.kind ≠ .literal → kinds.node triple.object
  datatype : ∀ datatype ∈ triple.datatype, kinds.word datatype
  language : ∀ language ∈ triple.language, kinds.language language

def Emission.Fits (kinds : Element.Kinds) (emission : Emission) : Prop :=
  ∀ triple, emission.triple.delivery? = some (.triple triple) → triple.Fits kinds

namespace Element

-- Whatever such tokens are read as holds, apart from the terms that need no declaration.
structure Kinds.Reads (kinds : Kinds) (tokens : List Text) (holds : Text → Prop) : Prop where
  -- What a prefix stands for, with a part of the token after it.
  prefixed : ∀ token ∈ tokens, ∀ namespaceIri,
    kinds.declared namespaceIri ∨ namespaceIri ∈ Vocabulary.namespaces →
      ∀ reference, reference <:+: token → holds (namespaceIri ++ reference)
  inVocabulary : ∀ token ∈ tokens, ∀ vocabulary, kinds.base vocabulary → holds (vocabulary ++ token)
  absolute : ∀ token ∈ tokens, Iri.isAbsolute token = true → holds token
  label : ∀ token ∈ tokens, isLabel token = true → holds token

theorem Kinds.Reads.mono {kinds : Kinds} {tokens : List Text} {holds further : Text → Prop}
    (reads : kinds.Reads tokens holds) (wider : ∀ term, holds term → further term) :
    kinds.Reads tokens further where
  prefixed token written namespaceIri known reference part :=
    wider _ (reads.prefixed token written namespaceIri known reference part)
  inVocabulary token written vocabulary based := wider _ (reads.inVocabulary token written vocabulary based)
  absolute token written absolute := wider _ (reads.absolute token written absolute)
  label token written label := wider _ (reads.label token written label)

-- Kinds that contain what the rules add themselves, and all that they read in tags like these.
structure Kinds.Cover (kinds : Kinds) (tags : List Attributes) : Prop where
  node_of_base : ∀ term, kinds.base term → kinds.node term
  own : ∀ term ∈ Vocabulary.own, kinds.word term ∧ kinds.node term
  minted : ∀ number, kinds.node (Nodes.name number)
  declared : ∀ attributes ∈ tags, ∀ pair ∈ attributes.declared, Scope.isPrefixName pair.1 = true →
    kinds.declared pair.2
  language : ∀ attributes ∈ tags, ∀ language ∈ attributes.language, language ≠ [] →
    kinds.language language
  reference : ∀ attributes ∈ tags, ∀ value ∈ attributes.references, ∀ base, kinds.base base →
    kinds.base (Iri.resolve base value)
  types : ∀ attributes ∈ tags, kinds.Reads attributes.types kinds.node
  terms : ∀ attributes ∈ tags, kinds.Reads attributes.terms kinds.word
  named : ∀ attributes ∈ tags, ∀ value ∈ attributes.named, ∀ namespaceIri,
    kinds.declared namespaceIri ∨ namespaceIri ∈ Vocabulary.namespaces →
      ∀ reference, reference <:+: value → kinds.node (namespaceIri ++ reference)

theorem Kinds.Cover.any (tags : List Attributes) : Kinds.any.Cover tags := by
  have reads (tokens : List Text) : Kinds.any.Reads tokens fun _ => True := by
    constructor <;> intros <;> trivial
  constructor
  case own => exact fun _ _ => ⟨trivial, trivial⟩
  case types => exact fun attributes _ => reads attributes.types
  case terms => exact fun attributes _ => reads attributes.terms
  all_goals intros; trivial

variable {kinds : Kinds} {tags : List Attributes}

theorem Kinds.Cover.root (cover : kinds.Cover tags) {base : Text} (based : kinds.base base) :
    (Scope.root base).Sound kinds := by
  refine ⟨cover.node_of_base base based, ?_, ?_, ?_, ?_, ?_⟩ <;> simp [Scope.root]

theorem Kinds.Cover.declare (cover : kinds.Cover tags) {attributes : Attributes}
    (tag : attributes ∈ tags) {scope : Scope} (sound : scope.Sound kinds) {pair : Text × Text}
    (listed : pair ∈ attributes.declared) {next : Scope}
    (declared : scope.declare pair.1 pair.2 = .ok next) : next.Sound kinds := by
  unfold Scope.declare at declared
  split at declared
  · cases declared
  · split at declared
    · next valid =>
      cases declared
      refine { sound with prefixes := fun name namespaceIri found => ?_ }
      rw [List.lookup_cons] at found
      split at found
      · cases found
        exact cover.declared attributes tag pair listed valid
      · exact sound.prefixes name namespaceIri found
    · cases declared

-- A label stands for itself; all else begins with what its prefix stands for.
theorem expand?_cases {scope : Scope} (sound : scope.Sound kinds) {value term : Text}
    (expanded : scope.expand? value = some term) :
    (term = value ∧ isLabel value = true) ∨ ∃ namespaceIri reference,
      term = namespaceIri ++ reference ∧ reference <:+: value ∧
        (kinds.declared namespaceIri ∨ namespaceIri ∈ Vocabulary.namespaces) := by
  unfold Scope.expand? at expanded
  split at expanded
  · cases expanded
  · next name reference cut =>
    have written : name ++ ':' :: reference = value := by
      have rejoined := Text.cut_append (congrArg Prod.snd cut)
      rwa [cut] at rejoined
    have part : reference <:+: value := ⟨name ++ [':'], [], by simp [written]⟩
    split at expanded
    · next reserved =>
      cases expanded
      refine .inl ⟨rfl, ?_⟩
      rw [← written, reserved]
      rfl
    · split at expanded
      · cases expanded
        exact .inr ⟨_, reference, rfl, part, .inr List.mem_cons_self⟩
      · obtain ⟨namespaceIri, found, rfl⟩ := Option.map_eq_some_iff.mp expanded
        refine .inr ⟨namespaceIri, reference, rfl, part, ?_⟩
        rcases Option.or_eq_some_iff.mp found with own | ⟨_, initial⟩
        · exact .inl (sound.prefixes _ _ own)
        · exact .inr (Vocabulary.mem_namespaces_of_initialPrefix? initial)

theorem Kinds.Reads.resolveToken {tokens : List Text} {holds : Text → Prop}
    (reads : kinds.Reads tokens holds) (own : ∀ term ∈ Vocabulary.own, holds term) {token : Text}
    (written : token ∈ tokens) {scope : Scope} (sound : scope.Sound kinds) {term : Text}
    (resolved : scope.resolveToken token = .ok term) : holds term := by
  unfold Scope.resolveToken at resolved
  split at resolved
  · split at resolved
    · next expanded =>
      cases resolved
      rcases expand?_cases sound expanded with ⟨rfl, label⟩ | ⟨namespaceIri, reference, rfl, part, known⟩
      · exact reads.label term written label
      · exact reads.prefixed token written namespaceIri known reference part
    · split at resolved
      · next absolute =>
        cases resolved
        exact reads.absolute _ written absolute
      · cases resolved
  · split at resolved
    · next vocabulary given =>
      cases resolved
      exact reads.inVocabulary token written vocabulary (sound.vocabulary vocabulary given)
    · split at resolved
      · next initial =>
        cases resolved
        exact own _ (Vocabulary.own_of_initialTerm? initial)
      · cases resolved

theorem bracketed?_inside {value inner : Text} (found : Scope.bracketed? value = some inner) :
    inner <:+: value := by
  obtain ⟨rest, opened, closed⟩ := Option.bind_eq_some_iff.mp found
  obtain ⟨reversed, left, rfl⟩ := Option.map_eq_some_iff.mp closed
  have ended : rest = reversed.reverse ++ [']'] := by
    simpa using congrArg List.reverse (Text.eq_append_of_after? left)
  exact ⟨['['], [']'], by rw [Text.eq_append_of_after? opened, ended]; simp⟩

theorem Kinds.Cover.resolveResource (cover : kinds.Cover tags) {attributes : Attributes}
    (tag : attributes ∈ tags) {value : Text} (written : value ∈ attributes.named) {scope : Scope}
    (sound : scope.Sound kinds) {base : Text} (based : kinds.base base) {term : Text}
    (resolved : scope.resolveResource base value = .ok term) (plain : isLabel term = false) :
    kinds.node term := by
  have curie {inner : Text} (inside : inner <:+: value) (expanded : scope.expand? inner = some term) :
      kinds.node term := by
    rcases expand?_cases sound expanded with ⟨rfl, label⟩ | ⟨namespaceIri, reference, rfl, part, known⟩
    · cases plain.symm.trans label
    · exact cover.named attributes tag value written namespaceIri known reference (part.trans inside)
  unfold Scope.resolveResource at resolved
  split at resolved
  · next inner found =>
    split at resolved
    · next expanded =>
      cases resolved
      exact curie (bracketed?_inside found) expanded
    · cases resolved
  · cases expanded : scope.expand? value with
    | some iri =>
      rw [expanded] at resolved
      cases resolved
      exact curie (List.infix_refl _) expanded
    | none =>
      rw [expanded] at resolved
      cases resolved
      exact cover.node_of_base _ (cover.reference attributes tag value
        (List.mem_append_right _ written) base based)

variable (graph : Graph)

theorem link_fits {subject predicate object : Text} (node : kinds.node subject)
    (word : kinds.word predicate) (other : kinds.node object) :
    Emission.Fits kinds ⟨graph, link subject predicate object⟩ := by
  rintro triple delivered
  cases delivered
  refine ⟨node, word, fun _ => other, fun datatype given => ?_, fun language given => ?_⟩
  · cases label : isLabel object <;> simp [RawTriple.asTriple, link, label] at given
  · cases label : isLabel object <;> simp [RawTriple.asTriple, link, label] at given

theorem literal_fits {subject predicate : Text} (value : Text) {datatype language : Option Text}
    (node : kinds.node subject) (word : kinds.word predicate)
    (typed : ∀ iri ∈ datatype, kinds.word iri) (spoken : ∀ tag ∈ language, kinds.language tag) :
    Emission.Fits kinds ⟨graph, literal subject predicate value datatype language⟩ := by
  rintro triple delivered
  cases datatype with
  | none =>
    cases delivered
    exact ⟨node, word, fun other => absurd rfl other, by rintro iri ⟨⟩, spoken⟩
  | some datatype =>
    by_cases xml : datatype = Vocabulary.xmlLiteral
    · subst xml
      cases delivered
      exact ⟨node, word, fun other => absurd rfl other, typed, by rintro tag ⟨⟩⟩
    · simp only [literal, xml, if_false] at delivered
      cases delivered
      exact ⟨node, word, fun other => absurd rfl other, typed, by rintro tag ⟨⟩⟩

theorem prefixReport_fits (name iri : Text) : Emission.Fits kinds ⟨graph, prefixReport name iri⟩ := by
  rintro triple delivered
  cases delivered

end Element
end Rdfa
