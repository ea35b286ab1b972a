import Rdfa.Proofs.Iri.Characters
import Rdfa.Proofs.Session.WellFormed
import Rdfa.Proofs.Triple.OneLine

-- What of a run can be written as N-Triples and read again: every triple whose terms the grammar allows,
-- which are all if the document itself uses no other characters.
namespace Rdfa

open Document Element NTriples

-- Tags that declare and name nothing that a statement cannot hold as it is.
structure Element.Legible (tags : List Attributes) : Prop extends Strict tags where
  namespaces : ∀ namespaceIri, Declares tags namespaceIri → ∀ c ∈ namespaceIri, isIriChar c = true
  references : ∀ attributes ∈ tags, ∀ value ∈ attributes.references, ∀ c ∈ value, isIriChar c = true
  tokens : ∀ attributes ∈ tags, ∀ token ∈ attributes.tokens, ∀ c ∈ token, isIriChar c = true
  types : ∀ attributes ∈ tags, ∀ token ∈ attributes.types, isLabel token = false
  languages : ∀ attributes ∈ tags, ∀ language ∈ attributes.language, language ≠ [] →
    isLanguage language = true

-- The kinds of terms of legible tags. The only labels are those of nodes the rules named.
def Element.Kinds.plain : Kinds where
  base := IsPlainIri
  node text := IsPlainIri text ∨ ∃ number, text = Nodes.name number
  word := IsPlainIri
  declared := IsPlainIri
  language text := isLanguage text = true

theorem IsPlainIri.append {text rest : Text} (plain : IsPlainIri text)
    (chars : ∀ c ∈ rest, isIriChar c = true) : IsPlainIri (text ++ rest) :=
  ⟨Iri.isAbsolute_append plain.1 rest, List.forall_mem_append.mpr ⟨plain.2, chars⟩⟩

theorem IsPlainIri.resolve {base reference : Text} (plain : IsPlainIri base)
    (chars : ∀ c ∈ reference, isIriChar c = true) : IsPlainIri (Iri.resolve base reference) :=
  ⟨Iri.isAbsolute_resolve plain.1 reference, Iri.resolve_all (by decide) plain.2 chars⟩

theorem IsPlainIri.of_namespace {namespaceIri reference value : Text}
    (known : IsPlainIri namespaceIri ∨ namespaceIri ∈ Vocabulary.namespaces)
    (part : reference <:+: value) (chars : ∀ c ∈ value, isIriChar c = true) :
    IsPlainIri (namespaceIri ++ reference) := by
  have plain : IsPlainIri namespaceIri := by
    rcases known with declared | initial
    · exact declared
    · exact Vocabulary.isPlainIri_namespaces namespaceIri initial
  exact plain.append fun c present => chars c (part.subset present)

theorem Element.Kinds.plain_reads {tokens : List Text}
    (chars : ∀ token ∈ tokens, ∀ c ∈ token, isIriChar c = true)
    (unlabelled : ∀ token ∈ tokens, isLabel token = false) : Kinds.plain.Reads tokens IsPlainIri where
  prefixed token written _ known _ part := .of_namespace known part (chars token written)
  inVocabulary token written _ plain := plain.append (chars token written)
  absolute token written absolute := ⟨absolute, chars token written⟩
  label token written label := by cases (unlabelled token written).symm.trans label

theorem Element.Legible.cover {tags : List Attributes} (legible : Legible tags) :
    Kinds.plain.Cover tags where
  node_of_base _ plain := .inl plain
  own term known :=
    have plain := Vocabulary.isPlainIri_own term known
    ⟨plain, .inl plain⟩
  minted number := .inr ⟨number, rfl⟩
  declared attributes tag pair listed valid :=
    have known : Declares tags pair.2 := ⟨attributes, tag, pair.1, listed, valid⟩
    ⟨legible.declared _ known, legible.namespaces _ known⟩
  language := legible.languages
  reference attributes tag value listed _ plain :=
    plain.resolve (legible.references attributes tag value listed)
  types attributes tag := by
    have reads : Kinds.plain.Reads attributes.types IsPlainIri := by
      refine Kinds.plain_reads (fun token written => ?_) (legible.types attributes tag)
      refine legible.tokens attributes tag token ?_
      rw [Attributes.tokens_eq]
      exact List.mem_append_left _ written
    exact reads.mono fun _ => .inl
  terms attributes tag := by
    refine Kinds.plain_reads (fun token written => ?_) fun token written => ?_
    · refine legible.tokens attributes tag token ?_
      rw [Attributes.tokens_eq]
      exact List.mem_append_right _ written
    · exact Bool.eq_false_iff.mpr fun label =>
        legible.unlabelled ⟨attributes, tag, token, written, label⟩
  named attributes tag value written _ known _ part :=
    .inl (.of_namespace known part
      (legible.references attributes tag value (List.mem_append_right _ written)))

theorem IsPlainIri.isNode {text : Text} (plain : IsPlainIri text) : isNode text = true := by
  rw [NTriples.isNode, Iri.isLabel_of_isAbsolute plain.1]
  simpa using plain.2

theorem NTriples.isLabelChar_of_isDigit {c : Char} (digit : c.isDigit = true) :
    isLabelChar c = true := by
  obtain ⟨least, most⟩ := Char.isDigit_iff_toNat.mp digit
  have start : isLabelStart c = true :=
    Text.inRanges_iff.mpr ⟨_, List.mem_cons_self, least, Nat.le_succ_of_le most⟩
  rw [isLabelChar, start, Bool.true_or]

theorem Element.Nodes.isNode_name (number : Nat) : isNode (Nodes.name number) = true := by
  have digits : ∀ c ∈ Text.decimal number, isLabelChar c = true := fun c inside =>
    isLabelChar_of_isDigit (Nat.isDigit_of_mem_toDigits (by decide) (by decide) inside)
  have last : (Text.decimal number).getLast? ≠ some '.' := by
    intro dot
    exact absurd (digits '.' (List.mem_of_getLast? dot)) (by decide)
  have label : isBlankNodeLabel ('_' :: ':' :: 'b' :: Text.decimal number) = true := by
    have start : isLabelStart 'b' = true := by decide
    simp only [isBlankNodeLabel, start, Bool.true_and, Bool.and_eq_true, List.all_eq_true,
      decide_eq_true_eq]
    exact ⟨fun c inside => by rw [digits c inside]; rfl, last⟩
  exact label

theorem Triple.Fits.clean {triple : Triple} (fits : triple.Fits .plain) : triple.Clean := by
  have named {text : Text} (node : Kinds.plain.node text) : isNode text = true := by
    rcases node with plain | ⟨number, rfl⟩
    · exact plain.isNode
    · exact Nodes.isNode_name number
  refine ⟨named fits.subject, ⟨Iri.isLabel_of_isAbsolute fits.predicate.1, ?_⟩, ?_, ?_, fits.language⟩
  · exact List.all_eq_true.mpr fits.predicate.2
  · exact fun other => named (fits.object other)
  · exact fun datatype given => List.all_eq_true.mpr (fits.datatype datatype given).2

theorem Triple.shaped_of_literal {triple : Triple} (literal : triple.kind = .literal)
    (one : triple.datatype = none ∨ triple.language = none) : triple.Shaped := by
  refine ⟨?_, ?_, fun other => absurd literal other, one⟩
  · intro kind
    cases literal.symm.trans kind
  · intro kind
    cases literal.symm.trans kind

theorem Announceable.shaped {raw : RawTriple} (announceable : Announceable raw) {triple : Triple}
    (meant : raw.delivery? = some (.triple triple)) : triple.Shaped := by
  cases announceable with
  | link subject predicate object =>
    cases meant
    refine (Triple.shaped_iff_of_node ?_).mpr ⟨rfl, ?_, ?_⟩
    all_goals cases label : isLabel object <;> simp [RawTriple.asTriple, Element.link, label]
  | literal subject predicate value datatype language =>
    cases datatype with
    | none =>
      cases meant
      exact Triple.shaped_of_literal rfl (.inl rfl)
    | some datatype =>
      by_cases xml : datatype = Vocabulary.xmlLiteral
      · subst xml
        cases meant
        exact Triple.shaped_of_literal rfl (.inr rfl)
      · simp only [Element.literal, xml, if_false] at meant
        cases meant
        exact Triple.shaped_of_literal rfl (.inr rfl)
  | prefixReport name iri => cases meant

namespace Session

-- A delivered triple is read back from its line exactly if its terms are grammatical, and then the line
-- is one line. In a legible document, opened at a base that can be written, every delivered triple is.
theorem run_written {κ : Type} [Consumer κ] {base : Text} {settings : Settings} {s : Session κ}
    (opened : openWith base settings = .ok s) (consumer : κ) {document : Bytes}
    (read : document = Extractor.document (Exchange.pieces (s.bind consumer).run.calls))
    {graph : Graph} {triple : Triple} {answer : Except Text Unit}
    (heard : .received graph triple answer ∈ (s.bind consumer).contacts) :
    (read? (line triple) = some triple ↔ triple.Clean) ∧
      (triple.Clean → ∀ c ∈ line triple, isBreak c = false) ∧
      (Legible (tags document) → (∀ c ∈ base, isIriChar c = true) → triple.Clean) := by
  obtain ⟨x, rfl, absolute, emission, sent, meant⟩ := received_sent opened consumer read heard
  have announced : (x.whole document).Announces := ((Extractor.announces_initial x.base).read _).close
  have shaped := (announced emission sent).shaped meant
  refine ⟨read?_line_iff.trans (and_iff_right shaped), fun clean => ?_, fun legible plain => ?_⟩
  · exact read?_one_line (read?_line_iff.mpr ⟨shaped, clean⟩)
  · exact (Extractor.fits_whole legible.cover ⟨absolute, plain⟩ emission sent triple meant).clean

-- `<p about="s" lang="en" property="u:p" content="&quot;&#10;"/>`: a quotation mark and a line's end.
def quoting : Bytes :=
  Markup.ascii "<p about=\"s\" lang=\"en\" property=\"u:p\" content=\"&quot;&#10;\"/>"

def quotingTag : Attributes :=
  ⟨[("about".toList, "s".toList), ("lang".toList, "en".toList), ("property".toList, "u:p".toList),
    ("content".toList, ['"', '\n'])]⟩

def quotingHeard : Triple :=
  ⟨"http://e/s".toList, "u:p".toList, ['"', '\n'], .literal, none, some "en".toList⟩

theorem quoting_tags : tags quoting = [quotingTag] := by decide +kernel

theorem quoting_legible : Legible (tags quoting) := by
  have undeclared (namespaceIri : Text) : ¬ Declares [quotingTag] namespaceIri := by
    rintro ⟨attributes, tag, name, listed, _⟩
    cases List.mem_singleton.mp tag
    have nothing : quotingTag.declared = [] := by decide +kernel
    rw [nothing] at listed
    cases listed
  rw [quoting_tags]
  refine ⟨⟨fun _ declared => absurd declared (undeclared _), ?_⟩,
    fun _ declared => absurd declared (undeclared _), ?_, ?_, ?_, ?_⟩
  · unfold Labels
    decide +kernel
  · decide +kernel
  · decide +kernel
  · decide +kernel
  · decide +kernel

theorem quoting_written :
    openWith "http://e/".toList {} = .ok (extracting "http://e/".toList {} : Session Playback) ∧
      .received .default quotingHeard (.ok ()) ∈ heardOf quoting ∧
      Legible (tags (readOf quoting)) ∧
      read? (line quotingHeard) = some quotingHeard ∧ ∀ c ∈ line quotingHeard, isBreak c = false := by
  have opened : openWith "http://e/".toList {} =
      .ok (extracting "http://e/".toList {} : Session Playback) :=
    openWith_eq_ok_iff.mpr ⟨by decide, rfl⟩
  have heard : .received .default quotingHeard (.ok ()) ∈ heardOf quoting :=
    mem_heardOf (by unfold Fitting; decide)
      ⟨.default, literal "http://e/s".toList "u:p".toList ['"', '\n'] none (some "en".toList)⟩ rfl
      (by decide +kernel)
  have whole : readOf quoting = quoting := by decide +kernel
  have legible : Legible (tags (readOf quoting)) := by
    rw [whole]
    exact quoting_legible
  obtain ⟨reads, single, clean⟩ := run_written opened _ rfl heard
  have written := clean legible (by decide)
  exact ⟨opened, heard, legible, reads.mpr written, single written⟩

-- `<p about="x&gt; &lt;u:p&gt; &lt;u:o&gt; . #" property="u:q" content="c"/>`: the subject ends its term
-- and adds a statement of its own.
def injecting : Bytes :=
  Markup.ascii "<p about=\"x&gt; &lt;u:p&gt; &lt;u:o&gt; . #\" property=\"u:q\" content=\"c\"/>"

def injectingHeard : Triple :=
  ⟨"http://e/x> <u:p> <u:o> . #".toList, "u:q".toList, "c".toList, .literal, none, none⟩

def injected : Triple :=
  ⟨"http://e/x".toList, "u:p".toList, "u:o".toList, .resource, none, none⟩

theorem injecting_reads_otherwise :
    .received .default injectingHeard (.ok ()) ∈ heardOf injecting ∧
      read? (line injectingHeard) = some injected ∧ injected ≠ injectingHeard := by
  refine ⟨mem_heardOf (by unfold Fitting; decide) ⟨.default, literal injectingHeard.subject
    "u:q".toList "c".toList none none⟩ rfl ?_, ?_, by decide⟩
  · decide +kernel
  · decide +kernel

end Session
end Rdfa
