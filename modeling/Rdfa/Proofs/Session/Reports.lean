import Rdfa.Proofs.Document.Hushed
import Rdfa.Proofs.Element.Renumbering
import Rdfa.Proofs.Session.Delivery
import Rdfa.Proofs.Session.Streaming

-- What a host asks to be told besides the facts does not touch the facts. Without declared prefixes
-- the calls are the same but for those that told of them; without warnings the nodes are counted
-- differently, and that is all.
namespace Rdfa

open Document Element

namespace Contact

def isDeclared : Contact → Bool
  | .declared _ _ _ => true
  | .produced _ _ | .received _ _ _ => false

def fact? : Contact → Option Triple
  | .received .default triple _ => some triple
  | .received .processor _ _ | .produced _ _ | .declared _ _ _ => none

def facts (contacts : List Contact) : List Triple := contacts.filterMap fact?

theorem facts_deliveries (contacts : List Contact) :
    facts (contacts.filter (!·.isProduction)) = facts contacts := by
  induction contacts with
  | nil => rfl
  | cons contact rest ih =>
    cases contact with
    | produced size answer => exact ih
    | received graph triple answer =>
      cases graph with
      | default => exact congrArg (triple :: ·) ih
      | processor => exact ih
    | declared name iri answer => exact ih

end Contact

open Contact

namespace Emission

theorem isDeclared_of_heard {emission : Emission} {contact : Contact}
    (heard : emission.heard? = some contact) : contact.isDeclared = emission.isDeclaration := by
  obtain ⟨delivery, meant, rfl⟩ := Option.map_eq_some_iff.mp heard
  unfold isDeclaration
  rcases RawTriple.delivery?_cases meant with
    ⟨code, rfl⟩ | ⟨code, rfl⟩ | ⟨code | code, rfl⟩ | ⟨code, rfl⟩ <;> rw [code] <;> rfl

theorem heard_hush (sent : List Emission) :
    (hush sent).filterMap heard? = (sent.filterMap heard?).filter (!·.isDeclared) := by
  induction sent with
  | nil => rfl
  | cons emission rest ih =>
    have split : hush (emission :: rest) = hush [emission] ++ hush rest := hush_append [emission] rest
    rw [split, List.filterMap_append, ih]
    cases found : emission.heard? with
    | none => cases said : emission.isDeclaration <;> simp [hush, said, found]
    | some contact =>
      have same := isDeclared_of_heard found
      cases said : emission.isDeclaration <;> rw [said] at same <;> simp [hush, said, found, same]

def fact? (emission : Emission) : Option Triple := emission.heard?.bind Contact.fact?

theorem fact?_link (subject predicate object : Text) :
    fact? ⟨.default, link subject predicate object⟩ = some
      { subject, predicate, object, kind := if isLabel object then .blankNode else .resource,
        datatype := none, language := none } := by
  have meant : (link subject predicate object).delivery? = some (.triple
      ((link subject predicate object).asTriple
        (if isLabel object then .blankNode else .resource))) := rfl
  unfold fact? heard?
  rw [meant]
  cases isLabel object <;> rfl

theorem fact?_literal (subject predicate value : Text) (datatype language : Option Text) :
    fact? ⟨.default, literal subject predicate value datatype language⟩ = some
      { subject, predicate, object := value, kind := .literal, datatype,
        language := if datatype = none then language else none } := by
  cases datatype with
  | none => rfl
  | some datatype =>
    by_cases xml : datatype = Vocabulary.xmlLiteral
    · subst xml
      rfl
    · have code : (literal subject predicate value (some datatype) language).code =
          Code.typedLiteral := if_neg xml
      unfold fact? heard? RawTriple.delivery?
      rw [code]
      rfl

theorem fact?_of_processor {emission : Emission} (processor : emission.graph = .processor) :
    emission.fact? = none := by
  unfold fact? heard?
  rw [processor]
  cases emission.triple.delivery? with
  | none => rfl
  | some delivery => cases delivery <;> rfl

theorem facts_heard (sent : List Emission) :
    facts (sent.filterMap heard?) = (sent.filter (·.graph = .default)).filterMap fact? := by
  induction sent with
  | nil => rfl
  | cons emission rest ih =>
    have here : facts (emission.heard?.toList) = emission.fact?.toList := by
      unfold fact? facts
      cases emission.heard? with
      | none => rfl
      | some contact => cases found : contact.fact? <;> simp [found]
    have split : facts ((emission :: rest).filterMap heard?) =
        emission.fact?.toList ++ facts (rest.filterMap heard?) := by
      rw [← here, facts, facts, facts, ← List.filterMap_append]
      cases found : emission.heard? <;> simp [found]
    rw [split, ih]
    cases seen : emission.graph with
    | default => cases found : emission.fact? <;> simp [seen, found]
    | processor => simp [seen, fact?_of_processor seen]

end Emission

def Triple.renumbered (renumber : Nat → Nat) (triple : Triple) : Triple :=
  { triple with
    subject := Nodes.renumbered renumber triple.subject
    object := if triple.isLiteral then triple.object else Nodes.renumbered renumber triple.object }

namespace Element.Naming

variable {naming : Naming} {m n : Nat} {renumber : Nat → Nat}

theorem Statement.fact {emission other : Emission} (statement : naming.Statement emission other)
    (counted : Counted [] naming m n)
    (renumbers : ∀ a b, naming.Term a b → b = Nodes.renumbered renumber a)
    (stated : emission.graph = .default) :
    other.fact? = emission.fact?.map (·.renumbered renumber) := by
  cases statement with
  | @link s t o p graph subject predicate plain object =>
    cases stated
    have kind : isLabel p = isLabel o := by
      cases object with
      | node named => rw [(counted.labels named).1, (counted.labels named).2]
      | plain _ => rfl
    rw [Emission.fact?_link, Emission.fact?_link, renumbers s t subject, kind,
      renumbers o p object]
    cases isLabel o <;> rfl
  | literal graph subject plain value typed language =>
    cases stated
    rw [Emission.fact?_literal, Emission.fact?_literal, renumbers _ _ subject]
    rfl
  | prefixReport name iri => cases stated

theorem Alike.facts {sent others : List Emission} (counted : Counted [] naming m n)
    (renumbers : ∀ a b, naming.Term a b → b = Nodes.renumbered renumber a)
    (alike : naming.Alike (· = .default) sent others) :
    Contact.facts (others.filterMap Emission.heard?) =
      (Contact.facts (sent.filterMap Emission.heard?)).map (·.renumbered renumber) := by
  rw [Emission.facts_heard, Emission.facts_heard]
  have stated : ∀ emission ∈ sent.filter (·.graph = .default), emission.graph = .default := by
    intro emission present
    simpa using (List.mem_filter.mp present).2
  unfold Alike at alike
  generalize sent.filter _ = here at alike stated ⊢
  generalize others.filter _ = there at alike ⊢
  induction alike with
  | nil => rfl
  | @cons emission other here there statement _ ih =>
    obtain ⟨first, rest⟩ := List.forall_mem_cons.mp stated
    have fact := statement.fact counted renumbers first
    rw [List.filterMap_cons, List.filterMap_cons, fact, ih rest]
    cases emission.fact? <;> rfl

end Element.Naming

namespace Extractor

variable {x : Extractor}

def told (x : Extractor) (processing : Processing) : Extractor := { x with processing }

def hushed (x : Extractor) : Extractor := x.told x.processing.hushed

theorem heard_hushed (r : Reading) : heard r.hushed = (heard r).filter (!·.isDeclared) := by
  rw [heard, r.drain_hushed.1, Emission.heard_hush]
  rfl

theorem schedule_hushed (r : Reading) (chunks : List Bytes) :
    x.hushed.schedule r.hushed chunks = (x.schedule r chunks).filter (!·.isDeclared) := by
  induction chunks generalizing r with
  | nil =>
    cases failed : r.malformation with
    | some malformation =>
      have also : r.hushed.malformation = some malformation := failed
      rw [schedule_of_malformation failed, schedule_of_malformation also, heard_hushed]
    | none =>
      have also : r.hushed.malformation = none := failed
      have closed : r.hushed.drain.2.close x.hushed.processing =
          (r.drain.2.close x.processing).hushed := Reading.close_hushed r.drain.2
      rw [schedule_nil failed, schedule_nil also, closed, heard_hushed, heard_hushed,
        List.filter_append]
      rfl
  | cons chunk rest ih =>
    cases failed : r.malformation with
    | some malformation =>
      have also : r.hushed.malformation = some malformation := failed
      rw [schedule_of_malformation failed, schedule_of_malformation also, heard_hushed]
    | none =>
      have also : r.hushed.malformation = none := failed
      have read : r.hushed.drain.2.read x.hushed.processing chunk =
          (r.drain.2.read x.processing chunk).hushed := Reading.read_hushed r.drain.2 chunk
      rw [schedule_cons failed, schedule_cons also, read, ih, heard_hushed, List.filter_append]
      rfl

theorem contacts_hushed (chunks : List Bytes) :
    x.hushed.contacts chunks = (x.contacts chunks).filter (!·.isDeclared) := by
  cases chunks with
  | nil => exact schedule_hushed (.initial x.base) []
  | cons chunk rest =>
    have read : (Reading.initial x.base).read x.hushed.processing (withoutMark chunk) =
        ((Reading.initial x.base).read x.processing (withoutMark chunk)).hushed :=
      Reading.read_hushed (.initial x.base) _
    show .produced x.capacity (.ok chunk) :: x.hushed.schedule
      ((Reading.initial x.base).read x.hushed.processing (withoutMark chunk)) rest = _
    rw [read, schedule_hushed]
    rfl

theorem whole_reports {other : Processing} (absolute : Iri.isAbsolute x.base = true)
    (comparable : x.processing.Comparable (· = .default) other) {document : Bytes}
    (unlabelled : (Reading.initial x.base).unlabelled x.processing document = true) :
    verdict ((x.told other).whole document) = verdict (x.whole document) ∧
      ∃ renumber : Nat → Nat, Function.Injective renumber ∧
        facts (((x.told other).whole document).sent.reverse.filterMap Emission.heard?) =
          (facts ((x.whole document).sent.reverse.filterMap Emission.heard?)).map
            (·.renumbered renumber) := by
  have marked : Naming.Marks [] := ⟨by rintro _ _ ⟨⟩, by rintro _ _ ⟨⟩, by rintro _ _ _ ⟨⟩⟩
  have initial : Readings [] (· = .default) (fun _ _ => False) (.initial x.base)
      (.initial x.base) :=
    ⟨rfl, ⟨rfl, rfl, ⟨absolute, absolute⟩, .nil, .initial marked⟩, .nil, rfl⟩
  obtain ⟨wider, _, read⟩ := initial.read comparable unlabelled
  obtain ⟨widest, m, n, _, counted, alike, malformation⟩ := read.close comparable
  refine ⟨?_, ?_⟩
  · unfold verdict
    rw [show ((x.told other).whole document).malformation =
      (x.whole document).malformation from malformation]
  · obtain ⟨renumber, injective, renumbers⟩ := counted.renumber
    exact ⟨renumber, injective, alike.reverse.facts counted renumbers⟩

end Extractor

def Settings.reporting (settings : Settings) (prefixes warnings : Bool) : Settings :=
  { settings with processing := { settings.processing with
      announcePrefixes := prefixes, announceWarnings := warnings } }

namespace Session

-- The calls of two runs and what they came to, if only what is reported may differ.
structure SameFacts (contacts others : List Contact) (ended endedThere : Outcome) : Prop where
  outcome : endedThere = ended
  facts : ∃ renumber : Nat → Nat, Function.Injective renumber ∧
    Contact.facts others = (Contact.facts contacts).map (·.renumbered renumber)

-- Two runs on the same pieces of a document no token of which is read as a blank node label.
theorem run_reports {κ₁ κ₂ : Type} [Consumer κ₁] [Consumer κ₂] {base : Text} {settings : Settings}
    {prefixes warnings : Bool} {s₁ : Session κ₁} {s₂ : Session κ₂}
    (opened₁ : openWith base settings = .ok s₁)
    (opened₂ : openWith base (settings.reporting prefixes warnings) = .ok s₂)
    {supplies₁ : List Bytes → κ₁ → Prop} {supplies₂ : List Bytes → κ₂ → Prop}
    (source₁ : Consumer.Supplies settings.chunkCapacity supplies₁)
    (source₂ : Consumer.Supplies settings.chunkCapacity supplies₂) {chunks : List Bytes}
    (fitting : Fitting settings.chunkCapacity chunks) {consumer₁ : κ₁} {consumer₂ : κ₂}
    (ready₁ : supplies₁ chunks consumer₁) (ready₂ : supplies₂ chunks consumer₂)
    (unlabelled : (Reading.initial base).unlabelled settings.processing
      (Extractor.document chunks) = true) :
    SameFacts (s₁.bind consumer₁).contacts (s₂.bind consumer₂).contacts
        (s₁.bind consumer₁).run.outcome (s₂.bind consumer₂).run.outcome ∧
      (warnings = settings.processing.announceWarnings → prefixes = false →
        (s₂.bind consumer₂).contacts = (s₁.bind consumer₁).contacts.filter (!·.isDeclared)) := by
  obtain ⟨calls₁, outcome₁, _⟩ := run_contacts_of_supplies opened₁ rfl source₁ fitting ready₁
  obtain ⟨calls₂, outcome₂, _⟩ := run_contacts_of_supplies opened₂ rfl source₂ fitting ready₂
  have absolute := (Extractor.problem?_eq_none_iff.mp (openWith_eq_ok_iff.mp opened₁).1).2.2.1
  have comparable : settings.processing.Comparable (· = .default)
      (settings.reporting prefixes warnings).processing := ⟨rfl, rfl, by simp⟩
  obtain ⟨same, renumber, injective, facts⟩ := Extractor.whole_reports
    (x := ⟨base, settings.processing, settings.chunkCapacity, false⟩) absolute comparable unlabelled
  refine ⟨⟨?_, renumber, injective, ?_⟩, ?_⟩
  · rw [outcome₁, outcome₂]
    exact congrArg reported same
  · rw [calls₁, calls₂, ← Contact.facts_deliveries,
      ← Contact.facts_deliveries (Extractor.contacts _ _), Extractor.contacts_told,
      Extractor.contacts_told]
    exact facts
  · rintro rfl rfl
    rw [calls₁, calls₂]
    exact Extractor.contacts_hushed
      (x := ⟨base, settings.processing, settings.chunkCapacity, false⟩) chunks

-- A prefix, a token that is not known, a fact of a node of the engine's own, and an element that is
-- never closed: warnings take the first number and the last.
def talkative : List Bytes :=
  ["<p prefix='v: u:v' typeof='nowhere'><b rel='v:r'>", "<i typeof='v:t'/>"].map Markup.ascii

theorem talkative_reports :
    Fitting ({} : Settings).chunkCapacity talkative ∧
      (Reading.initial "http://e/".toList).unlabelled {} (Extractor.document talkative) = true ∧
      SameFacts
        ((extracting "http://e/".toList {}).bind ({ pieces := talkative } : Playback)).contacts
        ((extracting "http://e/".toList (Settings.reporting {} false false)).bind
          ({ pieces := talkative } : Playback)).contacts
        ((extracting "http://e/".toList {}).bind ({ pieces := talkative } : Playback)).run.outcome
        ((extracting "http://e/".toList (Settings.reporting {} false false)).bind
          ({ pieces := talkative } : Playback)).run.outcome ∧
      ((extracting "http://e/".toList (Settings.reporting {} false true)).bind
          ({ pieces := talkative } : Playback)).contacts =
        ((extracting "http://e/".toList {}).bind
          ({ pieces := talkative } : Playback)).contacts.filter (!·.isDeclared) := by
  have opened (prefixes warnings : Bool) :
      openWith "http://e/".toList (Settings.reporting {} prefixes warnings) = .ok
        (extracting "http://e/".toList (Settings.reporting {} prefixes warnings) :
          Session Playback) :=
    openWith_eq_ok_iff.mpr ⟨by cases prefixes <;> cases warnings <;> decide, rfl⟩
  have fitting : Fitting ({} : Settings).chunkCapacity talkative := by
    unfold Fitting
    decide
  have unlabelled : (Reading.initial "http://e/".toList).unlabelled {}
      (Extractor.document talkative) = true := by decide +kernel
  have quiet := run_reports (opened true true) (opened false false) (playback_supplies _)
    (playback_supplies _) fitting (playback_ready _) (playback_ready _) unlabelled
  have prefixless := run_reports (opened true true) (opened false true) (playback_supplies _)
    (playback_supplies _) fitting (playback_ready _) (playback_ready _) unlabelled
  exact ⟨fitting, unlabelled, quiet.1, prefixless.2 rfl rfl⟩

end Session
end Rdfa
