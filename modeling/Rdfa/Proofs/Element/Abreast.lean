import Mathlib.Data.List.Forall2
import Rdfa.Element.Rules
import Rdfa.Proofs.Element.Naming
import Rdfa.Proofs.Iri.Absolute

-- The rules for a start tag, run twice: with the same attributes in scopes that differ in the names of
-- their nodes they announce the same, but for those names. The two runs need not report the same things
-- about the document as long as nobody looks at the reports.
namespace Rdfa

-- What is looked at in both runs is the same, whatever the two are told to report.
structure Processing.Comparable (visible : Graph → Bool) (processing other : Processing) : Prop where
  voidElements : other.voidElements = processing.voidElements
  maxDepth : other.maxDepth = processing.maxDepth
  reports : visible .processor = true →
    other.announceWarnings = processing.announceWarnings ∧
      other.announcePrefixes = processing.announcePrefixes

theorem Processing.Comparable.refl (visible : Graph → Bool) (processing : Processing) :
    processing.Comparable visible processing :=
  ⟨rfl, rfl, fun _ => ⟨rfl, rfl⟩⟩

namespace Element

namespace Naming

inductive Statement (naming : Naming) : Emission → Emission → Prop where
  | link {s t o p : Text} (graph : Graph) (subject : naming.Term s t) {predicate : Text}
      (plain : isLabel predicate = false) (object : naming.Term o p) :
      Statement naming ⟨graph, Element.link s predicate o⟩ ⟨graph, Element.link t predicate p⟩
  | literal {s t : Text} (graph : Graph) (subject : naming.Term s t) {predicate : Text}
      (plain : isLabel predicate = false) (value : Text) {datatype : Option Text}
      (typed : ∀ iri, datatype = some iri → isLabel iri = false) (language : Option Text) :
      Statement naming ⟨graph, Element.literal s predicate value datatype language⟩
        ⟨graph, Element.literal t predicate value datatype language⟩
  | prefixReport (name iri : Text) :
      Statement naming ⟨.processor, Element.prefixReport name iri⟩
        ⟨.processor, Element.prefixReport name iri⟩

variable {naming wider : Naming} {visible : Graph → Bool}

theorem Statement.mono (within : naming.Within wider) {emission other : Emission}
    (statement : naming.Statement emission other) : wider.Statement emission other := by
  cases statement with
  | link graph subject plain object =>
    exact .link graph (subject.mono within) plain (object.mono within)
  | literal graph subject plain value typed language =>
    exact .literal graph (subject.mono within) plain value typed language
  | prefixReport name iri => exact .prefixReport name iri

theorem Statement.graph {emission other : Emission} (statement : naming.Statement emission other) :
    other.graph = emission.graph := by
  cases statement <;> rfl

def Alike (naming : Naming) (visible : Graph → Bool) (sent others : List Emission) : Prop :=
  List.Forall₂ naming.Statement (sent.filter (visible ·.graph)) (others.filter (visible ·.graph))

namespace Alike

variable {sent others more also : List Emission}

theorem nil : naming.Alike visible [] [] := List.Forall₂.nil

theorem cons {emission other : Emission} (first : naming.Statement emission other)
    (rest : naming.Alike visible sent others) :
    naming.Alike visible (emission :: sent) (other :: others) := by
  unfold Alike
  cases seen : visible emission.graph <;>
    simp only [List.filter_cons, first.graph, seen, if_true, Bool.false_eq_true, if_false]
  · exact rest
  · exact .cons first rest

theorem append (first : naming.Alike visible sent others) (second : naming.Alike visible more also) :
    naming.Alike visible (sent ++ more) (others ++ also) := by
  unfold Alike
  rw [List.filter_append, List.filter_append]
  exact List.rel_append first second

theorem mono (within : naming.Within wider) (alike : naming.Alike visible sent others) :
    wider.Alike visible sent others :=
  List.Forall₂.imp (fun _ _ statement => statement.mono within) alike

theorem reverse (alike : naming.Alike visible sent others) :
    naming.Alike visible sent.reverse others.reverse := by
  unfold Alike
  rw [List.filter_reverse, List.filter_reverse]
  exact List.rel_reverse alike

theorem map {α : Type} {values : List α} {statement other : α → Emission}
    (each : ∀ value ∈ values, naming.Statement (statement value) (other value)) :
    naming.Alike visible (values.map statement) (values.map other) := by
  induction values with
  | nil => exact .nil
  | cons value rest ih =>
    obtain ⟨first, others⟩ := List.forall_mem_cons.mp each
    exact (ih others).cons first

theorem hidden (unseen : visible .processor = false)
    (here : ∀ emission ∈ sent, emission.graph = .processor)
    (there : ∀ emission ∈ others, emission.graph = .processor) :
    naming.Alike visible sent others := by
  unfold Alike
  have silent {emissions : List Emission} (all : ∀ emission ∈ emissions, emission.graph = .processor) :
      emissions.filter (visible ·.graph) = [] :=
    List.filter_eq_nil_iff.mpr fun emission present => by simp [all emission present, unseen]
  rw [silent here, silent there]
  exact List.Forall₂.nil

end Alike
end Naming

open Naming

-- Two pieces of work that begin with paired nodes, name more of them in pairs, announce the same but for
-- the names, and come to values in `post`.
structure Work.Arrives {α β : Type} (marks : List (Text × Text)) (visible : Graph → Bool)
    (naming wider : Naming) (post : Naming → α → β → Prop) (before : Output) (first : α × Output)
    (start : Output) (second : β × Output) : Prop where
  within : naming.Within wider
  joins : Joins marks wider first.2.nodes second.2.nodes
  yields : post wider first.1 second.1
  sent : ∃ sent others, first.2.sent = before.sent ++ sent ∧ second.2.sent = start.sent ++ others ∧
    wider.Alike visible sent others

def Work.Abreast {α β : Type} (marks : List (Text × Text)) (visible : Graph → Bool)
    (naming : Naming) (post : Naming → α → β → Prop) (first : Work α) (second : Work β) : Prop :=
  ∀ o p : Output, Joins marks naming o.nodes p.nodes →
    ∃ wider, Work.Arrives marks visible naming wider post o (first.run o) p (second.run p)

theorem Work.Arrives.silent {α β : Type} {marks : List (Text × Text)} {visible : Graph → Bool}
    {naming wider : Naming} {post : Naming → α → β → Prop} {before start : Output}
    {first : α × Output} {second : β × Output} (within : naming.Within wider)
    (joins : Joins marks wider first.2.nodes second.2.nodes) (held : post wider first.1 second.1)
    (here : first.2.sent = before.sent) (there : second.2.sent = start.sent) :
    Arrives marks visible naming wider post before first start second :=
  ⟨within, joins, held, [], [], by rw [here, List.append_nil], by rw [there, List.append_nil], .nil⟩

namespace Work.Abreast

variable {α β γ δ : Type} {marks : List (Text × Text)} {visible : Graph → Bool} {naming : Naming}
  {post : Naming → α → β → Prop} {after : Naming → γ → δ → Prop}

theorem pure {a : α} {b : β} (held : post naming a b) :
    Abreast marks visible naming post (pure a : Work α) (pure b : Work β) := fun _ _ joins =>
  ⟨naming, .silent (Within.refl naming) joins held rfl rfl⟩

theorem bind {first : Work α} {second : Work β} {next : α → Work γ} {others : β → Work δ}
    (begun : Abreast marks visible naming post first second)
    (gone : ∀ wider a b, naming.Within wider → post wider a b →
      Abreast marks visible wider after (next a) (others b)) :
    Abreast marks visible naming after (first >>= next) (second >>= others) := by
  intro o p joins
  obtain ⟨wider, within, joined, held, sent, also, here, there, alike⟩ := begun o p joins
  obtain ⟨widest, further, joins', held', more, rest, here', there', alike'⟩ :=
    gone wider _ _ within held _ _ joined
  refine ⟨widest, within.trans further, joins', held', sent ++ more, also ++ rest, ?_, ?_,
    (alike.mono further).append alike'⟩
  · rw [← List.append_assoc, ← here]
    exact here'
  · rw [← List.append_assoc, ← there]
    exact there'

theorem andThen {first : Work α} {second : Work β} {next : Work γ} {others : Work δ}
    (begun : Abreast marks visible naming (fun _ _ _ => True) first second)
    (gone : ∀ wider, naming.Within wider → Abreast marks visible wider after next others) :
    Abreast marks visible naming after (first >>= fun _ => next) (second >>= fun _ => others) :=
  begun.bind fun wider _ _ within _ => gone wider within

end Work.Abreast

open Work

variable {marks : List (Text × Text)} {visible : Graph → Bool} {naming : Naming}

theorem send_abreast {sent others : List Emission} (alike : naming.Alike visible sent others) :
    Abreast marks visible naming (fun _ _ _ => True) (send sent) (send others) := fun _ _ joins =>
  ⟨naming, Within.refl naming, joins, trivial, sent, others, rfl, rfl, alike⟩

theorem mint_abreast : Abreast marks visible naming Term mint mint := fun _ _ joins =>
  ⟨_, .silent (within_pairing naming _ _) joins.mint (.node (pairing_self naming _ _)) rfl rfl⟩

theorem nodeOf_known {label node : Text} {output : Output}
    (known : output.nodes.labels.lookup label = some node) :
    (nodeOf label).run output = (node, output) := by
  simp only [nodeOf, StateT.run_bind, StateT.run_get, pure_bind, known]
  rfl

theorem nodeOf_unknown {label : Text} {output : Output}
    (unknown : output.nodes.labels.lookup label = none) :
    (nodeOf label).run output = (Nodes.name output.nodes.minted,
      ⟨⟨output.nodes.minted + 1, (label, Nodes.name output.nodes.minted) :: output.nodes.labels⟩,
        output.sent⟩) := by
  simp only [nodeOf, StateT.run_bind, StateT.run_get, pure_bind, unknown]
  rfl

theorem nodeOf_abreast (label : Text) :
    Abreast marks visible naming Term (nodeOf label) (nodeOf label) := by
  intro o p joins
  cases here : o.nodes.labels.lookup label with
  | some node =>
    obtain ⟨other, there, named⟩ := joins.known here
    rw [nodeOf_known here, nodeOf_known there]
    exact ⟨naming, .silent (Within.refl naming) joins (.node named) rfl rfl⟩
  | none =>
    rw [nodeOf_unknown here]
    cases there : p.nodes.labels.lookup label with
    | none =>
      rw [nodeOf_unknown there]
      exact ⟨_, .silent (within_pairing naming _ _)
        (joins.mint.learn (pairing_self naming _ _) there) (.node (pairing_self naming _ _)) rfl rfl⟩
    | some other =>
      rw [nodeOf_known there]
      exact ⟨_, .silent (within_pairing naming _ _) (joins.meet here there)
        (.node (pairing_self naming _ _)) rfl rfl⟩

end Element
end Rdfa
