import Rdfa.Proofs.Element.Built
import Rdfa.Proofs.Element.Content
import Rdfa.Proofs.Element.Warned

-- The attributes of a start tag in another order. Where no two have one name they are found all the same, and
-- where no two declare one prefix every prefix stands for the same, so what is said of the document is the
-- same, node for node.
namespace Rdfa

namespace Scope

structure Equivalent (s t : Scope) : Prop where
  subject : t.parentSubject = s.parentSubject
  object : t.parentObject = s.parentObject
  incomplete : t.incomplete = s.incomplete
  language : t.language = s.language
  vocabulary : t.vocabulary = s.vocabulary
  prefixes : ∀ name, t.namespace? name = s.namespace? name

namespace Equivalent

variable {s t : Scope} (alike : s.Equivalent t)

include alike

theorem expand? (value : Text) : t.expand? value = s.expand? value := by
  simp only [Scope.expand?, alike.prefixes]

theorem resolveToken (token : Text) : t.resolveToken token = s.resolveToken token := by
  simp only [Scope.resolveToken, alike.expand?, alike.vocabulary]

theorem resolveResource (base value : Text) :
    t.resolveResource base value = s.resolveResource base value := by
  simp only [Scope.resolveResource, alike.expand?]

end Equivalent

def admitted (declared : List (Text × Text)) : List (Text × Text) :=
  declared.filter fun d => Admits d.1

end Scope

namespace Element

theorem lookup_eq_some_iff {pairs : List (Text × Text)} (distinct : (pairs.map Prod.fst).Nodup)
    {key value : Text} : pairs.lookup key = some value ↔ (key, value) ∈ pairs := by
  induction pairs with
  | nil => simp
  | cons pair rest ih =>
    obtain ⟨name, given⟩ := pair
    obtain ⟨other, others⟩ := List.nodup_cons.mp distinct
    by_cases same : key = name
    · subst same
      have absent : (key, value) ∉ rest := fun present => other (List.mem_map.mpr ⟨_, present, rfl⟩)
      simp [absent, eq_comm]
    · have missed : (key == name) = false := by simpa using same
      simp [List.lookup_cons, missed, same, ih others]

theorem lookup_perm {first second : List (Text × Text)} (perm : first.Perm second)
    (distinct : (first.map Prod.fst).Nodup) (key : Text) : first.lookup key = second.lookup key := by
  have others : (second.map Prod.fst).Nodup := (perm.map Prod.fst).nodup_iff.mp distinct
  refine Option.ext fun value => ?_
  rw [lookup_eq_some_iff distinct, lookup_eq_some_iff others, perm.mem_iff]

theorem declaredIn_eq (declared : List (Text × Text)) (scope : Scope) : declaredIn scope declared =
    { scope with
      prefixes := (Scopes.small (Scope.admitted declared)).reverse ++ scope.prefixes } := by
  induction declared generalizing scope with
  | nil => rfl
  | cons pair rest ih =>
    obtain ⟨name, iri⟩ := pair
    refine (ih _).trans ?_
    by_cases admits : Scope.Admits name
    · simp [Scope.declare_of_admits _ admits, Scope.admitted, Scopes.small, admits, Except.toOption]
    · obtain ⟨warning, refused⟩ := scope.declare_of_not_admits admits iri
      simp [refused, Scope.admitted, Scopes.small, admits, Except.toOption]

theorem declaredIn_perm {first second : List (Text × Text)} (perm : first.Perm second)
    (distinct : (first.map fun d => Text.lowercase d.1).Nodup) (others : List (Text × Text))
    (scope : Scope) :
    (declaredIn scope (first ++ others)).Equivalent (declaredIn scope (second ++ others)) := by
  have small : (Scopes.small (Scope.admitted first)).Perm (Scopes.small (Scope.admitted second)) :=
    (perm.filter _).map _
  have kept : (Scopes.small (Scope.admitted first)).reverse.Perm
      (Scopes.small (Scope.admitted second)).reverse :=
    (List.reverse_perm _).trans (small.trans (List.reverse_perm _).symm)
  have keys : ((Scopes.small (Scope.admitted first)).reverse.map Prod.fst).Nodup := by
    have distinct : ((Scope.admitted first).map fun d => Text.lowercase d.1).Nodup :=
      distinct.sublist (List.filter_sublist.map _)
    simpa [Scopes.small, Function.comp_def, List.map_reverse] using (List.reverse_perm _).nodup_iff.mpr distinct
  have split (declared : List (Text × Text)) : Scopes.small (Scope.admitted (declared ++ others)) =
      Scopes.small (Scope.admitted declared) ++ Scopes.small (Scope.admitted others) := by
    simp [Scope.admitted, Scopes.small]
  rw [declaredIn_eq, declaredIn_eq]
  refine ⟨rfl, rfl, rfl, rfl, rfl, fun name => ?_⟩
  simp only [Scope.namespace?, split, List.reverse_append, List.lookup_append, lookup_perm kept keys]

namespace Attributes

structure Distinct (attributes : Attributes) : Prop where
  names : (attributes.pairs.map Prod.fst).Nodup
  prefixes : (attributes.namespaces.map fun d => Text.lowercase d.1).Nodup

structure Reordered (a b : Attributes) : Prop where
  first : ∀ name, b.first? name = a.first? name
  language : b.language = a.language
  namespaces : a.namespaces.Perm b.namespaces

theorem Distinct.last? {attributes : Attributes} (distinct : attributes.Distinct) (name : String) :
    attributes.last? name = attributes.first? name := by
  have reversed : (attributes.pairs.reverse.map Prod.fst).Nodup := by
    rw [List.map_reverse]
    exact (List.reverse_perm _).nodup_iff.mpr distinct.names
  exact lookup_perm (List.reverse_perm _) reversed _

theorem Distinct.reordered {a b : Attributes} (distinct : a.Distinct) (perm : a.pairs.Perm b.pairs) :
    a.Reordered b := by
  have names : (b.pairs.map Prod.fst).Nodup := (perm.map Prod.fst).nodup_iff.mp distinct.names
  have namespaces : a.namespaces.Perm b.namespaces := perm.filterMap _
  have prefixes : (b.namespaces.map fun d => Text.lowercase d.1).Nodup :=
    (namespaces.map _).nodup_iff.mp distinct.prefixes
  have first (name : String) : b.first? name = a.first? name :=
    (lookup_perm perm distinct.names _).symm
  refine ⟨first, ?_, namespaces⟩
  unfold language
  rw [Distinct.last? ⟨names, prefixes⟩, distinct.last?, first, first]

end Attributes

open Attributes Work

variable {processing : Processing} {place : Place} {a b : Attributes}

-- Work that goes on in one way whatever was sent before it.
def Work.Adds {α : Type} (work : Work α) : Prop :=
  ∀ nodes, ∃ value after added, ∀ sent, work.run ⟨nodes, sent⟩ = (value, ⟨after, sent ++ added⟩)

namespace Work.Adds

variable {α β : Type}

theorem pure (value : α) : Adds (pure value : Work α) := by
  intro nodes
  refine ⟨value, nodes, [], fun sent => ?_⟩
  rw [List.append_nil]
  rfl

theorem bind {work : Work α} {next : α → Work β} (first : Adds work)
    (second : ∀ output, Adds (next (work.run output).1)) : Adds (work >>= next) := by
  intro nodes
  obtain ⟨value, between, early, ran⟩ := first nodes
  have further := second ⟨nodes, []⟩
  rw [ran] at further
  obtain ⟨result, after, late, went⟩ := further between
  refine ⟨result, after, early ++ late, fun sent => ?_⟩
  rw [StateT.run_bind, ran]
  refine (went (sent ++ early)).trans ?_
  rw [List.append_assoc]

end Work.Adds

theorem send_adds (emissions : List Emission) : (send emissions).Adds :=
  fun nodes => ⟨(), nodes, emissions, fun _ => rfl⟩

theorem mint_adds : mint.Adds := by
  intro nodes
  refine ⟨Nodes.name nodes.minted, nodes.past 1, [], fun sent => ?_⟩
  rw [List.append_nil]
  rfl

theorem nodeOf_adds (label : Text) : (nodeOf label).Adds := by
  intro nodes
  cases known : nodes.labels.lookup label with
  | some node =>
    refine ⟨node, nodes, [], fun sent => ?_⟩
    rw [List.append_nil]
    exact nodeOf_known known
  | none =>
    refine ⟨Nodes.name nodes.minted, ⟨nodes.minted + 1, (label, Nodes.name nodes.minted) :: nodes.labels⟩,
      [], fun sent => ?_⟩
    rw [List.append_nil]
    exact nodeOf_unknown known

theorem Work.Built.adds {α : Type} {yields : α → Prop} {work hushed : Work α}
    (built : Built .any yields work hushed) : work.Adds := by
  induction built with
  | pure => exact .pure _
  | send | report => exact send_adds _
  | mint => exact mint_adds
  | nodeOf label => exact nodeOf_adds label
  | bind begun _ ihFirst ihSecond => exact .bind ihFirst fun output => ihSecond _ (begun.yielded output)

def proceed (processing : Processing) (place : Place) (attributes : Attributes) (scope : Scope) :
    Work ((Roles × List Incomplete) × Option PendingLiteral) := do
  let values ← resolve processing scope place.base attributes
  let roles ← assign place attributes values
  sendTypes values roles
  let related ← relate attributes values roles
  let pending ← describe processing scope attributes values related.1
  send (Reckoned.completed ⟨scope, values, related.1⟩ place.parent)
  return (related, pending)

theorem process_eq_proceed (processing : Processing) (place : Place) (attributes : Attributes) :
    process processing place attributes = (do
      let scope ← enter processing place attributes
      let done ← proceed processing place attributes scope
      return (leave place.parent scope done.1.1 done.1.2, done.2)) := by
  rw [process_eq]
  unfold reckon Reckoned.speak proceed
  simp only [bind_assoc, pure_bind]
  refine bind_congr fun scope => bind_congr fun values => bind_congr fun roles => bind_congr fun _ => ?_
  refine bind_congr fun related => ?_
  exact Reckoned.conclude_eq ⟨scope, values, roles⟩ related.1 related.2

theorem proceed_built (processing : Processing) (place : Place) (attributes : Attributes) (scope : Scope) :
    Built .any (fun _ => True) (proceed processing place attributes scope)
      (proceed processing.hushed place attributes scope) := by
  have tag : attributes ∈ [attributes] := List.mem_singleton_self attributes
  have cover : Kinds.any.Cover [attributes] := .any _
  unfold proceed
  refine .bind (resolve_built cover processing (.any scope) trivial tag) fun values read => ?_
  refine .bind (assign_built cover (.any place) attributes read) fun roles assigned => ?_
  refine .bind (sendTypes_built cover read assigned) fun _ _ => ?_
  refine .bind (relate_built attributes read assigned) fun related ⟨still, _⟩ => ?_
  refine .bind (describe_built cover processing (.any scope) tag read still) fun pending _ => ?_
  refine .bind (.send ?_) fun _ _ => .pure trivial
  unfold Reckoned.completed
  split
  · exact completions_stated (.any place.parent) trivial
  · simp

-- Attributes in another order, read in an equivalent scope.
namespace Attributes.Reordered

variable (same : a.Reordered b)

include same

theorem resolve {s t : Scope} (alike : s.Equivalent t) (base : Text) :
    resolve processing t base b = resolve processing s base a := by
  have tokens (listed : List Text) :
      resolveTokens processing t listed = resolveTokens processing s listed := by
    induction listed with
    | nil => rfl
    | cons token rest ih => rw [resolveTokens, resolveTokens, alike.resolveToken, ih]
  have resource (value : Option Text) :
      resolveResource processing t base value = resolveResource processing s base value := by
    simp only [resolveResource, alike.resolveResource]
  simp only [Element.resolve, resolveList, tokens, resource, type, rel, rev, property, about,
    Attributes.resource, href, src, same.first]

theorem hasRelation : b.hasRelation = a.hasRelation := by
  simp only [Attributes.hasRelation, rel, rev, same.first]

theorem assign (values : Values) : assign place b values = assign place a values := by
  have about : b.about = a.about := same.first _
  have type : b.type = a.type := same.first _
  have property : b.property = a.property := same.first _
  have content : b.content = a.content := same.first _
  have datatype : b.datatype = a.datatype := same.first _
  unfold Element.assign relationRoles textRoles plainRoles
  rw [same.hasRelation, about, type, property, content, datatype]

theorem relate (values : Values) (roles : Roles) : relate b values roles = relate a values roles := by
  unfold Element.relate
  rw [same.hasRelation]

theorem describe {s t : Scope} (alike : s.Equivalent t) (values : Values) (roles : Roles) :
    describe processing t b values roles = describe processing s a values roles := by
  have about : b.about = a.about := same.first _
  have type : b.type = a.type := same.first _
  have content : b.content = a.content := same.first _
  have datatype : b.datatype = a.datatype := same.first _
  have resolved : resolveDatatype processing t b = resolveDatatype processing s a := by
    simp only [resolveDatatype, datatype, alike.resolveToken]
  have value : propertyValue b values roles = propertyValue a values roles := by
    unfold propertyValue
    rw [same.hasRelation, about, type, content, datatype]
  unfold Element.describe
  rw [resolved, value, alike.language]

theorem proceed {s t : Scope} (alike : s.Equivalent t) :
    proceed processing place b t = proceed processing place a s := by
  unfold Element.proceed
  simp only [same.resolve alike, same.assign, same.relate, same.describe alike]
  rfl

end Attributes.Reordered

def preface (processing : Processing) (place : Place) (attributes : Attributes) : Work Scope := do
  let scope ← enterVocabulary place.base attributes place.parent
  warnAll processing (Declaration.warnings (attributes.prefixes.getD []))
  return scope

def Attributes.written (attributes : Attributes) : List (Text × Text) :=
  (Declaration.declarations (attributes.prefixes.getD [])).map fun d => (d.name, d.namespaceIri)

theorem enter_run (processing : Processing) (place : Place) (attributes : Attributes)
    {start begun : Output} {scope : Scope}
    (prefaced : (preface processing place attributes).run start = (scope, begun)) :
    (enter processing place attributes).run start =
      (enterLanguage attributes (declaredIn scope (attributes.namespaces ++ attributes.written)),
        ⟨begun.nodes.past
            (perWarning processing * (refusals (attributes.namespaces ++ attributes.written)).length),
          begun.sent ++ (reports processing begun.nodes.minted attributes.namespaces ++
            reports processing
              (begun.nodes.minted + perWarning processing * (refusals attributes.namespaces).length)
              attributes.written)⟩) := by
  have entered : enter processing place attributes = (do
      let scope ← preface processing place attributes
      let scope ← declareAll processing scope (attributes.namespaces ++ attributes.written)
      return enterLanguage attributes scope) := by
    unfold enter enterPrefixes preface
    simp only [bind_assoc, pure_bind]
    rfl
  rw [entered, StateT.run_bind, prefaced, ← reports_append]
  show (declareAll processing scope _ >>= _).run begun = _
  rw [StateT.run_bind, declareAll_run]
  rfl

-- The scope an element is read in, and what entering it says: in another order of the attributes only the
-- declarations by `xmlns` are reported in another order.
theorem enter_reordered (processing : Processing) (place : Place) (same : a.Reordered b)
    (distinct : a.Distinct) (start : Output) :
    ∃ after number early late, (place.scope a).Equivalent (place.scope b) ∧
      (enter processing place a).run start =
        (place.scope a, ⟨after, early ++ (reports processing number a.namespaces ++ late)⟩) ∧
      (enter processing place b).run start =
        (place.scope b, ⟨after, early ++ (reports processing number b.namespaces ++ late)⟩) := by
  have prefixes : b.prefixes = a.prefixes := same.first _
  have vocab : b.vocab = a.vocab := same.first _
  have written : b.written = a.written := by
    unfold written
    rw [prefixes]
  have prefaced : preface processing place b = preface processing place a := by
    unfold preface enterVocabulary
    rw [prefixes, vocab]
  have refused : (refusals b.namespaces).length = (refusals a.namespaces).length :=
    (same.namespaces.symm.filterMap _).length_eq
  have all : (refusals (b.namespaces ++ a.written)).length =
      (refusals (a.namespaces ++ a.written)).length := by
    simpa [refusals] using refused
  rcases started : (preface processing place a).run start with ⟨scope, begun⟩
  have left := enter_run processing place a started
  have right := enter_run processing place b (prefaced ▸ started)
  rw [written, refused, all] at right
  have here : (enterLanguage a (declaredIn scope (a.namespaces ++ a.written))) = place.scope a :=
    (congrArg Prod.fst left).symm.trans ((enter_states processing place a).yielded start)
  have there : (enterLanguage b (declaredIn scope (b.namespaces ++ a.written))) = place.scope b :=
    (congrArg Prod.fst right).symm.trans ((enter_states processing place b).yielded start)
  rw [← here, ← there]
  refine ⟨_, _, _, _, ?_, left, right⟩
  have declared := declaredIn_perm same.namespaces distinct.prefixes a.written scope
  unfold enterLanguage
  rw [same.language]
  split
  · exact declared
  · exact { declared with language := rfl, prefixes := declared.prefixes }
  · exact { declared with language := rfl, prefixes := declared.prefixes }

theorem leave_equivalent (parent : Scope) {s t : Scope} (alike : s.Equivalent t) (roles : Roles)
    (incomplete : List Incomplete) :
    (leave parent s roles incomplete).Equivalent (leave parent t roles incomplete) := by
  unfold leave
  split
  · exact alike
  · exact { alike with subject := rfl, object := rfl, incomplete := rfl, prefixes := alike.prefixes }

theorem leave_language (parent scope : Scope) (roles : Roles) (incomplete : List Incomplete) :
    (leave parent scope roles incomplete).language = scope.language := by
  unfold leave
  split <;> rfl

theorem process_reordered (processing : Processing) (place : Place) (same : a.Reordered b)
    (distinct : a.Distinct) (start : Output) :
    ∃ s t pending after number early late,
      s.Equivalent t ∧ s.language = (place.scope a).language ∧
      (process processing place a).run start =
        ((s, pending), ⟨after, early ++ (reports processing number a.namespaces ++ late)⟩) ∧
      (process processing place b).run start =
        ((t, pending), ⟨after, early ++ (reports processing number b.namespaces ++ late)⟩) := by
  obtain ⟨nodes, number, early, late, alike, left, right⟩ :=
    enter_reordered processing place same distinct start
  have adds : (proceed processing place a (place.scope a)).Adds := (proceed_built processing place a _).adds
  obtain ⟨⟨⟨roles, incomplete⟩, pending⟩, after, added, went⟩ := adds nodes
  refine ⟨leave place.parent (place.scope a) roles incomplete,
    leave place.parent (place.scope b) roles incomplete, pending, after, number, early, late ++ added,
    leave_equivalent place.parent alike roles incomplete, leave_language _ _ _ _, ?_, ?_⟩
  · rw [process_eq_proceed, StateT.run_bind, left]
    show (proceed processing place a (place.scope a) >>= _).run _ = _
    rw [StateT.run_bind, went]
    simp only [List.append_assoc]
    rfl
  · rw [process_eq_proceed, StateT.run_bind, right]
    show (proceed processing place b (place.scope b) >>= _).run _ = _
    rw [same.proceed alike, StateT.run_bind, went]
    simp only [List.append_assoc]
    rfl

theorem warned_processor (number : Nat) (warning : Warning) :
    ∀ emission ∈ warned number warning, emission.graph = .processor := by
  simp [warned]

theorem reports_processor (number : Nat) (declared : List (Text × Text)) :
    ∀ emission ∈ reports processing number declared, emission.graph = .processor := by
  induction declared generalizing number with
  | nil => simp [reports]
  | cons pair rest ih =>
    obtain ⟨name, iri⟩ := pair
    unfold reports
    split
    · refine List.forall_mem_append.mpr ⟨?_, ih _⟩
      unfold announcement
      split <;> simp
    · refine List.forall_mem_append.mpr ⟨?_, ih _⟩
      unfold notice
      split
      · exact warned_processor number _
      · simp

end Element
end Rdfa
