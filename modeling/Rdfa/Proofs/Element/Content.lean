import Rdfa.Proofs.Element.Entry
import Rdfa.Proofs.Element.Ignored

-- An element whose value is its text, and the same element with that value in `content`: what the one
-- leaves to its end is what the other states at once, and all else is the same.
namespace Rdfa

def Emission.isValue (emission : Emission) : Bool :=
  emission.graph = .default &&
    emission.triple.code ∈ [Code.plainLiteral, Code.xmlLiteral, Code.typedLiteral]

namespace Element

open Document (Forest.complete)

namespace Attributes

def inserting (attributes : Attributes) (position : Nat) (name : String) (value : Text) : Attributes :=
  ⟨attributes.pairs.take position ++ (name.toList, value) :: attributes.pairs.drop position⟩

structure AgreeBut (name : String) (a b : Attributes) : Prop where
  first : ∀ other, other ≠ name → a.first? other = b.first? other
  language : a.language = b.language
  namespaces : a.namespaces = b.namespaces

variable (attributes : Attributes) (position : Nat) {name : String} (value : Text)

theorem without_inserting :
    (attributes.inserting position name value).without name = attributes.without name := by
  unfold without inserting
  rw [List.filter_append, List.filter_cons_of_neg (by simp), ← List.filter_append,
    List.take_append_drop]

theorem first?_inserting (absent : attributes.first? name = none) :
    (attributes.inserting position name value).first? name = some value := by
  have before : (attributes.pairs.take position).lookup name.toList = none := by
    refine List.lookup_eq_none_iff.mpr fun pair early => ?_
    exact List.lookup_eq_none_iff.mp absent pair (List.mem_of_mem_take early)
  simp [first?, inserting, List.lookup_append, before]

theorem inserting_agrees (unlike : name ≠ "xml:lang" ∧ name ≠ "lang")
    (free : Text.after? "xmlns:".toList name.toList = none) :
    (attributes.inserting position name value).AgreeBut name attributes := by
  have rest : (attributes.inserting position name value).without name = attributes.without name :=
    attributes.without_inserting position value
  have same {α : Type} (read : Attributes → α)
      (unread : ∀ attributes : Attributes, read (attributes.without name) = read attributes) :
      read (attributes.inserting position name value) = read attributes := by
    rw [← unread, rest, unread]
  refine ⟨fun other differs => ?_, ?_, same namespaces fun a => a.namespaces_without free⟩
  · exact same (·.first? other) fun a => a.first?_without_of_ne differs
  · refine same language fun a => ?_
    unfold language
    rw [a.last?_without_of_ne unlike.1.symm, a.first?_without_of_ne unlike.2.symm]

end Attributes

open Attributes Work

variable {processing : Processing} {place : Place} {a b : Attributes} {value : Text}

-- `b` has `content` with this value besides all that `a` has, and both have a datatype.
structure Contents (value : Text) (a b : Attributes) : Prop where
  agree : b.AgreeBut "content" a
  absent : a.content = none
  given : b.content = some value
  typed : a.datatype.isSome = true

namespace Contents

variable (contents : Contents value a b)

include contents

theorem hasRelation : b.hasRelation = a.hasRelation := by
  simp only [Attributes.hasRelation, rel, rev, contents.agree.first, ne_eq, String.reduceEq,
    not_false_eq_true]

theorem datatype : b.datatype = a.datatype := contents.agree.first _ (by decide)

theorem enter : enter processing place b = enter processing place a := by
  simp only [Element.enter, enterVocabulary, enterPrefixes, enterLanguage, vocab, prefixes,
    contents.agree.first, contents.agree.language, contents.agree.namespaces, ne_eq, String.reduceEq,
    not_false_eq_true]

theorem resolve (scope : Scope) (base : Text) :
    resolve processing scope base b = resolve processing scope base a := by
  simp only [Element.resolve, type, rel, rev, property, about, resource, href, src,
    contents.agree.first, ne_eq, String.reduceEq, not_false_eq_true]

-- With a datatype the text is never what gives the nodes their parts.
theorem assign (values : Values) : assign place b values = assign place a values := by
  have about : b.about = a.about := contents.agree.first _ (by decide)
  have type : b.type = a.type := contents.agree.first _ (by decide)
  have property : b.property = a.property := contents.agree.first _ (by decide)
  unfold Element.assign relationRoles plainRoles
  rw [contents.hasRelation, contents.datatype, about, type, property]
  simp [Option.isSome_iff_ne_none.mp contents.typed]

theorem reckon : reckon processing place b = reckon processing place a := by
  unfold Element.reckon
  rw [contents.enter]
  simp only [contents.resolve, contents.assign]

theorem relate (values : Values) (roles : Roles) : relate b values roles = relate a values roles := by
  unfold Element.relate
  rw [contents.hasRelation]

theorem propertyValue (values : Values) (roles : Roles) :
    propertyValue a values roles = .text ∧ propertyValue b values roles = .content value := by
  unfold Element.propertyValue
  rw [contents.absent, contents.given]
  simp [contents.typed]

end Contents

theorem literal_language (subject predicate value : Text) (datatype language : Option Text) :
    literal subject predicate value datatype (if datatype.isSome then none else language) =
      literal subject predicate value datatype language := by
  cases datatype <;> rfl

theorem describe_contents (processing : Processing) (contents : Contents value a b) (scope : Scope)
    (values : Values) (roles : Roles) (output : Output) :
    ∃ pending after, (describe processing scope a values roles).run output = (pending, after) ∧
      (describe processing scope b values roles).run output =
        (none, { after with sent := after.sent ++ Forest.complete pending value }) := by
  have same : resolveDatatype processing scope b = resolveDatatype processing scope a := by
    simp only [resolveDatatype, contents.datatype]
  unfold describe
  cases roles.subject with
  | none => exact ⟨none, output, rfl, by simp [Forest.complete]; rfl⟩
  | some subject =>
    cases none : values.properties.isEmpty with
    | true => exact ⟨_, output, rfl, by simp [Forest.complete]; rfl⟩
    | false =>
      rw [same, (contents.propertyValue values roles).1, (contents.propertyValue values roles).2]
      refine ⟨_, _, rfl, ?_⟩
      simp only [Forest.complete, literal_language]
      rfl

theorem send_nil : send [] = pure () := by
  funext output
  show ((), { output with sent := output.sent ++ [] }) = ((), output)
  rw [List.append_nil]

theorem Reckoned.conclude_eq (r : Reckoned) (roles : Roles) (incomplete : List Incomplete) :
    r.conclude processing place a (roles, incomplete) = (do
      let pending ← describe processing r.scope a r.values roles
      send (Reckoned.completed { r with roles } place.parent)
      return (leave place.parent r.scope roles incomplete, pending)) := by
  unfold Reckoned.conclude Reckoned.completed
  refine bind_congr fun pending => ?_
  dsimp only
  split
  · rfl
  · rw [send_nil, pure_bind]

-- What stands before the literals and after them is the same whether they are stated or left.
theorem conclude_contents (contents : Contents value a b) (r : Reckoned)
    (related : Roles × List Incomplete) (output : Output) :
    ∃ scope pending nodes early late,
      (r.conclude processing place a related).run output =
        ((scope, pending), ⟨nodes, early ++ late⟩) ∧
      (r.conclude processing place b related).run output =
        ((scope, none), ⟨nodes, early ++ Forest.complete pending value ++ late⟩) := by
  obtain ⟨roles, incomplete⟩ := related
  obtain ⟨pending, ⟨nodes, early⟩, left, stated⟩ :=
    describe_contents processing contents r.scope r.values roles output
  refine ⟨leave place.parent r.scope roles incomplete, pending, nodes, early,
    Reckoned.completed { r with roles } place.parent, ?_, ?_⟩
  · rw [r.conclude_eq, StateT.run_bind, left]
    rfl
  · rw [r.conclude_eq, StateT.run_bind, stated]
    rfl

theorem process_contents (processing : Processing) (place : Place) (contents : Contents value a b)
    (output : Output) :
    ∃ scope pending nodes early late,
      (process processing place a).run output = ((scope, pending), ⟨nodes, early ++ late⟩) ∧
      (process processing place b).run output =
        ((scope, none), ⟨nodes, early ++ Forest.complete pending value ++ late⟩) := by
  let reckoned := (reckon processing place a).run output
  let typed := ((sendTypes reckoned.1.values reckoned.1.roles).run reckoned.2).2
  let related := (relate a reckoned.1.values reckoned.1.roles).run typed
  have spoken (attributes : Attributes)
      (same : relate attributes reckoned.1.values reckoned.1.roles =
        relate a reckoned.1.values reckoned.1.roles) :
      (reckon processing place a >>= Reckoned.speak processing place attributes).run output =
        (reckoned.1.conclude processing place attributes related.1).run related.2 := by
    show ((relate attributes reckoned.1.values reckoned.1.roles >>= fun related =>
      reckoned.1.conclude processing place attributes related).run typed) = _
    rw [same]
    rfl
  rw [process_eq, process_eq, contents.reckon, spoken a rfl, spoken b (contents.relate _ _)]
  exact conclude_contents contents reckoned.1 related.1 related.2

theorem isValue_complete (pending : Option PendingLiteral) (text : Text) :
    ∀ emission ∈ Forest.complete pending text, emission.isValue = true := by
  cases pending with
  | none => simp [Forest.complete]
  | some pending =>
    intro emission present
    obtain ⟨predicate, _, rfl⟩ := List.mem_map.mp present
    cases pending.datatype with
    | none => rfl
    | some datatype =>
      by_cases xml : datatype = Vocabulary.xmlLiteral <;> simp [literal, xml, Emission.isValue]

namespace Entry

variable (processing) (e : Entry)

theorem code_of_factual (absent : e.attributes.content = none)
    (typed : e.attributes.datatype.isSome = true) :
    ∀ emission ∈ Emission.factual (e.sent processing), emission.triple.code = Code.iri := by
  have vocabulary : ∀ emission ∈ vocabularyFact e.place.base e.attributes,
      emission.triple.code = Code.iri := by
    unfold vocabularyFact
    split <;> simp [link]
  have typings : ∀ emission ∈ (e.reckoned processing).typings, emission.triple.code = Code.iri := by
    unfold Reckoned.typings
    split <;> simp [link]
  have related : ∀ emission ∈ (e.reckoned processing).related e.attributes,
      emission.triple.code = Code.iri := by
    unfold Reckoned.related Values.relations
    split <;> simp [link, or_imp, forall_and]
  have stated : (e.reckoned processing).stated e.attributes = [] := by
    unfold Reckoned.stated
    simp [propertyValue, absent, typed]
  have completed : ∀ emission ∈ (e.reckoned processing).completed e.place.parent,
      emission.triple.code = Code.iri := by
    unfold Reckoned.completed
    split
    · intro emission present
      obtain ⟨waiting, _, rfl⟩ := List.mem_map.mp present
      cases waiting.forward <;> rfl
    · simp
  rw [e.factual_sent processing, own, stated, List.append_nil]
  exact List.forall_mem_append.mpr ⟨List.forall_mem_append.mpr ⟨vocabulary,
    List.forall_mem_append.mpr ⟨typings, related⟩⟩, completed⟩

theorem isValue_of_sent (absent : e.attributes.content = none)
    (typed : e.attributes.datatype.isSome = true) :
    ∀ emission ∈ e.sent processing, emission.isValue = false := by
  intro emission present
  refine Bool.eq_false_iff.mpr fun value => ?_
  simp only [Emission.isValue, Bool.and_eq_true, decide_eq_true_eq] at value
  have fact : emission ∈ Emission.factual (e.sent processing) := by
    simp [Emission.factual, present, value.1]
  rw [e.code_of_factual processing absent typed emission fact] at value
  exact absurd value.2 (by decide)

def withContent (position : Nat) (value : Text) : Entry :=
  { e with attributes := e.attributes.inserting position "content" value }

theorem contents (absent : e.attributes.content = none) (typed : e.attributes.datatype.isSome = true)
    (position : Nat) (value : Text) :
    Contents value e.attributes (e.withContent position value).attributes where
  agree := e.attributes.inserting_agrees position value (by decide) (by decide)
  absent := absent
  given := e.attributes.first?_inserting position value absent
  typed := typed

-- What the element states at its start with `content`, and what it leaves to its end without.
structure Agrees (value : Text) (text given : Entry) : Prop where
  scope : given.scope processing = text.scope processing
  after : given.after processing = text.after processing
  pending : given.pending processing = none
  values : (given.sent processing).filter Emission.isValue =
    Forest.complete (text.pending processing) value
  others : (given.sent processing).filter (!·.isValue) = text.sent processing

theorem content_agrees (absent : e.attributes.content = none)
    (typed : e.attributes.datatype.isSome = true) (position : Nat) (value : Text) :
    Agrees processing value e (e.withContent position value) := by
  obtain ⟨scope, pending, nodes, early, late, left, stated⟩ :=
    process_contents processing e.place
      (e.contents absent typed position value) ⟨e.nodes, []⟩
  have text : e.run processing = ((scope, pending), ⟨nodes, early ++ late⟩) := left
  have given : (e.withContent position value).run processing =
      ((scope, none), ⟨nodes, early ++ Forest.complete pending value ++ late⟩) := stated
  have valueless := e.isValue_of_sent processing absent typed
  have values := isValue_complete pending value
  unfold Entry.sent at valueless
  rw [text] at valueless
  obtain ⟨before, behind⟩ := List.forall_mem_append.mp valueless
  constructor
  · simp only [Entry.scope, text, given]
  · simp only [Entry.after, text, given]
  · simp only [Entry.pending, given]
  · have noneBefore : early.filter Emission.isValue = [] := by simpa using before
    have noneBehind : late.filter Emission.isValue = [] := by simpa using behind
    simp only [Entry.sent, Entry.pending, text, given, List.filter_append, noneBefore, noneBehind,
      List.nil_append, List.append_nil]
    exact List.filter_eq_self.mpr values
  · have allBefore : early.filter (!·.isValue) = early :=
      List.filter_eq_self.mpr fun emission present => by simp [before emission present]
    have allBehind : late.filter (!·.isValue) = late :=
      List.filter_eq_self.mpr fun emission present => by simp [behind emission present]
    have silent : (Forest.complete pending value).filter (!·.isValue) = [] :=
      List.filter_eq_nil_iff.mpr fun emission present => by simp [values emission present]
    simp only [Entry.sent, text, given, List.filter_append, allBefore, allBehind, silent,
      List.append_nil]

end Entry
end Element
end Rdfa
