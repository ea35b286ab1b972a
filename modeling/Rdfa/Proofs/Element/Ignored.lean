import Rdfa.Proofs.Element.Account

-- A value of `about` or `resource` that names nothing, and what is left of its attribute.
namespace Rdfa

-- A safe CURIE that has no expansion.
def Scope.Unknown (scope : Scope) (value : Text) : Prop :=
  ∃ inner, Scope.bracketed? value = some inner ∧ scope.expand? inner = none

namespace Element

namespace Attributes

def without (attributes : Attributes) (name : String) : Attributes :=
  ⟨attributes.pairs.filter (·.1 ≠ name.toList)⟩

structure Agree (a b : Attributes) : Prop where
  first : ∀ name, name ≠ "about" → name ≠ "resource" → a.first? name = b.first? name
  language : a.language = b.language
  namespaces : a.namespaces = b.namespaces

theorem lookup_filter_ne {name other : Text} (differs : other ≠ name) (pairs : List (Text × Text)) :
    (pairs.filter (·.1 ≠ name)).lookup other = pairs.lookup other := by
  induction pairs with
  | nil => rfl
  | cons pair rest ih =>
    obtain ⟨key, value⟩ := pair
    by_cases same : key = name
    · subst same
      have skipped : (other == key) = false := beq_eq_false_iff_ne.mpr differs
      simpa [List.lookup_cons, skipped] using ih
    · simp only [ne_eq, same, not_false_eq_true, decide_true, List.filter_cons_of_pos,
        List.lookup_cons]
      rw [← ih]

variable (attributes : Attributes) {name : String}

theorem first?_without : (attributes.without name).first? name = none := by
  refine List.lookup_eq_none_iff.mpr fun pair present => ?_
  have other : pair.1 ≠ name.toList := by simpa using (List.mem_filter.mp present).2
  exact bne_iff_ne.mpr other.symm

theorem first?_without_of_ne {other : String} (differs : other ≠ name) :
    (attributes.without name).first? other = attributes.first? other :=
  lookup_filter_ne (fun same => differs (String.toList_inj.mp same)) attributes.pairs

theorem last?_without_of_ne {other : String} (differs : other ≠ name) :
    (attributes.without name).last? other = attributes.last? other := by
  unfold last? without
  rw [← List.filter_reverse]
  exact lookup_filter_ne (fun same => differs (String.toList_inj.mp same)) attributes.pairs.reverse

theorem namespaces_without (free : Text.after? "xmlns:".toList name.toList = none) :
    (attributes.without name).namespaces = attributes.namespaces := by
  unfold namespaces without
  rw [List.filterMap_filter]
  refine List.filterMap_congr fun pair _ => ?_
  by_cases same : pair.1 = name.toList
  · rw [same, free]
    simp
  · simp [same]

theorem without_agree (named : name = "about" ∨ name = "resource") :
    (attributes.without name).Agree attributes := by
  have differs : ∀ other, other ≠ "about" → other ≠ "resource" → other ≠ name := by
    intro other notAbout notResource same
    rcases named with rfl | rfl
    · exact notAbout same
    · exact notResource same
  refine ⟨fun other notAbout notResource => ?_, ?_, ?_⟩
  · exact attributes.first?_without_of_ne (differs other notAbout notResource)
  · unfold language
    rw [attributes.last?_without_of_ne (differs "xml:lang" (by decide) (by decide)),
      attributes.first?_without_of_ne (differs "lang" (by decide) (by decide))]
  · rcases named with rfl | rfl
    · exact attributes.namespaces_without (by decide)
    · exact attributes.namespaces_without (by decide)

end Attributes

open Attributes Work

variable {processing : Processing} {place : Place} {a b : Attributes}

theorem hasRelation_of_agree (agree : Agree a b) : a.hasRelation = b.hasRelation := by
  simp only [hasRelation, rel, rev, agree.first, ne_eq, String.reduceEq, not_false_eq_true]

theorem enter_of_agree (agree : Agree a b) :
    enter processing place a = enter processing place b := by
  simp only [enter, enterVocabulary, enterPrefixes, enterLanguage, vocab, prefixes, agree.first,
    agree.language, agree.namespaces, ne_eq, String.reduceEq, not_false_eq_true]

theorem resolve_of_agree (agree : Agree a b) {scope : Scope} {base : Text}
    (about : resolveResource processing scope base a.about =
      resolveResource processing scope base b.about)
    (resource : resolveResource processing scope base a.resource =
      resolveResource processing scope base b.resource) :
    resolve processing scope base a = resolve processing scope base b := by
  unfold resolve
  rw [about, resource]
  simp only [type, rel, rev, property, href, src, agree.first, ne_eq, String.reduceEq,
    not_false_eq_true]

-- The rules ask whether `about` was written, and not what it names.
def Place.asks (place : Place) (attributes : Attributes) : Bool :=
  attributes.type.isSome && (attributes.hasRelation ||
    attributes.speaksOfText && !place.hasTarget attributes)

theorem typed_of_unasked (agree : Agree a b) (relation : b.hasRelation = true)
    (unasked : a.about = b.about ∨ place.asks b = false) :
    (a.type.isSome && a.about.isNone) = (b.type.isSome && b.about.isNone) := by
  have type : a.type = b.type := agree.first _ (by decide) (by decide)
  rw [type]
  rcases unasked with same | unasked
  · rw [same]
  · have untyped : b.type.isSome = false := by simpa [Place.asks, relation] using unasked
    rw [untyped, Bool.false_and, Bool.false_and]

theorem assign_of_agree (agree : Agree a b) (values : Values)
    (unasked : a.about = b.about ∨ place.asks b = false) :
    assign place a values = assign place b values := by
  have type : a.type = b.type := agree.first _ (by decide) (by decide)
  have property : a.property = b.property := agree.first _ (by decide) (by decide)
  have content : a.content = b.content := agree.first _ (by decide) (by decide)
  have datatype : a.datatype = b.datatype := agree.first _ (by decide) (by decide)
  unfold assign
  rw [hasRelation_of_agree agree, property, content, datatype]
  split
  · next relation =>
    unfold relationRoles
    rw [typed_of_unasked agree relation unasked, type]
  · unfold textRoles plainRoles
    rw [type, property]

theorem propertyValue_of_agree (agree : Agree a b) {values : Values} (read : values.ReadAt place b)
    (unasked : a.about = b.about ∨ place.asks b = false) (stated : values.properties ≠ [])
    (roles : Roles) : propertyValue a values roles = propertyValue b values roles := by
  have type : a.type = b.type := agree.first _ (by decide) (by decide)
  have content : a.content = b.content := agree.first _ (by decide) (by decide)
  have datatype : a.datatype = b.datatype := agree.first _ (by decide) (by decide)
  have property : b.property.isSome = true := by
    rw [read.properties] at stated
    cases given : b.property with
    | none =>
      rw [given] at stated
      exact absurd rfl stated
    | some value => rfl
  unfold propertyValue
  rw [hasRelation_of_agree agree, content, datatype, type]
  rcases unasked with same | unasked
  · rw [same]
  · split
    · rfl
    · next silent =>
      split
      · rfl
      · next untagged =>
        split
        · rfl
        · next unled =>
          have untyped : b.type.isSome = false := by
            have speaks : b.speaksOfText = true := by
              simp [Attributes.speaksOfText, property, silent, Option.not_isSome_iff_eq_none.mp untagged]
            rw [read.target] at unled
            rw [Place.asks, speaks] at unasked
            cases relation : b.hasRelation <;> simp_all
          rw [untyped, Bool.false_and, Bool.false_and]

theorem describe_of_agree (agree : Agree a b) {values : Values} (read : values.ReadAt place b)
    (unasked : a.about = b.about ∨ place.asks b = false) (scope : Scope) (roles : Roles) :
    describe processing scope a values roles = describe processing scope b values roles := by
  have datatype : a.datatype = b.datatype := agree.first _ (by decide) (by decide)
  unfold describe resolveDatatype
  rw [datatype]
  by_cases unstated : values.properties = []
  · simp only [unstated, List.isEmpty_nil, if_true]
  · rw [propertyValue_of_agree agree read unasked unstated roles]

theorem speak_of_agree (agree : Agree a b) {r : Reckoned} (right : r.Right place b)
    (unasked : a.about = b.about ∨ place.asks b = false) :
    r.speak processing place a = r.speak processing place b := by
  unfold Reckoned.speak Reckoned.conclude relate
  simp only [hasRelation_of_agree agree, describe_of_agree agree right.values unasked]

theorem Work.States.bind_congr {α β : Type} {facts : List Emission} {yields : α → Prop}
    {work : Work α} {next others : α → Work β} (states : States facts yields work)
    (alike : ∀ value, yields value → next value = others value) : work >>= next = work >>= others := by
  funext output
  have same := alike _ (states.yielded output)
  show (next (work.run output).1).run _ = (others (work.run output).1).run _
  rw [same]

theorem process_of_agree (agree : Agree a b)
    (about : resolveResource processing (place.scope b) place.base a.about =
      resolveResource processing (place.scope b) place.base b.about)
    (resource : resolveResource processing (place.scope b) place.base a.resource =
      resolveResource processing (place.scope b) place.base b.resource)
    (unasked : a.about = b.about ∨ place.asks b = false) :
    process processing place a = process processing place b := by
  have reckoned : reckon processing place a = reckon processing place b := by
    unfold reckon
    rw [enter_of_agree agree]
    refine (enter_states processing place b).bind_congr fun scope entered => ?_
    subst entered
    rw [resolve_of_agree agree about resource]
    simp only [assign_of_agree agree _ unasked]
  rw [process_eq, process_eq, reckoned]
  exact (reckon_states processing place b).bind_congr fun r right => speak_of_agree agree right unasked

theorem resolveResource_of_unknown (silent : processing.announceWarnings = false) {scope : Scope}
    {value : Text} (unknown : scope.Unknown value) (base : Text) :
    resolveResource processing scope base (some value) = resolveResource processing scope base none := by
  obtain ⟨inner, bracketed, unexpanded⟩ := unknown
  have failed : scope.resolveResource base value = .error (.unknownSafeCurie value) := by
    simp only [Scope.resolveResource, bracketed, unexpanded]
  simp only [resolveResource, failed, warn, silent, Bool.false_eq_true, if_false]
  rfl

theorem process_without_unknown (silent : processing.announceWarnings = false) (place : Place)
    (attributes : Attributes) :
    (∀ value, attributes.resource = some value → (place.scope attributes).Unknown value →
      process processing place attributes = process processing place (attributes.without "resource")) ∧
    (∀ value, attributes.about = some value → (place.scope attributes).Unknown value →
      place.asks attributes = false →
        process processing place attributes = process processing place (attributes.without "about")) := by
  refine ⟨fun value written unknown => ?_, fun value written unknown unasked => ?_⟩
  · have about : (attributes.without "resource").about = attributes.about :=
      attributes.first?_without_of_ne (by decide)
    have gone : (attributes.without "resource").resource = none := attributes.first?_without
    refine (process_of_agree (attributes.without_agree (.inr rfl)) (by rw [about]) ?_ (.inl about)).symm
    rw [gone, written]
    exact (resolveResource_of_unknown silent unknown place.base).symm
  · have resource : (attributes.without "about").resource = attributes.resource :=
      attributes.first?_without_of_ne (by decide)
    have gone : (attributes.without "about").about = none := attributes.first?_without
    refine (process_of_agree (attributes.without_agree (.inl rfl)) ?_ (by rw [resource])
      (.inr unasked)).symm
    rw [gone, written]
    exact (resolveResource_of_unknown silent unknown place.base).symm

-- `about="[n:x]" resource="[n:y]" property="dc:title" content="c"`, where `n` is not declared.
def unexpanded : Attributes :=
  ⟨[("about".toList, "[n:x]".toList), ("resource".toList, "[n:y]".toList),
    ("property".toList, "dc:title".toList), ("content".toList, "c".toList)]⟩

def alone : Place := .outermost "http://e/".toList

theorem process_unexpanded :
    process .silent alone unexpanded =
        process .silent alone (unexpanded.without "resource") ∧
      process .silent alone unexpanded = process .silent alone (unexpanded.without "about") := by
  have silent : Processing.silent.announceWarnings = false := rfl
  obtain ⟨resource, about⟩ := process_without_unknown silent alone unexpanded
  refine ⟨resource "[n:y]".toList (by decide) ⟨"n:y".toList, by decide, by decide +kernel⟩, ?_⟩
  exact about "[n:x]".toList (by decide) ⟨"n:x".toList, by decide, by decide +kernel⟩ (by decide)

-- `about="[n:x]" rel="license" typeof="foaf:P"` states nothing. Without `about` there is a node of the
-- type, and the relation leads to it.
def unread : Attributes :=
  ⟨[("about".toList, "[n:x]".toList), ("rel".toList, "license".toList),
    ("typeof".toList, "foaf:P".toList)]⟩

theorem unread_differs :
    (alone.scope unread).Unknown "[n:x]".toList ∧
      ((process .silent alone unread).run ⟨.none, []⟩).2.sent = [] ∧
      ((process .silent alone (unread.without "about")).run ⟨.none, []⟩).2.sent.map
        (fun emission => (emission.triple.subject, emission.triple.object)) =
      [("_:b0".toList, "http://xmlns.com/foaf/0.1/P".toList), ("http://e/".toList, "_:b0".toList)] :=
  ⟨⟨"n:x".toList, by decide, by decide +kernel⟩, by decide +kernel, by decide +kernel⟩

end Element
end Rdfa
