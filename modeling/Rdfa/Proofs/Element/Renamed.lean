import Rdfa.Proofs.Element.Renaming

-- The rules for a start tag, one by one, in two runs that name their nodes differently.
namespace Rdfa.Element

open Naming Work

def Work.Reports (work : Work Unit) : Prop :=
  ∀ output, ∃ minted sent, output.nodes.minted ≤ minted ∧
    (work.run output).2 = ⟨{ output.nodes with minted }, output.sent ++ sent⟩ ∧
      ∀ emission ∈ sent, emission.graph = .processor

variable {marks : List (Text × Text)} {visible : Graph → Bool} {naming : Naming}
  {processing other : Processing}

theorem hidden_abreast (unseen : visible .processor = false) {first second : Work Unit}
    (here : first.Reports) (there : second.Reports) :
    Abreast marks visible naming (fun _ _ _ => True) first second := by
  intro o p joins
  obtain ⟨m, sent, least, left, reports⟩ := here o
  obtain ⟨n, others, least', left', reports'⟩ := there p
  refine ⟨naming, Within.refl naming, ?_, trivial, sent, others, ?_, ?_,
    .hidden unseen reports reports'⟩
  · rw [left, left']
    exact joins.skip least least'
  · rw [left]
  · rw [left']

theorem warn_reports (processing : Processing) (warning : Warning) :
    (warn processing warning).Reports := by
  intro output
  cases reported : processing.announceWarnings with
  | false =>
    refine ⟨output.nodes.minted, [], Nat.le_refl _, ?_, by simp⟩
    rw [List.append_nil]
    simp only [warn, reported, Bool.false_eq_true, if_false]
    rfl
  | true =>
    have ran : ((warn processing warning).run output).2 =
        ⟨{ output.nodes with minted := output.nodes.minted + 1 }, output.sent ++
          [⟨.processor, link (Nodes.name output.nodes.minted) Vocabulary.rdfType warning.kind.iri⟩,
            ⟨.processor, literal (Nodes.name output.nodes.minted) Vocabulary.description
              warning.message none none⟩]⟩ := by
      simp only [warn, reported, if_true]
      rfl
    exact ⟨_, _, Nat.le_succ _, ran, by simp⟩

theorem warn_abreast (comparable : processing.Comparable visible other) (warning : Warning) :
    Abreast marks visible naming (fun _ _ _ => True) (warn processing warning)
      (warn other warning) := by
  cases seen : visible .processor with
  | false => exact hidden_abreast seen (warn_reports _ _) (warn_reports _ _)
  | true =>
    unfold warn
    rw [(comparable.reports seen).1]
    split
    · refine mint_abreast.bind fun wider node twin _ term => send_abreast ?_
      have kind : isLabel warning.kind.iri = false := by cases warning.kind <;> decide
      exact .cons (.link .processor term (by decide) (.plain kind))
        (.cons (.literal .processor term (by decide) _ (by simp) _) .nil)
    · exact .pure trivial

theorem warnAll_abreast (comparable : processing.Comparable visible other)
    (warnings : List Warning) :
    Abreast marks visible naming (fun _ _ _ => True) (warnAll processing warnings)
      (warnAll other warnings) := by
  induction warnings generalizing naming with
  | nil => exact .pure trivial
  | cons warning rest ih => exact (warn_abreast comparable warning).andThen fun _ _ => ih

def announcePrefix (processing : Processing) (name iri : Text) : Work Unit :=
  if processing.announcePrefixes then send [⟨.processor, prefixReport name iri⟩] else pure ()

theorem announcePrefix_reports (processing : Processing) (name iri : Text) :
    (announcePrefix processing name iri).Reports := by
  intro output
  unfold announcePrefix
  split
  · exact ⟨output.nodes.minted, [⟨.processor, prefixReport name iri⟩], Nat.le_refl _, rfl, by simp⟩
  · refine ⟨output.nodes.minted, [], Nat.le_refl _, ?_, by simp⟩
    rw [List.append_nil]
    rfl

theorem announcePrefix_abreast (comparable : processing.Comparable visible other)
    (name iri : Text) :
    Abreast marks visible naming (fun _ _ _ => True) (announcePrefix processing name iri)
      (announcePrefix other name iri) := by
  cases seen : visible .processor with
  | false => exact hidden_abreast seen (announcePrefix_reports _ _ _) (announcePrefix_reports _ _ _)
  | true =>
    unfold announcePrefix
    rw [(comparable.reports seen).2]
    split
    · exact send_abreast (.cons (.prefixReport name iri) .nil)
    · exact .pure trivial

theorem declareAll_of_ok {scope declared : Scope} {name iri : Text} {rest : List (Text × Text)}
    (accepted : scope.declare name iri = .ok declared) :
    declareAll processing scope ((name, iri) :: rest) =
      announcePrefix processing name iri >>= fun _ => declareAll processing declared rest := by
  rw [declareAll, accepted]
  unfold announcePrefix
  dsimp only
  split <;> rfl

theorem declareAll_of_error {scope : Scope} {name iri : Text} {rest : List (Text × Text)}
    {warning : Warning} (rejected : scope.declare name iri = .error warning) :
    declareAll processing scope ((name, iri) :: rest) =
      warn processing warning >>= fun _ => declareAll processing scope rest := by
  rw [declareAll, rejected]

theorem declareAll_abreast (comparable : processing.Comparable visible other) {s t : Scope}
    (scopes : naming.Scopes s t) (declared : List (Text × Text)) :
    Abreast marks visible naming (fun wider a b => a = declaredIn s declared ∧ wider.Scopes a b)
      (declareAll processing s declared) (declareAll other t declared) := by
  induction declared generalizing naming s t with
  | nil => exact .pure ⟨rfl, scopes⟩
  | cons pair rest ih =>
    obtain ⟨name, iri⟩ := pair
    rcases scopes.declare name iri with ⟨warning, here, there⟩ | ⟨s', t', here, there, alike⟩
    · have kept : declaredIn s ((name, iri) :: rest) = declaredIn s rest := by
        simp [declaredIn, here, Except.toOption]
      rw [declareAll_of_error here, declareAll_of_error there, kept]
      exact (warn_abreast comparable warning).andThen fun _ within => ih (scopes.mono within)
    · have moved : declaredIn s ((name, iri) :: rest) = declaredIn s' rest := by
        simp [declaredIn, here, Except.toOption]
      rw [declareAll_of_ok here, declareAll_of_ok there, moved]
      exact (announcePrefix_abreast comparable name iri).andThen fun _ within =>
        ih (alike.mono within)

theorem enterVocabulary_abreast {base : Text} (absolute : Iri.isAbsolute base = true)
    (attributes : Attributes) {s t : Scope} (scopes : naming.Scopes s t) :
    Abreast marks visible naming
      (fun wider a b => a = vocabularyIn base attributes s ∧ wider.Scopes a b)
      (enterVocabulary base attributes s) (enterVocabulary base attributes t) := by
  unfold enterVocabulary vocabularyIn
  cases attributes.vocab with
  | none => exact .pure ⟨rfl, scopes⟩
  | some value =>
    cases value with
    | nil => exact .pure ⟨rfl, { scopes with vocabulary := rfl }⟩
    | cons c value =>
      refine Abreast.andThen (send_abreast (.cons ?_ .nil)) fun wider within => .pure ⟨rfl, ?_⟩
      · exact .link .default (.plain (Iri.isLabel_of_isAbsolute absolute)) (by decide)
          (.plain (Iri.isLabel_of_isAbsolute (Iri.isAbsolute_resolve absolute _)))
      · exact { scopes.mono within with vocabulary := rfl }

theorem Naming.Scopes.enterLanguage {s t : Scope} (scopes : naming.Scopes s t)
    (attributes : Attributes) :
    naming.Scopes (Element.enterLanguage attributes s) (Element.enterLanguage attributes t) := by
  unfold Element.enterLanguage
  split
  · exact scopes
  · exact { scopes with language := rfl }
  · exact { scopes with language := rfl }

theorem enter_abreast (comparable : processing.Comparable visible other) {place beside : Place}
    (places : naming.Places place beside) (attributes : Attributes) :
    Abreast marks visible naming (fun wider a b => a = place.scope attributes ∧ wider.Scopes a b)
      (enter processing place attributes) (enter other beside attributes) := by
  unfold enter enterPrefixes
  rw [places.base]
  refine (enterVocabulary_abreast places.absolute attributes places.parent).bind
    fun wider a b _ ⟨entered, scopes⟩ => ?_
  subst entered
  refine Abreast.bind (Abreast.andThen (warnAll_abreast comparable _) fun _ within =>
    declareAll_abreast comparable (scopes.mono within) _) fun wider a b _ ⟨declared, alike⟩ => ?_
  subst declared
  exact .pure ⟨rfl, alike.enterLanguage attributes⟩

theorem resolveTokens_abreast (comparable : processing.Comparable visible other) {s t : Scope}
    (scopes : naming.Scopes s t) {tokens : List Text}
    (unlabelled : ∀ token ∈ tokens, s.unlabelled token = true) :
    Abreast marks visible naming (fun _ a b => b = a ∧ ∀ iri ∈ a, isLabel iri = false)
      (resolveTokens processing s tokens) (resolveTokens other t tokens) := by
  induction tokens generalizing naming with
  | nil => exact .pure ⟨rfl, by simp⟩
  | cons token rest ih =>
    obtain ⟨first, others⟩ := List.forall_mem_cons.mp unlabelled
    unfold resolveTokens
    rw [scopes.resolveToken]
    cases found : s.resolveToken token with
    | ok iri =>
      refine (ih scopes others).bind fun _ a b _ ⟨same, plain⟩ => .pure ⟨by rw [same], ?_⟩
      exact List.forall_mem_cons.mpr ⟨Scope.unlabelled_of_ok first found, plain⟩
    | error warning =>
      exact (warn_abreast comparable warning).andThen fun _ within =>
        ih (scopes.mono within) others

theorem resolveResource_abreast (comparable : processing.Comparable visible other) {s t : Scope}
    (scopes : naming.Scopes s t) (base : Text) (value : Option Text) :
    Abreast marks visible naming Terms (resolveResource processing s base value)
      (resolveResource other t base value) := by
  unfold resolveResource
  cases value with
  | none => exact .pure .none
  | some value =>
    dsimp only
    rw [scopes.resolveResource]
    cases s.resolveResource base value with
    | ok term =>
      dsimp only
      cases label : isLabel term with
      | true => exact (nodeOf_abreast term).bind fun _ a b _ node => .pure (.some node)
      | false => exact .pure (.some (.plain label))
    | error warning => exact (warn_abreast comparable warning).andThen fun _ _ => .pure .none

theorem resolveList_abreast (comparable : processing.Comparable visible other) {s t : Scope}
    (scopes : naming.Scopes s t) {attributes : Attributes} (unlabelled : Unlabelled s attributes)
    {value : Option Text}
    (listed : value ∈ [attributes.type, attributes.rel, attributes.rev, attributes.property]) :
    Abreast marks visible naming (fun _ a b => b = a ∧ ∀ iri ∈ a, isLabel iri = false)
      (resolveList processing s value) (resolveList other t value) :=
  resolveTokens_abreast comparable scopes (unlabelled.list value listed)

theorem resolve_abreast (comparable : processing.Comparable visible other) {s t : Scope}
    (scopes : naming.Scopes s t) {base : Text} (absolute : Iri.isAbsolute base = true)
    {attributes : Attributes} (unlabelled : Unlabelled s attributes) :
    Abreast marks visible naming Naming.Values (resolve processing s base attributes)
      (resolve other t base attributes) := by
  unfold resolve
  refine (resolveList_abreast comparable scopes unlabelled (by simp)).bind
    fun n₁ types _ within₁ ⟨same₁, plain₁⟩ => ?_
  have scopes := scopes.mono within₁
  refine (resolveList_abreast comparable scopes unlabelled (by simp)).bind
    fun n₂ rels _ within₂ ⟨same₂, plain₂⟩ => ?_
  have scopes := scopes.mono within₂
  refine (resolveList_abreast comparable scopes unlabelled (by simp)).bind
    fun n₃ revs _ within₃ ⟨same₃, plain₃⟩ => ?_
  have scopes := scopes.mono within₃
  refine (resolveList_abreast comparable scopes unlabelled (by simp)).bind
    fun n₄ properties _ within₄ ⟨same₄, plain₄⟩ => ?_
  have scopes := scopes.mono within₄
  refine (resolveResource_abreast comparable scopes base _).bind fun n₅ about _ within₅ terms => ?_
  refine (resolveResource_abreast comparable (scopes.mono within₅) base _).bind
    fun n₆ resource _ within₆ named => ?_
  subst same₁ same₂ same₃ same₄
  have pointed : n₆.Terms ((attributes.href.or attributes.src).map (Iri.resolve base))
      ((attributes.href.or attributes.src).map (Iri.resolve base)) := by
    cases attributes.href.or attributes.src with
    | none => exact .none
    | some reference =>
      exact .some (.plain (Iri.isLabel_of_isAbsolute (Iri.isAbsolute_resolve absolute reference)))
  refine .pure ⟨rfl, rfl, rfl, rfl, ?_, terms.mono within₆, named.or pointed⟩
  intro iri present
  simp only [List.mem_append] at present
  rcases present with ((type | rel) | rev) | property
  · exact plain₁ iri type
  · exact plain₂ iri rel
  · exact plain₃ iri rev
  · exact plain₄ iri property

variable {place beside : Place} {values others : Element.Values} {attributes : Attributes}

theorem textRoles_abreast (places : naming.Places place beside)
    (alike : naming.Values values others) :
    Abreast marks visible naming Naming.Roles (textRoles place attributes values)
      (textRoles beside attributes others) := by
  have base : naming.Term place.base place.base :=
    .plain (Iri.isLabel_of_isAbsolute places.absolute)
  have subject := alike.about.or places.subject
  have typed {wider : Naming} (within : naming.Within wider) {a b : Text} (term : wider.Term a b) :
      wider.Roles ⟨values.about.or place.subject, some a, some a, false⟩
        ⟨others.about.or beside.subject, some b, some b, false⟩ :=
    ⟨subject.mono within, .some term, .some term, rfl⟩
  unfold textRoles
  dsimp only
  split
  · have about := alike.about
    have target := alike.target
    rw [places.base, places.isRoot]
    generalize values.about = here at about typed ⊢
    generalize others.about = there at about typed ⊢
    generalize values.target = object at target ⊢
    generalize others.target = object' at target ⊢
    cases about with
    | some about => exact .pure (typed (Within.refl naming) about)
    | none =>
      dsimp only
      split
      · exact .pure (typed (Within.refl naming) base)
      · cases target with
        | some target => exact .pure (typed (Within.refl naming) target)
        | none => exact mint_abreast.bind fun _ _ _ within node => .pure (typed within node)
  · exact .pure ⟨subject, .none, .none, rfl⟩

theorem plainRoles_abreast (places : naming.Places place beside)
    (alike : naming.Values values others) :
    Abreast marks visible naming Naming.Roles (plainRoles place attributes values)
      (plainRoles beside attributes others) := by
  have base : naming.Term place.base place.base :=
    .plain (Iri.isLabel_of_isAbsolute places.absolute)
  have typed {a b : Text} (term : naming.Term a b) :
      naming.Terms (if attributes.type.isSome then some a else none)
        (if attributes.type.isSome then some b else none) := by
    split
    · exact .some term
    · exact .none
  have named := alike.about.or alike.target
  unfold plainRoles
  rw [places.base, places.isRoot]
  generalize values.about.or values.target = here at named ⊢
  generalize others.about.or others.target = there at named ⊢
  cases named with
  | some subject => exact .pure ⟨.some subject, .none, typed subject, rfl⟩
  | none =>
    dsimp only
    split
    · exact .pure ⟨.some base, .none, typed base, rfl⟩
    · split
      · exact mint_abreast.bind fun _ _ _ _ node => .pure ⟨.some node, .none, .some node, rfl⟩
      · exact .pure ⟨places.parent.object, .none, .none, rfl⟩

theorem relationRoles_abreast (places : naming.Places place beside)
    (alike : naming.Values values others) :
    Abreast marks visible naming Naming.Roles (relationRoles place attributes values)
      (relationRoles beside attributes others) := by
  have subject := alike.about.or places.subject
  unfold relationRoles
  dsimp only
  split
  · have target := alike.target
    generalize values.target = here at target ⊢
    generalize others.target = there at target ⊢
    cases target with
    | some target => exact .pure ⟨subject, .some target, .some target, rfl⟩
    | none =>
      exact mint_abreast.bind fun _ _ _ within node =>
        .pure ⟨subject.mono within, .some node, .some node, rfl⟩
  · refine .pure ⟨subject, alike.target, ?_, rfl⟩
    split
    · exact alike.about
    · exact .none

theorem assign_abreast (places : naming.Places place beside)
    (alike : naming.Values values others) :
    Abreast marks visible naming Naming.Roles (assign place attributes values)
      (assign beside attributes others) := by
  unfold assign
  split
  · exact relationRoles_abreast places alike
  · split
    · exact textRoles_abreast places alike
    · exact plainRoles_abreast places alike

variable {roles theirs : Element.Roles}

theorem sendTypes_abreast (alike : naming.Values values others)
    (parts : naming.Roles roles theirs) :
    Abreast marks visible naming (fun _ _ _ => True) (sendTypes values roles)
      (sendTypes others theirs) := by
  have typed := parts.typed
  unfold sendTypes
  rw [alike.types]
  generalize roles.typed = here at typed ⊢
  generalize theirs.typed = there at typed ⊢
  cases typed with
  | none => exact .pure trivial
  | some typed =>
    refine send_abreast (.map fun type present => .link .default typed (by decide) (.plain ?_))
    exact alike.plain type (by simp [present])

theorem Naming.Values.plain_rels (alike : naming.Values values others) :
    ∀ iri ∈ values.rels, isLabel iri = false :=
  fun iri present => alike.plain iri (by simp [present])

theorem Naming.Values.plain_revs (alike : naming.Values values others) :
    ∀ iri ∈ values.revs, isLabel iri = false :=
  fun iri present => alike.plain iri (by simp [present])

structure Naming.Related (naming : Naming) (first second : Element.Roles × List Incomplete) :
    Prop where
  roles : naming.Roles first.1 second.1
  incomplete : second.2 = first.2
  plain : ∀ waiting ∈ first.2, isLabel waiting.predicate = false

theorem hanging_abreast (alike : naming.Values values others) (parts : naming.Roles roles theirs) :
    Abreast marks visible naming Naming.Related
      (do
        let node ← mint
        return ({ roles with object := some node },
          values.rels.map (⟨·, true⟩) ++ values.revs.map (⟨·, false⟩)))
      (do
        let node ← mint
        return ({ theirs with object := some node },
          values.rels.map (⟨·, true⟩) ++ values.revs.map (⟨·, false⟩))) := by
  refine mint_abreast.bind fun _ _ _ within node => .pure ⟨?_, rfl, ?_⟩
  · exact ⟨parts.subject.mono within, .some node, parts.typed.mono within, parts.skipped⟩
  · intro waiting present
    simp only [List.mem_append, List.mem_map] at present
    rcases present with ⟨iri, inside, rfl⟩ | ⟨iri, inside, rfl⟩
    · exact alike.plain_rels iri inside
    · exact alike.plain_revs iri inside

theorem related_abreast (alike : naming.Values values others) (parts : naming.Roles roles theirs)
    {subject subject' object object' : Text} (here : naming.Term subject subject')
    (there : naming.Term object object') :
    Abreast marks visible naming Naming.Related
      (do
        send (values.rels.map fun rel => ⟨.default, link subject rel object⟩)
        send (values.revs.map fun rev => ⟨.default, link object rev subject⟩)
        return (roles, []))
      (do
        send (values.rels.map fun rel => ⟨.default, link subject' rel object'⟩)
        send (values.revs.map fun rev => ⟨.default, link object' rev subject'⟩)
        return (theirs, [])) := by
  refine Abreast.andThen (send_abreast (.map fun rel present => ?_)) fun _ within => ?_
  · exact .link .default here (alike.plain_rels rel present) there
  · refine Abreast.andThen (send_abreast (.map fun rev present => ?_)) fun _ within' => ?_
    · exact .link .default (there.mono within) (alike.plain_revs rev present) (here.mono within)
    · exact .pure ⟨parts.mono (within.trans within'), rfl, by simp⟩

theorem relate_abreast (alike : naming.Values values others)
    (parts : naming.Roles roles theirs) :
    Abreast marks visible naming Naming.Related (relate attributes values roles)
      (relate attributes others theirs) := by
  unfold relate
  rw [alike.rels, alike.revs]
  split
  · obtain ⟨subject, object, typed, skipped⟩ := roles
    obtain ⟨subject', object', typed', skipped'⟩ := theirs
    have named : naming.Terms subject subject' := parts.subject
    have reached : naming.Terms object object' := parts.object
    cases named with
    | none => exact hanging_abreast alike parts
    | some subject =>
      cases reached with
      | none => exact hanging_abreast alike parts
      | some object => exact related_abreast alike parts subject object
  · exact .pure ⟨parts, rfl, by simp⟩

theorem resolveDatatype_abreast (comparable : processing.Comparable visible other) {s t : Scope}
    (scopes : naming.Scopes s t) (unlabelled : Unlabelled s attributes) :
    Abreast marks visible naming (fun _ a b => b = a ∧ ∀ iri, a = some iri → isLabel iri = false)
      (resolveDatatype processing s attributes) (resolveDatatype other t attributes) := by
  unfold resolveDatatype
  cases given : attributes.datatype.map Text.trim with
  | none => exact .pure ⟨rfl, by simp⟩
  | some token =>
    cases token with
    | nil => exact .pure ⟨rfl, by simp⟩
    | cons c token =>
      dsimp only
      rw [scopes.resolveToken]
      cases found : s.resolveToken (c :: token) with
      | ok datatype =>
        refine .pure ⟨rfl, fun iri same => ?_⟩
        cases same
        exact Scope.unlabelled_of_ok (unlabelled.datatype _ given) found
      | error warning =>
        exact (warn_abreast comparable warning).andThen fun _ _ => .pure ⟨rfl, by simp⟩

inductive Naming.Gives (naming : Naming) : PropertyValue → PropertyValue → Prop where
  | node {a b : Option Text} (terms : naming.Terms a b) : Gives naming (.node a) (.node b)
  | content (value : Text) : Gives naming (.content value) (.content value)
  | text : Gives naming .text .text

theorem Naming.Values.propertyValue (alike : naming.Values values others)
    (attributes : Attributes) (parts : naming.Roles roles theirs) :
    naming.Gives (Element.propertyValue attributes values roles)
      (Element.propertyValue attributes others theirs) := by
  have same : others.target.isSome = values.target.isSome := by
    have target := alike.target
    generalize values.target = here at target ⊢
    generalize others.target = there at target ⊢
    cases target <;> rfl
  unfold Element.propertyValue
  rw [same]
  split
  · exact .content _
  · split
    · exact .text
    · split
      · exact .node alike.target
      · split
        · exact .node parts.typed
        · exact .text

theorem describe_abreast (comparable : processing.Comparable visible other) {s t : Scope}
    (scopes : naming.Scopes s t) (unlabelled : Unlabelled s attributes)
    (alike : naming.Values values others) (parts : naming.Roles roles theirs) :
    Abreast marks visible naming Waits
      (describe processing s attributes values roles)
      (describe other t attributes others theirs) := by
  have plain : ∀ iri ∈ values.properties, isLabel iri = false :=
    fun iri present => alike.plain iri (by simp [present])
  have gives := alike.propertyValue attributes parts
  have named := parts.subject
  unfold describe
  rw [alike.properties, scopes.language]
  generalize roles.subject = here at named ⊢
  generalize theirs.subject = there at named ⊢
  cases named with
  | none => exact .pure .none
  | some subject =>
    dsimp only
    split
    · exact .pure .none
    · refine (resolveDatatype_abreast comparable scopes unlabelled).bind
        fun wider datatype _ within ⟨same, typed⟩ => ?_
      subst same
      have subject := subject.mono within
      generalize Element.propertyValue attributes values roles = value at gives ⊢
      generalize Element.propertyValue attributes others theirs = value' at gives ⊢
      cases gives with
      | node terms =>
        cases terms with
        | none => exact .pure .none
        | some term =>
          refine Abreast.andThen (send_abreast (.map fun property present => ?_))
            fun _ _ => .pure .none
          exact .link .default subject (plain property present) (term.mono within)
      | content value =>
        refine Abreast.andThen (send_abreast (.map fun property present => ?_))
          fun _ _ => .pure .none
        exact .literal .default subject (plain property present) value typed _
      | text => exact .pure (.some ⟨subject, rfl, plain, rfl, typed, rfl, rfl⟩)

theorem completions_alike {parent theirs : Scope} (scopes : naming.Scopes parent theirs)
    {a b : Text} (term : naming.Term a b) :
    naming.Alike visible (completions parent a) (completions theirs b) := by
  unfold completions
  rw [scopes.incomplete]
  refine .map fun waiting present => ?_
  split
  · exact .link .default scopes.subject (scopes.plain waiting present) term
  · exact .link .default term (scopes.plain waiting present) scopes.subject

theorem Naming.Scopes.leave {parent parent' s t : Scope} (around : naming.Scopes parent parent')
    (scopes : naming.Scopes s t) (parts : naming.Roles roles theirs) {incomplete : List Incomplete}
    (plain : ∀ waiting ∈ incomplete, isLabel waiting.predicate = false) :
    naming.Scopes (Element.leave parent s roles incomplete)
      (Element.leave parent' t theirs incomplete) := by
  have getD {a b : Option Text} (terms : naming.Terms a b) :
      naming.Term (a.getD parent.parentSubject) (b.getD parent'.parentSubject) := by
    cases terms with
    | some term => exact term
    | none => exact around.subject
  unfold Element.leave
  rw [parts.skipped]
  split
  · exact scopes
  · exact { scopes with
      subject := getD parts.subject
      object := .some (getD (parts.object.or parts.subject))
      incomplete := rfl
      plain }

theorem process_abreast (comparable : processing.Comparable visible other)
    (places : naming.Places place beside) (unlabelled : place.unlabelled attributes = true) :
    Abreast marks visible naming
      (fun wider a b => wider.Scopes a.1 b.1 ∧ wider.Waits a.2 b.2)
      (process processing place attributes) (process other beside attributes) := by
  have tokens := Place.unlabelled_iff.mp unlabelled
  unfold process
  refine (enter_abreast comparable places attributes).bind fun n₁ s t w₁ ⟨entered, scopes⟩ => ?_
  subst entered
  rw [places.base]
  refine (resolve_abreast comparable scopes places.absolute tokens).bind
    fun n₂ values others w₂ alike => ?_
  refine (assign_abreast ((places.mono w₁).mono w₂) alike).bind fun n₃ roles theirs w₃ parts => ?_
  have alike := alike.mono w₃
  refine (sendTypes_abreast alike parts).andThen fun n₄ w₄ => ?_
  refine (relate_abreast (alike.mono w₄) (parts.mono w₄)).bind
    fun n₅ ⟨roles, incomplete⟩ ⟨theirs, incomplete'⟩ w₅ ⟨parts, same, plain⟩ => ?_
  dsimp only at same plain parts ⊢
  subst same
  have within := (w₁.trans w₂).trans ((w₃.trans w₄).trans w₅)
  have scopes := scopes.mono (w₂.trans ((w₃.trans w₄).trans w₅))
  refine (describe_abreast comparable scopes tokens ((alike.mono w₄).mono w₅) parts).bind
    fun n₆ pending pending' w₆ waits => ?_
  have around := (places.mono (within.trans w₆)).parent
  have left := around.leave (scopes.mono w₆) (parts.mono w₆) plain
  have named := parts.subject
  rw [parts.skipped]
  generalize roles.skipped = skipped
  generalize roles.subject = subject at named ⊢
  generalize theirs.subject = subject' at named ⊢
  cases skipped with
  | true => exact .pure ⟨left, waits⟩
  | false =>
    cases named with
    | none => exact .pure ⟨left, waits⟩
    | some term =>
      refine (send_abreast (completions_alike around (term.mono w₆))).andThen fun n₇ w₇ => .pure ?_
      exact ⟨left.mono w₇, waits.mono w₇⟩

end Rdfa.Element
