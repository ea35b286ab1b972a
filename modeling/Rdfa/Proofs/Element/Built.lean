import Rdfa.Proofs.Element.Kinds
import Rdfa.Proofs.Element.Renamed

-- The rules for a start tag as they are put together: statements that are sent, reports of prefixes, and
-- nodes that are made or named. Whatever these steps keep, and what one after the other keeps, the rules keep.
namespace Rdfa

def Processing.hushed (processing : Processing) : Processing :=
  { processing with announcePrefixes := false }

namespace Element

inductive Stated (kinds : Kinds) : RawTriple → Prop where
  | link {subject predicate object : Text} (node : kinds.node subject) (word : kinds.word predicate)
      (other : kinds.node object) : Stated kinds (Element.link subject predicate object)
  | literal {subject predicate : Text} (value : Text) {datatype language : Option Text}
      (node : kinds.node subject) (word : kinds.word predicate)
      (typed : ∀ iri ∈ datatype, kinds.word iri) (spoken : ∀ tag ∈ language, kinds.language tag) :
      Stated kinds (Element.literal subject predicate value datatype language)

-- Work put together of these steps, and the same work without the reports of prefixes. Its value has `yields`.
inductive Work.Built (kinds : Kinds) : {α : Type} → (α → Prop) → Work α → Work α → Prop where
  | pure {α : Type} {yields : α → Prop} {value : α} (held : yields value) :
      Built kinds yields (pure value) (pure value)
  | send {emissions : List Emission} (stated : ∀ emission ∈ emissions, Stated kinds emission.triple) :
      Built kinds (fun _ => True) (send emissions) (send emissions)
  | report (name iri : Text) :
      Built kinds (fun _ => True) (send [⟨.processor, prefixReport name iri⟩]) (pure ())
  | mint : Built kinds kinds.node mint mint
  | nodeOf (label : Text) : Built kinds kinds.node (nodeOf label) (nodeOf label)
  | bind {α β : Type} {yields : α → Prop} {after : β → Prop} {work hushed : Work α}
      {next others : α → Work β} (first : Built kinds yields work hushed)
      (second : ∀ value, yields value → Built kinds after (next value) (others value)) :
      Built kinds after (work >>= next) (hushed >>= others)

theorem Work.Built.yielded {α : Type} {yields : α → Prop} {work hushed : Work α}
    (built : Built .any yields work hushed) (output : Output) : yields (work.run output).1 := by
  induction built generalizing output with
  | pure held => exact held
  | send | report | mint | nodeOf => trivial
  | bind _ _ ihFirst ihSecond => exact ihSecond _ (ihFirst output) _

variable {kinds : Kinds} {tags : List Attributes}

structure Place.Sound (kinds : Kinds) (place : Place) : Prop where
  base : kinds.base place.base
  parent : place.parent.Sound kinds

structure Values.Sound (kinds : Kinds) (values : Values) : Prop where
  types : ∀ term ∈ values.types, kinds.node term
  rels : ∀ term ∈ values.rels, kinds.word term
  revs : ∀ term ∈ values.revs, kinds.word term
  properties : ∀ term ∈ values.properties, kinds.word term
  about : ∀ term ∈ values.about, kinds.node term
  target : ∀ term ∈ values.target, kinds.node term

structure Roles.Sound (kinds : Kinds) (roles : Roles) : Prop where
  subject : ∀ term ∈ roles.subject, kinds.node term
  object : ∀ term ∈ roles.object, kinds.node term
  typed : ∀ term ∈ roles.typed, kinds.node term

structure PendingLiteral.Sound (kinds : Kinds) (pending : PendingLiteral) : Prop where
  subject : kinds.node pending.subject
  predicates : ∀ term ∈ pending.predicates, kinds.word term
  datatype : ∀ term ∈ pending.datatype, kinds.word term
  language : ∀ tag ∈ pending.language, kinds.language tag

open Work

section Options

variable {holds : Text → Prop} {first second : Option Text}

theorem forall_mem_or (left : ∀ term ∈ first, holds term) (right : ∀ term ∈ second, holds term) :
    ∀ term ∈ first.or second, holds term := by
  cases first with
  | none => exact right
  | some _ => exact left

theorem forall_mem_some {term : Text} (held : holds term) : ∀ t ∈ some term, holds t := by
  rintro _ ⟨⟩
  exact held

theorem holds_getD {other : Text} (left : ∀ term ∈ first, holds term) (right : holds other) :
    holds (first.getD other) := by
  cases first with
  | none => exact right
  | some term => exact left term rfl

end Options

theorem send_map_built {values : List Text} {statement : Text → Emission}
    (stated : ∀ value ∈ values, Stated kinds (statement value).triple) :
    Built kinds (fun _ => True) (send (values.map statement)) (send (values.map statement)) := by
  refine .send fun emission present => ?_
  obtain ⟨value, listed, rfl⟩ := List.mem_map.mp present
  exact stated value listed

theorem typedObject_built {subject : Option Text} (named : ∀ term ∈ subject, kinds.node term) (node : Text)
    (typed : kinds.node node) : Built kinds (Roles.Sound kinds)
      (pure ⟨subject, some node, some node, false⟩) (pure ⟨subject, some node, some node, false⟩) :=
  .pure ⟨named, forall_mem_some typed, forall_mem_some typed⟩

theorem propertyValue_node {attributes : Attributes} {values : Values} (read : values.Sound kinds)
    {roles : Roles} (assigned : roles.Sound kinds) {term : Text}
    (valued : propertyValue attributes values roles = .node (some term)) : kinds.node term := by
  unfold propertyValue at valued
  split at valued
  · cases valued
  · split at valued
    · cases valued
    · split at valued
      · exact read.target term (PropertyValue.node.inj valued)
      · split at valued
        · exact assigned.typed term (PropertyValue.node.inj valued)
        · cases valued

theorem completions_stated {parent : Scope} (sound : parent.Sound kinds) {subject : Text}
    (named : kinds.node subject) :
    ∀ emission ∈ completions parent subject, Stated kinds emission.triple := by
  intro emission present
  obtain ⟨waiting, listed, rfl⟩ := List.mem_map.mp present
  have word := sound.incomplete waiting listed
  dsimp only
  split
  · exact .link sound.subject word named
  · exact .link named word sound.subject

theorem leave_sound {parent scope : Scope} (around : parent.Sound kinds) (sound : scope.Sound kinds)
    {roles : Roles} (assigned : roles.Sound kinds) {incomplete : List Incomplete}
    (words : ∀ waiting ∈ incomplete, kinds.word waiting.predicate) :
    (leave parent scope roles incomplete).Sound kinds := by
  unfold leave
  split
  · exact sound
  · refine { sound with subject := ?_, object := forall_mem_some ?_, incomplete := words }
    · exact holds_getD assigned.subject around.subject
    · exact holds_getD (forall_mem_or assigned.object assigned.subject) around.subject

theorem announcePrefix_built (processing : Processing) (name iri : Text) : Built kinds (fun _ => True)
    (announcePrefix processing name iri) (announcePrefix processing.hushed name iri) := by
  unfold announcePrefix
  rw [if_neg (show ¬ processing.hushed.announcePrefixes = true from Bool.false_ne_true)]
  split
  · exact .report name iri
  · exact .pure trivial

variable (cover : kinds.Cover tags) (processing : Processing)

include cover

theorem warn_built (warning : Warning) : Built kinds (fun _ => True) (warn processing warning)
    (warn processing.hushed warning) := by
  show Built kinds (fun _ => True) (warn processing warning) (warn processing warning)
  unfold warn
  split
  · refine .bind .mint fun node named => .send ?_
    have known := (cover.own _ (Vocabulary.iri_own warning.kind)).2
    simp only [List.forall_mem_cons]
    exact ⟨.link named (cover.own _ (by decide)).1 known,
      .literal _ named (cover.own _ (by decide)).1 (by simp) (by simp), by simp⟩
  · exact .pure trivial

theorem warnAll_built (warnings : List Warning) : Built kinds (fun _ => True)
    (warnAll processing warnings) (warnAll processing.hushed warnings) := by
  induction warnings with
  | nil => exact .pure trivial
  | cons warning rest ih => exact .bind (warn_built cover processing warning) fun _ _ => ih

omit processing in
theorem enterVocabulary_built {base : Text} (based : kinds.base base) {attributes : Attributes}
    (tag : attributes ∈ tags) {scope : Scope} (sound : scope.Sound kinds) :
    Built kinds (Scope.Sound kinds) (enterVocabulary base attributes scope)
      (enterVocabulary base attributes scope) := by
  unfold enterVocabulary
  split
  · exact .pure sound
  · exact .pure { sound with vocabulary := by simp }
  · next value _ given =>
    have listed : value ∈ attributes.references := by simp [Attributes.references, given]
    have resolved := cover.reference attributes tag value listed base based
    refine .bind (.send ?_) fun _ _ => .pure { sound with vocabulary := forall_mem_some resolved }
    simp only [List.forall_mem_singleton]
    exact .link (cover.node_of_base _ based) (cover.own _ (by decide)).1 (cover.node_of_base _ resolved)

theorem declareAll_built {attributes : Attributes} (tag : attributes ∈ tags)
    (declared : List (Text × Text)) (listed : ∀ pair ∈ declared, pair ∈ attributes.declared)
    {scope : Scope} (sound : scope.Sound kinds) :
    Built kinds (Scope.Sound kinds) (declareAll processing scope declared)
      (declareAll processing.hushed scope declared) := by
  induction declared generalizing scope with
  | nil => exact .pure sound
  | cons pair rest ih =>
    obtain ⟨name, iri⟩ := pair
    obtain ⟨here, later⟩ := List.forall_mem_cons.mp listed
    cases found : scope.declare name iri with
    | ok next =>
      rw [declareAll_of_ok found, declareAll_of_ok found]
      exact .bind (announcePrefix_built processing name iri) fun _ _ =>
        ih later (cover.declare tag sound here found)
    | error warning =>
      rw [declareAll_of_error found, declareAll_of_error found]
      exact .bind (warn_built cover processing warning) fun _ _ => ih later sound

theorem enter_built {place : Place} (sound : place.Sound kinds) {attributes : Attributes}
    (tag : attributes ∈ tags) : Built kinds (Scope.Sound kinds) (enter processing place attributes)
      (enter processing.hushed place attributes) := by
  unfold enter enterPrefixes
  refine .bind (enterVocabulary_built cover sound.base tag sound.parent) fun scope entered => ?_
  refine .bind (.bind (warnAll_built cover processing _) fun _ _ =>
    declareAll_built cover processing tag _ (fun _ present => present) entered) fun scope declared => ?_
  refine .pure ?_
  unfold enterLanguage
  split
  · exact declared
  · exact { declared with language := by simp }
  · next language filled given =>
    have spoken := cover.language attributes tag language given fun empty => filled (empty ▸ rfl)
    exact { declared with language := forall_mem_some spoken }

theorem resolveTokens_built {scope : Scope} {holds : Text → Prop} (tokens : List Text)
    (read : ∀ token ∈ tokens, ∀ term, scope.resolveToken token = .ok term → holds term) :
    Built kinds (fun terms => ∀ term ∈ terms, holds term) (resolveTokens processing scope tokens)
      (resolveTokens processing.hushed scope tokens) := by
  induction tokens with
  | nil => exact .pure (by simp)
  | cons token rest ih =>
    obtain ⟨here, later⟩ := List.forall_mem_cons.mp read
    unfold resolveTokens
    split
    · next resolved =>
      refine .bind (ih later) fun terms held => .pure ?_
      exact List.forall_mem_cons.mpr ⟨here _ resolved, held⟩
    · exact .bind (warn_built cover processing _) fun _ _ => ih later

omit processing in
theorem resolveTerm_word {scope : Scope} (sound : scope.Sound kinds) {attributes : Attributes}
    (tag : attributes ∈ tags) {token : Text} (written : token ∈ attributes.terms) {term : Text}
    (resolved : scope.resolveToken token = .ok term) : kinds.word term :=
  (cover.terms attributes tag).resolveToken (fun term own => (cover.own term own).1) written sound
    resolved

theorem resolveTypes_built {scope : Scope} (sound : scope.Sound kinds) {attributes : Attributes}
    (tag : attributes ∈ tags) : Built kinds (fun terms => ∀ term ∈ terms, kinds.node term)
      (resolveList processing scope attributes.type)
      (resolveList processing.hushed scope attributes.type) :=
  resolveTokens_built cover processing _ fun _ written _ resolved =>
    (cover.types attributes tag).resolveToken (fun term own => (cover.own term own).2) written sound
      resolved

theorem resolveList_built {scope : Scope} (sound : scope.Sound kinds) {attributes : Attributes}
    (tag : attributes ∈ tags) {value : Option Text}
    (listed : value ∈ [attributes.rel, attributes.rev, attributes.property]) :
    Built kinds (fun terms => ∀ term ∈ terms, kinds.word term) (resolveList processing scope value)
      (resolveList processing.hushed scope value) := by
  refine resolveTokens_built cover processing _ fun token inside term resolved => ?_
  have written : token ∈ attributes.terms :=
    List.mem_append_left _ (List.mem_flatMap.mpr ⟨value, listed, inside⟩)
  exact resolveTerm_word cover sound tag written resolved

theorem resolveResource_built {scope : Scope} (sound : scope.Sound kinds) {base : Text}
    (based : kinds.base base) {attributes : Attributes} (tag : attributes ∈ tags) {value : Option Text}
    (listed : ∀ text ∈ value, text ∈ attributes.named) :
    Built kinds (fun node => ∀ term ∈ node, kinds.node term)
      (resolveResource processing scope base value)
      (resolveResource processing.hushed scope base value) := by
  unfold resolveResource
  split
  · exact .pure (by simp)
  · next text =>
    split
    · next resolved =>
      split
      · exact .bind (.nodeOf _) fun _ named => .pure (forall_mem_some named)
      · next plain =>
        refine .pure (forall_mem_some ?_)
        exact cover.resolveResource tag (listed text rfl) sound based resolved
          (Bool.eq_false_iff.mpr plain)
    · exact .bind (warn_built cover processing _) fun _ _ => .pure (by simp)

theorem resolve_built {scope : Scope} (sound : scope.Sound kinds) {base : Text}
    (based : kinds.base base) {attributes : Attributes} (tag : attributes ∈ tags) :
    Built kinds (Values.Sound kinds) (resolve processing scope base attributes)
      (resolve processing.hushed scope base attributes) := by
  unfold resolve
  refine .bind (resolveTypes_built cover processing sound tag) fun types typed => ?_
  refine .bind (resolveList_built cover processing sound tag (by simp)) fun rels forward => ?_
  refine .bind (resolveList_built cover processing sound tag (by simp)) fun revs backward => ?_
  refine .bind (resolveList_built cover processing sound tag (by simp)) fun properties stated => ?_
  refine .bind (resolveResource_built cover processing sound based tag
    fun value given => by simp [Attributes.named, Option.mem_def.mp given]) fun about named => ?_
  refine .bind (resolveResource_built cover processing sound based tag
    fun value given => by simp [Attributes.named, Option.mem_def.mp given]) fun resource given =>
      .pure ?_
  refine ⟨typed, forward, backward, stated, named, forall_mem_or given ?_⟩
  intro term resolved
  obtain ⟨value, linked, rfl⟩ := Option.map_eq_some_iff.mp resolved
  have listed : value ∈ attributes.references := by
    rcases Option.or_eq_some_iff.mp linked with href | ⟨_, src⟩
    · simp [Attributes.references, href]
    · simp [Attributes.references, src]
  exact cover.node_of_base _ (cover.reference attributes tag value listed base based)

section Roles

omit processing

theorem Place.Sound.subject {place : Place} (sound : place.Sound kinds) :
    ∀ term ∈ place.subject, kinds.node term := by
  unfold Place.subject
  split
  · exact forall_mem_some (cover.node_of_base _ sound.base)
  · exact sound.parent.object

theorem relationRoles_built {place : Place} (sound : place.Sound kinds) (attributes : Attributes)
    {values : Values} (read : values.Sound kinds) : Built kinds (Roles.Sound kinds)
      (relationRoles place attributes values) (relationRoles place attributes values) := by
  have subject := forall_mem_or read.about (sound.subject cover)
  unfold relationRoles
  dsimp only
  split
  · split
    · next given => exact .bind (.pure (read.target _ given)) (typedObject_built subject)
    · exact .bind .mint (typedObject_built subject)
  · refine .pure ⟨subject, read.target, ?_⟩
    dsimp only
    split
    · exact read.about
    · simp

theorem textRoles_built {place : Place} (sound : place.Sound kinds) (attributes : Attributes)
    {values : Values} (read : values.Sound kinds) : Built kinds (Roles.Sound kinds)
      (textRoles place attributes values) (textRoles place attributes values) := by
  have subject := forall_mem_or read.about (sound.subject cover)
  unfold textRoles
  dsimp only
  split
  · split
    · next given => exact .bind (.pure (read.about _ given)) (typedObject_built subject)
    · split
      · exact .bind (.pure (cover.node_of_base _ sound.base)) (typedObject_built subject)
      · split
        · next given => exact .bind (.pure (read.target _ given)) (typedObject_built subject)
        · exact .bind .mint (typedObject_built subject)
  · exact .pure ⟨subject, by simp, by simp⟩

theorem plainRoles_built {place : Place} (sound : place.Sound kinds) (attributes : Attributes)
    {values : Values} (read : values.Sound kinds) : Built kinds (Roles.Sound kinds)
      (plainRoles place attributes values) (plainRoles place attributes values) := by
  unfold plainRoles
  split
  · next subject given =>
    have named : kinds.node subject := forall_mem_or read.about read.target _ given
    refine .pure ⟨forall_mem_some named, by simp, ?_⟩
    dsimp only
    split
    · exact forall_mem_some named
    · simp
  · have base : kinds.node place.base := cover.node_of_base _ sound.base
    split
    · refine .pure ⟨forall_mem_some base, by simp, ?_⟩
      dsimp only
      split
      · exact forall_mem_some base
      · simp
    · split
      · exact .bind .mint fun node named =>
          .pure ⟨forall_mem_some named, by simp, forall_mem_some named⟩
      · exact .pure ⟨sound.parent.object, by simp, by simp⟩

theorem assign_built {place : Place} (sound : place.Sound kinds) (attributes : Attributes)
    {values : Values} (read : values.Sound kinds) : Built kinds (Roles.Sound kinds)
      (assign place attributes values) (assign place attributes values) := by
  unfold assign
  split
  · exact relationRoles_built cover sound attributes read
  · split
    · exact textRoles_built cover sound attributes read
    · exact plainRoles_built cover sound attributes read

theorem sendTypes_built {values : Values} (read : values.Sound kinds) {roles : Roles}
    (assigned : roles.Sound kinds) :
    Built kinds (fun _ => True) (sendTypes values roles) (sendTypes values roles) := by
  unfold sendTypes
  split
  · exact .pure trivial
  · next typed given =>
    refine send_map_built fun type listed => ?_
    exact .link (assigned.typed typed given) (cover.own _ (by decide)).1 (read.types type listed)

omit cover in
theorem relate_built (attributes : Attributes) {values : Values} (read : values.Sound kinds)
    {roles : Roles} (assigned : roles.Sound kinds) :
    Built kinds
      (fun related => related.1.Sound kinds ∧ ∀ waiting ∈ related.2, kinds.word waiting.predicate)
      (relate attributes values roles) (relate attributes values roles) := by
  unfold relate
  split
  · split
    · next subject object given found =>
      have here := assigned.subject subject given
      have there := assigned.object object found
      refine .bind (send_map_built fun rel listed => .link here (read.rels rel listed) there) fun _ _ => ?_
      refine .bind (send_map_built fun rev listed => .link there (read.revs rev listed) here) fun _ _ => ?_
      exact .pure ⟨assigned, by simp⟩
    · refine .bind .mint fun node named => .pure ⟨{ assigned with object := forall_mem_some named }, ?_⟩
      refine List.forall_mem_append.mpr ⟨?_, ?_⟩
      · simpa using read.rels
      · simpa using read.revs
  · exact .pure ⟨assigned, by simp⟩

end Roles

theorem resolveDatatype_built {scope : Scope} (sound : scope.Sound kinds) {attributes : Attributes}
    (tag : attributes ∈ tags) : Built kinds (fun datatype => ∀ term ∈ datatype, kinds.word term)
      (resolveDatatype processing scope attributes)
      (resolveDatatype processing.hushed scope attributes) := by
  unfold resolveDatatype
  split
  · exact .pure (by simp)
  · exact .pure (by simp)
  · next token _ given =>
    have written : token ∈ attributes.terms :=
      List.mem_append_right _ (by rw [given]; exact List.mem_singleton_self token)
    split
    · next resolved =>
      refine .pure ?_
      rintro _ ⟨⟩
      exact resolveTerm_word cover sound tag written resolved
    · exact .bind (warn_built cover processing _) fun _ _ => .pure (by simp)

theorem describe_built {scope : Scope} (sound : scope.Sound kinds) {attributes : Attributes}
    (tag : attributes ∈ tags) {values : Values} (read : values.Sound kinds) {roles : Roles}
    (assigned : roles.Sound kinds) :
    Built kinds (fun waiting => ∀ pending ∈ waiting, pending.Sound kinds ∧ pending.pieces = [])
      (describe processing scope attributes values roles)
      (describe processing.hushed scope attributes values roles) := by
  unfold describe
  split
  · exact .pure (by simp)
  · next subject given =>
    have named := assigned.subject subject given
    split
    · exact .pure (by simp)
    · refine .bind (resolveDatatype_built cover processing sound tag) fun datatype typed => ?_
      split
      · exact .pure (by simp)
      · next term valued =>
        refine .bind (send_map_built fun property listed => ?_) fun _ _ => .pure (by simp)
        exact .link named (read.properties property listed) (propertyValue_node read assigned valued)
      · refine .bind (send_map_built fun property listed => ?_) fun _ _ => .pure (by simp)
        exact .literal _ named (read.properties property listed) typed sound.language
      · refine .pure ?_
        rintro _ ⟨⟩
        refine ⟨⟨named, read.properties, typed, ?_⟩, rfl⟩
        dsimp only
        split
        · simp
        · exact sound.language

theorem process_built {place : Place} (sound : place.Sound kinds) {attributes : Attributes}
    (tag : attributes ∈ tags) :
    Built kinds
      (fun entered => entered.1.Sound kinds ∧
        ∀ pending ∈ entered.2, pending.Sound kinds ∧ pending.pieces = [])
      (process processing place attributes) (process processing.hushed place attributes) := by
  unfold process
  refine .bind (enter_built cover processing sound tag) fun scope entered => ?_
  refine .bind (resolve_built cover processing entered sound.base tag) fun values read => ?_
  refine .bind (assign_built cover sound attributes read) fun roles assigned => ?_
  refine .bind (sendTypes_built cover read assigned) fun _ _ => ?_
  refine .bind (relate_built attributes read assigned)
    fun ⟨roles, incomplete⟩ ⟨related, words⟩ => ?_
  refine .bind (describe_built cover processing entered tag read related) fun pending waits => ?_
  have left := leave_sound sound.parent entered related words
  split
  · next subject _ given =>
    exact .bind (.send (completions_stated sound.parent (related.subject subject given)))
      fun _ _ => .pure ⟨left, waits⟩
  · exact .pure ⟨left, waits⟩

omit cover

theorem Place.Sound.any (place : Place) : place.Sound .any := ⟨trivial, .any place.parent⟩

theorem process_built_any (place : Place) (attributes : Attributes) :
    Built .any (fun entered => entered.1.Sound .any ∧
        ∀ pending ∈ entered.2, pending.Sound .any ∧ pending.pieces = [])
      (process processing place attributes) (process processing.hushed place attributes) :=
  process_built (.any [attributes]) processing (.any place) (List.mem_singleton_self attributes)

end Element
end Rdfa
