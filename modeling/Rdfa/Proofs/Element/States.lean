import Rdfa.Proofs.Element.Renamed

-- Work that states the same facts whatever it starts from, and the parts of the rules that are of this
-- kind: all but the minting of nodes.
namespace Rdfa

def Emission.factual (sent : List Emission) : List Emission := sent.filter (·.graph = .default)

theorem Emission.factual_append (sent more : List Emission) :
    factual (sent ++ more) = factual sent ++ factual more := List.filter_append sent more

theorem Emission.factual_of_default {sent : List Emission}
    (stated : ∀ emission ∈ sent, emission.graph = .default) : factual sent = sent :=
  List.filter_eq_self.mpr fun emission present => by simp [stated emission present]

theorem Emission.factual_of_processor {sent : List Emission}
    (reports : ∀ emission ∈ sent, emission.graph = .processor) : factual sent = [] :=
  List.filter_eq_nil_iff.mpr fun emission present => by simp [reports emission present]

-- What the tokens of an attribute stand for, in order. What stands for nothing is left out.
def Scope.iris (scope : Scope) (value : Option Text) : List Text :=
  (Text.words (value.getD [])).filterMap fun token => (scope.resolveToken token).toOption

def Scope.names (scope : Scope) (base : Text) (value : Option Text) : Bool :=
  value.any fun value => (scope.resolveResource base value).toOption.isSome

def Processing.silent : Processing := { announceWarnings := false }

namespace Element

-- Work that states these facts, whatever it starts from, takes no node back and comes to a value with
-- `yields`.
structure Work.States {α : Type} (facts : List Emission) (yields : α → Prop) (work : Work α) :
    Prop where
  yielded : ∀ output, yields (work.run output).1
  stated : ∀ output, Emission.factual (work.run output).2.sent = Emission.factual output.sent ++ facts
  minted : ∀ output, output.nodes.minted ≤ (work.run output).2.nodes.minted

namespace Work.States

variable {α β : Type} {early late : List Emission} {yields also : α → Prop} {after : β → Prop}

theorem silent {work : Work α} (yielded : ∀ output, yields (work.run output).1)
    (same : ∀ output, (work.run output).2.sent = output.sent)
    (minted : ∀ output, output.nodes.minted ≤ (work.run output).2.nodes.minted) :
    States [] yields work := by
  refine ⟨yielded, fun output => ?_, minted⟩
  rw [same, List.append_nil]

theorem pure {value : α} (held : yields value) : States [] yields (pure value : Work α) :=
  silent (fun _ => held) (fun _ => rfl) fun _ => Nat.le_refl _

theorem bind {work : Work α} {next : α → Work β} (first : States early yields work)
    (second : ∀ value, yields value → States late after (next value)) :
    States (early ++ late) after (work >>= next) := by
  refine ⟨fun output => ?_, fun output => ?_, fun output => ?_⟩
  · exact (second _ (first.yielded output)).yielded _
  · have later := (second _ (first.yielded output)).stated (work.run output).2
    rw [first.stated, List.append_assoc] at later
    exact later
  · have later := (second _ (first.yielded output)).minted (work.run output).2
    exact Nat.le_trans (first.minted output) later

theorem bindSilent {work : Work α} {next : α → Work β} (first : States early yields work)
    (second : ∀ value, yields value → States [] after (next value)) :
    States early after (work >>= next) := by
  have both := first.bind second
  rwa [List.append_nil] at both

theorem weaken {work : Work α} (states : States early yields work)
    (implies : ∀ value, yields value → also value) : States early also work :=
  { states with yielded := fun output => implies _ (states.yielded output) }

end Work.States

open Work

theorem Work.Reports.states {work : Work Unit} (reports : work.Reports) :
    States [] (fun _ => True) work := by
  refine ⟨fun _ => trivial, fun output => ?_, fun output => ?_⟩
  · obtain ⟨minted, sent, _, ran, silent⟩ := reports output
    rw [ran, Emission.factual_append, Emission.factual_of_processor silent]
  · obtain ⟨minted, sent, least, ran, _⟩ := reports output
    rw [ran]
    exact least

theorem send_states {sent : List Emission}
    (stated : ∀ emission ∈ sent, emission.graph = .default) :
    States sent (fun _ => True) (send sent) := by
  refine ⟨fun _ => trivial, fun output => ?_, fun output => Nat.le_refl _⟩
  show Emission.factual (output.sent ++ sent) = _
  rw [Emission.factual_append, Emission.factual_of_default stated]

theorem send_map_states (values : List Text) (statement : Text → RawTriple) :
    States (values.map fun value => ⟨.default, statement value⟩) (fun _ => True)
      (send (values.map fun value => ⟨.default, statement value⟩)) := by
  refine send_states fun emission present => ?_
  obtain ⟨value, _, rfl⟩ := List.mem_map.mp present
  rfl

theorem mint_states : States [] (fun _ => True) mint :=
  .silent (fun _ => trivial) (fun _ => rfl) fun _ => Nat.le_succ _

theorem nodeOf_states (label : Text) : States [] (fun _ => True) (nodeOf label) := by
  refine .silent (fun _ => trivial) (fun output => ?_) fun output => ?_
  · cases known : output.nodes.labels.lookup label with
    | some node => rw [nodeOf_known known]
    | none => rw [nodeOf_unknown known]
  · cases known : output.nodes.labels.lookup label with
    | some node => exact nodeOf_known known ▸ Nat.le_refl _
    | none => exact nodeOf_unknown known ▸ Nat.le_succ _

variable (processing : Processing)

theorem warn_states (warning : Warning) :
    States [] (fun _ => True) (warn processing warning) := (warn_reports processing warning).states

theorem warnAll_states (warnings : List Warning) :
    States [] (fun _ => True) (warnAll processing warnings) := by
  induction warnings with
  | nil => exact .pure trivial
  | cons warning rest ih => exact (warn_states processing warning).bindSilent fun _ _ => ih

def vocabularyFact (base : Text) (attributes : Attributes) : List Emission :=
  match attributes.vocab with
  | none | some [] => []
  | some value => [⟨.default, link base Vocabulary.usesVocabulary (Iri.resolve base value)⟩]

theorem enterVocabulary_states (base : Text) (attributes : Attributes) (scope : Scope) :
    States (vocabularyFact base attributes) (· = vocabularyIn base attributes scope)
      (enterVocabulary base attributes scope) := by
  unfold enterVocabulary vocabularyFact vocabularyIn
  cases attributes.vocab with
  | none => exact .pure rfl
  | some value =>
    cases value with
    | nil => exact .pure rfl
    | cons c value => exact (send_states (by simp)).bindSilent fun _ _ => .pure rfl

theorem declareAll_states (declared : List (Text × Text)) (scope : Scope) :
    States [] (· = declaredIn scope declared) (declareAll processing scope declared) := by
  induction declared generalizing scope with
  | nil => exact .pure rfl
  | cons pair rest ih =>
    obtain ⟨name, iri⟩ := pair
    cases found : scope.declare name iri with
    | ok next =>
      have moved : declaredIn scope ((name, iri) :: rest) = declaredIn next rest := by
        simp [declaredIn, found, Except.toOption]
      rw [declareAll_of_ok found, moved]
      exact (announcePrefix_reports processing name iri).states.bindSilent fun _ _ => ih next
    | error warning =>
      have kept : declaredIn scope ((name, iri) :: rest) = declaredIn scope rest := by
        simp [declaredIn, found, Except.toOption]
      rw [declareAll_of_error found, kept]
      exact (warn_states processing warning).bindSilent fun _ _ => ih scope

theorem enter_states (place : Place) (attributes : Attributes) :
    States (vocabularyFact place.base attributes) (· = place.scope attributes)
      (enter processing place attributes) := by
  unfold enter enterPrefixes
  refine (enterVocabulary_states _ _ _).bindSilent fun scope entered => ?_
  subst entered
  have warned := warnAll_states processing (Declaration.warnings (attributes.prefixes.getD []))
  have declaring := warned.bindSilent fun _ _ =>
    declareAll_states processing (attributes.namespaces ++
      (Declaration.declarations (attributes.prefixes.getD [])).map fun d => (d.name, d.namespaceIri))
      (vocabularyIn place.base attributes place.parent)
  refine declaring.bindSilent fun scope declared => ?_
  subst declared
  exact .pure rfl

theorem resolveTokens_states (scope : Scope) (tokens : List Text) :
    States [] (· = tokens.filterMap fun token => (scope.resolveToken token).toOption)
      (resolveTokens processing scope tokens) := by
  induction tokens with
  | nil => exact .pure rfl
  | cons token rest ih =>
    unfold resolveTokens
    rw [List.filterMap_cons]
    cases scope.resolveToken token with
    | ok iri =>
      refine ih.bindSilent fun later same => .pure ?_
      subst same
      rfl
    | error warning => exact (warn_states processing warning).bindSilent fun _ _ => ih

theorem resolveList_states (scope : Scope) (value : Option Text) :
    States [] (· = scope.iris value) (resolveList processing scope value) :=
  resolveTokens_states processing scope _

theorem resolveResource_states (scope : Scope) (base : Text) (value : Option Text) :
    States [] (·.isSome = scope.names base value)
      (resolveResource processing scope base value) := by
  unfold resolveResource
  cases value with
  | none => exact .pure rfl
  | some value =>
    have named : scope.names base (some value) =
        (scope.resolveResource base value).toOption.isSome := rfl
    rw [named]
    dsimp only
    cases scope.resolveResource base value with
    | error warning => exact (warn_states processing warning).bindSilent fun _ _ => .pure rfl
    | ok term =>
      dsimp only
      split
      · exact (nodeOf_states term).bindSilent fun _ _ => .pure rfl
      · exact .pure rfl

-- The element names a resource: by `resource`, else by `href` or `src`, which always name one.
def Place.hasTarget (place : Place) (attributes : Attributes) : Bool :=
  (place.scope attributes).names place.base attributes.resource ||
    attributes.href.isSome || attributes.src.isSome

structure Values.ReadAt (place : Place) (attributes : Attributes) (values : Values) : Prop where
  types : values.types = (place.scope attributes).iris attributes.type
  rels : values.rels = (place.scope attributes).iris attributes.rel
  revs : values.revs = (place.scope attributes).iris attributes.rev
  properties : values.properties = (place.scope attributes).iris attributes.property
  about : values.about.isSome = (place.scope attributes).names place.base attributes.about
  target : values.target.isSome = place.hasTarget attributes

theorem resolve_states (place : Place) (attributes : Attributes) :
    States [] (Values.ReadAt place attributes)
      (resolve processing (place.scope attributes) place.base attributes) := by
  unfold resolve
  refine (resolveList_states processing _ _).bindSilent fun types typesRead => ?_
  refine (resolveList_states processing _ _).bindSilent fun rels relsRead => ?_
  refine (resolveList_states processing _ _).bindSilent fun revs revsRead => ?_
  refine (resolveList_states processing _ _).bindSilent fun properties propertiesRead => ?_
  refine (resolveResource_states processing _ _ _).bindSilent fun about aboutRead => ?_
  refine (resolveResource_states processing _ _ _).bindSilent fun resource resourceRead => .pure ?_
  refine ⟨typesRead, relsRead, revsRead, propertiesRead, aboutRead, ?_⟩
  unfold Place.hasTarget
  rw [← resourceRead]
  cases resource <;> cases attributes.href <;> cases attributes.src <;> rfl

end Element
end Rdfa
