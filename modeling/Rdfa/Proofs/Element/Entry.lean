import Rdfa.Proofs.Document.Forest
import Rdfa.Proofs.Element.Account

-- An element as it is entered: what it states, what it hands on to the elements inside it and what it
-- leaves to its end.
namespace Rdfa.Element

open Work

-- A start tag where it stands, and the nodes that were named before it.
structure Entry where
  place : Place
  attributes : Attributes
  nodes : Nodes

namespace Entry

variable (processing : Processing) (e : Entry)

def run : (Scope × Option PendingLiteral) × Output :=
  (process processing e.place e.attributes).run ⟨e.nodes, []⟩

def scope : Scope := (e.run processing).1.1
def pending : Option PendingLiteral := (e.run processing).1.2
def after : Nodes := (e.run processing).2.nodes
def sent : List Emission := (e.run processing).2.sent

def reckoned : Reckoned := ((reckon processing e.place e.attributes).run ⟨e.nodes, []⟩).1
def subject : Option Text := (e.reckoned processing).roles.subject

def passes : Bool := e.place.passes e.attributes
def hangs : Bool := e.place.hangs e.attributes

def iris (value : Option Text) : List Text := (e.place.scope e.attributes).iris value

def own : List Emission :=
  vocabularyFact e.place.base e.attributes ++ ((e.reckoned processing).typings ++
    ((e.reckoned processing).related e.attributes ++ (e.reckoned processing).stated e.attributes))

theorem right : (e.reckoned processing).Right e.place e.attributes :=
  (reckon_states processing e.place e.attributes).yielded _

theorem factual_sent : Emission.factual (e.sent processing) =
    e.own processing ++ (e.reckoned processing).completed e.place.parent := by
  have reckoned := (reckon_states processing e.place e.attributes).stated ⟨e.nodes, []⟩
  have spoken := (speak_states processing e.place e.attributes (e.reckoned processing)).stated
    ((reckon processing e.place e.attributes).run ⟨e.nodes, []⟩).2
  rw [reckoned] at spoken
  refine Eq.trans spoken ?_
  simp only [Emission.factual, own, Reckoned.spoken, List.filter_nil, List.nil_append, List.append_assoc]

theorem outcome : (e.reckoned processing).Speaks e.place e.attributes (e.run processing).1 :=
  (speak_states processing e.place e.attributes (e.reckoned processing)).yielded _

theorem pending_eq : e.pending processing = (e.reckoned processing).pending e.attributes := by
  obtain ⟨object, same⟩ := e.outcome processing
  exact congrArg Prod.snd same

theorem exists_subject (found : e.place.subject.isSome = true) :
    ∃ subject, e.subject processing = some subject :=
  Option.isSome_iff_exists.mp ((e.right processing).roles.subject found)

theorem skipped_of_passes (inside : e.place.isRoot = false) (passes : e.passes = true) :
    (e.reckoned processing).roles.skipped = true := by
  rw [(e.right processing).roles.skipped, inside]
  exact passes

theorem scope_of_passes (inside : e.place.isRoot = false) (passes : e.passes = true) :
    e.place.parent.Continues (e.scope processing) := by
  obtain ⟨object, same⟩ := e.outcome processing
  have handed : e.scope processing = e.place.scope e.attributes := by
    rw [scope, same, ← (e.right processing).scope]
    simp [leave, e.skipped_of_passes processing inside passes]
  rw [handed]
  exact e.place.scope_continues e.attributes

theorem skipped_of_stands (stands : e.place.isRoot = true ∨ e.passes = false) :
    (e.reckoned processing).roles.skipped = false := by
  rw [(e.right processing).roles.skipped]
  unfold passes at stands
  rcases stands with root | standing
  · simp [root]
  · simp [standing]

theorem incomplete_of_stands (stands : e.place.isRoot = true ∨ e.passes = false) :
    (e.scope processing).incomplete = (e.reckoned processing).waiting e.attributes := by
  obtain ⟨object, same⟩ := e.outcome processing
  have handed : e.scope processing = _ := congrArg Prod.fst same
  rw [handed]
  simp [leave, e.skipped_of_stands processing stands]

-- What the elements inside are given by an element that does not pass.
structure Hands (subject : Text) (scope : Scope) : Prop where
  subject : scope.parentSubject = subject
  object : scope.parentObject.isSome = true

theorem scope_of_stands {subject : Text} (named : e.subject processing = some subject)
    (stands : e.place.isRoot = true ∨ e.passes = false) : Hands subject (e.scope processing) := by
  obtain ⟨object, same⟩ := e.outcome processing
  have handed : e.scope processing = _ := congrArg Prod.fst same
  unfold Entry.subject at named
  rw [handed]
  constructor <;> simp [leave, e.skipped_of_stands processing stands, named]

theorem parentObject_isSome (found : e.place.subject.isSome = true) :
    (e.scope processing).parentObject.isSome = true := by
  obtain ⟨subject, named⟩ := e.exists_subject processing found
  by_cases skips : e.place.isRoot = false ∧ e.passes = true
  · rw [(e.scope_of_passes processing skips.1 skips.2).object, ← Place.subject_of_inside skips.1]
    exact found
  · have stands : e.place.isRoot = true ∨ e.passes = false := by
      cases root : e.place.isRoot <;> cases passed : e.passes <;> simp_all
    exact (e.scope_of_stands processing named stands).object

def links (source target : Text) : List Emission :=
  (e.iris e.attributes.rel).map (fun rel => ⟨.default, link source rel target⟩) ++
    (e.iris e.attributes.rev).map fun rev => ⟨.default, link target rev source⟩

def unanswered : List Incomplete :=
  (e.iris e.attributes.rel).map (⟨·, true⟩) ++ (e.iris e.attributes.rev).map (⟨·, false⟩)

theorem completions_unanswered {parent : Scope} (waits : parent.incomplete = e.unanswered)
    (target : Text) : completions parent target = e.links parent.parentSubject target := by
  simp [completions, waits, unanswered, links, Function.comp_def]

theorem passes_of_hangs (hangs : e.hangs = true) : e.passes = false := by
  simp only [Entry.hangs, Place.hangs, Bool.and_eq_true] at hangs
  simp [Entry.passes, Place.passes, hangs.1]

theorem object_of_hangs (hangs : e.hangs = true) :
    e.attributes.hasRelation = true ∧ (e.reckoned processing).roles.object = none := by
  simp only [Entry.hangs, Place.hangs, Bool.and_eq_true, Bool.not_eq_true'] at hangs
  refine ⟨hangs.1, ?_⟩
  have object := (e.right processing).roles.object hangs.1
  rw [hangs.2] at object
  exact Option.not_isSome_iff_eq_none.mp (Bool.eq_false_iff.mp object)

theorem related_of_hangs (hangs : e.hangs = true) :
    (e.reckoned processing).related e.attributes = [] := by
  obtain ⟨_, object⟩ := e.object_of_hangs processing hangs
  unfold Reckoned.related
  rw [object]
  split
  · contradiction
  · rfl

theorem waiting_of_hangs (hangs : e.hangs = true) :
    (e.reckoned processing).waiting e.attributes = e.unanswered := by
  obtain ⟨relation, object⟩ := e.object_of_hangs processing hangs
  have values := (e.right processing).values
  simp only [Reckoned.waiting, relation, object, values.rels, values.revs]
  split
  · contradiction
  · contradiction
  · rfl

theorem waiting_of_settled (found : e.place.subject.isSome = true) (settled : e.hangs = false) :
    (e.reckoned processing).waiting e.attributes = [] := by
  obtain ⟨subject, named⟩ := e.exists_subject processing found
  unfold Entry.subject at named
  cases relation : e.attributes.hasRelation with
  | false => simp only [Reckoned.waiting, relation]
  | true =>
    have object := (e.right processing).roles.object relation
    have led : e.place.hasObject e.attributes = true := by
      simpa [Entry.hangs, Place.hangs, relation] using settled
    obtain ⟨object, same⟩ := Option.isSome_iff_exists.mp (object.trans led)
    simp only [Reckoned.waiting, relation, named, same]

theorem completed_of_passes (inside : e.place.isRoot = false) (passes : e.passes = true) :
    (e.reckoned processing).completed e.place.parent = [] := by
  simp [Reckoned.completed, e.skipped_of_passes processing inside passes]

theorem completed_of_stands {subject : Text} (named : e.subject processing = some subject)
    (stands : e.passes = false) :
    (e.reckoned processing).completed e.place.parent = completions e.place.parent subject := by
  unfold Entry.subject at named
  simp [Reckoned.completed, e.skipped_of_stands processing (.inr stands), named]

theorem completed_of_nothing (nothing : e.place.parent.incomplete = []) :
    (e.reckoned processing).completed e.place.parent = [] := by
  unfold Reckoned.completed
  split
  · simp [completions, nothing]
  · rfl

theorem speak_of_hangs (hangs : e.hangs = true) :
    (e.reckoned processing).speak processing e.place e.attributes = (do
      sendTypes (e.reckoned processing).values (e.reckoned processing).roles
      let node ← mint
      (e.reckoned processing).conclude processing e.place e.attributes
        ({ (e.reckoned processing).roles with object := some node },
          (e.reckoned processing).waiting e.attributes)) := by
  obtain ⟨relation, object⟩ := e.object_of_hangs processing hangs
  have relates : relate e.attributes (e.reckoned processing).values (e.reckoned processing).roles =
      mint >>= fun node => pure ({ (e.reckoned processing).roles with object := some node },
        (e.reckoned processing).waiting e.attributes) := by
    simp only [relate, Reckoned.waiting, relation, object, if_true]
    split
    · contradiction
    · cases (e.reckoned processing).roles.subject <;> rfl
  unfold Reckoned.speak
  rw [relates]
  rfl

-- The node a hanging relation leaves to be found is a new one, and what is inside speaks of it.
theorem object_of_scope (hangs : e.hangs = true) :
    ∃ node, e.nodes.minted ≤ node ∧ node < (e.after processing).minted ∧
      (e.scope processing).parentObject = some (Nodes.name node) := by
  have reckoning := (reckon_states processing e.place e.attributes).minted ⟨e.nodes, []⟩
  generalize early : ((reckon processing e.place e.attributes).run ⟨e.nodes, []⟩).2 = start at reckoning
  have typing := (sendTypes_states (e.reckoned processing)).minted start
  generalize typed : ((sendTypes (e.reckoned processing).values (e.reckoned processing).roles).run
    start).2 = output at typing
  have concluded := conclude_states processing e.place e.attributes (e.reckoned processing)
    (some (Nodes.name output.nodes.minted)) ((e.reckoned processing).waiting e.attributes)
  have run : e.run processing = ((e.reckoned processing).conclude processing e.place e.attributes
      ({ (e.reckoned processing).roles with object := some (Nodes.name output.nodes.minted) },
        (e.reckoned processing).waiting e.attributes)).run (mint.run output).2 := by
    have speaking : e.run processing = ((e.reckoned processing).speak processing e.place
      e.attributes).run start := by rw [← early]; rfl
    rw [speaking, e.speak_of_hangs processing hangs, ← typed]
    rfl
  have skipped := e.skipped_of_stands processing (.inr (e.passes_of_hangs hangs))
  refine ⟨output.nodes.minted, Nat.le_trans reckoning typing, ?_, ?_⟩
  · rw [after, run]
    exact concluded.minted (mint.run output).2
  · rw [scope, run, concluded.yielded]
    simp [leave, skipped]

inductive Ascribes (subject property : Text) : Emission → Prop where
  | node (term : Text) : Ascribes subject property ⟨.default, link subject property term⟩
  | value (value : Text) (datatype language : Option Text) :
      Ascribes subject property ⟨.default, literal subject property value datatype language⟩

theorem ascribes_map {subject : Text} {statement : Text → RawTriple} (properties : List Text)
    (ascribes : ∀ property, Ascribes subject property ⟨.default, statement property⟩) :
    List.Forall₂ (Ascribes subject) properties
      (properties.map fun property => ⟨.default, statement property⟩) :=
  List.forall₂_map_right_iff.mpr (List.forall₂_same.mpr fun property _ => ascribes property)

theorem describes (found : e.place.subject.isSome = true) :
    ∃ subject, e.subject processing = some subject ∧
      ((e.reckoned processing).stated e.attributes = [] ∨ e.pending processing = none) ∧
      ∀ text, List.Forall₂ (Ascribes subject) (e.iris e.attributes.property)
        ((e.reckoned processing).stated e.attributes ++
          Document.Forest.complete (e.pending processing) text) := by
  obtain ⟨subject, named⟩ := e.exists_subject processing found
  refine ⟨subject, named, ?_⟩
  rw [e.pending_eq processing, iris, ← (e.right processing).values.properties]
  have value := (e.right processing).propertyValue_ne
  unfold Entry.subject at named
  unfold Reckoned.stated Reckoned.pending
  rw [named]
  cases described : propertyValue e.attributes (e.reckoned processing).values
    (e.reckoned processing).roles with
  | node term =>
    cases term with
    | none => exact absurd described value
    | some term =>
      refine ⟨.inr rfl, fun text => ?_⟩
      rw [Document.Forest.complete, List.append_nil]
      exact ascribes_map _ fun _ => .node term
  | content content =>
    refine ⟨.inr rfl, fun text => ?_⟩
    rw [Document.Forest.complete, List.append_nil]
    exact ascribes_map _ fun _ => .value content _ _
  | text =>
    refine ⟨.inl rfl, fun text => ?_⟩
    rw [List.nil_append]
    cases (e.reckoned processing).values.properties with
    | nil => exact .nil
    | cons first others => exact ascribes_map (first :: others) fun _ => .value text _ _

end Entry
end Rdfa.Element
