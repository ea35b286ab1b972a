import Rdfa.Proofs.Element.Built

-- What the rules for a start tag can announce. Whatever the attributes are, only three kinds of
-- statements are made, and a literal that is left to wait has heard no text yet.
namespace Rdfa

inductive Announceable : RawTriple → Prop where
  | link (subject predicate object : Text) : Announceable (Element.link subject predicate object)
  | literal (subject predicate value : Text) (datatype language : Option Text) :
      Announceable (Element.literal subject predicate value datatype language)
  | prefixReport (name iri : Text) : Announceable (Element.prefixReport name iri)

theorem Announceable.delivery?_isSome {raw : RawTriple} (announceable : Announceable raw) :
    raw.delivery?.isSome = true := by
  cases announceable with
  | link subject predicate object => rfl
  | prefixReport name iri => rfl
  | literal subject predicate value datatype language =>
    cases datatype with
    | none => rfl
    | some datatype =>
      by_cases xml : datatype = Vocabulary.xmlLiteral <;>
        simp [Element.literal, xml, RawTriple.delivery?, Code.namespaceIri, Code.iri,
          Code.plainLiteral, Code.xmlLiteral, Code.typedLiteral]

namespace Element

theorem Stated.announceable {kinds : Kinds} {raw : RawTriple} (stated : Stated kinds raw) :
    Announceable raw := by
  cases stated with
  | link => exact .link _ _ _
  | literal => exact .literal _ _ _ _ _

-- Work that adds announceable statements to the end of what was sent, takes none back, and comes to
-- a value with `yields`, whatever it starts from.
structure Work.Ensures {α : Type} (yields : α → Prop) (work : Work α) : Prop where
  yielded : ∀ output, yields (work.run output).1
  added : ∀ output, ∃ sent, (work.run output).2.sent = output.sent ++ sent ∧
    ∀ emission ∈ sent, Announceable emission.triple

abbrev Work.Announces {α : Type} (work : Work α) : Prop := work.Ensures fun _ => True

namespace Work

variable {α β : Type} {yields : α → Prop} {after : β → Prop}

theorem Ensures.pure {value : α} (held : yields value) : Ensures yields (pure value : Work α) :=
  ⟨fun _ => held, fun _ => ⟨[], (List.append_nil _).symm, by simp⟩⟩

theorem Ensures.bind {work : Work α} {next : α → Work β} (first : Ensures yields work)
    (second : ∀ value, yields value → Ensures after (next value)) :
    Ensures after (work >>= next) := by
  refine ⟨fun output => ?_, fun output => ?_⟩
  · exact (second _ (first.yielded output)).yielded _
  · obtain ⟨early, earlier, fitEarly⟩ := first.added output
    obtain ⟨late, later, fitLate⟩ :=
      (second _ (first.yielded output)).added (work.run output).2
    refine ⟨early ++ late, ?_, List.forall_mem_append.mpr ⟨fitEarly, fitLate⟩⟩
    rw [← List.append_assoc, ← earlier]
    exact later

theorem Announces.silent {work : Work α} (same : ∀ output, (work.run output).2.sent = output.sent) :
    work.Announces :=
  ⟨fun _ => trivial, fun output => ⟨[], by rw [same, List.append_nil], by simp⟩⟩

end Work

open Work

theorem send_announces {emissions : List Emission}
    (fit : ∀ emission ∈ emissions, Announceable emission.triple) : (send emissions).Announces :=
  ⟨fun _ => trivial, fun _ => ⟨emissions, rfl, fit⟩⟩

theorem nodeOf_announces (label : Text) : (nodeOf label).Announces := by
  refine .silent fun output => ?_
  cases known : output.nodes.labels.lookup label with
  | some node => rw [nodeOf_known known]
  | none => rw [nodeOf_unknown known]

theorem Work.Built.ensures {α : Type} {yields : α → Prop} {work hushed : Work α}
    (built : Built .any yields work hushed) : Ensures yields work := by
  induction built with
  | pure held => exact .pure held
  | send stated => exact send_announces fun emission present => (stated emission present).announceable
  | report name iri => exact send_announces (List.forall_mem_singleton.mpr (.prefixReport name iri))
  | mint => exact Announces.silent fun _ => rfl
  | nodeOf label => exact nodeOf_announces label
  | bind _ _ ihFirst ihSecond => exact .bind ihFirst ihSecond

def Unheard (waiting : Option PendingLiteral) : Prop :=
  ∀ pending, waiting = some pending → pending.pieces = []

theorem process_ensures (processing : Processing) (place : Place) (attributes : Attributes) :
    (process processing place attributes).Ensures fun entered => Unheard entered.2 := by
  have ensures := (process_built_any processing place attributes).ensures
  refine { ensures with yielded := fun output pending waits => ?_ }
  exact ((ensures.yielded output).2 pending waits).2

theorem PendingLiteral.emissions_announceable (pending : PendingLiteral) :
    ∀ emission ∈ pending.emissions, Announceable emission.triple := by
  intro emission present
  obtain ⟨predicate, _, rfl⟩ := List.mem_map.mp present
  exact .literal _ _ _ _ _

end Element
end Rdfa
