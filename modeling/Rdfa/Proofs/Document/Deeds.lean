import Rdfa.Proofs.Document.Base
import Rdfa.Proofs.Element.Deeds

-- All that is done with the nodes while a document is read, from its first token to its end: every node that is
-- handed out is new, and no two labels of the document ever meet in one.
namespace Rdfa.Document

open Element

namespace Processor

variable {processing : Processing} {base : Text} {p next last : Processor} {item : Markup.Item}
  {items : List Markup.Item} {sent : List Emission} {deeds : List Deed}

def work (processing : Processing) (p : Processor) (item : Markup.Item) : Work Unit :=
  match item.token.start? with
  | none => pure ()
  | some tag =>
    match tag.attributes with
    | .error _ => pure ()
    | .ok attributes => do
      let _ ← process processing (p.entry tag.name (.ofMarkup attributes)).place (.ofMarkup attributes)

theorem work_lawful (processing : Processing) (p : Processor) (item : Markup.Item) :
    (p.work processing item).Lawful := by
  unfold work
  split
  · exact .pure _
  · split
    · exact .pure _
    · exact .bind (process_lawful processing _ _) fun _ => .pure _

theorem nodes_of_step (step : p.step processing item = .ok (next, sent)) :
    next.nodes = ((p.work processing item).run ⟨p.nodes, []⟩).2.nodes := by
  unfold work
  cases starts : item.token.start? with
  | some tag =>
    obtain ⟨attributes, read, entered⟩ := entered_of_start starts step
    have nodes : next.nodes = (p.entry tag.name (.ofMarkup attributes)).after processing := by
      rcases entered with rfl | rfl
      · rw [enter_eq]
      · rw [closeTop_nodes, enter_eq]
    dsimp only
    rw [nodes, read]
    rfl
  | none =>
    show next.nodes = p.nodes
    rcases reached_of_no_start starts step with rfl | rfl | ⟨text, rfl⟩
    · exact closeTop_nodes p
    · rfl
    · rfl

-- What is done with the nodes while these tokens are read, each in the state to which those before it led.
inductive Did (processing : Processing) : Processor → List Markup.Item → List Deed → Prop where
  | nil (p : Processor) : Did processing p [] []
  | cons {p next : Processor} {item : Markup.Item} {rest : List Markup.Item} {sent : List Emission}
      {early late : List Deed} (step : p.step processing item = .ok (next, sent))
      (does : (p.work processing item).Does ⟨p.nodes, []⟩ early) (later : Did processing next rest late) :
      Did processing p (item :: rest) (early ++ late)

theorem Reads.did (reads : p.Reads processing items last sent) (orderly : p.nodes.Orderly) :
    ∃ deeds, p.Did processing items deeds ∧ p.nodes.Admits deeds ∧ last.nodes = p.nodes.after deeds := by
  induction reads with
  | nil => exact ⟨[], .nil _, trivial, rfl⟩
  | @cons p next last item rest _ _ step later ih =>
    obtain ⟨early, does, admitted⟩ := work_lawful processing p item ⟨p.nodes, []⟩ orderly
    have nodes : next.nodes = p.nodes.after early := (nodes_of_step step).trans does.nodes
    obtain ⟨late, did, allowed, reached⟩ := ih (nodes ▸ orderly.after admitted)
    rw [nodes] at allowed reached
    refine ⟨early ++ late, .cons step does did, Nodes.admits_append_iff.mpr ⟨admitted, allowed⟩, ?_⟩
    rw [reached, Nodes.after_append]

structure KeptApart (deeds : List Deed) : Prop where
  formed : ∀ early, early <+: deeds → ∀ pair ∈ (Nodes.none.after early).labels,
    ∃ number < (Nodes.none.after early).minted, pair.2 = Nodes.name number
  distinct : ∀ early, early <+: deeds → ∀ label other node,
    (Nodes.none.after early).labels.lookup label = some node →
      (Nodes.none.after early).labels.lookup other = some node → label = other
  kept : ∀ early late, early ++ late <+: deeds → ∀ label node,
    (Nodes.none.after early).labels.lookup label = some node →
      (Nodes.none.after (early ++ late)).labels.lookup label = some node
  fresh : ∀ early node, early ++ [.minted node] <+: deeds →
    .minted node ∉ early ∧ ∀ pair ∈ (Nodes.none.after early).labels, pair.2 ≠ node

theorem keptApart_of_admits (admitted : Nodes.none.Admits deeds) : KeptApart deeds := by
  have before {early : List Deed} (inside : early <+: deeds) : Nodes.none.Admits early := by
    obtain ⟨late, rfl⟩ := inside
    exact (Nodes.admits_append_iff.mp admitted).1
  have orderly {early : List Deed} (inside : early <+: deeds) : (Nodes.none.after early).Orderly :=
    Nodes.Orderly.none.after (before inside)
  constructor
  case formed => exact fun early inside => (orderly inside).formed
  case distinct => exact fun early inside label other node => (orderly inside).lookup_injective
  case kept =>
    intro early late inside label node known
    rw [Nodes.after_append]
    exact (Nodes.admits_append_iff.mp (before inside)).2.kept known
  case fresh => exact fun early node inside => Nodes.Orderly.none.fresh (before inside)

-- Whatever the tokens are: the deeds on the way to any state of a processor, and those at the end of input if it
-- came then.
theorem nodes_kept_apart (reads : (initial base).Reads processing items p sent) :
    ∃ deeds last, (initial base).Did processing items deeds ∧ p.nodes = Nodes.none.after deeds ∧
      (p.ending processing).Does ⟨p.nodes, []⟩ last ∧ KeptApart (deeds ++ last) := by
  obtain ⟨deeds, did, admitted, nodes⟩ := reads.did Nodes.Orderly.none
  have orderly : p.nodes.Orderly := nodes ▸ Nodes.Orderly.none.after admitted
  obtain ⟨last, does, allowed⟩ := (p.ending_built (.any []) processing).lawful ⟨p.nodes, []⟩ orderly
  have both : Nodes.none.Admits (deeds ++ last) :=
    Nodes.admits_append_iff.mpr ⟨admitted, nodes ▸ allowed⟩
  exact ⟨deeds, last, did, nodes, does, keptApart_of_admits both⟩

-- Two labels met in the midst of nodes without one, and an element left open.
def labelled : Bytes :=
  Markup.ascii "<p about='_:x' rel='no v:r'><b typeof='dc:T' about='_:y'/><i typeof='dc:T' src='_:x'/>"

def labelling : Processor := ((Reading.initial "http://e/".toList).read {} labelled).processor

theorem labelling_kept_apart : ∃ items sent, (initial "http://e/".toList).Reads {} items labelling sent ∧
    labelling.nodes.labels.map (·.1) = ["_:y".toList, "_:x".toList] ∧
    ∃ deeds last, (initial "http://e/".toList).Did {} items deeds ∧
      labelling.nodes = Nodes.none.after deeds ∧
      (labelling.ending {}).Does ⟨labelling.nodes, []⟩ last ∧ KeptApart (deeds ++ last) := by
  obtain ⟨items, sent, reads⟩ := Reading.reads_read {} (.initial "http://e/".toList) labelled
  exact ⟨items, sent, reads, by decide +kernel, nodes_kept_apart reads⟩

end Processor
end Rdfa.Document
