import Rdfa.Proofs.Extractor.Relations

-- Whether an element left relations to what is inside it is told by its attributes, not by what they
-- stand for. Where none of them stands for anything, a node is made up that no relation leads to, and
-- what is inside speaks of it.
namespace Rdfa

open Document Element

-- Relations are written, but none of them is known, and there is nothing for them to lead to.
structure Element.Entry.Unled (e : Entry) : Prop where
  relation : e.attributes.hasRelation = true
  rel : e.iris e.attributes.rel = []
  rev : e.iris e.attributes.rev = []
  untyped : e.attributes.type = none
  alone : e.place.hasTarget e.attributes = false

namespace Element.Entry.Unled

variable {e : Entry}

theorem hangs (unled : e.Unled) : e.hangs = true := by
  simp [Entry.hangs, Place.hangs, Place.hasObject, unled.relation, unled.untyped, unled.alone]

theorem unanswered (unled : e.Unled) : e.unanswered = [] := by
  simp [Entry.unanswered, unled.rel, unled.rev]

end Element.Entry.Unled

namespace Document

variable {e : Entry}

theorem unled_relation_mints (processing : Processing) (unled : e.Unled) :
    (e.reckoned processing).related e.attributes = [] ∧ (e.scope processing).incomplete = [] ∧
      ∃ node, e.nodes.minted ≤ node ∧ node < (e.after processing).minted ∧
        (e.scope processing).parentObject = some (Nodes.name node) ∧
        ∀ (forest : Forest) (place : Place) (nodes : Nodes) (d : Entry) (between outer : List Entry),
          .entered d (between ++ e :: outer) ∈ forest.stages processing place nodes [] →
          (∀ b ∈ between, b.passes = true) → d.place.bare d.attributes = true →
            d.subject processing = some (Nodes.name node) ∧
              ∀ text, List.Forall₂ (Entry.Ascribes (Nodes.name node)) (d.iris d.attributes.property)
                ((d.reckoned processing).stated d.attributes ++
                  Forest.complete (d.pending processing) text) := by
  have nothing : (e.scope processing).incomplete = [] := calc
    (e.scope processing).incomplete = (e.reckoned processing).waiting e.attributes :=
      e.incomplete_of_stands processing (.inr (e.passes_of_hangs unled.hangs))
    _ = e.unanswered := e.waiting_of_hangs processing unled.hangs
    _ = [] := unled.unanswered
  obtain ⟨node, least, minted, object⟩ := e.object_of_scope processing unled.hangs
  refine ⟨e.related_of_hangs processing unled.hangs, nothing, node, least, minted, object, ?_⟩
  intro forest place nodes d between outer entered passing bare
  have outermost : Stands processing place place [] := .outside place.base
  have stands := Forest.stands_of_entered outermost entered
  have inside := stands.inside_of_around (by simp)
  have parent : d.place.parent.parentObject = some (Nodes.name node) :=
    (stands.continues passing).object.trans object
  have subject : d.subject processing = some (Nodes.name node) :=
    ((d.right processing).roles.bare inside bare).trans parent
  have found : d.place.subject.isSome = true := by
    rw [Place.subject_of_inside inside, parent]
    rfl
  obtain ⟨named, same, _, described⟩ := d.describes processing found
  cases same.symm.trans subject
  exact ⟨subject, described⟩

end Document

namespace Extractor

-- `<div rel="nofollow"><p property="dc:title" content="c"></p></div>`, where no vocabulary is in force.
def nofollow : StartTag :=
  ⟨⟨Markup.ascii "div rel=\"nofollow\""⟩, [⟨Markup.ascii "rel", Markup.ascii "nofollow"⟩],
    read_of_toOption (by decide +kernel)⟩

def captioned : StartTag :=
  ⟨⟨Markup.ascii "p property=\"dc:title\" content=\"c\""⟩,
    [⟨Markup.ascii "property", Markup.ascii "dc:title"⟩, ⟨Markup.ascii "content", Markup.ascii "c"⟩],
    read_of_toOption (by decide +kernel)⟩

def orphaned : Forest :=
  .element nofollow (.tag (Markup.ascii "div"))
    (.element captioned (.tag (Markup.ascii "p")) .nil .nil) .nil

open Processing (silent)

def outer : Entry :=
  ⟨.outermost "http://e/".toList, .ofMarkup nofollow.attributes, .none⟩

def inner : Entry :=
  ⟨⟨"http://e/".toList, outer.scope silent, false⟩, .ofMarkup captioned.attributes, outer.after silent⟩

theorem outer_unled : outer.Unled := by
  constructor <;> decide +kernel

theorem inner_entered :
    .entered inner [outer] ∈ orphaned.stages silent outer.place outer.nodes [] := by
  have unmoved : Forest.baseFrom outer.place.base nofollow = outer.place.base := by decide +kernel
  have still : Forest.baseFrom outer.place.base captioned = outer.place.base := by decide +kernel
  simp only [orphaned, Forest.stages, unmoved, still]
  exact .tail _ (.head _)

theorem orphaned_mints :
    outer.Unled ∧ (outer.reckoned silent).related outer.attributes = [] ∧
      (outer.scope silent).incomplete = [] ∧
      ∃ node, outer.nodes.minted ≤ node ∧ node < (outer.after silent).minted ∧
        (outer.scope silent).parentObject = some (Nodes.name node) ∧
        inner.subject silent = some (Nodes.name node) ∧
          ∀ text, List.Forall₂ (Entry.Ascribes (Nodes.name node)) (inner.iris inner.attributes.property)
            ((inner.reckoned silent).stated inner.attributes ++
              Forest.complete (inner.pending silent) text) := by
  have entered : .entered inner ([] ++ outer :: []) ∈
      orphaned.stages silent outer.place outer.nodes [] := inner_entered
  have bare : inner.place.bare inner.attributes = true := by decide +kernel
  obtain ⟨related, waiting, node, least, minted, object, speaks⟩ :=
    unled_relation_mints silent outer_unled
  exact ⟨outer_unled, related, waiting, node, least, minted, object,
    speaks _ _ _ inner [] [] entered (fun b present => by cases present) bare⟩

theorem orphaned_speaks_of_minted :
    .entered inner [outer] ∈ orphaned.stages silent outer.place outer.nodes [] ∧
      outer.Unled ∧ inner.place.bare inner.attributes = true ∧
      outer.subject silent = some "http://e/".toList ∧ inner.subject silent = some "_:b0".toList ∧
      (outer.after silent).minted = outer.nodes.minted + 1 := by
  refine ⟨inner_entered, outer_unled, ?_⟩
  decide +kernel

end Extractor
end Rdfa
