import Rdfa.Proofs.Element.Entry

-- The stages of a document: its elements are entered and left one after the other, each inside the
-- elements that stand open around it.
namespace Rdfa.Document

open Element

-- `around` are the elements an element is entered in, innermost first; `text` is all text inside an
-- element when it is left.
inductive Stage where
  | entered (element : Entry) (around : List Entry)
  | left (element : Entry) (text : Text)

variable (processing : Processing)

def Stage.sent : Stage → List Emission
  | entered element _ => element.sent processing
  | left element text => Forest.complete (element.pending processing) text

def Forest.stages : Forest → Place → Nodes → List Entry → List Stage
  | nil, _, _, _ => []
  | text _ rest, place, nodes, around | cdata _ rest, place, nodes, around
  | aside rest, place, nodes, around => rest.stages place nodes around
  | element start _ children rest, place, nodes, around =>
    let base := baseFrom place.base start
    let e : Entry := ⟨{ place with base }, .ofMarkup start.attributes, nodes⟩
    let within : Place := ⟨base, e.scope processing, false⟩
    let inside := children.evaluate processing within (e.after processing)
    .entered e around :: (children.stages within (e.after processing) (e :: around) ++
      .left e inside.texts.flatten :: rest.stages { place with base := inside.base } inside.nodes around)

theorem Forest.sent_stages (forest : Forest) (place : Place) (nodes : Nodes) (around : List Entry) :
    (forest.stages processing place nodes around).flatMap (Stage.sent processing) =
      (forest.evaluate processing place nodes).sent := by
  induction forest generalizing place nodes around with
  | nil => rfl
  | text bytes rest ih | cdata bytes rest ih | aside rest ih => exact ih place nodes around
  | element start ending children rest ihChildren ihRest =>
    simp only [stages, evaluate, List.flatMap_cons, List.flatMap_append, ihChildren, ihRest,
      List.append_assoc]
    rfl

inductive Stands (start : Place) : Place → List Entry → Prop where
  | outside (base : Text) : Stands start { start with base } []
  | inside (base : Text) {e : Entry} {around : List Entry} (outer : Stands start e.place around) :
      Stands start ⟨base, e.scope processing, false⟩ (e :: around)

variable {processing} {start place : Place} {around : List Entry}

theorem Stands.rebase (stands : Stands processing start place around) (base : Text) :
    Stands processing start { place with base } around := by
  cases stands with
  | outside => exact .outside base
  | inside _ outer => exact .inside base outer

theorem Forest.stands_of_entered {forest : Forest} {nodes : Nodes}
    (stands : Stands processing start place around) {d : Entry} {outer : List Entry}
    (entered : .entered d outer ∈ forest.stages processing place nodes around) :
    Stands processing start d.place outer := by
  induction forest generalizing place nodes around with
  | nil => cases entered
  | text bytes rest ih | cdata bytes rest ih | aside rest ih => exact ih stands entered
  | element tag ending children rest ihChildren ihRest =>
    have here := stands.rebase (baseFrom place.base tag)
    simp only [stages, List.mem_cons, List.mem_append, Stage.entered.injEq, reduceCtorEq,
      false_or] at entered
    rcases entered with ⟨rfl, rfl⟩ | inside | later
    · exact here
    · refine ihChildren ?_ inside
      exact .inside _ (e := ⟨{ place with base := baseFrom place.base tag }, _, nodes⟩) here
    · exact ihRest (stands.rebase _) later

namespace Stands

theorem inside_of_around (stands : Stands processing start place around) (inner : around ≠ []) :
    place.isRoot = false := by
  cases stands with
  | outside => exact absurd rfl inner
  | inside => rfl

theorem of_around {e : Entry} {between : List Entry}
    (stands : Stands processing start place (between ++ e :: around)) :
    Stands processing start e.place around := by
  induction between generalizing place with
  | nil =>
    cases stands with
    | inside base outer => exact outer
  | cons b between ih =>
    cases stands with
    | inside base outer => exact ih outer

theorem subject_isSome (named : start.subject.isSome = true)
    (stands : Stands processing start place around) : place.subject.isSome = true := by
  induction stands with
  | outside base =>
    unfold Place.subject at named ⊢
    split at named
    · next root => simp [root]
    · next inner => simpa [inner] using named
  | @inside base e around outer ih => exact e.parentObject_isSome processing ih

theorem continues {e : Entry} {between : List Entry}
    (stands : Stands processing start place (between ++ e :: around))
    (passing : ∀ b ∈ between, b.passes = true) : (e.scope processing).Continues place.parent := by
  induction between generalizing place with
  | nil =>
    cases stands
    exact ⟨rfl, rfl, rfl⟩
  | cons b between ih =>
    cases stands with
    | inside base outer =>
      have handed := ih outer fun b present => passing b (List.mem_cons_of_mem _ present)
      have inner := outer.inside_of_around (by simp)
      exact handed.trans (b.scope_of_passes processing inner (passing b List.mem_cons_self))

theorem incomplete_eq_nil (nothing : start.parent.incomplete = [])
    (stands : Stands processing start place around) (passing : ∀ b ∈ around, b.passes = true) :
    place.parent.incomplete = [] := by
  induction stands with
  | outside => exact nothing
  | @inside base e around outer ih =>
    have before := ih fun b present => passing b (List.mem_cons_of_mem _ present)
    have passes := passing e List.mem_cons_self
    cases root : e.place.isRoot with
    | false => exact (e.scope_of_passes processing root passes).incomplete.trans before
    | true =>
      have found : e.place.subject.isSome = true := by simp [Place.subject, root]
      have settled : e.hangs = false := Bool.eq_false_iff.mpr fun hangs =>
        absurd ((e.passes_of_hangs hangs).symm.trans passes) (by simp)
      have handed := e.incomplete_of_stands processing (.inl root)
      exact handed.trans (e.waiting_of_settled processing found settled)

end Stands
end Rdfa.Document
