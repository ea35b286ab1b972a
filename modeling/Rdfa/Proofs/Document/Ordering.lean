import Rdfa.Proofs.Document.Steps
import Rdfa.Proofs.Element.Ordering

-- A start tag with its attributes in another order, whatever is open around it.
namespace Rdfa.Document.Processor

open Element Element.Attributes

variable {a b : Attributes}

theorem language_of_given (distinct : a.Distinct) {value : Text}
    (given : ("xml:lang".toList, value) ∈ a.pairs) (scope : Scope) :
    (enterLanguage a scope).language = if value = [] then none else some value := by
  have found : a.language = some value := by
    unfold language
    rw [distinct.last?, first?, (lookup_eq_some_iff distinct.names).mpr given]
    rfl
  unfold enterLanguage
  rw [found]
  cases value with
  | nil => rfl
  | cons c value => rfl

theorem rebase_reordered (same : a.Reordered b) (p : Processor) (name : Bytes) :
    p.rebase name b = p.rebase name a := by
  have href : b.href = a.href := same.first _
  unfold rebase
  rw [href]

theorem enter_of_process {processing : Processing} {p : Processor} {name : Bytes} {scope : Scope}
    {pending : Option PendingLiteral} {after : Nodes} {sent : List Emission}
    (ran : (process processing (p.rebase name a).place a).run ⟨(p.rebase name a).nodes, []⟩ =
      ((scope, pending), ⟨after, sent⟩)) :
    p.enter processing name a =
      ({ p.rebase name a with stack := ⟨name, scope, pending⟩ :: p.stack, nodes := after }, sent) := by
  unfold enter
  dsimp only
  rw [ran, rebase_stack]

-- No two attributes have one name and no two declare one prefix: in every order of them the element says the
-- same of the document, of the same nodes, keeps the same text for its end, and is left for a scope in which
-- all is read alike. What it declares by `xmlns` is reported in the order in which it is written.
theorem enter_permuted (processing : Processing) (p : Processor) (name : Bytes)
    {first second : List Markup.Attribute} (perm : first.Perm second)
    (distinct : (ofMarkup first).Distinct) :
    ∃ s t pending after number early late,
      p.enter processing name (ofMarkup first) =
        ({ p.rebase name (ofMarkup first) with stack := ⟨name, s, pending⟩ :: p.stack, nodes := after },
          early ++ (reports processing number (ofMarkup first).namespaces ++ late)) ∧
      p.enter processing name (ofMarkup second) =
        ({ p.rebase name (ofMarkup first) with stack := ⟨name, t, pending⟩ :: p.stack, nodes := after },
          early ++ (reports processing number (ofMarkup second).namespaces ++ late)) ∧
      s.Equivalent t ∧ (ofMarkup first).namespaces.Perm (ofMarkup second).namespaces ∧
      Emission.factual (p.enter processing name (ofMarkup second)).2 =
        Emission.factual (p.enter processing name (ofMarkup first)).2 ∧
      ∀ value, ("xml:lang".toList, value) ∈ (ofMarkup first).pairs →
        s.language = if value = [] then none else some value := by
  have same : (ofMarkup first).Reordered (ofMarkup second) := distinct.reordered (perm.map _)
  obtain ⟨s, t, pending, after, number, early, late, alike, language, left, right⟩ :=
    process_reordered processing (p.rebase name (ofMarkup first)).place same distinct
      ⟨(p.rebase name (ofMarkup first)).nodes, []⟩
  have one := enter_of_process left
  rw [← rebase_reordered same] at right
  have two := enter_of_process right
  rw [rebase_reordered same] at two
  refine ⟨s, t, pending, after, number, early, late, one, two, alike, same.namespaces, ?_, ?_⟩
  · have silent (declared : List (Text × Text)) :
        Emission.factual (reports processing number declared) = [] :=
      Emission.factual_of_processor (reports_processor number declared)
    rw [one, two]
    simp only [Emission.factual_append, silent]
  · intro value given
    rw [language]
    exact language_of_given distinct given _

def crowded : List Markup.Attribute :=
  [("lang", "de"), ("xmlns:dc", "u:d"), ("property", "dc:title"), ("xmlns:_", "u:x"), ("xml:lang", "fr"),
    ("typeof", "dc:T"), ("xmlns:1", "u:1")].map fun pair => ⟨Markup.ascii pair.1, Markup.ascii pair.2⟩

theorem crowded_permuted :
    crowded.Perm crowded.reverse ∧ (ofMarkup crowded).Distinct ∧
      Emission.factual ((initial []).enter {} [0x70] (ofMarkup crowded.reverse)).2 =
        Emission.factual ((initial []).enter {} [0x70] (ofMarkup crowded)).2 ∧
      ((initial []).enter {} [0x70] (ofMarkup crowded.reverse)).1.stack.map (·.scope.language) =
        [some "fr".toList] := by
  have perm : crowded.Perm crowded.reverse := (List.reverse_perm _).symm
  have distinct : (ofMarkup crowded).Distinct := ⟨by decide +kernel, by decide +kernel⟩
  obtain ⟨s, t, pending, after, number, early, late, _, two, alike, _, facts, language⟩ :=
    enter_permuted {} (initial []) [0x70] perm distinct
  refine ⟨perm, distinct, facts, ?_⟩
  have given : ("xml:lang".toList, "fr".toList) ∈ (ofMarkup crowded).pairs := by decide +kernel
  rw [two]
  simp [initial, alike.language, language _ given]

end Rdfa.Document.Processor
