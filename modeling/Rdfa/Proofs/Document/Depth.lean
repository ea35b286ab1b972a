import Rdfa.Proofs.Document.Base
import Rdfa.Proofs.Document.Positions
import Rdfa.Proofs.Document.Strays

-- How deep elements nest. The tokens alone tell which elements are open, and these are never more than may be.
-- A start tag is refused for the depth exactly where they are as many, and what is refused leaves no trace.
namespace Rdfa.Document

def without (processing : Processing) (name : Bytes) : List Bytes → List Bytes
  | [] => []
  | innermost :: outer =>
    if innermost = name ∨ processing.voidElements = true ∧ Markup.sameLetters innermost name = true then outer
    else innermost :: outer

def openAfter (processing : Processing) (names : List Bytes) : Markup.Token → List Bytes
  | .opening tag => if closesItself processing tag.name = true then names else tag.name :: names
  | .closing name => without processing name names
  | .standalone _ | .text _ | .cdata _ | .aside => names

def openNames (processing : Processing) (tokens : List Markup.Token) : List Bytes :=
  tokens.foldl (openAfter processing) []

theorem length_without_le (processing : Processing) (name : Bytes) (names : List Bytes) :
    (without processing name names).length ≤ names.length := by
  unfold without
  split
  · exact Nat.le_refl _
  · split
    · exact Nat.le_succ _
    · exact Nat.le_refl _

theorem length_openAfter_le {processing : Processing} {names : List Bytes} {token : Markup.Token}
    (starts : token.start? = none) : (openAfter processing names token).length ≤ names.length := by
  cases token with
  | opening tag => cases starts
  | closing name => exact length_without_le processing name names
  | standalone _ | text _ | cdata _ | aside => exact Nat.le_refl _

namespace Processor

variable {processing : Processing} {base : Text} {p next last : Processor} {item : Markup.Item}
  {items : List Markup.Item} {sent : List Emission} {tag : Markup.Tag} {name : Bytes} {position : Nat}
  {refusal : Refusal}

def names (p : Processor) : List Bytes := p.stack.map (·.name)

theorem length_names (p : Processor) : p.names.length = p.stack.length := List.length_map _

theorem names_of_stack (same : next.stack = p.stack) : next.names = p.names := congrArg (List.map _) same

theorem names_of_closeElement (closed : p.closeElement processing position name = .ok (next, sent)) :
    next.names = without processing name p.names := by
  have answers_iff (frame : Frame) : answers processing frame name = true ↔
      frame.name = name ∨ processing.voidElements = true ∧ Markup.sameLetters frame.name name = true := by
    simp [answers]
  rcases closeElement_eq_ok_iff.mp closed with ⟨⟨frame, top, answered⟩, popped⟩ | ⟨unanswered, _, kept⟩
  · obtain ⟨outer, stack⟩ := List.head?_eq_some_iff.mp top
    have reached : p.closeTop.1 = next := congrArg Prod.fst popped
    rw [← reached]
    simp only [closeTop, names, stack, List.map_cons, without, if_pos ((answers_iff frame).mp answered)]
  · cases kept
    unfold names
    cases stack : p.stack with
    | nil => rfl
    | cons frame outer =>
      have other := unanswered frame (by rw [stack]; rfl)
      have named : ¬ _ := fun same => absurd ((answers_iff frame).mpr same) (by rw [other]; decide)
      rw [List.map_cons, without, if_neg named]

theorem names_of_step (step : p.step processing item = .ok (next, sent)) :
    next.names = openAfter processing p.names item.token := by
  -- The cases are the kinds of tokens.
  cases token : item.token with
  | opening tag =>
    have made := stack_of_opening token step
    split at made
    · next void =>
      have closes : closesItself processing tag.name = true := void
      exact (names_of_stack made).trans (if_pos closes).symm
    · next void =>
      have stays : ¬ closesItself processing tag.name = true := void
      obtain ⟨frame, named, stack⟩ := made
      have reached : next.names = tag.name :: p.names := by
        rw [← named]
        exact congrArg (List.map _) stack
      exact reached.trans (if_neg stays).symm
  | standalone tag =>
    simp only [Processor.step, token] at step
    exact names_of_stack (stack_of_thenClose step)
  | closing name =>
    simp only [Processor.step, token] at step
    exact names_of_closeElement step
  | text bytes | cdata bytes =>
    simp only [Processor.step, token] at step
    cases step
    simp [names, appendText, openAfter]
  | aside =>
    simp only [Processor.step, token] at step
    cases step
    rfl

theorem names_of_reads (reads : p.Reads processing items last sent) :
    last.names = (items.map (·.token)).foldl (openAfter processing) p.names := by
  induction reads with
  | nil => rfl
  | cons step _ ih => rw [ih, names_of_step step, List.map_cons, List.foldl_cons]

theorem length_of_openElement (opened : p.openElement processing position tag = .ok (next, sent)) :
    next.stack.length ≤ processing.maxDepth := by
  obtain ⟨frame, _, stack⟩ := stack_of_openElement opened
  rw [stack, List.length_cons]
  exact (openElement_eq_ok_iff.mp opened).1

theorem length_of_step (step : p.step processing item = .ok (next, sent))
    (bounded : p.stack.length ≤ processing.maxDepth) : next.stack.length ≤ processing.maxDepth := by
  cases starts : item.token.start? with
  | some tag =>
    rcases step_of_start starts with opens | opens <;> rw [opens] at step
    · exact length_of_openElement step
    · rw [stack_of_thenClose step]
      exact bounded
  | none =>
    rw [← length_names] at bounded ⊢
    rw [names_of_step step]
    exact Nat.le_trans (length_openAfter_le starts) bounded

theorem length_of_reads (reads : p.Reads processing items last sent)
    (bounded : p.stack.length ≤ processing.maxDepth) : last.stack.length ≤ processing.maxDepth := by
  induction reads with
  | nil => exact bounded
  | cons step _ ih => exact ih (length_of_step step bounded)

theorem Lasting.reads (lasting : p.Lasting processing) (reads : p.Reads processing items last sent) :
    last.Lasting processing := by
  induction reads with
  | nil => exact lasting
  | cons step _ ih => exact ih (lasting.step step)

theorem reads_siblings {forest : Forest} (wellFormed : forest.WellFormed processing p.stack.length)
    (lasting : p.Lasting processing) (spelled : items.map (·.token) = forest.tokens) :
    ∃ q sent, p.Reads processing items q sent ∧ q.names = p.names :=
  ⟨_, _, reads_forest wellFormed lasting spelled, List.map_map ..⟩

theorem start_of_tooDeep {limit : Nat} (failed : p.step processing item = .error refusal)
    (deep : refusal.malformation.flaw = .tooDeep limit) : ∃ tag, item.token.start? = some tag := by
  have offends := (step_error failed (by rw [deep]; rfl)).2
  rw [deep] at offends
  generalize item.token = token at offends
  cases offends with
  | opening limit tag => exact ⟨tag, rfl⟩
  | standalone limit tag => exact ⟨tag, rfl⟩

theorem step_eq_tooDeep_iff {limit : Nat} (bounded : p.stack.length ≤ processing.maxDepth) :
    p.step processing item = .error ⟨⟨position, .tooDeep limit⟩, next, sent⟩ ↔
      (∃ tag, item.token.start? = some tag) ∧ p.stack.length = processing.maxDepth ∧
        position = item.position ∧ limit = processing.maxDepth ∧ next = p ∧ sent = [] := by
  constructor
  · intro failed
    obtain ⟨tag, starts⟩ := start_of_tooDeep failed rfl
    rcases (step_eq_error_iff starts).mp failed with ⟨full, same⟩ | ⟨_, flaw, _, same⟩
    · cases same
      exact ⟨⟨tag, starts⟩, Nat.le_antisymm bounded full, rfl, rfl, rfl, rfl⟩
    · cases same
  · rintro ⟨⟨tag, starts⟩, full, rfl, rfl, rfl, rfl⟩
    exact (step_eq_error_iff starts).mpr (.inl ⟨Nat.le_of_eq full.symm, rfl⟩)

end Processor

-- A flaw is the last that is seen of a document: nothing is sent for it, or for what is written behind it.
theorem Reading.close_refused {processing : Processing} {r : Reading} {item : Markup.Item}
    {refusal : Processor.Refusal} (refused : r.processor.step processing item = .error refusal)
    (rest : Bytes) : ((r.take processing item).read processing rest).close processing =
      { r with malformation := some refusal.malformation } := by
  rw [take_of_error refused]
  change ((r.fail refusal.malformation).read processing rest).close processing = r.fail refusal.malformation
  rw [read_of_malformation rfl, close_of_malformation rfl]

-- What holds where these tokens were read: how many elements are open and may be, and which start tags are
-- refused, with what consequence.
structure Contained (processing : Processing) (tokens : List Markup.Token) (p : Processor) : Prop where
  names : p.names = openNames processing tokens
  bounded : p.stack.length ≤ processing.maxDepth
  -- While a start tag is processed that closes its element too.
  passing : ∀ position tag q sent, p.openElement processing position tag = .ok (q, sent) →
    q.stack.length ≤ processing.maxDepth
  tooDeep : ∀ item position limit q sent,
    p.step processing item = .error ⟨⟨position, .tooDeep limit⟩, q, sent⟩ ↔
      (∃ tag, item.token.start? = some tag) ∧
        (openNames processing tokens).length = processing.maxDepth ∧
        position = item.position ∧ limit = processing.maxDepth ∧ q = p ∧ sent = []
  -- However many elements come one after another.
  siblings : ∀ (forest : Forest) (items : List Markup.Item),
    forest.WellFormed processing (openNames processing tokens).length →
      items.map (·.token) = forest.tokens →
        (∃ q sent, p.Reads processing items q sent) ∧
          openNames processing (tokens ++ forest.tokens) = openNames processing tokens
  stray : processing.voidElements = true → ∀ item name, item.token = .closing name →
    isVoid (Markup.localName name) = true → p.step processing item = .ok (p, [])
  -- Depth comes first, then the attributes, and only then is anything done about the tag.
  refused : ∀ item tag refusal, item.token.start? = some tag →
    (p.step processing item = .error refusal ↔
      (openNames processing tokens).length = processing.maxDepth ∧
        refusal = p.refusal item.position (.tooDeep processing.maxDepth) ∨
      (openNames processing tokens).length < processing.maxDepth ∧ ∃ flaw, tag.attributes = .error flaw ∧
        refusal = p.refusal item.position (.attributes flaw))
  -- Whatever is written behind it.
  untouched : ∀ (r : Reading) item refusal, r.processor = p →
    p.step processing item = .error refusal → ∀ rest,
      ((r.take processing item).read processing rest).close processing =
        { r with malformation := some refusal.malformation }

namespace Processor

variable {processing : Processing} {base : Text} {p : Processor} {items : List Markup.Item}
  {sent : List Emission}

theorem nesting_bounded (reads : (initial base).Reads processing items p sent) :
    Contained processing (items.map (·.token)) p := by
  have names : p.names = openNames processing (items.map (·.token)) := names_of_reads reads
  have length : (openNames processing (items.map (·.token))).length = p.stack.length := by
    rw [← names, length_names]
  have bounded : p.stack.length ≤ processing.maxDepth := length_of_reads reads (Nat.zero_le _)
  have lasting : p.Lasting processing := by
    refine Lasting.reads ?_ reads
    rintro frame ⟨⟩
  constructor
  case names => exact names
  case bounded => exact bounded
  case passing => exact fun position tag q sent => length_of_openElement
  case tooDeep =>
    intro item position limit q sent
    rw [length]
    exact step_eq_tooDeep_iff bounded
  case siblings =>
    intro forest inner wellFormed spelled
    rw [length] at wellFormed
    obtain ⟨q, more, further, same⟩ := reads_siblings wellFormed lasting spelled
    refine ⟨⟨q, more, further⟩, ?_⟩
    have reached := names_of_reads further
    rw [spelled, same, names] at reached
    rw [openNames, List.foldl_append]
    exact reached.symm
  case stray => exact fun letters item name closing void => step_stray_void lasting letters void closing
  case refused =>
    intro item tag refusal starts
    rw [length, step_eq_error_iff starts]
    have full : p.stack.length = processing.maxDepth ↔ processing.maxDepth ≤ p.stack.length :=
      ⟨fun same => Nat.le_of_eq same.symm, Nat.le_antisymm bounded⟩
    rw [full]
  case untouched =>
    rintro r item refusal rfl
    exact Reading.close_refused

def shallow : Processing := { maxDepth := 2 }

def filled : Bytes := Markup.ascii "<p><b/><br></br><br>x<i>"

def filling : Processor := ((Reading.initial "http://e/".toList).read shallow filled).processor

theorem filling_contained : ∃ items sent, (initial "http://e/".toList).Reads shallow items filling sent ∧
    filling.names = [Markup.ascii "i", Markup.ascii "p"] ∧
    Contained shallow (items.map (·.token)) filling := by
  obtain ⟨items, sent, reads⟩ := Reading.reads_read shallow (.initial "http://e/".toList) filled
  exact ⟨items, sent, reads, by decide +kernel, nesting_bounded reads⟩

end Processor
end Rdfa.Document
