import Rdfa.Proofs.Session.FirstFailure

-- What a consumer hears of an engine's statements: each up to the first failure, in order, as it was
-- made, and none after it.
namespace Rdfa

-- The call that a statement becomes, by its code. Nothing here follows the way it is decoded.
inductive Reports (emission : Emission) (answer : Except Text Unit) : Contact → Prop where
  | declared (code : emission.triple.code = 0) :
      Reports emission answer (.declared emission.triple.predicate emission.triple.object answer)
  | received {triple : Triple} (code : emission.triple.code ∈ [1, 2, 3, 4])
      (subject : triple.subject = emission.triple.subject)
      (predicate : triple.predicate = emission.triple.predicate)
      (object : triple.object = emission.triple.object)
      (blankNode : triple.kind = .blankNode ↔
        emission.triple.code = 1 ∧ "_:".toList <+: emission.triple.object)
      (resource : triple.kind = .resource ↔
        emission.triple.code = 1 ∧ ¬ "_:".toList <+: emission.triple.object)
      (literal : triple.kind = .literal ↔ emission.triple.code ∈ [2, 3, 4])
      (xmlLiteral : emission.triple.code = 3 → triple.datatype = some Vocabulary.xmlLiteral) :
      Reports emission answer (.received emission.graph triple answer)

inductive Turn.Faithful : Turn → Prop where
  | fill {size : Nat} {answer : Option Filled} {contacts : List Contact}
      (asked : contacts = [] ∨ ∃ wanted given, contacts = [.produced wanted given]) :
      Faithful ⟨.filled size answer, contacts⟩
  | taken {emission : Emission} {contact : Contact} (reports : Reports emission (.ok ()) contact) :
      Faithful ⟨.emitted emission true, [contact]⟩
  | refused {emission : Emission} {contact : Contact} {cause : Text}
      (reports : Reports emission (.error cause) contact) :
      Faithful ⟨.emitted emission false, [contact]⟩
  | unknown {emission : Emission} (code : 4 < emission.triple.code.toNat) :
      Faithful ⟨.emitted emission false, []⟩

structure DeliveryFaithful (turns : List Turn) : Prop where
  heard : ∀ before turn after, turns = before ++ turn :: after →
    (∀ earlier ∈ before, earlier.exchange.isRefused = false) → turn.Faithful
  unheard : ∀ before turn after, turns = before ++ turn :: after →
    (∃ earlier ∈ before, earlier.exchange.isRefused = true) → turn.contacts = []

theorem isLabel_iff {term : Text} : isLabel term = true ↔ "_:".toList <+: term :=
  List.isPrefixOf_iff_prefix

theorem RawTriple.delivery?_cases {raw : RawTriple} {delivery : Delivery}
    (meant : raw.delivery? = some delivery) :
    (raw.code = 0 ∧ delivery = .namespace raw.predicate raw.object) ∨
    (raw.code = 1 ∧
      delivery = .triple (raw.asTriple (if isLabel raw.object then .blankNode else .resource))) ∨
    ((raw.code = 2 ∨ raw.code = 4) ∧ delivery = .triple (raw.asTriple .literal)) ∨
    (raw.code = 3 ∧ delivery =
      .triple { raw.asTriple .literal with datatype := some Vocabulary.xmlLiteral }) := by
  unfold delivery? at meant
  split at meant
  · next code => exact .inl ⟨code, (Option.some.inj meant).symm⟩
  · split at meant
    · next code => exact .inr (.inl ⟨code, (Option.some.inj meant).symm⟩)
    · split at meant
      · next code => exact .inr (.inr (.inl ⟨code, (Option.some.inj meant).symm⟩))
      · split at meant
        · next code => exact .inr (.inr (.inr ⟨code, (Option.some.inj meant).symm⟩))
        · cases meant

theorem reports_of_delivery {emission : Emission} {delivery : Delivery}
    (meant : emission.triple.delivery? = some delivery) (answer : Except Text Unit) :
    Reports emission answer (.offered emission.graph delivery answer) := by
  rcases RawTriple.delivery?_cases meant with
    ⟨code, rfl⟩ | ⟨code, rfl⟩ | ⟨code, rfl⟩ | ⟨code, rfl⟩
  · exact .declared code
  · by_cases label : isLabel emission.triple.object = true
    · have lead := isLabel_iff.mp label
      refine .received (by simp [code]) rfl rfl rfl ?_ ?_ ?_ (by simp [code]) <;>
        simp only [RawTriple.asTriple, label, lead, code] <;> decide
    · have lead := mt isLabel_iff.mpr label
      refine .received (by simp [code]) rfl rfl rfl ?_ ?_ ?_ (by simp [code]) <;>
        simp only [RawTriple.asTriple, label, lead, code] <;> decide
  · refine .received ?_ rfl rfl rfl ?_ ?_ ?_ ?_ <;>
      rcases code with code | code <;> simp [RawTriple.asTriple, code]
  · exact .received (by simp [code]) rfl rfl rfl (by simp [RawTriple.asTriple, code])
      (by simp [RawTriple.asTriple, code]) (by simp [RawTriple.asTriple, code]) fun _ => rfl

namespace Bridge

variable {κ : Type} [Consumer κ] {b next last : Bridge (Logged κ)} {turn : Turn}
  {turns : List Turn}

theorem Step.faithful (step : Step b turn next) (running : b.failure = none) : turn.Faithful := by
  cases step with
  | fillRefused failed => cases running.symm.trans failed
  | emissionRefused failed => cases running.symm.trans failed
  | fillEnded _ _ => exact .fill (.inl rfl)
  | fillEmpty _ _ _ => exact .fill (.inl rfl)
  | inputFailed _ _ _ _ => exact .fill (.inr ⟨_, _, rfl⟩)
  | inputRead _ _ _ _ => exact .fill (.inr ⟨_, _, rfl⟩)
  | codeUnknown _ unknown => exact .unknown (RawTriple.delivery?_eq_none_iff.mp unknown)
  | deliveryRefused _ meant _ => exact .refused (reports_of_delivery meant _)
  | deliveryTaken _ meant _ => exact .taken (reports_of_delivery meant _)

theorem Path.delivery_faithful (path : Path b turns last) (running : b.failure = none) :
    DeliveryFaithful turns := by
  refine ⟨?_, ?_⟩
  · intro before turn after cut accepted
    subst cut
    obtain ⟨middle, next, earlier, step, _⟩ := path.split
    exact step.faithful (earlier.of_accepted running accepted)
  · intro before turn after cut ⟨earlier, present, refused⟩
    obtain ⟨first, second, rfl⟩ := List.append_of_mem present
    have final := path.first_failure_final running (.ok ())
    have regrouped : turns = first ++ earlier :: (second ++ turn :: after) := by simpa using cut
    exact (final.silent first earlier _ regrouped refused turn (by simp)).2

end Bridge

namespace Session

theorem run_delivery_faithful {κ : Type} [Consumer κ] {s : Session κ} {engine : Engine}
    {binding : Binding κ} (ready : s.Ready engine binding) :
    s.turns.map (·.exchange) = s.run.calls ∧
      s.contacts = (engine.run (s.watched binding)).host.consumer.log ∧
      DeliveryFaithful s.turns :=
  ⟨turns_exchanges ready, run_contacts ready, (run_path ready).delivery_faithful rfl⟩

theorem unheeded_delivery_faithful :
    unheeded.Ready unheeding.engine refusing ∧
      unheeded.turns.map (·.exchange) = unheeded.run.calls ∧
      unheeded.contacts = (unheeding.engine.run (unheeded.watched refusing)).host.consumer.log ∧
      DeliveryFaithful unheeded.turns := by
  have ready : unheeded.Ready unheeding.engine refusing := ⟨rfl, rfl, rfl⟩
  exact ⟨ready, run_delivery_faithful ready⟩

end Session
end Rdfa
