import Mathlib.Algebra.GroupWithZero.Nat
import Rdfa.Proofs.Session.Run

-- The counters of a run say what the consumer was asked and how it answered, and nothing else.
namespace Rdfa

namespace Contact

-- What is longer than asked for is cut.
def bytesUsed : Contact → Nat
  | .produced size (.ok chunk) => min size chunk.length
  | .produced _ (.error _) | .received _ _ _ | .declared _ _ _ => 0

def isCut : Contact → Bool
  | .produced size (.ok chunk) => size < chunk.length
  | .produced _ (.error _) | .received _ _ _ | .declared _ _ _ => false

def isTaken (graph : Graph) : Contact → Bool
  | .received given _ (.ok _) => given = graph
  | .received _ _ (.error _) | .produced _ _ | .declared _ _ _ => false

def isDeclaration : Contact → Bool
  | .declared _ _ (.ok _) => true
  | .declared _ _ (.error _) | .produced _ _ | .received _ _ _ => false

end Contact

namespace Stats

def ofContacts (contacts : List Contact) : Stats where
  fillRequests := contacts.countP (·.isProduction)
  bytesRead := (contacts.map (·.bytesUsed)).sum
  defaultTriples := contacts.countP (·.isTaken .default)
  processorTriples := contacts.countP (·.isTaken .processor)
  namespaces := contacts.countP (·.isDeclaration)
  truncatedChunks := contacts.countP (·.isCut)

def plus (first second : Stats) : Stats where
  fillRequests := first.fillRequests + second.fillRequests
  bytesRead := first.bytesRead + second.bytesRead
  defaultTriples := first.defaultTriples + second.defaultTriples
  processorTriples := first.processorTriples + second.processorTriples
  namespaces := first.namespaces + second.namespaces
  truncatedChunks := first.truncatedChunks + second.truncatedChunks

theorem plus_none (stats : Stats) : stats.plus (ofContacts []) = stats := rfl

theorem none_plus (stats : Stats) : plus {} stats = stats := by
  simp [plus]

theorem plus_ofContacts_append (stats : Stats) (first second : List Contact) :
    (stats.plus (ofContacts first)).plus (ofContacts second) =
      stats.plus (ofContacts (first ++ second)) := by
  simp [plus, ofContacts, Nat.add_assoc]

theorem countFill_eq (stats : Stats) (size : Nat) (chunk : Bytes) :
    stats.countFill (chunk.take size).length (size < chunk.length) =
      stats.plus (ofContacts [.produced size (.ok chunk)]) := by
  by_cases cut : size < chunk.length <;>
    simp [countFill, plus, ofContacts, Contact.isProduction, Contact.bytesUsed, Contact.isTaken,
      Contact.isDeclaration, Contact.isCut, cut]

theorem countDelivery_eq (stats : Stats) (graph : Graph) (delivery : Delivery) :
    stats.countDelivery graph delivery =
      stats.plus (ofContacts [.offered graph delivery (.ok ())]) := by
  cases delivery <;> cases graph <;>
    simp [countDelivery, plus, ofContacts, Contact.offered, Contact.isProduction,
      Contact.bytesUsed, Contact.isTaken, Contact.isDeclaration, Contact.isCut]

theorem plus_refused (stats : Stats) (graph : Graph) (delivery : Delivery) (cause : Text) :
    stats.plus (ofContacts [.offered graph delivery (.error cause)]) = stats := by
  cases delivery <;>
    simp [plus, ofContacts, Contact.offered, Contact.isProduction, Contact.bytesUsed,
      Contact.isTaken, Contact.isDeclaration, Contact.isCut]

end Stats

namespace Bridge

variable {κ : Type} [Consumer κ] {b next last : Bridge (Logged κ)} {turn : Turn}
  {turns : List Turn}

theorem Step.stats (step : Step b turn next) :
    next.stats = b.stats.plus (.ofContacts turn.contacts) := by
  cases step with
  | fillRefused _ => exact (Stats.plus_none _).symm
  | fillEnded _ _ => exact (Stats.plus_none _).symm
  | fillEmpty _ _ _ => exact (Stats.plus_none _).symm
  | emissionRefused _ => exact (Stats.plus_none _).symm
  | codeUnknown _ _ => exact (Stats.plus_none _).symm
  | inputFailed _ _ _ _ => rfl
  | inputRead _ _ _ _ => exact Stats.countFill_eq _ _ _
  | deliveryRefused _ _ _ => exact (Stats.plus_refused _ _ _ _).symm
  | deliveryTaken _ _ _ => exact Stats.countDelivery_eq _ _ _

theorem Path.stats (path : Path b turns last) :
    last.stats = b.stats.plus (.ofContacts (turns.flatMap (·.contacts))) := by
  induction path with
  | nil => exact (Stats.plus_none _).symm
  | cons step later ih =>
    rw [ih, step.stats, Stats.plus_ofContacts_append, List.flatMap_cons]

end Bridge

namespace Session

variable {κ : Type} [Consumer κ] {s : Session κ} {engine : Engine} {binding : Binding κ}

theorem run_stats (ready : s.Ready engine binding) :
    s.run.session.stats = .ofContacts s.contacts := by
  have kept : s.run.session.stats = (engine.run (s.watched binding)).host.stats := by
    rw [run_of_ready ready]
    exact congrArg (·.host.stats) (run_unlogged engine s binding)
  rw [kept, (run_path ready).stats]
  exact Stats.none_plus _

end Session
end Rdfa
