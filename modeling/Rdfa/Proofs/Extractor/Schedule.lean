import Rdfa.Consumer.Playback
import Rdfa.Proofs.Consumer.Contact
import Rdfa.Proofs.Extractor.Whole

-- The calls of a run in their order, requests for bytes among the deliveries: an extractor tells what a
-- piece made known before it asks for the next one, and what it tells by then depends on no later piece.
namespace Rdfa

open Document

namespace Contact

def callback : Contact → Callback
  | .produced size _ => .fill size
  | .received graph triple (.ok _) => .triple graph triple
  | .received graph triple (.error _) => .refusedTriple graph triple
  | .declared name iri (.ok _) => .namespace name iri
  | .declared name iri (.error _) => .refusedNamespace name iri

end Contact

-- The calls up to the request with this number, counting from one, that request included.
def Callback.through : Nat → List Callback → List Callback
  | 0, _ => []
  | _ + 1, [] => []
  | fills + 1, .fill size :: rest => .fill size :: through fills rest
  | fills + 1, call :: rest => call :: through (fills + 1) rest

theorem Callback.through_fill (size : Nat) (calls : List Callback) :
    through 1 (.fill size :: calls) = [.fill size] := by
  cases calls <;> rfl

-- A host that hands out pieces in order, is asked once more for bytes at the end of the input and told
-- of it by `none` from then on, and takes every announceable statement. `log` is what it was asked.
structure Hooks.Notes {η : Type} [Hooks η] (capacity : Nat)
    (notes : Option (List Bytes) → List Contact → η → Prop) : Prop where
  bytes : ∀ {host chunk rest log}, notes (some (chunk :: rest)) log host →
    ∃ filled next, Hooks.fill host capacity = (some filled, next) ∧ filled.reported ≠ 0 ∧
      filled.taken capacity = chunk ∧
      notes (some rest) (log ++ [.produced capacity (.ok chunk)]) next
  ended : ∀ {host log}, notes (some []) log host →
    ∃ filled next, Hooks.fill host capacity = (some filled, next) ∧ filled.reported = 0 ∧
      notes none (log ++ [.produced capacity (.ok [])]) next
  exhausted : ∀ {host log}, notes none log host →
    ∃ filled next, Hooks.fill host capacity = (some filled, next) ∧ filled.reported = 0 ∧
      notes none log next
  accepts : ∀ {host left log emission}, notes left log host → Announceable emission.triple →
    ∃ next, Hooks.emit host emission = (true, next) ∧
      notes left (log ++ emission.heard?.toList) next

structure Run.Leaves {η : Type} (notes : Option (List Bytes) → List Contact → η → Prop) (run : Run η)
    (log : List Contact) (result : Except Halt Unit) : Prop where
  ended : run.result = result
  noted : ∃ left, notes left log run.host

theorem Run.Leaves.behind {η : Type} {notes : Option (List Bytes) → List Contact → η → Prop}
    {run : Run η} {log : List Contact} {result : Except Halt Unit} (leaves : run.Leaves notes log result)
    (calls : List Exchange) : (run.behind calls).Leaves notes log result :=
  ⟨leaves.ended, leaves.noted⟩

namespace Engine

variable {η : Type} [Hooks η] {capacity : Nat} {notes : Option (List Bytes) → List Contact → η → Prop}
  {engine : Engine} {host : η} {log : List Contact} {left : Option (List Bytes)}
  {result : Except Halt Unit} {after : Move engine.State}

theorem leaves_stop (engine : Engine) (noted : notes left log host)
    (result : Except Halt Unit) :
    (engine.runFrom (.stop result) host).Leaves notes log result := by
  rw [runFrom_stop]
  exact ⟨rfl, left, noted⟩

theorem leaves_sendAll (hooks : Hooks.Notes capacity notes) {emissions : List Emission}
    {total : List Contact} (fits : ∀ emission ∈ emissions, Announceable emission.triple)
    (noted : notes left log host)
    (later : ∀ last, notes left (log ++ emissions.filterMap Emission.heard?) last →
      (engine.runFrom after last).Leaves notes total result) :
    (engine.runFrom (Extractor.sendAll emissions after) host).Leaves notes total result := by
  let stands (told : List Emission) := notes left (log ++ told.filterMap Emission.heard?)
  have takes {told : List Emission} {host : η} {emission : Emission} (still : stands told host)
      (fit : Announceable emission.triple) :
      ∃ next, Hooks.emit host emission = (true, next) ∧ stands (told ++ [emission]) next := by
    obtain ⟨next, asked, further⟩ := hooks.accepts still fit
    rw [List.append_assoc] at further
    refine ⟨next, asked, ?_⟩
    cases found : emission.heard? <;> simpa [stands, found] using further
  have begun : stands [] host := by simpa [stands] using noted
  obtain ⟨last, done, played⟩ := Extractor.play_each stands takes [] fits after begun
  rw [runFrom_of_calls played]
  exact (later last done).behind _

end Engine

namespace Extractor

variable (x : Extractor)

def heard (r : Reading) : List Contact := r.drain.1.filterMap Emission.heard?

def schedule (r : Reading) : List Bytes → List Contact
  | [] => heard r ++
    match r.malformation with
    | some _ => []
    | none => .produced x.capacity (.ok []) :: heard (r.drain.2.close x.processing)
  | chunk :: rest => heard r ++
    match r.malformation with
    | some _ => []
    | none => .produced x.capacity (.ok chunk) :: schedule (r.drain.2.read x.processing chunk) rest

-- All the calls of a run. Only the first piece can begin with a byte order mark.
def contacts : List Bytes → List Contact
  | [] => x.schedule (.initial x.base) []
  | chunk :: rest => .produced x.capacity (.ok chunk) ::
    x.schedule ((Reading.initial x.base).read x.processing (withoutMark chunk)) rest

def document : List Bytes → Bytes
  | [] => []
  | chunk :: rest => withoutMark chunk ++ rest.flatten

theorem document_eq {chunks : List Bytes} (unmarked : ¬ [0xEF, 0xBB, 0xBF] <+: chunks.flatten) :
    document chunks = chunks.flatten := by
  cases chunks with
  | nil => rfl
  | cons chunk rest =>
    rw [List.flatten_cons] at unmarked ⊢
    rw [document, withoutMark_eq unmarked]

variable {x} {r : Reading} {η : Type} [Hooks η]
  {notes : Option (List Bytes) → List Contact → η → Prop} {host : η} {log : List Contact}

theorem schedule_of_malformation {malformation : Malformation}
    (failed : r.malformation = some malformation) (chunks : List Bytes) :
    x.schedule r chunks = heard r := by
  cases chunks <;> simp [schedule, failed]

theorem schedule_nil (sound : r.malformation = none) :
    x.schedule r [] =
      heard r ++ .produced x.capacity (.ok []) :: heard (r.drain.2.close x.processing) := by
  simp only [schedule, sound]

theorem schedule_cons (sound : r.malformation = none) (chunk : Bytes) (rest : List Bytes) :
    x.schedule r (chunk :: rest) =
      heard r ++ .produced x.capacity (.ok chunk) ::
        x.schedule (r.drain.2.read x.processing chunk) rest := by
  simp only [schedule, sound]

theorem leaves_conclude (hooks : Hooks.Notes x.capacity notes) (announces : r.Announces)
    (noted : notes none log host) :
    (x.engine.runFrom (x.conclude r) host).Leaves notes (log ++ heard (r.close x.processing))
      (verdict (x.finished r [])) :=
  Engine.leaves_sendAll hooks (announces_drain announces.close).1 noted fun _ done =>
    Engine.leaves_stop x.engine done _

theorem leaves_announced (hooks : Hooks.Notes x.capacity notes) {left : Option (List Bytes)}
    {chunks : List Bytes} {total : List Contact} (announces : r.Announces) (noted : notes left log host)
    (given : ∀ malformation, r.malformation = some malformation → total = log ++ heard r)
    (later : r.malformation = none → ∀ last, notes left (log ++ heard r) last →
      (x.engine.runFrom (x.ask id r.drain.2 fun _ => x.conclude r.drain.2) last).Leaves notes total
        (verdict (x.finished r.drain.2 chunks.flatten))) :
    (x.engine.runFrom (x.resume r) host).Leaves notes total
      (verdict (x.finished r chunks.flatten)) := by
  rw [(finished_drain (x := x) (r := r) chunks.flatten).2]
  have fits := (announces_drain announces).1
  cases failed : r.malformation with
  | some malformation =>
    have kept : r.drain.2.malformation = some malformation := failed
    rw [resume_of_malformation failed, finished_of_malformation kept, verdict, kept,
      given malformation failed]
    exact Engine.leaves_sendAll hooks fits noted fun _ done =>
      Engine.leaves_stop x.engine done (stopAt malformation)
  | none =>
    rw [resume_of_sound failed]
    exact Engine.leaves_sendAll hooks fits noted (later failed)

theorem leaves_resume (hooks : Hooks.Notes x.capacity notes) {chunks : List Bytes}
    (announces : r.Announces) (noted : notes (some chunks) log host) :
    (x.engine.runFrom (x.resume r) host).Leaves notes (log ++ x.schedule r chunks)
      (verdict (x.finished r chunks.flatten)) := by
  -- The induction is on the pieces that are still to come.
  induction chunks generalizing r host log with
  | nil =>
    refine leaves_announced hooks announces noted (fun malformation failed => ?_)
      fun sound last told => ?_
    · rw [schedule_of_malformation failed]
    · obtain ⟨filled, next, asked, nothing, still⟩ := hooks.ended told
      have concluded := leaves_conclude hooks (announces_drain announces).2 still
      rw [List.append_assoc, List.append_assoc, List.singleton_append, ← schedule_nil sound]
        at concluded
      rw [runFrom_ended asked nothing]
      exact concluded.behind _
  | cons chunk rest ih =>
    refine leaves_announced hooks announces noted (fun malformation failed => ?_)
      fun sound last told => ?_
    · rw [schedule_of_malformation failed]
    · obtain ⟨filled, next, asked, more, taken, still⟩ := hooks.bytes told
      have fits : (r.drain.2.read x.processing chunk).Announces :=
        (announces_drain announces).2.read chunk
      have resumed := ih fits still
      rw [List.append_assoc, List.append_assoc, List.singleton_append, ← schedule_cons sound]
        at resumed
      rw [runFrom_bytes asked more, List.flatten_cons, ← finished_append, id, taken]
      exact resumed.behind _

theorem leaves_run (hooks : Hooks.Notes x.capacity notes) (fresh : x.consumed = false)
    {chunks : List Bytes} (noted : notes (some chunks) [] host) :
    (x.engine.run host).Leaves notes (x.contacts chunks)
      (verdict (x.whole (document chunks))) := by
  have clean := announces_initial x.base
  rw [Engine.run, engine_start fresh]
  cases chunks with
  | nil =>
    obtain ⟨_, _, asked, nothing, told⟩ := hooks.ended noted
    obtain ⟨_, _, again, zero, still⟩ := hooks.exhausted told
    rw [start, runFrom_ended asked nothing, runFrom_ended again zero]
    exact ((leaves_conclude hooks clean still).behind _).behind _
  | cons chunk rest =>
    obtain ⟨filled, next, asked, more, taken, still⟩ := hooks.bytes noted
    rw [start, runFrom_bytes asked more, document, whole, ← finished_append, taken]
    exact (leaves_resume hooks (clean.read (withoutMark chunk)) still).behind _

theorem heard_deliveries (r : Reading) : ∀ contact ∈ heard r, contact.isProduction = false := by
  intro contact present
  obtain ⟨emission, _, said⟩ := List.mem_filterMap.mp present
  obtain ⟨delivery, _, rfl⟩ := Option.map_eq_some_iff.mp said
  exact Contact.isProduction_offered _ _ _

theorem heard_count (r : Reading) : (heard r).countP (·.isProduction) = 0 :=
  List.countP_eq_zero.mpr fun contact present => by simp [heard_deliveries r contact present]

theorem heard_filter (r : Reading) : (heard r).filter (!·.isProduction) = heard r :=
  List.filter_eq_self.mpr fun contact present => by simp [heard_deliveries r contact present]

theorem heard_productions (r : Reading) : (heard r).filter (·.isProduction) = [] :=
  List.filter_eq_nil_iff.mpr fun contact present => by simp [heard_deliveries r contact present]

theorem heard_following (r : Reading) (earlier : Reading) :
    heard (r.following earlier.sent) = heard earlier ++ heard r := by
  simp [heard, Reading.following, Reading.drain]

theorem through_deliveries {told : List Contact}
    (deliveries : ∀ contact ∈ told, contact.isProduction = false) (fills : Nat)
    (rest : List Callback) :
    Callback.through (fills + 1) (told.map (·.callback) ++ rest) =
      told.map (·.callback) ++ Callback.through (fills + 1) rest := by
  induction told with
  | nil => rfl
  | cons contact told ih =>
    obtain ⟨here, others⟩ := List.forall_mem_cons.mp deliveries
    cases contact with
    | produced size answer => cases here
    | received graph triple answer =>
      cases answer <;> exact congrArg (_ :: ·) (ih others)
    | declared name iri answer =>
      cases answer <;> exact congrArg (_ :: ·) (ih others)

theorem schedule_first (sound : r.malformation = none) (chunks : List Bytes) :
    ∃ answer later, x.schedule r chunks =
      heard r ++ .produced x.capacity (.ok answer) :: later := by
  cases chunks with
  | nil => exact ⟨_, _, schedule_nil sound⟩
  | cons chunk rest => exact ⟨_, _, schedule_cons sound chunk rest⟩

theorem schedule_causal (r : Reading) (early late others : List Bytes) :
    Callback.through (early.length + 1) ((x.schedule r (early ++ late)).map (·.callback)) =
      Callback.through (early.length + 1) ((x.schedule r (early ++ others)).map (·.callback)) := by
  induction early generalizing r with
  | nil =>
    cases failed : r.malformation with
    | some malformation => rw [schedule_of_malformation failed, schedule_of_malformation failed]
    | none =>
      obtain ⟨_, _, here⟩ := schedule_first (x := x) failed ([] ++ late)
      obtain ⟨_, _, there⟩ := schedule_first (x := x) failed ([] ++ others)
      rw [here, there, List.map_append, List.map_append,
        through_deliveries (heard_deliveries r), through_deliveries (heard_deliveries r)]
      exact congrArg (_ ++ ·) ((Callback.through_fill _ _).trans (Callback.through_fill _ _).symm)
  | cons chunk early ih =>
    cases failed : r.malformation with
    | some malformation => rw [schedule_of_malformation failed, schedule_of_malformation failed]
    | none =>
      rw [List.cons_append, List.cons_append, schedule_cons failed, schedule_cons failed,
        List.map_append, List.map_append, through_deliveries (heard_deliveries r),
        through_deliveries (heard_deliveries r)]
      exact congrArg (_ ++ Callback.fill x.capacity :: ·) (ih _)

-- By the request after some pieces exactly that was delivered which reading them made known.
theorem schedule_eager {early : List Bytes}
    (sound : (r.read x.processing early.flatten).malformation = none) (late : List Bytes) :
    ∃ before answer after,
      x.schedule r (early ++ late) = before ++ .produced x.capacity (.ok answer) :: after ∧
      before.countP (·.isProduction) = early.length ∧
      before.filter (!·.isProduction) = heard (r.read x.processing early.flatten) := by
  induction early generalizing r with
  | nil =>
    obtain ⟨answer, later, first⟩ := schedule_first (x := x) sound ([] ++ late)
    exact ⟨heard r, answer, later, first, heard_count r, heard_filter r⟩
  | cons chunk early ih =>
    have split : r.read x.processing (chunk :: early).flatten =
        ((r.drain.2.read x.processing chunk).read x.processing early.flatten).following r.sent := by
      rw [List.flatten_cons, Reading.read_append, ← Reading.read_following,
        ← Reading.read_following]
      rfl
    have first : r.malformation = none := by
      cases failed : r.malformation with
      | none => rfl
      | some malformation =>
        rw [Reading.read_of_malformation failed, failed] at sound
        cases sound
    rw [split] at sound ⊢
    obtain ⟨before, answer, after, later, count, told⟩ :=
      ih (r := r.drain.2.read x.processing chunk) sound
    refine ⟨heard r ++ .produced x.capacity (.ok chunk) :: before, answer, after, ?_, ?_, ?_⟩
    · rw [List.cons_append, schedule_cons first, later, List.append_assoc]
      rfl
    · rw [List.countP_append, heard_count, Nat.zero_add, List.countP_cons, count]
      rfl
    · rw [List.filter_append, heard_filter, heard_following, ← told]
      rfl

theorem verdict_eq_ok_iff : verdict r = .ok () ↔ r.malformation = none := by
  unfold verdict
  cases r.malformation <;> simp [stopAt]

-- In all, what is delivered is what reading all the bytes makes known.
theorem schedule_told (r : Reading) (chunks : List Bytes) :
    (x.schedule r chunks).filter (!·.isProduction) =
      (x.finished r chunks.flatten).sent.reverse.filterMap Emission.heard? := by
  induction chunks generalizing r with
  | nil =>
    rw [(finished_drain _).1, List.filterMap_append]
    cases failed : r.malformation with
    | some malformation =>
      have kept : r.drain.2.malformation = some malformation := failed
      rw [schedule_of_malformation failed, heard_filter, finished_of_malformation kept]
      exact (List.append_nil _).symm
    | none =>
      rw [schedule_nil failed, List.filter_append, heard_filter,
        List.filter_cons_of_neg (by simp [Contact.isProduction]), heard_filter]
      rfl
  | cons chunk rest ih =>
    rw [(finished_drain _).1, List.filterMap_append]
    cases failed : r.malformation with
    | some malformation =>
      have kept : r.drain.2.malformation = some malformation := failed
      rw [schedule_of_malformation failed, heard_filter, finished_of_malformation kept]
      exact (List.append_nil _).symm
    | none =>
      rw [schedule_cons failed, List.filter_append, heard_filter,
        List.filter_cons_of_neg (by simp [Contact.isProduction]), ih, finished_append]
      rfl

theorem sound_of_finished {document : Bytes} (sound : (x.finished r document).malformation = none) :
    r.malformation = none :=
  Reading.sound_of_read (Reading.sound_of_close sound)

theorem schedule_complete {chunks : List Bytes}
    (sound : (x.finished r chunks.flatten).malformation = none) :
    (x.schedule r chunks).filter (·.isProduction) =
      (chunks ++ [[]]).map fun answer => .produced x.capacity (.ok answer) := by
  have first := sound_of_finished sound
  induction chunks generalizing r with
  | nil =>
    rw [schedule_nil first, List.filter_append, heard_productions, List.filter_cons_of_pos rfl,
      heard_productions]
    rfl
  | cons chunk rest ih =>
    have later : (x.finished (r.drain.2.read x.processing chunk) rest.flatten).malformation =
        none := by
      have same := (finished_drain (x := x) (r := r) (chunk :: rest).flatten).2
      rw [verdict_eq_ok_iff.mpr sound, List.flatten_cons, ← finished_append (r := r.drain.2)] at same
      exact verdict_eq_ok_iff.mp same.symm
    rw [schedule_cons first, List.filter_append, heard_productions, List.filter_cons_of_pos rfl,
      ih later (sound_of_finished later)]
    rfl

theorem contacts_causal (x : Extractor) (early late others : List Bytes) :
    Callback.through (early.length + 1) ((x.contacts (early ++ late)).map (·.callback)) =
      Callback.through (early.length + 1) ((x.contacts (early ++ others)).map (·.callback)) := by
  cases early with
  | nil =>
    have first (chunks : List Bytes) :
        Callback.through 1 ((x.contacts chunks).map (·.callback)) = [.fill x.capacity] := by
      cases chunks <;> exact Callback.through_fill _ _
    exact (first late).trans (first others).symm
  | cons chunk early => exact congrArg (_ :: ·) (schedule_causal _ early late others)

theorem contacts_eager {early : List Bytes} (begun : early ≠ [])
    (sound : ((Reading.initial x.base).read x.processing (document early)).malformation = none)
    (late : List Bytes) :
    ∃ before answer after,
      x.contacts (early ++ late) = before ++ .produced x.capacity (.ok answer) :: after ∧
      before.countP (·.isProduction) = early.length ∧
      before.filter (!·.isProduction) =
        heard ((Reading.initial x.base).read x.processing (document early)) := by
  cases early with
  | nil => exact absurd rfl begun
  | cons chunk early =>
    rw [document, Reading.read_append] at sound ⊢
    obtain ⟨before, answer, after, later, count, told⟩ := schedule_eager sound late
    refine ⟨.produced x.capacity (.ok chunk) :: before, answer, after, ?_, ?_, told⟩
    · exact congrArg (_ :: ·) later
    · rw [List.countP_cons, count]
      rfl

theorem contacts_told (x : Extractor) (chunks : List Bytes) :
    (x.contacts chunks).filter (!·.isProduction) =
      (x.whole (document chunks)).sent.reverse.filterMap Emission.heard? := by
  cases chunks with
  | nil => exact schedule_told _ []
  | cons chunk rest =>
    rw [document, whole, ← finished_append]
    exact schedule_told _ rest

theorem contacts_complete {chunks : List Bytes}
    (sound : (x.whole (document chunks)).malformation = none) :
    (x.contacts chunks).filter (·.isProduction) =
      (chunks ++ [[]]).map fun answer => .produced x.capacity (.ok answer) := by
  cases chunks with
  | nil => exact schedule_complete sound
  | cons chunk rest =>
    rw [document, whole, ← finished_append] at sound
    exact congrArg (_ :: ·) (schedule_complete sound)

end Extractor
end Rdfa
