import Mathlib.Data.List.Perm.Subperm
import Mathlib.Order.Basic

namespace DelayedQueue

open List

/-!
# A delayed multi-queue

Jobs wait under the name of a queue until they are due; a take hands out one
waiting job and removes it.  A discipline says which queues one take may serve
and at which clock readings a job is ready.  A store refines the queue when the
history its clients see is a history of the queue.
-/

variable {Queue Due Clock Job : Type}

/-- A job that waits in a queue until it is due. -/
structure Entry (Queue Due Job : Type) where
  queue : Queue
  due : Due
  job : Job
  deriving DecidableEq

/-- What a client sees: a job put into a queue, or a job taken out of one. -/
inductive Event (Queue Due Clock Job : Type) where
  | put (entry : Entry Queue Due Job)
  | take (queue : Queue) (now : Clock) (job : Job)
  deriving DecidableEq

/-- The queues a take serves, and the clock readings at which jobs are ready. -/
structure Discipline (Queue Due Clock : Type) where
  serves : Queue → Queue → Prop
  ready : Due → Clock → Prop

def keptApart {Tick : Type} [LE Tick] (Queue : Type)
    (tick : Clock → Tick) : Discipline Queue (Option Clock) Clock where
  serves := Eq
  ready := fun due now => ∀ instant ∈ due, tick instant ≤ tick now

def anyJob (Queue Due Clock : Type) : Discipline Queue Due Clock where
  serves := fun _ _ => True
  ready := fun _ _ => True

/-- One event changes the jobs that wait. -/
inductive Step (discipline : Discipline Queue Due Clock) :
    List (Entry Queue Due Job) → Event Queue Due Clock Job →
        List (Entry Queue Due Job) → Prop where
  | put (waiting : List (Entry Queue Due Job))
      (entry : Entry Queue Due Job) : Step discipline waiting (.put entry) (entry :: waiting)
  | take {waiting rest : List (Entry Queue Due Job)} {entry : Entry Queue Due Job} {queue : Queue}
      {now : Clock} : (entry :: rest).Perm waiting → discipline.serves queue entry.queue →
      discipline.ready entry.due now → Step discipline waiting (.take queue now entry.job) rest

/-- A history takes the waiting jobs from one list to another. -/
inductive Run (discipline : Discipline Queue Due Clock) :
    List (Entry Queue Due Job) → List (Event Queue Due Clock Job) →
        List (Entry Queue Due Job) → Prop where
  | nil (waiting : List (Entry Queue Due Job)) : Run discipline waiting [] waiting
  | cons {waiting between after : List (Entry Queue Due Job)} {event : Event Queue Due Clock Job}
      {events : List (Event Queue Due Clock Job)} : Step discipline waiting event between →
      Run discipline between events after → Run discipline waiting (event :: events) after

def Accepts (discipline : Discipline Queue Due Clock)
    (events : List (Event Queue Due Clock Job)) : Prop :=
  ∃ after, Run discipline [] events after

variable {discipline : Discipline Queue Due Clock}

theorem Run.single {waiting after : List (Entry Queue Due Job)} {event : Event Queue Due Clock Job}
    (step : Step discipline waiting event after) : Run discipline waiting [event] after :=
  .cons step (.nil after)

theorem Run.append {waiting between after : List (Entry Queue Due Job)}
    {earlier later : List (Event Queue Due Clock Job)}
    (first : Run discipline waiting earlier between) (second : Run discipline between later after) :
    Run discipline waiting (earlier ++ later) after := by
  induction first with
  | nil => exact second
  | cons step _ ih => exact .cons step (ih second)

/-! ## Stores -/

section Stores

variable {Store Call : Type}

/-- What the clients of a store see while it answers calls. -/
def history (step : Store → Call → List (Event Queue Due Clock Job) × Store) :
    Store → List Call → List (Event Queue Due Clock Job)
  | _, [] => []
  | store, call :: later => (step store call).1 ++ history step (step store call).2 later

/--
A store refines the queue when a relation between what it holds and what waits,
kept while the clock goes on, gives every call a run of the queue.
-/
theorem accepts_history {Reading : Type} [Preorder Reading]
    {discipline : Discipline Queue Due Clock}
    {step : Store → Call → List (Event Queue Due Clock Job) × Store} (now : Call → Reading)
    {allowed : Call → Prop} (related : Reading → Store → List (Entry Queue Due Job) → Prop)
    (keeps :
      ∀ clock store waiting call, related clock store waiting → clock ≤ now call → allowed call →
        ∃ after, Run discipline waiting (step store call).1 after ∧
            related (now call) (step store call).2 after) {start : Store}
    (starts : ∀ clock, related clock start []) {calls : List Call}
    (inOrder : (calls.map now).Pairwise (· ≤ ·)) (areAllowed : ∀ call ∈ calls, allowed call) :
    Accepts discipline (history step start calls) := by
  have runs : ∀ (calls : List Call) clock store waiting, related clock store waiting →
      (∀ call ∈ calls, clock ≤ now call) → (calls.map now).Pairwise (· ≤ ·) →
      (∀ call ∈ calls, allowed call) →
      ∃ after, Run discipline waiting (history step store calls) after := by
    intro calls
    induction calls with
    | nil =>
      intro _ _ waiting _ _ _ _
      exact ⟨waiting, .nil waiting⟩
    | cons call later ih =>
      intro clock store waiting isRelated isLater inOrder areAllowed
      obtain ⟨callFirst, laterInOrder⟩ := pairwise_cons.mp inOrder
      obtain ⟨between, first, relatedBetween⟩ := keeps clock store waiting call isRelated
          (isLater call mem_cons_self)
          (areAllowed call mem_cons_self)
      obtain ⟨after, second⟩ := ih _ _ between relatedBetween
          (fun other isIn => callFirst _ (mem_map_of_mem isIn))
          laterInOrder
          (fun other isIn => areAllowed other (mem_cons_of_mem _ isIn))
      exact ⟨after, first.append second⟩
  cases calls with
  | nil => exact ⟨[], .nil []⟩
  | cons call later =>
    obtain ⟨callFirst, -⟩ := pairwise_cons.mp inOrder
    refine runs _ (now call) start [] (starts _) ?_ inOrder areAllowed
    intro other isIn
    rcases mem_cons.mp isIn with rfl | isLater
    · exact le_rfl
    · exact callFirst _ (mem_map_of_mem isLater)

end Stores

/-! ## What a history takes -/

def Event.puts (kind : Entry Queue Due Job → Bool) : Event Queue Due Clock Job → Bool
  | .put entry => kind entry
  | .take _ _ _ => false

def Event.takes (seen : Queue → Clock → Job → Bool) : Event Queue Due Clock Job → Bool
  | .put _ => false
  | .take queue now job => seen queue now job

section Counting

variable {discipline : Discipline Queue Due Clock} {seen : Queue → Clock → Job → Bool}
  {kind : Entry Queue Due Job → Bool} {waiting after : List (Entry Queue Due Job)}

/--
When only entries of one kind are taken by the takes of another, an event
takes no more of them than wait or are put.
-/
theorem Step.takes_le
    (fits : ∀ entry queue now, discipline.serves queue entry.queue →
        discipline.ready entry.due now → seen queue now entry.job = true → kind entry = true)
    {event : Event Queue Due Clock Job} (step : Step discipline waiting event after) :
    (if event.takes seen then 1 else 0) + after.countP kind ≤
      waiting.countP kind + (if event.puts kind then 1 else 0) := by
  cases step with
  | put entry => by_cases isKind : kind entry = true <;> simp [Event.takes, Event.puts, isKind]
  | take isWaiting serves ready =>
    rename_i entry queue now
    rw [← isWaiting.countP_eq kind, countP_cons]
    by_cases isSeen : seen queue now entry.job = true
    · have isKind := fits entry queue now serves ready isSeen
      simp [Event.takes, isSeen, isKind, Nat.add_comm]
    · simp [Event.takes, Event.puts, isSeen]

variable {events : List (Event Queue Due Clock Job)}

theorem Run.takes_le
    (fits : ∀ entry queue now, discipline.serves queue entry.queue →
      discipline.ready entry.due now → seen queue now entry.job = true → kind entry = true)
    (run : Run discipline waiting events after) :
    events.countP (Event.takes seen) + after.countP kind ≤
      waiting.countP kind + events.countP (Event.puts kind) := by
  induction run with
  | nil => simp
  | cons step _ ih =>
    have first := step.takes_le fits
    rw [countP_cons, countP_cons]
    omega

theorem Accepts.takes_le
    (fits : ∀ entry queue now, discipline.serves queue entry.queue →
      discipline.ready entry.due now → seen queue now entry.job = true → kind entry = true)
    (accepted : Accepts discipline events) :
    events.countP (Event.takes seen) ≤ events.countP (Event.puts kind) := by
  obtain ⟨after, run⟩ := accepted
  have bound := run.takes_le fits
  rw [countP_nil] at bound
  omega

end Counting

theorem Accepts.put_of_take {events : List (Event Queue Due Clock Job)}
    (accepted : Accepts discipline events) {queue : Queue} {now : Clock} {job : Job}
    (taken : .take queue now job ∈ events) :
    ∃ entry, .put entry ∈ events ∧ entry.job = job ∧ discipline.serves queue entry.queue ∧
      discipline.ready entry.due now := by
  classical
  let seen : Queue → Clock → Job → Bool :=
    fun otherQueue otherNow otherJob => otherQueue = queue ∧ otherNow = now ∧ otherJob = job
  let kind : Entry Queue Due Job → Bool :=
    fun entry =>
      entry.job = job ∧ discipline.serves queue entry.queue ∧ discipline.ready entry.due now
  have bound : events.countP (Event.takes seen) ≤ events.countP (Event.puts kind) := by
    refine accepted.takes_le ?_
    intro entry otherQueue otherNow serves ready isSeen
    simp only [seen, decide_eq_true_eq] at isSeen
    obtain ⟨rfl, rfl, sameJob⟩ := isSeen
    simp [kind, sameJob, serves, ready]
  have once : 0 < events.countP (Event.takes seen) :=
    countP_pos_iff.mpr ⟨_, taken, by simp [Event.takes, seen]⟩
  obtain ⟨event, isEvent, isPut⟩ := countP_pos_iff.mp (Nat.lt_of_lt_of_le once bound)
  cases event with
  | put entry =>
    refine ⟨entry, isEvent, ?_⟩
    simpa [Event.puts, kind] using isPut
  | take _ _ _ => simp [Event.puts] at isPut

/-! ## Lists that cover others -/

theorem subperm_map {Value Image : Type} (image : Value → Image) {values others : List Value}
    (covered : values.Subperm others) : (values.map image).Subperm (others.map image) := by
  obtain ⟨between, isPerm, isSublist⟩ := covered
  exact ⟨between.map image, isPerm.map image, isSublist.map image⟩

variable {Value : Type} {value : Value} {values : List Value}

theorem exists_perm_of_cons_subperm {images : List (Option Value)}
    (covered : (some value :: images).Subperm (values.map some)) :
    ∃ rest, (value :: rest).Perm values ∧ images.Subperm (rest.map some) := by
  obtain ⟨other, isIn, isValue⟩ := mem_map.mp (covered.subset mem_cons_self)
  cases isValue
  obtain ⟨before, behind, rfl⟩ := append_of_mem isIn
  refine ⟨before ++ behind, perm_middle.symm, ?_⟩
  exact (subperm_cons _).mp (covered.trans (perm_middle.map some).subperm)

theorem subperm_cons_filter (keeps : Value → Bool) (isThere : value ∈ values)
    (isDropped : keeps value = false) : (value :: values.filter keeps).Subperm values := by
  obtain ⟨before, after, rfl⟩ := append_of_mem isThere
  have kept :
      (before ++ value :: after).filter keeps = before.filter keeps ++ after.filter keeps := by
    simp [isDropped]
  rw [kept]
  refine List.Subperm.trans ?_ perm_middle.symm.subperm
  exact (subperm_cons value).mpr (filter_sublist.append filter_sublist).subperm

end DelayedQueue
