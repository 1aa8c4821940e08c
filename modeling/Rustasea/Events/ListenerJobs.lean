import Mathlib.Algebra.Order.BigOperators.Group.List
import Mathlib.Algebra.Order.Group.Nat
import Rustasea.Library.PrefixCodec

namespace Rustasea.Events

open List

/-!
# Listeners that run as jobs

A dispatch runs the listeners of an event in their order.  One whose queue is enabled becomes a job
with the name of its type and the event, and the worker runs the first listener of that name.
-/

inductive EventError where
  | listener (cause : String)
  | queue (cause : String)
  | unhandled (event : String)
  deriving DecidableEq

/-- Where a listener runs; the delay is in seconds. -/
structure QueueConfig where
  enable : Bool
  connection : Option String
  queue : Option String
  delay : Option Nat
  deriving DecidableEq

/-- A registered instance; `key` is the name of its type. -/
structure Listener (Event : Type) where
  key : String
  queueConfig : QueueConfig
  handle : Event → Except EventError Unit

structure ListenerJob (Event : Type) where
  listener : String
  event : Event
  deriving DecidableEq

/-- A job on the queue, with the overrides it was pushed with. -/
structure QueuedJob (Json : Type) where
  payload : Json
  connection : Option String
  queue : Option String
  delay : Option Nat
  deriving DecidableEq

/-- The positions of the listeners that have run, with the event, and the jobs pushed. -/
structure World (Event Json : Type) where
  ran : List (Nat × Event)
  jobs : List (QueuedJob Json)
  deriving DecidableEq

def World.empty {Event Json : Type} : World Event Json := { ran := [], jobs := [] }

variable {Event Json : Type}

/-- What a dispatch meets outside: the JSON of jobs, the queue, which may refuse one, and names. -/
structure Surroundings (Event Json : Type) where
  codec : Codec (ListenerJob Event) Json
  refusal : QueuedJob Json → Option String
  eventName : Event → String

@[grind =]
def invokeInline (event : Event) (entry : Listener Event × Nat) (world : World Event Json) :
    Except EventError Unit × World Event Json :=
  match entry.1.handle event with
  | .error error => (.error error, world)
  | .ok () => (.ok (), { world with ran := world.ran ++ [(entry.2, event)] })

section Dispatch

variable (outside : Surroundings Event Json)

def jobOf (event : Event) (listener : Listener Event) : QueuedJob Json where
  payload := outside.codec.encode { listener := listener.key, event }
  connection := listener.queueConfig.connection
  queue := listener.queueConfig.queue
  delay := listener.queueConfig.delay

/-- `invoke_erased` honours the queue configuration. -/
@[grind =]
def invokeErased (event : Event) (entry : Listener Event × Nat) (world : World Event Json) :
    Except EventError Unit × World Event Json :=
  if !entry.1.queueConfig.enable then invokeInline event entry world
  else
    match outside.refusal (jobOf outside event entry.1) with
    | some cause => (.error (.queue cause), world)
    | none => (.ok (), { world with jobs := world.jobs ++ [jobOf outside event entry.1] })

@[grind =] def invokeEach (event : Event) :
    List (Listener Event × Nat) → World Event Json → Except EventError Unit × World Event Json
  | [], world => (.ok (), world)
  | entry :: rest, world =>
    match invokeErased outside event entry world with
    | (.error error, world) => (.error error, world)
    | (.ok (), world) => invokeEach event rest world

def dispatch (listeners : List (Listener Event)) (event : Event) (world : World Event Json) :
    Except EventError Unit × World Event Json :=
  if listeners = [] then (.error (.unhandled (outside.eventName event)), world)
  else invokeEach outside event listeners.zipIdx world

/-- `invoke_listener_by_key`: the first listener whose type has the name. -/
@[grind =]
def invokeListenerByKey (listeners : List (Listener Event)) (key : String) (event : Event)
    (world : World Event Json) : Except EventError Unit × World Event Json :=
  match listeners.zipIdx.find? fun entry => entry.1.key = key with
  | some entry => invokeInline event entry world
  | none =>
    (.error (.listener ("no queued listener \x60" ++ key ++ "\x60 registered for event " ++
      outside.eventName event)), world)

@[grind =]
def handleJob (listeners : List (Listener Event)) (world : World Event Json)
    (job : QueuedJob Json) : Except EventError Unit × World Event Json :=
  match outside.codec.decode job.payload with
  | .error cause => (.error (.queue cause), world)
  | .ok job => invokeListenerByKey outside listeners job.listener job.event world

def work (listeners : List (Listener Event)) (jobs : List (QueuedJob Json))
    (world : World Event Json) : World Event Json :=
  jobs.foldl (fun world job => (handleJob outside listeners world job).2) world

end Dispatch

/-- No listener that is registered before a queued one has a type of its name. -/
def KeysApart (listeners : List (Listener Event)) : Prop :=
  ∀ (earlier later : Nat) (first second : Listener Event), earlier < later →
    listeners[earlier]? = some first → listeners[later]? = some second →
      second.queueConfig.enable = true → first.key ≠ second.key

def EachOnce (listeners : List (Listener Event)) (event : Event) (world : World Event Json) :
    Prop :=
  world.ran.Perm ((List.range listeners.length).map fun position => (position, event))

/-! ## What runs -/

/-- The position of the listener that runs in the place of one. -/
def stand (listeners : List (Listener Event)) (entry : Listener Event × Nat) : Nat :=
  if entry.1.queueConfig.enable then listeners.findIdx fun other => other.key = entry.1.key
  else entry.2

section Runs

variable {outside : Surroundings Event Json} {listeners : List (Listener Event)} {event : Event}
  {world : World Event Json} {entry : Listener Event × Nat} {entries : List (Listener Event × Nat)}

theorem invokeErased_of_works (works : entry.1.handle event = .ok ())
    (takes : ∀ job, outside.refusal job = none) :
    invokeErased outside event entry world =
      (.ok (), if entry.1.queueConfig.enable then
        { world with jobs := world.jobs ++ [jobOf outside event entry.1] }
      else { world with ran := world.ran ++ [(entry.2, event)] }) := by
  unfold invokeErased
  cases entry.1.queueConfig.enable <;> simp [invokeInline, works, takes]

theorem invokeEach_of_works (works : ∀ entry ∈ entries, entry.1.handle event = .ok ())
    (takes : ∀ job, outside.refusal job = none) :
    invokeEach outside event entries world = (.ok (),
        { ran := world.ran ++ (entries.filter fun entry => !entry.1.queueConfig.enable).map
            fun entry => (entry.2, event)
          jobs := world.jobs ++ (entries.filter fun entry => entry.1.queueConfig.enable).map
            fun entry => jobOf outside event entry.1 }) := by
  induction entries generalizing world with
  | nil => simp [invokeEach]
  | cons entry rest ih =>
    obtain ⟨first, others⟩ := forall_mem_cons.mp works
    rw [invokeEach, invokeErased_of_works first takes]
    dsimp only
    rw [ih others]
    cases enabled : entry.1.queueConfig.enable <;> simp [enabled]

theorem find?_zipIdx (key : String) (listeners : List (Listener Event)) (start : Nat)
    {listener : Listener Event} (isIn : listener ∈ listeners) (isKey : listener.key = key) :
    ∃ other ∈ listeners, (listeners.zipIdx start).find? (fun entry => entry.1.key = key) =
        some (other, start + listeners.findIdx fun other => other.key = key) := by
  induction listeners generalizing start with
  | nil => cases isIn
  | cons head rest ih =>
    rw [zipIdx_cons, find?_cons, findIdx_cons]
    by_cases same : head.key = key
    · exact ⟨head, mem_cons_self, by simp [same]⟩
    · have isLater : listener ∈ rest := by
        rcases mem_cons.mp isIn with rfl | isLater
        · exact absurd isKey same
        · exact isLater
      obtain ⟨other, isOther, found⟩ := ih (start + 1) isLater
      refine ⟨other, mem_cons_of_mem _ isOther, ?_⟩
      simp only [same, decide_false, cond_false, found]
      rw [Nat.add_assoc, Nat.add_comm 1]

theorem handleJob_jobOf (works : ∀ listener ∈ listeners, listener.handle event = .ok ())
    {listener : Listener Event} (isIn : listener ∈ listeners) :
    handleJob outside listeners world (jobOf outside event listener) = (.ok (), { world with
        ran := world.ran ++
          [(listeners.findIdx fun other => other.key = listener.key, event)] }) := by
  obtain ⟨other, isOther, found⟩ := find?_zipIdx listener.key listeners 0 isIn rfl
  simp [handleJob, jobOf, invokeListenerByKey, found, invokeInline, works other isOther]

/-- What a job runs: the first listener of its name, for its event. -/
def ranBy (outside : Surroundings Event Json) (listeners : List (Listener Event))
    (job : QueuedJob Json) : Option (Nat × Event) :=
  (outside.codec.decode job.payload).toOption.map fun job =>
    (listeners.findIdx fun other => other.key = job.listener, job.event)

theorem ranBy_jobOf (event : Event) (listener : Listener Event) :
    ranBy outside listeners (jobOf outside event listener) =
      some (listeners.findIdx fun other => other.key = listener.key, event) := by
  simp [ranBy, jobOf, Except.toOption]

theorem ran_work (works : ∀ listener ∈ listeners, listener.handle event = .ok ())
    {jobs : List (QueuedJob Json)}
    (areTheirs : ∀ job ∈ jobs, ∃ listener ∈ listeners, job = jobOf outside event listener) :
    (work outside listeners jobs world).ran =
      world.ran ++ jobs.filterMap (ranBy outside listeners) := by
  induction jobs generalizing world with
  | nil => simp [work]
  | cons job rest ih =>
    obtain ⟨⟨listener, isIn, rfl⟩, others⟩ := forall_mem_cons.mp areTheirs
    rw [work, foldl_cons, handleJob_jobOf works isIn]
    exact (ih others).trans (by simp [ranBy_jobOf])

theorem ran_work_perm (works : ∀ listener ∈ listeners, listener.handle event = .ok ())
    (takes : ∀ job, outside.refusal job = none) {order : List (QueuedJob Json)}
    (isOrder : order.Perm (dispatch outside listeners event .empty).2.jobs) :
    (work outside listeners order (dispatch outside listeners event .empty).2).ran.Perm
      (listeners.zipIdx.map fun entry => (stand listeners entry, event)) := by
  have dispatched : (dispatch outside listeners event .empty).2 =
      (invokeEach outside event listeners.zipIdx .empty).2 := by
    unfold dispatch
    split
    · next isEmpty => subst isEmpty; rfl
    · rfl
  have entriesWork : ∀ entry ∈ listeners.zipIdx, entry.1.handle event = .ok () :=
    fun entry isIn => works entry.1 (fst_mem_of_mem_zipIdx isIn)
  rw [dispatched, invokeEach_of_works entriesWork takes] at isOrder ⊢
  simp only [World.empty, nil_append] at isOrder ⊢
  have areTheirs : ∀ job ∈ order, ∃ listener ∈ listeners, job = jobOf outside event listener := by
    intro job isIn
    obtain ⟨entry, isEntry, rfl⟩ := mem_map.mp (isOrder.mem_iff.mp isIn)
    exact ⟨entry.1, fst_mem_of_mem_zipIdx (mem_of_mem_filter isEntry), rfl⟩
  rw [ran_work works areTheirs]
  refine ((isOrder.filterMap _).append_left _).trans ?_
  rw [filterMap_map]
  have inlines : (listeners.zipIdx.filter fun entry => !entry.1.queueConfig.enable).map
        (fun entry => (entry.2, event)) =
      (listeners.zipIdx.filter fun entry => !entry.1.queueConfig.enable).map
        fun entry => (stand listeners entry, event) := by
    refine map_congr_left fun entry isIn => ?_
    simp_all [stand]
  have queued : (listeners.zipIdx.filter fun entry => entry.1.queueConfig.enable).filterMap
        (ranBy outside listeners ∘ fun entry => jobOf outside event entry.1) =
      (listeners.zipIdx.filter fun entry => entry.1.queueConfig.enable).map
        fun entry => (stand listeners entry, event) := by
    rw [← filterMap_eq_map]
    refine filterMap_congr fun entry isIn => ?_
    have isQueued := (mem_filter.mp isIn).2
    simp [stand, isQueued, ranBy_jobOf]
  rw [inlines, queued, ← map_append]
  exact (perm_append_comm.trans (filter_append_perm _ _)).map _

theorem stand_le (isIn : entry ∈ listeners.zipIdx) : stand listeners entry ≤ entry.2 := by
  unfold stand
  split
  · refine Nat.le_of_not_lt fun isEarlier => ?_
    have differs := not_of_lt_findIdx isEarlier
    simp [(mem_zipIdx' isIn).2] at differs
  · exact le_rfl

theorem keysApart_iff :
    KeysApart listeners ↔ ∀ entry ∈ listeners.zipIdx, stand listeners entry = entry.2 := by
  constructor
  · rintro apart ⟨listener, position⟩ isIn
    have isAt := mem_zipIdx_iff_getElem?.mp isIn
    obtain ⟨inRange, isListener⟩ := List.getElem?_eq_some_iff.mp isAt
    unfold stand
    split
    · next enabled =>
      refine (findIdx_eq inRange).mpr ⟨by simp [isListener], fun earlier isEarlier => ?_⟩
      exact decide_eq_false
        (apart earlier position _ listener isEarlier (getElem?_eq_getElem _) isAt enabled)
    · rfl
  · intro same earlier later first second isEarlier isFirst isSecond enabled sameKey
    have isLater := same (second, later) (mem_zipIdx_iff_getElem?.mpr isSecond)
    rw [stand, if_pos enabled] at isLater
    have differs := not_of_lt_findIdx (isEarlier.trans_eq isLater.symm)
    obtain ⟨inRange, rfl⟩ := List.getElem?_eq_some_iff.mp isFirst
    simp [sameKey] at differs

theorem stand_eq_of_perm
    (allStand : (listeners.zipIdx.map (stand listeners)).Perm (List.range listeners.length)) :
    ∀ entry ∈ listeners.zipIdx, stand listeners entry = entry.2 := by
  intro entry isIn
  refine (stand_le isIn).antisymm (Nat.le_of_not_lt fun isEarlier => ?_)
  have fewer :=
    sum_lt_sum (stand listeners) Prod.snd (fun _ => stand_le) ⟨entry, isIn, isEarlier⟩
  rw [allStand.sum_eq, zipIdx_map_snd, ← range_eq_range'] at fewer
  exact lt_irrefl _ fewer

end Runs

/--
Once all jobs are executed, in any order, every listener has run for the event exactly once if and
only if no listener is registered before a queued one whose type has the same name.
-/
theorem listeners_run_once_iff (outside : Surroundings Event Json)
    (listeners : List (Listener Event)) (event : Event)
    (works : ∀ listener ∈ listeners, listener.handle event = .ok ())
    (takes : ∀ job, outside.refusal job = none) {order : List (QueuedJob Json)}
    (isOrder : order.Perm (dispatch outside listeners event .empty).2.jobs) :
    EachOnce listeners event
        (work outside listeners order (dispatch outside listeners event .empty).2) ↔
      KeysApart listeners := by
  rw [EachOnce, (ran_work_perm works takes isOrder).congr_left, keysApart_iff]
  constructor
  · intro once
    refine stand_eq_of_perm ?_
    simpa [Function.comp_def] using once.map Prod.fst
  · intro same
    have positions : List.range listeners.length = listeners.zipIdx.map Prod.snd := by
      rw [zipIdx_map_snd, range_eq_range']
    rw [positions, map_map]
    refine .of_eq (map_congr_left fun entry isIn => ?_)
    rw [same entry isIn, Function.comp_apply]

def mailer (key : String) : Listener String where
  key
  queueConfig := { enable := true, connection := none, queue := none, delay := none }
  handle _ := .ok ()

def plainSurroundings : Surroundings String (Option (ListenerJob String)) where
  codec := .plain _
  refusal _ := none
  eventName := id

/-- What a dispatch comes to when its jobs are executed in their order. -/
def afterJobs (listeners : List (Listener String)) : World String (Option (ListenerJob String)) :=
  let dispatched := (dispatch plainSurroundings listeners "registered" .empty).2
  work plainSurroundings listeners dispatched.jobs dispatched

theorem listeners_run_once_mailers :
    EachOnce [mailer "Welcome", mailer "Audit"] "registered"
      (afterJobs [mailer "Welcome", mailer "Audit"]) := by
  refine (listeners_run_once_iff plainSurroundings [mailer "Welcome", mailer "Audit"] "registered"
    (by simp [mailer]) (fun _ => rfl) .rfl).mpr ?_
  rw [keysApart_iff]
  simp [stand, mailer, findIdx_cons]

/-- Of two queued listeners of one type, the first runs twice, and the second not at all. -/
theorem second_instance_never_runs :
    (afterJobs [mailer "Welcome", mailer "Welcome"]).ran = [(0, "registered"), (0, "registered")] ∧
      ¬EachOnce [mailer "Welcome", mailer "Welcome"] "registered"
      (afterJobs [mailer "Welcome", mailer "Welcome"]) := by
  have ran : (afterJobs [mailer "Welcome", mailer "Welcome"]).ran =
      [(0, "registered"), (0, "registered")] := by
    decide
  refine ⟨ran, ?_⟩
  rw [EachOnce, ran]
  decide

end Rustasea.Events
