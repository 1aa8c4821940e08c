import Rustasea.Cache.Lock
import Rustasea.Library.Counting
import Rustasea.Library.TransitionSystem

namespace Rustasea.Cache

open List Function MemoryStore TransitionSystem

/-!
# Clients contending for locks

Any number of clients call `get` and `block`, release and drop their guards and
fail, in any order; time passes at will and the answer to any store command may
be lost.  `uuid` is the sequence of identifiers drawn for the owner tokens.
Every acquisition stays on record, with the expiry its entry was stored under.
-/

/-- A `block` call in progress. -/
structure Waiting where
  client : Nat
  lock : Lock
  wait : Duration
  started : Nat
  resumes : Nat

/-- An acquisition the store granted. -/
structure Acquisition where
  client : Nat
  guard : LockGuard
  deadline : Option Nat
  /-- Whether the client still has the guard: it got it and has not failed. -/
  inHand : Bool
  deriving DecidableEq

/-- The acquisition once its guard is released or dropped. -/
def Acquisition.marked (acquisition : Acquisition) : Acquisition :=
  { acquisition with guard := { acquisition.guard with released := true } }

/-- The store, the clients' calls in progress and the deletions in flight. -/
structure LockSystem where
  clock : Nat
  store : MemoryStore String
  minted : Nat
  acquisitions : List Acquisition
  waiting : List Waiting
  deleting : List Deletion

namespace LockSystem

def initial (clock : Nat) : LockSystem where
  clock := clock
  store := MemoryStore.new
  minted := 0
  acquisitions := []
  waiting := []
  deleting := []

/-- What a client, the environment or the store does next. -/
inductive Action where
  | elapse (time : Nat)
  | get (client : Nat) (lock : Lock) (reply : Reply)
  | block (client : Nat) (lock : Lock) (wait : Duration)
  | poll (index : Nat) (reply : Reply) (spent : Nat)
  | release (index : Nat)
  | drop (index : Nat)
  | delete (index : Nat) (executed : Bool)
  | fail (client : Nat)

/-- The acquisition a `put_if_absent` granted, in the client's hands or not. -/
def granted? (driver : Driver) (uuid : String) (client : Nat) (lock : Lock) (reply : Reply)
    (system : LockSystem) : Option Acquisition :=
  let token := ownerToken uuid
  if reply.executed ∧ (driver.putIfAbsent system.clock lock.key token lock.ttl
        system.store).1 then
    some
      { client := client
        guard := LockGuard.new lock.key token
        deadline := MemoryStore.expiry (driver.clock system.clock) (driver.lease lock.ttl)
        inHand := reply = .answered }
  else none

/-- One call of `get` on a new token. -/
def attempt (driver : Driver) (uuid : Nat → String) (client : Nat) (lock : Lock)
    (reply : Reply) (system : LockSystem) : Except CacheError (Option LockGuard) × LockSystem :=
  let (answer, store) := lock.get driver system.clock (uuid system.minted) reply system.store
  (answer,
    { system with
      store := store
      minted := system.minted + 1
      acquisitions :=
        system.acquisitions ++
          (system.granted? driver (uuid system.minted) client lock reply).toList })

/-- The client gives up a guard, by `release` or by `drop`. -/
def giveUp (finish : LockGuard → LockGuard × Option Deletion) (index : Nat)
    (system : LockSystem) : Option LockSystem :=
  match system.acquisitions[index]? with
  | none => none
  | some acquisition =>
    if acquisition.inHand then
      let (guard, deletion) := finish acquisition.guard
      some
        { system with
          acquisitions := system.acquisitions.set index { acquisition with guard := guard }
          deleting := system.deleting ++ deletion.toList }
    else none

@[grind =] def step? (driver : Driver) (uuid : Nat → String)
    (system : LockSystem) : Action → Option LockSystem
  | .elapse time => some { system with clock := system.clock + time }
  | .get client lock reply => some (system.attempt driver uuid client lock reply).2
  | .block client lock wait =>
    some
      { system with
        waiting :=
          system.waiting ++
            [{ client := client
               lock := lock
               wait := wait
               started := system.clock
               resumes := system.clock }] }
  | .poll index reply spent =>
    match system.waiting[index]? with
    | none => none
    | some waiter =>
      if waiter.resumes ≤ system.clock then
        let (answer, after) := system.attempt driver uuid waiter.client waiter.lock reply
        match waiter.lock.blockRound waiter.started waiter.wait (system.clock + spent) answer with
        | .acquired _ | .failed _ => some { after with waiting := system.waiting.eraseIdx index }
        | .sleeping resumes =>
          some
            { after with waiting := system.waiting.set index { waiter with resumes := resumes } }
      else none
  | .release index => system.giveUp LockGuard.release index
  | .drop index => system.giveUp LockGuard.drop index
  | .delete index executed =>
    match system.deleting[index]? with
    | none => none
    | some deletion =>
      some
        { system with
          store :=
            if executed then
              (driver.compareAndDelete system.clock deletion.key deletion.token system.store).2
            else system.store
          deleting := system.deleting.eraseIdx index }
  | .fail client =>
    some
      { system with
        acquisitions :=
          system.acquisitions.map fun acquisition =>
            { acquisition with inHand := acquisition.inHand && acquisition.client ≠ client }
        waiting := system.waiting.filter fun waiter => waiter.client ≠ client }

def unexpired (driver : Driver) (system : LockSystem) (acquisition : Acquisition) : Prop :=
  ∀ deadline, acquisition.deadline = some deadline → driver.clock system.clock < deadline

/--
The acquisition still locks its key: neither released nor dropped, and not
expired.  A client that failed, or never learnt of its acquisition, holds its
lock until the lease ends.
-/
def Holds (driver : Driver) (system : LockSystem) (acquisition : Acquisition) : Prop :=
  acquisition ∈ system.acquisitions ∧ acquisition.guard.released = false ∧
      system.unexpired driver acquisition

def entryOf (acquisition : Acquisition) : Entry String where
  value := acquisition.guard.token
  expiresAt := acquisition.deadline

/-! ## One acquisition -/

/--
A call of `get` either leaves the store alone, or finds the key free and puts
the entry of the acquisition it was granted there.
-/
theorem attempt_cases (driver : Driver) (uuid : Nat → String) (client : Nat) (lock : Lock)
    (reply : Reply) (system : LockSystem) :
    (system.granted? driver (uuid system.minted) client lock reply = none ∧
      (system.attempt driver uuid client lock reply).2.store = system.store) ∨
    ∃ acquisition,
      system.granted? driver (uuid system.minted) client lock reply = some acquisition ∧
      acquisition.guard = LockGuard.new lock.key (ownerToken (uuid system.minted)) ∧
      (system.store.get (driver.clock system.clock) (driver.qualified lock.key)).1 = none ∧
      (system.attempt driver uuid client lock reply).2.store.inner =
        update system.store.inner (driver.qualified lock.key) (some (entryOf acquisition)) := by
  have answer := putIfAbsent_fst (driver.clock system.clock)
      (driver.qualified lock.key) (ownerToken (uuid system.minted))
      (driver.lease lock.ttl) system.store
  have left_ := Lock.get_snd driver system.clock (uuid system.minted) reply lock system.store
  by_cases inserted :
      reply.executed ∧ (driver.putIfAbsent system.clock lock.key
          (ownerToken (uuid system.minted)) lock.ttl system.store).1
  · right
    have absent :
        (system.store.get (driver.clock system.clock) (driver.qualified lock.key)).1 = none := by
      apply Option.isNone_iff_eq_none.mp
      exact answer.symm.trans inserted.2
    refine ⟨_, if_pos inserted, rfl, absent, ?_⟩
    rw [if_pos inserted.1] at left_
    exact (congrArg MemoryStore.inner left_).trans (inner_putIfAbsent absent _ _)
  · -- A command the store does not execute, or refuses, changes nothing.
    left
    refine ⟨if_neg inserted, left_.trans ?_⟩
    split
    · next executed =>
      apply putIfAbsent_refused
      exact Bool.eq_false_iff.mpr fun done => inserted ⟨executed, done⟩
    · rfl

/-! ## One guard given up -/

/--
A guard given up before is left as it is; otherwise it is marked and its
deletion is on its way.  Dropping does what releasing does.
-/
theorem giveUp_cases {system after : LockSystem} {index : Nat}
    (taken : system.giveUp LockGuard.release index = some after) :
    ∃ acquisition,
      system.acquisitions[index]? = some acquisition ∧ (after = system ∨
          (acquisition.guard.released = false ∧ after =
              { system with
                acquisitions := system.acquisitions.set index acquisition.marked
                deleting :=
                  system.deleting ++
                    [{ key := acquisition.guard.key
                       token := acquisition.guard.token }] })) := by
  unfold giveUp at taken
  split at taken
  · simp at taken
  · next acquisition found =>
    refine ⟨acquisition, found, ?_⟩
    split at taken
    · cases released : acquisition.guard.released with
      | true =>
        left
        simp only [LockGuard.release, released, if_true, Option.toList_none, append_nil,
          Option.some.injEq] at taken
        rw [← taken, Parties.set_of_getElem? found]
      | false =>
        right
        refine ⟨rfl, ?_⟩
        simpa [LockGuard.release, released, Acquisition.marked] using taken.symm
    · simp at taken

/-! ## The invariant -/

/--
Every lock still held has its entry in the store, under a token no other
acquisition has; only tokens of released guards are being deleted.
-/
structure Exclusive (driver : Driver) (uuid : Nat → String) (system : LockSystem) : Prop where
  stored : ∀ acquisition, system.Holds driver acquisition →
        system.store.inner (driver.qualified acquisition.guard.key) = some (entryOf acquisition)
  minted : ∀ acquisition ∈ system.acquisitions,
      ∃ serial < system.minted, acquisition.guard.token = ownerToken (uuid serial)
  distinct : (system.acquisitions.map fun acquisition => acquisition.guard.token).Nodup
  deleted : ∀ deletion ∈ system.deleting, ∃ acquisition ∈ system.acquisitions,
        acquisition.guard.token = deletion.token ∧ acquisition.guard.released = true

variable {driver : Driver} {uuid : Nat → String} {system after : LockSystem}

theorem ownerToken_injective : Injective ownerToken :=
  fun _ _ same => (String.append_right_inj "owner-").mp same

theorem alive_entryOf {acquisition : Acquisition} (runs : system.unexpired driver acquisition) :
    (entryOf acquisition).alive (driver.clock system.clock) = true := by
  unfold Entry.alive entryOf
  cases deadline : acquisition.deadline with
  | none => rfl
  | some instant => exact decide_eq_true (runs instant deadline)

theorem unexpired_of_le {acquisition : Acquisition} (elapsed : system.clock ≤ after.clock)
    (runs : after.unexpired driver acquisition) : system.unexpired driver acquisition :=
  fun deadline isDeadline => Nat.lt_of_le_of_lt (driver.clock_le elapsed) (runs deadline isDeadline)

namespace Exclusive

theorem eq_of_token (exclusive : Exclusive driver uuid system) {first second : Acquisition}
    (firstIn : first ∈ system.acquisitions) (secondIn : second ∈ system.acquisitions)
    (sameToken : first.guard.token = second.guard.token) : first = second :=
  inj_on_of_nodup_map exclusive.distinct firstIn secondIn sameToken

theorem initial (driver : Driver) (uuid : Nat → String) (clock : Nat) :
    Exclusive driver uuid (LockSystem.initial clock) where
  stored := by
    rintro acquisition ⟨acquired, -⟩
    simp [LockSystem.initial] at acquired
  minted := by
    simp [LockSystem.initial]
  distinct := nodup_nil
  deleted := by
    simp [LockSystem.initial]

variable {acquisition : Acquisition}

theorem stored_attempt (exclusive : Exclusive driver uuid system)
    (holds : system.Holds driver acquisition) (client : Nat) (lock : Lock) (reply : Reply) :
    (system.attempt driver uuid client lock reply).2.store.inner
      (driver.qualified acquisition.guard.key) = some (entryOf acquisition) := by
  have stored := exclusive.stored acquisition holds
  rcases attempt_cases driver uuid client lock reply system with
    ⟨-, unchanged⟩ | ⟨granted, -, -, absent, written⟩
  · rw [unchanged]
    exact stored
  · rw [written]
    by_cases sameKey : driver.qualified acquisition.guard.key = driver.qualified lock.key
    · -- The live entry would have made the insertion fail.
      have found : (system.store.get (driver.clock system.clock)
            (driver.qualified lock.key)).1 =
          some acquisition.guard.token :=
        get_eq_some_iff.mpr ⟨_, sameKey ▸ stored, alive_entryOf holds.2.2, rfl⟩
      rw [absent] at found
      simp at found
    · rw [update_of_ne sameKey]
      exact stored

theorem stored_delete (exclusive : Exclusive driver uuid system)
    (holds : system.Holds driver acquisition) {deletion : Deletion}
    (sent : deletion ∈ system.deleting) :
    (driver.compareAndDelete system.clock deletion.key deletion.token system.store).2.inner
      (driver.qualified acquisition.guard.key) = some (entryOf acquisition) := by
  obtain ⟨owner, acquired, hasToken, isReleased⟩ := exclusive.deleted deletion sent
  apply inner_compareAndDelete_of_ne (exclusive.stored acquisition holds)
  intro sameToken
  have same := exclusive.eq_of_token holds.1 acquired (sameToken.trans hasToken.symm)
  rw [← same, holds.2.1] at isReleased
  simp at isReleased

/-- A call of `get` keeps the invariant. -/
theorem attempt (exclusive : Exclusive driver uuid system)
    (unique : Injective uuid) (client : Nat) (lock : Lock)
    (reply : Reply) : Exclusive driver uuid (system.attempt driver uuid client lock reply).2 := by
  have step := attempt_cases driver uuid client lock reply system
  have oldMinted : ∀ acquisition ∈ system.acquisitions,
      ∃ serial < system.minted + 1, acquisition.guard.token = ownerToken (uuid serial) := by
    intro acquisition acquired
    obtain ⟨serial, drawn, hasToken⟩ := exclusive.minted acquisition acquired
    exact ⟨serial, Nat.lt_succ_of_lt drawn, hasToken⟩
  refine ⟨?_, ?_, ?_, ?_⟩
  · rintro acquisition ⟨acquired, notReleased, runs⟩
    rcases mem_append.mp acquired with isOld | isNew
    · exact exclusive.stored_attempt ⟨isOld, notReleased, runs⟩ client lock reply
    · rcases step with ⟨nothing, -⟩ | ⟨granted, isGranted, guard, -, written⟩
      · simp [nothing] at isNew
      · simp only [isGranted, Option.toList_some, mem_singleton] at isNew
        subst isNew
        rw [written, guard]
        exact update_self _ _ _
  · intro acquisition acquired
    rcases mem_append.mp acquired with isOld | isNew
    · exact oldMinted acquisition isOld
    · rcases step with ⟨nothing, -⟩ | ⟨granted, isGranted, guard, -, -⟩
      · simp [nothing] at isNew
      · simp only [isGranted, Option.toList_some, mem_singleton] at isNew
        subst isNew
        exact ⟨system.minted, Nat.lt_succ_self _, congrArg LockGuard.token guard⟩
  · rcases step with ⟨nothing, -⟩ | ⟨granted, isGranted, guard, -, -⟩
    · simpa [LockSystem.attempt, nothing] using exclusive.distinct
    · simp only [LockSystem.attempt, isGranted, Option.toList_some,
        map_append, map_cons, map_nil]
      apply exclusive.distinct.append (nodup_singleton _)
      intro token isOld isNew
      obtain ⟨acquisition, acquired, rfl⟩ := mem_map.mp isOld
      obtain ⟨serial, drawn, hasToken⟩ := exclusive.minted acquisition acquired
      rw [mem_singleton, hasToken, guard] at isNew
      have sameSerial := unique (ownerToken_injective isNew)
      exact absurd sameSerial (Nat.ne_of_lt drawn)
  · intro deletion sent
    obtain ⟨owner, acquired, ofDeletion⟩ := exclusive.deleted deletion sent
    exact ⟨owner, mem_append_left _ acquired, ofDeletion⟩

theorem giveUp (exclusive : Exclusive driver uuid system) {index : Nat}
    (taken : system.giveUp LockGuard.release index = some after) : Exclusive driver uuid after := by
  obtain ⟨acquisition, found, rfl | ⟨notReleased, rfl⟩⟩ := giveUp_cases taken
  · exact exclusive
  · have acquired := mem_of_getElem? found
    refine ⟨?_, ?_, ?_, ?_⟩
    · rintro held ⟨heldIn, stillHeld, runs⟩
      rcases mem_or_eq_of_mem_set heldIn with isOld | rfl
      · exact exclusive.stored held ⟨isOld, stillHeld, runs⟩
      · simp [Acquisition.marked] at stillHeld
    · intro marked markedIn
      rcases mem_or_eq_of_mem_set markedIn with isOld | rfl
      · exact exclusive.minted marked isOld
      · exact exclusive.minted acquisition acquired
    · have sameTokens : (system.acquisitions.set index acquisition.marked).map
            (fun acquisition => acquisition.guard.token) =
          system.acquisitions.map fun acquisition => acquisition.guard.token := by
        rw [map_set]
        apply Parties.set_of_getElem?
        rw [getElem?_map, found]
        rfl
      exact sameTokens ▸ exclusive.distinct
    · intro deletion sent
      rcases mem_append.mp sent with isOld | isNew
      · obtain ⟨owner, ownerIn, hasToken, isReleased⟩ := exclusive.deleted deletion isOld
        have notMarked : owner ≠ acquisition := by
          rintro rfl
          simp [notReleased] at isReleased
        exact ⟨owner, Parties.mem_set_of_mem found ownerIn notMarked _, hasToken, isReleased⟩
      · rw [mem_singleton] at isNew
        subst isNew
        exact ⟨acquisition.marked, Parties.mem_set_self_of_getElem? found _, rfl, rfl⟩

theorem fail (exclusive : Exclusive driver uuid system) (client : Nat)
    (waiting : List Waiting) :
    Exclusive driver uuid
      { system with
        acquisitions :=
          system.acquisitions.map fun acquisition =>
            { acquisition with inHand := acquisition.inHand && acquisition.client ≠ client }
        waiting := waiting } := by
  refine ⟨?_, ?_, ?_, ?_⟩
  · rintro held ⟨heldIn, notReleased, runs⟩
    obtain ⟨acquisition, acquired, rfl⟩ := mem_map.mp heldIn
    exact exclusive.stored acquisition ⟨acquired, notReleased, runs⟩
  · intro held heldIn
    obtain ⟨acquisition, acquired, rfl⟩ := mem_map.mp heldIn
    exact exclusive.minted acquisition acquired
  · simpa [comp_def] using exclusive.distinct
  · intro deletion sent
    obtain ⟨owner, acquired, ofDeletion⟩ := exclusive.deleted deletion sent
    exact ⟨_, mem_map_of_mem acquired, ofDeletion⟩

variable {action : Action}

/-- Every step keeps the invariant. -/
theorem step (exclusive : Exclusive driver uuid system) (unique : Injective uuid)
    (taken : system.step? driver uuid action = some after) : Exclusive driver uuid after := by
  cases action with
  | elapse time =>
    simp only [step?, Option.some.injEq] at taken
    subst taken
    refine ⟨?_, exclusive.minted, exclusive.distinct, exclusive.deleted⟩
    rintro acquisition ⟨acquired, notReleased, runs⟩
    exact exclusive.stored acquisition
      ⟨acquired, notReleased, unexpired_of_le (Nat.le_add_right _ _) runs⟩
  | get client lock reply =>
    simp only [step?, Option.some.injEq] at taken
    subst taken
    exact exclusive.attempt unique client lock reply
  | block client lock wait =>
    simp only [step?, Option.some.injEq] at taken
    subst taken
    exact ⟨exclusive.stored, exclusive.minted, exclusive.distinct, exclusive.deleted⟩
  | poll index reply spent =>
    simp only [step?] at taken
    split at taken
    · simp at taken
    · next waiter found =>
      -- Whatever the round decides, only the list of waiters is touched.
      have kept := exclusive.attempt unique waiter.client waiter.lock reply
      split at taken
      · split at taken <;>
          · simp only [Option.some.injEq] at taken
            subst taken
            exact ⟨kept.stored, kept.minted, kept.distinct, kept.deleted⟩
      · simp at taken
  | release index | drop index => exact exclusive.giveUp taken
  | delete index executed =>
    simp only [step?] at taken
    split at taken
    · simp at taken
    · next deletion found =>
      simp only [Option.some.injEq] at taken
      subst taken
      refine ⟨?_, exclusive.minted, exclusive.distinct, ?_⟩
      · intro acquisition holds
        cases executed with
        | true => exact exclusive.stored_delete holds (mem_of_getElem? found)
        | false => exact exclusive.stored acquisition holds
      · intro other sent
        exact exclusive.deleted other (mem_of_mem_eraseIdx sent)
  | fail client =>
    simp only [step?, Option.some.injEq] at taken
    subst taken
    exact exclusive.fail client _

theorem of_reachable (unique : Injective uuid) {clock : Nat}
    (reached : Reachable (step? driver uuid) (LockSystem.initial clock) system) :
    Exclusive driver uuid system :=
  reached.invariant (Exclusive driver uuid) (initial driver uuid clock)
    fun _ _ _ exclusive _ taken => exclusive.step unique taken

/-- The entry of a held lock survives the next step, whoever takes it. -/
theorem stored_step (exclusive : Exclusive driver uuid system)
    (holds : system.Holds driver acquisition)
    (taken : system.step? driver uuid action = some after) :
    after.store.inner (driver.qualified acquisition.guard.key) = some (entryOf acquisition) := by
  have stored := exclusive.stored acquisition holds
  cases action with
  | elapse time | block client lock wait | fail client =>
    simp only [step?, Option.some.injEq] at taken
    exact taken ▸ stored
  | get client lock reply =>
    simp only [step?, Option.some.injEq] at taken
    exact taken ▸ exclusive.stored_attempt holds client lock reply
  | poll index reply spent =>
    simp only [step?] at taken
    split at taken
    · simp at taken
    · next waiter found =>
      have kept := exclusive.stored_attempt holds waiter.client waiter.lock reply
      split at taken
      · split at taken <;>
          · simp only [Option.some.injEq] at taken
            exact taken ▸ kept
      · simp at taken
  | release index | drop index =>
    obtain ⟨_, -, rfl | ⟨-, rfl⟩⟩ := giveUp_cases taken
    · exact stored
    · exact stored
  | delete index executed =>
    simp only [step?] at taken
    split at taken
    · simp at taken
    · next deletion found =>
      simp only [Option.some.injEq] at taken
      subst taken
      cases executed with
      | true => exact exclusive.stored_delete holds (mem_of_getElem? found)
      | false => exact stored

end Exclusive

/-! ## Mutual exclusion -/

/--
In every run, two acquisitions that hold one lock name at one moment are the
same, and as long as an acquisition holds its lock no step of any client, store
or timer, a late release or drop among them, removes or shortens its entry.
-/
theorem locks_exclusive (driver : Driver) (uuid : Nat → String) (unique : Injective uuid)
    (clock : Nat) (system : LockSystem)
    (reached : Reachable (step? driver uuid) (LockSystem.initial clock) system) :
    (∀ first second, system.Holds driver first → system.Holds driver second →
      first.guard.key = second.guard.key → first = second) ∧
    ∀ acquisition, system.Holds driver acquisition →
      system.store.inner (driver.qualified acquisition.guard.key) = some (entryOf acquisition) ∧
        ∀ action after, system.step? driver uuid action = some after →
          after.store.inner (driver.qualified acquisition.guard.key) =
            some (entryOf acquisition) := by
  have exclusive := Exclusive.of_reachable unique reached
  refine ⟨?_, ?_⟩
  · intro first second firstHolds secondHolds sameKey
    have firstStored := exclusive.stored first firstHolds
    have secondStored := exclusive.stored second secondHolds
    rw [sameKey, secondStored, Option.some.injEq] at firstStored
    exact exclusive.eq_of_token firstHolds.1 secondHolds.1 (congrArg Entry.value firstStored).symm
  · intro acquisition holds
    refine ⟨exclusive.stored acquisition holds, ?_⟩
    intro action after taken
    exact exclusive.stored_step holds taken

/-! ## Locks that are free -/

def Recorded (driver : Driver) (system : LockSystem) : Prop :=
  ∀ key entry, system.store.inner key = some entry → ∃ acquisition ∈ system.acquisitions,
    driver.qualified acquisition.guard.key = key ∧ entryOf acquisition = entry

namespace Recorded

/-- A step that adds no entry keeps the record while it only marks acquisitions. -/
theorem of_subset (recorded : Recorded driver system)
    (noEntry : ∀ key entry, after.store.inner key = some entry →
      system.store.inner key = some entry)
    (kept : ∀ acquisition ∈ system.acquisitions, ∃ marked ∈ after.acquisitions,
      marked.guard.key = acquisition.guard.key ∧ entryOf marked = entryOf acquisition) :
    Recorded driver after := by
  intro key entry stored
  obtain ⟨acquisition, acquired, hasKey, hasEntry⟩ := recorded key entry (noEntry key entry stored)
  obtain ⟨marked, markedIn, sameKey, sameEntry⟩ := kept acquisition acquired
  exact ⟨marked, markedIn, sameKey ▸ hasKey, sameEntry.trans hasEntry⟩

theorem attempt (recorded : Recorded driver system) (uuid : Nat → String) (client : Nat)
    (lock : Lock) (reply : Reply) :
    Recorded driver (system.attempt driver uuid client lock reply).2 := by
  rcases attempt_cases driver uuid client lock reply system with
    ⟨-, unchanged⟩ | ⟨granted, isGranted, guard, -, written⟩
  · exact recorded.of_subset (fun _ _ stored => unchanged ▸ stored)
      fun acquisition acquired => ⟨acquisition, mem_append_left _ acquired, rfl, rfl⟩
  · intro key entry stored
    rw [written] at stored
    by_cases sameKey : key = driver.qualified lock.key
    · rw [sameKey, update_self, Option.some.injEq] at stored
      refine ⟨granted, mem_append_right _ ?_, ?_, stored⟩
      · rw [isGranted]
        exact mem_singleton_self _
      · rw [guard, sameKey]
        rfl
    · rw [update_of_ne sameKey] at stored
      obtain ⟨acquisition, acquired, ofEntry⟩ := recorded key entry stored
      exact ⟨acquisition, mem_append_left _ acquired, ofEntry⟩

theorem giveUp (recorded : Recorded driver system) {index : Nat}
    (taken : system.giveUp LockGuard.release index = some after) : Recorded driver after := by
  obtain ⟨acquisition, found, rfl | ⟨-, rfl⟩⟩ := giveUp_cases taken
  · exact recorded
  · refine recorded.of_subset (fun _ _ stored => stored) fun other acquired => ?_
    by_cases same : other = acquisition
    · subst same
      exact ⟨_, Parties.mem_set_self_of_getElem? found _, rfl, rfl⟩
    · exact ⟨other, Parties.mem_set_of_mem found acquired same _, rfl, rfl⟩

theorem step {action : Action} (recorded : Recorded driver system)
    (taken : system.step? driver uuid action = some after) : Recorded driver after := by
  cases action with
  | elapse time | block client lock wait =>
    simp only [step?, Option.some.injEq] at taken
    exact taken ▸ recorded
  | get client lock reply =>
    simp only [step?, Option.some.injEq] at taken
    exact taken ▸ recorded.attempt uuid client lock reply
  | poll index reply spent =>
    simp only [step?] at taken
    split at taken
    · simp at taken
    · next waiter found =>
      have kept := recorded.attempt uuid waiter.client waiter.lock reply
      split at taken
      · split at taken <;>
          · simp only [Option.some.injEq] at taken
            exact taken ▸ kept
      · simp at taken
  | release index | drop index => exact recorded.giveUp taken
  | delete index executed =>
    simp only [step?] at taken
    split at taken
    · simp at taken
    · simp only [Option.some.injEq] at taken
      subst taken
      refine recorded.of_subset (fun key entry stored => ?_)
        fun acquisition acquired => ⟨acquisition, acquired, rfl, rfl⟩
      cases executed with
      | true => exact inner_of_compareAndDelete stored
      | false => exact stored
  | fail client =>
    simp only [step?, Option.some.injEq] at taken
    subst taken
    exact recorded.of_subset (fun _ _ stored => stored)
      fun acquisition acquired => ⟨_, mem_map_of_mem acquired, rfl, rfl⟩

end Recorded

theorem qualified_injective (driver : Driver) : Injective driver.qualified := by
  cases driver with
  | memory => exact fun _ _ same => same
  | redis keyPrefix => exact fun _ _ same => (String.append_right_inj keyPrefix).mp same

/--
In every run, a `get` that the store executes takes a lock whose acquisitions
have all expired: no failed client, lost answer or late deletion keeps a lock
longer than its lease.
-/
theorem expired_locks_are_granted (driver : Driver) (uuid : Nat → String) (clock : Nat)
    {system : LockSystem}
    (reached : Reachable (step? driver uuid) (LockSystem.initial clock) system) (client : Nat)
    (lock : Lock) {reply : Reply} (executed : reply.executed = true)
    (expired : ∀ acquisition ∈ system.acquisitions, acquisition.guard.key = lock.key →
      ¬ system.unexpired driver acquisition) :
    ∃ acquisition after, system.step? driver uuid (.get client lock reply) = some after ∧
      after.acquisitions = system.acquisitions ++ [acquisition] ∧ acquisition.client = client ∧
      acquisition.guard = LockGuard.new lock.key (ownerToken (uuid system.minted)) ∧
      after.store.inner (driver.qualified lock.key) = some (entryOf acquisition) := by
  have recorded : Recorded driver system :=
    reached.invariant (Recorded driver) (fun _ _ stored => by cases stored)
      fun _ _ _ recorded _ taken => recorded.step taken
  have free :
      (system.store.get (driver.clock system.clock) (driver.qualified lock.key)).1 = none := by
    refine Option.eq_none_iff_forall_ne_some.mpr fun token found => ?_
    obtain ⟨entry, stored, isAlive, -⟩ := get_eq_some_iff.mp found
    obtain ⟨acquisition, acquired, sameKey, rfl⟩ := recorded _ _ stored
    refine expired acquisition acquired (qualified_injective driver sameKey) ?_
    intro deadline isDeadline
    simpa [Entry.alive, entryOf, isDeadline] using isAlive
  have inserted :
      (driver.putIfAbsent system.clock lock.key (ownerToken (uuid system.minted)) lock.ttl
        system.store).1 = true := by
    rw [Driver.putIfAbsent, putIfAbsent_fst, free]
    rfl
  rcases attempt_cases driver uuid client lock reply system with
    ⟨nothing, -⟩ | ⟨granted, isGranted, guard, -, written⟩
  · rw [granted?, if_pos ⟨executed, inserted⟩] at nothing
    cases nothing
  · refine ⟨granted, _, rfl, ?_, ?_, guard, ?_⟩
    · simp [LockSystem.attempt, isGranted]
    · rw [granted?, if_pos ⟨executed, inserted⟩] at isGranted
      cases isGranted
      rfl
    · rw [written]
      exact update_self _ _ _

def serialUuid (serial : Nat) : String :=
  "00000000-0000-4000-8000-" ++ Nat.repr (100000000000 + serial)

theorem serialUuid_injective : Injective serialUuid := by
  intro first second same
  have sameText := (String.append_right_inj _).mp same
  have sameDigits := congrArg String.toList sameText
  rw [Nat.toList_repr, Nat.toList_repr] at sameDigits
  have sameNumber := congrArg (Nat.ofDigitChars 10 · 0) sameDigits
  simp only [Nat.ofDigitChars_ten_toDigits] at sameNumber
  exact Nat.add_left_cancel sameNumber

def reportLock : Lock where
  key := "report"
  ttl := 10000000000

/-- A client drops its guard after another took the expired lock over. -/
def staleDrop : List Action :=
  [.get 1 reportLock .answered, .elapse 10000000000, .get 2 reportLock .answered, .drop 0,
    .elapse 5000000000,
    .delete 0 true]

def staleDropped : LockSystem :=
  (run? (step? .memory serialUuid) (LockSystem.initial 0) staleDrop).get rfl

def lateAcquisition : Acquisition where
  client := 2
  guard := LockGuard.new "report" "owner-00000000-0000-4000-8000-100000000001"
  deadline := some 20000000000
  inHand := true

theorem locks_exclusive_staleDrop :
    staleDropped.Holds .memory lateAcquisition ∧ staleDropped.store.inner "report" = some
          { value := "owner-00000000-0000-4000-8000-100000000001"
            expiresAt := some 20000000000 } := by
  have reached :
      Reachable (step? .memory serialUuid) (LockSystem.initial 0) staleDropped :=
    reachable_of_run? (Option.some_get _).symm
  have holds : staleDropped.Holds .memory lateAcquisition := by
    refine ⟨by decide, rfl, ?_⟩
    rintro deadline ⟨⟩
    decide
  exact ⟨holds, ((locks_exclusive .memory serialUuid serialUuid_injective 0
    staleDropped reached).2 lateAcquisition holds).1⟩

/-- The lease of a lock whose client never learnt of it is over. -/
def lapsed : LockSystem :=
  (run? (step? .memory serialUuid) (LockSystem.initial 0)
    [.get 1 reportLock (.lost (.storeUnavailable "timeout")), .elapse 10000000000]).get rfl

theorem lapsed_lock_is_granted :
    ∃ acquisition after,
      lapsed.step? .memory serialUuid (.get 2 reportLock .answered) = some after ∧
      after.acquisitions = lapsed.acquisitions ++ [acquisition] ∧ acquisition.client = 2 ∧
      acquisition.guard = LockGuard.new "report" (ownerToken (serialUuid 1)) ∧
      after.store.inner "report" = some (entryOf acquisition) := by
  refine expired_locks_are_granted .memory serialUuid 0
    (reachable_of_run? (Option.some_get _).symm) 2 reportLock rfl ?_
  intro acquisition acquired _ runs
  obtain rfl := mem_singleton.mp acquired
  exact absurd (runs 10000000000 rfl) (by decide)

end LockSystem

end Rustasea.Cache
