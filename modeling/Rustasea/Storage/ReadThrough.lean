import Rustasea.Library.Threads

namespace Rustasea.Storage

open Threads TransitionSystem

/-!
# Reading through two disks

A read looks at the primary disk, then at the fallback, and copies what it
found there back to the primary.  Every operation of a disk happens at once;
between two of them other calls on the same key take theirs.
-/

variable {Bytes : Type}

/-- What a read reports. -/
inductive Answer (Bytes : Type) where
  | found (bytes : Bytes)
  | notFound
  | failed
  deriving DecidableEq

/-- A report, and whether the key was deleted all the while. -/
structure Response (Bytes : Type) where
  whileDeleted : Bool
  answer : Answer Bytes
  deriving DecidableEq

/--
What the two disks hold under a key, and what was done to it: how often it was
put, the last bytes put unless they were deleted, whether a delete completed
that no put came after, and what reads reported.
-/
structure Disks (Bytes : Type) where
  primary : Option Bytes
  fallback : Option Bytes
  puts : Nat
  lastPut : Option Bytes
  deleted : Bool
  responses : List (Response Bytes)
  deriving DecidableEq

def Disks.initial (primary fallback : Option Bytes) : Disks Bytes :=
  { primary := primary
    fallback := fallback
    puts := 0
    lastPut := none
    deleted := false
    responses := [] }

/-- Which operations of a call fail, in the order that it makes them. -/
structure Faults where
  first : Bool
  second : Bool
  third : Bool
  deriving DecidableEq

def Faults.none : Faults :=
  { first := false, second := false, third := false }

inductive StorageCall (Bytes : Type) where
  | get (faults : Faults)
  | put (bytes : Bytes) (faults : Faults)
  | delete (faults : Faults)

/--
Where a call is.  A read knows the number of puts when it began, if the key was
deleted then; a delete knows that number from its first operation.
-/
inductive StorageThread (Bytes : Type) where
  | getPrimary (begun : Option Nat) (faults : Faults)
  | getFallback (begun : Option Nat) (faults : Faults)
  | copyBack (begun : Option Nat) (bytes : Bytes) (faults : Faults)
  | put (bytes : Bytes) (faults : Faults)
  | deletePrimary (faults : Faults)
  | deleteFallback (begun : Nat) (faults : Faults)
  deriving DecidableEq

def Disks.respond (disks : Disks Bytes) (begun : Option Nat)
    (answer : Answer Bytes) : Disks Bytes × Option (StorageThread Bytes) :=
  ({ disks with
      responses :=
        disks.responses ++
          [{ whileDeleted := begun = some disks.puts, answer := answer }] }, none)

@[grind =] def advanceStorage (copyBack : Bool) (thread : StorageThread Bytes)
    (disks : Disks Bytes) : Disks Bytes × Option (StorageThread Bytes) :=
  match thread with
  | .getPrimary begun faults =>
    if faults.first then disks.respond begun .failed
    else
      match disks.primary with
      | some bytes => disks.respond begun (.found bytes)
      | none => (disks, some (.getFallback begun faults))
  | .getFallback begun faults =>
    if faults.second then disks.respond begun .failed
    else
      match disks.fallback with
      | some bytes =>
        if copyBack then (disks, some (.copyBack begun bytes faults))
        else disks.respond begun (.found bytes)
      | none => disks.respond begun .notFound
  | .copyBack begun bytes faults =>
    -- Whether the copy could be written does not matter to the read.
    if faults.third then disks.respond begun (.found bytes)
    else { disks with primary := some bytes }.respond begun (.found bytes)
  | .put bytes faults =>
    if faults.first then (disks, none)
    else
      ({ disks with
          primary := some bytes
          puts := disks.puts + 1
          lastPut := some bytes
          deleted := false }, none)
  | .deletePrimary faults =>
    if faults.first then (disks, none)
    else
      ({ disks with primary := none, lastPut := none }, some (.deleteFallback disks.puts faults))
  | .deleteFallback begun faults =>
    if faults.second then (disks, none)
    else
      ({ disks with fallback := none, deleted := disks.deleted || begun = disks.puts }, none)

def startStorage (disks : Disks Bytes) : StorageCall Bytes → StorageThread Bytes
  | .get faults => .getPrimary (if disks.deleted then some disks.puts else none) faults
  | .put bytes faults => .put bytes faults
  | .delete faults => .deletePrimary faults

def storageManager (copyBack : Bool) :
    Component (Disks Bytes) (StorageThread Bytes) (StorageCall Bytes) :=
  { start := startStorage, advance := advanceStorage copyBack }

/--
The last bytes that were put stay until they are deleted or put again, and no
read finds bytes while the key is deleted.
-/
structure Disks.Coherent (disks : Disks Bytes) : Prop where
  lastPut : ∀ bytes, disks.lastPut = some bytes → disks.primary = some bytes
  whileDeleted : ∀ response ∈ disks.responses,
      response.whileDeleted → response.answer = .notFound ∨ response.answer = .failed

def StorageThread.isDeleting : StorageThread Bytes → Bool
  | .deleteFallback _ _ => true
  | _ => false

/--
Bytes are copied back only while the primary misses them, the fallback still
holds them, and no delete is between the two disks.
-/
def StorageThread.InTime (world : World (Disks Bytes) (StorageThread Bytes)) :
    StorageThread Bytes → Prop
  | .copyBack _ bytes faults =>
    faults.third = false → world.shared.primary = none ∧ world.shared.fallback = some bytes ∧
        ∀ thread ∈ world.threads, thread.isDeleting = false
  | _ => True

instance [DecidableEq Bytes] (world : World (Disks Bytes) (StorageThread Bytes)) :
    DecidablePred (StorageThread.InTime world)
  | .copyBack _ bytes faults =>
    inferInstanceAs (Decidable
        (faults.third = false → world.shared.primary = none ∧ world.shared.fallback = some bytes ∧
            ∀ thread ∈ world.threads, thread.isDeleting = false))
  | .getPrimary _ _ => isTrue trivial
  | .getFallback _ _ => isTrue trivial
  | .put _ _ => isTrue trivial
  | .deletePrimary _ => isTrue trivial
  | .deleteFallback _ _ => isTrue trivial

def CopiesInTime (world : World (Disks Bytes) (StorageThread Bytes)) :
    Action (StorageCall Bytes) → Prop
  | .advance index => ∀ thread ∈ world.threads[index]?, thread.InTime world
  | _ => True

instance [DecidableEq Bytes] (world : World (Disks Bytes) (StorageThread Bytes)) :
    DecidablePred (CopiesInTime world)
  | .advance index =>
    inferInstanceAs (Decidable (∀ thread ∈ world.threads[index]?, thread.InTime world))
  | .call _ => isTrue trivial
  | .drop _ => isTrue trivial

/-! ## What the calls rely on -/

/-- A read that began while the key was deleted, and no put came since. -/
def Disks.Since (disks : Disks Bytes) (begun : Option Nat) : Prop :=
  ∀ puts ∈ begun, puts ≤ disks.puts ∧ (puts = disks.puts → disks.deleted)

def StorageThread.Knows (disks : Disks Bytes) : StorageThread Bytes → Prop
  | .getPrimary begun _ => disks.Since begun
  | .getFallback begun _ => disks.Since begun
  | .copyBack begun _ _ => ∀ puts ∈ begun, puts < disks.puts
  | .put _ _ => True
  | .deletePrimary _ => True
  | .deleteFallback begun _ => begun ≤ disks.puts ∧ (begun = disks.puts → disks.primary = none)

/-- A deleted key is on neither disk. -/
structure Disks.Tracked (disks : Disks Bytes) : Prop extends
    disks.Coherent where
  deleted : disks.deleted → disks.primary = none ∧ disks.fallback = none

theorem StorageThread.Knows.stable {thread : StorageThread Bytes} {before after : Disks Bytes}
    (knows : thread.Knows before) (puts_le : before.puts ≤ after.puts)
    (deleted : before.puts = after.puts → before.deleted → after.deleted)
    (primary : thread.isDeleting → before.puts = after.puts → before.primary = none →
      after.primary = none) :
    thread.Knows after := by
  have since {begun : Option Nat} (known : before.Since begun) :
      after.Since begun := by
    intro puts isBegun
    obtain ⟨isEarlier, wasDeleted⟩ := known puts isBegun
    refine ⟨Nat.le_trans isEarlier puts_le, fun same => ?_⟩
    have unchanged : before.puts = after.puts := Nat.le_antisymm puts_le (same ▸ isEarlier)
    exact deleted unchanged (wasDeleted (same.trans unchanged.symm))
  cases thread with
  | getPrimary begun faults => exact since knows
  | getFallback begun faults => exact since knows
  | copyBack begun bytes faults =>
    exact fun puts isBegun => Nat.lt_of_lt_of_le (knows puts isBegun) puts_le
  | put bytes faults => trivial
  | deletePrimary faults => trivial
  | deleteFallback begun faults =>
    obtain ⟨isEarlier, wasMissing⟩ := knows
    refine ⟨Nat.le_trans isEarlier puts_le, fun same => ?_⟩
    have unchanged : before.puts = after.puts := Nat.le_antisymm puts_le (same ▸ isEarlier)
    exact primary rfl unchanged (wasMissing (same.trans unchanged.symm))

variable {begun : Option Nat} {answer : Answer Bytes}

theorem Disks.Tracked.respond {disks : Disks Bytes} (tracked : disks.Tracked)
    (isMissing : begun = some disks.puts → answer = .notFound ∨ answer = .failed) :
    (disks.respond begun answer).1.Tracked :=
  { lastPut := tracked.lastPut
    deleted := tracked.deleted
    whileDeleted := by
      intro response isResponse whileDeleted
      rcases List.mem_append.mp isResponse with isOld | isNew
      · exact tracked.whileDeleted response isOld whileDeleted
      · cases List.mem_singleton.mp isNew
        exact isMissing (of_decide_eq_true whileDeleted) }

theorem Disks.Since.ne_of_found {disks : Disks Bytes} (tracked : disks.Tracked)
    (since : disks.Since begun)
    (isFound : disks.primary ≠ none ∨ disks.fallback ≠ none) : begun ≠ some disks.puts := by
  rintro rfl
  obtain ⟨noPrimary, noFallback⟩ := tracked.deleted ((since disks.puts rfl).2 rfl)
  exact isFound.elim (· noPrimary) (· noFallback)

/-! ## What a step does -/

/-- What a call does, to the disks and to what the others know. -/
def Advances (copyBack : Bool) (disks : Disks Bytes) (thread : StorageThread Bytes)
    (others : List (StorageThread Bytes)) : Prop :=
  (advanceStorage copyBack thread disks).1.Tracked ∧
    (∀ next ∈ (advanceStorage copyBack thread disks).2,
      next.Knows (advanceStorage copyBack thread disks).1) ∧
    ∀ other ∈ others, other.Knows (advanceStorage copyBack thread disks).1

variable {copyBack : Bool} {disks : Disks Bytes} {thread : StorageThread Bytes}
  {others : List (StorageThread Bytes)} {faults : Faults}

theorem advances_respond (tracked : disks.Tracked) (known : ∀ other ∈ others, other.Knows disks)
    (isMissing : begun = some disks.puts → answer = .notFound ∨ answer = .failed)
    (isStep : advanceStorage copyBack thread disks = disks.respond begun answer) :
    Advances copyBack disks thread others := by
  unfold Advances
  rw [isStep]
  exact
    ⟨tracked.respond isMissing, nofun, fun other isOther =>
      (known other isOther).stable (Nat.le_refl _) (fun _ => id) (fun _ _ => id)⟩

theorem advances_unchanged (tracked : disks.Tracked) (known : ∀ other ∈ others, other.Knows disks)
    {next : Option (StorageThread Bytes)} (nextKnows : ∀ thread ∈ next, thread.Knows disks)
    (isStep : advanceStorage copyBack thread disks = (disks, next)) :
    Advances copyBack disks thread others := by
  unfold Advances
  rw [isStep]
  exact ⟨tracked, nextKnows, known⟩

theorem advances_failed (tracked : disks.Tracked) (known : ∀ other ∈ others, other.Knows disks)
    (isStep : advanceStorage copyBack thread disks = (disks, none)) :
    Advances copyBack disks thread others :=
  advances_unchanged tracked known (fun _ isNext => by cases isNext) isStep

theorem advances_getPrimary (tracked : disks.Tracked) (since : disks.Since begun)
    (known : ∀ other ∈ others, other.Knows disks) :
    Advances copyBack disks (.getPrimary begun faults) others := by
  by_cases isFaulty : faults.first
  · exact advances_respond tracked known (fun _ => .inr rfl)
      (by rw [advanceStorage, if_pos isFaulty])
  · cases isPrimary : disks.primary with
    | some bytes =>
      have notDeleted := since.ne_of_found tracked (.inl (isPrimary ▸ Option.some_ne_none _))
      exact advances_respond tracked known (absurd · notDeleted)
        (by rw [advanceStorage, if_neg isFaulty, isPrimary])
    | none =>
      refine advances_unchanged tracked known (fun next isNext => ?_)
        (by rw [advanceStorage, if_neg isFaulty, isPrimary])
      cases isNext
      exact since

theorem advances_getFallback (tracked : disks.Tracked) (since : disks.Since begun)
    (known : ∀ other ∈ others, other.Knows disks) :
    Advances copyBack disks (.getFallback begun faults) others := by
  by_cases isFaulty : faults.second
  · exact advances_respond tracked known (fun _ => .inr rfl)
      (by rw [advanceStorage, if_pos isFaulty])
  · cases isFallback : disks.fallback with
    | none =>
      exact advances_respond tracked known (fun _ => .inl rfl)
        (by rw [advanceStorage, if_neg isFaulty, isFallback])
    | some bytes =>
      have notDeleted := since.ne_of_found tracked (.inr (isFallback ▸ Option.some_ne_none _))
      cases isCopying : copyBack with
      | false =>
        exact advances_respond tracked known (absurd · notDeleted)
          (by rw [advanceStorage, if_neg isFaulty, isFallback]; rfl)
      | true =>
        refine advances_unchanged tracked known (fun next isNext => ?_)
          (by rw [advanceStorage, if_neg isFaulty, isFallback]; rfl)
        cases isNext
        intro puts isBegun
        refine Nat.lt_of_le_of_ne (since puts isBegun).1 ?_
        rintro rfl
        exact notDeleted isBegun

variable {bytes : Bytes}

theorem advances_copyBack (tracked : disks.Tracked)
    (isEarlier : ∀ puts ∈ begun, puts < disks.puts) (known : ∀ other ∈ others, other.Knows disks)
    (inTime : faults.third = false →
      disks.primary = none ∧ disks.fallback = some bytes ∧
        ∀ other ∈ others, other.isDeleting = false) :
    Advances copyBack disks (.copyBack begun bytes faults) others := by
  have notDeleted : begun ≠ some disks.puts := fun isBegun => Nat.lt_irrefl _ (isEarlier _ isBegun)
  by_cases isFaulty : faults.third
  · exact advances_respond tracked known (absurd · notDeleted)
      (by rw [advanceStorage, if_pos isFaulty])
  · obtain ⟨noPrimary, isFallback, noDelete⟩ := inTime (by simpa using isFaulty)
    have noPut : disks.lastPut = none := by
      cases isPut : disks.lastPut with
      | none => rfl
      | some last => cases noPrimary.symm.trans (tracked.lastPut last isPut)
    have copied : ({ disks with primary := some bytes } : Disks Bytes).Tracked :=
      { lastPut := fun last isPut => nomatch noPut.symm.trans isPut
        whileDeleted := tracked.whileDeleted
        deleted := fun isDeleted => nomatch (tracked.deleted isDeleted).2.symm.trans isFallback }
    unfold Advances
    rw [advanceStorage, if_neg isFaulty]
    refine ⟨copied.respond (absurd · notDeleted), nofun, ?_⟩
    intro other isOther
    refine (known other isOther).stable (Nat.le_refl _) (fun _ => id) fun isDeleting => ?_
    rw [noDelete other isOther] at isDeleting
    cases isDeleting

theorem advances_put (tracked : disks.Tracked) (known : ∀ other ∈ others, other.Knows disks) :
    Advances copyBack disks (.put bytes faults) others := by
  by_cases isFaulty : faults.first
  · exact advances_failed tracked known (by rw [advanceStorage, if_pos isFaulty])
  · unfold Advances
    rw [advanceStorage, if_neg isFaulty]
    refine ⟨?_, nofun, fun other isOther => ?_⟩
    · exact
        { lastPut := fun _ isPut => isPut, whileDeleted := tracked.whileDeleted, deleted := nofun }
    · exact (known other isOther).stable (Nat.le_succ _)
        (fun same => absurd same (Nat.ne_of_lt (Nat.lt_succ_self _)))
        (fun _ same => absurd same (Nat.ne_of_lt (Nat.lt_succ_self _)))

theorem advances_deletePrimary
    (tracked : disks.Tracked) (known : ∀ other ∈ others, other.Knows disks) :
    Advances copyBack disks (.deletePrimary faults) others := by
  by_cases isFaulty : faults.first
  · exact advances_failed tracked known (by rw [advanceStorage, if_pos isFaulty])
  · unfold Advances
    rw [advanceStorage, if_neg isFaulty]
    refine ⟨?_, fun next isNext => ?_, fun other isOther => ?_⟩
    · exact
        { lastPut := nofun
          whileDeleted := tracked.whileDeleted
          deleted := fun isDeleted => ⟨rfl, (tracked.deleted isDeleted).2⟩ }
    · cases isNext
      exact ⟨Nat.le_refl _, fun _ => rfl⟩
    · exact (known other isOther).stable (Nat.le_refl _) (fun _ => id) (fun _ _ _ => rfl)

theorem advances_deleteFallback (tracked : disks.Tracked) {begun : Nat}
    (knows : begun = disks.puts → disks.primary = none)
    (known : ∀ other ∈ others, other.Knows disks) :
    Advances copyBack disks (.deleteFallback begun faults) others := by
  by_cases isFaulty : faults.second
  · exact advances_failed tracked known (by rw [advanceStorage, if_pos isFaulty])
  · unfold Advances
    rw [advanceStorage, if_neg isFaulty]
    refine ⟨?_, nofun, fun other isOther => ?_⟩
    · exact
        { lastPut := tracked.lastPut
          whileDeleted := tracked.whileDeleted
          deleted := by
            intro isDeleted
            rcases (Bool.or_eq_true _ _).mp isDeleted with wasDeleted | isLast
            · exact ⟨(tracked.deleted wasDeleted).1, rfl⟩
            · exact ⟨knows (of_decide_eq_true isLast), rfl⟩ }
    · exact (known other isOther).stable (Nat.le_refl _)
        (fun _ wasDeleted => (Bool.or_eq_true _ _).mpr (.inl wasDeleted))
        (fun _ _ => id)

/-! ## Every run -/

variable {world : World (Disks Bytes) (StorageThread Bytes)}

theorem advances_of_copiesInTime {index : Nat}
    (isThread : world.threads[index]? = some thread) (inTime : CopiesInTime world (.advance index))
    (tracked : world.shared.Tracked) (known : ∀ thread ∈ world.threads, thread.Knows world.shared) :
    Advances copyBack world.shared thread (world.threads.eraseIdx index) := by
  have knows := known thread (List.mem_of_getElem? isThread)
  have othersKnow : ∀ other ∈ world.threads.eraseIdx index, other.Knows world.shared :=
    fun other isOther => known other (List.mem_of_mem_eraseIdx isOther)
  cases thread with
  | getPrimary begun faults => exact advances_getPrimary tracked knows othersKnow
  | getFallback begun faults => exact advances_getFallback tracked knows othersKnow
  | copyBack begun bytes faults =>
    refine advances_copyBack tracked knows othersKnow fun isWritten => ?_
    obtain ⟨noPrimary, isFallback, noDelete⟩ := inTime _ isThread isWritten
    exact
      ⟨noPrimary, isFallback, fun other isOther =>
        noDelete other (List.mem_of_mem_eraseIdx isOther)⟩
  | put bytes faults => exact advances_put tracked othersKnow
  | deletePrimary faults => exact advances_deletePrimary tracked othersKnow
  | deleteFallback begun faults => exact advances_deleteFallback tracked knows.2 othersKnow

/--
While bytes are only copied back in time, a put stays until it is deleted or
put again, and a deleted key is reported missing.
-/
theorem copies_in_time_are_coherent {primary fallback : Option Bytes}
    {world : World (Disks Bytes) (StorageThread Bytes)}
    (reached : ReachableAlong (step? (storageManager copyBack)) CopiesInTime
      (World.initial (.initial primary fallback)) world) :
    world.shared.Coherent := by
  have atStart : (Disks.initial primary fallback).Tracked :=
    { lastPut := nofun, whileDeleted := nofun, deleted := nofun }
  refine (invariant_of_interference_free Disks.Tracked
    (fun disks thread => thread.Knows disks) atStart nofun ?_ ?_
    reached).1.toCoherent
  · intro disks made _
    cases made with
    | get faults =>
      intro puts isBegun
      by_cases isDeleted : disks.deleted
      · rw [if_pos isDeleted] at isBegun
        cases isBegun
        exact ⟨Nat.le_refl _, fun _ => isDeleted⟩
      · rw [if_neg isDeleted] at isBegun
        cases isBegun
    | put bytes faults => trivial
    | delete faults => trivial
  · exact fun _ _ _ isThread inTime tracked known =>
      advances_of_copiesInTime isThread inTime tracked known

def fromFallback : World (Disks Nat) (StorageThread Nat) := World.initial (.initial none (some 0))

theorem deleted_bytes_stay_deleted :
    (Disks.mk none none 1 none true
      [⟨false, .found 0⟩, ⟨true, .notFound⟩] : Disks Nat).Coherent := by
  have accepted : runAlong? (step? (storageManager true)) CopiesInTime
        fromFallback
        [.call (.get .none), .advance 0, .advance 0, .advance 0, .call (.put 1 .none), .advance 0,
          .call (.delete .none), .advance 0, .advance 0,
          .call (.get .none), .advance 0, .advance 0] =
      some ⟨⟨none, none, 1, none, true, [⟨false, .found 0⟩, ⟨true, .notFound⟩]⟩, []⟩ := by
    decide +kernel
  exact copies_in_time_are_coherent (reachableAlong_of_runAlong? .start accepted)

/-- A late copy overwrites a put, or brings back what was deleted. -/
theorem late_copy_is_not_coherent :
    (∃ world,
      Reachable (step? (storageManager true)) fromFallback world ∧
        world.shared.lastPut = some 1 ∧ world.shared.primary = some 0 ∧ ¬ world.shared.Coherent) ∧
      ∃ world, Reachable (step? (storageManager true)) fromFallback world ∧
          world.shared.responses = [{ whileDeleted := false, answer := .found 0 },
              { whileDeleted := true, answer := .found 0 }] ∧
          ¬ world.shared.Coherent := by
  constructor
  · have accepted : run? (step? (storageManager true)) fromFallback
          [.call (.get .none), .advance 0, .advance 0,
            .call (.put 1 .none), .advance 1, .advance 0] =
        some ⟨⟨some 0, some 0, 1, some 1, false, [⟨false, .found 0⟩]⟩, []⟩ := by
      decide +kernel
    refine ⟨_, reachable_of_run? accepted, rfl, rfl, ?_⟩
    exact fun coherent => nomatch coherent.lastPut 1 rfl
  · have accepted : run? (step? (storageManager true)) fromFallback
          [.call (.get .none), .advance 0, .advance 0,
            .call (.delete .none), .advance 1, .advance 1, .advance 0,
            .call (.get .none), .advance 0] =
        some ⟨⟨some 0, none, 0, none, true, [⟨false, .found 0⟩, ⟨true, .found 0⟩]⟩, []⟩ := by
      decide +kernel
    refine ⟨_, reachable_of_run? accepted, rfl, ?_⟩
    intro coherent
    have missed := coherent.whileDeleted ⟨true, .found 0⟩ (by simp) rfl
    cases missed with
    | inl isMissing => cases isMissing
    | inr isFailed => cases isFailed

end Rustasea.Storage
