import Rustasea.Library.TransitionSystem
import Rustasea.Queue.RedisDriver
import Mathlib.Data.List.Perm.Basic

namespace Rustasea.Queue.RedisDriver

open Redis TransitionSystem List

/-!
# The four redis keys of a queue account for its jobs

A shelf holds the jobs of one queue where the keyspace shows them: listed,
parked on the delayed set, or held by a worker.  Each method of the driver
moves jobs between the parts of one shelf and leaves the other shelves alone.
-/

variable {Json : Type}

/-! ## Shelves -/

/-- The jobs of one queue, by the key that holds them. -/
structure Shelf (Json : Type) where
  listed : List (JobPayload Json)
  parked : List (JobPayload Json)
  held : List (JobPayload Json)

structure Shown
    (codec : TextForm (JobPayload Json) String) (keyPrefix queue : String) (keys : Keyspace)
    (shelf : Shelf Json) : Prop where
  listed : listAt? (listKey keyPrefix queue) keys = some (shelf.listed.map codec.encode)
  parked : HasMembers (delayedKey keyPrefix queue) keys (shelf.parked.map codec.encode)
  held : HasMembers (reservedKey keyPrefix queue) keys (shelf.held.map codec.encode)
  times : HasMembers (pendingTimesKey keyPrefix queue) keys (shelf.listed.filterMap JobPayload.id)

/-- The other queues' keys and the dead letters are left alone. -/
def KeepsOthers (keyPrefix queue : String) (keys after : Keyspace) : Prop :=
  ∀ key, key ∉ keysOf keyPrefix queue → after key = keys key

variable {keyPrefix queue : String}

theorem KeepsOthers.trans {keys between after : Keyspace}
    (earlier : KeepsOthers keyPrefix queue keys between)
    (later : KeepsOthers keyPrefix queue between after) : KeepsOthers keyPrefix queue keys after :=
  fun key other => (later key other).trans (earlier key other)

theorem KeepsOthers.putList {keyPrefix queue key : String} {keys between : Keyspace}
    (keeps : KeepsOthers keyPrefix queue keys between) (own : key ∈ keysOf keyPrefix queue)
    (items : List String) : KeepsOthers keyPrefix queue keys (putList key items between) := by
  intro other notOwn
  have ne : other ≠ key := fun same => notOwn (same ▸ own)
  rw [putList_of_ne ne]
  exact keeps other notOwn

theorem KeepsOthers.putSorted {keyPrefix queue key : String} {keys between : Keyspace}
    (keeps : KeepsOthers keyPrefix queue keys between)
    (own : key ∈ keysOf keyPrefix queue) (entries : List (String × Int)) :
    KeepsOthers keyPrefix queue keys (putSorted key entries between) := by
  intro other notOwn
  have ne : other ≠ key := fun same => notOwn (same ▸ own)
  rw [putSorted_of_ne ne]
  exact keeps other notOwn

theorem KeepsOthers.refl (keyPrefix queue : String) (keys : Keyspace) :
    KeepsOthers keyPrefix queue keys keys :=
  fun _ _ => rfl

variable {jobs : List (JobPayload Json)} {payload : JobPayload Json}

/-- A job that carries an id and is read back from its text as it was. -/
structure Tracked (codec : TextForm (JobPayload Json) String) (job : JobPayload Json) : Prop where
  hasId : job.id ≠ none
  readsBack : codec.ReadsBack job

theorem encode_notMem_of_id {codec : TextForm (JobPayload Json) String}
    (readsBack : codec.ReadsBack payload) (tracked : ∀ job ∈ jobs, Tracked codec job)
    (fresh : payload.id ∉ jobs.map JobPayload.id) :
    codec.encode payload ∉ jobs.map codec.encode := by
  intro member
  obtain ⟨other, isJob, same⟩ := mem_map.mp member
  obtain rfl := (tracked other isJob).readsBack.eq_of_encode_eq readsBack same
  exact fresh (mem_map_of_mem isJob)

theorem id_notMem_of_fresh {id : String} (fresh : some id ∉ jobs.map JobPayload.id) :
    id ∉ jobs.filterMap JobPayload.id := by
  intro member
  obtain ⟨job, isJob, isId⟩ := mem_filterMap.mp member
  exact fresh (isId ▸ mem_map_of_mem isJob)

/-! ## Pushing -/

variable {keys : Keyspace} {shelf : Shelf Json} {codec : TextForm (JobPayload Json) String}
  {keyPrefix : String}

/-- A push puts one job on the list or on the delayed set. -/
theorem push_shown
    (uuid : String) (now : Instant) (shown : Shown codec keyPrefix payload.queue keys shelf)
    (readsBack : codec.ReadsBack (withId uuid payload))
    (tracked : ∀ job ∈ shelf.listed ++ shelf.parked, Tracked codec job)
    (fresh : some (payload.id.getD uuid) ∉ (shelf.listed ++ shelf.parked).map JobPayload.id) :
    ∃ after shelfAfter, push codec keyPrefix uuid now payload keys = (.ok (), after) ∧
      Shown codec keyPrefix payload.queue after shelfAfter ∧
      (shelfAfter.listed ++ shelfAfter.parked).Perm
        (withId uuid payload :: (shelf.listed ++ shelf.parked)) ∧
      shelfAfter.held = shelf.held ∧ KeepsOthers keyPrefix payload.queue keys after := by
  obtain ⟨listed, parked, held, times⟩ := shown
  rw [map_append, mem_append, not_or] at fresh
  unfold push
  simp only [withId_queue, withId_id, Option.getD_some]
  split
  · next at_ isDelayed =>
    have newText : codec.encode (withId uuid payload) ∉ shelf.parked.map codec.encode :=
      encode_notMem_of_id readsBack
        (fun job isParked => tracked job (mem_append_right _ isParked)) fresh.2
    obtain ⟨entries, added, parkedAfter⟩ := parked.zadd newText (timestamp at_)
    rw [added]
    refine ⟨_, ⟨shelf.listed, withId uuid payload :: shelf.parked,
      shelf.held⟩, rfl, ⟨?_, parkedAfter, ?_, ?_⟩, ?_, rfl, ?_⟩
    · simpa using listed
    · exact held.congr (by simp)
    · exact times.congr (by simp)
    · exact perm_middle
    · exact (KeepsOthers.refl _ _ keys).putSorted (by simp [keysOf]) _
  · rw [lpush_eq listed]
    simp only [command]
    have timesStill : HasMembers (pendingTimesKey keyPrefix payload.queue)
        (putList (listKey keyPrefix payload.queue)
          (codec.encode (withId uuid payload) :: shelf.listed.map codec.encode) keys)
        (shelf.listed.filterMap JobPayload.id) :=
      times.congr (by simp)
    obtain ⟨entries, added, timesAfter⟩ :=
      timesStill.zadd (id_notMem_of_fresh fresh.1) (timestampMillis now)
    rw [added]
    refine ⟨_, ⟨withId uuid payload :: shelf.listed, shelf.parked,
      shelf.held⟩, rfl, ⟨?_, ?_, ?_, ?_⟩, .refl _, rfl, ?_⟩
    · simp
    · exact parked.congr (by simp)
    · exact held.congr (by simp)
    · simpa using timesAfter
    · exact ((KeepsOthers.refl _ _ keys).putList (by simp [keysOf]) _).putSorted
        (by simp [keysOf]) _

/-! ## Promoting -/

variable {job : JobPayload Json} (now : Instant)

theorem promoteMember_shown {keyPrefix queue id : String}
    {listed rest held : List (JobPayload Json)}
    (shown : Shown codec keyPrefix queue keys ⟨listed, job :: rest, held⟩)
    (isId : job.id = some id) (tracked : ∀ other ∈ job :: rest, Tracked codec other)
    (fresh : job.id ∉ (listed ++ rest).map JobPayload.id) :
    ∃ after, promoteMember codec keyPrefix queue now (codec.encode job) keys = (.ok (), after) ∧
      Shown codec keyPrefix queue after ⟨job :: listed, rest, held⟩ ∧
      KeepsOthers keyPrefix queue keys after := by
  obtain ⟨isListed, parked, isHeld, times⟩ := shown
  rw [map_append, mem_append, not_or] at fresh
  rw [forall_mem_cons] at tracked
  have readsBack : codec.decode (codec.encode job) = .ok job := tracked.1.readsBack
  obtain ⟨removed, parkedEntries, zremoved, wasThere, parkedAfter⟩ :=
    HasMembers.zrem parked (encode_notMem_of_id readsBack tracked.2 fresh.2)
  unfold promoteMember
  rw [zremoved]
  simp only [command, wasThere]
  rw [lpush_eq
    (by simpa using isListed : listAt? (listKey keyPrefix queue)
          (putSorted (delayedKey keyPrefix queue) parkedEntries keys) =
        some (listed.map codec.encode))]
  simp only [readsBack, isId]
  rw [isId] at fresh
  have timesStill : HasMembers (pendingTimesKey keyPrefix queue) (putList (listKey keyPrefix queue)
        (codec.encode job :: listed.map codec.encode)
        (putSorted (delayedKey keyPrefix queue) parkedEntries keys))
      (listed.filterMap JobPayload.id) :=
    times.congr (by simp)
  obtain ⟨timeEntries, added, timesAfter⟩ :=
    timesStill.zadd (id_notMem_of_fresh fresh.1) (timestampMillis now)
  rw [added]
  refine ⟨_, rfl, ⟨?_, ?_, ?_, ?_⟩, ?_⟩
  · simp
  · exact parkedAfter.congr (by simp)
  · exact isHeld.congr (by simp)
  · simpa [isId] using timesAfter
  · exact (((KeepsOthers.refl _ _ keys).putSorted (by simp [keysOf]) _).putList
      (by simp [keysOf]) _).putSorted (by simp [keysOf]) _

theorem promoteMembers_shown {due listed rest held : List (JobPayload Json)}
    (shown : Shown codec keyPrefix queue keys ⟨listed, due ++ rest, held⟩)
    (tracked : ∀ job ∈ due ++ rest, Tracked codec job)
    (distinct : ((listed ++ (due ++ rest)).map JobPayload.id).Nodup) :
    ∃ after,
      promoteMembers codec keyPrefix queue now (due.map codec.encode) keys = (.ok (), after) ∧
      Shown codec keyPrefix queue after ⟨due.reverse ++ listed, rest, held⟩ ∧
      KeepsOthers keyPrefix queue keys after := by
  induction due generalizing listed keys with
  | nil => exact ⟨keys, rfl, shown, .refl _ _ keys⟩
  | cons job due ih =>
    obtain ⟨id, isId⟩ := Option.ne_none_iff_exists'.mp (tracked job mem_cons_self).hasId
    have moved : (listed ++ (job :: due ++ rest)).Perm (job :: (listed ++ (due ++ rest))) :=
      perm_middle
    have distinctMoved := (moved.map JobPayload.id).nodup_iff.mp distinct
    rw [map_cons, nodup_cons] at distinctMoved
    obtain ⟨between, promoted, shownBetween, keeps⟩ :=
      promoteMember_shown now shown isId tracked distinctMoved.1
    obtain ⟨after, promotedRest, shownAfter, keepsRest⟩ := ih shownBetween
        (fun other member => tracked other (mem_cons_of_mem _ member))
        (by
          rw [cons_append, map_cons, nodup_cons]
          exact distinctMoved)
    refine ⟨after, ?_, ?_, keeps.trans keepsRest⟩
    · rw [map_cons, promoteMembers, promoted]
      exact promotedRest
    · simpa using shownAfter

private theorem exists_jobs_of_perm {texts : List String}
    (same : texts.Perm (jobs.map codec.encode)) :
    ∃ others : List (JobPayload Json), texts = others.map codec.encode ∧ others.Perm jobs := by
  have composed := congrFun (congrFun (eq_map_comp_perm codec.encode) texts) jobs
  exact composed.mpr same

theorem promoteDue_shown (shown : Shown codec keyPrefix queue keys shelf)
    (tracked : ∀ job ∈ shelf.parked, Tracked codec job)
    (distinct : ((shelf.listed ++ shelf.parked).map JobPayload.id).Nodup) :
    ∃ after shelfAfter, promoteDue codec keyPrefix queue now keys = (.ok (), after) ∧
      Shown codec keyPrefix queue after shelfAfter ∧
      (shelfAfter.listed ++ shelfAfter.parked).Perm (shelf.listed ++ shelf.parked) ∧
      shelfAfter.held = shelf.held ∧ KeepsOthers keyPrefix queue keys after := by
  obtain ⟨entries, isRead, members⟩ := shown.parked
  -- the due entries come first, the others stay
  have split :
      (entries.filter (fun entry => entry.2 ≤ timestamp now) ++
          entries.filter (fun entry => !decide (entry.2 ≤ timestamp now))
        ).Perm entries :=
    filter_append_perm _ entries
  have texts := (split.map Prod.fst).trans members
  rw [map_append] at texts
  obtain ⟨others, areTexts, sameJobs⟩ := exists_jobs_of_perm texts
  obtain ⟨due, rest, rfl, dueTexts, -⟩ := map_eq_append_iff.mp areTexts.symm
  have shownSplit : Shown codec keyPrefix queue keys ⟨shelf.listed, due ++ rest, shelf.held⟩ :=
    ⟨shown.listed, shown.parked.perm (sameJobs.symm.map codec.encode), shown.held, shown.times⟩
  obtain ⟨after, promoted, shownAfter, keeps⟩ := promoteMembers_shown now shownSplit
      (fun job member => tracked job (sameJobs.subset member))
      (((sameJobs.append_left shelf.listed).map JobPayload.id).nodup_iff.mpr distinct)
  refine ⟨after, _, ?_, shownAfter, ?_, rfl, keeps⟩
  · unfold promoteDue zrangeByScore
    rw [isRead, Option.map_some, ← dueTexts]
    exact promoted
  · have moved : (due.reverse ++ shelf.listed ++ rest).Perm (shelf.listed ++ due ++ rest) :=
      ((due.reverse_perm.append_right _).trans perm_append_comm).append_right rest
    rw [append_assoc shelf.listed] at moved
    exact moved.trans (sameJobs.append_left _)

/-! ## Reserving and finishing -/

theorem forgetPendingTime_listed {keyPrefix queue id : String} {others : List String}
    (times : HasMembers (pendingTimesKey keyPrefix queue) keys (id :: others))
    (distinct : id ∉ others) :
    ∃ entries,
      forgetPendingTime keyPrefix queue (some id) keys =
          (.ok (), putSorted (pendingTimesKey keyPrefix queue) entries keys) ∧
        HasMembers (pendingTimesKey keyPrefix queue)
          (putSorted (pendingTimesKey keyPrefix queue) entries keys) others := by
  obtain ⟨removed, entries, zremoved, -, after⟩ := times.zrem distinct
  refine ⟨entries, ?_, after⟩
  simp [forgetPendingTime, zremoved, command]

theorem forgetPendingTime_absent {id : Option String} {members : List String}
    (times : HasMembers (pendingTimesKey keyPrefix queue) keys members)
    (absent : ∀ value ∈ id, value ∉ members) :
    ∃ after, forgetPendingTime keyPrefix queue id keys = (.ok (), after) ∧
      HasMembers (pendingTimesKey keyPrefix queue) after members ∧
      ∀ key, key ≠ pendingTimesKey keyPrefix queue → after key = keys key := by
  cases id with
  | none => exact ⟨keys, rfl, times, fun _ _ => rfl⟩
  | some value =>
    obtain ⟨removed, entries, zremoved, after⟩ := times.zrem_absent (absent value rfl)
    refine ⟨_, ?_, after, fun key ne => putSorted_of_ne ne entries keys⟩
    simp [forgetPendingTime, zremoved, command]

/-- A pop takes the oldest job of the list, after promoting. -/
theorem pop_shown (shown : Shown codec keyPrefix queue keys shelf)
    (tracked : ∀ job ∈ shelf.listed ++ shelf.parked ++ shelf.held, Tracked codec job)
    (distinct : ((shelf.listed ++ shelf.parked ++ shelf.held).map JobPayload.id).Nodup) :
    ∃ popped after shelfAfter, pop codec keyPrefix queue now keys = (.ok popped, after) ∧
      Shown codec keyPrefix queue after shelfAfter ∧
      (popped.toList ++ (shelfAfter.listed ++ shelfAfter.parked)).Perm
        (shelf.listed ++ shelf.parked) ∧
      shelfAfter.held = popped.toList ++ shelf.held ∧ KeepsOthers keyPrefix queue keys after := by
  have distinctWaiting : ((shelf.listed ++ shelf.parked).map JobPayload.id).Nodup := by
    rw [map_append, nodup_append] at distinct
    exact distinct.1
  obtain ⟨between, ⟨listed, parked, held⟩, promoted, shownBetween, same,
    sameHeld, keeps⟩ :=
    promoteDue_shown now shown (fun job isParked => tracked job (by simp [isParked]))
      distinctWaiting
  obtain rfl : held = shelf.held := sameHeld
  obtain ⟨isListed, isParked, isHeld, times⟩ := shownBetween
  unfold pop
  rw [promoted]
  simp only [andThen]
  rcases eq_nil_or_concat listed with rfl | ⟨rest, job, rfl⟩
  · rw [rpop_nil isListed]
    exact ⟨none, between, ⟨[], parked, shelf.held⟩, rfl,
      ⟨isListed, isParked, isHeld, times⟩, same, rfl, keeps⟩
  · rw [concat_eq_append] at *
    have isJob : job ∈ shelf.listed ++ shelf.parked := same.subset (by simp)
    have jobTracked := tracked job (mem_append_left _ isJob)
    have readsBack : codec.decode (codec.encode job) = .ok job := jobTracked.readsBack
    obtain ⟨id, isId⟩ := Option.ne_none_iff_exists'.mp jobTracked.hasId
    have first : (job :: (rest ++ parked)).Perm (shelf.listed ++ shelf.parked) := by
      refine (List.Perm.trans ?_ same)
      rw [append_assoc]
      exact perm_middle.symm
    have distinctFirst : ((job :: (rest ++ parked ++ shelf.held)).map JobPayload.id).Nodup :=
      ((first.append_right shelf.held).map JobPayload.id).nodup_iff.mpr distinct
    rw [map_cons, nodup_cons, map_append, map_append,
      mem_append, mem_append, not_or, not_or] at distinctFirst
    obtain ⟨⟨⟨notInRest, -⟩, notHeld⟩, -⟩ := distinctFirst
    rw [rpop_concat (by simpa using isListed)]
    simp only [command, readsBack, isId]
    rw [isId] at notInRest
    have timesStill : HasMembers (pendingTimesKey keyPrefix queue)
        (putList (listKey keyPrefix queue) (rest.map codec.encode) between)
        (id :: rest.filterMap JobPayload.id) := by
      refine (times.congr (by simp)).perm ?_
      rw [filterMap_append]
      simp only [filterMap_cons, isId]
      exact perm_append_singleton _ _
    obtain ⟨timeEntries, forgotten, timesAfter⟩ :=
      forgetPendingTime_listed timesStill (id_notMem_of_fresh notInRest)
    rw [forgotten]
    simp only
    have heldStill : HasMembers (reservedKey keyPrefix queue)
        (putSorted (pendingTimesKey keyPrefix queue) timeEntries
          (putList (listKey keyPrefix queue) (rest.map codec.encode) between))
        (shelf.held.map codec.encode) :=
      isHeld.congr (by simp)
    obtain ⟨heldEntries, added, heldAfter⟩ :=
      heldStill.zadd
        (encode_notMem_of_id readsBack
          (fun other isHeld => tracked other (mem_append_right _ isHeld)) notHeld)
        (timestamp (now + reservationTtl))
    rw [added]
    refine
      ⟨some job, _, ⟨rest, parked, job :: shelf.held⟩, rfl, ⟨?_, ?_, heldAfter, ?_⟩, first, rfl, ?_⟩
    · simp
    · exact isParked.congr (by simp)
    · exact timesAfter.congr (by simp)
    · exact keeps.trans
        ((((KeepsOthers.refl _ _ between).putList (by simp [keysOf])
          _).putSorted (by simp [keysOf]) _).putSorted
          (by simp [keysOf]) _)

theorem ack_shown {listed parked rest : List (JobPayload Json)}
    (shown : Shown codec keyPrefix job.queue keys ⟨listed, parked, job :: rest⟩)
    (tracked : ∀ other ∈ job :: rest, Tracked codec other)
    (notListed : job.id ∉ listed.map JobPayload.id) (notHeld : job.id ∉ rest.map JobPayload.id) :
    ∃ after, ack codec keyPrefix job keys = (.ok (), after) ∧
      Shown codec keyPrefix job.queue after ⟨listed, parked, rest⟩ ∧
      KeepsOthers keyPrefix job.queue keys after := by
  obtain ⟨isListed, isParked, isHeld, times⟩ := shown
  rw [forall_mem_cons] at tracked
  obtain ⟨removed, heldEntries, zremoved, -, heldAfter⟩ :=
    HasMembers.zrem isHeld (encode_notMem_of_id tracked.1.readsBack tracked.2 notHeld)
  unfold ack
  rw [zremoved]
  have timesStill : HasMembers (pendingTimesKey keyPrefix job.queue)
      (putSorted (reservedKey keyPrefix job.queue) heldEntries keys)
      (listed.filterMap JobPayload.id) :=
    times.congr (by simp)
  have absent : ∀ value ∈ job.id, value ∉ listed.filterMap JobPayload.id := by
    intro value isId
    rw [isId] at notListed
    exact id_notMem_of_fresh notListed
  obtain ⟨after, forgotten, timesAfter, others⟩ := forgetPendingTime_absent timesStill absent
  refine ⟨after, forgotten, ⟨?_, ?_, ?_, timesAfter⟩, ?_⟩
  · rw [listAt?_congr (others _ (by simp))]
    simpa using isListed
  · exact isParked.congr (by rw [sortedAt?_congr (others _ (by simp))]; simp)
  · exact heldAfter.congr (sortedAt?_congr (others _ (by simp)))
  · intro key other
    rw [others key (fun same => other (by simp [keysOf, same]))]
    exact (KeepsOthers.refl _ _ keys).putSorted (by simp [keysOf]) heldEntries key other

/-! ## Several queues -/

/-- No named queue has a key of another one, or the dead letters' key. -/
structure Separate (names : String → Prop) : Prop where
  suffixes : ∀ first second, names first → names second → first ≠ second ++ ":delayed" ∧
        first ≠ second ++ ":reserved" ∧ first ≠ second ++ ":pending_times"
  failed : ¬ names "failed"

theorem append_ne_append {first second : String} (before other : String)
    (differ : ¬ first.toList <:+ second.toList ∧ ¬ second.toList <:+ first.toList) :
    before ++ first ≠ other ++ second := by
  intro same
  have characters := congrArg String.toList same
  rw [String.toList_append, String.toList_append] at characters
  rcases suffix_or_suffix_of_suffix (suffix_append before.toList first.toList)
      (characters ▸ suffix_append other.toList second.toList) with
    isSuffix | isSuffix
  · exact differ.1 isSuffix
  · exact differ.2 isSuffix

variable {names : String → Prop}

theorem Separate.keysOf_disjoint (separate : Separate names) {keyPrefix first second : String}
    (firstNamed : names first) (secondNamed : names second) (ne : first ≠ second) {key : String}
    (isFirst : key ∈ keysOf keyPrefix first) : key ∉ keysOf keyPrefix second := by
  have forward := separate.suffixes first second firstNamed secondNamed
  have backward := separate.suffixes second first secondNamed firstNamed
  have ends : ∀ before other : String, before ++ ":delayed" ≠ other ++ ":reserved" ∧
      before ++ ":delayed" ≠ other ++ ":pending_times" ∧
      before ++ ":reserved" ≠ other ++ ":delayed" ∧
      before ++ ":reserved" ≠ other ++ ":pending_times" ∧
      before ++ ":pending_times" ≠ other ++ ":delayed" ∧
      before ++ ":pending_times" ≠ other ++ ":reserved" := by
    intro before other
    refine ⟨?_, ?_, ?_, ?_, ?_, ?_⟩ <;> exact append_ne_append before other (by decide)
  intro isSecond
  simp only [keysOf, listKey, delayedKey, reservedKey, pendingTimesKey,
    mem_cons, not_mem_nil, or_false] at isFirst isSecond
  rcases isFirst with rfl | rfl | rfl | rfl <;> rcases isSecond with same | same | same | same <;>
    simp_all [String.append_assoc]

theorem Separate.failedKey_notMem (separate : Separate names) {queue : String}
    (named : names queue) (keyPrefix : String) : failedKey keyPrefix ∉ keysOf keyPrefix queue := by
  have ends : ∀ before : String, "" ++ "failed" ≠ before ++ ":delayed" ∧
      "" ++ "failed" ≠ before ++ ":reserved" ∧
      "" ++ "failed" ≠ before ++ ":pending_times" := by
    intro before
    refine ⟨?_, ?_, ?_⟩ <;> exact append_ne_append "" before (by decide)
  have other : queue ≠ "failed" := by
    rintro rfl
    exact separate.failed named
  intro isOwn
  simp only [keysOf, listKey, delayedKey, reservedKey, pendingTimesKey, failedKey,
    mem_cons] at isOwn
  rcases isOwn with same | same | same | same <;> simp_all [String.append_assoc]

/-! ## The books -/

/-- The keyspace, with the jobs that wait and those that are held. -/
structure Books (Json : Type) where
  keys : Keyspace
  waiting : List (JobPayload Json)
  held : List (JobPayload Json)

def Books.empty : Books Json where
  keys := fun _ => none
  waiting := []
  held := []

/-- One call on the driver. -/
inductive Operation (Json : Type) where
  | push (uuid : String) (now : Instant) (payload : JobPayload Json)
  | promote (queue : String) (now : Instant)
  | pop (queue : String) (now : Instant)
  | ack (payload : JobPayload Json)
  | release (uuid : String) (now later : Instant) (delay : Duration) (payload : JobPayload Json)
  | deadLetter (failed : FailedJob Json)
  deriving DecidableEq

def Books.ids (books : Books Json) : List (Option String) :=
  (books.waiting ++ books.held).map JobPayload.id

/-- Make one call; a call that fails leaves the jobs where they are. -/
def Books.step? [DecidableEq Json] (codec : TextForm (JobPayload Json) String) (keyPrefix : String)
    (letter : FailedJob Json → String) (books : Books Json)
    (operation : Operation Json) : Option (Books Json) :=
  match operation with
  | .push uuid now payload =>
    match push codec keyPrefix uuid now payload books.keys with
    | (.ok _, keys) =>
      some { books with keys := keys, waiting := withId uuid payload :: books.waiting }
    | (.error _, keys) => some { books with keys := keys }
  | .promote queue now =>
    some { books with keys := (promoteDue codec keyPrefix queue now books.keys).2 }
  | .pop queue now =>
    match pop codec keyPrefix queue now books.keys with
    | (.ok (some payload), keys) =>
      some { keys := keys, waiting := books.waiting.erase payload, held := payload :: books.held }
    | (_, keys) => some { books with keys := keys }
  | .ack payload =>
    match ack codec keyPrefix payload books.keys with
    | (.ok _, keys) => some { books with keys := keys, held := books.held.erase payload }
    | (.error _, keys) => some { books with keys := keys }
  | .release uuid now later delay payload =>
    match
      release codec keyPrefix uuid now later delay payload books.keys, retryOf now delay payload
    with
    | (.ok _, keys), some next =>
      some
        { keys := keys
          waiting := withId uuid next :: books.waiting
          held := books.held.erase payload }
    | (_, keys), _ => some { books with keys := keys }
  | .deadLetter failed =>
    match deadLetter keyPrefix letter failed books.keys with
    | (.ok _, keys) => some { books with keys := keys, held := books.held.erase failed.payload }
    | (.error _, keys) => some { books with keys := keys }

/--
Calls on named queues, with new ids for new jobs, that finish a held job; a
queued payload is read back as it was, a dead letter is not of an unfinished
job, and no retry overflows the clock.
-/
def KeepsBooks (codec : TextForm (JobPayload Json) String) (names : String → Prop)
    (books : Books Json) : Operation Json → Prop
  | .push uuid _ payload =>
    names payload.queue ∧ some (payload.id.getD uuid) ∉ books.ids ∧
      codec.ReadsBack (withId uuid payload)
  | .promote queue _ => names queue
  | .pop queue _ => names queue
  | .ack payload => payload ∈ books.held
  | .release uuid now _ delay payload =>
    payload ∈ books.held ∧ some uuid ∉ books.ids ∧ (retryOf now delay payload).isSome = true ∧
      ∀ next ∈ retryOf now delay payload, codec.ReadsBack (withId uuid next)
  | .deadLetter failed =>
    names failed.queue ∧ failed.payload ∉ books.held ∧ ∀ id ∈ failed.payload.id, some id ∉ books.ids

instance [DecidableEq Json] (codec : TextForm (JobPayload Json) String) (names : String → Prop)
    [DecidablePred names] (books : Books Json) (operation : Operation Json) :
    Decidable (KeepsBooks codec names books operation) := by
  cases operation <;> unfold KeepsBooks <;> infer_instance

def onQueue (queue : String) (jobs : List (JobPayload Json)) : List (JobPayload Json) :=
  jobs.filter fun job => job.queue = queue

/-- Every named queue shows a shelf of its jobs, each with its own id. -/
structure Booked
    (codec : TextForm (JobPayload Json) String) (keyPrefix : String) (names : String → Prop)
    (books : Books Json) : Prop where
  shelves : ∀ queue, names queue → ∃ shelf, Shown codec keyPrefix queue books.keys shelf ∧
          (onQueue queue books.waiting).Perm (shelf.listed ++ shelf.parked) ∧
          (onQueue queue books.held).Perm shelf.held
  distinct : books.ids.Nodup
  tracked : ∀ job ∈ books.waiting ++ books.held, Tracked codec job ∧ names job.queue
  failed : ∃ items, listAt? (failedKey keyPrefix) books.keys = some items

section Steps

variable {codec : TextForm (JobPayload Json) String} {keyPrefix : String} {names : String → Prop}
  {books : Books Json} {queue : String} {shelf : Shelf Json}

theorem Shown.congr {keys after : Keyspace} (shown : Shown codec keyPrefix queue keys shelf)
    (same : ∀ key ∈ keysOf keyPrefix queue, after key = keys key) :
    Shown codec keyPrefix queue after shelf where
  listed := by
    rw [listAt?_congr (same _ (by simp [keysOf]))]
    exact shown.listed
  parked := shown.parked.congr (sortedAt?_congr (same _ (by simp [keysOf])))
  held := shown.held.congr (sortedAt?_congr (same _ (by simp [keysOf])))
  times := shown.times.congr (sortedAt?_congr (same _ (by simp [keysOf])))

theorem Booked.shelf_distinct (booked : Booked codec keyPrefix names books)
    (waiting : (onQueue queue books.waiting).Perm (shelf.listed ++ shelf.parked))
    (held : (onQueue queue books.held).Perm shelf.held) :
    ((shelf.listed ++ shelf.parked ++ shelf.held).map JobPayload.id).Nodup ∧
    ∀ job ∈ shelf.listed ++ shelf.parked ++ shelf.held, job ∈ books.waiting ++ books.held := by
  have same := waiting.append held
  have part : (onQueue queue books.waiting ++ onQueue queue books.held).Sublist
      (books.waiting ++ books.held) :=
    filter_sublist.append filter_sublist
  constructor
  · rw [← (same.map JobPayload.id).nodup_iff]
    exact (part.map JobPayload.id).nodup booked.distinct
  · intro job member
    exact part.subset (same.symm.subset member)

variable {after : Books Json}

theorem Booked.update (separate : Separate names) (booked : Booked codec keyPrefix names books)
    (named : names queue) (keeps : KeepsOthers keyPrefix queue books.keys after.keys)
    (shown : Shown codec keyPrefix queue after.keys shelf)
    (waiting : (onQueue queue after.waiting).Perm (shelf.listed ++ shelf.parked))
    (held : (onQueue queue after.held).Perm shelf.held) (others : ∀ other, other ≠ queue →
      (onQueue other after.waiting).Perm (onQueue other books.waiting) ∧
      (onQueue other after.held).Perm (onQueue other books.held)) (distinct : after.ids.Nodup)
    (tracked : ∀ job ∈ after.waiting ++ after.held, Tracked codec job ∧ names job.queue) :
    Booked codec keyPrefix names after where
  shelves := by
    intro other otherNamed
    by_cases same : other = queue
    · subst same
      exact ⟨shelf, shown, waiting, held⟩
    · obtain ⟨otherShelf, otherShown, otherWaiting, otherHeld⟩ := booked.shelves other otherNamed
      obtain ⟨sameWaiting, sameHeld⟩ := others other same
      refine
        ⟨otherShelf, otherShown.congr ?_, sameWaiting.trans otherWaiting, sameHeld.trans otherHeld⟩
      intro key isOther
      exact keeps key (separate.keysOf_disjoint otherNamed named same isOther)
  distinct := distinct
  tracked := tracked
  failed := by
    obtain ⟨items, isRead⟩ := booked.failed
    refine ⟨items, ?_⟩
    rw [listAt?_congr (keeps _ (separate.failedKey_notMem named keyPrefix))]
    exact isRead

private theorem onQueue_cons_of_ne {job : JobPayload Json} (ne : queue ≠ job.queue)
    (jobs : List (JobPayload Json)) : onQueue queue (job :: jobs) = onQueue queue jobs :=
  filter_cons_of_neg (by simpa using ne.symm)

private theorem onQueue_cons_self (job : JobPayload Json) (jobs : List (JobPayload Json)) :
    onQueue job.queue (job :: jobs) = job :: onQueue job.queue jobs :=
  filter_cons_of_pos (by simp)

variable {payload : JobPayload Json}

theorem Booked.push (separate : Separate names) (booked : Booked codec keyPrefix names books)
    (uuid : String) (now : Instant) (named : names payload.queue)
    (fresh : some (payload.id.getD uuid) ∉ books.ids)
    (readsBack : codec.ReadsBack (withId uuid payload)) :
    ∃ keys,
      RedisDriver.push codec keyPrefix uuid now payload books.keys = (.ok (), keys) ∧
        Booked codec keyPrefix names
          { books with
            keys := keys
            waiting := withId uuid payload :: books.waiting } := by
  obtain ⟨shelf, shown, waiting, held⟩ := booked.shelves payload.queue named
  obtain ⟨-, members⟩ := booked.shelf_distinct waiting held
  have freshHere :
      some (payload.id.getD uuid) ∉ (shelf.listed ++ shelf.parked).map JobPayload.id := by
    intro member
    obtain ⟨job, isJob, isId⟩ := mem_map.mp member
    apply fresh
    rw [← isId]
    exact mem_map_of_mem (members job (mem_append_left _ isJob))
  obtain ⟨keys, shelfAfter, pushed, shownAfter, waitingAfter, sameHeld,
    keeps⟩ :=
    push_shown uuid now shown readsBack
      (fun job waits => (booked.tracked job (members job (mem_append_left _ waits))).1)
      freshHere
  refine ⟨keys, pushed, ?_⟩
  apply booked.update separate named keeps shownAfter
  · rw [← withId_queue uuid payload, onQueue_cons_self]
    exact (waiting.cons _).trans waitingAfter.symm
  · rw [sameHeld]
    exact held
  · intro other ne
    rw [onQueue_cons_of_ne (by simpa using ne)]
    exact ⟨.refl _, .refl _⟩
  · simp only [Books.ids, cons_append, map_cons, nodup_cons]
    exact ⟨fresh, booked.distinct⟩
  · intro job member
    rw [cons_append, mem_cons] at member
    rcases member with rfl | old
    · exact ⟨⟨by simp, readsBack⟩, by simpa using named⟩
    · exact booked.tracked job old

theorem Booked.promote (separate : Separate names) (booked : Booked codec keyPrefix names books)
    (named : names queue) (now : Instant) :
    Booked codec keyPrefix names
      { books with
        keys := (promoteDue codec keyPrefix queue now books.keys).2 } := by
  obtain ⟨shelf, shown, waiting, held⟩ := booked.shelves queue named
  obtain ⟨distinct, members⟩ := booked.shelf_distinct waiting held
  have distinctWaiting : ((shelf.listed ++ shelf.parked).map JobPayload.id).Nodup := by
    rw [map_append, nodup_append] at distinct
    exact distinct.1
  obtain ⟨keys, shelfAfter, promoted, shownAfter, same, sameHeld, keeps⟩ :=
    promoteDue_shown now shown
      (fun job member => (booked.tracked job (members job (by simp [member]))).1)
      distinctWaiting
  rw [promoted]
  apply booked.update separate named keeps shownAfter
  · exact waiting.trans same.symm
  · rw [sameHeld]
    exact held
  · exact fun _ _ => ⟨.refl _, .refl _⟩
  · exact booked.distinct
  · exact booked.tracked

variable [DecidableEq Json]

/-- A pop moves the job it returns from the waiting to the held ones. -/
theorem Booked.pop (separate : Separate names) (booked : Booked codec keyPrefix names books)
    (named : names queue) (now : Instant) :
    ∃ popped keys,
      RedisDriver.pop codec keyPrefix queue now books.keys = (.ok popped, keys) ∧
        (∀ job ∈ popped, job ∈ books.waiting ∧ job.queue = queue) ∧ Booked codec keyPrefix names
          { keys := keys
            waiting := popped.elim books.waiting books.waiting.erase
            held := popped.toList ++ books.held } := by
  obtain ⟨shelf, shown, waiting, held⟩ := booked.shelves queue named
  obtain ⟨distinct, members⟩ := booked.shelf_distinct waiting held
  obtain ⟨popped, keys, shelfAfter, isPopped, shownAfter, same, sameHeld,
    keeps⟩ :=
    pop_shown now shown
      (fun job member => (booked.tracked job (members job member)).1)
      distinct
  refine ⟨popped, keys, isPopped, ?_, ?_⟩
  · rintro job ⟨⟩
    have onThis : job ∈ onQueue queue books.waiting := waiting.symm.subset (same.subset (by simp))
    simpa [onQueue] using onThis
  · cases popped with
    | none =>
      apply booked.update separate named keeps shownAfter
      · exact waiting.trans same.symm
      · rw [sameHeld]
        exact held
      · exact fun _ _ => ⟨.refl _, .refl _⟩
      · exact booked.distinct
      · exact booked.tracked
    | some job =>
      have onThis : job ∈ onQueue queue books.waiting := waiting.symm.subset (same.subset (by simp))
      obtain ⟨isWaiting, isQueue⟩ :
          job ∈ books.waiting ∧ job.queue = queue := by
        simpa [onQueue] using onThis
      subst isQueue
      have taken := perm_cons_erase isWaiting
      have moved :
          (books.waiting.erase job ++ job :: books.held).Perm (books.waiting ++ books.held) :=
        perm_middle.trans (taken.symm.append_right books.held)
      apply booked.update separate named keeps shownAfter
      · have cancel : (job :: onQueue job.queue (books.waiting.erase job)).Perm
            (job :: (shelfAfter.listed ++ shelfAfter.parked)) := by
          rw [← onQueue_cons_self]
          exact ((taken.symm.filter _).trans waiting).trans same.symm
        exact cancel.cons_inv
      · rw [sameHeld]
        change (onQueue job.queue (job :: books.held)).Perm _
        rw [onQueue_cons_self]
        exact held.cons job
      · intro other ne
        constructor
        · have others := taken.filter fun job => job.queue = other
          change (onQueue other books.waiting).Perm
              (onQueue other (job :: books.waiting.erase job)) at others
          rw [onQueue_cons_of_ne ne] at others
          exact others.symm
        · change
            (onQueue other (job :: books.held)).Perm _
          rw [onQueue_cons_of_ne ne]
      · exact (moved.map JobPayload.id).nodup_iff.mpr booked.distinct
      · exact fun other member => booked.tracked other (moved.subset member)

/-- An acknowledged job is held no more. -/
theorem Booked.ack (separate : Separate names) (booked : Booked codec keyPrefix names books)
    (isHeld : payload ∈ books.held) :
    ∃ keys, RedisDriver.ack codec keyPrefix payload books.keys =
          (.ok (), keys) ∧
        Booked codec keyPrefix names
          { books with
            keys := keys
            held := books.held.erase payload } := by
  have named : names payload.queue := (booked.tracked payload (mem_append_right _ isHeld)).2
  obtain ⟨⟨listed, parked, held⟩, shown, waiting, sameHeld⟩ := booked.shelves payload.queue named
  have taken := perm_cons_erase isHeld
  have split : held.Perm (payload :: onQueue payload.queue (books.held.erase payload)) := by
    rw [← onQueue_cons_self]
    exact sameHeld.symm.trans (taken.filter _)
  obtain ⟨distinct, members⟩ := booked.shelf_distinct waiting sameHeld
  have distinctSplit : ((payload ::
        (listed ++ parked ++ onQueue payload.queue (books.held.erase payload))).map
      JobPayload.id).Nodup :=
    (((split.append_left (listed ++ parked)).trans
      perm_middle).map JobPayload.id).nodup_iff.mp distinct
  rw [map_cons, nodup_cons, map_append, map_append,
    mem_append, mem_append, not_or, not_or] at distinctSplit
  obtain ⟨⟨⟨notListed, -⟩, notHeld⟩, -⟩ := distinctSplit
  obtain ⟨keys, acked, shownAfter, keeps⟩ := ack_shown (⟨shown.listed, shown.parked,
        shown.held.perm (split.map codec.encode), shown.times⟩ :
        Shown codec keyPrefix payload.queue books.keys
          ⟨listed, parked, payload :: onQueue payload.queue (books.held.erase payload)⟩)
      (fun job isJob => (booked.tracked job (members job
        (mem_append_right _ (split.symm.subset isJob)))).1)
      notListed notHeld
  refine ⟨keys, acked, ?_⟩
  apply booked.update separate named keeps shownAfter
  · exact waiting
  · exact .refl _
  · intro other ne
    refine ⟨.refl _, ?_⟩
    have others := taken.filter fun job => job.queue = other
    change (onQueue other books.held).Perm
        (onQueue other (payload :: books.held.erase payload)) at others
    rw [onQueue_cons_of_ne ne] at others
    exact others.symm
  · refine List.Nodup.sublist ?_ booked.distinct
    exact ((List.Sublist.refl _).append erase_sublist).map JobPayload.id
  · intro job member
    apply booked.tracked job
    rcases mem_append.mp member with isWaiting | stillHeld
    · exact mem_append_left _ isWaiting
    · exact mem_append_right _ (mem_of_mem_erase stillHeld)

theorem Booked.release (separate : Separate names) (booked : Booked codec keyPrefix names books)
    {uuid : String} {now : Instant} (later : Instant) {delay : Duration}
    {payload next : JobPayload Json} (isHeld : payload ∈ books.held) (fresh : some uuid ∉ books.ids)
    (isNext : retryOf now delay payload = some next)
    (readsBack : codec.ReadsBack (withId uuid next)) :
    ∃ keys,
      RedisDriver.release codec keyPrefix uuid now later delay payload
            books.keys =
          (.ok (), keys) ∧
        Booked codec keyPrefix names
          { keys := keys
            waiting := withId uuid next :: books.waiting
            held := books.held.erase payload } := by
  have isRetry : next.queue = payload.queue ∧ next.id = none := by
    unfold retryOf at isNext
    split at isNext
    · obtain rfl := Option.some.inj isNext
      exact ⟨rfl, rfl⟩
    · obtain ⟨at_, -, rfl⟩ := Option.map_eq_some_iff.mp isNext
      exact ⟨rfl, rfl⟩
  obtain ⟨between, acked, bookedBetween⟩ := booked.ack separate isHeld
  have freshBetween : some (next.id.getD uuid) ∉
        Books.ids
          { books with
            keys := between
            held := books.held.erase payload } := by
    rw [isRetry.2]
    intro member
    refine fresh (List.Sublist.subset ?_ member)
    exact ((List.Sublist.refl _).append erase_sublist).map JobPayload.id
  obtain ⟨keys, pushed, bookedAfter⟩ := bookedBetween.push separate uuid later
      (by
        rw [isRetry.1]
        exact (booked.tracked payload (mem_append_right _ isHeld)).2)
      freshBetween readsBack
  refine ⟨keys, ?_, bookedAfter⟩
  unfold RedisDriver.release
  rw [acked]
  simp only [isNext]
  exact pushed

omit [DecidableEq Json] in
/-- A dead letter of a finished job touches no other key. -/
theorem Booked.deadLetter (separate : Separate names) (booked : Booked codec keyPrefix names books)
    (letter : FailedJob Json → String) {failed : FailedJob Json} (named : names failed.queue)
    (finished : ∀ id ∈ failed.payload.id, some id ∉ books.ids) :
    ∃ keys,
      RedisDriver.deadLetter keyPrefix letter failed books.keys = (.ok (), keys) ∧
        Booked codec keyPrefix names { books with keys := keys } := by
  obtain ⟨items, isRead⟩ := booked.failed
  have untouched : ∀ queue, names queue → ∀ key ∈ keysOf keyPrefix queue,
      putList (failedKey keyPrefix) (letter failed :: items)
          books.keys key =
        books.keys key := by
    intro queue isNamed key isKey
    apply putList_of_ne
    rintro rfl
    exact separate.failedKey_notMem isNamed keyPrefix isKey
  have bookedBetween : Booked codec keyPrefix names
        { books with
          keys :=
            putList (failedKey keyPrefix) (letter failed :: items) books.keys } := by
    refine ⟨?_, booked.distinct, booked.tracked, _, listAt?_putList _ _ _⟩
    intro queue isNamed
    obtain ⟨shelf, shown, same⟩ := booked.shelves queue isNamed
    exact ⟨shelf, shown.congr (untouched queue isNamed), same⟩
  obtain ⟨shelf, shown, waiting, held⟩ := bookedBetween.shelves failed.queue named
  obtain ⟨-, members⟩ := bookedBetween.shelf_distinct waiting held
  have absent : ∀ id ∈ failed.payload.id, id ∉ shelf.listed.filterMap JobPayload.id := by
    intro id isId member
    obtain ⟨job, isJob, jobId⟩ := mem_filterMap.mp member
    apply finished id isId
    rw [← jobId]
    exact mem_map_of_mem (members job (by simp [isJob]))
  obtain ⟨keys, forgotten, times, others⟩ := forgetPendingTime_absent shown.times absent
  refine ⟨keys, ?_, ?_⟩
  · unfold RedisDriver.deadLetter
    rw [lpush_eq isRead]
    exact forgotten
  · have shownAfter : Shown codec keyPrefix failed.queue keys shelf := by
      refine ⟨?_, ?_, ?_, times⟩
      · rw [listAt?_congr (others _ (by simp))]
        exact shown.listed
      · exact shown.parked.congr (sortedAt?_congr (others _ (by simp)))
      · exact shown.held.congr (sortedAt?_congr (others _ (by simp)))
    apply
      bookedBetween.update separate named (fun key other =>
        others key (fun same => other (by simp [keysOf, same])))
        shownAfter
    · exact waiting
    · exact held
    · exact fun _ _ => ⟨.refl _, .refl _⟩
    · exact booked.distinct
    · exact booked.tracked

theorem Booked.step (separate : Separate names) (booked : Booked codec keyPrefix names books)
    {letter : FailedJob Json → String} {operation : Operation Json}
    (keeps : KeepsBooks codec names books operation)
    (taken : books.step? codec keyPrefix letter operation = some after) :
    Booked codec keyPrefix names after := by
  cases operation with
  | push uuid now payload =>
    obtain ⟨keys, pushed, bookedAfter⟩ := booked.push separate uuid now keeps.1 keeps.2.1 keeps.2.2
    simp only [Books.step?, pushed, Option.some.injEq] at taken
    exact taken ▸ bookedAfter
  | promote queue now =>
    obtain rfl := Option.some.inj taken
    exact booked.promote separate keeps now
  | pop queue now =>
    obtain ⟨popped, keys, isPopped, -, bookedAfter⟩ := booked.pop separate keeps now
    cases popped with
    | none | some job =>
      simp only [Books.step?, isPopped, Option.some.injEq] at taken
      exact taken ▸ bookedAfter
  | ack payload =>
    obtain ⟨keys, acked, bookedAfter⟩ := booked.ack separate keeps
    simp only [Books.step?, acked, Option.some.injEq] at taken
    exact taken ▸ bookedAfter
  | release uuid now later delay payload =>
    obtain ⟨isHeld, fresh, isSome, readsBack⟩ := keeps
    obtain ⟨next, isNext⟩ := Option.isSome_iff_exists.mp isSome
    obtain ⟨keys, released, bookedAfter⟩ :=
      booked.release separate later isHeld fresh isNext (readsBack next isNext)
    simp only [Books.step?, released, isNext, Option.some.injEq] at taken
    exact taken ▸ bookedAfter
  | deadLetter failed =>
    obtain ⟨named, notHeld, finished⟩ := keeps
    obtain ⟨keys, lettered, bookedAfter⟩ := booked.deadLetter separate letter named finished
    simp only [Books.step?, lettered, Option.some.injEq, erase_of_not_mem notHeld] at taken
    exact taken ▸ bookedAfter

end Steps

/-! ## Sizes -/

theorem sizes_of_booked {books : Books Json}
    (booked : Booked codec keyPrefix names books) {queue : String}
    (named : names queue) (now : Instant) :
    ∃ due late entries, pendingSize keyPrefix queue now books.keys = (.ok due, books.keys) ∧
      delayedSize keyPrefix queue now books.keys = (.ok late, books.keys) ∧
      sortedAt? (delayedKey keyPrefix queue) books.keys = some entries ∧
      due + late = (onQueue queue books.waiting).length +
          entries.countP fun entry => entry.2 = timestamp now := by
  obtain ⟨shelf, shown, waiting, held⟩ := booked.shelves queue named
  obtain ⟨entries, isRead, members⟩ := shown.parked
  have parkedCount : entries.length = shelf.parked.length := by simpa using members.length_eq
  have waitingCount :
      (onQueue queue books.waiting).length = shelf.listed.length + shelf.parked.length := by
    simpa using waiting.length_eq
  have boundary := countP_boundary entries (timestamp now)
  refine
    ⟨entries.countP (fun entry => entry.2 ≤ timestamp now) + shelf.listed.length,
      entries.countP (fun entry => timestamp now ≤ entry.2), entries,
      ?_, ?_, isRead, ?_⟩
  · simp [pendingSize, zcountUpTo, isRead, command, llen, shown.listed]
  · simp [delayedSize, zcountFrom, isRead, command]
  · omega

/--
The unfinished jobs are booked, an `ack` removes exactly the member of its
job, and the sizes add up to the waiting jobs exactly when no delayed job
becomes due in the second of the reading.
-/
structure Balanced [DecidableEq Json]
    (codec : TextForm (JobPayload Json) String) (keyPrefix : String) (names : String → Prop)
    (books : Books Json) : Prop where
  booked : Booked codec keyPrefix names books
  removes : ∀ job ∈ books.held, ∃ keys, ack codec keyPrefix job books.keys = (.ok (), keys) ∧
          HasMembers (reservedKey keyPrefix job.queue) keys
            ((onQueue job.queue (books.held.erase job)).map codec.encode)
  sizes : ∀ queue, names queue → ∀ now, ∃ due late entries,
          pendingSize keyPrefix queue now books.keys = (.ok due, books.keys) ∧
            delayedSize keyPrefix queue now books.keys = (.ok late, books.keys) ∧
            sortedAt? (delayedKey keyPrefix queue) books.keys = some entries ∧
            (due + late = (onQueue queue books.waiting).length ↔
              ∀ entry ∈ entries, entry.2 ≠ timestamp now)

/-- Along calls that keep the books, the books are balanced. -/
theorem books_balanced [DecidableEq Json] (codec : TextForm (JobPayload Json) String)
    (keyPrefix : String) (letter : FailedJob Json → String) {names : String → Prop}
    (separate : Separate names) {books : Books Json}
    (reached : ReachableAlong (Books.step? codec keyPrefix letter) (KeepsBooks codec names)
      .empty books) :
    Balanced codec keyPrefix names books := by
  have booked : Booked codec keyPrefix names books := by
    apply reached.invariant (Booked codec keyPrefix names)
    · refine ⟨?_, ?_, ?_, [], rfl⟩
      · exact fun queue _ =>
          ⟨⟨[], [], []⟩,
            ⟨rfl, ⟨[], rfl, .refl _⟩, ⟨[], rfl, .refl _⟩, ⟨[], rfl, .refl _⟩⟩, .refl _, .refl _⟩
      · simp [Books.ids, Books.empty]
      · simp [Books.empty]
    · intro before operation after holds keeps taken
      exact holds.step separate keeps taken
  refine ⟨booked, ?_, ?_⟩
  · intro job isHeld
    obtain ⟨keys, acked, bookedAfter⟩ := booked.ack separate isHeld
    have named := (booked.tracked job (mem_append_right _ isHeld)).2
    obtain ⟨shelf, shown, -, held⟩ := bookedAfter.shelves job.queue named
    exact ⟨keys, acked, shown.held.perm (held.symm.map codec.encode)⟩
  · intro queue named now
    obtain ⟨due, late, entries, pendingRead, delayedRead, isRead, count⟩ :=
      sizes_of_booked booked named now
    refine ⟨due, late, entries, pendingRead, delayedRead, isRead, ?_⟩
    rw [count, Nat.add_eq_left]
    simp

/-! ## Runs -/

/-- Envelopes are written field by field, the body last. -/
def payloadCodec {Json : Type} (body : PrefixCodec Json) : Codec (JobPayload Json) String :=
  PrefixCodec.toCodec (PrefixCodec.imap
      (.pair .string (.pair .string (.pair (.option .int)
        (.pair (.fin 4294967296) (.pair (.option .string)
          (.pair (.option .string) (.pair (.option .string) body)))))))
      (fun payload : JobPayload Json =>
        (payload.queue, payload.connection, payload.availableAt,
          payload.attempts, payload.id, payload.job, payload.batchId, payload.payload))
      (fun (queue, connection, availableAt, attempts, id, job, batchId, payload) =>
        some
          { queue := queue
            connection := connection
            availableAt := availableAt
            attempts := attempts
            id := id
            job := job
            batchId := batchId
            payload := payload })
      (fun _ => rfl))

def mailJob : JobPayload String := .new "mail" "redis" none "null"

/--
Bodies are numbers by their shortest decimal.  `serde_json` without its
`float_roundtrip` reads the second neighbour below 15.3 as 15.3.
-/
def numberForm : TextForm (JobPayload String) String where
  encode := (payloadCodec .string).encode
  decode text :=
    ((payloadCodec .string).decode text).map fun envelope =>
      if envelope.payload = "15.299999999999999" then { envelope with payload := "15.3" }
      else envelope

/-- The calls of a run over one queue: two jobs, a retry and a dead letter. -/
def mailCalls : List (Operation String) :=
  [.push "a" 0 mailJob, .push "b" 0 { mailJob with availableAt := some 10500000000 }, .pop "mail" 0,
    .release "c" 1 2 30000000000 { mailJob with id := some "a" }, .pop "mail" 11000000000,
    .ack { mailJob with availableAt := some 10500000000, id := some "b" }, .deadLetter
      { id := "d"
        connection := "redis"
        queue := "mail"
        payload :=
          { mailJob with availableAt := some 10500000000, id := some "b" }
        exception := "boom"
        failedAt := 12000000000 }]

private theorem separate_mail : Separate (· = "mail") := by
  refine ⟨?_, by decide⟩
  rintro first second rfl rfl
  decide

set_option maxRecDepth 2000 in
theorem books_balanced_mail :
    ∃ books,
      runAlong? (Books.step? numberForm "queue:" fun _ => "letter")
          (KeepsBooks numberForm (· = "mail")) .empty mailCalls = some books ∧
        books.waiting.map JobPayload.id = [some "c"] ∧
        Balanced numberForm "queue:" (· = "mail") books :=
  ⟨_, rfl, by decide, books_balanced numberForm "queue:" (fun _ => "letter")
      separate_mail
      (reachableAlong_of_runAlong? .start (show
          runAlong? (Books.step? numberForm "queue:" fun _ => "letter")
              (KeepsBooks numberForm (· = "mail")) .empty mailCalls =
            some _ from rfl))⟩

/--
A dead letter of a held job leaves its reservation, a delayed job that becomes
due in the second of the reading is counted as pending and delayed, and an
`ack` of a popped number that was read as its neighbour removes nothing.
-/
theorem books_unbalanced :
    (∃ books : Books String, run? (Books.step? numberForm "queue:" fun _ => "letter") .empty
          [.push "a" 0 mailJob, .pop "mail" 0, .deadLetter
              { id := "d"
                connection := "redis"
                queue := "mail"
                payload := { mailJob with id := some "a" }
                exception := "boom"
                failedAt := 1 }] =
        some books ∧
      books.held = [] ∧
      reservedSize "queue:" "mail" books.keys = (.ok 1, books.keys)) ∧
    (∃ books : Books String, run? (Books.step? numberForm "queue:" fun _ => "letter") .empty
          [.push "a" 0 { mailJob with availableAt := some 10000000000 }] =
        some books ∧
      books.waiting.length = 1 ∧
      pendingSize "queue:" "mail" 10000000000 books.keys = (.ok 1, books.keys) ∧
      delayedSize "queue:" "mail" 10000000000 books.keys = (.ok 1, books.keys)) ∧
    ∃ books : Books String, run? (Books.step? numberForm "queue:" fun _ => "letter") .empty
          [.push "a" 0 { mailJob with payload := "15.299999999999999" }, .pop "mail" 0,
            .ack { mailJob with id := some "a", payload := "15.3" }] =
        some books ∧
      books.held = [] ∧
      reservedSize "queue:" "mail" books.keys = (.ok 1, books.keys) :=
  ⟨⟨_, rfl, by decide, rfl⟩, ⟨_, rfl, by decide, rfl, rfl⟩, ⟨_, rfl, by decide, rfl⟩⟩

end Rustasea.Queue.RedisDriver
