import Rustasea.Queue.DriverCalls
import Rustasea.Queue.RedisBookkeeping

namespace Rustasea.Queue.RedisDriver

open DelayedQueue Redis List

/-!
# The redis driver as a delayed multi-queue

Any queue names are allowed here: the list of one queue may have the key of
another queue's sorted set, and the commands on it may fail.  What a queue's
list and delayed set hold are jobs that wait under its name, and a job on the
list is due by the second of the clock.
-/

variable {Json : Type}

/-- The redis driver; a failed method has run its commands up to the failure. -/
def stored (codec : Codec (JobPayload Json) String)
    (keyPrefix : String) : StoredQueue Json Unit Keyspace where
  push := fun uuid now payload keys => (push codec keyPrefix uuid now payload keys).2
  pop := fun queue now _ keys =>
    let outcome := pop codec keyPrefix queue now keys
    (outcome.1.toOption.join, outcome.2)

def noKeys : Keyspace := fun _ => none

/-! ## Keys of different queues -/

theorem listKey_injective {keyPrefix first second : String}
    (same : listKey keyPrefix first = listKey keyPrefix second) : first = second :=
  (String.append_right_inj _).mp same

theorem delayedKey_injective {keyPrefix first second : String}
    (same : delayedKey keyPrefix first = delayedKey keyPrefix second) : first = second :=
  (String.append_right_inj _).mp ((String.append_left_inj _).mp same)

theorem reservedKey_ne_delayedKey (keyPrefix first second : String) :
    reservedKey keyPrefix first ≠ delayedKey keyPrefix second :=
  append_ne_append _ _ (by decide)

theorem pendingTimesKey_ne_delayedKey (keyPrefix first second : String) :
    pendingTimesKey keyPrefix first ≠ delayedKey keyPrefix second :=
  append_ne_append _ _ (by decide)

/-! ## What the keys hold -/

def bodyEntry (codec : Codec (JobPayload Json) String) (body : String) :
    Option (Entry String (Option Instant) (JobPayload Json)) :=
  (codec.decode body).toOption.map JobPayload.entry

def bodies (keyPrefix queue : String) (keys : Keyspace) : List String :=
  itemsAt (listKey keyPrefix queue) keys ++
    (entriesAt (delayedKey keyPrefix queue) keys).map Prod.fst

def waitingOn (queue : String) (waiting : List (Entry String (Option Instant) (JobPayload Json))) :
    List (Entry String (Option Instant) (JobPayload Json)) :=
  waiting.filter fun entry => entry.queue = queue

def DueBy (clock : Instant) (entry : Entry String (Option Instant) (JobPayload Json)) : Prop :=
  ∀ instant ∈ entry.due, timestamp instant ≤ timestamp clock

/--
What the keys of every queue hold are jobs that wait under its name; those on
the list are due, and those on the delayed set are scored by their seconds.
-/
structure Holds (codec : Codec (JobPayload Json) String) (keyPrefix : String)
    (clock : Instant) (keys : Keyspace)
    (waiting : List (Entry String (Option Instant) (JobPayload Json))) :
    Prop where
  covered : ∀ queue, ((bodies keyPrefix queue keys).map (bodyEntry codec)).Subperm
        ((waitingOn queue waiting).map some)
  due : ∀ queue, ∀ body ∈ itemsAt (listKey keyPrefix queue) keys,
      ∀ entry, bodyEntry codec body = some entry → DueBy clock entry
  scored : ∀ queue, ∀ member score, (member, score) ∈ entriesAt (delayedKey keyPrefix queue) keys →
        ∀ entry, bodyEntry codec member = some entry →
          ∃ instant, entry.due = some instant ∧ timestamp instant = score

section Keeping

variable {codec : Codec (JobPayload Json) String} {keyPrefix : String} {clock : Instant}
  {keys after : Keyspace} {waiting : List (Entry String (Option Instant) (JobPayload Json))}

theorem holds_noKeys (codec : Codec (JobPayload Json) String) (keyPrefix : String)
    (clock : Instant) : Holds codec keyPrefix clock noKeys [] where
  covered := fun _ => nil_subperm
  due := fun _ _ isIn => absurd isIn not_mem_nil
  scored := fun _ _ _ isIn => absurd isIn not_mem_nil

theorem Holds.later (holds : Holds codec keyPrefix clock keys waiting) {now : Instant}
    (isLater : clock ≤ now) : Holds codec keyPrefix now keys waiting where
  covered := holds.covered
  due := fun queue body isIn entry isEntry instant isDue =>
    le_trans (holds.due queue body isIn entry isEntry instant isDue)
      (Int.ediv_le_ediv (by decide) isLater)
  scored := holds.scored

theorem Holds.more (holds : Holds codec keyPrefix clock keys waiting)
    {others : List (Entry String (Option Instant) (JobPayload Json))}
    (isMore : waiting.Subperm others) : Holds codec keyPrefix clock keys others where
  covered := fun queue => (holds.covered queue).trans (subperm_map some (isMore.filter _))
  due := holds.due
  scored := holds.scored

theorem Holds.fewer (holds : Holds codec keyPrefix clock keys waiting) (items :
      ∀ queue, itemsAt (listKey keyPrefix queue) after = itemsAt (listKey keyPrefix queue) keys)
    (entries : ∀ queue, (entriesAt (delayedKey keyPrefix queue) after).Sublist
      (entriesAt (delayedKey keyPrefix queue) keys)) :
    Holds codec keyPrefix clock after waiting where
  covered := by
    intro queue
    refine List.Subperm.trans ?_ (holds.covered queue)
    refine (List.Sublist.map _ ?_).subperm
    unfold bodies
    rw [items queue]
    exact (List.Sublist.refl _).append ((entries queue).map _)
  due := by
    intro queue body isIn
    rw [items queue] at isIn
    exact holds.due queue body isIn
  scored := fun queue member score isIn =>
    holds.scored queue member score ((entries queue).subset isIn)

theorem Holds.changes_other (holds : Holds codec keyPrefix clock keys waiting) {key : String}
    (changes : Changes none (some key) keys after)
    (isOther : ∀ queue, key ≠ delayedKey keyPrefix queue) :
    Holds codec keyPrefix clock after waiting := by
  refine holds.fewer (fun queue => changes.items _ (by simp)) fun queue => ?_
  rw [changes.entries _ fun same => isOther queue (Option.some.inj same).symm]

/-! ## Commands on the keys of a queue -/

variable {queue body : String} {entry : Entry String (Option Instant) (JobPayload Json)}

theorem kept_of_list (changes : Changes (some (listKey keyPrefix queue)) none keys after) :
    (∀ other, entriesAt (delayedKey keyPrefix other) after =
      entriesAt (delayedKey keyPrefix other) keys) ∧
    ∀ {other}, other ≠ queue →
      itemsAt (listKey keyPrefix other) after = itemsAt (listKey keyPrefix other) keys :=
  ⟨fun _ => changes.entries _ (by simp),
    fun ne => changes.items _ fun same => ne (listKey_injective (Option.some.inj same))⟩

theorem kept_of_delayed (changes : Changes none (some (delayedKey keyPrefix queue)) keys after) :
    (∀ other, itemsAt (listKey keyPrefix other) after =
      itemsAt (listKey keyPrefix other) keys) ∧
    ∀ {other}, other ≠ queue →
      entriesAt (delayedKey keyPrefix other) after = entriesAt (delayedKey keyPrefix other) keys :=
  ⟨fun _ => changes.items _ (by simp),
    fun ne => changes.entries _ fun same => ne (delayedKey_injective (Option.some.inj same))⟩

theorem Holds.lpush (holds : Holds codec keyPrefix clock keys waiting)
    (pushed : Redis.lpush (listKey keyPrefix queue) body keys = some after)
    (isEntry : bodyEntry codec body = some entry) (isQueue : entry.queue = queue)
    (isDue : DueBy clock entry) : Holds codec keyPrefix clock after (entry :: waiting) := by
  obtain ⟨changes, items⟩ := changes_lpush pushed
  obtain ⟨sameEntries, otherItems⟩ := kept_of_list changes
  refine ⟨fun other => ?_, fun other stored isIn => ?_, fun other => ?_⟩
  · unfold bodies
    rw [sameEntries]
    by_cases same : other = queue
    · subst same
      rw [items, waitingOn, filter_cons_of_pos (by simpa using isQueue)]
      show (bodyEntry codec body :: _).Subperm (some entry :: _)
      rw [isEntry]
      exact (subperm_cons _).mpr (holds.covered other)
    · rw [otherItems same, waitingOn, filter_cons_of_neg
        (by simpa [isQueue] using fun isOther => same isOther.symm)]
      exact holds.covered other
  · by_cases same : other = queue
    · subst same
      rw [items] at isIn
      rcases mem_cons.mp isIn with rfl | wasIn
      · intro other isOther
        rw [isEntry] at isOther
        cases isOther
        exact isDue
      · exact holds.due other stored wasIn
    · rw [otherItems same] at isIn
      exact holds.due other stored isIn
  · rw [sameEntries]
    exact holds.scored other

variable {score : Int}

/-- `ZADD` of the body of a job, scored by the second at which it is due. -/
theorem Holds.zadd (holds : Holds codec keyPrefix clock keys waiting)
    (added : Redis.zadd (delayedKey keyPrefix queue) body score keys = some after)
    (isEntry : bodyEntry codec body = some entry) (isQueue : entry.queue = queue)
    {instant : Instant} (isDue : entry.due = some instant) (isScore : timestamp instant = score) :
    Holds codec keyPrefix clock after (entry :: waiting) := by
  obtain ⟨changes, entries⟩ := changes_zadd added
  obtain ⟨sameItems, otherEntries⟩ := kept_of_delayed changes
  have isLess : (withoutMember body (entriesAt (delayedKey keyPrefix queue) keys)).Sublist
      (entriesAt (delayedKey keyPrefix queue) keys) :=
    filter_sublist
  refine ⟨fun other => ?_, fun other stored isIn => ?_, fun other member otherScore isIn => ?_⟩
  · unfold bodies
    rw [sameItems]
    by_cases same : other = queue
    · subst same
      rw [waitingOn, filter_cons_of_pos (by simpa using isQueue), map_cons, ← isEntry]
      have isPerm := ((entries.map Prod.fst).append_left
          (itemsAt (listKey keyPrefix other) keys)).trans perm_middle
      refine (isPerm.map (bodyEntry codec)).subperm.trans ?_
      refine (subperm_cons _).mpr ?_
      refine List.Subperm.trans ?_ (holds.covered other)
      refine (List.Sublist.map _ ?_).subperm
      exact (List.Sublist.refl _).append (isLess.map _)
    · rw [otherEntries same, waitingOn, filter_cons_of_neg
        (by simpa [isQueue] using fun isOther => same isOther.symm)]
      exact holds.covered other
  · rw [sameItems] at isIn
    exact holds.due other stored isIn
  · by_cases same : other = queue
    · subst same
      rcases mem_cons.mp (entries.subset isIn) with isNew | wasIn
      · cases isNew
        intro other isOther
        rw [isEntry] at isOther
        cases isOther
        exact ⟨instant, isDue, isScore⟩
      · exact holds.scored other member otherScore (isLess.subset wasIn)
    · rw [otherEntries same] at isIn
      exact holds.scored other member otherScore isIn

theorem Holds.without (holds : Holds codec keyPrefix clock keys waiting)
    (less : (body :: bodies keyPrefix queue after).Subperm (bodies keyPrefix queue keys))
    (others : ∀ other, other ≠ queue → bodies keyPrefix other after = bodies keyPrefix other keys) :
    ∃ entry rest, bodyEntry codec body = some entry ∧ entry.queue = queue ∧
      (entry :: rest).Perm waiting ∧
      ∀ other, ((bodies keyPrefix other after).map (bodyEntry codec)).Subperm
          ((waitingOn other rest).map some) := by
  have isCovered := (subperm_map (bodyEntry codec) less).trans (holds.covered queue)
  obtain ⟨entry, isWaiting, isEntry⟩ := mem_map.mp (isCovered.subset mem_cons_self)
  obtain ⟨isIn, isQueue⟩ := mem_filter.mp isWaiting
  have isQueue : entry.queue = queue := by simpa using isQueue
  obtain ⟨before, behind, rfl⟩ := append_of_mem isIn
  refine ⟨entry, before ++ behind, isEntry.symm, isQueue, perm_middle.symm, fun other => ?_⟩
  have isPerm : (waitingOn other (before ++ entry :: behind)).Perm
      (waitingOn other (entry :: (before ++ behind))) :=
    perm_middle.filter _
  by_cases same : other = queue
  · subst same
    rw [map_cons, ← isEntry] at isCovered
    have onQueue := isCovered.trans (isPerm.map some).subperm
    rw [waitingOn, filter_cons_of_pos (by simpa using isQueue)] at onQueue
    exact (subperm_cons _).mp onQueue
  · rw [others other same]
    refine (holds.covered other).trans ?_
    have onOther := (isPerm.map some).subperm
    rw [waitingOn, waitingOn, filter_cons_of_neg
      (by simpa [isQueue] using fun isOther => same isOther.symm)] at onOther
    exact onOther

theorem Holds.zrem (holds : Holds codec keyPrefix clock keys waiting) {removed : Nat}
    (isRemoved : Redis.zrem (delayedKey keyPrefix queue) body keys = some (removed, after))
    (isThere : 0 < removed) :
    ∃ entry rest, bodyEntry codec body = some entry ∧ entry.queue = queue ∧
      (entry :: rest).Perm waiting ∧ Holds codec keyPrefix clock after rest := by
  obtain ⟨changes, entries, isMember⟩ := changes_zrem isRemoved
  obtain ⟨sameItems, otherEntries⟩ := kept_of_delayed changes
  have less : (body :: bodies keyPrefix queue after).Subperm (bodies keyPrefix queue keys) := by
    unfold bodies
    rw [sameItems, entries, map_fst_withoutMember]
    refine perm_middle.symm.subperm.trans ?_
    refine (subperm_append_left _).mpr ?_
    exact subperm_cons_filter _ (isMember isThere) (by simp)
  obtain ⟨entry, rest, isEntry, isQueue, isWaiting, covered⟩ :=
    holds.without less fun other ne => by
      unfold bodies
      rw [sameItems, otherEntries ne]
  refine ⟨entry, rest, isEntry, isQueue, isWaiting, covered, ?_, ?_⟩
  · intro other stored isIn
    rw [sameItems] at isIn
    exact holds.due other stored isIn
  · intro other member score isIn
    by_cases same : other = queue
    · subst same
      rw [entries] at isIn
      exact holds.scored other member score (mem_of_mem_filter isIn)
    · rw [otherEntries same] at isIn
      exact holds.scored other member score isIn

theorem Holds.rpop (holds : Holds codec keyPrefix clock keys waiting)
    (popped : Redis.rpop (listKey keyPrefix queue) keys = some (some body, after)) :
    ∃ entry rest, bodyEntry codec body = some entry ∧ entry.queue = queue ∧ DueBy clock entry ∧
      (entry :: rest).Perm waiting ∧ Holds codec keyPrefix clock after rest := by
  obtain ⟨changes, items⟩ := changes_rpop popped
  obtain ⟨sameEntries, otherItems⟩ := kept_of_list changes
  have less : (body :: bodies keyPrefix queue after).Subperm (bodies keyPrefix queue keys) := by
    unfold bodies
    rw [sameEntries, items, append_assoc]
    exact perm_middle.symm.subperm
  obtain ⟨entry, rest, isEntry, isQueue, isWaiting, covered⟩ :=
    holds.without less fun other ne => by
      unfold bodies
      rw [sameEntries, otherItems ne]
  have isListed : body ∈ itemsAt (listKey keyPrefix queue) keys := by
    rw [items]
    exact mem_append_right _ (mem_singleton_self body)
  refine ⟨entry, rest, isEntry, isQueue,
    holds.due queue body isListed entry isEntry, isWaiting, covered, ?_, ?_⟩
  · intro other stored isIn
    by_cases same : other = queue
    · subst same
      refine holds.due other stored ?_
      rw [items]
      exact mem_append_left _ isIn
    · rw [otherItems same] at isIn
      exact holds.due other stored isIn
  · intro other
    rw [sameEntries]
    exact holds.scored other

/-! ## Methods -/

theorem Holds.zadd_pendingTimes
    (holds : Holds codec keyPrefix clock keys waiting) {queue member : String}
    (added : Redis.zadd (pendingTimesKey keyPrefix queue) member score keys = some after) :
    Holds codec keyPrefix clock after waiting :=
  holds.changes_other (changes_zadd added).1 (pendingTimesKey_ne_delayedKey keyPrefix queue)

def DueBody (codec : Codec (JobPayload Json) String) (clock : Instant) (body : String) : Prop :=
  ∀ entry, bodyEntry codec body = some entry → DueBy clock entry

theorem Holds.promoteMember (holds : Holds codec keyPrefix clock keys waiting) (queue : String)
    {member : String} (isDue : DueBody codec clock member) :
    Holds codec keyPrefix clock
      (promoteMember codec.toTextForm keyPrefix queue clock member keys).2 waiting := by
  unfold RedisDriver.promoteMember command
  cases removing : Redis.zrem (delayedKey keyPrefix queue) member keys with
  | none => exact holds
  | some outcome =>
    obtain ⟨removed, between⟩ := outcome
    by_cases isThere : 0 < removed
    · obtain ⟨entry, rest, isEntry, isQueue, isWaiting, holdsRest⟩ := holds.zrem removing isThere
      simp only [if_pos isThere]
      have holdsLess : Holds codec keyPrefix clock between waiting :=
        holdsRest.more ((sublist_cons_self entry rest).subperm.trans isWaiting.subperm)
      cases pushing : Redis.lpush (listKey keyPrefix queue) member between with
      | none => exact holdsLess
      | some pushed =>
        have holdsPushed : Holds codec keyPrefix clock pushed waiting :=
          (holdsRest.lpush pushing isEntry isQueue (isDue entry isEntry)).more isWaiting.subperm
        simp only
        cases codec.decode member with
        | error message => exact holdsPushed
        | ok payload =>
          simp only
          cases payload.id with
          | none => exact holdsPushed
          | some id =>
            simp only
            cases adding :
                Redis.zadd (pendingTimesKey keyPrefix queue) id (timestampMillis clock) pushed with
            | none => exact holdsPushed
            | some timed => exact holdsPushed.zadd_pendingTimes adding
    · simp only [if_neg isThere]
      obtain ⟨changes, entries, -⟩ := changes_zrem removing
      refine holds.fewer (fun other => changes.items _ (by simp)) fun other => ?_
      by_cases same : other = queue
      · subst same
        rw [entries]
        exact filter_sublist
      · rw [changes.entries _ fun sameKey => same (delayedKey_injective (Option.some.inj sameKey))]

theorem Holds.promoteMembers (holds : Holds codec keyPrefix clock keys waiting) (queue : String)
    {members : List String} (areDue : ∀ member ∈ members, DueBody codec clock member) :
    Holds codec keyPrefix clock
      (promoteMembers codec.toTextForm keyPrefix queue clock members keys).2 waiting := by
  induction members generalizing keys with
  | nil => exact holds
  | cons member rest ih =>
    have first := holds.promoteMember queue (areDue member mem_cons_self)
    unfold RedisDriver.promoteMembers andThen
    revert first
    rcases RedisDriver.promoteMember codec.toTextForm keyPrefix queue clock member keys
      with ⟨failure | _, between⟩
    · exact id
    · intro first
      exact ih first fun other isIn => areDue other (mem_cons_of_mem _ isIn)

theorem Holds.promoteDue (holds : Holds codec keyPrefix clock keys waiting) (queue : String) :
    Holds codec keyPrefix clock
      (promoteDue codec.toTextForm keyPrefix queue clock keys).2 waiting := by
  unfold RedisDriver.promoteDue command zrangeByScore
  cases isRead : sortedAt? (delayedKey keyPrefix queue) keys with
  | none => exact holds
  | some entries =>
    refine holds.promoteMembers queue fun member isDue entry isEntry => ?_
    obtain ⟨⟨same, score⟩, isIn, rfl⟩ := mem_map.mp isDue
    obtain ⟨isHere, isLow⟩ := mem_filter.mp isIn
    have isStored : (same, score) ∈ entriesAt (delayedKey keyPrefix queue) keys := by
      rw [entriesAt, isRead]
      exact isHere
    obtain ⟨instant, isInstant, isScore⟩ := holds.scored queue same score isStored entry isEntry
    intro other isOther
    rw [isInstant] at isOther
    cases isOther
    rw [isScore]
    simpa using isLow

theorem bodyEntry_push (codec : Codec (JobPayload Json) String) (uuid : String)
    (payload : JobPayload Json) :
    bodyEntry codec (codec.encode (withId uuid payload)) = some payload.entry := by
  unfold bodyEntry
  rw [codec.decode_encode]
  rfl

theorem Holds.push (holds : Holds codec keyPrefix clock keys waiting) (uuid : String)
    (payload : JobPayload Json) :
    Holds codec keyPrefix clock
      (push codec keyPrefix uuid clock payload keys).2 (payload.entry :: waiting) := by
  have isMore : Holds codec keyPrefix clock keys (payload.entry :: waiting) :=
    holds.more (sublist_cons_self _ _).subperm
  have isEntry := bodyEntry_push codec uuid payload
  unfold RedisDriver.push command
  cases isDelayed : delayed clock (withId uuid payload) with
  | some instant =>
    have isAvailable : payload.availableAt = some instant :=
      (Option.filter_eq_some_iff.mp isDelayed).1
    simp only [isDelayed]
    cases adding : Redis.zadd (delayedKey keyPrefix (withId uuid payload).queue)
          (codec.encode (withId uuid payload)) (timestamp instant) keys with
    | none => exact isMore
    | some added => exact holds.zadd adding isEntry rfl isAvailable rfl
  | none =>
    have isDue : DueBy clock payload.entry := by
      intro instant isInstant
      have notLater := Option.filter_eq_none_iff.mp isDelayed instant isInstant
      refine Int.ediv_le_ediv (by decide) ?_
      simpa using notLater
    simp only [isDelayed]
    cases pushing : Redis.lpush (listKey keyPrefix (withId uuid payload).queue)
          (codec.encode (withId uuid payload)) keys with
    | none => exact isMore
    | some pushed =>
      have holdsPushed := holds.lpush pushing isEntry rfl isDue
      simp only
      cases adding : Redis.zadd (pendingTimesKey keyPrefix (withId uuid payload).queue)
            ((withId uuid payload).id.getD uuid) (timestampMillis clock)
            pushed with
      | none => exact holdsPushed
      | some timed => exact holdsPushed.zadd_pendingTimes adding

theorem Holds.forgetPendingTime (holds : Holds codec keyPrefix clock keys waiting) (queue : String)
    (id : Option String) :
    Holds codec keyPrefix clock (forgetPendingTime keyPrefix queue id keys).2 waiting := by
  unfold RedisDriver.forgetPendingTime command
  cases id with
  | none => exact holds
  | some id =>
    simp only
    cases removing : Redis.zrem (pendingTimesKey keyPrefix queue) id keys with
    | none => exact holds
    | some outcome =>
      exact holds.changes_other (changes_zrem removing).1
        (pendingTimesKey_ne_delayedKey keyPrefix queue)

/--
A pop that hands out a payload takes a job that waits under the queue's name and
is due; another one may lose a job, and takes none.
-/
theorem Holds.pop (holds : Holds codec keyPrefix clock keys waiting) (queue : String) :
    (∀ payload, (pop codec keyPrefix queue clock keys).1 = .ok (some payload) →
      ∃ entry rest, entry.job = payload.withoutId ∧ (entry :: rest).Perm waiting ∧
        entry.queue = queue ∧ DueBy clock entry ∧
        Holds codec keyPrefix clock (pop codec.toTextForm keyPrefix queue clock keys).2 rest) ∧
      Holds codec keyPrefix clock (pop codec.toTextForm keyPrefix queue clock keys).2 waiting := by
  have promoted := holds.promoteDue queue
  unfold RedisDriver.pop andThen command
  revert promoted
  rcases RedisDriver.promoteDue codec.toTextForm keyPrefix queue clock keys with
    ⟨failure | _, between⟩
  · exact fun promoted => ⟨fun _ handed => (by cases handed), promoted⟩
  intro promoted
  simp only
  cases popping : Redis.rpop (listKey keyPrefix queue) between with
  | none => exact ⟨fun _ handed => (by cases handed), promoted⟩
  | some outcome =>
    obtain ⟨_ | body, popped⟩ := outcome
    · refine ⟨fun _ handed => (by cases handed), ?_⟩
      obtain ⟨changes, items⟩ := changes_rpop popping
      rw [Option.toList_none, append_nil] at items
      refine promoted.fewer (fun other => ?_) fun other => ?_
      · by_cases same : other = queue
        · rw [same, items]
        · exact changes.items _ fun sameKey => same (listKey_injective (Option.some.inj sameKey))
      · rw [changes.entries _ (by simp)]
    · obtain ⟨entry, rest, isEntry, isQueue, isDue, isWaiting, holdsRest⟩ := promoted.rpop popping
      have isLess : rest.Subperm waiting :=
        (sublist_cons_self entry rest).subperm.trans isWaiting.subperm
      simp only
      cases decoded : codec.decode body with
      | error message => exact ⟨fun _ handed => (by cases handed), holdsRest.more isLess⟩
      | ok payload =>
        have isJob : entry.job = payload.withoutId := by
          unfold bodyEntry at isEntry
          rw [decoded] at isEntry
          cases isEntry
          rfl
        have forgot := holdsRest.forgetPendingTime queue payload.id
        simp only
        revert forgot
        rcases RedisDriver.forgetPendingTime keyPrefix queue payload.id
          popped with ⟨failure | _, forgotten⟩
        · exact fun forgot => ⟨fun _ handed => (by cases handed), forgot.more isLess⟩
        intro forgot
        simp only
        cases adding : Redis.zadd (reservedKey keyPrefix queue) body
              (timestamp (clock + reservationTtl)) forgotten with
        | none => exact ⟨fun _ handed => (by cases handed), forgot.more isLess⟩
        | some reserved =>
          have holdsReserved := forgot.changes_other (changes_zadd adding).1
              (reservedKey_ne_delayedKey keyPrefix queue)
          refine ⟨fun handed isHanded => ?_, holdsReserved.more isLess⟩
          cases isHanded
          exact ⟨entry, rest, isJob, isWaiting, isQueue, isDue, holdsReserved⟩

end Keeping

theorem accepts_seconds (codec : Codec (JobPayload Json) String) (keyPrefix : String)
    {calls : List (DriverCall Json Unit)} (inOrder : InOrder calls) :
    Accepts (keptApart String timestamp) ((stored codec keyPrefix).history noKeys calls) := by
  have always : ∀ call ∈ calls, (fun _ => True) call := fun _ _ => trivial
  refine accepts_history DriverCall.now (Holds codec keyPrefix) ?_
    (holds_noKeys codec keyPrefix) inOrder always
  rintro clock keys waiting call holds isLater -
  have holds := holds.later isLater
  cases call with
  | push uuid now payload =>
    exact ⟨_, Run.single (.put waiting payload.entry), holds.push uuid payload⟩
  | pop queue now fault =>
    obtain ⟨hands, keeps⟩ := holds.pop queue
    refine StoredQueue.run_pop (fun payload popped => ?_) fun _ => keeps
    obtain ⟨entry, rest, isJob, isWaiting, isQueue, isDue, holdsRest⟩ :=
      hands payload (eq_ok_of_join popped)
    exact ⟨entry, rest, isJob, isWaiting, isQueue.symm, isDue, holdsRest⟩

end Rustasea.Queue.RedisDriver
