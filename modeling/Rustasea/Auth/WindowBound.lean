import Mathlib.Data.Finset.Card
import Rustasea.Auth.RateLimiter

namespace Rustasea.Auth

open List

/-!
# How many hits a window allows

A bucket keeps its window as long as fewer other buckets than the cap are hit
in it, because the cap evicts the bucket with the lowest sequence number and
every hit that opens or restarts a window takes a new one.
-/

/-- One call of `hit`, with the instant of the clock it reads. -/
structure Hit where
  now : Nat
  key : String
  limit : Limit

def Hit.bucket (hit : Hit) : String := bucketKey hit.key hit.limit

def Hit.countsFor (bucket : String) (most : Nat) (hit : Hit) : Bool :=
  hit.bucket = bucket ∧ hit.limit.maxAttempts.toNat ≤ most

namespace MemoryRateLimiter

def decision (limiter : MemoryRateLimiter) (hit : Hit) : ThrottleDecision :=
  (limiter.hit hit.now hit.key hit.limit).1

def after (limiter : MemoryRateLimiter) (hit : Hit) : MemoryRateLimiter :=
  (limiter.hit hit.now hit.key hit.limit).2

def run (limiter : MemoryRateLimiter) (hits : List Hit) : MemoryRateLimiter :=
  hits.foldl after limiter

/-- How many hits of a run that count for a bucket and limit are allowed. -/
@[grind =] def allowedIn (bucket : String) (most : Nat) : MemoryRateLimiter → List Hit → Nat
  | _, [] => 0
  | limiter, hit :: rest =>
    (if hit.countsFor bucket most ∧ (limiter.decision hit).isAllowed then 1
      else 0) + allowedIn bucket most (limiter.after hit) rest

variable {hit : Hit}

theorem after_of_epoch (atEpoch : hit.now = 0) (limiter : MemoryRateLimiter) :
    limiter.after hit = limiter ∧ (limiter.decision hit).isAllowed = false := by
  constructor <;>
    simp [after, decision, MemoryRateLimiter.hit, atEpoch, ThrottleDecision.isAllowed]

/-! ## Sequence numbers -/

/-- Sequence numbers are below the next one, and no two buckets share one. -/
structure Ordered (limiter : MemoryRateLimiter) : Prop where
  below :
    ∀ fullKey bucket, limiter.buckets.lookup fullKey = some bucket → bucket.seq < limiter.nextSeq
  distinct : ∀ fullKey bucket other found,
      limiter.buckets.lookup fullKey = some bucket → limiter.buckets.lookup other = some found →
          bucket.seq = found.seq → fullKey = other

theorem ordered_new : new.Ordered where
  below := by
    intro fullKey bucket found
    cases found
  distinct := by
    intro fullKey bucket other _ found
    cases found

variable {bucket : Bucket} {limiter : MemoryRateLimiter} {fullKey : String}

theorem lookup_after (started : hit.now ≠ 0)
    (found : (limiter.after hit).buckets.lookup fullKey = some bucket) :
    (fullKey = hit.bucket ∧ bucket = limiter.written hit.now hit.key hit.limit) ∨
    (fullKey ≠ hit.bucket ∧ limiter.buckets.lookup fullKey = some bucket) := by
  have inserted : ((limiter.swept hit.now).insert hit.bucket
      (limiter.written hit.now hit.key hit.limit)).lookup fullKey = some bucket := by
    rw [after, buckets_hit started] at found
    split at found
    · exact lookup_enforceCap_some found
    · exact found
  by_cases isHit : fullKey = hit.bucket
  · left
    rw [isHit, AList.lookup_insert, Option.some.injEq] at inserted
    exact ⟨isHit, inserted.symm⟩
  · right
    rw [AList.lookup_insert_ne isHit] at inserted
    exact ⟨isHit, lookup_of_swept inserted⟩

theorem seq_written (limiter : MemoryRateLimiter) (hit : Hit) :
    (limiter.written hit.now hit.key hit.limit).seq = limiter.nextSeq ∨
      ∃ bucket, limiter.buckets.lookup hit.bucket = some bucket ∧
        bucket.seq = (limiter.written hit.now hit.key hit.limit).seq := by
  unfold written counting
  cases isLive : limiter.live hit.now (bucketKey hit.key hit.limit) with
  | none => exact .inl rfl
  | some bucket =>
    rw [live, Option.filter_eq_some_iff] at isLive
    exact .inr ⟨bucket, isLive.1, rfl⟩

theorem Ordered.after (ordered : limiter.Ordered) (hit : Hit) : (limiter.after hit).Ordered := by
  by_cases atEpoch : hit.now = 0
  · rw [(after_of_epoch atEpoch limiter).1]
    exact ordered
  have nextSeq : (limiter.after hit).nextSeq = limiter.nextSeq + 1 :=
    nextSeq_hit atEpoch hit.key hit.limit limiter
  have notShared : ∀ other found, other ≠ hit.bucket → limiter.buckets.lookup other = some found →
      (limiter.written hit.now hit.key hit.limit).seq ≠ found.seq := by
    intro other found isOther isFound same
    rcases seq_written limiter hit with isNew | ⟨bucket, isBucket, hasSeq⟩
    · have below := ordered.below other found isFound
      omega
    · exact isOther
        (ordered.distinct hit.bucket bucket other found isBucket isFound (hasSeq.trans same)).symm
  constructor
  · intro fullKey bucket found
    rcases lookup_after atEpoch found with ⟨-, rfl⟩ | ⟨-, before⟩
    · rcases seq_written limiter hit with isNew | ⟨bucket, isBucket, hasSeq⟩
      · omega
      · have below := ordered.below hit.bucket bucket isBucket
        omega
    · have below := ordered.below fullKey bucket before
      omega
  · intro fullKey bucket other found isBucket isFound same
    rcases lookup_after atEpoch isBucket with ⟨rfl, rfl⟩ | ⟨isOther, before⟩
    · rcases lookup_after atEpoch isFound with ⟨rfl, -⟩ | ⟨isOther, before⟩
      · rfl
      · exact absurd same (notShared other found isOther before)
    · rcases lookup_after atEpoch isFound with ⟨rfl, rfl⟩ | ⟨_, alsoBefore⟩
      · exact absurd same.symm (notShared fullKey bucket isOther before)
      · exact ordered.distinct _ _ _ _ before alsoBefore same

theorem ordered_run (hits : List Hit) : (new.run hits).Ordered := by
  unfold run
  induction hits using List.reverseRecOn with
  | nil => exact ordered_new
  | append_singleton hits hit ih =>
    rw [foldl_append]
    exact ih.after hit

/-! ## The cap -/

theorem length_insert_le (fullKey : String) (bucket : Bucket) (buckets : Buckets) :
    (buckets.insert fullKey bucket).entries.length ≤ buckets.entries.length + 1 := by
  have keys := congrArg List.length (buckets.keys_insert (a := fullKey) (b := bucket))
  have shorter := length_erase_le (a := fullKey) (l := buckets.keys)
  simp only [AList.keys, List.keys, length_map, length_cons] at keys shorter
  omega

variable {buckets : Buckets}

theorem length_insert_of_mem (isKey : buckets.lookup fullKey ≠ none) (bucket : Bucket) :
    (buckets.insert fullKey bucket).entries.length = buckets.entries.length := by
  have isIn : fullKey ∈ buckets.keys := by
    rw [ne_eq, AList.lookup_eq_none, not_not] at isKey
    exact isKey
  have keys := congrArg List.length (buckets.keys_insert (a := fullKey) (b := bucket))
  have shorter := length_erase_of_mem isIn
  have nonempty := length_pos_of_mem isIn
  simp only [AList.keys, List.keys, length_map, length_cons] at keys shorter nonempty
  omega

theorem length_swept_le (now : Nat) (limiter : MemoryRateLimiter) :
    (limiter.swept now).entries.length ≤ limiter.buckets.entries.length := by
  unfold swept
  split
  · exact length_filter_le _ _
  · exact Nat.le_refl _

theorem length_after_le (mayPass : hit.limit.maxAttempts ≠ 0)
    (within : limiter.buckets.entries.length ≤ maxBuckets) :
    (limiter.after hit).buckets.entries.length ≤ maxBuckets := by
  by_cases atEpoch : hit.now = 0
  · rw [(after_of_epoch atEpoch limiter).1]
    exact within
  have sweptWithin := length_swept_le hit.now limiter
  rw [after, buckets_hit atEpoch]
  by_cases isFresh : (limiter.swept hit.now).lookup hit.bucket = none
  · have notLive : limiter.live hit.now hit.bucket = none := by
      by_contra isLive
      obtain ⟨bucket, isBucket⟩ := Option.ne_none_iff_exists'.mp isLive
      rw [swept_of_live isBucket] at isFresh
      cases isFresh
    have isAllowed : (limiter.hit hit.now hit.key hit.limit).1.isAllowed = true := by
      rw [isAllowed_hit atEpoch, counting, ← Hit.bucket, notLive]
      have positive : hit.limit.maxAttempts.toNat ≠ 0 := by
        intro isZero
        exact mayPass (UInt32.toNat_inj.mp isZero)
      simp only [Option.getD_none, decide_eq_true_eq]
      omega
    rw [if_pos ⟨isAllowed, isFresh⟩]
    apply length_enforceCap_le
    have inserted := length_insert_le hit.bucket (limiter.written hit.now hit.key hit.limit)
        (limiter.swept hit.now)
    unfold Hit.bucket at inserted
    omega
  · rw [if_neg (fun both => isFresh both.2)]
    have inserted := length_insert_of_mem isFresh (limiter.written hit.now hit.key hit.limit)
    unfold Hit.bucket at inserted
    omega

theorem length_run_le (hits : List Hit) (mayPass : ∀ hit ∈ hits, hit.limit.maxAttempts ≠ 0) :
    (new.run hits).buckets.entries.length ≤ maxBuckets := by
  unfold run
  induction hits using List.reverseRecOn with
  | nil => exact Nat.zero_le _
  | append_singleton hits hit ih =>
    rw [foldl_append]
    apply length_after_le (mayPass hit (by simp))
    exact ih fun earlier isIn => mayPass earlier (mem_append_left _ isIn)

/-! ## One window -/

/--
A bucket that is at most as old as every other bucket outside a small set is
not evicted.
-/
theorem lookup_enforceCap_of_few {others : Finset String}
    (found : buckets.lookup fullKey = some bucket)
    (younger : ∀ other kept, buckets.lookup other = some kept → other ≠ fullKey →
      bucket.seq ≤ kept.seq → other ∈ others) (few : others.card < maxBuckets) :
    (enforceCap buckets).lookup fullKey = some bucket := by
  rcases lookup_enforceCap found with kept | ⟨overCap, oldest⟩
  · exact kept
  exfalso
  have isKnown : buckets.keys.toFinset ⊆ insert fullKey others := by
    intro other isKey
    rw [mem_toFinset, ← AList.mem_keys, ← AList.lookup_isSome,
      Option.isSome_iff_exists] at isKey
    obtain ⟨kept, isKept⟩ := isKey
    by_cases isSame : other = fullKey
    · exact Finset.mem_insert.mpr (.inl isSame)
    · exact Finset.mem_insert_of_mem (younger other kept isKept isSame (oldest other kept isKept))
  have atMost := (Finset.card_le_card isKnown).trans (Finset.card_insert_le fullKey others)
  rw [toFinset_card_of_nodup buckets.keys_nodup, AList.keys,
    List.keys, length_map] at atMost
  omega

/--
The window of a bucket that started at `start` under `seq` and has allowed
`count` hits; the buckets that have taken a number since are among `others`.
-/
structure Tenure (fullKey : String) (start seq count : Nat) (others : Finset String)
    (limiter : MemoryRateLimiter) : Prop where
  ordered : limiter.Ordered
  held : limiter.buckets.lookup fullKey = some { hits := count, windowStart := start, seq := seq }
  younger : ∀ other kept,
      limiter.buckets.lookup other = some kept → other ≠ fullKey → seq < kept.seq → other ∈ others

def startsWindow (limiter : MemoryRateLimiter) (hit : Hit) : Prop :=
  hit.now ≠ 0 ∧ limiter.live hit.now hit.bucket = none

instance
    (limiter : MemoryRateLimiter) (hit : Hit) : Decidable (limiter.startsWindow hit) :=
  inferInstanceAs (Decidable (_ ∧ _))

def allowance (fullKey : String) (limiter : MemoryRateLimiter) (hit : Hit) : Nat :=
  if hit.bucket = fullKey ∧ (limiter.decision hit).isAllowed then 1 else 0

theorem tenure_of_startsWindow (ordered : limiter.Ordered)
    (starts : limiter.startsWindow hit) (others : Finset String) (few : others.card < maxBuckets) :
    Tenure hit.bucket hit.now limiter.nextSeq
      (limiter.allowance hit.bucket hit) others (limiter.after hit) ∧
      limiter.allowance hit.bucket hit ≤ hit.limit.maxAttempts.toNat := by
  obtain ⟨started, notLive⟩ := starts
  have isNew : limiter.counting hit.now hit.key hit.limit =
      { hits := 0, windowStart := hit.now, seq := limiter.nextSeq } := by
    rw [counting, ← Hit.bucket, notLive, Option.getD_none]
  have isWritten : limiter.written hit.now hit.key hit.limit =
      { hits := limiter.allowance hit.bucket hit
        windowStart := hit.now
        seq := limiter.nextSeq } := by
    rw [written, isNew, allowance]
    simp [decision]
  have inserted : ((limiter.swept hit.now).insert hit.bucket
      (limiter.written hit.now hit.key hit.limit)).lookup hit.bucket = some
          { hits := limiter.allowance hit.bucket hit
            windowStart := hit.now
            seq := limiter.nextSeq } := by
    rw [AList.lookup_insert, isWritten]
  have noneYounger : ∀ other kept, ((limiter.swept hit.now).insert hit.bucket
      (limiter.written hit.now hit.key hit.limit)).lookup other = some kept →
      other ≠ hit.bucket → limiter.nextSeq ≤ kept.seq → other ∈ others := by
    intro other kept isKept isOther isYounger
    rw [AList.lookup_insert_ne isOther] at isKept
    have below := ordered.below other kept (lookup_of_swept isKept)
    omega
  refine ⟨⟨ordered.after hit, ?_, ?_⟩, ?_⟩
  · rw [after, buckets_hit started]
    split
    · exact lookup_enforceCap_of_few inserted noneYounger few
    · exact inserted
  · intro other kept isKept isOther isYounger
    rcases lookup_after started isKept with ⟨isHit, -⟩ | ⟨-, before⟩
    · exact absurd isHit isOther
    · have below := ordered.below other kept before
      omega
  · unfold allowance
    split
    · next isAllowed =>
      have below := isAllowed.2
      rw [decision, isAllowed_hit started, isNew, decide_eq_true_eq] at below
      exact below
    · exact Nat.zero_le _

namespace Tenure

variable {fullKey : String} {start seq count : Nat} {others : Finset String}
  {limiter : MemoryRateLimiter}

theorem isLive (tenure : Tenure fullKey start seq count others limiter) {now : Nat}
    (inWindow : now < start + decayOf fullKey) (afterStart : start ≤ now) :
    limiter.live now fullKey = some { hits := count, windowStart := start, seq := seq } := by
  have isLive :
      Bucket.isLive now fullKey { hits := count, windowStart := start, seq := seq } = true := by
    simp only [Bucket.isLive, decide_eq_true_eq]
    omega
  rw [live, tenure.held, Option.filter, isLive]
  rfl

theorem after_same (tenure : Tenure fullKey start seq count others limiter) {hit : Hit}
    (started : hit.now ≠ 0) (isSame : hit.bucket = fullKey)
    (inWindow : start ≤ hit.now ∧ hit.now < start + decayOf fullKey) :
    Tenure fullKey start seq (count + limiter.allowance fullKey hit) others (limiter.after hit) ∧
    (limiter.allowance fullKey hit = 0 ∨
      count + limiter.allowance fullKey hit ≤ hit.limit.maxAttempts.toNat) := by
  subst isSame
  have isLive := tenure.isLive inWindow.2 inWindow.1
  have counts : limiter.counting hit.now hit.key hit.limit =
      { hits := count, windowStart := start, seq := seq } := by
    rw [counting, ← Hit.bucket, isLive, Option.getD_some]
  have isWritten : limiter.written hit.now hit.key hit.limit =
      { hits := count + limiter.allowance hit.bucket hit
        windowStart := start
        seq := seq } := by
    rw [written, counts, allowance]
    simp [decision]
  have notFresh : (limiter.swept hit.now).lookup (bucketKey hit.key hit.limit) ≠
      none := by
    rw [← Hit.bucket, swept_of_live isLive]
    exact Option.some_ne_none _
  refine ⟨⟨tenure.ordered.after hit, ?_, ?_⟩, ?_⟩
  · rw [after, buckets_hit started, if_neg (fun both => notFresh both.2),
      ← Hit.bucket, AList.lookup_insert, isWritten]
  · intro other kept isKept isOther isYounger
    rcases lookup_after started isKept with ⟨isHit, -⟩ | ⟨-, before⟩
    · exact absurd isHit isOther
    · exact tenure.younger other kept before isOther isYounger
  · unfold allowance
    split
    · next isAllowed =>
      right
      have below := isAllowed.2
      rw [decision, isAllowed_hit started, counts, decide_eq_true_eq] at below
      exact below
    · exact .inl rfl

theorem after_other (tenure : Tenure fullKey start seq count others limiter) {hit : Hit}
    (started : hit.now ≠ 0) (isOther : hit.bucket ≠ fullKey)
    (isIn : hit.bucket ∈ others) (few : others.card < maxBuckets)
    (inWindow : start ≤ hit.now ∧ hit.now < start + decayOf fullKey) :
    Tenure fullKey start seq count others (limiter.after hit) := by
  have isLive := tenure.isLive inWindow.2 inWindow.1
  have inserted : ((limiter.swept hit.now).insert hit.bucket
      (limiter.written hit.now hit.key hit.limit)).lookup fullKey =
        some { hits := count, windowStart := start, seq := seq } := by
    rw [AList.lookup_insert_ne (Ne.symm isOther)]
    exact swept_of_live isLive
  have younger : ∀ other kept, ((limiter.swept hit.now).insert hit.bucket
      (limiter.written hit.now hit.key hit.limit)).lookup other = some kept →
      other ≠ fullKey → seq ≤ kept.seq → other ∈ others := by
    intro other kept isKept notSame isYounger
    by_cases isHit : other = hit.bucket
    · rw [isHit]
      exact isIn
    rw [AList.lookup_insert_ne isHit] at isKept
    have before := lookup_of_swept isKept
    have notShared : kept.seq ≠ seq := fun same =>
      notSame (tenure.ordered.distinct other kept fullKey _ before tenure.held same)
    exact tenure.younger other kept before notSame (by omega)
  refine ⟨tenure.ordered.after hit, ?_, ?_⟩
  · rw [after, buckets_hit started]
    split
    · exact lookup_enforceCap_of_few inserted younger few
    · exact inserted
  · intro other kept isKept notSame isYounger
    rcases lookup_after started isKept with ⟨rfl, -⟩ | ⟨-, before⟩
    · exact isIn
    · exact tenure.younger other kept before notSame isYounger

/--
A window allows no more hits under a limit than the limit: one allowed under it
finds fewer hits counted than the limit, and those include all allowed so far.
-/
theorem allowedIn_le {window : List Hit} {most allowed : Nat}
    (tenure : Tenure fullKey start seq count others limiter) (few : others.card < maxBuckets)
    (isIn : ∀ hit ∈ window, hit.bucket ≠ fullKey → hit.bucket ∈ others)
    (inWindow : ∀ hit ∈ window, start ≤ hit.now ∧ hit.now < start + decayOf fullKey)
    (counted : allowed ≤ count) (within : allowed ≤ most) :
    allowed + limiter.allowedIn fullKey most window ≤ most := by
  induction window generalizing limiter count allowed with
  | nil => exact within
  | cons hit rest ih =>
    rw [forall_mem_cons] at isIn inWindow
    have continues :=
      fun nextCount nextAllowed nextTenure =>
        @ih nextCount (limiter.after hit) nextAllowed nextTenure isIn.2 inWindow.2
    rw [allowedIn, ← Nat.add_assoc]
    by_cases atEpoch : hit.now = 0
    · obtain ⟨unchanged, notAllowed⟩ := after_of_epoch atEpoch limiter
      rw [if_neg (by simp [notAllowed])]
      apply continues count allowed _ counted within
      rw [unchanged]
      exact tenure
    by_cases isSame : hit.bucket = fullKey
    · obtain ⟨next, bounded⟩ := tenure.after_same atEpoch isSame inWindow.1
      by_cases passes : hit.countsFor fullKey most ∧ (limiter.decision hit).isAllowed = true
      · have isLimited := passes.1
        simp only [Hit.countsFor, decide_eq_true_eq] at isLimited
        have isOne : limiter.allowance fullKey hit = 1 := by simp [allowance, isSame, passes.2]
        rw [if_pos passes]
        exact continues _ _ next (by omega) (by omega)
      · rw [if_neg passes]
        exact continues _ allowed next (by omega) within
    · have notCounted : ¬ hit.countsFor fullKey most = true := by simp [Hit.countsFor, isSame]
      rw [if_neg (fun both => notCounted both.1)]
      exact continues count allowed
        (tenure.after_other atEpoch isSame (isIn.1 isSame) few inWindow.1)
        counted within

end Tenure

/-! ## Every run -/

def otherBuckets (fullKey : String) (hits : List Hit) : Finset String :=
  (hits.map Hit.bucket).toFinset.erase fullKey

/--
From the hit that starts a window to its end, with fewer other buckets hit than
the cap, no more hits under a limit are allowed than the limit.
-/
theorem allowedIn_window_le (before : List Hit) {first : Hit} {window : List Hit}
    (starts : (new.run before).startsWindow first)
    (inWindow : ∀ hit ∈ window, first.now ≤ hit.now ∧
      hit.now < first.now + first.limit.decaySecs.toNat)
    (few : (otherBuckets first.bucket window).card < maxBuckets) (most : Nat) :
    (new.run before).allowedIn first.bucket most (first :: window) ≤ most := by
  obtain ⟨tenure, bounded⟩ := tenure_of_startsWindow (ordered_run before) starts
      (otherBuckets first.bucket window) few
  apply tenure.allowedIn_le few
  · intro hit isHit isOther
    simp only [otherBuckets, Finset.mem_erase, mem_toFinset, mem_map]
    exact ⟨isOther, hit, isHit, rfl⟩
  · intro hit isHit
    rw [Hit.bucket, decayOf_bucketKey]
    exact inWindow hit isHit
  · unfold allowance
    split
    · next passes => rw [if_pos ⟨rfl, passes.2⟩]
    · exact Nat.zero_le _
  · split
    · next passes =>
      have isLimited := passes.1
      simp only [Hit.countsFor, true_and, decide_eq_true_eq] at isLimited
      rw [allowance, if_pos ⟨rfl, passes.2⟩] at bounded
      exact Nat.le_trans bounded isLimited
    · exact Nat.zero_le _

/--
A window in which fewer other buckets than the cap are hit allows no more hits
under a limit than the limit, and limits that allow an attempt keep the map
within the cap.
-/
theorem window_allows_at_most_limit :
    (∀ (before : List Hit) (first : Hit) (window : List Hit) (most : Nat),
      (new.run before).startsWindow first →
      (∀ hit ∈ window, first.now ≤ hit.now ∧ hit.now < first.now + first.limit.decaySecs.toNat) →
      (otherBuckets first.bucket window).card < maxBuckets →
      (new.run before).allowedIn first.bucket most (first :: window) ≤ most) ∧
    ∀ hits : List Hit, (∀ hit ∈ hits, hit.limit.maxAttempts ≠ 0) →
      (new.run hits).buckets.entries.length ≤ maxBuckets := by
  refine ⟨?_, length_run_le⟩
  intro before first window most starts inWindow few
  exact allowedIn_window_le before starts inWindow few most

theorem third_hit_denied :
    ((new.run [⟨5, "b", Limit.perMinute 1⟩]).allowedIn
      (Hit.bucket ⟨7, "a", Limit.perMinute 2⟩) 2
      [⟨7, "a", Limit.perMinute 2⟩, ⟨8, "b", Limit.perMinute 2⟩,
      ⟨9, "a", Limit.perMinute 2⟩, ⟨66, "a", Limit.perMinute 2⟩] ≤ 2) ∧
      (new.run [⟨5, "b", Limit.perMinute 1⟩]).buckets.entries.length ≤ maxBuckets :=
  ⟨window_allows_at_most_limit.1 [⟨5, "b", Limit.perMinute 1⟩]
      ⟨7, "a", Limit.perMinute 2⟩
      [⟨8, "b", Limit.perMinute 2⟩, ⟨9, "a", Limit.perMinute 2⟩, ⟨66, "a", Limit.perMinute 2⟩]
      2 (by decide +kernel) (by decide +kernel) (by decide +kernel),
    window_allows_at_most_limit.2 [⟨5, "b", Limit.perMinute 1⟩] (by decide +kernel)⟩

/-! ## Waiting as told -/

/-- Every window of the bucket is over by the deadline. -/
def OverBy (deadline : Nat) (fullKey : String) (limiter : MemoryRateLimiter) : Prop :=
  ∀ bucket, limiter.buckets.lookup fullKey = some bucket →
    bucket.windowStart + decayOf fullKey ≤ deadline

theorem windowStart_written_le {now : Nat}
    (ordered : ∀ bucket, limiter.buckets.lookup hit.bucket = some bucket → bucket.windowStart ≤ now)
    (inOrder : hit.now ≤ now) : (limiter.written hit.now hit.key hit.limit).windowStart ≤ now := by
  unfold written counting
  cases isLive : limiter.live hit.now (bucketKey hit.key hit.limit) with
  | none => exact inOrder
  | some bucket =>
    rw [live, Option.filter_eq_some_iff] at isLive
    exact ordered bucket isLive.1

theorem windowStart_run_le {now : Nat} {hits : List Hit} (inOrder : ∀ hit ∈ hits, hit.now ≤ now)
    (found : (new.run hits).buckets.lookup fullKey = some bucket) : bucket.windowStart ≤ now := by
  unfold run at found
  induction hits using List.reverseRecOn generalizing fullKey bucket with
  | nil => cases found
  | append_singleton hits hit ih =>
    rw [forall_mem_append, forall_mem_singleton] at inOrder
    rw [foldl_append, foldl_cons] at found
    by_cases atEpoch : hit.now = 0
    · rw [(after_of_epoch atEpoch _).1] at found
      exact ih inOrder.1 found
    · rcases lookup_after atEpoch found with ⟨-, rfl⟩ | ⟨-, before⟩
      · exact windowStart_written_le (fun _ => ih inOrder.1) inOrder.2
      · exact ih inOrder.1 before

theorem OverBy.run {deadline : Nat} (overBy : limiter.OverBy deadline fullKey) {waiting : List Hit}
    (others : ∀ other ∈ waiting, other.bucket ≠ fullKey) :
    (limiter.run waiting).OverBy deadline fullKey := by
  induction waiting generalizing limiter with
  | nil => exact overBy
  | cons other waiting ih =>
    rw [forall_mem_cons] at others
    refine ih (fun bucket found => ?_) others.2
    by_cases atEpoch : other.now = 0
    · exact overBy bucket ((after_of_epoch atEpoch limiter).1 ▸ found)
    · rcases lookup_after atEpoch found with ⟨isOther, -⟩ | ⟨-, before⟩
      · exact absurd isOther.symm others.1
      · exact overBy bucket before

/-- A denied hit is told when its window is over. -/
theorem overBy_of_denied {seconds : Nat}
    (ordered : ∀ bucket, limiter.buckets.lookup hit.bucket = some bucket →
      bucket.windowStart ≤ hit.now) (denied : limiter.decision hit = .denied seconds) :
    (limiter.after hit).OverBy (hit.now + seconds) hit.bucket := by
  intro bucket found
  rw [Hit.bucket, decayOf_bucketKey]
  by_cases atEpoch : hit.now = 0
  · rw [(after_of_epoch atEpoch limiter).1] at found
    rw [decision, MemoryRateLimiter.hit, if_pos atEpoch, ThrottleDecision.denied.injEq] at denied
    have start := ordered bucket found
    omega
  · rcases lookup_after atEpoch found with ⟨-, rfl⟩ | ⟨isOther, -⟩
    · have start := windowStart_written_le ordered (Nat.le_refl hit.now)
      rw [decision, MemoryRateLimiter.hit, if_neg atEpoch] at denied
      simp only [opened_eq, ← counting.eq_def] at denied
      split at denied
      · have told := ThrottleDecision.denied.inj denied
        simp only [retryAfter, written] at told start ⊢
        omega
      · cases denied
    · exact absurd rfl isOther

/--
Whoever waits as long as a denial said is let in, whatever the other buckets
are hit with meanwhile.
-/
theorem waiting_as_told_is_allowed {before waiting : List Hit} {hit again : Hit} {seconds : Nat}
    (inOrder : ∀ earlier ∈ before, earlier.now ≤ hit.now)
    (denied : (new.run before).decision hit = .denied seconds)
    (others : ∀ other ∈ waiting, other.bucket ≠ hit.bucket) (sameBucket : again.bucket = hit.bucket)
    (started : again.now ≠ 0) (waited : hit.now + seconds ≤ again.now)
    (mayPass : again.limit.maxAttempts ≠ 0) :
    ((((new.run before).after hit).run waiting).decision again).isAllowed = true := by
  have overBy := (overBy_of_denied (fun _ => windowStart_run_le inOrder) denied).run others
  have isOver : live again.now again.bucket (((new.run before).after hit).run waiting) = none := by
    rw [live, Option.filter_eq_none_iff]
    intro bucket found
    have ends := overBy bucket (sameBucket ▸ found)
    rw [← sameBucket] at ends
    simp only [Bucket.isLive, decide_eq_true_eq]
    omega
  rw [decision, isAllowed_hit started, counting, ← Hit.bucket, isOver, decide_eq_true_eq]
  rw [ne_eq, ← UInt32.toNat_inj] at mayPass
  exact Nat.pos_of_ne_zero mayPass

theorem third_hit_waits :
    (((((new.run [⟨5, "a", Limit.perMinute 1⟩]).after
      ⟨7, "a", Limit.perMinute 1⟩).run [⟨8, "b", Limit.perMinute 1⟩]).decision
      ⟨65, "a", Limit.perMinute 1⟩)).isAllowed = true :=
  waiting_as_told_is_allowed (by decide) (show _ = ThrottleDecision.denied 58 by decide +kernel)
    (by decide +kernel) rfl (by decide) (by decide) (by decide)

/-! ## A flood evicts the oldest bucket -/

def victim : Hit where
  now := 1
  key := "victim"
  limit := Limit.perMinute 1

def floodHit (i : Nat) : Hit where
  now := 1
  key := "flood" ++ Nat.repr i
  limit := Limit.perMinute 1

theorem floodHit_started (i : Nat) : (floodHit i).now ≠ 0 :=
  Nat.one_ne_zero

theorem floodHit_bucket_ne_victim (i : Nat) : (floodHit i).bucket ≠ victim.bucket := by
  intro same
  have keys : (floodHit i).key.toList = victim.key.toList := by
    have texts := congrArg String.toList same
    simp only [Hit.bucket, bucketKey, String.toList_append] at texts
    exact append_cancel_left texts
  simp [floodHit, victim] at keys

theorem floodHit_bucket_injective
    {i j : Nat} (same : (floodHit i).bucket = (floodHit j).bucket) : i = j := by
  have texts := congrArg String.toList same
  simp only [Hit.bucket, bucketKey, floodHit, String.toList_append] at texts
  have digits := append_cancel_left (append_cancel_left texts)
  rw [Nat.toList_repr, Nat.toList_repr] at digits
  have numbers := congrArg (Nat.ofDigitChars 10 · 0) digits
  simpa only [Nat.ofDigitChars_ten_toDigits] using numbers

def floodBuckets : Finset String :=
  (Finset.range maxBuckets).image fun i => (floodHit i).bucket

/-- The limiter after the victim's hit and `count` hits of the flood. -/
def flooded (count : Nat) : MemoryRateLimiter :=
  new.run (victim :: (List.range count).map floodHit)

theorem flooded_succ (count : Nat) :
    flooded (count + 1) = (flooded count).after (floodHit count) := by
  simp [flooded, run, range_succ]

variable {count : Nat}

theorem bucket_of_flooded (found : (flooded count).buckets.lookup fullKey = some bucket) :
    fullKey = victim.bucket ∨ ∃ i < count, fullKey = (floodHit i).bucket := by
  induction count generalizing bucket with
  | zero =>
    rcases lookup_after (by decide) found with ⟨isVictim, -⟩ | ⟨-, before⟩
    · exact .inl isVictim
    · cases before
  | succ count ih =>
    rw [flooded_succ] at found
    rcases lookup_after (floodHit_started count) found with ⟨isFlood, -⟩ | ⟨-, before⟩
    · exact .inr ⟨count, Nat.lt_succ_self count, isFlood⟩
    · obtain isVictim | ⟨i, below, same⟩ := ih before
      · exact .inl isVictim
      · exact .inr ⟨i, Nat.lt_succ_of_lt below, same⟩

theorem startsWindow_flooded (count : Nat) : (flooded count).startsWindow (floodHit count) := by
  refine ⟨floodHit_started count, ?_⟩
  cases found : (flooded count).buckets.lookup (floodHit count).bucket with
  | none =>
    rw [live, found]
    rfl
  | some bucket =>
    obtain isVictim | ⟨i, below, same⟩ := bucket_of_flooded found
    · exact absurd isVictim (floodHit_bucket_ne_victim count)
    · exact absurd (floodHit_bucket_injective same) below.ne'

/-- Each bucket of the flood keeps its window, because the others are fewer than the cap. -/
theorem tenure_flooded {i : Nat} (isFlood : i < count) (within : count ≤ maxBuckets) :
    ∃ seq hits, Tenure (floodHit i).bucket 1 seq hits
      (floodBuckets.erase (floodHit i).bucket) (flooded count) := by
  have isIn : ∀ j < maxBuckets, (floodHit j).bucket ∈ floodBuckets :=
    fun j below => Finset.mem_image_of_mem _ (Finset.mem_range.mpr below)
  have few : (floodBuckets.erase (floodHit i).bucket).card < maxBuckets := by
    refine (Finset.card_erase_lt_of_mem (isIn i (by omega))).trans_le ?_
    exact Finset.card_image_le.trans (Finset.card_range maxBuckets).le
  induction count, isFlood using Nat.le_induction with
  | base =>
    rw [flooded_succ]
    exact ⟨_, _, (tenure_of_startsWindow (ordered_run _) (startsWindow_flooded i) _ few).1⟩
  | succ count isFlood ih =>
    obtain ⟨seq, hits, tenure⟩ := ih (Nat.le_of_succ_le within)
    have isOther : (floodHit count).bucket ≠ (floodHit i).bucket :=
      fun same => Nat.ne_of_gt isFlood (floodHit_bucket_injective same)
    rw [flooded_succ]
    refine ⟨seq, hits, tenure.after_other (floodHit_started count) isOther
      (Finset.mem_erase.mpr ⟨isOther, isIn count within⟩) few ?_⟩
    rw [Hit.bucket, decayOf_bucketKey]
    exact ⟨le_rfl, Nat.lt_add_of_pos_right (show 0 < 60 by decide)⟩

/-- The cap leaves no room for the victim. -/
theorem evicted_flooded : (flooded maxBuckets).buckets.lookup victim.bucket = none := by
  by_contra isHeld
  have areKeys : insert victim.bucket floodBuckets ⊆
      (flooded maxBuckets).buckets.keys.toFinset := by
    intro fullKey isIn
    rw [mem_toFinset, ← AList.mem_keys, ← AList.lookup_isSome]
    rcases Finset.mem_insert.mp isIn with rfl | isFlood
    · exact Option.isSome_iff_ne_none.mpr isHeld
    · obtain ⟨i, below, rfl⟩ := Finset.mem_image.mp isFlood
      obtain ⟨seq, hits, tenure⟩ := tenure_flooded (Finset.mem_range.mp below) le_rfl
      rw [tenure.held, Option.isSome_some]
  have isNew : victim.bucket ∉ floodBuckets := by
    intro isFlood
    obtain ⟨i, -, same⟩ := Finset.mem_image.mp isFlood
    exact floodHit_bucket_ne_victim i same
  have atLeast := Finset.card_le_card areKeys
  rw [Finset.card_insert_of_notMem isNew, floodBuckets,
    Finset.card_image_of_injective _ fun _ _ => floodHit_bucket_injective, Finset.card_range,
    toFinset_card_of_nodup (AList.keys_nodup _), AList.keys, List.keys,
    length_map] at atLeast
  have atMost : (flooded maxBuckets).buckets.entries.length ≤ maxBuckets := by
    apply length_run_le
    simp [victim, floodHit, Limit.perMinute]
  omega

theorem allowedIn_append (fullKey : String) (most : Nat) (limiter : MemoryRateLimiter)
    (hits more : List Hit) :
    limiter.allowedIn fullKey most (hits ++ more) =
      limiter.allowedIn fullKey most hits + (limiter.run hits).allowedIn fullKey most more := by
  induction hits generalizing limiter with
  | nil => simp [allowedIn, run]
  | cons hit rest ih =>
    rw [cons_append, allowedIn, allowedIn, ih, Nat.add_assoc]
    rfl

/--
Within one second a flood of other keys gives an exhausted bucket a second
attempt under a limit of one.
-/
theorem flood_refreshes_exhausted_bucket :
    ¬ new.allowedIn victim.bucket victim.limit.maxAttempts.toNat
      (victim :: (List.range maxBuckets).map floodHit ++ [victim]) ≤
      victim.limit.maxAttempts.toNat := by
  have isOne : victim.limit.maxAttempts.toNat = 1 := rfl
  have firstAllowed : victim.countsFor victim.bucket 1 = true ∧
      (new.decision victim).isAllowed = true := by
    decide +kernel
  have secondAllowed : ((flooded maxBuckets).decision victim).isAllowed = true := by
    have started : victim.now ≠ 0 := Nat.one_ne_zero
    rw [decision, isAllowed_hit started, counting, ← Hit.bucket, live, evicted_flooded]
    rfl
  rw [isOne, allowedIn_append, allowedIn, if_pos firstAllowed, allowedIn,
    if_pos ⟨firstAllowed.1, secondAllowed⟩]
  omega

end MemoryRateLimiter

end Rustasea.Auth
