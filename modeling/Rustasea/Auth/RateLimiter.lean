import Mathlib.Data.List.AList
import Mathlib.Data.List.MinMax
import Rustasea.Library.DecimalText

namespace Rustasea.Auth

open DecimalText List

/-!
# The in-memory rate limiter

Hits are counted per bucket in fixed windows.  A bucket is a window size and a
key; its map key is the text of both.  Windows that have elapsed are swept every
few hits, and the oldest bucket is evicted when an insertion exceeds the cap.
-/

/-- How the throttle bucket key is derived from a request. -/
inductive KeyBy where
  | ip
  | user
  | key (text : String)
  deriving DecidableEq

/-- Rate-limit definition. -/
structure Limit where
  maxAttempts : UInt32
  decaySecs : UInt64
  keyBy : KeyBy
  deriving DecidableEq

def Limit.perMinute (n : UInt32) : Limit where
  maxAttempts := n
  decaySecs := 60
  keyBy := .ip

/-- Outcome of a rate-limit check. -/
inductive ThrottleDecision where
  | allowed (remaining : Nat)
  | denied (retryAfterSecs : Nat)
  deriving DecidableEq

@[grind =] def ThrottleDecision.isAllowed : ThrottleDecision → Bool
  | .allowed _ => true
  | .denied _ => false

/-- Shared bucket state for a single key. -/
structure Bucket where
  hits : Nat
  windowStart : Nat
  /-- Monotonic insert counter used for oldest-first eviction. -/
  seq : Nat
  deriving DecidableEq

def maxBuckets : Nat := 10000

/-- The sweep of elapsed windows runs every this many hits. -/
def pruneEvery : Nat := 64

abbrev Buckets := AList fun _ : String => Bucket

/-- In-memory fixed-window limiter. -/
structure MemoryRateLimiter where
  buckets : Buckets
  nextSeq : Nat
  hitCounter : Nat

/-! ## Map keys -/

/-- `{decay}:{key}`: the map key from the window size and the bucket key. -/
def bucketKey (key : String) (limit : Limit) : String :=
  Nat.repr limit.decaySecs.toNat ++ ":" ++ key

/-- `str::parse::<u64>`: an optional plus sign and at least one digit. -/
def parseU64 (text : List Char) : Option Nat :=
  let digits := if text.head? = some '+' then text.tail else text
  (parseDigits charValue? digits).filter (· ≤ u64Max)

/-- Decay seconds encoded in a `{decay}:{key}` map key. -/
def decayOf (fullKey : String) : Nat :=
  if ':' ∈ fullKey.toList then (parseU64 (fullKey.toList.takeWhile (· ≠ ':'))).getD 0
  else 0

/-! ## One hit -/

/-- Whether a window of the size its map key names has not elapsed. -/
def Bucket.isLive (now : Nat) (fullKey : String) (bucket : Bucket) : Bool :=
  now - bucket.windowStart < decayOf fullKey

def prune (now : Nat) (buckets : Buckets) : Buckets where
  entries := buckets.entries.filter fun entry => entry.2.isLive now entry.1
  nodupKeys := buckets.nodupKeys.sublist filter_sublist

@[grind =] def enforceCap (buckets : Buckets) : Buckets :=
  if buckets.entries.length ≤ maxBuckets then buckets
  else
    match buckets.entries.argmin fun entry => entry.2.seq with
    | some oldest => buckets.erase oldest.1
    | none => buckets

namespace MemoryRateLimiter

def new : MemoryRateLimiter where
  buckets := ∅
  nextSeq := 0
  hitCounter := 0

/-- The buckets after the sweep that a hit may start with. -/
def swept (now : Nat) (limiter : MemoryRateLimiter) : Buckets :=
  if limiter.hitCounter % pruneEvery = 0 then prune now limiter.buckets
  else limiter.buckets

/-- The bucket a hit counts in: opened when absent, restarted when elapsed. -/
def opened (now : Nat) (limit : Limit) (seq : Nat) (found : Option Bucket) : Bucket :=
  let bucket := found.getD { hits := 0, windowStart := now, seq := seq }
  if limit.decaySecs.toNat ≤ now - bucket.windowStart then
    { hits := 0, windowStart := now, seq := seq }
  else bucket

/-- Seconds until the window of a bucket resets, at least one. -/
def retryAfter (now : Nat) (limit : Limit) (bucket : Bucket) : Nat :=
  max (limit.decaySecs.toNat - (now - bucket.windowStart)) 1

/--
Register one hit and decide.  A denied hit leaves its bucket in the map without
enforcing the cap; a clock before the epoch denies and tracks nothing.
-/
def hit (now : Nat) (key : String) (limit : Limit) (limiter : MemoryRateLimiter) :
    ThrottleDecision × MemoryRateLimiter :=
  if now = 0 then (.denied limit.decaySecs.toNat, limiter)
  else
    let fullKey := bucketKey key limit
    let swept := limiter.swept now
    let found := swept.lookup fullKey
    let bucket := opened now limit limiter.nextSeq found
    if limit.maxAttempts.toNat ≤ bucket.hits then
      (.denied (retryAfter now limit bucket),
        { buckets := swept.insert fullKey bucket
          nextSeq := limiter.nextSeq + 1
          hitCounter := limiter.hitCounter + 1 })
    else
      let counted := { bucket with hits := bucket.hits + 1 }
      let stored := swept.insert fullKey counted
      (.allowed (limit.maxAttempts.toNat - counted.hits),
        { buckets := if found.isNone then enforceCap stored else stored
          nextSeq := limiter.nextSeq + 1
          hitCounter := limiter.hitCounter + 1 })

end MemoryRateLimiter

/-! ## Map keys determine the window size -/

theorem parseU64_repr (n : UInt64) : parseU64 (Nat.repr n.toNat).toList = some n.toNat := by
  rw [Nat.toList_repr]
  have notSigned : (Nat.toDigits 10 n.toNat).head? ≠ some '+' :=
    fun isSigned => notMem_toDigits (by decide) _ (mem_of_mem_head? isSigned)
  have values : ∀ digit : Char, digit.isDigit = true →
      charValue? (id digit) = some (digit.toNat - 48) :=
    fun _ isDigit => if_pos isDigit
  have read := parseDigits_toDigits values n.toNat
  rw [map_id] at read
  have inRange : n.toNat ≤ u64Max := Nat.le_pred_of_lt n.toNat_lt
  simp only [parseU64, if_neg notSigned, read]
  simp [inRange]

@[simp] theorem decayOf_bucketKey (key : String) (limit : Limit) :
    decayOf (bucketKey key limit) = limit.decaySecs.toNat := by
  have noColon :
      ∀ digit ∈ (Nat.repr limit.decaySecs.toNat).toList, decide (digit ≠ ':') = true := by
    intro digit isIn
    rw [decide_eq_true_eq]
    rintro rfl
    exact notMem_toDigits (by decide) _ (Nat.toList_repr ▸ isIn)
  have characters : (bucketKey key limit).toList =
      (Nat.repr limit.decaySecs.toNat).toList ++ ':' :: key.toList := by
    simp [bucketKey]
  unfold decayOf
  rw [characters, if_pos (by simp), takeWhile_append_of_pos noColon,
    takeWhile_cons_of_neg (by simp), append_nil, parseU64_repr,
    Option.getD_some]

/-! ## What a hit does to the buckets -/

section Lookup

theorem lookup_prune (now : Nat) (fullKey : String) (buckets : Buckets) :
    (prune now buckets).lookup fullKey =
      (buckets.lookup fullKey).filter (Bucket.isLive now fullKey) := by
  apply Option.ext
  intro bucket
  simp [← Option.mem_def, AList.mem_lookup_iff, Option.mem_filter_iff, prune]

variable {fullKey : String} {bucket : Bucket} {buckets : Buckets}

theorem lookup_enforceCap_some (found : (enforceCap buckets).lookup fullKey = some bucket) :
    buckets.lookup fullKey = some bucket := by
  unfold enforceCap at found
  split at found
  · exact found
  · split at found
    · next oldest _ =>
      by_cases isOldest : fullKey = oldest.1
      · rw [isOldest, AList.lookup_erase] at found
        cases found
      · rwa [AList.lookup_erase_ne isOldest] at found
    · exact found

theorem lookup_enforceCap (found : buckets.lookup fullKey = some bucket) :
    (enforceCap buckets).lookup fullKey = some bucket ∨
      (maxBuckets < buckets.entries.length ∧
        ∀ other kept, buckets.lookup other = some kept → bucket.seq ≤ kept.seq) := by
  unfold enforceCap
  split
  · exact .inl found
  · next overCap =>
    split
    · next oldest isOldest =>
      by_cases isEvicted : fullKey = oldest.1
      · right
        refine ⟨Nat.lt_of_not_le overCap, ?_⟩
        intro other kept isKept
        have evicted : oldest.2 = bucket := by
          have isIn := argmin_mem isOldest
          have same := AList.mem_lookup_iff.mpr isIn
          rw [← isEvicted, found, Option.mem_def, Option.some.injEq] at same
          exact same.symm
        rw [← evicted]
        have isIn : ⟨other, kept⟩ ∈ buckets.entries := AList.mem_lookup_iff.mp isKept
        have oldestFirst := le_of_mem_argmin isIn isOldest
        exact oldestFirst
      · left
        rwa [AList.lookup_erase_ne isEvicted]
    · exact .inl found

end Lookup

/-- An empty map stays within the cap, and capping any other map brings it
at most one over the cap back to it. -/
theorem length_enforceCap_le {buckets : Buckets}
    (atMostOneOver : buckets.entries.length ≤ maxBuckets + 1) :
    (enforceCap buckets).entries.length ≤ maxBuckets := by
  unfold enforceCap
  split
  · next within => exact within
  · next overCap =>
    split
    · next oldest isOldest =>
      have isKey : oldest.1 ∈ buckets.keys := mem_map_of_mem (argmin_mem isOldest)
      have erased := length_erase_of_mem isKey
      rw [← AList.keys_erase] at erased
      simp only [AList.keys, List.keys, length_map] at erased
      omega
    · next isEmpty =>
      rw [argmin_eq_none] at isEmpty
      simp [isEmpty]

namespace MemoryRateLimiter

/-- The bucket under a map key, while its window has not elapsed. -/
def live (now : Nat) (fullKey : String) (limiter : MemoryRateLimiter) : Option Bucket :=
  (limiter.buckets.lookup fullKey).filter (Bucket.isLive now fullKey)

theorem lookup_swept (now : Nat) (fullKey : String) (limiter : MemoryRateLimiter) :
    (limiter.swept now).lookup fullKey = limiter.buckets.lookup fullKey ∨
    (limiter.swept now).lookup fullKey = limiter.live now fullKey := by
  unfold swept live
  split
  · exact .inr (lookup_prune now fullKey limiter.buckets)
  · exact .inl rfl

variable {now : Nat} {fullKey : String} {bucket : Bucket} {limiter : MemoryRateLimiter}

theorem lookup_of_swept (found : (limiter.swept now).lookup fullKey = some bucket) :
    limiter.buckets.lookup fullKey = some bucket := by
  rcases lookup_swept now fullKey limiter with same | isLive
  · rwa [same] at found
  · rw [isLive, live, Option.filter_eq_some_iff] at found
    exact found.1

theorem swept_of_live (isLive : limiter.live now fullKey = some bucket) :
    (limiter.swept now).lookup fullKey = some bucket := by
  have found := isLive
  rw [live, Option.filter_eq_some_iff] at found
  rcases lookup_swept now fullKey limiter with same | swept
  · rw [same]
    exact found.1
  · rw [swept]
    exact isLive

theorem opened_eq (now : Nat) (key : String) (limit : Limit) (seq : Nat)
    (limiter : MemoryRateLimiter) :
    opened now limit seq
        ((limiter.swept now).lookup (bucketKey key limit)) =
      (limiter.live now (bucketKey key limit)).getD
        { hits := 0, windowStart := now, seq := seq } := by
  have restarts : ∀ found : Option Bucket, found.filter (Bucket.isLive now (bucketKey key limit)) =
        limiter.live now (bucketKey key limit) →
      opened now limit seq found = (limiter.live now (bucketKey key limit)).getD
          { hits := 0, windowStart := now, seq := seq } := by
    intro found sameLive
    rw [← sameLive]
    cases found with
    | none => simp [opened]
    | some bucket =>
      by_cases elapsed : limit.decaySecs.toNat ≤ now - bucket.windowStart
      · simp [opened, Option.filter, Bucket.isLive, Nat.not_lt.mpr elapsed]
      · simp [opened, Option.filter, Bucket.isLive, Nat.lt_of_not_le elapsed]
  apply restarts
  rcases lookup_swept now (bucketKey key limit) limiter with same | isLive
  · rw [same]
    rfl
  · rw [isLive, live]
    simp

def counting (now : Nat) (key : String) (limit : Limit) (limiter : MemoryRateLimiter) : Bucket :=
  (limiter.live now (bucketKey key limit)).getD
    { hits := 0, windowStart := now, seq := limiter.nextSeq }

theorem isAllowed_hit (started : now ≠ 0) (key : String) (limit : Limit)
    (limiter : MemoryRateLimiter) :
    (limiter.hit now key limit).1.isAllowed =
      decide ((limiter.counting now key limit).hits < limit.maxAttempts.toNat) := by
  unfold hit counting
  simp only [started, if_false, opened_eq]
  split
  · next denied => simp [ThrottleDecision.isAllowed, denied]
  · next allowed => simp [ThrottleDecision.isAllowed, Nat.lt_of_not_le allowed]

/-- What a hit writes: its bucket, with one more hit when it is allowed. -/
def written (now : Nat) (key : String) (limit : Limit) (limiter : MemoryRateLimiter) : Bucket :=
  {
    limiter.counting now key limit with
    hits :=
      (limiter.counting now key limit).hits +
        if (limiter.hit now key limit).1.isAllowed then 1 else 0
  }

/--
The map after a hit: the swept map with the hit's bucket, brought back to the
cap when an allowed hit has opened the bucket.
-/
theorem buckets_hit (started : now ≠ 0) (key : String) (limit : Limit)
    (limiter : MemoryRateLimiter) :
    (limiter.hit now key limit).2.buckets =
      if (limiter.hit now key limit).1.isAllowed ∧
          (limiter.swept now).lookup (bucketKey key limit) = none then
        enforceCap
          ((limiter.swept now).insert (bucketKey key limit) (limiter.written now key limit))
      else (limiter.swept now).insert (bucketKey key limit) (limiter.written now key limit) := by
  have allowed := isAllowed_hit started key limit limiter
  unfold written
  rw [allowed]
  unfold hit
  simp only [started, opened_eq, ← counting.eq_def]
  by_cases exhausted : limit.maxAttempts.toNat ≤ (limiter.counting now key limit).hits
  · simp [exhausted, Nat.not_lt.mpr exhausted]
  · simp [exhausted, Nat.lt_of_not_le exhausted]

@[simp] theorem nextSeq_hit (started : now ≠ 0) (key : String) (limit : Limit)
    (limiter : MemoryRateLimiter) :
    (limiter.hit now key limit).2.nextSeq = limiter.nextSeq + 1 := by
  unfold hit
  simp only [started, if_false]
  split <;> rfl

end MemoryRateLimiter

end Rustasea.Auth
