import Rustasea.Auth.NamedLimiters

namespace Rustasea.Auth

open List Option

/-!
# What the checks of one named limiter do to another

As long as the cap evicts nothing, a bucket is moved by its own hits only, so a
limiter's answers do not depend on checks that count in other buckets.
-/

def Bucket.window (bucket : Bucket) : Nat × Nat := (bucket.hits, bucket.windowStart)

namespace MemoryRateLimiter

def window (now : Nat) (fullKey : String) (limiter : MemoryRateLimiter) : Option (Nat × Nat) :=
  (limiter.live now fullKey).map Bucket.window

/-- Whether a window of the size its map key names has not elapsed. -/
def windowLive (now : Nat) (fullKey : String) (window : Nat × Nat) : Bool :=
  now - window.2 < decayOf fullKey

theorem window_later {now later : Nat} (elapsed : now ≤ later) (fullKey : String)
    (limiter : MemoryRateLimiter) :
    limiter.window later fullKey =
      (limiter.window now fullKey).filter (windowLive later fullKey) := by
  unfold window live
  cases limiter.buckets.lookup fullKey with
  | none => rfl
  | some bucket =>
    have sameLive : windowLive later fullKey bucket.window = bucket.isLive later fullKey := rfl
    by_cases isLive : bucket.isLive later fullKey = true
    · have before : bucket.isLive now fullKey = true := by
        simp only [Bucket.isLive, decide_eq_true_eq] at isLive ⊢
        omega
      simp [Option.filter, before, sameLive]
    · by_cases before : bucket.isLive now fullKey = true <;>
        simp [Option.filter, isLive, before, sameLive]

theorem decision_congr {limiter other : MemoryRateLimiter} {hit : Hit}
    (sameWindow : limiter.window hit.now hit.bucket = other.window hit.now hit.bucket) :
    limiter.decision hit = other.decision hit ∧
      (limiter.written hit.now hit.key hit.limit).window =
        (other.written hit.now hit.key hit.limit).window := by
  have sameCounting : (limiter.counting hit.now hit.key hit.limit).window =
      (other.counting hit.now hit.key hit.limit).window := by
    unfold window at sameWindow
    unfold counting
    rw [← Hit.bucket]
    cases isLive : limiter.live hit.now hit.bucket with
    | none =>
      rw [isLive, map_none, eq_comm, map_eq_none_iff] at sameWindow
      rw [sameWindow]
      rfl
    | some bucket =>
      rw [isLive, map_some, eq_comm, map_eq_some_iff] at sameWindow
      obtain ⟨found, isFound, same⟩ := sameWindow
      rw [isFound]
      exact same.symm
  have sameHits := congrArg Prod.fst sameCounting
  have sameStart := congrArg Prod.snd sameCounting
  simp only [Bucket.window] at sameHits sameStart
  have sameDecision : limiter.decision hit = other.decision hit := by
    unfold decision MemoryRateLimiter.hit
    by_cases atEpoch : hit.now = 0
    · simp [atEpoch]
    · simp only [atEpoch, if_false, opened_eq, ← counting.eq_def, sameHits, retryAfter, sameStart]
      split <;> rfl
  refine ⟨sameDecision, ?_⟩
  unfold decision at sameDecision
  simp [written, Bucket.window, sameHits, sameStart, sameDecision]

def Tracks (known : Finset String) (limiter : MemoryRateLimiter) : Prop :=
  ∀ fullKey, limiter.buckets.lookup fullKey ≠ none → fullKey ∈ known

theorem tracks_new (known : Finset String) : new.Tracks known :=
  fun _ found => absurd rfl found

section FewBuckets

variable {known : Finset String} {limiter : MemoryRateLimiter} {hit : Hit}

theorem buckets_after_of_few (tracks : limiter.Tracks known) (few : known.card ≤ maxBuckets)
    (isKnown : hit.bucket ∈ known) (started : hit.now ≠ 0) :
    (limiter.after hit).buckets = (limiter.swept hit.now).insert hit.bucket
      (limiter.written hit.now hit.key hit.limit) := by
  have keysKnown : ((limiter.swept hit.now).insert hit.bucket
      (limiter.written hit.now hit.key hit.limit)).keys.toFinset ⊆
        known := by
    intro fullKey isKey
    rw [List.mem_toFinset, ← AList.mem_keys, AList.mem_insert] at isKey
    rcases isKey with rfl | isSwept
    · exact isKnown
    · rw [← AList.lookup_isSome, isSome_iff_exists] at isSwept
      obtain ⟨bucket, found⟩ := isSwept
      apply tracks
      rw [lookup_of_swept found]
      exact some_ne_none bucket
  have within := (Finset.card_le_card keysKnown).trans few
  rw [toFinset_card_of_nodup (AList.keys_nodup _), AList.keys,
    List.keys, length_map] at within
  rw [after, buckets_hit started, ← Hit.bucket]
  split
  · rw [enforceCap, if_pos within]
  · rfl

theorem Tracks.after (tracks : limiter.Tracks known) (isKnown : hit.bucket ∈ known) :
    (limiter.after hit).Tracks known := by
  by_cases atEpoch : hit.now = 0
  · rw [(after_of_epoch atEpoch limiter).1]
    exact tracks
  intro fullKey found
  obtain ⟨bucket, isBucket⟩ := ne_none_iff_exists'.mp found
  rcases lookup_after atEpoch isBucket with ⟨rfl, -⟩ | ⟨-, before⟩
  · exact isKnown
  · apply tracks
    rw [before]
    exact some_ne_none bucket

theorem window_after_other (tracks : limiter.Tracks known) (few : known.card ≤ maxBuckets)
    (isKnown : hit.bucket ∈ known) {fullKey : String} (isOther : fullKey ≠ hit.bucket) :
    (limiter.after hit).window hit.now fullKey = limiter.window hit.now fullKey := by
  by_cases atEpoch : hit.now = 0
  · rw [(after_of_epoch atEpoch limiter).1]
  unfold window live
  rw [buckets_after_of_few tracks few isKnown atEpoch, AList.lookup_insert_ne isOther]
  rcases lookup_swept hit.now fullKey limiter with same | isLive
  · rw [same]
  · rw [isLive, live]
    simp

theorem window_after_same (tracks : limiter.Tracks known) (few : known.card ≤ maxBuckets)
    (isKnown : hit.bucket ∈ known) (started : hit.now ≠ 0) :
    (limiter.after hit).window hit.now hit.bucket = (some
      (limiter.written hit.now hit.key hit.limit).window).filter
      (windowLive hit.now hit.bucket) := by
  unfold window live
  rw [buckets_after_of_few tracks few isKnown started]
  by_cases isLive :
      Bucket.isLive hit.now hit.bucket (limiter.written hit.now hit.key hit.limit) = true
  · have sameLive : windowLive hit.now hit.bucket
        (limiter.written hit.now hit.key hit.limit).window = true := isLive
    simp [Option.filter, isLive, sameLive]
  · have sameLive : ¬ windowLive hit.now hit.bucket
        (limiter.written hit.now hit.key hit.limit).window = true := isLive
    simp [Option.filter, isLive, sameLive]

end FewBuckets

/-- From an instant on, two limiters have the same windows in some buckets. -/
def Alike (watched : Finset String) (now : Nat) (limiter other : MemoryRateLimiter) : Prop :=
  ∀ fullKey ∈ watched, limiter.window now fullKey = other.window now fullKey

namespace Alike

variable {known watched : Finset String} {now : Nat} {limiter other : MemoryRateLimiter}

theorem later {after : Nat} (elapsed : now ≤ after)
    (alike : Alike watched now limiter other) : Alike watched after limiter other := by
  intro fullKey isWatched
  rw [window_later elapsed, window_later elapsed, alike fullKey isWatched]

theorem after_unwatched {hit : Hit} (alike : Alike watched hit.now limiter other)
    (tracks : limiter.Tracks known) (few : known.card ≤ maxBuckets) (isKnown : hit.bucket ∈ known)
    (notWatched : hit.bucket ∉ watched) : Alike watched hit.now (limiter.after hit) other := by
  intro fullKey isWatched
  have isOther : fullKey ≠ hit.bucket := by
    rintro rfl
    exact notWatched isWatched
  rw [window_after_other tracks few isKnown isOther]
  exact alike fullKey isWatched

theorem after {hit : Hit} (alike : Alike watched hit.now limiter other)
    (tracks : limiter.Tracks known) (otherTracks : other.Tracks known)
    (few : known.card ≤ maxBuckets) (isKnown : hit.bucket ∈ known) :
    Alike watched hit.now (limiter.after hit) (other.after hit) := by
  intro fullKey isWatched
  have sameWindow := alike fullKey isWatched
  by_cases isHit : fullKey = hit.bucket
  · subst isHit
    by_cases atEpoch : hit.now = 0
    · rw [(after_of_epoch atEpoch limiter).1, (after_of_epoch atEpoch other).1]
      exact sameWindow
    · rw [window_after_same tracks few isKnown atEpoch,
        window_after_same otherTracks few isKnown atEpoch, (decision_congr sameWindow).2]
  · rw [window_after_other tracks few isKnown isHit,
      window_after_other otherTracks few isKnown isHit]
    exact sameWindow

end Alike

end MemoryRateLimiter

/-! ## Runs with and without the checks of another limiter -/

open MemoryRateLimiter

section Runs

variable {definitions : Definitions} {mine theirs : String} {known : Finset String}

/-- Checks of `theirs` in unwatched buckets do not change `mine`'s answers. -/
theorem answersOf_filter (watched : Finset String) (distinct : mine ≠ theirs)
    (few : known.card ≤ maxBuckets) {checks : List Check}
    (isKnown : ∀ request ∈ checks, ∀ hit, request.hit? definitions = some hit → hit.bucket ∈ known)
    (isWatched : ∀ request ∈ checks, ∀ hit,
        request.name = mine → request.hit? definitions = some hit → hit.bucket ∈ watched)
    (notWatched : ∀ request ∈ checks, ∀ hit,
        request.name = theirs → request.hit? definitions = some hit → hit.bucket ∉ watched)
    (ordered : checks.Pairwise fun first second => first.now ≤ second.now)
    {now : Nat} (started : ∀ request ∈ checks, now ≤ request.now)
    {limiter other : MemoryRateLimiter} (tracks : limiter.Tracks known)
    (otherTracks : other.Tracks known) (alike : Alike watched now limiter other) :
    answersOf definitions mine limiter checks = answersOf definitions mine other
        (checks.filter fun request => request.name ≠ theirs) := by
  induction checks generalizing limiter other now with
  | nil => rfl
  | cons request rest ih =>
    rw [forall_mem_cons] at isKnown isWatched notWatched started
    rw [pairwise_cons] at ordered
    have alikeNow := alike.later started.1
    have continues :=
      fun nextLimiter nextOther =>
        @ih isKnown.2 isWatched.2 notWatched.2 ordered.2 request.now ordered.1 nextLimiter nextOther
    have sameClock : ∀ hit, request.hit? definitions = some hit → hit.now = request.now := by
      intro hit isHit
      simp only [Check.hit?, bind_eq_some_iff, map_eq_some_iff] at isHit
      obtain ⟨definition, -, key, -, rfl⟩ := isHit
      rfl
    by_cases isTheirs : request.name = theirs
    · have notMine : request.name ≠ mine := by
        rw [isTheirs]
        exact distinct.symm
      rw [filter_cons_of_neg (by simp [isTheirs]), answersOf_cons,
        if_neg notMine, Check.apply_snd]
      cases isHit : request.hit? definitions with
      | none => exact continues limiter other tracks otherTracks alikeNow
      | some hit =>
        rw [← sameClock hit isHit] at alikeNow continues
        exact continues (limiter.after hit) other (tracks.after (isKnown.1 hit isHit)) otherTracks
          (alikeNow.after_unwatched tracks few (isKnown.1 hit isHit)
            (notWatched.1 hit isTheirs isHit))
    · have bothContinue : answersOf definitions mine
            (request.apply definitions limiter).2 rest =
          answersOf definitions mine (request.apply definitions other).2
            (rest.filter fun request => request.name ≠ theirs) := by
        rw [Check.apply_snd, Check.apply_snd]
        cases isHit : request.hit? definitions with
        | none => exact continues limiter other tracks otherTracks alikeNow
        | some hit =>
          rw [← sameClock hit isHit] at alikeNow continues
          exact continues (limiter.after hit) (other.after hit) (tracks.after (isKnown.1 hit isHit))
            (otherTracks.after (isKnown.1 hit isHit))
            (alikeNow.after tracks otherTracks few (isKnown.1 hit isHit))
      rw [filter_cons_of_pos (by simp [isTheirs]), answersOf_cons, answersOf_cons]
      by_cases isMine : request.name = mine
      · have sameAnswer :
            (request.apply definitions limiter).1 = (request.apply definitions other).1 := by
          apply Check.apply_fst
          intro hit isHit
          have sameWindow := alikeNow hit.bucket (isWatched.1 hit isMine isHit)
          rw [← sameClock hit isHit] at sameWindow
          exact (decision_congr sameWindow).1
        rw [if_pos isMine, if_pos isMine, sameAnswer, bothContinue]
      · rw [if_neg isMine, if_neg isMine]
        exact bothContinue

end Runs

def bucketsOf (definitions : Definitions) (checks : List Check) : Finset String :=
  (checks.filterMap (Check.bucket? definitions)).toFinset

/--
A limiter answers the same with and without the checks of another one that
counts in other buckets, as long as the run stays within the cap.
-/
theorem answers_without_other_limiter (definitions : Definitions) (mine theirs : String)
    (distinct : mine ≠ theirs) (checks : List Check)
    (ordered : checks.Pairwise fun first second => first.now ≤ second.now)
    (apart : ∀ first ∈ checks, ∀ second ∈ checks, first.name = mine → second.name = theirs →
      first.bucket? definitions ≠ none → first.bucket? definitions ≠ second.bucket? definitions)
    (few : (bucketsOf definitions checks).card ≤ maxBuckets) :
    answersOf definitions mine MemoryRateLimiter.new checks =
      answersOf definitions mine MemoryRateLimiter.new
        (checks.filter fun request => request.name ≠ theirs) := by
  have isBucket : ∀ {request : Check} {hit : Hit}, request.hit? definitions = some hit →
      request.bucket? definitions = some hit.bucket := by
    intro request hit isHit
    rw [Check.bucket?, isHit, map_some]
  apply answersOf_filter
    (bucketsOf definitions (checks.filter fun request => request.name = mine))
    distinct few _ _ _ ordered (fun request _ => Nat.zero_le request.now)
    (tracks_new _) (tracks_new _) (fun _ _ => rfl)
  · intro request isIn hit isHit
    simp only [bucketsOf, List.mem_toFinset, mem_filterMap]
    exact ⟨request, isIn, isBucket isHit⟩
  · intro request isIn hit isMine isHit
    simp only [bucketsOf, List.mem_toFinset, mem_filterMap]
    exact ⟨request, mem_filter.mpr ⟨isIn, by simp [isMine]⟩, isBucket isHit⟩
  · intro request isIn hit isTheirs isHit isWatched
    simp only [bucketsOf, List.mem_toFinset, mem_filterMap,
      mem_filter, decide_eq_true_eq] at isWatched
    obtain ⟨first, ⟨firstIn, isMine⟩, firstBucket⟩ := isWatched
    have notSame := apart first firstIn request isIn isMine isTheirs
    rw [firstBucket, isBucket isHit] at notSame
    exact notSame (some_ne_none _) rfl

/-- The kit's three limiters, under their canonical names. -/
def kitLimiters (toLowercase : String → String) : Definitions :=
  fromFortifyConfig toLowercase
    { login := "login", twoFactor := some "two-factor", passkeys := some "passkeys" }

def passkeyCheck (now : Nat) (credentialId : String) : Check where
  now := now
  name := "passkeys"
  input :=
    { username := none, ip := some "1.2.3.4", sessionId := none, credentialId := some credentialId }

def loginCheck (now : Nat) (username : String) : Check where
  now := now
  name := "login"
  input :=
    { username := some username, ip := some "1.2.3.4", sessionId := none, credentialId := none }

theorem login_unaffected_by_passkeys :
    answersOf (kitLimiters (String.map Char.toLower)) "login"
      MemoryRateLimiter.new [passkeyCheck 100 "key-1", loginCheck 101 "Ada",
      passkeyCheck 102 "key-1", loginCheck 103 "ada"] =
      answersOf (kitLimiters (String.map Char.toLower)) "login" MemoryRateLimiter.new
      ([passkeyCheck 100 "key-1", loginCheck 101 "Ada",
      passkeyCheck 102 "key-1", loginCheck 103 "ada"].filter
      fun request => request.name ≠ "passkeys") :=
  answers_without_other_limiter (kitLimiters (String.map Char.toLower))
    "login" "passkeys" (by decide) _ (by decide +kernel)
    (by decide +kernel) (by decide +kernel)

/--
Five passkey checks with a credential named like a user use up that user's
login attempts: both limiters count in the bucket of `ada|1.2.3.4`.
-/
theorem passkeys_consume_login_attempts :
    answersOf (kitLimiters (String.map Char.toLower)) "login"
      MemoryRateLimiter.new (List.replicate 5 (passkeyCheck 100 "ada") ++ [loginCheck 101 "Ada"]) ≠
      answersOf (kitLimiters (String.map Char.toLower)) "login" MemoryRateLimiter.new
      ((List.replicate 5 (passkeyCheck 100 "ada") ++
      [loginCheck 101 "Ada"]).filter fun request => request.name ≠ "passkeys") := by
  decide +kernel

end Rustasea.Auth
