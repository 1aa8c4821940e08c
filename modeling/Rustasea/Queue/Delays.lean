import Rustasea.Library.CivilDate
import Rustasea.Queue.RedisDriver
import Rustasea.Queue.RetryBudget

namespace Rustasea.Queue

open CalendarTime (rfc3339)
open Dispatch (DispatchHandle availability? retried toPayload)
open RedisDriver (retryOf)

/-!
# From a delay to an instant

A push and a release turn a `std::time::Duration` into a `chrono` one, which
falls back to zero for a delay that does not fit, and add it to the clock, which
panics past the last representable instant.
-/

variable {Json Text : Type}

/-- `DateTime::<Utc>::MIN_UTC`. -/
def Instant.minUtc : Instant := -8334601228800 * 1000000000

/--
An availability honours a delay: it is no earlier than the end of the delay, or
the last instant, and no earlier than what a shorter delay gives.
-/
structure Honours (utcNow : Instant) (delay : Duration) (availableAt : Instant) :
    Prop where
  atLeast : min (utcNow + delay) Instant.maxUtc ≤ availableAt
  monotone :
    ∀ shorter ≤ delay, ∀ earlier, utcNow.after? shorter = some earlier → earlier ≤ availableAt

/--
Nothing that takes a delay panics, and each honours it: the addition itself, a
dispatch, the default release, and those of the Redis and the database driver.
-/
structure DelayKept (Json Text : Type) (utcNow : Instant) (delay : Duration) :
    Prop where
  added : ∃ availableAt, utcNow.after? delay = some availableAt ∧ Honours utcNow delay availableAt
  dispatched : ∀ (handle : DispatchHandle Json) (queue connection : String), handle.delay = delay →
      ∃ payload, toPayload handle queue connection utcNow = some payload ∧
          Honours utcNow delay (payload.availableAt.getD utcNow)
  released : ∀ payload : JobPayload Json, ∃ availableAt,
        availability? utcNow delay = some availableAt ∧ Honours utcNow delay
            ((retried payload availableAt).availableAt.getD utcNow)
  releasedByRedis : ∀ payload : JobPayload Json, ∃ next, retryOf utcNow delay payload = some next ∧
          Honours utcNow delay (next.availableAt.getD utcNow)
  releasedByDatabase : ∀ (payload : JobPayload Json) (id : String) (table : JobsTable Text),
      payload.id = some id → ∃ availableAt after,
        Honours utcNow delay availableAt ∧ release rfc3339 utcNow delay payload table = some after ∧
          ∀ row ∈ after, row.id = some id → row.availableAt = rfc3339 availableAt

/--
The delay ends at a representable instant.  At the last instant itself a delay
that is taken for zero does no harm.
-/
def Fits (utcNow : Instant) (delay : Duration) : Prop :=
  utcNow + delay ≤ Instant.maxUtc ∨ utcNow = Instant.maxUtc ∧ 9223372036854775807 * 1000000 < delay

/-! ## The addition -/

theorem chronoDuration_le (delay : Duration) : chronoDuration delay ≤ delay := by
  unfold chronoDuration
  split
  next => exact Int.le_refl _
  next => exact Int.natCast_nonneg delay

variable {utcNow availableAt : Instant} {delay : Duration}

theorem after?_le_maxUtc (added : utcNow.after? delay = some availableAt) :
    availableAt ≤ Instant.maxUtc := by
  unfold Instant.after? at added
  split at added
  next fits =>
    rw [← Option.some.inj added]
    exact fits
  next => cases added

theorem after?_le_add (added : utcNow.after? delay = some availableAt) :
    availableAt ≤ utcNow + delay := by
  unfold Instant.after? at added
  split at added
  next =>
    rw [← Option.some.inj added]
    exact Int.add_le_add_left (chronoDuration_le delay) utcNow
  next => cases added

theorem delay_le_of_ends {utcNow : Int} {delay : Nat}
    (isEarliest : -8334601228800 * 1000000000 ≤ utcNow)
    (fits : utcNow + delay ≤ 8210266876799 * 1000000000 + 999999999) :
    delay ≤ 9223372036854775807 * 1000000 := by
  omega

variable {utcNow : Instant}

theorem after?_of_le (isEarliest : Instant.minUtc ≤ utcNow)
    (fits : utcNow + delay ≤ Instant.maxUtc) : utcNow.after? delay = some (utcNow + delay) := by
  have isDelay : chronoDuration delay = delay := if_pos (delay_le_of_ends isEarliest fits)
  rw [Instant.after?, isDelay, if_pos fits]

theorem added_iff (isEarliest : Instant.minUtc ≤ utcNow) (isLatest : utcNow ≤ Instant.maxUtc) :
    (∃ availableAt, utcNow.after? delay = some availableAt ∧ Honours utcNow delay availableAt) ↔
      Fits utcNow delay := by
  constructor
  · rintro ⟨availableAt, added, honours⟩
    have atLeast := honours.atLeast
    unfold Instant.after? at added
    split at added
    next fits =>
      rw [← Option.some.inj added] at atLeast
      unfold chronoDuration at fits atLeast
      split at fits
      next isDelay => exact .inl fits
      next isZero =>
        rw [if_neg isZero, Int.add_zero] at atLeast
        have isLater : utcNow < utcNow + delay := Int.lt_add_of_pos_right utcNow
            (Int.natCast_pos.mpr (Nat.lt_of_le_of_lt (Nat.zero_le _) (Nat.not_le.mp isZero)))
        refine .inr ⟨le_antisymm isLatest ?_, Nat.not_le.mp isZero⟩
        exact (min_le_iff.mp atLeast).resolve_left (not_le.mpr isLater)
    next => cases added
  · rintro (fits | ⟨isLast, isHuge⟩)
    · refine ⟨_, after?_of_le isEarliest fits, min_le_left _ _, ?_⟩
      intro shorter isShorter earlier added
      exact le_trans (after?_le_add added) (Int.add_le_add_left (Int.ofNat_le.mpr isShorter) utcNow)
    · have isZero : chronoDuration delay = 0 := if_neg (Nat.not_le.mpr isHuge)
      refine ⟨utcNow, ?_, ?_, ?_⟩
      · rw [Instant.after?, isZero, Int.add_zero, if_pos isLatest]
      · rw [isLast]
        exact min_le_right _ _
      · intro shorter _ earlier added
        rw [isLast]
        exact after?_le_maxUtc added

/-! ## Dispatches and releases -/

theorem honours_zero (utcNow : Instant) : Honours utcNow 0 utcNow where
  atLeast := by
    refine le_trans (min_le_left _ _) ?_
    exact Int.le_of_eq (Int.add_zero utcNow)
  monotone := by
    intro shorter isNone earlier added
    have small := after?_le_add added
    rw [Nat.le_zero.mp isNone] at small
    exact le_trans small (Int.le_of_eq (Int.add_zero utcNow))

theorem availability_of_added (added : utcNow.after? delay = some availableAt)
    (honours : Honours utcNow delay availableAt) :
    ∃ chosen,
      availability? utcNow delay = some chosen ∧ Honours utcNow delay (chosen.getD utcNow) := by
  by_cases isZero : delay = 0
  · subst isZero
    exact ⟨none, rfl, honours_zero utcNow⟩
  · refine ⟨some availableAt, ?_, honours⟩
    rw [availability?, if_neg isZero, added]
    rfl

theorem delayKept_of_added (sum :
      ∃ availableAt, utcNow.after? delay = some availableAt ∧ Honours utcNow delay availableAt) :
    DelayKept Json Text utcNow delay := by
  obtain ⟨availableAt, added, honours⟩ := sum
  obtain ⟨chosen, available, chosenHonours⟩ := availability_of_added added honours
  refine ⟨⟨availableAt, added, honours⟩, ?_, ?_, ?_, ?_⟩
  · rintro handle queue connection rfl
    refine ⟨_, by rw [toPayload, available]; rfl, chosenHonours⟩
  · intro payload
    exact ⟨chosen, available, chosenHonours⟩
  · intro payload
    by_cases isZero : delay = 0
    · subst isZero
      exact ⟨_, rfl, honours_zero utcNow⟩
    · refine ⟨_, (if_neg isZero).trans (congrArg (Option.map _) added), honours⟩
  · intro payload id table hasId
    refine ⟨availableAt, _, honours, by rw [release, hasId, added]; rfl, ?_⟩
    intro row isRow isId
    rcases SqlTable.mem_update.mp isRow with ⟨-, isOther⟩ | ⟨before, -, -, rfl⟩
    · exact absurd (decide_eq_true isId) isOther
    · rfl

/--
A delay is kept on every path exactly when it ends at a representable instant,
or the clock stands at the last one and the delay is taken for zero.  The delay
of a policy grows with the attempt.
-/
theorem delays_kept_iff (isEarliest : Instant.minUtc ≤ utcNow)
    (isLatest : utcNow ≤ Instant.maxUtc) :
    (∀ delay : Duration, DelayKept Json Text utcNow delay ↔ Fits utcNow delay) ∧
      ∀ policy : JobPolicy, policy.backoff ≤ Duration.max →
        ∀ first second : U32, first ≤ second →
          policy.delayForAttempt first ≤ policy.delayForAttempt second := by
  constructor
  · intro delay
    rw [← added_iff isEarliest isLatest]
    exact ⟨DelayKept.added, delayKept_of_added⟩
  · intro policy isDuration first second before
    rw [WorkerLoop.delayForAttempt_eq isDuration, WorkerLoop.delayForAttempt_eq isDuration]
    exact WorkerLoop.exponentialBackoff_mono policy.backoff before

theorem delays_kept_iff_epoch :
    Instant.minUtc ≤ 0 ∧ 0 ≤ Instant.maxUtc ∧
    (DelayKept Unit Unit 0 60000000000 ↔ Fits 0 60000000000) :=
  ⟨by decide, by decide, (delays_kept_iff (by decide) (by decide)).1 60000000000⟩

/-- The longest delay makes a job available at once. -/
theorem longest_delay_is_none :
    Instant.after? 0 Duration.max = some 0 ∧ ¬DelayKept Unit Unit 0 Duration.max := by
  have isEarliest : Instant.minUtc ≤ 0 := by decide
  have isLatest : 0 ≤ Instant.maxUtc := by decide
  refine ⟨by decide, fun isKept => ?_⟩
  rcases (added_iff isEarliest isLatest).mp isKept.added with fits | ⟨isLast, -⟩
  · exact absurd fits (by decide)
  · exact absurd isLast (by decide)

end Rustasea.Queue
