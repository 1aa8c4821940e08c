import Rustasea.Cache.RedisStore

namespace Rustasea.Cache

open DecimalText

/-!
# Counting in the memory store

`increment` adds to the parsed value with the machine's `+`, and the trait's
`decrement` negates its amount with the machine's `-` first.  A run of calls is
set beside the same run in unbounded integers.  The two agree, in a build with
overflow checks and in one without, exactly as long as no amount to subtract is
the least `i64` and every exact result fits.
-/

/-- What a call does to a counter. -/
inductive Change where
  | increment (n : Int64)
  | decrement (n : Int64)

structure CounterCall where
  now : Nat
  key : String
  change : Change

def Change.exact (current : Int) : Change → Int
  | .increment n => current + n.toInt
  | .decrement n => current - n.toInt

/-- Whether the amount can be negated where the call does so. -/
def Change.hasOpposite : Change → Bool
  | .increment _ => true
  | .decrement n => n ≠ Int64.minValue

namespace CounterCall

/-- The call of the `Store` trait. -/
def operation (call : CounterCall) : Operation :=
  match call.change with
  | .increment n => .increment call.key n
  | .decrement n => .decrement call.key n

def apply (overflowChecks : Bool) (call : CounterCall) (store : MemoryStore Bytes) :
    Outcome × MemoryStore Bytes :=
  store.apply overflowChecks call.now call.operation

/-- The store that holds a number under the call's key, and what it held else. -/
def holding (call : CounterCall) (number : Int)
    (store : MemoryStore Bytes) : MemoryStore Bytes where
  inner :=
    Function.update store.inner call.key (some { value := decimal number, expiresAt := none })

/--
The call stores and returns the exact result, or it fails with an error and
changes nothing.
-/
def IsExact (overflowChecks : Bool) (call : CounterCall) (store : MemoryStore Bytes) : Prop :=
  (∃ current, store.current call.now call.key = .ok current ∧ call.apply overflowChecks store =
          (.answered (.number (call.change.exact current)),
            call.holding (call.change.exact current) store)) ∨
    ∃ error, call.apply overflowChecks store = (.failed error, store)

def counted (call : CounterCall) (store : MemoryStore Bytes) : MemoryStore Bytes :=
  match store.current call.now call.key with
  | .ok current => call.holding (call.change.exact current) store
  | .error _ => store

/-- The amount can be negated, and the exact result is an `i64`. -/
def fits (call : CounterCall) (store : MemoryStore Bytes) : Bool :=
  call.change.hasOpposite &&
    match store.current call.now call.key with
    | .ok current => inI64 (call.change.exact current)
    | .error _ => true

end CounterCall

/-! ## One call -/

section Call

variable {call : CounterCall} {store : MemoryStore Bytes}

theorem current_holding (call : CounterCall) (store : MemoryStore Bytes) {number : Int}
    (inRange : inI64 number = true) (later : Nat) :
    (call.holding number store).current later call.key = .ok number := by
  simp [MemoryStore.current, CounterCall.holding, Entry.alive, parseI64_decimal inRange]

theorem apply_of_hasOpposite (overflowChecks : Bool) (store : MemoryStore Bytes)
    (hasOpposite : call.change.hasOpposite = true) :
    ∃ n : Int64, (∀ current, current + n.toInt = call.change.exact current) ∧
      call.apply overflowChecks store = store.increment overflowChecks call.now call.key n := by
  obtain ⟨now, key, change⟩ := call
  cases change with
  | increment n => exact ⟨n, fun _ => rfl, rfl⟩
  | decrement n =>
    have notLeast : n ≠ Int64.minValue := by simpa [Change.hasOpposite] using hasOpposite
    refine ⟨-n, ?_, ?_⟩
    · intro current
      rw [MemoryStore.toInt_neg_of_ne notLeast]
      rfl
    · simp [CounterCall.apply, CounterCall.operation, MemoryStore.apply,
        MemoryStore.decrement, notLeast]

theorem exact_of_fits (overflowChecks : Bool) (fits : call.fits store = true) :
    call.IsExact overflowChecks store ∧
    (call.apply overflowChecks store).2 = call.counted store := by
  simp only [CounterCall.fits, Bool.and_eq_true] at fits
  obtain ⟨hasOpposite, inRange⟩ := fits
  obtain ⟨n, sameSum, applied⟩ := apply_of_hasOpposite overflowChecks store hasOpposite
  cases starts : store.current call.now call.key with
  | error error =>
    have failed : call.apply overflowChecks store = (.failed error, store) := by
      rw [applied]
      simp [MemoryStore.increment, starts]
    refine ⟨.inr ⟨error, failed⟩, ?_⟩
    simp [failed, CounterCall.counted, starts]
  | ok current =>
    simp only [starts, ← sameSum] at inRange
    have answered := MemoryStore.increment_in_range overflowChecks starts inRange
    rw [← applied, sameSum] at answered
    refine ⟨.inl ⟨current, starts, answered⟩, ?_⟩
    simp [answered, CounterCall.counted, starts, CounterCall.holding]

theorem fits_of_exact (isExact : call.IsExact true store) : call.fits store = true := by
  have notPanicked : (call.apply true store).1 ≠ .panicked := by
    rcases isExact with ⟨current, _, applied⟩ | ⟨error, applied⟩ <;> simp [applied]
  have hasOpposite : call.change.hasOpposite = true := by
    obtain ⟨now, key, change⟩ := call
    cases change with
    | increment n => rfl
    | decrement n =>
      have notLeast : n ≠ Int64.minValue := by
        rintro rfl
        exact notPanicked rfl
      simpa [Change.hasOpposite] using notLeast
  obtain ⟨n, sameSum, applied⟩ := apply_of_hasOpposite true store hasOpposite
  simp only [CounterCall.fits, hasOpposite, Bool.true_and]
  cases starts : store.current call.now call.key with
  | error error => rfl
  | ok current =>
    simp only [← sameSum]
    by_contra outOfRange
    simp only [Bool.not_eq_true] at outOfRange
    simp [applied, MemoryStore.increment, starts, outOfRange] at notPanicked

end Call

/-! ## Runs of calls -/

def ExactRun (overflowChecks : Bool) : List CounterCall → MemoryStore Bytes → Prop
  | [], _ => True
  | call :: rest, store =>
    call.IsExact overflowChecks store ∧
      ExactRun overflowChecks rest (call.apply overflowChecks store).2

def fitsRun : List CounterCall → MemoryStore Bytes → Bool
  | [], _ => true
  | call :: rest, store => call.fits store && fitsRun rest (call.counted store)

/--
Every call of a run stores and returns the exact integer or fails and leaves the
store, in either build, exactly when no call subtracts the least `i64` and all
exact results are in range.
-/
theorem exactRun_iff_fitsRun (calls : List CounterCall) (store : MemoryStore Bytes) :
    (∀ overflowChecks, ExactRun overflowChecks calls store) ↔ fitsRun calls store = true := by
  induction calls generalizing store with
  | nil => simp [ExactRun, fitsRun]
  | cons call rest ih =>
    simp only [ExactRun, fitsRun, Bool.and_eq_true]
    constructor
    · intro isExact
      have fits := fits_of_exact (isExact true).1
      refine ⟨fits, (ih _).mp ?_⟩
      intro overflowChecks
      rw [← (exact_of_fits overflowChecks fits).2]
      exact (isExact overflowChecks).2
    · rintro ⟨fits, restFits⟩ overflowChecks
      obtain ⟨isExact, after⟩ := exact_of_fits overflowChecks fits
      rw [after]
      exact ⟨isExact, (ih _).mpr restFits overflowChecks⟩

/--
Subtracting the least `i64` from a key that holds nothing panics in a build with
overflow checks; adding one to the greatest wraps in a build without.
-/
theorem extreme_amounts_are_not_exact :
    ¬ ExactRun true [⟨0, "visits", .decrement Int64.minValue⟩] MemoryStore.new ∧
      ¬ ExactRun false [⟨0, "visits", .increment Int64.maxValue⟩, ⟨1, "visits", .increment 1⟩]
        MemoryStore.new := by
  constructor
  · rintro ⟨isExact, _⟩
    exact absurd (fits_of_exact isExact) (by decide)
  · rintro ⟨_, second, _⟩
    rw [(exact_of_fits false (by decide)).2] at second
    have starts :
        (CounterCall.counted ⟨0, "visits", .increment Int64.maxValue⟩
            MemoryStore.new).current 1 "visits" =
          .ok Int64.maxValue.toInt :=
      current_holding ⟨0, "visits", .increment Int64.maxValue⟩ .new
        (show inI64 Int64.maxValue.toInt = true by decide) 1
    rcases second with ⟨current, startsAgain, applied⟩ | ⟨error, applied⟩
    · have same := startsAgain.symm.trans starts
      injection same with same
      have answer := congrArg Prod.fst applied
      simp only [CounterCall.apply, CounterCall.operation,
        MemoryStore.apply, MemoryStore.increment, starts, same] at answer
      revert answer
      decide
    · have answer := congrArg Prod.fst applied
      simp [CounterCall.apply, CounterCall.operation,
        MemoryStore.apply, MemoryStore.increment, starts] at answer

end Rustasea.Cache
