import Rustasea.Cache.MemoryStore

namespace Rustasea.Cache

/-!
# Atomic locks with `get`, `block` and `release`

A lock is a lease over a cache store: an entry inserted only when its key is
absent, under an owner token minted for the acquisition, and deleted only while
it still holds that token.  Client instants and durations are nanoseconds of one
clock; each store measures leases in its own unit.
-/

/-- A `std::time::Duration`, in nanoseconds. -/
abbrev Duration := Nat

/-- The fractional digits of a decimal, trailing zeros dropped. -/
def fractionDigits (fraction : Nat) : (width : Nat) → List Char
  | 0 => []
  | width + 1 =>
    if fraction = 0 then []
    else Nat.digitChar (fraction / 10 ^ width) :: fractionDigits (fraction % 10 ^ width) width

def decimalText (whole fraction width : Nat) (unit : String) : String :=
  let digits := fractionDigits fraction width
  Nat.repr whole ++ (if digits = [] then "" else "." ++ String.ofList digits) ++ unit

def Duration.debug (duration : Duration) : String :=
  if 1000000000 ≤ duration then decimalText (duration / 1000000000) (duration % 1000000000) 9 "s"
  else if 1000000 ≤ duration then decimalText (duration / 1000000) (duration % 1000000) 6 "ms"
  else if 1000 ≤ duration then decimalText (duration / 1000) (duration % 1000) 3 "µs"
  else decimalText duration 0 0 "ns"

/-- The errors of a cache operation a lock can meet. -/
inductive CacheError where
  | storeUnavailable (message : String)
  | touchFailed (message : String)
  | serialization (message : String)
  | unknownStore (name : String)
  | config (message : String)
  deriving DecidableEq

inductive LockError where
  | alreadyHeld (key : String) (waited : Duration)
  | storeUnavailable (message : String)
  | leaseExpired (key : String)
  deriving DecidableEq

def LockError.toCacheError : LockError → CacheError
  | .alreadyHeld key waited => .touchFailed ("lock " ++ key ++ " held after " ++ waited.debug)
  | .storeUnavailable message => .storeUnavailable message
  | .leaseExpired key => .touchFailed ("lease expired: " ++ key)

/-! ## The store behind a lock -/

/-- The stores that implement the atomic operations. -/
inductive Driver where
  | memory
  | redis (keyPrefix : String)
  deriving DecidableEq

namespace Driver

/-- `ttl_millis`: whole milliseconds, at least one and at most `u64::MAX`. -/
def ttlMillis (ttl : Duration) : Nat :=
  if ttl / 1000000 = 0 then 1
  else min (ttl / 1000000) 18446744073709551615

/-- The key a lock's entry lives under; redis keys are prefixed. -/
def qualified : Driver → String → String
  | .memory, key => key
  | .redis keyPrefix, key => keyPrefix ++ key

/-- The store's clock: nanoseconds in memory, milliseconds on redis. -/
def clock : Driver → Nat → Nat
  | .memory, now => now
  | .redis _, now => now / 1000000

def lease : Driver → Duration → Nat
  | .memory, ttl => ttl
  | .redis _, ttl =>
    if ttl = 0 then 0
    else ttlMillis ttl

def putIfAbsent (driver : Driver) (now : Nat) (key token : String) (ttl : Duration)
    (store : MemoryStore String) : Bool × MemoryStore String :=
  store.putIfAbsent (driver.clock now) (driver.qualified key) token (driver.lease ttl)

def compareAndDelete (driver : Driver) (now : Nat) (key token : String)
    (store : MemoryStore String) : Bool × MemoryStore String :=
  store.compareAndDelete (driver.clock now) (driver.qualified key) token

theorem clock_le (driver : Driver) {now later : Nat} (elapsed : now ≤ later) :
    driver.clock now ≤ driver.clock later := by
  cases driver with
  | memory => exact elapsed
  | redis keyPrefix => exact Nat.div_le_div_right elapsed

end Driver

/-- What becomes of one command sent to the store. -/
inductive Reply where
  | answered
  /-- The store executed the command, the answer never arrived. -/
  | lost (error : CacheError)
  /-- The command never reached the store. -/
  | refused (error : CacheError)
  deriving DecidableEq

def Reply.executed : Reply → Bool
  | .answered | .lost _ => true
  | .refused _ => false

/-! ## Locks and their guards -/

/-- A named mutual-exclusion lease over a cache store. -/
structure Lock where
  key : String
  ttl : Duration
  deriving DecidableEq

/-- The guard of one acquisition, with the owner token it acquired. -/
structure LockGuard where
  key : String
  token : String
  released : Bool
  deriving DecidableEq

/-- A guard that will release `key` on drop. -/
def LockGuard.new (key token : String) : LockGuard where
  key := key
  token := token
  released := false

def ownerToken (uuid : String) : String := "owner-" ++ uuid

def promoted : CacheError → CacheError
  | .storeUnavailable message => (LockError.storeUnavailable message).toCacheError
  | error => error

/-- Attempt one atomic acquisition, returning a guard when it succeeds. -/
def Lock.get (driver : Driver) (now : Nat) (uuid : String) (reply : Reply)
    (lock : Lock) (store : MemoryStore String) :
    Except CacheError (Option LockGuard) × MemoryStore String :=
  let token := ownerToken uuid
  match reply with
  | .refused error => (.error (promoted error), store)
  | .lost error =>
    (.error (promoted error), (driver.putIfAbsent now lock.key token lock.ttl store).2)
  | .answered =>
    match driver.putIfAbsent now lock.key token lock.ttl store with
    | (true, after) => (.ok (some (LockGuard.new lock.key token)), after)
    | (false, after) => (.ok none, after)

theorem Lock.get_snd (driver : Driver) (now : Nat) (uuid : String) (reply : Reply)
    (lock : Lock) (store : MemoryStore String) :
    (lock.get driver now uuid reply store).2 =
      if reply.executed then (driver.putIfAbsent now lock.key (ownerToken uuid) lock.ttl store).2
      else
        store := by
  cases reply with
  | answered =>
    simp only [Lock.get, Reply.executed, if_true]
    split
    all_goals
      next outcome =>
      rw [outcome]
  | lost error => rfl
  | refused error => rfl

/-- One round of `block`: the guard, an error, or when to try again. -/
inductive BlockRound where
  | acquired (guard : LockGuard)
  | failed (error : CacheError)
  | sleeping (until_ : Nat)

def pollInterval : Duration := 50 * 1000000

/--
One round of the loop of `block`, entered at `now`: a store failure aborts, an
exhausted wait reports the contention.
-/
def Lock.blockRound (started wait now : Nat) (answer : Except CacheError (Option LockGuard))
    (lock : Lock) : BlockRound :=
  match answer with
  | .error error => .failed error
  | .ok (some guard) => .acquired guard
  | .ok none =>
    if wait ≤ now - started then .failed (LockError.alreadyHeld lock.key wait).toCacheError
    else .sleeping (now + pollInterval)

/-- A compare-and-delete on its way to the store. -/
structure Deletion where
  key : String
  token : String

/--
`release`: the guard is marked before the store is asked, so a second call does
nothing, whether or not the store ever answers.
-/
def LockGuard.release (guard : LockGuard) : LockGuard × Option Deletion :=
  if guard.released then (guard, none)
  else ({ guard with released := true }, some { key := guard.key, token := guard.token })

/-- `drop`: the compare-and-delete of `release`, left to a spawned task. -/
def LockGuard.drop (guard : LockGuard) : LockGuard × Option Deletion := guard.release

end Rustasea.Cache
