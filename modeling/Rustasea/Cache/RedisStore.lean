import Rustasea.Cache.Lock
import Rustasea.Library.DecimalText
import Rustasea.Library.GlobPatterns

namespace Rustasea.Cache

open DecimalText Function

/-!
# The operations of a cache store

The `Store` trait over opaque byte values, and the in-memory store's
implementation of it.  Instants and TTLs are nanoseconds of one monotonic
clock; numbers are kept as the decimal text of an `i64`.
-/

abbrev Bytes := List UInt8

/-- One call of the `Store` trait. -/
inductive Operation where
  | get (key : String)
  | put (key : String) (value : Bytes) (ttl : Duration)
  | putIfAbsent (key : String) (value : Bytes) (ttl : Duration)
  | compareAndDelete (key : String) (expected : Bytes)
  | touch (key : String) (ttl : Duration)
  | forget (key : String)
  | flush
  | increment (key : String) (n : Int64)
  | decrement (key : String) (n : Int64)
  deriving DecidableEq

/-- `Repository::forever`: a `put` that never expires. -/
def Operation.forever (key : String) (value : Bytes) : Operation :=
  .put key value 0

/-- What a call answers. -/
inductive Answer where
  | value (found : Option Bytes)
  | done
  | flag (changed : Bool)
  | number (next : Int)
  deriving DecidableEq

/-- What becomes of a call. -/
inductive Outcome where
  | answered (answer : Answer)
  | failed (error : CacheError)
  /-- The arithmetic of the call overflowed under overflow checks. -/
  | panicked
  deriving DecidableEq

/-! ## The in-memory store -/

namespace MemoryStore

/-- Store `value` under `key` for `ttl`, zero meaning forever. -/
def put {Value : Type} (now : Nat) (key : String) (value : Value) (ttl : Duration)
    (store : MemoryStore Value) : MemoryStore Value where
  inner := update store.inner key (some { value := value, expiresAt := expiry now ttl })

/-- Extend the TTL of `key` in place without reading the value. -/
def touch {Value : Type} (now : Nat) (key : String) (ttl : Duration)
    (store : MemoryStore Value) : Bool × MemoryStore Value :=
  match store.inner key with
  | some entry =>
    if entry.alive now then
      (true,
        { inner := update store.inner key (some { entry with expiresAt := expiry now ttl }) })
    else (false, store)
  | none => (false, store)

def flush {Value : Type} (_store : MemoryStore Value) : MemoryStore Value :=
  new

/-- The failure of an increment of something that is not a number. -/
def nonInteger (key : String) : CacheError :=
  .storeUnavailable ("key " ++ key ++ " holds a non-integer value")

/-- What an increment starts from: a missing or expired key is at zero. -/
def current (now : Nat) (key : String) (store : MemoryStore Bytes) : Except CacheError Int :=
  match store.inner key with
  | some entry =>
    if entry.alive now then
      -- the lossy decoding leaves digits and signs as they are
      match parseI64 entry.value with
      | some number => .ok number
      | none => .error (nonInteger key)
    else .ok 0
  | none => .ok 0

/--
Atomically add `n` to the numeric value under `key`.  An overflow panics where
overflow checks are compiled in, before anything is stored, and wraps
elsewhere.
-/
def increment (overflowChecks : Bool) (now : Nat) (key : String) (n : Int64)
    (store : MemoryStore Bytes) : Outcome × MemoryStore Bytes :=
  match store.current now key with
  | .error error => (.failed error, store)
  | .ok current =>
    let sum := current + n.toInt
    if inI64 sum = false ∧ overflowChecks then (.panicked, store)
    else
      let next := (Int64.ofInt sum).toInt
      (.answered (.number next),
        { inner := update store.inner key (some { value := decimal next, expiresAt := none }) })

/-- The trait's default `decrement`: an increment by `-n`. -/
def decrement (overflowChecks : Bool) (now : Nat) (key : String) (n : Int64)
    (store : MemoryStore Bytes) : Outcome × MemoryStore Bytes :=
  if n = Int64.minValue ∧ overflowChecks then (.panicked, store)
  else store.increment overflowChecks now key (-n)

def apply (overflowChecks : Bool) (now : Nat) (operation : Operation)
    (store : MemoryStore Bytes) : Outcome × MemoryStore Bytes :=
  match operation with
  | .get key =>
    let (found, swept) := store.get now key
    (.answered (.value found), swept)
  | .put key value ttl => (.answered .done, store.put now key value ttl)
  | .putIfAbsent key value ttl =>
    let (stored, after) := store.putIfAbsent now key value ttl
    (.answered (.flag stored), after)
  | .compareAndDelete key expected =>
    let (deleted, after) := store.compareAndDelete now key expected
    (.answered (.flag deleted), after)
  | .touch key ttl =>
    let (extended, after) := store.touch now key ttl
    (.answered (.flag extended), after)
  | .forget key => (.answered .done, store.forget key)
  | .flush => (.answered .done, store.flush)
  | .increment key n => store.increment overflowChecks now key n
  | .decrement key n => store.decrement overflowChecks now key n

/-! ## Counting in 64 bits -/

variable {n : Int64}

theorem toInt_neg_of_ne (notLeast : n ≠ Int64.minValue) : (-n).toInt = -n.toInt := by
  have above := n.le_toInt
  have below := n.toInt_lt
  have isNotLeast : n.toInt ≠ -2 ^ 63 := by
    intro isLeast
    apply notLeast
    rw [← Int64.toInt_inj, isLeast]
    rfl
  rw [← Int64.toInt_ofInt_of_le (n := -n.toInt) (by omega) (by omega),
    Int64.ofInt_neg, Int64.ofInt_toInt]

theorem increment_in_range (overflowChecks : Bool) {now : Nat} {key : String} {number : Int}
    {store : MemoryStore Bytes} (starts : store.current now key = .ok number)
    (inRange : inI64 (number + n.toInt) = true) :
    store.increment overflowChecks now key n = (.answered (.number (number + n.toInt)),
        { inner :=
            update store.inner key (some
                { value := decimal (number + n.toInt)
                  expiresAt := none }) }) := by
  have unwrapped : (Int64.ofInt (number + n.toInt)).toInt = number + n.toInt := by
    simp only [inI64, decide_eq_true_eq] at inRange
    exact Int64.toInt_ofInt_of_le (by omega) (by omega)
  simp only [increment, starts, inRange, Bool.true_eq_false, false_and, if_false, unwrapped]

end MemoryStore

/-!
## The redis cache store

A server keeps values with optional deadlines, in whole milliseconds of its
clock, and treats a key whose deadline has come as absent.  The store sends one
command or script a call, under keys with its prefix.
-/

/-- The server's keys, with deadlines in milliseconds. -/
abbrev ServerKeys := String → Option (Entry Bytes)

/-- Why the server refuses a command. -/
inductive ServerError where
  | notAnInteger
  | wouldOverflow
  | invalidExpire
  deriving DecidableEq

namespace ServerKeys

def lookup (now : Nat) (key : String) (keys : ServerKeys) : Option (Entry Bytes) :=
  (keys key).filter (Entry.alive now)

def set (key : String) (value : Bytes) (keys : ServerKeys) : ServerKeys :=
  update keys key (some { value := value, expiresAt := none })

/-- The deadline `millis` from now, when the server can represent both. -/
def deadline (now millis : Nat) : Except ServerError Nat :=
  if 9223372036854775807 < millis then .error .notAnInteger
  else if 9223372036854775807 < now + millis then .error .invalidExpire
  else .ok (now + millis)

def psetex (now : Nat) (key : String) (value : Bytes) (millis : Nat)
    (keys : ServerKeys) : Except ServerError ServerKeys := do
  let expires ← deadline now millis
  pure (update keys key (some { value := value, expiresAt := some expires }))

/-- The deadline of a `PX` option, when there is one. -/
def deadline? (now : Nat) : Option Nat → Except ServerError (Option Nat)
  | some millis => (deadline now millis).map some
  | none => .ok none

/-- `SET NX`, with `PX` when a TTL is given. -/
def setNx (now : Nat) (key : String) (value : Bytes) (millis : Option Nat)
    (keys : ServerKeys) : Except ServerError (Bool × ServerKeys) := do
  let expires ← deadline? now millis
  match keys.lookup now key with
  | some _ => pure (false, keys)
  | none =>
    pure (true, update keys key (some { value := value, expiresAt := expires }))

/-- `DEL` and `UNLINK`. -/
def del (key : String) (keys : ServerKeys) : ServerKeys :=
  update keys key none

def compareAndDeleteLua (now : Nat) (key : String) (expected : Bytes)
    (keys : ServerKeys) : Bool × ServerKeys :=
  if (keys.lookup now key).map Entry.value = some expected then (true, keys.del key)
  else (false, keys)

def pexpire (now : Nat) (key : String) (millis : Nat)
    (keys : ServerKeys) : Except ServerError (Bool × ServerKeys) := do
  let expires ← deadline now millis
  match keys.lookup now key with
  | some entry =>
    pure (true, update keys key (some { entry with expiresAt := some expires }))
  | none => pure (false, keys)

def persistIfExistsLua (now : Nat) (key : String) (keys : ServerKeys) : Bool × ServerKeys :=
  match keys.lookup now key with
  | some entry => (true, update keys key (some { entry with expiresAt := none }))
  | none => (false, keys)

/-- The number whose decimal text a value is; the server reads no other. -/
def readStrict (value : Bytes) : Option Int := (parseI64 value).filter (decimal · = value)

/-- What `INCRBY` starts from; an absent key is at zero. -/
def current (now : Nat) (key : String) (keys : ServerKeys) : Except ServerError Int :=
  match keys.lookup now key with
  | some entry =>
    match readStrict entry.value with
    | some number => .ok number
    | none => .error .notAnInteger
  | none => .ok 0

/-- `INCRBY`: the new value keeps the deadline of the old one. -/
def incrby (now : Nat) (key : String) (n : Int)
    (keys : ServerKeys) : Except ServerError (Int × ServerKeys) := do
  let current ← keys.current now key
  if inI64 (current + n) then
    pure (current + n, update keys key
          (some
            { value := decimal (current + n)
              expiresAt := (keys.lookup now key).bind Entry.expiresAt }))
  else .error .wouldOverflow

/-- `DECRBY`: there is no opposite of the least number. -/
def decrby (now : Nat) (key : String) (n : Int)
    (keys : ServerKeys) : Except ServerError (Int × ServerKeys) :=
  if inI64 (-n) then keys.incrby now key (-n)
  else .error .wouldOverflow

/-- A whole `SCAN` of the keys that match a pattern, each batch unlinked. -/
def unlinkMatching (pattern : List Char) (keys : ServerKeys) : ServerKeys :=
  fun key => if GlobPattern.globMatches pattern key.toList then none else keys key

end ServerKeys

/-- The redis store: its prefix, and the texts the client gives refusals. -/
structure RedisStore where
  keyPrefix : String
  errorText : ServerError → String

def RedisStore.new (errorText : ServerError → String) : RedisStore where
  keyPrefix := "rustasea:cache:"
  errorText := errorText

namespace RedisStore

def qualified (store : RedisStore) (key : String) : String :=
  store.keyPrefix ++ key

/-- What `flush` scans for; the server reads the prefix as a part of the pattern. -/
def pattern (store : RedisStore) : List Char := store.keyPrefix.toList ++ ['*']

/-- `redis_error`: map a command error onto the cache store error. -/
def redisError (store : RedisStore) (error : ServerError) : Outcome :=
  .failed (.storeUnavailable (store.errorText error))

/-- `touch_error`: map a `touch` command error onto the TTL-extension error. -/
def touchError (store : RedisStore) (error : ServerError) : Outcome :=
  .failed (.touchFailed (store.errorText error))

/-- The answer of a command, or its error and the keys as they were. -/
def answer {Reply : Type} (mapError : ServerError → Outcome)
    (answered : Reply → Answer) (keys : ServerKeys) :
    Except ServerError (Reply × ServerKeys) → Outcome × ServerKeys
  | .ok (reply, after) => (.answered (answered reply), after)
  | .error error => (mapError error, keys)

/-- The milliseconds of a TTL; zero asks for no expiry. -/
def millis? (ttl : Duration) : Option Nat :=
  if ttl = 0 then none
  else some (Driver.ttlMillis ttl)

/-- `i64::try_from(ttl_millis(ttl)).unwrap_or(i64::MAX)`. -/
def touchMillis (ttl : Duration) : Nat := min (Driver.ttlMillis ttl) 9223372036854775807

/-- One call of the redis store, at an instant of the server's clock. -/
def apply (store : RedisStore) (now : Nat) (operation : Operation)
    (keys : ServerKeys) : Outcome × ServerKeys :=
  match operation with
  | .get key =>
    (.answered (.value ((keys.lookup now (store.qualified key)).map Entry.value)), keys)
  | .put key value ttl =>
    match millis? ttl with
    | none => (.answered .done, keys.set (store.qualified key) value)
    | some millis =>
      answer store.redisError (fun _ : Unit => .done) keys
        ((keys.psetex now (store.qualified key) value millis).map fun after => ((), after))
  | .putIfAbsent key value ttl =>
    answer store.redisError .flag keys (keys.setNx now (store.qualified key) value (millis? ttl))
  | .compareAndDelete key expected =>
    let (deleted, after) := keys.compareAndDeleteLua now (store.qualified key) expected
    (.answered (.flag deleted), after)
  | .touch key ttl =>
    if ttl = 0 then
      let (existed, after) := keys.persistIfExistsLua now (store.qualified key)
      (.answered (.flag existed), after)
    else
      answer store.touchError .flag keys (keys.pexpire now (store.qualified key) (touchMillis ttl))
  | .forget key => (.answered .done, keys.del (store.qualified key))
  | .flush => (.answered .done, keys.unlinkMatching store.pattern)
  | .increment key n =>
    answer store.redisError .number keys (keys.incrby now (store.qualified key) n.toInt)
  | .decrement key n =>
    answer store.redisError .number keys (keys.decrby now (store.qualified key) n.toInt)

end RedisStore

end Rustasea.Cache
