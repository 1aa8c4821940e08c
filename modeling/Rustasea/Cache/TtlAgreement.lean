import Mathlib.Data.List.Forall2
import Rustasea.Cache.RedisStore
import Rustasea.Library.Lockstep

namespace Rustasea.Cache

open Lockstep DecimalText

/-!
# The in-memory store against the redis store

Both stores are fed the same calls at the same instants, the server reading
the clock in whole milliseconds.  They answer alike as long as no increment
meets a live number with a TTL, which the in-memory store drops and redis
keeps, as long as deadlines and numbers have one reading on both sides, and as
long as the pattern of a flush matches the keys under the prefix.
-/

/-- Outcomes that differ at most in the text of one kind of error. -/
def sameOutcome : Outcome → Outcome → Bool
  | .failed (.storeUnavailable _), .failed (.storeUnavailable _) => true
  | left, right => left = right

def inNanos (entry : Entry Bytes) : Entry Bytes where
  value := entry.value
  expiresAt := entry.expiresAt.map (· * 1000000)

/-- The server's reading of an instant, in milliseconds. -/
def serverClock (now : Nat) : Nat := now / 1000000

/-! ## When a call means the same to both stores -/

/-- A TTL that starts and lasts whole milliseconds, within redis's range. -/
def wholeTtl (now : Nat) (ttl : Duration) : Bool :=
  ttl = 0 ∨
    (now % 1000000 = 0 ∧ ttl % 1000000 = 0 ∧ serverClock now + ttl / 1000000 ≤ 9223372036854775807)

/--
The live number under a key never expires, is written the way it would be
printed, and stays in range when `n` is added.
-/
def plainCounter (now : Nat) (key : String) (n : Int) (store : MemoryStore Bytes) : Bool :=
  match (store.live now).inner key with
  | some entry =>
    match parseI64 entry.value with
    | some number => entry.expiresAt = none ∧ decimal number = entry.value ∧ inI64 (number + n)
    | none => true
  | none => true

/-- The prefix opens no class and no escape in the pattern of a flush. -/
def plainPrefix (redis : RedisStore) : Bool :=
  '[' ∉ redis.keyPrefix.toList ∧ '\\' ∉ redis.keyPrefix.toList

def meets (redis : RedisStore) (now : Nat) (operation : Operation)
    (store : MemoryStore Bytes) : Bool :=
  match operation with
  | .put _ _ ttl | .putIfAbsent _ _ ttl | .touch _ ttl => wholeTtl now ttl
  | .increment key n => plainCounter now key n.toInt store
  | .decrement key n => inI64 (-n.toInt) && plainCounter now key (-n.toInt) store
  | .flush => plainPrefix redis
  | .get _ | .compareAndDelete _ _ | .forget _ => true

/-! ## The live entries of the two stores -/

variable (now : Nat)

theorem alive_inNanos (entry : Entry Bytes) :
    (inNanos entry).alive now = entry.alive (serverClock now) := by
  cases deadline : entry.expiresAt with
  | none => simp [Entry.alive, inNanos, deadline]
  | some millis =>
    have rounded : now < millis * 1000000 ↔ now / 1000000 < millis :=
      (Nat.div_lt_iff_lt_mul (by decide)).symm
    simp only [Entry.alive, inNanos, deadline]
    exact decide_eq_decide.mpr rounded

theorem filter_alive_later
    {now later : Nat} (elapsed : now ≤ later) (found : Option (Entry Bytes)) :
    (found.filter (Entry.alive now)).filter (Entry.alive later) =
      found.filter (Entry.alive later) := by
  cases found with
  | none => rfl
  | some entry =>
    by_cases isAlive : entry.alive later = true
    · have before := Entry.alive_of_le elapsed isAlive
      simp [Option.filter, before]
    · by_cases before : entry.alive now = true <;>
        simp [Option.filter, isAlive, before]

theorem filter_map_inNanos (found : Option (Entry Bytes)) :
    (found.map inNanos).filter (Entry.alive now) =
      (found.filter (Entry.alive (serverClock now))).map inNanos := by
  cases found with
  | none => rfl
  | some entry =>
    by_cases isAlive : entry.alive (serverClock now) = true <;>
      simp [Option.filter, alive_inNanos]

/-- Under every key the stores hold the same live entry, or both hold none. -/
def Agree (redis : RedisStore) (now : Nat) (store : MemoryStore Bytes) (keys : ServerKeys) : Prop :=
  ∀ key,
    (store.live now).inner key = (keys.lookup (serverClock now) (redis.qualified key)).map inNanos

theorem qualified_injective (redis : RedisStore) {key other : String}
    (same : redis.qualified key = redis.qualified other) : key = other := by
  have texts := congrArg String.toList same
  simp only [RedisStore.qualified, String.toList_append] at texts
  exact String.toList_injective (List.append_cancel_left texts)

namespace Agree

variable {redis : RedisStore} {now : Nat} {store : MemoryStore Bytes} {keys : ServerKeys}

theorem later {after : Nat} (elapsed : now ≤ after)
    (agree : Agree redis now store keys) : Agree redis after store keys := by
  intro key
  have serverElapsed : serverClock now ≤ serverClock after := Nat.div_le_div_right elapsed
  have same := congrArg (Option.filter (Entry.alive after)) (agree key)
  simp only [MemoryStore.live, ServerKeys.lookup, filter_map_inNanos,
    filter_alive_later elapsed] at same
  rw [filter_alive_later serverElapsed] at same
  exact same

theorem swept (agree : Agree redis now store keys) : Agree redis now (store.live now) keys := by
  intro key
  rw [← agree key]
  exact filter_alive_later (Nat.le_refl now) (store.inner key)

theorem update (agree : Agree redis now store keys) (key : String)
    {entry stored : Option (Entry Bytes)} (same : entry = stored.map inNanos) :
    Agree redis now
      { inner := Function.update store.inner key entry }
      (Function.update keys (redis.qualified key) stored) := by
  intro other
  by_cases isKey : other = key
  · subst isKey
    simp only [MemoryStore.live, ServerKeys.lookup, Function.update_self]
    rw [same, filter_map_inNanos]
  · have isOther : redis.qualified other ≠ redis.qualified key :=
      fun sameText => isKey (qualified_injective redis sameText)
    simpa only [MemoryStore.live, ServerKeys.lookup,
      Function.update_of_ne isKey, Function.update_of_ne isOther]
      using agree other

end Agree

/-! ## The in-memory calls in terms of the live entry -/

variable (key : String)

theorem live_inner_cases (store : MemoryStore Bytes) :
    (∃ entry, store.inner key = some entry ∧ entry.alive now = true ∧
      (store.live now).inner key = some entry) ∨
      ((store.live now).inner key = none ∧
        ∀ entry, store.inner key = some entry → entry.alive now = false) := by
  cases found : store.inner key with
  | none =>
    right
    simp [MemoryStore.live, found]
  | some entry =>
    by_cases isAlive : entry.alive now = true
    · left
      exact ⟨entry, rfl, isAlive, by simp [MemoryStore.live, found, isAlive]⟩
    · right
      rw [Bool.not_eq_true] at isAlive
      refine ⟨?_, ?_⟩
      · simp [MemoryStore.live, found, isAlive]
      · rintro _ ⟨⟩
        exact isAlive

theorem putIfAbsent_eq (value : Bytes) (ttl : Duration)
    (store : MemoryStore Bytes) :
    store.putIfAbsent now key value ttl =
      match (store.live now).inner key with
      | some _ => (false, store)
      | none => (true, store.put now key value ttl) := by
  rcases live_inner_cases now key store with ⟨entry, found, isAlive, live⟩ | ⟨live, dead⟩
  · simp [MemoryStore.putIfAbsent, found, isAlive, live]
  · cases found : store.inner key with
    | none => simp [MemoryStore.putIfAbsent, MemoryStore.put, found, live]
    | some entry => simp [MemoryStore.putIfAbsent, MemoryStore.put, found, live, dead entry found]

theorem compareAndDelete_eq (expected : Bytes)
    (store : MemoryStore Bytes) :
    store.compareAndDelete now key expected =
      if ((store.live now).inner key).map Entry.value = some expected then (true, store.forget key)
      else (false, store) := by
  rcases live_inner_cases now key store with ⟨entry, found, isAlive, live⟩ | ⟨live, dead⟩
  · simp [MemoryStore.compareAndDelete, MemoryStore.forget, found, isAlive, live]
  · cases found : store.inner key with
    | none => simp [MemoryStore.compareAndDelete, found, live]
    | some entry => simp [MemoryStore.compareAndDelete, found, live, dead entry found]

theorem touch_eq (ttl : Duration) (store : MemoryStore Bytes) :
    store.touch now key ttl =
      match (store.live now).inner key with
      | some entry => (true, store.put now key entry.value ttl)
      | none => (false, store) := by
  rcases live_inner_cases now key store with ⟨entry, found, isAlive, live⟩ | ⟨live, dead⟩
  · simp [MemoryStore.touch, MemoryStore.put, found, isAlive, live]
  · cases found : store.inner key with
    | none => simp [MemoryStore.touch, found, live]
    | some entry => simp [MemoryStore.touch, found, live, dead entry found]

theorem current_eq (store : MemoryStore Bytes) :
    store.current now key =
      match (store.live now).inner key with
      | some entry =>
        match parseI64 entry.value with
        | some number => .ok number
        | none => .error (MemoryStore.nonInteger key)
      | none => .ok 0 := by
  rcases live_inner_cases now key store with ⟨entry, found, isAlive, live⟩ | ⟨live, dead⟩
  · cases number : parseI64 entry.value <;>
      simp [MemoryStore.current, found, isAlive, live, number]
  · cases found : store.inner key with
    | none => simp [MemoryStore.current, found, live]
    | some entry => simp [MemoryStore.current, found, live, dead entry found]

/-! ## One call -/

theorem expiry_wholeTtl {now : Nat} {ttl : Duration} (isWhole : wholeTtl now ttl = true)
    (lasts : ttl ≠ 0) :
    ∃ millis, Driver.ttlMillis ttl = millis ∧ RedisStore.touchMillis ttl = millis ∧
      ServerKeys.deadline (serverClock now) millis = .ok (serverClock now + millis) ∧
      MemoryStore.expiry now ttl = some ((serverClock now + millis) * 1000000) := by
  simp only [wholeTtl, lasts, false_or, decide_eq_true_eq] at isWhole
  have positive : ttl / 1000000 ≠ 0 := by
    simp only [Duration] at *
    omega
  have millis : Driver.ttlMillis ttl = ttl / 1000000 := by
    rw [Driver.ttlMillis, if_neg positive]
    exact Nat.min_eq_left (by omega)
  refine ⟨ttl / 1000000, millis, ?_, ?_, ?_⟩
  · rw [RedisStore.touchMillis, millis]
    exact Nat.min_eq_left (by omega)
  · unfold ServerKeys.deadline
    rw [if_neg (by omega), if_neg (by omega)]
  · rw [MemoryStore.expiry, if_neg lasts, serverClock]
    congr 1
    simp only [Duration] at *
    omega

section OneCall

variable {redis : RedisStore} {now : Nat} {store : MemoryStore Bytes} {keys : ServerKeys}
  {ttl : Duration}

theorem Agree.put (agree : Agree redis now store keys) (key : String) (value : Bytes)
    (isWhole : wholeTtl now ttl = true) :
    ∃ expires,
      ServerKeys.deadline? (serverClock now) (RedisStore.millis? ttl) = .ok expires ∧
        Agree redis now (store.put now key value ttl) (Function.update keys (redis.qualified key)
            (some { value := value, expiresAt := expires })) := by
  by_cases forever : ttl = 0
  · refine ⟨none, ?_, ?_⟩
    · simp [RedisStore.millis?, forever, ServerKeys.deadline?]
    · apply agree.update
      simp [inNanos, MemoryStore.expiry, forever]
  · obtain ⟨millis, isMillis, -, deadline, expiry⟩ := expiry_wholeTtl isWhole forever
    refine ⟨some (serverClock now + millis), ?_, ?_⟩
    · simp [RedisStore.millis?, forever, isMillis, ServerKeys.deadline?, deadline, Except.map]
    · apply agree.update
      simp [inNanos, expiry]

/-- Both stores answer a call alike and still agree afterwards. -/
def AgreesOn (redis : RedisStore) (overflowChecks : Bool) (now : Nat)
    (operation : Operation) (store : MemoryStore Bytes) (keys : ServerKeys) : Prop :=
  sameOutcome (store.apply overflowChecks now operation).1
      (redis.apply (serverClock now) operation keys).1 = true ∧
    Agree redis now (store.apply overflowChecks now operation).2
      (redis.apply (serverClock now) operation keys).2

variable {overflowChecks : Bool}

theorem agreesOn_get (agree : Agree redis now store keys) (key : String) :
    AgreesOn redis overflowChecks now (.get key) store keys := by
  refine ⟨?_, agree.swept⟩
  simp only [MemoryStore.apply, MemoryStore.get, RedisStore.apply,
    sameOutcome, agree key, decide_eq_true_eq]
  cases keys.lookup (serverClock now) (redis.qualified key) <;> rfl

theorem agreesOn_put (agree : Agree redis now store keys) (key : String) (value : Bytes)
    (isWhole : wholeTtl now ttl = true) :
    AgreesOn redis overflowChecks now (.put key value ttl) store keys := by
  obtain ⟨expires, deadline, after⟩ := agree.put key value isWhole
  unfold AgreesOn
  cases isMillis : RedisStore.millis? ttl with
  | none =>
    rw [isMillis, ServerKeys.deadline?, Except.ok.injEq] at deadline
    subst deadline
    simp only [RedisStore.apply, isMillis]
    exact ⟨rfl, after⟩
  | some millis =>
    rw [isMillis, ServerKeys.deadline?] at deadline
    cases isDeadline : ServerKeys.deadline (serverClock now) millis with
    | error error => simp [isDeadline, Except.map] at deadline
    | ok instant =>
      simp only [isDeadline, Except.map, Except.ok.injEq] at deadline
      subst deadline
      simp only [RedisStore.apply, isMillis, ServerKeys.psetex, isDeadline]
      exact ⟨rfl, after⟩

theorem agreesOn_putIfAbsent (agree : Agree redis now store keys) (key : String) (value : Bytes)
    (isWhole : wholeTtl now ttl = true) :
    AgreesOn redis overflowChecks now (.putIfAbsent key value ttl) store keys := by
  obtain ⟨expires, deadline, after⟩ := agree.put key value isWhole
  unfold AgreesOn
  simp only [MemoryStore.apply, putIfAbsent_eq, RedisStore.apply, ServerKeys.setNx, deadline,
    agree key]
  cases keys.lookup (serverClock now) (redis.qualified key) with
  | none => exact ⟨rfl, after⟩
  | some entry => exact ⟨rfl, agree⟩

theorem agreesOn_compareAndDelete
    (agree : Agree redis now store keys) (key : String) (expected : Bytes) :
    AgreesOn redis overflowChecks now (.compareAndDelete key expected) store keys := by
  have sameValue : ((store.live now).inner key).map Entry.value =
      (keys.lookup (serverClock now) (redis.qualified key)).map
        Entry.value := by
    rw [agree key, Option.map_map]
    rfl
  unfold AgreesOn
  simp only [MemoryStore.apply, compareAndDelete_eq, sameValue,
    RedisStore.apply, ServerKeys.compareAndDeleteLua]
  split
  · exact ⟨rfl, agree.update key rfl⟩
  · exact ⟨rfl, agree⟩

theorem agreesOn_touch (agree : Agree redis now store keys) (key : String)
    (isWhole : wholeTtl now ttl = true) :
    AgreesOn redis overflowChecks now (.touch key ttl) store keys := by
  have live := agree key
  unfold AgreesOn
  simp only [MemoryStore.apply, touch_eq, RedisStore.apply]
  by_cases forever : ttl = 0
  · rw [if_pos forever]
    cases found : keys.lookup (serverClock now) (redis.qualified key) with
    | none =>
      simp only [live, ServerKeys.persistIfExistsLua, found]
      exact ⟨rfl, agree⟩
    | some entry =>
      simp only [live, ServerKeys.persistIfExistsLua, found]
      refine ⟨rfl, agree.update key ?_⟩
      simp [inNanos, MemoryStore.expiry, forever]
  · obtain ⟨millis, -, isMillis, deadline, expiry⟩ := expiry_wholeTtl isWhole forever
    rw [if_neg forever, isMillis]
    cases found : keys.lookup (serverClock now) (redis.qualified key) with
    | none =>
      simp only [live, ServerKeys.pexpire, deadline, found]
      exact ⟨rfl, agree⟩
    | some entry =>
      simp only [live, ServerKeys.pexpire, deadline, found]
      refine ⟨rfl, agree.update key ?_⟩
      simp [inNanos, expiry]

theorem agreesOn_forget (agree : Agree redis now store keys) (key : String) :
    AgreesOn redis overflowChecks now (.forget key) store keys :=
  ⟨rfl, agree.update key rfl⟩

theorem agreesOn_flush (isPlain : plainPrefix redis = true) :
    AgreesOn redis overflowChecks now .flush store keys := by
  refine ⟨rfl, ?_⟩
  intro key
  have isMatched :
      GlobPattern.globMatches redis.pattern (redis.qualified key).toList = true := by
    simp only [plainPrefix, decide_eq_true_eq] at isPlain
    rw [RedisStore.qualified, String.toList_append]
    apply GlobPattern.globMatches_self
    rintro c isIn
    exact ⟨fun same => isPlain.1 (same ▸ isIn), fun same => isPlain.2 (same ▸ isIn)⟩
  simp [MemoryStore.apply, MemoryStore.flush, MemoryStore.live, MemoryStore.new, RedisStore.apply,
    ServerKeys.unlinkMatching, ServerKeys.lookup, isMatched]

variable {n : Int64}

theorem agree_add (overflowChecks : Bool) (agree : Agree redis now store keys)
    (key : String) (isPlain : plainCounter now key n.toInt store = true) :
    sameOutcome (store.increment overflowChecks now key n).1
      (RedisStore.answer redis.redisError .number keys
        (keys.incrby (serverClock now) (redis.qualified key) n.toInt)).1 =
      true ∧
    Agree redis now (store.increment overflowChecks now key n).2
      (RedisStore.answer redis.redisError .number keys
        (keys.incrby (serverClock now) (redis.qualified key) n.toInt)).2 := by
  have live := agree key
  have starts := current_eq now key store
  unfold plainCounter at isPlain
  cases found : keys.lookup (serverClock now) (redis.qualified key) with
  | none =>
    rw [found] at live
    simp only [live] at starts
    have inRange : inI64 (0 + n.toInt) = true := by
      have below := n.toInt_lt
      have above := n.le_toInt
      simp only [inI64, decide_eq_true_eq]
      omega
    rw [MemoryStore.increment_in_range overflowChecks starts inRange]
    simp only [ServerKeys.incrby, ServerKeys.current, found, bind, Except.bind, inRange, pure,
      Except.pure, RedisStore.answer]
    refine ⟨by simp [sameOutcome], agree.update key ?_⟩
    simp [inNanos]
  | some entry =>
    rw [found, Option.map_some] at live
    simp only [live] at starts isPlain
    have sameValue : (inNanos entry).value = entry.value := rfl
    rw [sameValue] at starts isPlain
    cases parsed : parseI64 entry.value with
    | none =>
      simp only [MemoryStore.increment, starts, ServerKeys.incrby, ServerKeys.current, found,
        ServerKeys.readStrict, parsed]
      exact ⟨rfl, agree⟩
    | some number =>
      simp only [parsed, decide_eq_true_eq] at starts isPlain
      obtain ⟨noExpiry, canonical, inRange⟩ := isPlain
      have serverNoExpiry : entry.expiresAt = none := by simpa [inNanos] using noExpiry
      have isRead : ServerKeys.readStrict entry.value = some number := by
        simp [ServerKeys.readStrict, parsed, canonical]
      rw [MemoryStore.increment_in_range overflowChecks starts inRange]
      simp only [ServerKeys.incrby, ServerKeys.current, found, isRead, bind, Except.bind, inRange,
        pure, Except.pure, RedisStore.answer]
      refine ⟨by simp [sameOutcome], agree.update key ?_⟩
      simp [inNanos, serverNoExpiry]

theorem agreesOn_increment (agree : Agree redis now store keys) (key : String)
    (isPlain : plainCounter now key n.toInt store = true) :
    AgreesOn redis overflowChecks now (.increment key n) store keys :=
  agree_add overflowChecks agree key isPlain

theorem agreesOn_decrement (agree : Agree redis now store keys) (key : String)
    (hasOpposite : inI64 (-n.toInt) = true)
    (isPlain : plainCounter now key (-n.toInt) store = true) :
    AgreesOn redis overflowChecks now (.decrement key n) store keys := by
  have notLeast : ¬ n = Int64.minValue := by
    rintro rfl
    simp [inI64] at hasOpposite
  have negated := MemoryStore.toInt_neg_of_ne notLeast
  have isPlainNegated : plainCounter now key (-n).toInt store = true := by
    rw [negated]
    exact isPlain
  have added := agree_add overflowChecks agree key isPlainNegated
  unfold AgreesOn
  simp only [MemoryStore.apply, MemoryStore.decrement, notLeast, RedisStore.apply,
    ServerKeys.decrby, hasOpposite]
  rw [negated] at added
  exact added

theorem agreesOn_of_meets (agree : Agree redis now store keys) {operation : Operation}
    (isMet : meets redis now operation store = true) :
    AgreesOn redis overflowChecks now operation store keys := by
  cases operation with
  | get key => exact agreesOn_get agree key
  | put key value ttl => exact agreesOn_put agree key value isMet
  | putIfAbsent key value ttl => exact agreesOn_putIfAbsent agree key value isMet
  | compareAndDelete key expected => exact agreesOn_compareAndDelete agree key expected
  | touch key ttl => exact agreesOn_touch agree key isMet
  | forget key => exact agreesOn_forget agree key
  | flush => exact agreesOn_flush isMet
  | increment key n => exact agreesOn_increment agree key isMet
  | decrement key n =>
    rw [meets, Bool.and_eq_true] at isMet
    exact agreesOn_decrement agree key isMet.1 isMet.2

end OneCall

/-! ## Whole runs -/

abbrev memoryMachine (overflowChecks : Bool) :
    Machine (Nat × MemoryStore Bytes) (Nat × Operation) Outcome :=
  clocked fun now operation store => store.apply overflowChecks now operation

abbrev redisMachine (redis : RedisStore) : Machine (Nat × ServerKeys) (Nat × Operation) Outcome :=
  clocked fun now operation keys => redis.apply (serverClock now) operation keys

/-- Every call of a run means the same to both stores. -/
abbrev MeetsAlong (overflowChecks : Bool) (redis : RedisStore) (start : Nat)
    (calls : List (Nat × Operation)) : Prop :=
  Along (memoryMachine overflowChecks)
    (fun before call => meets redis (before.1 + call.1) call.2 before.2 = true)
    (start, MemoryStore.new) calls

/-- The answers of both stores to a run, pairwise the same. -/
abbrev AnswerAlike (overflowChecks : Bool) (redis : RedisStore) (start : Nat) (keys : ServerKeys)
    (calls : List (Nat × Operation)) : Prop :=
  List.Forall₂ (fun mine theirs => sameOutcome mine theirs = true)
    (answers (memoryMachine overflowChecks) (start, MemoryStore.new) calls)
    (answers (redisMachine redis) (start, keys) calls)

theorem agree_new {redis : RedisStore} {keys : ServerKeys}
    (vacant : ∀ key, keys (redis.qualified key) = none) (now : Nat) :
    Agree redis now MemoryStore.new keys := by
  intro key
  simp [MemoryStore.new, MemoryStore.live, ServerKeys.lookup, vacant key]

/--
Along a run whose every call means the same to both stores, the in-memory store
answers as redis does, and every live key ends with one value and deadline.
-/
theorem memory_answers_as_redis (overflowChecks : Bool) (redis : RedisStore) (start : Nat)
    (keys : ServerKeys) (vacant : ∀ key, keys (redis.qualified key) = none)
    (calls : List (Nat × Operation)) (along : MeetsAlong overflowChecks redis start calls) :
    AnswerAlike overflowChecks redis start keys calls ∧
      Agree redis (final (memoryMachine overflowChecks) (start, MemoryStore.new) calls).1
        (final (memoryMachine overflowChecks) (start, MemoryStore.new) calls).2
        (final (redisMachine redis) (start, keys) calls).2 := by
  refine agree_clocked (Agree redis)
    (fun now operation store => meets redis now operation store = true)
    ?_ ?_ (agree_new vacant start) along
  · intro now after store keys elapsed agree
    exact agree.later elapsed
  · intro now operation store keys agree isMet
    exact agreesOn_of_meets agree isMet

theorem counters_answered_as_redis :
    AnswerAlike true (RedisStore.new fun _ => "") 0 (fun _ => none)
      [(0, .put "k" [49] 1000000000), (2000000000, .increment "k" 5), (0, .decrement "k" 2),
        (0, .get "k")] ∧
    Agree (RedisStore.new fun _ => "")
      (final (memoryMachine true) (0, MemoryStore.new)
        [(0, .put "k" [49] 1000000000), (2000000000, .increment "k" 5), (0, .decrement "k" 2),
          (0, .get "k")]).1
      (final (memoryMachine true) (0, MemoryStore.new)
        [(0, .put "k" [49] 1000000000), (2000000000, .increment "k" 5), (0, .decrement "k" 2),
          (0, .get "k")]).2
      (final (redisMachine (RedisStore.new fun _ => "")) (0, fun _ => none)
        [(0, .put "k" [49] 1000000000), (2000000000, .increment "k" 5), (0, .decrement "k" 2),
          (0, .get "k")]).2 :=
  memory_answers_as_redis true (RedisStore.new fun _ => "") 0
    (fun _ => none) (fun _ => rfl) _ (by decide +kernel)

/--
A counter that is incremented inside its TTL outlives it in memory: two seconds
after a one-second `put`, redis has forgotten the key.  And a flush under a
prefix with brackets leaves redis what it empties in memory.
-/
theorem incremented_counter_outlives_ttl :
    ¬ AnswerAlike true (RedisStore.new fun _ => "") 0 (fun _ => none)
      [(0, .put "k" [49] 1000000000), (0, .increment "k" 1), (2000000000, .get "k")] ∧
    ¬ AnswerAlike true { keyPrefix := "app[1]:", errorText := fun _ => "" } 0 (fun _ => none)
      [(0, .put "k" [49] 0), (0, .flush), (0, .get "k")] := by
  decide +kernel

end Rustasea.Cache
