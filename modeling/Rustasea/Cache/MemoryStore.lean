import Mathlib.Logic.Function.Basic

namespace Rustasea.Cache

/-!
# The in-memory cache store

Entries expire at an instant of the monotonic clock, in nanoseconds.  Expired
entries stay in the map until they are swept or replaced; every read treats
them as absent.
-/

/-- Single in-memory entry with an absolute expiry instant. -/
structure Entry (Value : Type) where
  value : Value
  expiresAt : Option Nat
  deriving DecidableEq

def Entry.alive {Value : Type} (now : Nat) (entry : Entry Value) : Bool :=
  match entry.expiresAt with
  | some deadline => now < deadline
  | none => true

theorem Entry.alive_of_le {Value : Type} {now later : Nat} (elapsed : now ≤ later)
    {entry : Entry Value} (isAlive : entry.alive later = true) : entry.alive now = true := by
  unfold Entry.alive at isAlive ⊢
  cases deadline : entry.expiresAt with
  | none => rfl
  | some instant =>
    simp only [deadline, decide_eq_true_eq] at isAlive ⊢
    omega

/-- TTL-aware in-memory store: the map behind the lock. -/
structure MemoryStore (Value : Type) where
  inner : String → Option (Entry Value)

namespace MemoryStore

variable {Value : Type}

def new : MemoryStore Value where
  inner := fun _ => none

def live (now : Nat) (store : MemoryStore Value) : MemoryStore Value where
  inner := fun key => (store.inner key).filter (Entry.alive now)

/-- Fetch a live value, or `none` on miss or expiry; sweeps the map. -/
def get (now : Nat) (key : String) (store : MemoryStore Value) : Option Value × MemoryStore Value :=
  let swept := store.live now
  ((swept.inner key).map Entry.value, swept)

/-- The expiry instant of an entry stored for `ttl`; zero means forever. -/
def expiry (now ttl : Nat) : Option Nat :=
  if ttl = 0 then none
  else some (now + ttl)

/-- Insert `value` under `key` only when `key` is absent or expired. -/
def putIfAbsent (now : Nat) (key : String) (value : Value) (ttl : Nat)
    (store : MemoryStore Value) : Bool × MemoryStore Value :=
  if (store.inner key).any (Entry.alive now) then (false, store)
  else
    (true,
      { inner :=
          Function.update store.inner key (some { value := value, expiresAt := expiry now ttl }) })

/-- Delete `key` only when it holds exactly `expected` and is not expired. -/
def compareAndDelete [DecidableEq Value] (now : Nat) (key : String) (expected : Value)
    (store : MemoryStore Value) : Bool × MemoryStore Value :=
  match store.inner key with
  | some entry =>
    if entry.alive now ∧ entry.value = expected then
      (true, { inner := Function.update store.inner key none })
    else (false, store)
  | none => (false, store)

/-- Remove `key`, whoever owns it. -/
def forget (key : String) (store : MemoryStore Value) : MemoryStore Value where
  inner := Function.update store.inner key none

/-! ## What a read finds -/

variable {now : Nat} {value : Value} {key : String}

theorem get_eq_some_iff {store : MemoryStore Value} :
    (store.get now key).1 = some value ↔
      ∃ entry, store.inner key = some entry ∧ entry.alive now = true ∧ entry.value = value := by
  simp only [get, live, Option.map_eq_some_iff, Option.filter_eq_some_iff]
  constructor
  · rintro ⟨entry, ⟨found, isAlive⟩, hasValue⟩
    exact ⟨entry, found, isAlive, hasValue⟩
  · rintro ⟨entry, found, isAlive, hasValue⟩
    exact ⟨entry, ⟨found, isAlive⟩, hasValue⟩

@[simp] theorem get_new (now : Nat) (key : String) :
    ((new : MemoryStore Value).get now key).1 = none :=
  rfl

theorem putIfAbsent_fst (now : Nat) (key : String) (value : Value) (ttl : Nat)
    (store : MemoryStore Value) :
    (store.putIfAbsent now key value ttl).1 = (store.get now key).1.isNone := by
  unfold putIfAbsent get live
  cases found : store.inner key with
  | none => simp [found]
  | some entry => by_cases isAlive : entry.alive now = true <;> simp [found, isAlive]

variable {store : MemoryStore Value}

theorem putIfAbsent_refused {ttl : Nat}
    (refused : (store.putIfAbsent now key value ttl).1 = false) :
    (store.putIfAbsent now key value ttl).2 = store := by
  unfold putIfAbsent at refused ⊢
  split at refused
  · next isAlive => rw [if_pos isAlive]
  · simp at refused

variable {key other : String}

theorem get_putIfAbsent_other (differs : other ≠ key) (value : Value) (ttl later : Nat)
    (store : MemoryStore Value) :
    ((store.putIfAbsent now key value ttl).2.get later other).1 = (store.get later other).1 := by
  unfold putIfAbsent
  split
  · rfl
  · simp [get, live, Function.update_of_ne differs]

theorem inner_putIfAbsent (absent : (store.get now key).1 = none) (value : Value) (ttl : Nat) :
    (store.putIfAbsent now key value ttl).2.inner =
      Function.update store.inner key (some { value := value, expiresAt := expiry now ttl }) := by
  have inserted := putIfAbsent_fst now key value ttl store
  rw [absent] at inserted
  unfold putIfAbsent at inserted ⊢
  split at inserted
  · simp at inserted
  · next notAlive => rw [if_neg notAlive]

theorem inner_compareAndDelete_other [DecidableEq Value] (differs : other ≠ key) (now : Nat)
    (expected : Value) (store : MemoryStore Value) :
    (store.compareAndDelete now key expected).2.inner other = store.inner other := by
  unfold compareAndDelete
  split
  · split
    · exact Function.update_of_ne differs _ _
    · rfl
  · rfl

theorem inner_compareAndDelete_of_ne [DecidableEq Value] {other : String} {entry : Entry Value}
    {expected : Value} (stored : store.inner other = some entry)
    (differs : entry.value ≠ expected) (now : Nat) (key : String) :
    (store.compareAndDelete now key expected).2.inner other = some entry := by
  by_cases sameKey : other = key
  · subst sameKey
    simp [compareAndDelete, stored, differs]
  · rw [inner_compareAndDelete_other sameKey]
    exact stored

theorem inner_of_compareAndDelete [DecidableEq Value] {expected : Value} {entry : Entry Value}
    (stored : (store.compareAndDelete now key expected).2.inner other = some entry) :
    store.inner other = some entry := by
  by_cases sameKey : other = key
  · subst sameKey
    unfold compareAndDelete at stored
    split at stored
    · split at stored
      · simp at stored
      · exact stored
    · exact stored
  · rwa [inner_compareAndDelete_other sameKey] at stored

@[simp] theorem get_forget_self (now : Nat) (key : String) (store : MemoryStore Value) :
    ((store.forget key).get now key).1 = none := by
  simp [get, live, forget]

theorem get_forget_other (differs : other ≠ key) (now : Nat) (store : MemoryStore Value) :
    ((store.forget key).get now other).1 = (store.get now other).1 := by
  simp [get, live, forget, Function.update_of_ne differs]

theorem get_of_later {now later : Nat} (elapsed : now ≤ later)
    (found : (store.get later key).1 = some value) : (store.get now key).1 = some value := by
  obtain ⟨entry, stored, isAlive, hasValue⟩ := get_eq_some_iff.mp found
  apply get_eq_some_iff.mpr
  exact ⟨entry, stored, Entry.alive_of_le elapsed isAlive, hasValue⟩

end MemoryStore

end Rustasea.Cache
