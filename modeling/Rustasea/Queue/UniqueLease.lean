import Rustasea.Queue.Job
import Rustasea.Cache.MemoryStore

namespace Rustasea.Queue

open Cache (MemoryStore)

/-!
# Unique leases

A unique job is dispatched at most once while its lease is held: an entry of
the installed cache store, inserted by the dispatch under the job's unique id
and deleted by whoever brings the job to an end.  The store is the in-memory
one, whose operations never fail.
-/

variable {Json : Type}

/-- Lease length applied when a job's `unique_for` returns zero. -/
def defaultUniqueFor : Duration := 3600 * 1000000000

/-- Key namespace for unique-lock entries in the cache store. -/
def uniqueKeyPrefix : String := "queue:unique:"

/-- Normalise a job-declared TTL, mapping zero onto the default lease. -/
def effectiveTtl (ttl : Duration) : Duration :=
  if ttl = 0 then defaultUniqueFor
  else ttl

def uniqueKey (id : String) : String := uniqueKeyPrefix ++ id

def uniqueToken (uuid : String) : String := "unique-" ++ uuid

/-- The registered factories, which read `(unique_id, unique_for)` off a body. -/
abbrev UniqueRegistry (Json : Type) := String → Option (Json → Option (String × Duration))

def uniqueSpec (registry : UniqueRegistry Json) (typeKey : String)
    (body : Json) : Option (String × Duration) :=
  (registry typeKey).bind fun factory => factory body

/-- Result of attempting to acquire a unique lease for one dispatch. -/
inductive LeaseState where
  | acquired (uniqueId : String)
  | held (uniqueId : String)
  | notApplicable
  deriving DecidableEq

def LeaseState.isAcquired : LeaseState → Bool
  | .acquired _ => true
  | .held _ | .notApplicable => false

/-- The installed lock store, if the application installed one. -/
abbrev UniqueStore := Option (MemoryStore String)

/-- Attempt to take the unique lease before enqueuing. -/
def acquireLease (registry : UniqueRegistry Json) (now : Nat) (uuid typeKey : String) (body : Json)
    (store : UniqueStore) : LeaseState × UniqueStore :=
  match store with
  | none => (.notApplicable, none)
  | some installed =>
    match uniqueSpec registry typeKey body with
    | none => (.notApplicable, some installed)
    | some (uniqueId, uniqueFor) =>
      match installed.putIfAbsent now (uniqueKey uniqueId)
          (uniqueToken uuid) (effectiveTtl uniqueFor) with
      | (true, after) => (.acquired uniqueId, some after)
      | (false, after) => (.held uniqueId, some after)

/--
Release the unique lease after a terminal outcome: an unconditional delete,
since the worker did not acquire the lease and holds no owner token.
-/
def releaseUnique (registry : UniqueRegistry Json) (typeKey : String) (body : Json)
    (store : UniqueStore) : UniqueStore :=
  match store with
  | none => none
  | some installed =>
    match uniqueSpec registry typeKey body with
    | none => some installed
    | some (uniqueId, _) => some (installed.forget (uniqueKey uniqueId))

/-- `worker::release_lease`: only payloads that name a job type hold one. -/
def releaseLease (registry : UniqueRegistry Json) (payload : JobPayload Json)
    (store : UniqueStore) : UniqueStore :=
  match payload.job with
  | none => store
  | some typeKey => releaseUnique registry typeKey payload.payload store

def JobPayload.uniqueId (registry : UniqueRegistry Json)
    (payload : JobPayload Json) : Option String :=
  payload.job.bind fun typeKey => (uniqueSpec registry typeKey payload.payload).map Prod.fst

def leaseToken (now : Nat) (uniqueId : String) (store : UniqueStore) : Option String :=
  store.bind fun installed => (installed.get now (uniqueKey uniqueId)).1

/-- Whether a dispatch under the unique id would be let through. -/
def leaseFree (now : Nat) (uniqueId : String) (store : UniqueStore) : Bool :=
  (leaseToken now uniqueId store).isNone

/-! ## Acquiring -/

theorem uniqueKey_injective : Function.Injective uniqueKey :=
  fun _ _ same => (String.append_right_inj uniqueKeyPrefix).mp same

theorem effectiveTtl_pos (ttl : Duration) : 0 < effectiveTtl ttl := by
  unfold effectiveTtl
  split
  · decide
  · next notZero => exact Nat.pos_of_ne_zero notZero

/-- What an acquisition finds and does, by the state it reports. -/
theorem acquireLease_cases (registry : UniqueRegistry Json) (now : Nat) (uuid typeKey : String)
    (body : Json) (store : UniqueStore) :
    (acquireLease registry now uuid typeKey body store = (.notApplicable, store) ∧
      (store = none ∨ uniqueSpec registry typeKey body = none)) ∨
    (∃ uniqueId uniqueFor, uniqueSpec registry typeKey body = some (uniqueId, uniqueFor) ∧
      leaseFree now uniqueId store = false ∧
      acquireLease registry now uuid typeKey body store = (.held uniqueId, store)) ∨
    ∃ installed uniqueId uniqueFor, store = some installed ∧
      uniqueSpec registry typeKey body = some (uniqueId, uniqueFor) ∧
      leaseFree now uniqueId store = true ∧
      acquireLease registry now uuid typeKey body store = (.acquired uniqueId, some
            (installed.putIfAbsent now (uniqueKey uniqueId) (uniqueToken uuid)
              (effectiveTtl uniqueFor)).2) := by
  cases store with
  | none =>
    left
    exact ⟨rfl, .inl rfl⟩
  | some installed =>
    cases spec : uniqueSpec registry typeKey body with
    | none =>
      left
      exact ⟨by simp [acquireLease, spec], .inr rfl⟩
    | some found =>
      obtain ⟨uniqueId, uniqueFor⟩ := found
      right
      have answer := MemoryStore.putIfAbsent_fst now (uniqueKey uniqueId)
          (uniqueToken uuid) (effectiveTtl uniqueFor) installed
      cases inserted : (installed.putIfAbsent now (uniqueKey uniqueId)
            (uniqueToken uuid) (effectiveTtl uniqueFor)).1 with
      | false =>
        left
        refine ⟨uniqueId, uniqueFor, rfl, ?_, ?_⟩
        · exact answer.symm.trans inserted
        · have unchanged := MemoryStore.putIfAbsent_refused inserted
          simp only [acquireLease, spec]
          rw [← Prod.eta (installed.putIfAbsent _ _ _ _), inserted, unchanged]
      | true =>
        right
        refine ⟨installed, uniqueId, uniqueFor, rfl, rfl, ?_, ?_⟩
        · exact answer.symm.trans inserted
        · simp only [acquireLease, spec]
          rw [← Prod.eta (installed.putIfAbsent _ _ _ _), inserted]

variable {registry : UniqueRegistry Json} {store : UniqueStore} {body : Json}

theorem leaseFree_acquireLease {now later : Nat} {uuid typeKey other : String}
    (notTaken : (acquireLease registry now uuid typeKey body store).1 ≠ .acquired other) :
    leaseFree later other (acquireLease registry now uuid typeKey body store).2 =
      leaseFree later other store := by
  rcases acquireLease_cases registry now uuid typeKey body store with
    ⟨outcome, -⟩ | ⟨_, _, -, -, outcome⟩ | ⟨installed, uniqueId, _, rfl, -, -, outcome⟩
  · rw [outcome]
  · rw [outcome]
  · rw [outcome] at notTaken ⊢
    have differs : uniqueKey other ≠ uniqueKey uniqueId := by
      intro same
      exact notTaken (by rw [uniqueKey_injective same])
    simp only [leaseFree, leaseToken, Option.bind_some]
    rw [MemoryStore.get_putIfAbsent_other differs]

/-! ## Releasing -/

variable {now : Nat}

theorem leaseFree_releaseUnique_self {typeKey uniqueId : String} {uniqueFor : Duration}
    (spec : uniqueSpec registry typeKey body = some (uniqueId, uniqueFor)) (store : UniqueStore) :
    leaseFree now uniqueId (releaseUnique registry typeKey body store) = true := by
  cases store with
  | none => rfl
  | some installed => simp [releaseUnique, spec, leaseFree, leaseToken]

variable {uniqueId : String}

theorem leaseFree_releaseUnique (free : leaseFree now uniqueId store = true) (typeKey : String)
    (body : Json) : leaseFree now uniqueId (releaseUnique registry typeKey body store) = true := by
  cases store with
  | none => rfl
  | some installed =>
    cases spec : uniqueSpec registry typeKey body with
    | none => simpa [releaseUnique, spec] using free
    | some found =>
      by_cases same : uniqueId = found.1
      · subst same
        exact leaseFree_releaseUnique_self spec (some installed)
      · have differs : uniqueKey uniqueId ≠ uniqueKey found.1 :=
          fun sameKey => same (uniqueKey_injective sameKey)
        simpa [releaseUnique, spec, leaseFree, leaseToken,
          MemoryStore.get_forget_other differs] using free

theorem leaseFree_releaseLease_self {payload : JobPayload Json}
    (isUnique : payload.uniqueId registry = some uniqueId) (store : UniqueStore) :
    leaseFree now uniqueId (releaseLease registry payload store) = true := by
  unfold JobPayload.uniqueId at isUnique
  cases typeKey : payload.job with
  | none => simp [typeKey] at isUnique
  | some key =>
    simp only [typeKey, Option.bind_some, Option.map_eq_some_iff] at isUnique
    obtain ⟨⟨found, uniqueFor⟩, spec, rfl⟩ := isUnique
    simp only [releaseLease, typeKey]
    exact leaseFree_releaseUnique_self spec store

theorem leaseFree_releaseLease
    (free : leaseFree now uniqueId store = true) (payload : JobPayload Json) :
    leaseFree now uniqueId (releaseLease registry payload store) = true := by
  unfold releaseLease
  split
  · exact free
  · exact leaseFree_releaseUnique free _ _

theorem leaseFree_of_later {now later : Nat} (elapsed : now ≤ later)
    (free : leaseFree now uniqueId store = true) : leaseFree later uniqueId store = true := by
  cases store with
  | none => rfl
  | some installed =>
    simp only [leaseFree, leaseToken, Option.bind_some] at free ⊢
    cases found : (installed.get later (uniqueKey uniqueId)).1 with
    | none => rfl
    | some token =>
      rw [MemoryStore.get_of_later elapsed found] at free
      simp at free

end Rustasea.Queue
