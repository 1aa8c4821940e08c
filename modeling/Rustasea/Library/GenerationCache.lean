import Mathlib.Logic.Function.Basic

namespace GenerationCache

/-!
# A cache with generations

A store whose keys carry the generation of the table that the answer is about.
Advancing the generation of a table leaves every stored answer where it is: the
ones under the generation before are out of reach.
-/

/-- A key of the store. -/
structure Key (Table Generation Hash : Type*) where
  table : Table
  generation : Generation
  hash : Hash
  deriving DecidableEq

/-- The generations and the stored answers. -/
structure Cache (Table Generation Hash Payload : Type*) where
  generation : Table → Generation
  entries : Key Table Generation Hash → Option Payload

namespace Cache

variable {Table Generation Hash Payload : Type*} [DecidableEq Table]

def empty [OfNat Generation 0] : Cache Table Generation Hash Payload where
  generation := fun _ => 0
  entries := fun _ => none

/-- The key of an answer at the present generation of its table. -/
def key (cache : Cache Table Generation Hash Payload) (table : Table) (hash : Hash) :
    Key Table Generation Hash :=
  ⟨table, cache.generation table, hash⟩

/-- Advance the generation of a table. -/
def bump [Add Generation] [OfNat Generation 1] (table : Table)
    (cache : Cache Table Generation Hash Payload) : Cache Table Generation Hash Payload :=
  {
    cache with
    generation := Function.update cache.generation table (cache.generation table + 1)
  }

def put [DecidableEq Generation] [DecidableEq Hash] (key : Key Table Generation Hash)
    (payload : Payload) (cache : Cache Table Generation Hash Payload) :
    Cache Table Generation Hash Payload :=
  { cache with entries := Function.update cache.entries key (some payload) }

def evict [DecidableEq Generation] [DecidableEq Hash] (key : Key Table Generation Hash)
    (cache : Cache Table Generation Hash Payload) : Cache Table Generation Hash Payload :=
  { cache with entries := Function.update cache.entries key none }

section Bumps

variable [Add Generation] [OfNat Generation 1] (cache : Cache Table Generation Hash Payload)

@[simp] theorem generation_bump_self (table : Table) :
    (cache.bump table).generation table = cache.generation table + 1 :=
  Function.update_self ..

theorem generation_bump_of_ne {table other : Table} (different : other ≠ table) :
    (cache.bump table).generation other = cache.generation other :=
  Function.update_of_ne different ..

end Bumps

theorem generation_le_bump (cache : Cache Table Nat Hash Payload) (table other : Table) :
    cache.generation other ≤ (cache.bump table).generation other := by
  by_cases same : other = table
  · subst same
    rw [generation_bump_self]
    exact Nat.le_succ _
  · exact Nat.le_of_eq (generation_bump_of_ne cache same).symm

variable [DecidableEq Generation] [DecidableEq Hash] {cache : Cache Table Generation Hash Payload}
  {key other : Key Table Generation Hash}

theorem entries_put_some {payload found : Payload}
    (isFound : (cache.put key payload).entries other = some found) :
    (other = key ∧ found = payload) ∨ cache.entries other = some found := by
  unfold put at isFound
  by_cases same : other = key
  · subst same
    dsimp only at isFound
    rw [Function.update_self] at isFound
    exact .inl ⟨rfl, (Option.some.inj isFound).symm⟩
  · dsimp only at isFound
    rw [Function.update_of_ne same] at isFound
    exact .inr isFound

theorem entries_evict_some {found : Payload}
    (isFound : (cache.evict key).entries other = some found) :
    cache.entries other = some found := by
  unfold evict at isFound
  by_cases same : other = key
  · subst same
    dsimp only at isFound
    rw [Function.update_self] at isFound
    cases isFound
  · dsimp only at isFound
    rw [Function.update_of_ne same] at isFound
    exact isFound

end Cache

end GenerationCache
