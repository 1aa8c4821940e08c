import Rustasea.Library.GenerationCache
import Rustasea.Orm.Mutations

namespace Rustasea.Orm.MutationCache

open EffectProgram (Handler Makes Program Takes)
open EffectProgram.Program (ask fail run run_bind run_bind_ok run_bind_error)
open GenerationCache (Key Cache)
open Rustasea.Orm.Mutations

/-!
# Mutations over a cached database

The requests of the write path in a world with tables, a query cache and a
fault schedule: every fallible step takes one mark of the schedule, and a
statement that fails changes nothing.  The model's table is invalidated at the
end of a mutation, the table of a cascaded chunk right after its statement.
The counters wrap, and the store may hold answers of other processes.
-/

variable {Hash Payload : Type}

/--
A stored answer, the further tables that its query reads, and how many changes
the rows it was read from had seen.
-/
structure Stored (Payload : Type) where
  payload : Payload
  joined : List String
  readAt : Nat

/--
The tables, when each of them last changed and how often it was invalidated, the
cache, and which of the steps to come succeed: all of them, once the schedule is
empty.
-/
structure World (Hash Payload : Type) where
  tables : String → List Json
  changes : Nat
  changedAt : String → Nat
  invalidations : String → Nat
  cache : Cache String UInt64 Hash (Stored Payload)
  storeInstalled : Bool
  schedule : List Bool
  readBefore : ∀ key stored, cache.entries key = some stored → stored.readAt ≤ changes
  changedBefore : ∀ table, changedAt table ≤ changes

/-- What the database answers and does. -/
structure Driver where
  get : String → List (Clause Json) → (String → List Json) → List Json
  execute : Write → (String → List Json) → List Json × Nat
  failure : Request → String

namespace World

/-- The answer of the cache to a query on a table, if the cache answers it. -/
def cached (world : World Hash Payload) (table : String) (hash : Hash) : Option (Stored Payload) :=
  if world.storeInstalled then world.cache.entries (world.cache.key table hash)
  else none

def tick (world : World Hash Payload) : World Hash Payload :=
  { world with schedule := world.schedule.tail }

def succeeds (world : World Hash Payload) : Bool := world.schedule.headD true

def changeRows (table : String) (rows : List Json) (world : World Hash Payload) :
    World Hash Payload :=
  {
    world with
    tables := Function.update world.tables table rows
    changes := world.changes + 1
    changedAt := Function.update world.changedAt table (world.changes + 1)
    readBefore := fun key stored isStored =>
      Nat.le_succ_of_le (world.readBefore key stored isStored)
    changedBefore := by
      intro other
      by_cases same : other = table
      · rw [same, Function.update_self]
      · rw [Function.update_of_ne same]
        exact Nat.le_succ_of_le (world.changedBefore other)
  }

/-- Advance the generation of a table, when a store is installed. -/
def invalidateTable (table : String) (world : World Hash Payload) : World Hash Payload :=
  {
    world with
    invalidations :=
      Function.update world.invalidations table (world.invalidations table + 1)
    cache := if world.storeInstalled then world.cache.bump table else world.cache
    readBefore := by
      intro key stored isStored
      apply world.readBefore key stored
      split at isStored
      · exact isStored
      · exact isStored
  }

end World

def failureOf (driver : Driver) (asked : Request) : MutationError :=
  match asked with
  | .record _ => .activity (driver.failure asked)
  | _ => .storage (driver.failure asked)

def fallible {Answer : Type} (driver : Driver) (asked : Request)
    (effect : World Hash Payload → World Hash Payload × Answer)
    (world : World Hash Payload) : World Hash Payload × Except MutationError Answer :=
  if world.succeeds then
    let (after, answer) := effect world.tick
    (after, .ok answer)
  else (world.tick, .error (failureOf driver asked))

/-- What a statement does to the world, and how many rows it affects. -/
def executeIn (driver : Driver) (write : Write) (world : World Hash Payload) :
    World Hash Payload × Nat :=
  let (rows, affected) := driver.execute write world.tables
  if affected = 0 then (world, 0)
  else (world.changeRows write.table rows, affected)

/-- A statement affects no rows, or it changes those of its table. -/
theorem executeIn_cases (driver : Driver) (write : Write) (world : World Hash Payload) :
    executeIn driver write world = (world, 0) ∨
    ∃ rows affected, affected ≠ 0 ∧
        executeIn driver write world = (world.changeRows write.table rows, affected) := by
  unfold executeIn
  rcases driver.execute write world.tables with ⟨rows, affected⟩
  by_cases affectsNone : affected = 0
  · exact .inl (if_pos affectsNone)
  · exact .inr ⟨rows, affected, affectsNone, if_neg affectsNone⟩

theorem changedAt_changeRows_self (table : String) (rows : List Json) (world : World Hash Payload) :
    (world.changeRows table rows).changedAt table = world.changes + 1 :=
  Function.update_self ..

theorem changedAt_changeRows_of_ne {table other : String} (different : other ≠ table)
    (rows : List Json) (world : World Hash Payload) :
    (world.changeRows table rows).changedAt other = world.changedAt other :=
  Function.update_of_ne different ..

theorem invalidations_invalidateTable_self (table : String) (world : World Hash Payload) :
    (world.invalidateTable table).invalidations table = world.invalidations table + 1 :=
  Function.update_self ..

theorem invalidations_invalidateTable_of_ne {table other : String} (different : other ≠ table)
    (world : World Hash Payload) :
    (world.invalidateTable table).invalidations other = world.invalidations other :=
  Function.update_of_ne different ..

def handle (driver : Driver) : Handler Request Reply MutationError (World Hash Payload)
  | .get table clauses =>
    fallible driver (.get table clauses) fun world => (world, driver.get table clauses world.tables)
  | .serialize row => fallible driver (.serialize row) fun world => (world, ())
  | .execute write => fallible driver (.execute write) (executeIn driver write)
  | .hydrate row => fallible driver (.hydrate row) fun world => (world, ())
  | .record event => fallible driver (.record event) fun world => (world, ())
  | .invalidateTable table => fun world => (world.invalidateTable table, .ok ())

/-- No query is answered with rows that were read before its tables changed. -/
def FreshAfter (before after : World Hash Payload) : Prop :=
  ∀ table hash stored, after.cached table hash = some stored → ∀ read ∈ table :: stored.joined,
    after.changedAt read ≠ before.changedAt read → after.changedAt read ≤ stored.readAt

/--
An answer from before lies under the generation that its table has reached, and
was read from a table that changed.
-/
def Overtaken (before after : World Hash Payload) : Prop :=
  before.storeInstalled = true ∧ ∃ key stored, before.cache.entries key = some stored ∧
    key.generation = before.cache.generation key.table +
      UInt64.ofNat (after.invalidations key.table - before.invalidations key.table) ∧
    ∃ read ∈ key.table :: stored.joined, after.changedAt read ≠ before.changedAt read

/--
The store holds no answer ahead of the counters, no counter wraps, and every
answer of the cache was read from its own table alone.
-/
structure InReach (before after : World Hash Payload) : Prop where
  reached : ∀ key stored, before.cache.entries key = some stored →
    key.generation ≤ before.cache.generation key.table
  room : ∀ table, (before.cache.generation table).toNat +
    (after.invalidations table - before.invalidations table) < 2 ^ 64
  ownTable : ∀ table hash stored, before.cached table hash = some stored → stored.joined = []

/-- The statement of a mutation changes rows, and a later step of it fails. -/
def FailsAfterStatement {model : Model} {Result : Type} (driver : Driver)
    (mutation : Mutation model Result) (world : World Hash Payload) : Prop :=
  match run (handle driver) mutation.before world with
  | (_, .error _) => False
  | (prepared, .ok context) =>
    match run (handle driver) (execute (mutation.statement context)) prepared
    with
    | (_, .error _) => False
    | (changed, .ok affected) =>
      affected ≠ 0 ∧ ∃ failed failure,
          run (handle driver) (mutation.after context affected) changed = (failed, .error failure)

/-! ## What any step does -/

/-- The entries stay, rows change later than before, and each invalidation counts. -/
structure Ran (before after : World Hash Payload) : Prop where
  entries : after.cache.entries = before.cache.entries
  storeInstalled : after.storeInstalled = before.storeInstalled
  changes : before.changes ≤ after.changes
  late : ∀ table, after.changedAt table ≠ before.changedAt table →
    before.changes < after.changedAt table
  counted : ∀ table, ∃ count, after.invalidations table = before.invalidations table + count ∧
    (before.storeInstalled = true →
      after.cache.generation table = before.cache.generation table + UInt64.ofNat count)

namespace Ran

variable {first second third : World Hash Payload}

/-- Only what the cache does not see differs. -/
theorem of_eq {tables : String → List Json} {schedule : List Bool}
    (same : second = { first with tables := tables, schedule := schedule }) : Ran first second := by
  subst same
  exact ⟨rfl, rfl, Nat.le_refl _, fun _ changed => absurd rfl changed,
    fun _ => ⟨0, rfl, fun _ => (UInt64.add_zero _).symm⟩⟩

theorem refl (world : World Hash Payload) : Ran world world := of_eq rfl

theorem trans (one : Ran first second) (two : Ran second third) : Ran first third where
  entries := two.entries.trans one.entries
  storeInstalled := two.storeInstalled.trans one.storeInstalled
  changes := Nat.le_trans one.changes two.changes
  late table changed := by
    by_cases same : third.changedAt table = second.changedAt table
    · rw [same] at changed ⊢
      exact one.late table changed
    · exact Nat.lt_of_le_of_lt one.changes (two.late table same)
  counted table := by
    obtain ⟨early, earlyCount, earlyGeneration⟩ := one.counted table
    obtain ⟨late, lateCount, lateGeneration⟩ := two.counted table
    refine ⟨early + late, ?_, ?_⟩
    · rw [lateCount, earlyCount, Nat.add_assoc]
    · intro installed
      rw [lateGeneration (one.storeInstalled.trans installed), earlyGeneration installed,
        UInt64.ofNat_add, UInt64.add_assoc]

theorem invalidations_le (ran : Ran first second) (table : String) :
    first.invalidations table ≤ second.invalidations table := by
  obtain ⟨count, isCount, -⟩ := ran.counted table
  omega

theorem executeIn (driver : Driver) (write : Write) (world : World Hash Payload) :
    Ran world (executeIn driver write world).1 := by
  rcases executeIn_cases driver write world with none | ⟨rows, affected, -, some⟩
  · rw [none]
    exact .refl world
  · rw [some]
    refine ⟨rfl, rfl, Nat.le_succ _, ?_, fun _ => ⟨0, rfl, fun _ => (UInt64.add_zero _).symm⟩⟩
    intro table changed
    by_cases same : table = write.table
    · subst same
      rw [changedAt_changeRows_self]
      exact Nat.lt_succ_self _
    · exact absurd (changedAt_changeRows_of_ne same rows world) changed

theorem invalidateTable (table : String) (world : World Hash Payload) :
    Ran world (world.invalidateTable table) := by
  refine ⟨?_, rfl, Nat.le_refl _, fun _ changed => absurd rfl changed, ?_⟩
  · unfold World.invalidateTable
    split
    · rfl
    · rfl
  · intro other
    by_cases same : other = table
    · subst same
      refine ⟨1, invalidations_invalidateTable_self other world, ?_⟩
      intro installed
      unfold World.invalidateTable
      dsimp only
      rw [if_pos installed]
      exact world.cache.generation_bump_self other
    · refine ⟨0, invalidations_invalidateTable_of_ne same world, ?_⟩
      intro installed
      unfold World.invalidateTable
      dsimp only
      rw [if_pos installed, world.cache.generation_bump_of_ne same]
      exact (UInt64.add_zero _).symm

theorem fallible {Answer : Type} {driver : Driver} {asked : Request}
    {effect : World Hash Payload → World Hash Payload × Answer}
    (ran : ∀ world, Ran world (effect world).1) (world : World Hash Payload) :
    Ran world (fallible driver asked effect world).1 := by
  have ticked : Ran world world.tick := of_eq rfl
  unfold MutationCache.fallible
  split
  · exact ticked.trans (ran world.tick)
  · exact ticked

theorem handle (driver : Driver) (asked : Request) (world : World Hash Payload) :
    Ran world (handle driver asked world).1 := by
  cases asked with
  | execute write => exact .fallible (.executeIn driver write) world
  | invalidateTable table => exact .invalidateTable table world
  | _ => exact .fallible .refl world

theorem run {Result : Type} (driver : Driver) (program : Mutations.Call Result) :
    Takes (MutationCache.handle driver) (@Ran Hash Payload) program :=
  have makesAny : Makes (fun _ => True) program := .all (fun _ => trivial) program
  makesAny.takes .refl (fun _ _ _ => .trans) fun asked world _ => .handle driver asked world

/-- Stale are the answers that the counters have reached, and no other ones. -/
theorem freshAfter_iff (ran : Ran first second) :
    FreshAfter first second ↔ ¬Overtaken first second := by
  have answered (table : String) (hash : Hash) (installed : first.storeInstalled = true) :
      second.cached table hash = first.cache.entries
        ⟨table, first.cache.generation table +
          UInt64.ofNat (second.invalidations table - first.invalidations table), hash⟩ := by
    obtain ⟨count, isCount, generation⟩ := ran.counted table
    unfold World.cached Cache.key
    rw [if_pos (ran.storeInstalled.trans installed), ran.entries, generation installed, isCount,
      Nat.add_sub_cancel_left]
  constructor
  · rintro fresh
      ⟨installed, ⟨table, generation, hash⟩, stored, isStored, isReached, read, isRead, changed⟩
    dsimp only at isReached
    subst isReached
    have late := fresh table hash stored ((answered table hash installed).trans isStored) read
      isRead
      changed
    exact absurd (Nat.lt_of_lt_of_le (ran.late read changed) late)
      (Nat.not_lt_of_le (first.readBefore _ stored isStored))
  · intro notOvertaken table hash stored isCached read isRead changed
    by_cases installed : first.storeInstalled = true
    · rw [answered table hash installed] at isCached
      exact absurd ⟨installed, _, stored, isCached, rfl, read, isRead, changed⟩ notOvertaken
    · unfold World.cached at isCached
      rw [if_neg fun stillInstalled => installed (ran.storeInstalled.symm.trans stillInstalled)]
        at isCached
      cases isCached

end Ran

/-! ## Tables that are left behind -/

/-- The rows of the table changed, and it was not invalidated. -/
def LeftBehind (before after : World Hash Payload) (table : String) : Prop :=
  after.changedAt table ≠ before.changedAt table ∧
    after.invalidations table = before.invalidations table

/-- Where nothing else is in reach, stale are the answers about a table left behind. -/
theorem InReach.overtaken_iff {before after : World Hash Payload} (ran : Ran before after)
    (inReach : InReach before after) :
    Overtaken before after ↔
      ∃ table hash stored,
          before.cached table hash = some stored ∧ LeftBehind before after table := by
  constructor
  · rintro ⟨installed, ⟨table, generation, hash⟩, stored, isStored, isReached, read, isRead,
      changed⟩
    have sameCount : after.invalidations table = before.invalidations table := by
      have room := inReach.room table
      have reached := UInt64.le_iff_toNat_le.mp (inReach.reached _ stored isStored)
      have notFewer := ran.invalidations_le table
      dsimp only at isReached reached
      rw [isReached, UInt64.toNat_add, UInt64.toNat_ofNat'] at reached
      omega
    have isPresent : generation = before.cache.generation table := by
      dsimp only at isReached
      rw [isReached, sameCount, Nat.sub_self]
      exact UInt64.add_zero _
    have isCached : before.cached table hash = some stored := by
      unfold World.cached Cache.key
      rw [if_pos installed, ← isPresent]
      exact isStored
    rw [inReach.ownTable table hash stored isCached, List.mem_singleton] at isRead
    subst isRead
    exact ⟨_, hash, stored, isCached, changed, sameCount⟩
  · rintro ⟨table, hash, stored, isCached, changed, sameCount⟩
    unfold World.cached Cache.key at isCached
    split at isCached
    · next installed =>
      refine ⟨installed, _, stored, isCached, ?_, table, List.mem_cons_self, changed⟩
      rw [sameCount, Nat.sub_self]
      exact (UInt64.add_zero _).symm
    · cases isCached

/-! ## Steps that settle their tables -/

/-- Nothing but the schedule moves on. -/
def Unchanged (before after : World Hash Payload) : Prop :=
  ∃ schedule, after = { before with schedule := schedule }

theorem unchanged_of_quiet (driver : Driver) {Result : Type} {program : Mutations.Call Result}
    (quiet : Quiet program) : Takes (handle driver) (@Unchanged Hash Payload) program := by
  refine quiet.takes (fun world => ⟨world.schedule, rfl⟩) ?_ ?_
  · rintro first _ _ ⟨_, rfl⟩ ⟨schedule, rfl⟩
    exact ⟨schedule, rfl⟩
  · intro asked world isQuiet
    cases asked with
    | execute write => cases isQuiet
    | invalidateTable table => cases isQuiet
    | _ =>
      refine ⟨world.schedule.tail, ?_⟩
      simp only [handle, fallible]
      split
      · rfl
      · rfl

/-- Every other table whose rows changed is invalidated, and the own one is left alone. -/
structure Settles (own : String) (before after : World Hash Payload) : Prop where
  fewer : ∀ table, before.invalidations table ≤ after.invalidations table
  swept : ∀ table, ¬LeftBehind before after table
  ownCount : after.invalidations own = before.invalidations own

namespace Settles

variable {own : String} {first second third : World Hash Payload}

theorem of_unchanged (unchanged : Unchanged first second) : Settles own first second := by
  obtain ⟨schedule, rfl⟩ := unchanged
  exact ⟨fun _ => Nat.le_refl _, fun _ left => left.1 rfl, rfl⟩

theorem trans (one : Settles own first second) (two : Settles own second third) :
    Settles own first third where
  fewer table := Nat.le_trans (one.fewer table) (two.fewer table)
  swept := by
    rintro table ⟨changed, sameCount⟩
    have early := one.fewer table
    have late := two.fewer table
    by_cases same : third.changedAt table = second.changedAt table
    · exact one.swept table ⟨same ▸ changed, by omega⟩
    · exact two.swept table ⟨same, by omega⟩
  ownCount := two.ownCount.trans one.ownCount

theorem ownChange (settles : Settles own first second) :
    second.changedAt own = first.changedAt own := by
  by_contra changed
  exact settles.swept own ⟨changed, settles.ownCount⟩

theorem of_invalidate (driver : Driver) {write : Write} (other : write.table ≠ own)
    (world : World Hash Payload) :
    Settles own world ((executeIn driver write world).1.invalidateTable write.table) := by
  rcases executeIn_cases driver write world with none | ⟨rows, affected, -, some⟩
  · rw [none]
    refine ⟨(Ran.invalidateTable write.table world).invalidations_le, fun _ left => left.1 rfl, ?_⟩
    exact invalidations_invalidateTable_of_ne other.symm world
  · rw [some]
    refine ⟨(Ran.invalidateTable write.table (world.changeRows write.table rows)).invalidations_le,
      ?_, invalidations_invalidateTable_of_ne other.symm _⟩
    rintro table ⟨changed, sameCount⟩
    by_cases same : table = write.table
    · subst same
      rw [invalidations_invalidateTable_self] at sameCount
      exact absurd sameCount (Nat.succ_ne_self _)
    · exact changed (changedAt_changeRows_of_ne same rows world)

end Settles

/-- Every run settles the tables it changes, and leaves the own one alone. -/
abbrev Settling (Hash Payload : Type) {Result : Type} (driver : Driver) (own : String)
    (program : Mutations.Call Result) : Prop :=
  Takes (handle driver) (@Settles Hash Payload own) program

section Settling

variable {driver : Driver} {own : String}

theorem settling_of_quiet {Result : Type} {program : Mutations.Call Result}
    (quiet : Quiet program) : Settling Hash Payload driver own program :=
  fun world => .of_unchanged (unchanged_of_quiet driver quiet world)

theorem settling_bind {Result Next : Type} {program : Mutations.Call Result}
    {next : Result → Mutations.Call Next} (first : Settling Hash Payload driver own program)
    (second : ∀ result, Settling Hash Payload driver own (next result)) :
    Settling Hash Payload driver own (program >>= next) :=
  Takes.bind (fun _ _ _ => .trans) first second

theorem settling_forM {Item : Type} {body : Item → Mutations.Call Unit}
    (settling : ∀ item, Settling Hash Payload driver own (body item))
    (items : List Item) : Settling Hash Payload driver own (items.forM body) := by
  induction items with
  | nil => exact settling_of_quiet (.pure _)
  | cons item rest ih => exact settling_bind (settling item) fun _ => ih

theorem settling_onlyIf {condition : Bool} {program : Mutations.Call Unit}
    (settling : Settling Hash Payload driver own program) :
    Settling Hash Payload driver own (onlyIf condition program) := by
  unfold onlyIf
  split
  · exact settling
  · exact settling_of_quiet (.pure _)

theorem settling_sweep (write : Write) (other : write.table ≠ own) :
    Settling Hash Payload driver own (execute write >>= fun _ => invalidateTable write.table) := by
  intro world
  have ran : run (handle driver) (execute write) world =
      fallible driver (.execute write) (executeIn driver write) world :=
    Program.run_ask _ _
  by_cases succeeds : world.succeeds = true
  · rw [fallible, if_pos succeeds] at ran
    rw [run_bind_ok ran]
    exact (Settles.of_unchanged ⟨_, rfl⟩).trans (.of_invalidate driver other world.tick)
  · rw [fallible, if_neg succeeds] at ran
    rw [run_bind_error ran]
    exact .of_unchanged ⟨_, rfl⟩

theorem settling_executeChildChunk {table : String} (other : table ≠ own) (mode : CascadeMode)
    (ids : List (Value Json)) :
    Settling Hash Payload driver own (executeChildChunk table mode ids) :=
  settling_bind (settling_of_quiet (quiet_validateIdentifier _ _)) fun _ =>
    settling_sweep (.childChunk table ids mode) other

theorem settling_cascadeRelation (records : Bool) (parent : Json) (mode : CascadeMode)
    {relation : Relation} (other : relation.relatedTable ≠ own) :
    Settling Hash Payload driver own (cascadeRelation records parent mode relation) := by
  apply settling_bind (settling_of_quiet (quiet_get _ _))
  intro found
  apply settling_bind (settling_forM (settling_executeChildChunk other mode) _)
  intro _
  exact settling_of_quiet (quiet_recordChildren records relation mode _)

theorem settling_cascadeOver (records : Bool) (model : Model) (parent : Json) (mode : CascadeMode)
    (names visited : List String) :
    Settling Hash Payload driver model.table
      (cascadeOver records model parent mode names visited) := by
  induction names generalizing visited with
  | nil => exact settling_of_quiet (.pure _)
  | cons name names ih =>
    unfold cascadeOver
    split
    · exact settling_of_quiet (.fail _)
    · next relation _ =>
      split
      · exact ih visited
      · apply settling_bind
          (settling_of_quiet (quiet_validateRelationIdentifiers relation))
        intro _
        split
        · exact ih visited
        · next notOwn =>
          split
          · exact ih (name :: visited)
          · exact settling_bind
              (settling_cascadeRelation records parent mode fun same => notOwn (.inl same))
              fun _ => ih (name :: visited)

theorem settling_cascadeFrom (recorderInstalled : Bool) (model : Model) (parent : Option Json)
    (mode : CascadeMode) :
    Settling Hash Payload driver model.table (cascadeFrom recorderInstalled model parent mode) := by
  cases parent with
  | none => exact settling_of_quiet (.pure _)
  | some parent =>
    unfold cascadeFrom
    dsimp only
    unfold cascade
    split
    · exact settling_of_quiet (.pure _)
    · exact settling_cascadeOver _ model parent mode _ _

end Settling

/-! ## One mutation -/

/-- The mutations of a model. -/
inductive Operation where
  | create (fresh : String) (given : ModelRow Json)
  | save (fresh : String) (given : ModelRow Json)
  | update (given : ModelRow Json)
  | delete (key : List (Value Json))
  | forceDelete (key : List (Value Json))
  | softDelete (key : List (Value Json))
  | restore (key : List (Value Json))

def Operation.Result : Operation → Type
  | .create _ _ => Persisted
  | .save _ _ => Persisted
  | .update _ => Persisted
  | _ => Bool

def Operation.mutation (recorderInstalled : Bool) (model : Model) : (operation : Operation) →
    Mutation model operation.Result
  | .create fresh given => Mutations.create recorderInstalled model fresh given
  | .save fresh given => Mutations.save recorderInstalled model fresh given
  | .update given => Mutations.update recorderInstalled model given
  | .delete key => deleteByKey recorderInstalled model key
  | .forceDelete key => forceDeleteByKey recorderInstalled model key
  | .softDelete key => softDeleteByKey recorderInstalled model key
  | .restore key => restoreByKey recorderInstalled model key

/--
What precedes the statement only reads, and what follows it settles the tables
of the children.
-/
structure Framed (Hash Payload : Type) {model : Model} {Result : Type} (driver : Driver)
    (mutation : Mutation model Result) :
    Prop where
  before : Quiet mutation.before
  after :
    ∀ context affected, Settling Hash Payload driver model.table (mutation.after context affected)

section Framed

variable {driver : Driver} (recorderInstalled : Bool) (model : Model)

theorem settling_reread (records : Bool) (key : KeyFilter Json) (data : ModelRow Json)
    (event : Option Json → Mutations.Call Unit) (quiet : ∀ logged, Quiet (event logged)) :
    Settling Hash Payload driver model.table (do
      let reread ← refreshWithSnapshot records model key data
      onlyIf records (event reread.2)
      pure reread.1) := by
  apply settling_of_quiet
  apply Makes.bind (quiet_refreshWithSnapshot model records key data)
  intro reread
  exact .bind (quiet_onlyIf (quiet reread.2)) fun _ => .pure _

theorem framed_create (fresh : String) (given : ModelRow Json) :
    Framed Hash Payload driver (Mutations.create recorderInstalled model fresh given) where
  before := .bind (quiet_prepareInsert model _) fun _ => .bind (quiet_serialize _) fun _ => .pure _
  after data _ :=
    settling_reread model _ data.key data (recordCreated model data.key) fun _ => quiet_dispatch _

theorem framed_save (fresh : String) (given : ModelRow Json) :
    Framed Hash Payload driver (Mutations.save recorderInstalled model fresh given) where
  before :=
    .bind (quiet_prepareInsert model _) fun _ =>
      .bind (quiet_snapshotIf model _ _) fun _ => .bind (quiet_serialize _) fun _ => .pure _
  after := by
    rintro ⟨data, old⟩ _
    refine settling_reread model _ data.key data
      (fun logged =>
        if old.isSome then recordUpdated model data.key old logged
        else recordCreated model data.key logged)
      fun logged => ?_
    split
    · exact quiet_recordUpdated model _ _ _
    · exact quiet_dispatch _

theorem framed_update (given : ModelRow Json) :
    Framed Hash Payload driver (Mutations.update recorderInstalled model given) where
  before :=
    .bind (quiet_snapshotIf model _ _) fun _ =>
      .bind (quiet_storedSourceValues model _) fun _ =>
        .bind (quiet_prepareUpdate model _ _) fun _ => .bind (quiet_serialize _) fun _ => .pure _
  after := by
    rintro ⟨data, old⟩ affected
    change Settling Hash Payload driver model.table (if affected = 0 then _ else _)
    split
    · exact settling_of_quiet (.fail _)
    · exact settling_reread model _ given.key data
        (recordUpdated model given.key old)
        fun _ => quiet_recordUpdated model _ _ _

theorem settling_handOn {event : Mutations.Call Unit} (quiet : Quiet event)
    (records affects : Bool) (parent : Option Json) (mode : CascadeMode) :
    Settling Hash Payload driver model.table (do
      onlyIf (records && affects) event
      onlyIf affects (cascadeFrom recorderInstalled model parent mode)
      pure affects) :=
  settling_bind (settling_of_quiet (quiet_onlyIf quiet)) fun _ =>
    settling_bind (settling_onlyIf (settling_cascadeFrom recorderInstalled model parent mode))
      fun _ => settling_of_quiet (.pure _)

variable (key : List (Value Json))

theorem framed_forceDelete :
    Framed Hash Payload driver (forceDeleteByKey recorderInstalled model key) where
  before := quiet_readBefore model recorderInstalled key
  after _ _ := settling_handOn recorderInstalled model (quiet_dispatch _) _ _ _ _

theorem framed_softDelete :
    Framed Hash Payload driver (softDeleteByKey recorderInstalled model key) where
  before := quiet_readBefore model recorderInstalled key
  after _ _ :=
    settling_handOn recorderInstalled model
      (.bind (quiet_snapshot model _) fun _ => quiet_dispatch _)
      _ _ _ _

theorem framed_restore : Framed Hash Payload driver (restoreByKey recorderInstalled model key) where
  before := quiet_readBefore model recorderInstalled key
  after _ _ :=
    settling_handOn recorderInstalled model
      (.bind (quiet_snapshot model _) fun _ => quiet_dispatch _)
      _ _ _ _

theorem Operation.framed (operation : Operation) :
    Framed Hash Payload driver (operation.mutation recorderInstalled model) := by
  cases operation with
  | create fresh given => exact framed_create recorderInstalled model fresh given
  | save fresh given => exact framed_save recorderInstalled model fresh given
  | update given => exact framed_update recorderInstalled model given
  | delete key =>
    change Framed Hash Payload driver (deleteByKey recorderInstalled model key)
    unfold deleteByKey
    split
    · exact framed_softDelete recorderInstalled model key
    · exact framed_forceDelete recorderInstalled model key
  | forceDelete key => exact framed_forceDelete recorderInstalled model key
  | softDelete key => exact framed_softDelete recorderInstalled model key
  | restore key => exact framed_restore recorderInstalled model key

end Framed

/-! ## After a mutation -/

section Call

variable {driver : Driver} {model : Model} {Result : Type}

theorem Unchanged.not_leftBehind {first second : World Hash Payload}
    (unchanged : Unchanged first second) (table : String) : ¬LeftBehind first second table :=
  (Settles.of_unchanged unchanged : Settles table first second).swept table

/-- The steps after a statement on the own table, up to one that fails, invalidate other tables. -/
theorem Settles.leftBehind_iff {own : String} {write : Write} (isOwn : write.table = own)
    {world prepared after : World Hash Payload} (unchanged : Unchanged world prepared)
    (settles : Settles own (executeIn driver write prepared).1 after) (table : String) :
    LeftBehind world after table ↔ table = own ∧ (executeIn driver write prepared).2 ≠ 0 := by
  obtain ⟨schedule, rfl⟩ := unchanged
  subst isOwn
  revert settles
  rcases executeIn_cases driver write { world with schedule := schedule } with
    none | ⟨rows, affected, affects, some⟩
  · rw [none]
    intro settles
    exact iff_of_false (settles.swept table) fun both => both.2 rfl
  · rw [some]
    intro settles
    constructor
    · rintro ⟨changed, sameCount⟩
      refine ⟨?_, affects⟩
      by_contra other
      apply settles.swept table
      rw [LeftBehind, changedAt_changeRows_of_ne other]
      exact ⟨changed, sameCount⟩
    · rintro ⟨rfl, -⟩
      refine ⟨?_, settles.ownCount⟩
      rw [settles.ownChange, changedAt_changeRows_self]
      exact Nat.ne_of_gt (Nat.lt_succ_of_le (world.changedBefore _))

theorem run_execute (driver : Driver) (write : Write) (world : World Hash Payload) :
    run (handle driver) (execute write) world =
      fallible driver (.execute write) (executeIn driver write) world :=
  Program.run_ask _ _

variable {mutation : Mutation model Result}

/--
A mutation leaves a table behind when it is its own, the statement changed rows
and a later step failed.
-/
theorem Framed.leftBehind_iff (framed : Framed Hash Payload driver mutation)
    (world : World Hash Payload) (table : String) :
    LeftBehind world (run (handle driver) mutation.call world).1 table ↔
      table = model.table ∧ FailsAfterStatement driver mutation world := by
  have unchanged := unchanged_of_quiet driver framed.before world
  rcases ranBefore : run (handle driver) mutation.before world with ⟨prepared, failure | context⟩
  · rw [ranBefore] at unchanged
    have ran : run (handle driver) mutation.call world = (prepared, .error failure) :=
      run_bind_error ranBefore
    unfold FailsAfterStatement
    rw [ran, ranBefore]
    exact iff_of_false (unchanged.not_leftBehind table) And.right
  rw [ranBefore] at unchanged
  have ticked : Unchanged world prepared.tick := by
    obtain ⟨schedule, rfl⟩ := unchanged
    exact ⟨schedule.tail, rfl⟩
  have ranExecute := run_execute driver (mutation.statement context) prepared
  unfold fallible at ranExecute
  split at ranExecute
  · rcases isExecuted : executeIn driver (mutation.statement context) prepared.tick with
      ⟨changed, affected⟩
    rw [isExecuted] at ranExecute
    have settles := framed.after context affected changed
    rcases ranAfter : run (handle driver) (mutation.after context affected) changed with
      ⟨after, failure | result⟩
    · rw [ranAfter] at settles
      have ran : run (handle driver) mutation.call world = (after, .error failure) :=
        (run_bind_ok ranBefore).trans ((run_bind_ok ranExecute).trans (run_bind_error ranAfter))
      have fails : FailsAfterStatement driver mutation world ↔ affected ≠ 0 := by
        unfold FailsAfterStatement
        rw [ranBefore]
        dsimp only
        rw [ranExecute]
        dsimp only
        rw [ranAfter]
        exact and_iff_left ⟨after, failure, rfl⟩
      have left := Settles.leftBehind_iff (mutation.ownTable context) ticked
        (by rw [isExecuted]; exact settles) table
      rw [isExecuted] at left
      rw [ran, fails]
      exact left
    · rw [ranAfter] at settles
      have ran : run (handle driver) mutation.call world =
          (after.invalidateTable model.table, .ok result) :=
        (run_bind_ok ranBefore).trans ((run_bind_ok ranExecute).trans (run_bind_ok ranAfter))
      have notFails : ¬FailsAfterStatement driver mutation world := by
        unfold FailsAfterStatement
        rw [ranBefore]
        dsimp only
        rw [ranExecute]
        dsimp only
        rw [ranAfter]
        rintro ⟨-, failed, failure, isFailure⟩
        cases isFailure
      have left := Settles.leftBehind_iff (mutation.ownTable context) ticked
        (by rw [isExecuted]; exact settles) table
      have executed :=
        (Ran.executeIn driver (mutation.statement context) prepared.tick).invalidations_le table
      have sameBefore : prepared.tick.invalidations = world.invalidations := by
        obtain ⟨schedule, isTicked⟩ := ticked
        rw [isTicked]
      rw [isExecuted, sameBefore] at executed
      rw [ran]
      refine iff_of_false ?_ fun both => notFails both.2
      rintro ⟨wasChanged, sameCount⟩
      by_cases same : table = model.table
      · subst same
        have fewer := settles.fewer model.table
        rw [invalidations_invalidateTable_self] at sameCount
        dsimp only at fewer executed
        omega
      · rw [invalidations_invalidateTable_of_ne same] at sameCount
        exact same (left.mp ⟨wasChanged, sameCount⟩).1
  · have ran : run (handle driver) mutation.call world =
        (prepared.tick, .error (failureOf driver (.execute (mutation.statement context)))) :=
      (run_bind_ok ranBefore).trans (run_bind_error ranExecute)
    unfold FailsAfterStatement
    rw [ran, ranBefore]
    dsimp only
    rw [ranExecute]
    exact iff_of_false (ticked.not_leftBehind table) And.right

end Call

def postModel : Model where
  table := "posts"
  typeName := "Post"
  primaryKeyColumns := ["id"]
  usesSoftDeletes := true
  logsActivity := true
  allowsColumn _ := true
  activityLogOnlyDirty := false
  cascadeSoftDeletes := false
  cascadeRelations := []
  relations := []
  slug := none

/-- A database in which the one post is found and stamped. -/
def postDriver : Driver where
  get _ _ tables := tables "posts"
  execute _ _ := ([.object [("deleted_at", .string "2024-01-01")]], 1)
  failure _ := "recorder is down"

/-- One post, and one stored answer; every step succeeds once the schedule ends. -/
def postWorld (schedule : List Bool) (key : Key String UInt64 String)
    (joined : List String) : World String Unit where
  tables _ := [.object [("deleted_at", .null)]]
  changes := 0
  changedAt _ := 0
  invalidations _ := 0
  cache := Cache.empty.put key ⟨(), joined, 0⟩
  storeInstalled := true
  schedule := schedule
  readBefore := by
    intro other stored isStored
    rcases Cache.entries_put_some isStored with ⟨-, rfl⟩ | isBefore
    · exact Nat.le_refl 0
    · cases isBefore
  changedBefore _ := Nat.le_refl 0

def softDeletePost : Mutations.Call Bool :=
  (Operation.mutation true postModel (.softDelete [.uuid nilUuid])).call

end Rustasea.Orm.MutationCache
