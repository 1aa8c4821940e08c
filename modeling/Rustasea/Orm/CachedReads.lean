import Rustasea.Library.GenerationCache
import Rustasea.Library.TransitionSystem
import Rustasea.Orm.SqlText

namespace Rustasea.Orm.CachedReads

open Function

open GenerationCache (Key Cache)
open TransitionSystem
  (Reachable ReachableAlong reachableAlong_of_runAlong? reachable_of_run? run? runAlong?)

/-!
# Cached reads beside transactions

Readers, connections and the cache of one process.  A cached read takes several
steps: it reads the generation and makes its key, asks the store, fetches the
rows from its executor, and stores them.  A write inside a transaction is seen
by the others at the commit; nothing on the transaction path advances a
generation.
-/

variable {Json Contents Rows Hash : Type}

abbrev Database (Contents : Type) := String → Contents

/-- A statement that changes the contents of one table. -/
structure Write (Contents : Type) where
  table : String
  change : Contents → Contents

/-- A query as its key is made: `count:` stands in front of a COUNT. -/
structure Query (Json : Type) where
  table : String
  text : String
  bindings : List (Value Json)
  deriving DecidableEq

/-- Where a query runs. -/
inductive Executor where
  | pool
  | transaction (connection : Nat)
  deriving DecidableEq

/-- The database's answers, `Value::to_json`, and the digest of a key. -/
structure Driver (Json Contents Rows Hash : Type) where
  evaluate : Query Json → Database Contents → Rows
  toJson : Value Json → Json
  digest : String × List Json → Hash

def Driver.hash (driver : Driver Json Contents Rows Hash) (query : Query Json) : Hash :=
  driver.digest (query.text, query.bindings.map driver.toJson)

/-- What is stored: the rows, and the query they were read for. -/
structure Payload (Json Rows : Type) where
  query : Query Json
  rows : Rows

/-- How far a cached read has come. -/
inductive Phase (Rows : Type) where
  | consulting
  | fetching
  | storing (rows : Rows)

/-- A cached read under way; `startedAt` counts the commits before it. -/
structure Reader (Json Rows Hash : Type) where
  query : Query Json
  executor : Executor
  key : Key String Nat Hash
  startedAt : Nat
  phase : Phase Rows

/-- A finished cached read. -/
structure Answer (Json Rows : Type) where
  query : Query Json
  executor : Executor
  startedAt : Nat
  rows : Rows
  deriving DecidableEq

/-- An open transaction; `begunAt` counts the commits before it. -/
structure Transaction (Contents : Type) where
  begunAt : Nat
  writes : List (Write Contents)

/-- The database, the open transactions, the cache and the reads. -/
structure State (Json Contents Rows Hash : Type) where
  past : List (Database Contents)
  current : Database Contents
  transactions : Nat → Option (Transaction Contents)
  cache : Cache String Nat Hash (Payload Json Rows)
  unbumped : List String
  readers : Nat → Option (Reader Json Rows Hash)
  answers : List (Answer Json Rows)

def State.initial (database : Database Contents) : State Json Contents Rows Hash :=
  {
    past := []
    current := database
    transactions := fun _ => none
    cache := Cache.empty
    unbumped := []
    readers := fun _ => none
    answers := []
  }

def State.states (state : State Json Contents Rows Hash) : List (Database Contents) :=
  state.past ++ [state.current]

def applyWrites (database : Database Contents) (writes : List (Write Contents)) :
    Database Contents :=
  writes.foldl
    (fun database write =>
      update database write.table (write.change (database write.table)))
    database

/-- Make writes visible to everyone; `unbumped` notes their tables. -/
def State.publish (writes : List (Write Contents)) (state : State Json Contents Rows Hash) :
    State Json Contents Rows Hash :=
  {
    state with
    past := state.past ++ [state.current]
    current := applyWrites state.current writes
    unbumped := writes.map Write.table ++ state.unbumped
  }

/--
What an executor sees.  A transaction sees its own writes over one of the states
committed since it began, which one is up to its isolation level; a closed
transaction sees nothing.
-/
def State.view (state : State Json Contents Rows Hash) (snapshot : Nat) : Executor →
    Option (Database Contents)
  | .pool => some state.current
  | .transaction connection =>
    match state.transactions connection with
    | some transaction =>
      if transaction.begunAt ≤ snapshot then
        state.states[snapshot]?.map (applyWrites · transaction.writes)
      else none
    | none => none

/-- One step of a connection, a reader, the store or the application. -/
inductive Action (Json Contents Hash : Type) where
  | begin (connection : Nat)
  | execute (connection : Nat) (write : Write Contents)
  | commit (connection : Nat)
  | rollback (connection : Nat)
  | bumpTableGeneration (table : String)
  | startRead (reader : Nat) (executor : Executor) (query : Query Json)
  | consult (reader : Nat) (storeAnswers : Bool)
  | fetch (reader snapshot : Nat) (succeeds : Bool)
  | store (reader : Nat) (succeeds : Bool)
  | evict (key : Key String Nat Hash)

def State.withTransaction (connection : Nat) (transaction : Option (Transaction Contents))
    (state : State Json Contents Rows Hash) : State Json Contents Rows Hash :=
  {
    state with
    transactions := update state.transactions connection transaction
  }

def State.withReader (reader : Nat) (read : Option (Reader Json Rows Hash))
    (state : State Json Contents Rows Hash) : State Json Contents Rows Hash :=
  { state with readers := update state.readers reader read }

def State.answered (reader : Nat) (read : Reader Json Rows Hash) (rows : Rows)
    (state : State Json Contents Rows Hash) : State Json Contents Rows Hash :=
  {
    state.withReader reader none with
    answers := ⟨read.query, read.executor, read.startedAt, rows⟩ :: state.answers
  }

section Step

variable [DecidableEq Hash] (driver : Driver Json Contents Rows Hash)

@[grind =] def step? (state : State Json Contents Rows Hash) : Action Json Contents Hash →
    Option (State Json Contents Rows Hash)
  | .begin connection =>
    match state.transactions connection with
    | some _ => none
    | none => some (state.withTransaction connection (some ⟨state.past.length, []⟩))
  | .execute connection write =>
    match state.transactions connection with
    | some transaction =>
      some (state.withTransaction connection (some {
        transaction with writes := transaction.writes ++ [write]
      }))
    | none => some (state.publish [write])
  | .commit connection =>
    match state.transactions connection with
    | some transaction => some ((state.publish transaction.writes).withTransaction connection none)
    | none => none
  | .rollback connection =>
    match state.transactions connection with
    | some _ => some (state.withTransaction connection none)
    | none => none
  | .bumpTableGeneration table =>
    some {
      state with
      cache := state.cache.bump table
      unbumped := state.unbumped.filter fun other => decide (other ≠ table)
    }
  | .startRead reader executor query =>
    match state.readers reader with
    | some _ => none
    | none =>
      some (state.withReader reader (some {
        query := query
        executor := executor
        key := state.cache.key query.table (driver.hash query)
        startedAt := state.past.length
        phase := .consulting
      }))
  | .consult reader storeAnswers =>
    match state.readers reader with
    | some read =>
      match read.phase with
      | .consulting =>
        match if storeAnswers then state.cache.entries read.key else none with
        | some payload => some (state.answered reader read payload.rows)
        | none => some (state.withReader reader (some { read with phase := .fetching }))
      | _ => none
    | none => none
  | .fetch reader snapshot succeeds =>
    match state.readers reader with
    | some read =>
      match read.phase with
      | .fetching =>
        match if succeeds then state.view snapshot read.executor else none with
        | some database =>
          some (state.withReader reader (some {
            read with
            phase := .storing (driver.evaluate read.query database)
          }))
        | none => some (state.withReader reader none)
      | _ => none
    | none => none
  | .store reader succeeds =>
    match state.readers reader with
    | some read =>
      match read.phase with
      | .storing rows =>
        let answered := state.answered reader read rows
        some (
          if succeeds then
            {
              answered with
              cache := state.cache.put read.key ⟨read.query, rows⟩
            }
          else answered)
      | _ => none
    | none => none
  | .evict key => some { state with cache := state.cache.evict key }

end Step

/-! ## Reads of committed states -/

/-- The rows are the answer at a commit that is not before `startedAt`. -/
def ReadSince (driver : Driver Json Contents Rows Hash)
    (state : State Json Contents Rows Hash) (startedAt : Nat)
    (query : Query Json) (rows : Rows) : Prop :=
  ∃ position database, startedAt ≤ position ∧ state.states[position]? = some database ∧
        rows = driver.evaluate query database

/-- The answer depends on the table that the key names. -/
def OwnTable (driver : Driver Json Contents Rows Hash) (query : Query Json) : Prop :=
  ∀ first second : Database Contents, first query.table = second query.table →
      driver.evaluate query first = driver.evaluate query second

/-- Bindings that are one JSON value, as a UUID and its text, are one binding. -/
def ByRendering (driver : Driver Json Contents Rows Hash) (query : Query Json) : Prop :=
  ∀ other : Query Json, other.table = query.table → other.text = query.text →
        other.bindings.map driver.toJson = query.bindings.map driver.toJson →
          driver.evaluate other = driver.evaluate query

/--
Cached reads are about what their key names, start when the generation of their
table was advanced since it was last committed to, and see that table as it is
committed.
-/
def Careful (driver : Driver Json Contents Rows Hash) (state : State Json Contents Rows Hash) :
    Action Json Contents Hash → Prop
  | .startRead _ _ query =>
    OwnTable driver query ∧ ByRendering driver query ∧ query.table ∉ state.unbumped
  | .fetch reader snapshot _ =>
    ∀ read, state.readers reader = some read → ∀ database,
          state.view snapshot read.executor = some database →
            database read.query.table = state.current read.query.table
  | _ => True

/-- What a key can give: a stored answer, or one about to be stored. -/
def Source (state : State Json Contents Rows Hash) (key : Key String Nat Hash)
    (payload : Payload Json Rows) : Prop :=
  state.cache.entries key = some payload ∨ ∃ reader read rows,
      state.readers reader = some read ∧ read.phase = .storing rows ∧
          read.key = key ∧ payload = ⟨read.query, rows⟩

/-- The key is the one of the query, under a generation it has reached. -/
structure Keyed (driver : Driver Json Contents Rows Hash)
    (state : State Json Contents Rows Hash) (key : Key String Nat Hash) (query : Query Json) :
    Prop where
  table : key.table = query.table
  hash : key.hash = driver.hash query
  reached : key.generation ≤ state.cache.generation key.table
  ownTable : OwnTable driver query
  byRendering : ByRendering driver query

/-- What every careful run keeps. -/
structure Sound (driver : Driver Json Contents Rows Hash) (state : State Json Contents Rows Hash) :
    Prop where
  readers : ∀ reader read,
      state.readers reader = some read → Keyed driver state read.key read.query ∧
          read.startedAt ≤ state.past.length
  sources : ∀ key payload, Source state key payload → Keyed driver state key payload.query
  current : ∀ key payload,
      Source state key payload → key.generation = state.cache.generation key.table →
          key.table ∉ state.unbumped → payload.rows = driver.evaluate payload.query state.current
  since : ∀ key payload, Source state key payload → ∀ reader read,
          state.readers reader = some read → read.key = key →
              ReadSince driver state read.startedAt payload.query payload.rows
  answers :
    ∀ answer ∈ state.answers, ReadSince driver state answer.startedAt answer.query answer.rows

variable {startedAt : Nat} {state : State Json Contents Rows Hash}

theorem readSince_current (driver : Driver Json Contents Rows Hash)
    (notLater : startedAt ≤ state.past.length) (query : Query Json) :
    ReadSince driver state startedAt query (driver.evaluate query state.current) :=
  ⟨state.past.length, state.current, notLater, by simp [State.states], rfl⟩

variable {driver : Driver Json Contents Rows Hash}

theorem ReadSince.of_evaluate_eq {query other : Query Json}
    {rows : Rows} (sameAnswers : driver.evaluate query = driver.evaluate other)
    (since : ReadSince driver state startedAt query rows) :
    ReadSince driver state startedAt other rows := by
  obtain ⟨position, database, notLater, isState, isAnswer⟩ := since
  exact ⟨position, database, notLater, isState, sameAnswers ▸ isAnswer⟩

theorem ReadSince.publish {query : Query Json} {rows : Rows}
    (since : ReadSince driver state startedAt query rows) (writes : List (Write Contents)) :
    ReadSince driver (state.publish writes) startedAt query rows := by
  obtain ⟨position, database, notLater, isState, isAnswer⟩ := since
  refine ⟨position, database, notLater, ?_, isAnswer⟩
  have within : position < state.states.length := (List.getElem?_eq_some_iff.mp isState).1
  change (state.states ++ [_])[position]? = some database
  rw [List.getElem?_append_left within]
  exact isState

theorem applyWrites_of_notMem {writes : List (Write Contents)} {table : String}
    (untouched : table ∉ writes.map Write.table)
    (database : Database Contents) : applyWrites database writes table = database table := by
  unfold applyWrites
  induction writes generalizing database with
  | nil => rfl
  | cons write rest ih =>
    rw [List.map_cons, List.mem_cons, not_or] at untouched
    rw [List.foldl_cons, ih untouched.2, update_of_ne untouched.1]

/-! ## One step -/

namespace Sound

variable {driver : Driver Json Contents Rows Hash} {state after : State Json Contents Rows Hash}

theorem initial (driver : Driver Json Contents Rows Hash) (database : Database Contents) :
    Sound driver (State.initial database) where
  readers := by
    intro reader read isRead
    cases isRead
  sources := by
    rintro key payload (isStored | ⟨reader, read, rows, isRead, -⟩)
    · cases isStored
    · cases isRead
  current := by
    rintro key payload (isStored | ⟨reader, read, rows, isRead, -⟩)
    · cases isStored
    · cases isRead
  since := by
    intro key payload _ reader read isRead
    cases isRead
  answers := by
    intro answer isAnswer
    cases isAnswer

/-- Steps that commit nothing, advance nothing and read nothing new. -/
theorem narrow (sound : Sound driver state) (samePast : after.past = state.past)
    (sameCurrent : after.current = state.current)
    (sameGeneration : after.cache.generation = state.cache.generation)
    (sameUnbumped : after.unbumped = state.unbumped)
    (readersFrom : ∀ reader read, after.readers reader = some read →
      ∃ earlier, state.readers reader = some earlier ∧ read.query = earlier.query ∧
        read.key = earlier.key ∧ read.startedAt = earlier.startedAt)
    (sourcesFrom : ∀ key payload, Source after key payload → Source state key payload)
    (answersSound : ∀ answer ∈ after.answers,
      ReadSince driver state answer.startedAt answer.query answer.rows) :
    Sound driver after := by
  have sameStates : after.states = state.states := by
    unfold State.states
    rw [samePast, sameCurrent]
  have keyed {key : Key String Nat Hash} {query : Query Json}
      (keyed : Keyed driver state key query) : Keyed driver after key query :=
    { keyed with reached := by rw [sameGeneration]; exact keyed.reached }
  have readSince {startedAt : Nat} {query : Query Json} {rows : Rows}
      (since : ReadSince driver state startedAt query rows) :
      ReadSince driver after startedAt query rows := by
    unfold ReadSince
    rw [sameStates]
    exact since
  exact {
    readers := by
      intro reader read isRead
      obtain ⟨earlier, isEarlier, sameQuery, sameKey, sameStart⟩ := readersFrom reader read isRead
      rw [sameQuery, sameKey, sameStart, samePast]
      exact ⟨keyed (sound.readers reader earlier isEarlier).1,
        (sound.readers reader earlier isEarlier).2⟩
    sources := fun key payload isSource =>
      keyed (sound.sources key payload (sourcesFrom key payload isSource))
    current := by
      intro key payload isSource isCurrent isBumped
      rw [sameGeneration] at isCurrent
      rw [sameUnbumped] at isBumped
      rw [sameCurrent]
      exact sound.current key payload (sourcesFrom key payload isSource) isCurrent isBumped
    since := by
      intro key payload isSource reader read isRead isKey
      obtain ⟨earlier, isEarlier, -, sameKey, sameStart⟩ := readersFrom reader read isRead
      rw [sameStart]
      exact readSince (sound.since key payload
        (sourcesFrom key payload isSource) reader earlier isEarlier
        (sameKey.symm.trans isKey))
    answers := fun answer isAnswer => readSince (answersSound answer isAnswer)
  }

theorem publish (sound : Sound driver state) (writes : List (Write Contents)) :
    Sound driver (state.publish writes) where
  readers := by
    intro reader read isRead
    obtain ⟨keyed, notLater⟩ := sound.readers reader read isRead
    refine ⟨{ keyed with }, ?_⟩
    change read.startedAt ≤ (state.past ++ [state.current]).length
    rw [List.length_append]
    exact Nat.le_add_right_of_le notLater
  sources := fun key payload isSource =>
    { sound.sources key payload isSource with }
  current := by
    intro key payload isSource isCurrent isBumped
    have keyed := sound.sources key payload isSource
    change key.table ∉ writes.map Write.table ++ state.unbumped at isBumped
    rw [List.mem_append, not_or] at isBumped
    rw [sound.current key payload isSource isCurrent isBumped.2]
    apply keyed.ownTable
    rw [← keyed.table]
    exact (applyWrites_of_notMem isBumped.1 state.current).symm
  since := fun key payload isSource reader read isRead isKey =>
    (sound.since key payload isSource reader read isRead isKey).publish writes
  answers := fun answer isAnswer => (sound.answers answer isAnswer).publish writes

theorem bump (sound : Sound driver state) (table : String) :
    Sound driver { state with
      cache := state.cache.bump table
      unbumped := state.unbumped.filter fun other => decide (other ≠ table)
    } := by
  have keyed {key : Key String Nat Hash} {query : Query Json}
      (keyed : Keyed driver state key query) :
      Keyed driver {
        state with
        cache := state.cache.bump table
        unbumped := state.unbumped.filter fun other => decide (other ≠ table)
      } key query :=
    {
      keyed with
      reached := Nat.le_trans keyed.reached (state.cache.generation_le_bump table key.table)
    }
  exact {
    readers := fun reader read isRead =>
      ⟨keyed (sound.readers reader read isRead).1, (sound.readers reader read isRead).2⟩
    sources := fun key payload isSource => keyed (sound.sources key payload isSource)
    current := by
      intro key payload isSource isCurrent isBumped
      have reached := (sound.sources key payload isSource).reached
      by_cases same : key.table = table
      · rw [same, Cache.generation_bump_self] at isCurrent
        rw [same] at reached
        omega
      · rw [Cache.generation_bump_of_ne _ same] at isCurrent
        apply sound.current key payload isSource isCurrent
        intro isOld
        exact isBumped (List.mem_filter.mpr ⟨isOld, decide_eq_true same⟩)
    since := sound.since
    answers := sound.answers
  }

variable {changed : Option (Reader Json Rows Hash)} {read : Reader Json Rows Hash}

theorem readers_withReader {reader other : Nat}
    (isRead : (state.withReader reader changed).readers other = some read) :
    (other = reader ∧ changed = some read) ∨ state.readers other = some read := by
  unfold State.withReader at isRead
  dsimp only at isRead
  by_cases same : other = reader
  · subst same
    rw [update_self] at isRead
    exact .inl ⟨rfl, isRead⟩
  · rw [update_of_ne same] at isRead
    exact .inr isRead

variable {reader : Nat} {payload : Payload Json Rows}

theorem source_withReader {key : Key String Nat Hash}
    (isSource : Source (state.withReader reader changed) key payload) :
    (∃ read rows, changed = some read ∧ read.phase = .storing rows ∧ read.key = key ∧
      payload = ⟨read.query, rows⟩) ∨
      Source state key payload := by
  rcases isSource with isStored | ⟨other, read, rows, isRead, isRows⟩
  · exact .inr (.inl isStored)
  · rcases readers_withReader isRead with ⟨-, isChanged⟩ | isBefore
    · exact .inl ⟨read, rows, isChanged, isRows⟩
    · exact .inr (.inr ⟨other, read, rows, isBefore, isRows⟩)

/-- A read starts: what its key gives is current. -/
theorem startRead (sound : Sound driver state) (reader : Nat) (executor : Executor)
    {query : Query Json} (ownTable : OwnTable driver query) (byRendering : ByRendering driver query)
    (bumped : query.table ∉ state.unbumped) : Sound driver (state.withReader reader (some {
      query := query
      executor := executor
      key := state.cache.key query.table (driver.hash query)
      startedAt := state.past.length
      phase := .consulting
    })) where
  readers := by
    intro other read isRead
    rcases readers_withReader isRead with ⟨-, isNew⟩ | isBefore
    · cases isNew
      exact ⟨⟨rfl, rfl, Nat.le_refl _, ownTable, byRendering⟩, Nat.le_refl _⟩
    · obtain ⟨keyed, notLater⟩ := sound.readers other read isBefore
      exact ⟨{ keyed with }, notLater⟩
  sources := by
    intro key payload isSource
    rcases source_withReader isSource with ⟨read, rows, isNew, isStoring, -⟩ | isBefore
    · cases isNew
      cases isStoring
    · exact { sound.sources key payload isBefore with }
  current := by
    intro key payload isSource
    rcases source_withReader isSource with ⟨read, rows, isNew, isStoring, -⟩ | isBefore
    · cases isNew
      cases isStoring
    · exact sound.current key payload isBefore
  since := by
    intro key payload isSource other read isRead isKey
    rcases source_withReader isSource with ⟨read, rows, isNew, isStoring, -⟩ | isBefore
    · cases isNew
      cases isStoring
    · rcases readers_withReader isRead with ⟨-, isNew⟩ | wasRead
      · cases isNew
        subst isKey
        rw [sound.current _ payload isBefore rfl bumped]
        exact readSince_current driver (Nat.le_refl _) payload.query
      · exact sound.since key payload isBefore other read wasRead isKey
  answers := sound.answers

variable {rows : Rows}

theorem fetch (sound : Sound driver state) (isRead : state.readers reader = some read)
    (isCurrent : rows = driver.evaluate read.query state.current) :
    Sound driver (state.withReader reader (some {
      read with phase := .storing rows
    })) := by
  have readKeyed := (sound.readers reader read isRead).1
  exact {
    readers := by
      intro other found isFound
      rcases readers_withReader isFound with ⟨-, isNew⟩ | isBefore
      · cases isNew
        exact ⟨{ readKeyed with }, (sound.readers reader read isRead).2⟩
      · obtain ⟨keyed, notLater⟩ := sound.readers other found isBefore
        exact ⟨{ keyed with }, notLater⟩
    sources := by
      intro key payload isSource
      rcases source_withReader isSource with
        ⟨found, foundRows, isNew, isStoring, isKey, rfl⟩ | isBefore
      · cases isNew
        subst isKey
        exact { readKeyed with }
      · exact { sound.sources key payload isBefore with }
    current := by
      intro key payload isSource isCurrentKey isBumped
      rcases source_withReader isSource with
        ⟨found, foundRows, isNew, isStoring, isKey, rfl⟩ | isBefore
      · cases isNew
        cases isStoring
        exact isCurrent
      · exact sound.current key payload isBefore isCurrentKey isBumped
    since := by
      intro key payload isSource other found isFound isKey
      -- whoever waits for this key started before the present state
      have notLater : found.startedAt ≤ state.past.length := by
        rcases readers_withReader isFound with ⟨-, isNew⟩ | isBefore
        · cases isNew
          exact (sound.readers reader read isRead).2
        · exact (sound.readers other found isBefore).2
      rcases source_withReader isSource with
        ⟨fetched, fetchedRows, isNew, isStoring, -, rfl⟩ | isBefore
      · cases isNew
        cases isStoring
        rw [isCurrent]
        exact readSince_current driver notLater read.query
      · rcases readers_withReader isFound with ⟨-, isNew⟩ | wasRead
        · cases isNew
          exact sound.since key payload isBefore reader read isRead isKey
        · exact sound.since key payload isBefore other found wasRead isKey
    answers := sound.answers
  }

theorem withTransaction (sound : Sound driver state) (connection : Nat)
    (transaction : Option (Transaction Contents)) :
    Sound driver (state.withTransaction connection transaction) :=
  sound.narrow rfl rfl rfl rfl (fun _ read isRead => ⟨read, isRead, rfl, rfl, rfl⟩)
    (fun _ _ isSource => isSource) sound.answers

theorem withReader (sound : Sound driver state) (reader : Nat)
    (from? : ∀ read, changed = some read →
      read.phase = .fetching ∧
        ∃ earlier, state.readers reader = some earlier ∧ read.query = earlier.query ∧
          read.key = earlier.key ∧ read.startedAt = earlier.startedAt) :
    Sound driver (state.withReader reader changed) := by
  refine sound.narrow rfl rfl rfl rfl ?_ ?_ sound.answers
  · intro other read isRead
    rcases readers_withReader isRead with ⟨rfl, isNew⟩ | isBefore
    · exact (from? read isNew).2
    · exact ⟨read, isBefore, rfl, rfl, rfl⟩
  · intro key payload isSource
    rcases source_withReader isSource with ⟨read, rows, isNew, isStoring, -⟩ | isBefore
    · rw [(from? read isNew).1] at isStoring
      cases isStoring
    · exact isBefore

theorem answered (sound : Sound driver state)
    (since : ReadSince driver state read.startedAt read.query rows) :
    Sound driver (state.answered reader read rows) := by
  have ended : Sound driver (state.withReader reader none) :=
    sound.withReader reader fun read isRead => nomatch isRead
  refine ended.narrow rfl rfl rfl rfl (fun _ read isRead => ⟨read, isRead, rfl, rfl, rfl⟩)
    (fun _ _ isSource => isSource) ?_
  intro answer isAnswer
  rcases List.mem_cons.mp isAnswer with rfl | isBefore
  · exact since
  · exact sound.answers answer isBefore

theorem stored [DecidableEq Hash] (sound : Sound driver state)
    (isSource : Source state read.key ⟨read.query, rows⟩)
    (since : ReadSince driver state read.startedAt read.query rows) :
    Sound driver {
      state.answered reader read rows with
      cache := state.cache.put read.key ⟨read.query, rows⟩
    } := by
  have ended : Sound driver (state.answered reader read rows) := sound.answered since
  refine sound.narrow rfl rfl rfl rfl ?_ ?_ ended.answers
  · intro other found isFound
    rcases readers_withReader isFound with ⟨-, isNone⟩ | isBefore
    · cases isNone
    · exact ⟨found, isBefore, rfl, rfl, rfl⟩
  · rintro key payload (isStored | ⟨other, found, foundRows, isFound, isRows⟩)
    · rcases Cache.entries_put_some isStored with ⟨rfl, rfl⟩ | isBefore
      · exact isSource
      · exact .inl isBefore
    · rcases readers_withReader isFound with ⟨-, isNone⟩ | isBefore
      · cases isNone
      · exact .inr ⟨other, found, foundRows, isBefore, isRows⟩

theorem evaluate_eq_of_hit (injective : Injective driver.digest) (sound : Sound driver state)
    (isRead : state.readers reader = some read) (isSource : Source state read.key payload) :
    driver.evaluate payload.query = driver.evaluate read.query := by
  have asked := (sound.readers reader read isRead).1
  have stored := sound.sources read.key payload isSource
  have sameTable : payload.query.table = read.query.table := stored.table.symm.trans asked.table
  obtain ⟨sameText, sameBindings⟩ := Prod.mk.inj (injective (stored.hash.symm.trans asked.hash))
  exact asked.byRendering payload.query sameTable sameText sameBindings

/-- Every careful step keeps the invariant. -/
theorem kept [DecidableEq Hash] (injective : Injective driver.digest)
    {action : Action Json Contents Hash} (sound : Sound driver state)
    (careful : Careful driver state action)
    (taken : step? driver state action = some after) : Sound driver after := by
  cases action with
  | begin connection =>
    simp only [step?] at taken
    split at taken
    · cases taken
    · cases taken
      exact sound.withTransaction connection _
  | execute connection write =>
    simp only [step?] at taken
    split at taken
    · cases taken
      exact sound.withTransaction connection _
    · cases taken
      exact sound.publish [write]
  | commit connection =>
    simp only [step?] at taken
    split at taken
    · cases taken
      exact (sound.publish _).withTransaction connection none
    · cases taken
  | rollback connection =>
    simp only [step?] at taken
    split at taken
    · cases taken
      exact sound.withTransaction connection none
    · cases taken
  | bumpTableGeneration table =>
    cases taken
    exact sound.bump table
  | startRead reader executor query =>
    simp only [step?] at taken
    split at taken
    · cases taken
    · cases taken
      exact sound.startRead reader executor careful.1 careful.2.1 careful.2.2
  | consult reader storeAnswers =>
    simp only [step?] at taken
    split at taken
    · next read isRead =>
      split at taken
      · split at taken
        · next payload isHit =>
          cases taken
          split at isHit
          · have isSource : Source state read.key payload := .inl isHit
            apply sound.answered
            apply ReadSince.of_evaluate_eq (sound.evaluate_eq_of_hit injective isRead isSource)
            exact sound.since read.key payload isSource reader read isRead rfl
          · cases isHit
        · cases taken
          apply sound.withReader
          intro changed isChanged
          cases isChanged
          exact ⟨rfl, read, isRead, rfl, rfl, rfl⟩
      · cases taken
    · cases taken
  | fetch reader snapshot succeeds =>
    simp only [step?] at taken
    split at taken
    · next read isRead =>
      split at taken
      · split at taken
        · next database isView =>
          cases taken
          split at isView
          · apply sound.fetch isRead
            apply (sound.readers reader read isRead).1.ownTable
            exact careful read isRead database isView
          · cases isView
        · cases taken
          exact sound.withReader reader fun read isRead => nomatch isRead
      · cases taken
    · cases taken
  | store reader succeeds =>
    simp only [step?] at taken
    split at taken
    · next read isRead =>
      split at taken
      · next rows isStoring =>
        have isSource : Source state read.key ⟨read.query, rows⟩ :=
          .inr ⟨reader, read, rows, isRead, isStoring, rfl, rfl⟩
        have since := sound.since read.key _ isSource reader read isRead rfl
        cases taken
        split
        · exact sound.stored isSource since
        · exact sound.answered since
      · cases taken
    · cases taken
  | evict key =>
    cases taken
    refine sound.narrow rfl rfl rfl rfl
      (fun _ read isRead => ⟨read, isRead, rfl, rfl, rfl⟩) ?_ sound.answers
    rintro other payload (isStored | isPending)
    · exact .inl (Cache.entries_evict_some isStored)
    · exact .inr isPending

end Sound

/-! ## Runs -/

/-- `Careful`, evaluated, for answers that depend on what the key names. -/
def carefulHere [DecidableEq Contents] (state : State Json Contents Rows Hash) :
    Action Json Contents Hash → Bool
  | .startRead _ _ query => decide (query.table ∉ state.unbumped)
  | .fetch reader snapshot _ =>
    match state.readers reader with
    | some read =>
      match state.view snapshot read.executor with
      | some database => decide (database read.query.table = state.current read.query.table)
      | none => true
    | none => true
  | _ => true

theorem careful_of_carefulHere [DecidableEq Contents] (ownTables : ∀ query, OwnTable driver query)
    (byRenderings : ∀ query, ByRendering driver query) {action : Action Json Contents Hash}
    (isCareful : carefulHere state action = true) : Careful driver state action := by
  cases action with
  | startRead reader executor query =>
    exact ⟨ownTables query, byRenderings query, of_decide_eq_true isCareful⟩
  | fetch reader snapshot succeeds =>
    intro read isRead database isView
    simp only [carefulHere, isRead, isView] at isCareful
    exact of_decide_eq_true isCareful
  | _ => trivial

def numberDriver : Driver Unit Nat Nat (String × List Unit) where
  evaluate query database := database query.table
  toJson _ := ()
  digest := id

def countUsers : Query Unit where
  table := "users"
  text := "count:SELECT COUNT(*) FROM users"
  bindings := []

/-- One row more in `users`. -/
def insertUser : Write Nat where
  table := "users"
  change count := count + 1

def wholeRead (reader : Nat) (executor : Executor) (snapshot : Nat) :
    List (Action Unit Nat (String × List Unit)) :=
  [.startRead reader executor countUsers, .consult reader true, .fetch reader snapshot true,
    .store reader true
  ]

/-- Reads around a committed write whose table is advanced after it. -/
def advancedSchedule : List (Action Unit Nat (String × List Unit)) :=
  wholeRead 0 .pool 0 ++
    [.begin 7, .execute 7 insertUser, .commit 7, .bumpTableGeneration "users", .begin 8] ++
    wholeRead 1 (.transaction 8) 1

def rolledBackSchedule : List (Action Unit Nat (String × List Unit)) :=
  [.begin 7, .execute 7 insertUser] ++ wholeRead 0 (.transaction 7) 0 ++
    [.rollback 7, .startRead 1 .pool countUsers, .consult 1 true]

/-- A read, a committed transaction that writes, and a read after it. -/
def committedSchedule : List (Action Unit Nat (String × List Unit)) :=
  wholeRead 0 .pool 0 ++
    [.begin 7, .execute 7 insertUser, .commit 7, .startRead 1 .pool countUsers, .consult 1 true]

end Rustasea.Orm.CachedReads
