import Rustasea.Library.PrefixCodec
import Rustasea.Library.SqlTable
import Rustasea.Schedule.Cron

namespace Rustasea.Auth

open SqlTable

/-!
# Sessions in a database table

Each row holds a session's id, its data as text and its expiry.  A record is
written as an upsert; rows that have expired are filtered out when they are
loaded, and stay until they are collected.
-/

abbrev SessionId := String

abbrev SessionData (Json : Type) := List (String × Json)

namespace SessionData

variable {Json : Type}

def insert (data : SessionData Json) (key : String) (value : Json) : SessionData Json :=
  (key, value) :: List.filter (·.1 ≠ key) data

def get (data : SessionData Json) (key : String) : Option Json := List.lookup key data

end SessionData

/-- A session record, with its expiry in seconds. -/
structure SessionRecord (Json : Type) where
  id : SessionId
  data : SessionData Json
  expiryDate : Int
  deriving DecidableEq

structure SessionRow (Text : Type) where
  id : SessionId
  payload : Text
  lastActivity : Int
  deriving DecidableEq

def SessionRow.key {Text : Type} (row : SessionRow Text) : Option SessionId := some row.id

/-- Why a session could not be read. -/
inductive SessionStoreError where
  | backend (cause : String)
  | decode (cause : String)
  deriving DecidableEq

/-- Whether a table name is an identifier. -/
def isTableName (table : List Char) : Bool :=
  match table with
  | [] => false
  | first :: rest =>
    (first.isAlpha || first = '_') &&
      rest.all fun character => character.isAlphanum || character = '_'

/-- A store over one table, with the codec of the data map. -/
structure DatabaseSessionStore (Json Text : Type) where
  table : String
  codec : Codec (SessionData Json) Text

abbrev SessionTable (Text : Type) := SqlTable (@SessionRow.key Text)

namespace DatabaseSessionStore

variable {Json Text : Type} (store : DatabaseSessionStore Json Text)

/-- Check the table name before anything is asked of the database. -/
def checkedTable : Except SessionStoreError Unit :=
  let table := Schedule.trim store.table.toList
  if isTableName table then .ok ()
  else .error (.backend ("invalid sessions table name " ++ (String.ofList table).quote))

/-- Write a record: update its row, or insert one when there is none. -/
def write (record : SessionRecord Json) (rows : SessionTable Text) :
    Except SessionStoreError (SessionTable Text) := do
  store.checkedTable
  let payload := store.codec.encode record.data
  let updated := rows.update (fun row => row.id = record.id)
      (fun row =>
        { row with payload := payload, lastActivity := record.expiryDate })
      fun _ => rfl
  if rows.affected (fun row => row.id = record.id) = 0 then
    match updated.insert?
        { id := record.id, payload := payload, lastActivity := record.expiryDate } with
    | some inserted => pure inserted
    | none => .error (.backend "duplicate key")
  else pure updated

def load (id : SessionId) (now : Int) (rows : SessionTable Text) :
    Except SessionStoreError (Option (SessionRecord Json)) := do
  store.checkedTable
  match rows.rows.find? fun row => row.id = id with
  | none => pure none
  | some row =>
    match store.codec.decode row.payload with
    | .error cause => .error (.decode cause)
    | .ok data =>
      if row.lastActivity ≤ now then pure none
      else pure (some { id := id, data := data, expiryDate := row.lastActivity })

def delete (id : SessionId) (rows : SessionTable Text) :
    Except SessionStoreError (SessionTable Text) := do
  store.checkedTable
  pure (rows.delete fun row => row.id = id)

variable {store}

def Absent (rows : SessionTable Text) (id : SessionId) : Prop := ∀ row ∈ rows, row.id ≠ id

theorem ok_of_checkedTable {Value : Type} {body : Except SessionStoreError Value} {value : Value}
    (isOk : (store.checkedTable >>= fun _ => body) = .ok value) : body = .ok value := by
  cases checked : store.checkedTable with
  | error failure =>
    rw [checked] at isOk
    cases isOk
  | ok valid =>
    rw [checked] at isOk
    exact isOk

variable {rows after : SessionTable Text} {id : SessionId} {record : SessionRecord Json}

theorem absent_write (written : store.write record rows = .ok after) (isOther : record.id ≠ id)
    (absent : Absent rows id) : Absent after id := by
  have stillAbsent : Absent
        (rows.update (fun row => row.id = record.id)
          (fun row =>
            { row with
              payload := store.codec.encode record.data
              lastActivity := record.expiryDate })
          fun _ => rfl)
        id := by
    intro row isRow
    rcases mem_update.mp isRow with ⟨isOld, -⟩ | ⟨old, isOld, -, rfl⟩
    · exact absent row isOld
    · exact absent old isOld
  have written := ok_of_checkedTable written
  dsimp only at written
  split at written
  · split at written
    · next inserted isInserted =>
      cases written
      intro row isRow
      rcases (mem_of_insert? isInserted).mp isRow with isOld | rfl
      · exact stillAbsent row isOld
      · exact isOther
    · cases written
  · cases written
    exact stillAbsent

theorem absent_deleted (deleted : store.delete id rows = .ok after) : Absent after id := by
  cases ok_of_checkedTable deleted
  intro row isRow
  simpa using (mem_delete.mp isRow).2

theorem absent_delete {gone id : SessionId} (deleted : store.delete gone rows = .ok after)
    (absent : Absent rows id) : Absent after id := by
  cases ok_of_checkedTable deleted
  exact fun row isRow => absent row (mem_delete.mp isRow).1

theorem load_absent {rows : SessionTable Text} (absent : Absent rows id) (now : Int)
    (record : SessionRecord Json) : store.load id now rows ≠ .ok (some record) := by
  have notFound : rows.rows.find? (fun row => row.id = id) = none := by
    rw [List.find?_eq_none]
    intro row isRow
    simpa using absent row isRow
  intro isLoaded
  have isLoaded := ok_of_checkedTable isLoaded
  rw [notFound] at isLoaded
  cases isLoaded

def rowOf (store : DatabaseSessionStore Json Text)
    (record : SessionRecord Json) : SessionRow Text :=
  { id := record.id, payload := store.codec.encode record.data, lastActivity := record.expiryDate }

theorem checked_of_ok {Value : Type} {body : Except SessionStoreError Value} {value : Value}
    (isOk : (store.checkedTable >>= fun _ => body) = .ok value) : store.checkedTable = .ok () := by
  cases checked : store.checkedTable with
  | error failure =>
    rw [checked] at isOk
    cases isOk
  | ok valid => rfl

theorem mem_write (written : store.write record rows = .ok after) :
    store.rowOf record ∈ after ∧ ∀ row ∈ rows, row.id ≠ record.id → row ∈ after := by
  have written := ok_of_checkedTable written
  dsimp only at written
  split at written
  · split at written
    · next inserted isInserted =>
      cases written
      simp only [mem_of_insert? isInserted]
      refine ⟨.inr rfl, fun row isRow isOther => .inl ?_⟩
      exact mem_update.mpr (.inl ⟨isRow, by simpa using isOther⟩)
    · cases written
  · next isThere =>
    cases written
    obtain ⟨old, isOld, sameId⟩ := affected_pos.mp (Nat.pos_of_ne_zero isThere)
    have sameId : old.id = record.id := by simpa using sameId
    refine ⟨mem_update.mpr (.inr ⟨old, isOld, by simpa using sameId,
      by rw [rowOf, ← sameId]⟩), fun row isRow isOther => ?_⟩
    exact mem_update.mpr (.inl ⟨isRow, by simpa using isOther⟩)

theorem load_rowOf (checked : store.checkedTable = .ok ()) (isRow : store.rowOf record ∈ rows)
    (now : Int) :
    store.load record.id now rows =
      .ok (if record.expiryDate ≤ now then none else some record) := by
  have found : rows.rows.find? (fun row => row.id = record.id) = some (store.rowOf record) := by
    cases isFound : rows.rows.find? (fun row => row.id = record.id) with
    | none =>
      have notHere := List.find?_eq_none.mp isFound _ isRow
      simp [rowOf] at notHere
    | some row =>
      have sameId : row.id = record.id := by simpa using List.find?_some isFound
      refine congrArg some (eq_of_key (List.mem_of_find?_eq_some isFound) isRow rfl ?_)
      rw [SessionRow.key, rowOf, sameId]
  rw [load, checked]
  simp only [found, rowOf, store.codec.decode_encode]
  by_cases isOver : record.expiryDate ≤ now
  · simp only [isOver]
    rfl
  · simp only [isOver]
    rfl

theorem id_of_load {rows : SessionTable Text} {now : Int}
    (isLoaded : store.load id now rows = .ok (some record)) : record.id = id := by
  have isLoaded := ok_of_checkedTable isLoaded
  split at isLoaded
  · cases isLoaded
  · split at isLoaded
    · cases isLoaded
    · split at isLoaded
      · cases isLoaded
      · cases isLoaded
        rfl

end DatabaseSessionStore

end Rustasea.Auth
