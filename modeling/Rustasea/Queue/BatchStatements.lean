import Rustasea.Orm.PositionalRewrite

namespace Rustasea.Queue.Statements

open Rustasea.Orm List

/-!
# The statements of the batch repository

The texts and bind values of the repository, and every statement of the write
path and of the repository as one type.  On MySQL a statement runs as it reads
when its numbers ascend; the update of a model with one key and three updates of
the repository put `$1` behind other numbers.
-/

variable {Json : Type}

def batchColumns : String :=
  " (id, name, total_jobs, pending_jobs, failed_jobs, failed_job_ids, " ++
    "options, created_at, finished_at, cancelled_at) VALUES ("

def createBatch (table id name : String) (total : Int) (options createdAt : String) :
    Statement Json :=
  {
    pieces :=
      .text "INSERT INTO " :: .text table :: .text batchColumns ::
        joinSeparated ", " (countedPlaceholders 4) ++
        .text ", 0, " :: .placeholder 5 :: .text ", " :: .placeholder 6 ::
          .text ", " :: .placeholder 7 :: [.text ", NULL, NULL)"]
    bindings :=
      [.text id, .text name, .int total, .int total, .text "[]", .text options, .text createdAt]
  }

def findBatch (table id : String) : Statement Json :=
  {
    pieces := [.text "SELECT * FROM ", .text table, .text " WHERE id = ", .placeholder 1]
    bindings := [.text id]
  }

/-- Decrement `pending_jobs` by one, never below zero. -/
def decrementPending (table id : String) : Statement Json :=
  {
    pieces :=
      [.text "UPDATE ", .text table, .text " SET pending_jobs = pending_jobs - 1 WHERE id = ",
        .placeholder 1, .text " AND pending_jobs > 0"]
    bindings := [.text id]
  }

/-- Record a failed job, guarded by the text of the ids read before. -/
def recordFailure (table id text priorText : String) : Statement Json :=
  {
    pieces :=
      [.text "UPDATE ", .text table,
        .text (" SET pending_jobs = pending_jobs - 1, " ++
          "failed_jobs = failed_jobs + 1, failed_job_ids = "),
        .placeholder 2, .text " WHERE id = ", .placeholder 1,
        .text " AND pending_jobs > 0 AND failed_job_ids = ", .placeholder 3]
    bindings := [.text id, .text text, .text priorText]
  }

def stampOnce (column table id stamp : String) : Statement Json :=
  {
    pieces :=
      [.text "UPDATE ", .text table, .text (" SET " ++ column ++ " = "),
        .placeholder 2, .text " WHERE id = ", .placeholder 1,
        .text (" AND " ++ column ++ " IS NULL")]
    bindings := [.text id, .text stamp]
  }

def finish (table id stamp : String) : Statement Json :=
  stampOnce "finished_at" table id stamp

def cancel (table id stamp : String) : Statement Json :=
  stampOnce "cancelled_at" table id stamp

/-- The statements that a MySQL connection is given. -/
inductive Emission (Json : Type) where
  | insert (row : ModelRow Json)
  | upsert (row : ModelRow Json)
  | update (row : ModelRow Json)
  | compositeInsert (row : ModelRow Json)
  | compositeUpsert (row : ModelRow Json)
  | compositeUpdate (row : ModelRow Json)
  | delete (table : String) (key : KeyFilter Json)
  | softDelete (table : String) (key : KeyFilter Json) (now : Value Json)
  | restore (table : String) (key : KeyFilter Json)
  | childChunk (table : String) (ids : List (Value Json)) (mode : CascadeMode) (now : Value Json)
  | createBatch (table id name : String) (total : Int) (options createdAt : String)
  | findBatch (table id : String)
  | decrementPending (table id : String)
  | recordFailure (table id text priorText : String)
  | finish (table id stamp : String)
  | cancel (table id stamp : String)

namespace Emission

/-- The statement of an emission, as the dialect of MySQL has it. -/
def statement : Emission Json → Statement Json
  | .insert row => buildInsert row
  | .upsert row => buildUpsert row
  | .update row => buildUpdate row
  | .compositeInsert row => compositeBuildInsert row
  | .compositeUpsert row => compositeBuildUpsert row
  | .compositeUpdate row => compositeBuildUpdate row
  | .delete table key => buildDelete table key
  | .softDelete table key now => buildSoftDelete table key "mysql" now
  | .restore table key => buildRestore table key
  | .childChunk table ids mode now => Orm.childChunk table ids mode "mysql" now
  | .createBatch table id name total options createdAt =>
    Statements.createBatch table id name total options createdAt
  | .findBatch table id => Statements.findBatch table id
  | .decrementPending table id => Statements.decrementPending table id
  | .recordFailure table id text priorText => Statements.recordFailure table id text priorText
  | .finish table id stamp => Statements.finish table id stamp
  | .cancel table id stamp => Statements.cancel table id stamp

/-- The table and column names a statement is made with. -/
def names : Emission Json → List String
  | .insert row => row.table :: (insertColumnsAndBindings row).map Prod.fst
  | .upsert row => row.table :: (insertColumnsAndBindings row).map Prod.fst
  | .update row => row.table :: (row.assigned []).map Prod.fst
  | .compositeInsert row => row.table :: (compositeColumnsAndBindings row).map Prod.fst
  | .compositeUpsert row => row.table :: (compositeColumnsAndBindings row).map Prod.fst
  | .compositeUpdate row =>
    row.table :: (row.assigned row.key.columns).map Prod.fst ++ row.key.columns
  | .delete table key => table :: key.columns
  | .softDelete table key _ => table :: key.columns
  | .restore table key => table :: key.columns
  | .childChunk table _ _ _ => [table]
  | .createBatch table _ _ _ _ _ => [table]
  | .findBatch table _ => [table]
  | .decrementPending table _ => [table]
  | .recordFailure table _ _ _ => [table]
  | .finish table _ _ => [table]
  | .cancel table _ _ => [table]

/-- The values that the positions and the numbers exchange are the same. -/
def InOrder : Emission Json → Prop
  | .update row => ∀ value ∈ (row.assigned []).map Prod.snd, value = .uuid row.id
  | .recordFailure _ id text _ => id = text
  | .finish _ id stamp => id = stamp
  | .cancel _ id stamp => id = stamp
  | _ => True

end Emission

/-! ## Where the numbers ascend -/

theorem sameExecution_insert (table : String) (columns : List (String × Value Json)) :
    SameExecution ⟨insertPieces table (columns.map Prod.fst), columns.map Prod.snd⟩ ↔
      ∀ name ∈ table :: columns.map Prod.fst, Clean name := by
  apply Emits.sameExecution_of_ascending
  rw [length_map, ← length_map (f := Prod.fst)]
  exact Emits.ofInsert (Opens.text ')' [] rfl rfl _) (nil_subset _)
    (Emits.nil.literal (by decide) (by decide))

theorem sameExecution_upsert (table : String) (columns : List (String × Value Json))
    (keyColumns : List String) :
    SameExecution
      ⟨mysqlUpsertSqlExcluding table (columns.map Prod.fst) keyColumns, columns.map Prod.snd⟩ ↔
      ∀ name ∈ table :: columns.map Prod.fst, Clean name := by
  apply Emits.sameExecution_of_ascending
  rw [length_map, ← length_map (f := Prod.fst)]
  refine Emits.ofInsert
    (Opens.text ')' " ON DUPLICATE KEY UPDATE ".toList rfl rfl _) ?_
    ((Emits.ofUpdates _).literal (by decide) (by decide))
  intro name isName
  obtain ⟨column, isColumn, isName⟩ := mem_flatMap.mp isName
  have same : name = column := by simpa using isName
  rw [same]
  exact (mem_filter.mp isColumn).1

variable {statement : Statement Json}

theorem sameExecution_key (front : List Piece) {table : String} {key : KeyFilter Json}
    (isKey : statement.bindings = key.values) (isFront : statement.pieces = front ++ key.whereSql)
    (frontEmits : ∀ {pieces names indices},
      Emits pieces names indices → Emits (front ++ pieces) (table :: names) indices) :
    SameExecution statement ↔ ∀ name ∈ table :: key.columns, Clean name := by
  apply Emits.sameExecution_of_ascending
  rw [isKey, isFront]
  exact frontEmits (Emits.ofKey key 0)

theorem sameExecution_compositeUpdate (row : ModelRow Json) :
    SameExecution (compositeBuildUpdate row) ↔
      ∀ name ∈ row.table :: (row.assigned row.key.columns).map Prod.fst ++ row.key.columns,
        Clean name := by
  apply Emits.sameExecution_of_ascending
  unfold compositeBuildUpdate
  rw [length_append, length_map, ← range'_append_1, Nat.add_comm 1]
  have columns := Emits.ofEqualities ", " (by decide) (by decide)
    (Opens.text ',' [' '] rfl rfl) 1
    ((row.assigned row.key.columns).map Prod.fst)
  rw [length_map] at columns
  exact (((columns.literal (by decide) (by decide)).name
    (Opens.text ' ' "SET ".toList rfl rfl _)).literal (by decide) (by decide)).append
    ((Emits.ofKey row.key _).literal (by decide) (by decide))
    (Opens.text ' ' "WHERE ".toList rfl rfl _)

theorem sameExecution_childChunk (table : String) (ids : List (Value Json)) (mode : CascadeMode)
    (now : Value Json) :
    SameExecution (childChunk table ids mode "mysql" now) ↔ ∀ name ∈ [table], Clean name := by
  have list : Emits
      (joinSeparated ", " (countedPlaceholders ids.length) ++ [.text ")"])
      [] (List.range' 1 ids.length) := by
    have close : Emits [.text ")"] [] [] := Emits.nil.literal (by decide) (by decide)
    have emits := (Emits.ofCounted ids.length).append close (Opens.text ')' [] rfl rfl _)
    rw [append_nil, append_nil] at emits
    exact emits
  apply Emits.sameExecution_of_ascending
  cases mode with
  | softDelete =>
    have bound : (childChunk table ids .softDelete "mysql" now).bindings =
        ids := append_nil ids
    rw [bound]
    exact ((((list.literal (by decide) (by decide)).literal (by decide)
      (by decide)).literal (by decide) (by decide)).name
      (Opens.text ' ' "SET deleted_at = ".toList rfl rfl _)).literal
      (by decide) (by decide)
  | restore =>
    exact ((list.literal (by decide) (by decide)).name
      (Opens.text ' ' "SET deleted_at = NULL WHERE id IN (".toList rfl rfl
        _)).literal (by decide) (by decide)
  | forceDelete =>
    exact ((list.literal (by decide) (by decide)).name
      (Opens.text ' ' "WHERE id IN (".toList rfl rfl _)).literal
      (by decide) (by decide)

theorem sameExecution_createBatch (table id name : String) (total : Int)
    (options createdAt : String) :
    SameExecution (createBatch table id name total options createdAt : Statement Json) ↔
      ∀ name ∈ [table], Clean name := by
  apply Emits.sameExecution_of_ascending
  have columns : Emits
      (.text "INSERT INTO " :: .text table :: .text batchColumns ::
        joinSeparated ", " (countedPlaceholders 4))
      [table] (List.range' 1 4) :=
    (((Emits.ofCounted 4).literal (by decide +kernel) (by decide +kernel)).name
      (Opens.text ' ' batchColumns.toList.tail (by decide +kernel) rfl
        _)).literal (by decide) (by decide)
  have values : Emits
      (.text ", 0, " :: .placeholder 5 :: .text ", " :: .placeholder 6 ::
        .text ", " :: .placeholder 7 :: [.text ", NULL, NULL)"])
      [] [5, 6, 7] :=
    .literal (by decide) (by decide) (.placeholder (Opens.text ',' [' '] rfl rfl _)
        (.literal (by decide) (by decide) (.placeholder (Opens.text ',' [' '] rfl rfl _)
            (.literal (by decide) (by decide) (.placeholder (Opens.text ',' _ rfl rfl _)
                (.literal (by decide) (by decide) .nil))))))
  exact columns.append values (Opens.text ',' _ rfl rfl _)

theorem sameExecution_id {table id before after : String} {closing : List Piece}
    (isBound : statement.bindings = [.text id])
    (isText : statement.pieces =
      .text before :: .text table :: .text after :: .placeholder 1 :: closing)
    (beforePlain : '$' ∉ before.toList ∧ '?' ∉ before.toList)
    (afterPlain : '$' ∉ after.toList ∧ '?' ∉ after.toList)
    (afterOpens : ∀ pieces, Opens (.text after :: pieces)) (closingEmits : Emits closing [] [])
    (closingOpens : Opens closing) :
    SameExecution statement ↔ ∀ name ∈ [table], Clean name := by
  apply Emits.sameExecution_of_ascending
  rw [isBound, isText]
  exact .literal beforePlain.1 beforePlain.2 (.name (afterOpens _)
    (.literal afterPlain.1 afterPlain.2 (.placeholder closingOpens closingEmits)))

/-! ## Where `$1` comes late -/

theorem concat_eq_cons_iff {α : Type} (first : α) (rest : List α) :
    rest ++ [first] = first :: rest ↔ ∀ value ∈ rest, value = first := by
  induction rest with
  | nil => simp
  | cons second rest ih =>
    rw [cons_append, List.cons.injEq, forall_mem_cons, ← ih]
    exact and_congr_right fun same => by rw [same]

theorem sameExecution_update (row : ModelRow Json) :
    SameExecution (buildUpdate row) ↔
      (∀ name ∈ row.table :: (row.assigned []).map Prod.fst, Clean name) ∧
        ∀ value ∈ (row.assigned []).map Prod.snd, value = .uuid row.id := by
  have close : Emits [.text " WHERE id = ", .placeholder 1] [] [1] :=
    (Emits.nil.placeholder .nil).literal (by decide) (by decide)
  have columns := Emits.ofEqualities ", " (by decide) (by decide)
    (Opens.text ',' [' '] rfl rfl) 2 ((row.assigned []).map Prod.fst)
  rw [length_map, ← length_map (f := Prod.snd)] at columns
  have emits : Emits (buildUpdate row).pieces (row.table :: (row.assigned []).map Prod.fst ++ [])
      (List.range' 2 ((row.assigned []).map Prod.snd).length ++ [1]) :=
    (((columns.literal (by decide) (by decide)).name
      (Opens.text ' ' "SET ".toList rfl rfl _)).literal (by decide) (by decide)).append close
      (Opens.text ' ' "WHERE id = ".toList rfl rfl _)
  rw [append_nil] at emits
  have shifted : (List.range' 2 ((row.assigned []).map Prod.snd).length).map
        (numberedValue (buildUpdate row).bindings) =
      ((row.assigned []).map Prod.snd).map some := by
    have counted := map_numberedValue (buildUpdate row).bindings
    exact (List.cons.inj counted).2
  rw [Emits.sameExecution_iff emits (by simp [buildUpdate]), map_append, shifted]
  refine and_congr_right fun _ => (concat_eq_cons_iff _ _).trans ?_
  rw [forall_mem_map]
  exact forall₂_congr fun _ _ => Option.some_inj

theorem sameExecution_stampOnce {column : String} (plain : '$' ∉ column.toList)
    (noMark : '?' ∉ column.toList) (table id stamp : String) :
    SameExecution (stampOnce column table id stamp : Statement Json) ↔
      (∀ name ∈ [table], Clean name) ∧ id = stamp := by
  have emits : Emits (stampOnce column table id stamp : Statement Json).pieces [table] [2, 1] := by
    refine Emits.literal (by decide) (by decide)
      (Emits.name (Opens.text ' ' ("SET " ++ column ++ " = ").toList ?_ rfl _)
        (Emits.literal ?_ ?_ (Emits.placeholder
          (Opens.text ' ' "WHERE id = ".toList rfl rfl _)
          (Emits.literal (by decide) (by decide) (Emits.placeholder
            (Opens.text ' ' ("AND " ++ column ++ " IS NULL").toList ?_ rfl _)
            (Emits.literal ?_ ?_ .nil))))))
    all_goals simp [plain, noMark]
  rw [Emits.sameExecution_iff emits rfl]
  refine and_congr_right fun _ => ?_
  simp [stampOnce, numberedValue, eq_comm]

theorem sameExecution_recordFailure (table id text priorText : String) :
    SameExecution (recordFailure table id text priorText : Statement Json) ↔
      (∀ name ∈ [table], Clean name) ∧ id = text := by
  have emits :
      Emits (recordFailure table id text priorText : Statement Json).pieces [table] [2, 1, 3] := by
    refine Emits.literal (by decide) (by decide) (Emits.name (Opens.text ' ' _ rfl rfl _)
      (Emits.literal (by decide) (by decide) (Emits.placeholder (Opens.text ' ' _ rfl rfl _)
        (Emits.literal (by decide) (by decide) (Emits.placeholder (Opens.text ' ' _ rfl rfl _)
          (Emits.literal (by decide) (by decide) (Emits.placeholder .nil .nil)))))))
  rw [Emits.sameExecution_iff emits rfl]
  refine and_congr_right fun _ => ?_
  simp [recordFailure, numberedValue, eq_comm]

/-! ## Every statement -/

/--
The rewriting for MySQL gives every site the value it has with numbers exactly
when the names bring no placeholder and the values that change places agree.
-/
theorem Emission.sameOnMysql_iff (emission : Emission Json) :
    SameExecution emission.statement ↔
      (∀ name ∈ emission.names, Clean name) ∧ emission.InOrder := by
  cases emission with
  | insert row
  | compositeInsert row => exact (sameExecution_insert _ _).trans (and_iff_left trivial).symm
  | upsert row
  | compositeUpsert row => exact (sameExecution_upsert _ _ _).trans (and_iff_left trivial).symm
  | update row => exact sameExecution_update row
  | compositeUpdate row =>
    exact (sameExecution_compositeUpdate row).trans (and_iff_left trivial).symm
  | delete table key =>
    refine Iff.trans ?_ (and_iff_left trivial).symm
    exact sameExecution_key [_, _, _] rfl rfl fun emits =>
      ((emits.literal (by decide) (by decide)).name
        (Opens.text ' ' "WHERE ".toList rfl rfl _)).literal (by decide)
        (by decide)
  | softDelete table key now =>
    refine Iff.trans ?_ (and_iff_left trivial).symm
    exact sameExecution_key [_, _, _, _, _]
      (append_nil _) rfl fun emits =>
      ((((emits.literal (by decide) (by decide)).literal (by decide)
        (by decide)).literal (by decide) (by decide)).name
        (Opens.text ' ' "SET deleted_at = ".toList rfl rfl _)).literal
        (by decide) (by decide)
  | restore table key =>
    refine Iff.trans ?_ (and_iff_left trivial).symm
    exact sameExecution_key [_, _, _] rfl rfl fun emits =>
      ((emits.literal (by decide) (by decide)).name
        (Opens.text ' ' "SET deleted_at = NULL WHERE ".toList rfl rfl
          _)).literal (by decide) (by decide)
  | childChunk table ids mode now =>
    exact (sameExecution_childChunk table ids mode now).trans (and_iff_left trivial).symm
  | createBatch table id name total options createdAt =>
    exact (sameExecution_createBatch table id name total options
      createdAt).trans (and_iff_left trivial).symm
  | findBatch table id =>
    refine Iff.trans ?_ (and_iff_left trivial).symm
    exact sameExecution_id rfl rfl (by decide) (by decide) (Opens.text ' ' _ rfl rfl) .nil .nil
  | decrementPending table id =>
    refine Iff.trans ?_ (and_iff_left trivial).symm
    exact sameExecution_id rfl rfl (by decide) (by decide) (Opens.text ' ' _ rfl rfl)
      (.literal (by decide) (by decide) .nil) (Opens.text ' ' _ rfl rfl _)
  | recordFailure table id text priorText =>
    exact sameExecution_recordFailure table id text priorText
  | finish table id stamp
  | cancel table id stamp => exact sameExecution_stampOnce (by decide) (by decide) table id stamp

/-- A user row with one column to write and no timestamps. -/
def renamed : ModelRow String :=
  {
    table := "users"
    id := "f4c6"
    object := [("id", .uuid "f4c6"), ("name", .text "Ada")]
    key := ⟨["id"], [.uuid "f4c6"], by decide⟩
    insertTimestamps := []
    updatedColumn := none
    now := .null
  }

/--
On MySQL the update writes the id into the name and looks for the name among the
ids, and the stamp of a batch is looked for among the batch ids.
-/
theorem positions_exchanged :
    ¬ SameExecution (Emission.update renamed).statement ∧
      ¬ SameExecution
        (Emission.finish "job_batches" "b1" "2026-01-01T00:00:00.000000Z" : Emission
          String).statement := by
  constructor
  · intro same
    have written := ((sameExecution_update renamed).mp same).2
    exact absurd (written (.text "Ada") (by decide)) (by decide)
  · intro same
    have stamped := ((sameExecution_stampOnce (by decide) (by decide) _ _ _).mp same).2
    exact absurd stamped (by decide)

end Rustasea.Queue.Statements
