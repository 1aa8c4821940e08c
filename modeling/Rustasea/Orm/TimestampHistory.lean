import Rustasea.Library.TransitionSystem
import Rustasea.Orm.WriteStatements

namespace Rustasea.Orm.TimestampHistory

open TransitionSystem List

/-!
# The timestamps of a row over its history

A model value is written by `create`, `save` and `update`, each of which takes
the time itself.  What the value says of its own timestamps goes into the
columns of an insert, and so into those of an upsert.
-/

variable {Json Time : Type}

/-- What a column holds. -/
inductive Cell (Json Time : Type) where
  | value (json : Json)
  | stamp (time : Time)
  deriving DecidableEq

/-- A model that tracks timestamps, and the reader of stamps in its serialized fields. -/
structure TimestampedModel (Json Time : Type) where
  keyColumns : List String
  readStamp : Json → Option Time
  created_not_key : "created_at" ∉ keyColumns
  updated_not_key : "updated_at" ∉ keyColumns

/-- A model value with its id assigned: its key, and the object it serializes to. -/
structure Instance (Json : Type) where
  key : List Json
  object : List (String × Json)

abbrev Row (Json Time : Type) := String → Option (Cell Json Time)

section

variable (model : TimestampedModel Json Time)

def providedTimestamp (data : Instance Json) (column : String) : Option Time :=
  (data.object.lookup column).bind model.readStamp

/-- The columns of the user: neither reserved nor of the key. -/
def userColumns (data : Instance Json) : List (String × Cell Json Time) :=
  (data.object.filter fun (column, _) =>
      !(reservedColumns.contains column || model.keyColumns.contains column)).map
    fun (column, json) => (column, .value json)

def insertColumns (now : Time) (data : Instance Json) : List (String × Cell Json Time) :=
  (model.keyColumns.zip data.key).map (fun (column, json) => (column, .value json)) ++
    userColumns model data ++
      ["created_at", "updated_at"].map fun column =>
        (column, .stamp ((providedTimestamp model data column).getD now))

def updateColumns (now : Time) (data : Instance Json) : List (String × Cell Json Time) :=
  userColumns model data ++ [("updated_at", .stamp now)]

def assign (columns : List (String × Cell Json Time)) (row : Row Json Time) : Row Json Time :=
  fun column => (columns.lookup column).or (row column)

/-- An upsert assigns no column of the key, nor `created_at`, where the row exists. -/
def assignConflict (now : Time) (data : Instance Json) (row : Row Json Time) : Row Json Time :=
  fun column =>
    if column = "created_at" ∨ column ∈ model.keyColumns then row column
    else assign (insertColumns model now data) row column

/-- A call, with the model value it is given. -/
inductive Call (Json : Type) where
  | create (data : Instance Json)
  | save (data : Instance Json)
  | update (data : Instance Json)

def Call.data : Call Json → Instance Json
  | .create data | .save data | .update data => data

/-- A call, and the time it takes. -/
structure Action (Json Time : Type) where
  now : Time
  call : Call Json

/-- The rows by their keys, and the time of the last call. -/
structure State (Json Time : Type) where
  table : List Json → Option (Row Json Time)
  clock : Time

/-- The row that a call leaves under its key; none where the call fails. -/
def written (now : Time) (found : Option (Row Json Time)) : Call Json → Option (Row Json Time)
  | .create data => match found with
    | none => some (assign (insertColumns model now data) fun _ => none)
    | some _ => none
  | .save data => match found with
    | none => some (assign (insertColumns model now data) fun _ => none)
    | some row => some (assignConflict model now data row)
  | .update data => found.map (assign (updateColumns model now data))

variable [DecidableEq Json] [LinearOrder Time]

/-- A call that succeeds; the clock does not run backwards. -/
def step? (state : State Json Time) (action : Action Json Time) : Option (State Json Time) :=
  if state.clock ≤ action.now then
    (written model action.now (state.table action.call.data.key) action.call).map fun row =>
      { table := fun key => if key = action.call.data.key then some row else state.table key
        clock := action.now }
  else none

/--
A step keeps the creation stamp of every row, stamps the row it writes with its
time, and moves no stamp backwards.
-/
def Stamped (before : State Json Time) (action : Action Json Time) (after : State Json Time) :
    Prop :=
  ∀ key row, before.table key = some row →
    ∃ next, after.table key = some next ∧ next "created_at" = row "created_at" ∧
      (key = action.call.data.key → next "updated_at" = some (.stamp action.now)) ∧
      ∃ older newer, row "updated_at" = some (.stamp older) ∧
        next "updated_at" = some (.stamp newer) ∧ older ≤ newer

/--
A saved value says nothing of `updated_at`, or the time of the call, where the
row exists; a value that is inserted is not stamped later than the call.
-/
def Current (state : State Json Time) (action : Action Json Time) : Prop :=
  match action.call with
  | .create data => ∀ time ∈ providedTimestamp model data "updated_at", time ≤ action.now
  | .save data => ∀ time ∈ providedTimestamp model data "updated_at",
      if (state.table data.key).isSome then time = action.now else time ≤ action.now
  | .update _ => True

/-- Every row carries a stamp, none of them after the clock. -/
def Dated (state : State Json Time) : Prop :=
  ∀ key row, state.table key = some row →
    ∃ time, row "updated_at" = some (.stamp time) ∧ time ≤ state.clock

end

/-! ## What the columns assign -/

variable (model : TimestampedModel Json Time) (now : Time) (data : Instance Json)

theorem lookup_userColumns {column : String} (reserved : column ∈ reservedColumns) :
    (userColumns model data).lookup column = none := by
  rw [lookup_eq_none_iff]
  rintro ⟨name, cell⟩ isColumn
  obtain ⟨⟨_, json⟩, kept, same⟩ := mem_map.mp isColumn
  obtain ⟨rfl, -⟩ := Prod.mk.inj same
  have writable := (mem_filter.mp kept).2
  rw [bne_iff_ne]
  rintro rfl
  simp [reserved] at writable

theorem lookup_insertColumns {column : String} (isStamp : column ∈ ["created_at", "updated_at"]) :
    (insertColumns model now data).lookup column =
      some (.stamp ((providedTimestamp model data column).getD now)) := by
  have notKey : column ∉ model.keyColumns := by
    rcases mem_pair.mp isStamp with rfl | rfl
    · exact model.created_not_key
    · exact model.updated_not_key
  have keyless : ((model.keyColumns.zip data.key).map fun (column, json) =>
      (column, (.value json : Cell Json Time))).lookup column = none := by
    rw [lookup_eq_none_iff]
    rintro ⟨name, cell⟩ isColumn
    obtain ⟨⟨_, json⟩, zipped, same⟩ := mem_map.mp isColumn
    obtain ⟨rfl, -⟩ := Prod.mk.inj same
    rw [bne_iff_ne]
    rintro rfl
    exact notKey (of_mem_zip zipped).1
  have userless : (userColumns model data).lookup column = none := by
    apply lookup_userColumns model data
    rcases mem_pair.mp isStamp with rfl | rfl <;> decide
  rw [insertColumns, lookup_append, lookup_append, keyless, userless]
  rcases mem_pair.mp isStamp with rfl | rfl <;> rfl

theorem assign_inserted (row : Row Json Time) :
    assign (insertColumns model now data) row "updated_at" =
      some (.stamp ((providedTimestamp model data "updated_at").getD now)) := by
  rw [assign, lookup_insertColumns model now data (by decide)]
  rfl

theorem assign_conflict (row : Row Json Time) :
    assignConflict model now data row "created_at" = row "created_at" ∧
      assignConflict model now data row "updated_at" =
        some (.stamp ((providedTimestamp model data "updated_at").getD now)) := by
  refine ⟨if_pos (.inl rfl), ?_⟩
  rw [assignConflict, if_neg (by simp [model.updated_not_key]), assign_inserted]

theorem assign_updated (row : Row Json Time) :
    assign (updateColumns model now data) row "created_at" = row "created_at" ∧
    assign (updateColumns model now data) row "updated_at" = some (.stamp now) := by
  have created := lookup_userColumns model data (show "created_at" ∈ _ by decide)
  have updated := lookup_userColumns model data (show "updated_at" ∈ _ by decide)
  simp [assign, updateColumns, lookup_append, created, updated, lookup_cons]

/-! ## Steps and runs -/

variable {model now} [LinearOrder Time] {state after : State Json Time} {action : Action Json Time}

theorem written_new {call : Call Json} {row : Row Json Time}
    (current : Current model state ⟨now, call⟩) (absent : state.table call.data.key = none)
    (wrote : written model now none call = some row) :
    ∃ time, row "updated_at" = some (.stamp time) ∧ time ≤ now := by
  have stamped {data : Instance Json}
      (early : ∀ time ∈ providedTimestamp model data "updated_at", time ≤ now) :
      ∃ time, assign (insertColumns model now data) (fun _ => none) "updated_at" =
        some (.stamp time) ∧ time ≤ now := by
    refine ⟨_, assign_inserted model now _ _, ?_⟩
    cases said : providedTimestamp model data "updated_at" with
    | none => exact le_refl now
    | some time => exact early time said
  cases call with
  | create data =>
      obtain rfl := Option.some.inj wrote
      exact stamped current
  | save data =>
      obtain rfl := Option.some.inj wrote
      refine stamped fun time said => ?_
      have late := current time said
      rwa [show state.table data.key = none from absent] at late
  | update data => cases wrote

theorem written_found {call : Call Json} {found row : Row Json Time}
    (current : Current model state ⟨now, call⟩) (present : state.table call.data.key = some found)
    (wrote : written model now (some found) call = some row) :
    row "created_at" = found "created_at" ∧ row "updated_at" = some (.stamp now) := by
  cases call with
  | create data => cases wrote
  | save data =>
      obtain rfl := Option.some.inj wrote
      obtain ⟨created, updated⟩ := assign_conflict model now data found
      refine ⟨created, updated.trans ?_⟩
      cases said : providedTimestamp model data "updated_at" with
      | none => rfl
      | some time =>
          have same := current time said
          rw [if_pos (by rw [show state.table data.key = some found from present]; rfl)] at same
          rw [same]
          rfl
  | update data =>
      obtain rfl := Option.some.inj wrote
      exact assign_updated model now data found

variable [DecidableEq Json]

theorem step?_cases (taken : step? model state action = some after) :
    state.clock ≤ action.now ∧ ∃ row,
      written model action.now (state.table action.call.data.key) action.call = some row ∧ after =
        { table := fun key => if key = action.call.data.key then some row else state.table key
          clock := action.now } := by
  rw [step?] at taken
  split at taken
  · next later =>
    obtain ⟨row, wrote, rfl⟩ := Option.map_eq_some_iff.mp taken
    exact ⟨later, row, wrote, rfl⟩
  · cases taken

theorem dated_step (dated : Dated state) (current : Current model state action)
    (taken : step? model state action = some after) : Dated after := by
  obtain ⟨later, row, wrote, rfl⟩ := step?_cases taken
  intro key other isOther
  by_cases same : key = action.call.data.key
  · obtain rfl : row = other := by simpa [same] using isOther
    cases found : state.table action.call.data.key with
    | none =>
        rw [found] at wrote
        exact written_new current found wrote
    | some before =>
        rw [found] at wrote
        exact ⟨action.now, (written_found current found wrote).2, le_refl _⟩
  · obtain ⟨time, stamp, early⟩ := dated key other (by simpa [same] using isOther)
    exact ⟨time, stamp, early.trans later⟩

theorem stamped_step (dated : Dated state) (current : Current model state action)
    (taken : step? model state action = some after) : Stamped state action after := by
  obtain ⟨later, row, wrote, rfl⟩ := step?_cases taken
  intro key before isBefore
  obtain ⟨older, stamp, early⟩ := dated key before isBefore
  by_cases same : key = action.call.data.key
  · subst same
    rw [isBefore] at wrote
    obtain ⟨created, updated⟩ := written_found current isBefore wrote
    exact ⟨row, if_pos rfl, created, fun _ => updated, older, action.now, stamp, updated,
      early.trans later⟩
  · exact ⟨before, by simpa [same] using isBefore, rfl, fun isKey => absurd isKey same, older,
      older,
      stamp, stamp, le_refl _⟩

/--
In a run of calls on a table that is empty at first, with every value as current
as the condition asks, each call keeps the creation stamps, stamps what it
writes with its time, and moves no stamp backwards.  Saving a value over a row
stamps it with the time only under that condition.
-/
theorem timestamps_of_current_runs (model : TimestampedModel Json Time) (start : Time) :
    (∀ state, ReachableAlong (step? model) (Current model) ⟨fun _ => none, start⟩ state →
      ∀ action after, Current model state action → step? model state action = some after →
        Stamped state action after) ∧
    ∀ (state : State Json Time) now data found after, state.table data.key = some found →
      step? model state ⟨now, .save data⟩ = some after →
      ((after.table data.key).bind (· "updated_at") = some (.stamp now) ↔
        Current model state ⟨now, .save data⟩) := by
  constructor
  · intro state reached action after current taken
    refine stamped_step (reached.invariant Dated (fun _ _ isRow => by cases isRow) ?_) current taken
    exact fun _ _ _ dated current taken => dated_step dated current taken
  · intro state now data found after present taken
    obtain ⟨-, row, wrote, rfl⟩ := step?_cases taken
    rw [show (Call.save data).data.key = data.key from rfl, present] at wrote
    obtain rfl := Option.some.inj wrote
    have updated := (assign_conflict model now data found).2
    have isRow : (state.table data.key).isSome := by rw [present]; rfl
    simp only [Call.data, if_true, Option.bind_some, updated, Current, isRow]
    cases providedTimestamp model data "updated_at" <;> simp

/-! ## A stale copy -/

def posts : TimestampedModel Nat Nat := ⟨["id"], some, by decide, by decide⟩

/-- A new post, and the copy that was loaded after its creation. -/
def draft : Instance Nat := ⟨[7], []⟩

def loaded : Instance Nat := ⟨[7], [("created_at", 1), ("updated_at", 1)]⟩

theorem stale_save_keeps_its_stamp :
    (run? (step? posts) ⟨fun _ => none, 0⟩ [⟨1, .create draft⟩, ⟨2, .save loaded⟩]).bind
      (fun state => (state.table [7]).bind (· "updated_at")) = some (.stamp 1) := by
  decide +kernel

end Rustasea.Orm.TimestampHistory
