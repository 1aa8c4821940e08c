import Mathlib.Data.Finset.Sort
import Mathlib.Data.String.Basic
import Rustasea.Library.OrderedMap

namespace Rustasea.Modules

open OrderedMap Option

/-!
# The manifest of modules

Which modules are enabled stands in a `modules` table of a TOML file.  Reading
looks only at the two lists of names in that table; saving edits only them, in
the document that the file holds.
-/

/-! ## Documents -/

/-- A field of a table; only lists of names are looked into. -/
inductive Field (Opaque : Type) where
  | names (names : List String)
  | other (content : Opaque)

/-- How a table is written; a dotted one has no line of its own. -/
inductive TableStyle where
  | header
  | implicit
  | dotted
  deriving DecidableEq

inductive Item (Opaque : Type) where
  | table (style : TableStyle) (fields : OrderedMap String (Field Opaque))
  | inlineTable (fields : OrderedMap String (Field Opaque))
  | array (elements : List (Field Opaque))
  | other (content : Opaque)

abbrev Document (Opaque : Type) := OrderedMap String (Item Opaque)

variable {Opaque : Type}

namespace Item

/-- Nothing is printed for an empty table without a header. -/
def isHidden : Item Opaque → Bool
  | .table style fields => style ≠ .header ∧ fields.entries.isEmpty
  | _ => false

@[grind =] def isTable : Item Opaque → Bool
  | .table _ _ => true
  | _ => false

def Same : Item Opaque → Item Opaque → Prop
  | .table _ fields, .table _ found => fields.Same found
  | item, found => item = found

theorem same_refl (item : Item Opaque) : item.Same item := by
  cases item with
  | table style fields => exact OrderedMap.Same.refl fields
  | _ => rfl

end Item

/-- The texts of files, and the documents they are parsed to. -/
structure Toml where
  Opaque : Type
  Text : Type
  blank : Text
  isBlank : Text → Bool
  parse : Text → Except String (Document Opaque)
  print : Document Opaque → Text
  /-- The message on a document with fields of the wrong types. -/
  mismatch : Document Opaque → String

/-- What is printed is parsed to the same contents. -/
structure Toml.Documented (toml : Toml) : Prop where
  isBlank_blank : toml.isBlank toml.blank
  parse_of_isBlank : ∀ text, toml.isBlank text → toml.parse text = .ok .empty
  isHidden_of_parse : ∀ text document, toml.parse text = .ok document →
        ∀ key item, document.get key = some item → item.isHidden = false
  parse_print : ∀ document, ∃ again, toml.parse (toml.print document) = .ok again ∧ ∀ key,
            Option.Rel Item.Same
              ((document.get key).filter fun item => !item.isHidden) (again.get key)

def shown (document : Document String) : Document String :=
  document.filter fun item => !item.isHidden

def plainToml : Toml :=
  { Opaque := String
    Text := Document String
    blank := .empty
    isBlank := fun text => text.entries.isEmpty
    parse := fun text => .ok (shown text)
    print := id
    mismatch := fun _ => "invalid type" }

theorem get_shown (document : Document String) (key : String) :
    (shown document).get key = (document.get key).filter fun item => !item.isHidden :=
  document.get_filter _ key

theorem isHidden_of_get_shown {document : Document String} {key : String} {item : Item String}
    (isItem : (shown document).get key = some item) : item.isHidden = false := by
  rw [get_shown, filter_eq_some_iff] at isItem
  simpa using isItem.2

theorem same_shown (document : Document String) (key : String) :
    Option.Rel Item.Same
      ((document.get key).filter fun item => !item.isHidden) ((shown document).get key) := by
  rw [get_shown]
  cases (document.get key).filter fun item : Item String =>
      !item.isHidden with
  | none => exact .none
  | some item => exact .some (item.same_refl)

theorem plainToml_documented : plainToml.Documented :=
  { isBlank_blank := rfl
    parse_of_isBlank := by
      rintro ⟨entries, distinct⟩ isBlank
      obtain rfl : entries = [] := List.isEmpty_iff.mp isBlank
      rfl
    isHidden_of_parse := by
      intro text document isParsed key item isItem
      cases isParsed
      exact isHidden_of_get_shown isItem
    parse_print := fun document => ⟨_, rfl, same_shown document⟩ }

/-! ## Reading -/

def Field.strings : Field Opaque → Option (List String)
  | .names listed => some listed
  | .other _ => none

/-- The two lists of a table; the first may be missing. -/
structure ModulesTable where
  enabled : Option (List String)
  disabled : List String
  deriving DecidableEq

namespace ModulesTable

def unlisted : ModulesTable :=
  { enabled := none, disabled := [] }

def ofFields (enabled disabled : Option (Field Opaque)) :
    Option ModulesTable := do
  let enabled ←
    match enabled with
    | none => some none
    | some field => field.strings.map some
  let disabled ←
    match disabled with
    | none => some []
    | some field => field.strings
  some { enabled := enabled, disabled := disabled }

/-- A table is also read from a sequence of its fields. -/
def ofItem : Item Opaque → Option ModulesTable
  | .table _ fields => ofFields (fields.get "enabled") (fields.get "disabled")
  | .inlineTable fields => ofFields (fields.get "enabled") (fields.get "disabled")
  | .array elements => ofFields elements[0]? elements[1]?
  | .other _ => none

end ModulesTable

/-- What is at a path. -/
inductive Entry (Text : Type) where
  | file (text : Text)
  | unreadable

/-- The two places of a manifest. -/
structure Root (Path : Type) where
  dedicated : Path
  app : Path
  distinct : dedicated ≠ app

inductive ModuleError (Path : Type) where
  | manifest (path : Path) (message : String)
  | write (path : Path)
  | discovery (path : Path)
  deriving DecidableEq

variable {Path : Type}

/-- An allow-list that is not declared has no members. -/
structure ModuleManifest (Path : Type) where
  path : Path
  allowList : Bool
  enabled : Finset String
  disabled : Finset String
  enabled_eq_empty : allowList = false → enabled = ∅

abbrev Files (Path : Type) (toml : Toml) := Path → Option (Entry toml.Text)

def manifestDocument (document : Document Opaque) : Option (Option ModulesTable) :=
  match document.get "modules" with
  | none => some none
  | some item => (ModulesTable.ofItem item).map some

def readDocument (toml : Toml) (files : Files Path toml)
    (path : Path) : Except (ModuleError Path) (Option ModulesTable) :=
  match files path with
  | none => .ok none
  | some .unreadable => .error (.discovery path)
  | some (.file text) =>
    match toml.parse text with
    | .error message => .error (.manifest path message)
    | .ok document =>
      match manifestDocument document with
      | none => .error (.manifest path (toml.mismatch document))
      | some table => .ok table

namespace ModuleManifest

def fromTable (path : Path) (table : ModulesTable) : ModuleManifest Path :=
  { path := path
    allowList := table.enabled.isSome
    enabled := (table.enabled.getD []).toFinset
    disabled := table.disabled.toFinset
    enabled_eq_empty := by
      intro isNone
      rw [isSome_eq_false_iff, isNone_iff_eq_none] at isNone
      rw [isNone]
      rfl }

def load (toml : Toml) (files : Files Path toml)
    (path : Path) : Except (ModuleError Path) (ModuleManifest Path) := do
  let table ← readDocument toml files path
  pure (fromTable path (table.getD .unlisted))

/-- Read the manifest that governs; the dedicated one comes first. -/
@[grind =] def read (toml : Toml) (root : Root Path) (files : Files Path toml) :
    Except (ModuleError Path) (ModuleManifest Path) := do
  let unlisted := fromTable root.dedicated .unlisted
  if (files root.dedicated).isSome then load toml files root.dedicated
  else if (files root.app).isSome then
    match ← readDocument toml files root.app with
    | some table => pure (fromTable root.app table)
    | none => pure unlisted
  else pure unlisted

/-! ## Toggling -/

def isEnabled (manifest : ModuleManifest Path) (name : String) : Bool :=
  if name ∈ manifest.disabled then false
  else !manifest.allowList || name ∈ manifest.enabled

def enable (manifest : ModuleManifest Path) (name : String) : ModuleManifest Path :=
  { manifest with
    enabled :=
      if manifest.allowList then insert name manifest.enabled
      else manifest.enabled
    disabled := manifest.disabled.erase name
    enabled_eq_empty := by
      intro unlisted
      simpa [unlisted] using manifest.enabled_eq_empty unlisted }

def disable (manifest : ModuleManifest Path) (name : String) : ModuleManifest Path :=
  { manifest with
    enabled :=
      if manifest.allowList then manifest.enabled.erase name
      else manifest.enabled
    disabled := insert name manifest.disabled
    enabled_eq_empty := by
      intro unlisted
      simpa [unlisted] using manifest.enabled_eq_empty unlisted }

end ModuleManifest

inductive Toggle where
  | enable (name : String)
  | disable (name : String)

namespace Toggle

def name : Toggle → String
  | .enable name => name
  | .disable name => name

def wanted : Toggle → Bool
  | .enable _ => true
  | .disable _ => false

end Toggle

namespace ModuleManifest

def apply (manifest : ModuleManifest Path) : Toggle → ModuleManifest Path
  | .enable name => manifest.enable name
  | .disable name => manifest.disable name

def run (manifest : ModuleManifest Path) (toggles : List Toggle) : ModuleManifest Path :=
  toggles.foldl apply manifest

def Toggled (manifest : ModuleManifest Path) (toggle : Toggle) : Prop :=
  (manifest.apply toggle).isEnabled toggle.name = toggle.wanted ∧ ∀ other,
      other ≠ toggle.name → (manifest.apply toggle).isEnabled other = manifest.isEnabled other

variable (manifest : ModuleManifest Path)

theorem toggled (toggle : Toggle) : manifest.Toggled toggle := by
  cases toggle with
  | enable name =>
    constructor
    · cases listed : manifest.allowList <;>
        simp [apply, enable, isEnabled, listed, Toggle.name, Toggle.wanted]
    · intro other isOther
      change other ≠ name at isOther
      cases listed : manifest.allowList <;> simp [apply, enable, isEnabled, listed, isOther]
  | disable name =>
    constructor
    · simp [apply, disable, isEnabled, Toggle.name, Toggle.wanted]
    · intro other isOther
      change other ≠ name at isOther
      cases listed : manifest.allowList <;> simp [apply, disable, isEnabled, listed, isOther]

@[simp]
theorem path_apply (toggle : Toggle) : (manifest.apply toggle).path = manifest.path := by
  cases toggle <;> rfl

@[simp]
theorem path_run (toggles : List Toggle) : (manifest.run toggles).path = manifest.path := by
  induction toggles generalizing manifest with
  | nil => rfl
  | cons toggle rest ih => exact (ih (manifest.apply toggle)).trans (manifest.path_apply toggle)

def SameState (manifest other : ModuleManifest Path) : Prop :=
  manifest.allowList = other.allowList ∧
    manifest.enabled = other.enabled ∧ manifest.disabled = other.disabled

end ModuleManifest

/-! ## Saving -/

namespace ModuleManifest

def writeNames (fields : OrderedMap String (Field Opaque)) (key : String)
    (names : Finset String) : OrderedMap String (Field Opaque) :=
  fields.insert key (.names (names.sort (· ≤ ·)))

def editFields (manifest : ModuleManifest Path)
    (fields : OrderedMap String (Field Opaque)) : OrderedMap String (Field Opaque) :=
  let listed :=
    if manifest.allowList then
      -- An empty list is written too, or the others would be enabled again.
      writeNames fields "enabled" manifest.enabled
    else fields.erase "enabled"
  if manifest.disabled = ∅ then listed.erase "disabled"
  else writeNames listed "disabled" manifest.disabled

def editDocument (manifest : ModuleManifest Path) (document : Document Opaque) :
    Except (ModuleError Path) (Document Opaque) :=
  let root :=
    if (document.get "modules").isSome then document
    else document.insert "modules" (.table .header .empty)
  match root.get "modules" with
  | some (.table style fields) =>
    .ok (root.insert "modules" (.table style (manifest.editFields fields)))
  | _ => .error (.manifest manifest.path "`modules` must be a table")

def existingDocument (toml : Toml) (path : Path) (existing : toml.Text) :
    Except (ModuleError Path) (Document toml.Opaque) :=
  if toml.isBlank existing then .ok .empty
  else
    match toml.parse existing with
    | .ok document => .ok document
    | .error message => .error (.manifest path message)

variable [DecidableEq Path]

/-- Edit the file of a manifest; a missing one is made. -/
def save (toml : Toml) (manifest : ModuleManifest Path) (files : Files Path toml) :
    Except (ModuleError Path) (Files Path toml) := do
  let existing ←
    match files manifest.path with
    | some (.file text) => .ok text
    | none => .ok toml.blank
    | some .unreadable => .error (.write manifest.path)
  let document ← existingDocument toml manifest.path existing
  let edited ← manifest.editDocument document
  pure (Function.update files manifest.path (some (.file (toml.print edited))))

end ModuleManifest

/-! ## What saving does -/

@[grind =] def Toml.documentAt (toml : Toml) (files : Files Path toml)
    (path : Path) : Option (Document toml.Opaque) :=
  match files path with
  | none => some .empty
  | some .unreadable => none
  | some (.file text) => (toml.parse text).toOption

/-- The path that a manifest is read from, or would be written to. -/
def Root.governing (toml : Toml) (root : Root Path) (files : Files Path toml) : Path :=
  if (files root.dedicated).isSome then root.dedicated
  else
    match toml.documentAt files root.app with
    | some document =>
      if (document.get "modules").isSome then root.app
      else root.dedicated
    | none => root.dedicated

/-- A manifest's `modules` are written as a table, or not at all. -/
def Root.Editable (toml : Toml) (root : Root Path) (files : Files Path toml) : Prop :=
  ∀ document item, toml.documentAt files (root.governing toml files) = some document →
      document.get "modules" = some item → item.isTable

def modulesField (document : Document Opaque) (key : String) : Option (Field Opaque) :=
  match document.get "modules" with
  | some (.table _ fields) => fields.get key
  | _ => none

/-- All but the two lists is as it was. -/
structure Kept (toml : Toml) (path : Path) (before after : Files Path toml) : Prop where
  otherFiles : ∀ other, other ≠ path → after other = before other
  otherItems : ∃ document edited, toml.documentAt before path = some document ∧
        toml.documentAt after path = some edited ∧
        (∀ key, key ≠ "modules" → Option.Rel Item.Same (document.get key) (edited.get key)) ∧ ∀ key,
          key ≠ "enabled" → key ≠ "disabled" → modulesField edited key = modulesField document key

namespace ModuleManifest

variable {toml : Toml} {path : Path} {document : Document toml.Opaque}

theorem existingDocument_of_parse (documented : toml.Documented) {existing : toml.Text}
    (isParsed : toml.parse existing = .ok document) :
    existingDocument toml path existing = .ok document := by
  unfold existingDocument
  split
  · next isBlank =>
    rw [documented.parse_of_isBlank existing isBlank] at isParsed
    rw [Except.ok.inj isParsed]
  · rw [isParsed]

variable {manifest : ModuleManifest Path}

theorem editDocument_of_not_isTable {document : Document Opaque} {item : Item Opaque}
    (isItem : document.get "modules" = some item) (noTable : item.isTable = false) :
    manifest.editDocument document =
      .error (.manifest manifest.path "`modules` must be a table") := by
  unfold editDocument
  simp only [isItem, isSome_some, if_true]
  cases item with
  | table style fields => cases noTable
  | _ => rfl

theorem editDocument_of_isTable {document : Document Opaque}
    (isTable : ∀ item, document.get "modules" = some item → item.isTable) :
    ∃ style fields edited,
      manifest.editDocument document = .ok edited ∧
        (∀ key, fields.get key = modulesField document key) ∧ ∀ key, edited.get key =
            if key = "modules" then some (.table style (manifest.editFields fields))
            else document.get key := by
  unfold editDocument
  cases isItem : document.get "modules" with
  | none =>
    simp only [isSome_none, Bool.false_eq_true, if_false, get_insert]
    refine ⟨.header, .empty, _, rfl, fun key => ?_, fun key => ?_⟩
    · rw [modulesField, isItem]
      rfl
    · rw [get_insert, get_insert]
      split <;> rfl
  | some item =>
    cases item with
    | table style fields =>
      simp only [isSome_some, if_true, isItem]
      refine ⟨style, fields, _, rfl, fun key => ?_, fun key => ?_⟩
      · rw [modulesField, isItem]
      · rw [get_insert]
    | _ => cases isTable _ isItem

theorem get_editFields (manifest : ModuleManifest Path)
    (fields : OrderedMap String (Field Opaque)) (key : String) :
    (manifest.editFields fields).get key =
      if key = "disabled" then
        if manifest.disabled = ∅ then none
        else some (.names (manifest.disabled.sort (· ≤ ·)))
      else if key = "enabled" then
        if manifest.allowList then some (.names (manifest.enabled.sort (· ≤ ·)))
        else none
      else fields.get key := by
  unfold editFields writeNames
  by_cases noneDisabled : manifest.disabled = ∅ <;> cases listed : manifest.allowList <;>
      simp [noneDisabled, get_insert, get_erase]

def table (manifest : ModuleManifest Path) : ModulesTable :=
  { enabled :=
      if manifest.allowList then some (manifest.enabled.sort (· ≤ ·))
      else none
    disabled := manifest.disabled.sort (· ≤ ·) }

theorem ofFields_editFields (manifest : ModuleManifest Path)
    (fields : OrderedMap String (Field Opaque)) :
    ModulesTable.ofFields
      ((manifest.editFields fields).get "enabled") ((manifest.editFields fields).get "disabled") =
      some manifest.table := by
  rw [get_editFields, get_editFields]
  by_cases noneDisabled : manifest.disabled = ∅ <;> cases listed : manifest.allowList <;>
      simp [ModulesTable.ofFields, noneDisabled, Field.strings, table, listed]

theorem sameState_fromTable (manifest : ModuleManifest Path) (path : Path) :
    (fromTable path manifest.table).SameState manifest := by
  cases listed : manifest.allowList with
  | false => simp [SameState, fromTable, table, listed, manifest.enabled_eq_empty listed]
  | true => simp [SameState, fromTable, table, listed]

/-! ## Reading again -/

variable {files : Files Path toml}

theorem readDocument_eq_ok_iff {found : Option ModulesTable} :
    readDocument toml files path = .ok found ↔
      ∃ document, toml.documentAt files path = some document ∧
        manifestDocument document = some found := by
  unfold readDocument Toml.documentAt
  cases files path with
  | none => simp [manifestDocument]
  | some entry =>
    cases entry with
    | unreadable => simp
    | file text =>
      simp only
      cases toml.parse text with
      | error message => simp [Except.toOption]
      | ok document =>
        simp only [Except.toOption, Option.some.injEq, exists_eq_left']
        cases manifestDocument document <;> simp

/-- What governs: the dedicated file, or the application's without it. -/
def Governs {toml : Toml} (root : Root Path) (files : Files Path toml) (path : Path) : Prop :=
  path = root.dedicated ∨ path = root.app ∧ files root.dedicated = none

variable {found : Option ModulesTable}

theorem get_of_manifestDocument {document : Document Opaque}
    (isFound : manifestDocument document = some found) :
    (document.get "modules").isSome = found.isSome := by
  unfold manifestDocument at isFound
  cases isItem : document.get "modules" with
  | none =>
    rw [isItem] at isFound
    cases isFound
    rfl
  | some item =>
    rw [isItem] at isFound
    obtain ⟨table, -, rfl⟩ := map_eq_some_iff.mp isFound
    rfl

variable {root : Root Path}

theorem path_of_read (isRead : read toml root files = .ok manifest) :
    manifest.path = root.governing toml files ∧ Governs root files manifest.path ∧
    ∃ document, toml.documentAt files manifest.path = some document := by
  by_cases isDedicated : (files root.dedicated).isSome
  · simp only [read, isDedicated, load] at isRead
    cases isTable : readDocument toml files root.dedicated with
    | error error =>
      rw [isTable] at isRead
      cases isRead
    | ok found =>
      rw [isTable] at isRead
      cases isRead
      obtain ⟨document, isDocument, -⟩ := readDocument_eq_ok_iff.mp isTable
      exact ⟨(if_pos isDedicated).symm, .inl rfl, document, isDocument⟩
  · have missing : files root.dedicated = none := by simpa using isDedicated
    have isEmpty : toml.documentAt files root.dedicated = some .empty := by
      rw [Toml.documentAt, missing]
    by_cases isApp : (files root.app).isSome
    · simp only [read, isDedicated, isApp] at isRead
      cases isTable : readDocument toml files root.app with
      | error error =>
        rw [isTable] at isRead
        cases isRead
      | ok found =>
        rw [isTable] at isRead
        obtain ⟨document, isDocument, isFound⟩ := readDocument_eq_ok_iff.mp isTable
        have sameSome := get_of_manifestDocument isFound
        cases found with
        | none =>
          cases isRead
          refine ⟨?_, .inl rfl, .empty, isEmpty⟩
          simp [Root.governing, isDocument, sameSome, fromTable]
        | some table =>
          cases isRead
          refine ⟨?_, .inr ⟨rfl, missing⟩, document, isDocument⟩
          simp [Root.governing, isDedicated, isDocument, sameSome, fromTable]
    · simp only [read, isDedicated, isApp]
        at isRead
      cases isRead
      have noApp : files root.app = none := by simpa using isApp
      refine ⟨?_, .inl rfl, .empty, isEmpty⟩
      simp [Root.governing, Toml.documentAt, noApp, fromTable]

theorem read_of_documentAt (governs : Governs root files path) (isSome : (files path).isSome)
    (isDocument : toml.documentAt files path = some document)
    (isFound : manifestDocument document = some found) :
    ∃ place, read toml root files = .ok (fromTable place (found.getD .unlisted)) := by
  have isRead : readDocument toml files path = .ok found :=
    readDocument_eq_ok_iff.mpr ⟨document, isDocument, isFound⟩
  rcases governs with rfl | ⟨rfl, missing⟩
  · refine ⟨root.dedicated, ?_⟩
    simp only [read, isSome, load, isRead]
    rfl
  · simp only [read, missing, isSome, isRead]
    cases found with
    | none => exact ⟨root.dedicated, rfl⟩
    | some table => exact ⟨root.app, rfl⟩

theorem isHidden_of_documentAt (documented : toml.Documented)
    (isDocument : toml.documentAt files path = some document) {key : String}
    {item : Item toml.Opaque} (isItem : document.get key = some item) : item.isHidden = false := by
  unfold Toml.documentAt at isDocument
  split at isDocument
  · cases isDocument
    cases isItem
  · cases isDocument
  · next text _ =>
    refine documented.isHidden_of_parse text document ?_ key item isItem
    cases isResult : toml.parse text with
    | error message =>
      rw [isResult] at isDocument
      cases isDocument
    | ok found =>
      rw [isResult] at isDocument
      rw [Option.some.inj isDocument]

/-- An edited table is parsed again, unless it was left empty. -/
theorem manifestDocument_again {style : TableStyle} {fields : OrderedMap String (Field Opaque)}
    {again : Document Opaque}
    (isAgain : Option.Rel Item.Same
      ((some (.table style (manifest.editFields fields))).filter fun item : Item Opaque =>
        !item.isHidden) (again.get "modules")) :
    (∃ found, manifestDocument again = some found ∧ found.getD .unlisted = manifest.table) ∧
      ∀ key, modulesField again key = (manifest.editFields fields).get key := by
  have lists := manifest.ofFields_editFields fields
  by_cases isHidden : (Item.table style (manifest.editFields fields)).isHidden
  · rw [filter_some, if_neg (by simp [isHidden])] at isAgain
    have isNone : again.get "modules" = none := by
      cases isItem : again.get "modules" with
      | none => rfl
      | some item =>
        rw [isItem] at isAgain
        cases isAgain
    have noFields : ∀ key, (manifest.editFields fields).get key = none := by
      intro key
      have isEmpty : (manifest.editFields fields).entries = [] := by
        have hidden : ¬ style = .header ∧ (manifest.editFields fields).entries = [] := by
          simpa [Item.isHidden] using isHidden
        exact hidden.2
      rw [OrderedMap.get, isEmpty]
      rfl
    rw [noFields, noFields] at lists
    refine ⟨⟨none, ?_, Option.some.inj lists⟩, fun key => ?_⟩
    · rw [manifestDocument, isNone]
    · rw [modulesField, isNone, noFields]
  · rw [filter_some, if_pos (by simp [isHidden])] at isAgain
    cases isItem : again.get "modules" with
    | none =>
      rw [isItem] at isAgain
      cases isAgain
    | some item =>
      rw [isItem] at isAgain
      cases isAgain with
      | some same =>
        cases item with
        | table other found =>
          refine ⟨⟨some manifest.table, ?_, rfl⟩, fun key => ?_⟩
          · rw [manifestDocument, isItem]
            simp only [ModulesTable.ofItem]
            rw [← same, ← same, lists]
            rfl
          · rw [modulesField, isItem]
            exact (same key).symm
        | _ => cases same

end ModuleManifest

variable [DecidableEq Path]

def Survives (toml : Toml) (root : Root Path) (files : Files Path toml)
    (manifest : ModuleManifest Path) : Prop :=
  ∃ saved again, manifest.save toml files = .ok saved ∧
      ModuleManifest.read toml root saved = .ok again ∧ again.SameState manifest ∧
      Kept toml manifest.path files saved

namespace ModuleManifest

variable {manifest : ModuleManifest Path}

theorem save_of_documentAt {toml : Toml} (documented : toml.Documented)
    {files : Files Path toml} {document : Document toml.Opaque}
    (isDocument : toml.documentAt files manifest.path = some document) :
    manifest.save toml files =
      (manifest.editDocument document).map fun edited =>
        Function.update files manifest.path (some (.file (toml.print edited))) := by
  unfold Toml.documentAt at isDocument
  unfold save
  cases isEntry : files manifest.path with
  | none =>
    simp only [isEntry, Option.some.injEq] at isDocument
    have isParsed := documented.parse_of_isBlank _ documented.isBlank_blank
    rw [isDocument] at isParsed
    simp only [bind, Except.bind, existingDocument_of_parse documented isParsed]
    cases manifest.editDocument document <;> rfl
  | some entry =>
    cases entry with
    | unreadable => simp [isEntry] at isDocument
    | file text =>
      simp only [isEntry] at isDocument
      have isParsed : toml.parse text = .ok document := by
        cases isResult : toml.parse text with
        | error message =>
          rw [isResult] at isDocument
          cases isDocument
        | ok found =>
          rw [isResult] at isDocument
          rw [Option.some.inj isDocument]
      simp only [bind, Except.bind, existingDocument_of_parse documented isParsed]
      cases manifest.editDocument document <;> rfl

/-! ## The round trip -/

/-- A manifest survives when its modules are a table. -/
theorem survives_of_editable {toml : Toml} (documented : toml.Documented) {root : Root Path}
    {files : Files Path toml}
    (governs : Governs root files manifest.path) {document : Document toml.Opaque}
    (isDocument : toml.documentAt files manifest.path = some document)
    (isTable : ∀ item, document.get "modules" = some item → item.isTable) :
    Survives toml root files manifest := by
  obtain ⟨style, fields, edited, isEdited, oldFields, items⟩ :=
    manifest.editDocument_of_isTable isTable
  obtain ⟨again, isAgain, sameItems⟩ := documented.parse_print edited
  let saved := Function.update files manifest.path (some (.file (toml.print edited)))
  have isSaved : manifest.save toml files = .ok saved := by
    rw [save_of_documentAt documented isDocument, isEdited]
    rfl
  have savedDocument : toml.documentAt saved manifest.path = some again := by
    simp [Toml.documentAt, saved, isAgain, Except.toOption]
  have savedGoverns : Governs root saved manifest.path := by
    refine governs.imp_right fun isApp => ⟨isApp.1, ?_⟩
    have isOther : root.dedicated ≠ manifest.path := by
      rw [isApp.1]
      exact root.distinct
    exact (Function.update_of_ne isOther _ _).trans isApp.2
  have modules := sameItems "modules"
  rw [items] at modules
  obtain ⟨⟨found, isFound, isLists⟩, againFields⟩ := manifestDocument_again modules
  obtain ⟨place, isRead⟩ := read_of_documentAt savedGoverns (by simp [saved]) savedDocument isFound
  refine ⟨saved, _, isSaved, isRead, ?_, ?_, document, again, isDocument, savedDocument, ?_, ?_⟩
  · rw [isLists]
    exact manifest.sameState_fromTable place
  · exact fun other isOther => Function.update_of_ne isOther _ _
  · intro key isOther
    have sameItem := sameItems key
    rw [items, if_neg isOther] at sameItem
    cases isItem : document.get key with
    | none =>
      rw [isItem] at sameItem
      exact sameItem
    | some item =>
      have shown := isHidden_of_documentAt documented isDocument isItem
      rw [isItem, filter_some, if_pos (by simp [shown])] at sameItem
      exact sameItem
  · intro key notEnabled notDisabled
    rw [againFields, get_editFields, if_neg notDisabled, if_neg notEnabled, oldFields]

/--
Every toggle does what it says, and what was toggled is read again after it
was saved, exactly when the modules are written as a table.
-/
theorem toggles_survive_iff {toml : Toml} (documented : toml.Documented) {root : Root Path}
    {files : Files Path toml} {manifest : ModuleManifest Path}
    (isRead : read toml root files = .ok manifest) (toggles : List Toggle) :
    ((∀ before toggle after, toggles = before ++ toggle :: after →
        (manifest.run before).Toggled toggle) ∧
      Survives toml root files (manifest.run toggles)) ↔
      root.Editable toml files := by
  obtain ⟨isPath, governs, document, isDocument⟩ := path_of_read isRead
  rw [← manifest.path_run toggles] at isPath governs isDocument
  constructor
  · rintro ⟨-, saved, again, isSaved, -⟩ found item isFound isItem
    rw [← isPath, isDocument, Option.some.injEq] at isFound
    subst found
    cases isTable : item.isTable with
    | true => rfl
    | false =>
      rw [save_of_documentAt documented isDocument,
        editDocument_of_not_isTable isItem isTable] at isSaved
      cases isSaved
  · intro editable
    refine ⟨fun before toggle _ _ => (manifest.run before).toggled toggle, ?_⟩
    refine survives_of_editable documented governs isDocument ?_
    exact fun item => editable document item (isPath ▸ isDocument)

def application : Root String :=
  { dedicated := "config/modules.toml", app := "rustasea.toml", distinct := by decide }

/-- An application with a list of enabled modules in its own file. -/
def allowBlog (modules : Item String) : Files String plainToml :=
  fun path =>
    if path = "rustasea.toml" then some (.file (OrderedMap.empty.insert "modules" modules))
    else none

def blogFields : OrderedMap String (Field String) :=
  OrderedMap.empty.insert "enabled" (.names ["blog"])

theorem shop_survives :
    ∃ manifest, read plainToml application (allowBlog (.table .header blogFields)) = .ok manifest ∧
      Survives plainToml application (allowBlog (.table .header blogFields))
        (manifest.run [.enable "shop", .disable "admin"]) := by
  refine ⟨_, rfl, ?_⟩
  refine
    ((toggles_survive_iff plainToml_documented rfl [.enable "shop", .disable "admin"]).mpr ?_).2
  intro document item isDocument isItem
  cases isDocument
  cases isItem
  rfl

/-- In an inline table the same cannot be saved. -/
theorem inline_table_is_not_saved :
    ∃ manifest, read plainToml application (allowBlog (.inlineTable blogFields)) = .ok manifest ∧
      (manifest.run [.enable "shop"]).save plainToml (allowBlog (.inlineTable blogFields)) =
        .error (.manifest "rustasea.toml" "`modules` must be a table") ∧
      ¬ Survives plainToml application (allowBlog (.inlineTable blogFields))
        (manifest.run [.enable "shop"]) := by
  have notSaved :
      ((fromTable "rustasea.toml"
          { enabled := some ["blog"], disabled := [] }).run [.enable "shop"]).save plainToml
          (allowBlog (.inlineTable blogFields)) =
        .error (.manifest "rustasea.toml" "`modules` must be a table") := by
    rfl
  refine ⟨_, rfl, notSaved, ?_⟩
  rintro ⟨saved, again, isSaved, -⟩
  cases notSaved.symm.trans isSaved

end ModuleManifest

end Rustasea.Modules
