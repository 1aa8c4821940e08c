import Rustasea.Storage.LocalDisk

namespace Rustasea.Storage.FailedDeletes

/-!
# Deletes that fail

A delete removes the key from the primary disk, then from the fallback.  What
failed on the primary has changed nothing; what fails on the fallback leaves the
primary without the key, and a read that finds nothing there goes on to the
fallback.

A manager and a read-through disk differ in when they look the fallback up: the
manager after the primary's deletion, the read-through disk before it.
-/

variable {Bytes : Type}

/-! ## Disks -/

/-- What a disk holds under its keys. -/
structure Disk (Bytes : Type) where
  contents : String → Option Bytes

namespace Disk

def get (fault : Option StorageError) (key : String)
    (disk : Disk Bytes) : Except StorageError Bytes :=
  match fault with
  | some error => .error error
  | none =>
    match disk.contents key with
    | some bytes => .ok bytes
    | none => .error (.notFound key)

def put (fault : Option StorageError) (key : String) (bytes : Bytes)
    (disk : Disk Bytes) : Disk Bytes :=
  match fault with
  | some _ => disk
  | none =>
    { contents := Function.update disk.contents key (some bytes) }

def without (key : String) (disk : Disk Bytes) : Disk Bytes where
  contents := Function.update disk.contents key none

/-- Delete a key, unless the disk fails; an absent key is no failure. -/
def delete (fault : Option StorageError) (key : String)
    (disk : Disk Bytes) : Except StorageError Unit × Disk Bytes :=
  match fault with
  | some error => (.error error, disk)
  | none => (.ok (), disk.without key)

end Disk

abbrev Disks (Bytes : Type) := String → Option (Disk Bytes)

/-- Which disks are read through, and whether hits on the fallback are copied. -/
structure StorageConfig where
  primary : String
  fallback : String
  copyBack : Bool
  deriving DecidableEq

/-- How the operations of a call fail. -/
structure Faults where
  primaryGet : Option StorageError
  fallbackGet : Option StorageError
  copyBack : Option StorageError
  primaryDelete : Option StorageError
  fallbackDelete : Option StorageError

def Faults.none : Faults where
  primaryGet := .none
  fallbackGet := .none
  copyBack := .none
  primaryDelete := .none
  fallbackDelete := .none

namespace Disks

def disk (name : String) (disks : Disks Bytes) : Except StorageError (Disk Bytes) :=
  match disks name with
  | some disk => .ok disk
  | none => .error (.unknownDisk name)

def deleteFrom (name : String) (fault : Option StorageError) (key : String)
    (disks : Disks Bytes) : Except StorageError Unit × Disks Bytes :=
  match disks.disk name with
  | .error error => (.error error, disks)
  | .ok disk =>
    let (result, after) := disk.delete fault key
    (result, Function.update disks name (some after))

end Disks

/-! ## The manager and the read-through disk -/

/-- What reads and deletes through two disks. -/
inductive Facade where
  | storageManager
  | readThroughDisk
  deriving DecidableEq

/-- Read a key with read-through: primary, then fallback on a miss. -/
def get (config : StorageConfig) (faults : Faults) (key : String)
    (disks : Disks Bytes) : Except StorageError Bytes × Disks Bytes :=
  match disks.disk config.primary with
  | .error error => (.error error, disks)
  | .ok primary =>
    match primary.get faults.primaryGet key with
    | .ok bytes => (.ok bytes, disks)
    | .error (.notFound _) =>
      match disks.disk config.fallback with
      | .error error => (.error error, disks)
      | .ok fallback =>
        match fallback.get faults.fallbackGet key with
        | .error error => (.error error, disks)
        | .ok bytes =>
          if config.copyBack then
            (.ok bytes,
              Function.update disks config.primary (some (primary.put faults.copyBack key bytes)))
          else (.ok bytes, disks)
    | .error error => (.error error, disks)

/-- Delete a key from the primary, then from the fallback. -/
def deleteBoth (config : StorageConfig) (faults : Faults) (key : String)
    (disks : Disks Bytes) : Except StorageError Unit × Disks Bytes :=
  match disks.deleteFrom config.primary faults.primaryDelete key with
  | (.error error, after) => (.error error, after)
  | (.ok (), after) => after.deleteFrom config.fallback faults.fallbackDelete key

/-- Delete a key; the read-through disk looks both disks up first. -/
def Facade.delete (facade : Facade) (config : StorageConfig) (faults : Faults) (key : String)
    (disks : Disks Bytes) : Except StorageError Unit × Disks Bytes :=
  match facade with
  | .storageManager => deleteBoth config faults key disks
  | .readThroughDisk =>
    match disks.disk config.primary, disks.disk config.fallback with
    | .error error, _ => (.error error, disks)
    | .ok _, .error error => (.error error, disks)
    | .ok _, .ok _ => deleteBoth config faults key disks

def found (config : StorageConfig) (key : String)
    (disks : Disks Bytes) : Except StorageError Bytes :=
  (get config .none key disks).1

/-- The delete gets as far as the fallback's own deletion. -/
def reachesFallback (config : StorageConfig) (faults : Faults) (disks : Disks Bytes) : Bool :=
  (disks config.primary).isSome && (disks config.fallback).isSome && faults.primaryDelete.isNone

def withoutPrimary (config : StorageConfig) (key : String) (disks : Disks Bytes) : Disks Bytes :=
  Function.update disks config.primary ((disks config.primary).map (Disk.without key))

/-! ## What a failed delete leaves -/

section

variable {config : StorageConfig} {faults : Faults} {key : String} {disks : Disks Bytes}
  {error : StorageError} {name : String} {fault : Option StorageError}

theorem deleteFrom_of_error (failed : (disks.deleteFrom name fault key).1 = .error error) :
    (disks.deleteFrom name fault key).2 = disks ∧
    ((disks name).isSome && fault.isNone) = false := by
  unfold Disks.deleteFrom Disks.disk at failed ⊢
  cases registered : disks name with
  | none => exact ⟨rfl, rfl⟩
  | some disk =>
    cases fault with
    | none => simp [registered, Disk.delete] at failed
    | some fault => simp [Disk.delete, ← registered]

theorem deleteFrom_of_ok (deleted : (disks.deleteFrom name fault key).1 = .ok ()) :
    (disks.deleteFrom name fault key).2 =
      Function.update disks name ((disks name).map (Disk.without key)) ∧
      ((disks name).isSome && fault.isNone) = true := by
  unfold Disks.deleteFrom Disks.disk at deleted ⊢
  cases registered : disks name with
  | none => simp [registered] at deleted
  | some disk =>
    cases fault with
    | none => exact ⟨rfl, rfl⟩
    | some fault => simp [registered, Disk.delete] at deleted

theorem deleteBoth_of_error (failed : (deleteBoth config faults key disks).1 = .error error) :
    (deleteBoth config faults key disks).2 =
      if (disks config.primary).isSome && faults.primaryDelete.isNone then
        withoutPrimary config key disks
      else
        disks := by
  unfold deleteBoth at failed ⊢
  cases first : disks.deleteFrom config.primary faults.primaryDelete key with
  | mk result after =>
  cases result with
  | error firstError =>
    have stopped := deleteFrom_of_error (congrArg Prod.fst first)
    rw [first] at stopped
    rw [stopped.2]
    exact stopped.1
  | ok _ =>
    have deleted := deleteFrom_of_ok (congrArg Prod.fst first)
    rw [first] at deleted failed
    rw [deleted.2]
    exact (deleteFrom_of_error failed).1.trans deleted.1

theorem after_failed_delete {facade : Facade}
    (registered : facade = .storageManager → (disks config.fallback).isSome = true)
    (failed : (facade.delete config faults key disks).1 = .error error) :
    (facade.delete config faults key disks).2 =
      if reachesFallback config faults disks then withoutPrimary config key disks
      else
        disks := by
  unfold Facade.delete at failed ⊢
  unfold reachesFallback
  cases facade with
  | storageManager =>
    rw [registered rfl, Bool.and_true]
    exact deleteBoth_of_error failed
  | readThroughDisk =>
    simp only [Disks.disk] at failed ⊢
    cases isPrimary : disks config.primary with
    | none => rfl
    | some primary =>
      cases isFallback : disks config.fallback with
      | none => rfl
      | some fallback =>
        simp only [isPrimary, isFallback] at failed ⊢
        have after := deleteBoth_of_error failed
        rwa [isPrimary] at after

/--
Without the key on the primary a read finds the same exactly when the primary
missed it, or another disk is the fallback and holds the same bytes.
-/
theorem found_withoutPrimary {primary fallback : Disk Bytes}
    (isPrimary : disks config.primary = some primary)
    (isFallback : disks config.fallback = some fallback) :
    found config key (withoutPrimary config key disks) = found config key disks ↔
      primary.contents key = none ∨
        config.fallback ≠ config.primary ∧ fallback.contents key = primary.contents key := by
  have isErased : withoutPrimary config key disks config.primary = some (primary.without key) := by
    simp [withoutPrimary, isPrimary]
  cases held : primary.contents key with
  | none =>
    have same : primary.without key = primary := by
      rw [Disk.without, ← held, Function.update_eq_self]
    have unchanged : withoutPrimary config key disks = disks := by
      rw [withoutPrimary, isPrimary, Option.map_some, same, ← isPrimary, Function.update_eq_self]
    simp [unchanged]
  | some bytes =>
    have before : found config key disks = .ok bytes := by
      simp [found, get, Disks.disk, isPrimary, Disk.get, Faults.none, held]
    have after : found config key (withoutPrimary config key disks) =
          match withoutPrimary config key disks config.fallback with
          | some disk => disk.get none key
          | none => .error (.unknownDisk config.fallback) := by
      have missed : (primary.without key).get none key = .error (.notFound key) := by
        simp [Disk.get, Disk.without]
      simp only [found, get, Disks.disk, isErased, Faults.none, missed]
      cases withoutPrimary config key disks config.fallback with
      | none => rfl
      | some disk =>
        cases read : disk.get none key with
        | error error => simp [read]
        | ok bytes => cases config.copyBack <;> simp [read]
    rw [before, after]
    by_cases sameDisk : config.fallback = config.primary
    · simp [sameDisk, isErased, Disk.get, Disk.without]
    · have isOther : withoutPrimary config key disks config.fallback = some fallback := by
        rw [withoutPrimary, Function.update_of_ne sameDisk, isFallback]
      rw [isOther]
      cases heldToo : fallback.contents key <;> simp [Disk.get, heldToo, sameDisk]

/--
After a delete that fails, a read finds what it found before exactly when the
delete stopped in front of the fallback's own deletion, the primary missed the
key, or another disk is the fallback and holds the same bytes.
-/
theorem found_after_failed_delete {facade : Facade}
    (registered : facade = .storageManager → (disks config.fallback).isSome = true)
    (failed : (facade.delete config faults key disks).1 = .error error) :
    found config key (facade.delete config faults key disks).2 = found config key disks ↔
      reachesFallback config faults disks = false ∨
      (disks config.primary).bind (·.contents key) = none ∨
      config.fallback ≠ config.primary ∧
        (disks config.fallback).bind (·.contents key) =
          (disks config.primary).bind (·.contents key) := by
  rw [after_failed_delete registered failed]
  cases reaches : reachesFallback config faults disks with
  | false => simp
  | true =>
    simp only [reachesFallback, Bool.and_eq_true, Option.isSome_iff_exists] at reaches
    obtain ⟨⟨⟨primary, isPrimary⟩, fallback, isFallback⟩, _⟩ := reaches
    simpa [isPrimary, isFallback] using found_withoutPrimary isPrimary isFallback

end

/-! ## A fallback that fails -/

def twoDisks (primary fallback : Disk Nat) : Disks Nat
  | "s3" => some primary
  | "local" => some fallback
  | _ => none

def fallbackDown : Faults :=
  { Faults.none with fallbackDelete := some (.storeUnavailable "timed out") }

def pair : StorageConfig where
  primary := "s3"
  fallback := "local"
  copyBack := true

theorem found_after_failed_delete_same_bytes :
    (Facade.storageManager.delete pair fallbackDown "a"
      (twoDisks ⟨fun _ => some 1⟩ ⟨fun _ => some 1⟩)).1 =
      .error (.storeUnavailable "timed out") ∧ (found pair "a"
      (Facade.storageManager.delete pair fallbackDown "a"
      (twoDisks ⟨fun _ => some 1⟩ ⟨fun _ => some 1⟩)).2 =
      found pair "a" (twoDisks ⟨fun _ => some 1⟩ ⟨fun _ => some 1⟩) ↔
      reachesFallback pair fallbackDown (twoDisks ⟨fun _ => some 1⟩ ⟨fun _ => some 1⟩) = false ∨
      (some 1 : Option Nat) = none ∨ pair.fallback ≠ pair.primary ∧
      (some 1 : Option Nat) = some 1) := by
  have failed :
      (Facade.storageManager.delete pair fallbackDown "a"
          (twoDisks ⟨fun _ => some 1⟩ ⟨fun _ => some 1⟩)).1 =
        .error (.storeUnavailable "timed out") :=
    rfl
  exact ⟨failed, found_after_failed_delete (fun _ => rfl) failed⟩

/-- Bytes of the primary alone are gone when the fallback's deletion fails. -/
theorem failed_delete_loses_bytes :
    ¬ ∀ (facade : Facade) (config : StorageConfig) (faults : Faults)
      (key : String) (disks : Disks Nat) (error : StorageError),
      (facade.delete config faults key disks).1 = .error error →
      found config key (facade.delete config faults key disks).2 = found config key disks := by
  intro unchanged
  have same := unchanged .readThroughDisk pair fallbackDown "a"
      (twoDisks ⟨fun _ => some 1⟩ ⟨fun _ => none⟩)
      (.storeUnavailable "timed out") rfl
  have before : found pair "a" (twoDisks ⟨fun _ => some 1⟩ ⟨fun _ => none⟩) = .ok 1 := rfl
  have after : found pair "a"
        (Facade.readThroughDisk.delete pair fallbackDown "a"
          (twoDisks ⟨fun _ => some 1⟩ ⟨fun _ => none⟩)).2 =
      .error (.notFound "a") :=
    rfl
  rw [before, after] at same
  cases same

end Rustasea.Storage.FailedDeletes
