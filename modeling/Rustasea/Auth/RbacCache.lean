import Mathlib.Data.Finset.Sort
import Mathlib.Data.Finset.Union
import Mathlib.Data.String.Basic
import Rustasea.Schedule.Cron
import Rustasea.Library.PrefixCodec
import Rustasea.Library.TransitionSystem

namespace Rustasea.Auth

open Function

/-!
# Roles and permissions

A registry owns the catalog of roles and permissions and the roles of each user.
Every call that changes a permission of anyone advances the registry's own
generation counter, which wraps around at 64 bits.
-/

/-- A named role and the permissions it grants. -/
structure Role where
  name : String
  permissions : Finset String
  deriving DecidableEq

/-- Typed failures of the registry. -/
inductive RbacError where
  | unknownRole (role : String)
  | unknownPermission (permission : String)
  | emptyName
  deriving DecidableEq

/-- The role catalog and the assignments; a user without roles has none. -/
structure RbacRegistry where
  roles : String → Option Role
  permissions : Finset String
  userRoles : String → Finset String
  cached : Bool
  generation : UInt64

namespace RbacRegistry

/-- An empty registry, with a cache store or without one. -/
def new (cached : Bool) : RbacRegistry :=
  { roles := fun _ => none
    permissions := ∅
    userRoles := fun _ => ∅
    cached := cached
    generation := 0 }

def bump (registry : RbacRegistry) : RbacRegistry :=
  { registry with generation := registry.generation + 1 }

def isBlank (name : String) : Bool := (Schedule.trim name.toList).isEmpty

def defineRole (registry : RbacRegistry) (role : Role) : Except RbacError RbacRegistry :=
  if isBlank role.name then .error .emptyName
  else
    .ok { registry with roles := update registry.roles role.name (some role) }.bump

def definePermission (registry : RbacRegistry) (name : String) : Except RbacError RbacRegistry :=
  if isBlank name then .error .emptyName
  else .ok { registry with permissions := insert name registry.permissions }.bump

def grantPermissionToRole (registry : RbacRegistry)
    (role permission : String) : Except RbacError RbacRegistry :=
  if permission ∉ registry.permissions then .error (.unknownPermission permission)
  else
    match registry.roles role with
    | none => .error (.unknownRole role)
    | some known =>
      .ok
        { registry with
          roles :=
            update registry.roles role (some
                { known with permissions := insert permission known.permissions }) }.bump

/-- Revoke a permission from a role, returning whether it had been granted. -/
def revokePermissionFromRole (registry : RbacRegistry)
    (role permission : String) : Except RbacError (Bool × RbacRegistry) :=
  match registry.roles role with
  | none => .error (.unknownRole role)
  | some known =>
    .ok (decide (permission ∈ known.permissions),
        { registry with
          roles :=
            update registry.roles role (some
                { known with permissions := known.permissions.erase permission }) }.bump)

def assignRole (registry : RbacRegistry) (userId role : String) : Except RbacError RbacRegistry :=
  if (registry.roles role).isNone then .error (.unknownRole role)
  else
    .ok
      { registry with
        userRoles :=
          update registry.userRoles userId (insert role (registry.userRoles userId)) }.bump

/-- Remove a role from a user, returning whether it had been assigned. -/
def removeRole (registry : RbacRegistry) (userId role : String) : Bool × RbacRegistry :=
  if role ∈ registry.userRoles userId then
    (true,
      { registry with
        userRoles :=
          update registry.userRoles userId ((registry.userRoles userId).erase role) }.bump)
  else (false, registry)

def syncRoles (registry : RbacRegistry) (userId : String)
    (roles : List String) : Except RbacError RbacRegistry :=
  match roles.find? fun role => (registry.roles role).isNone with
  | some role => .error (.unknownRole role)
  | none =>
    .ok
      { registry with userRoles := update registry.userRoles userId roles.toFinset }.bump

/-- The union of permissions granted by every role a user holds. -/
def permissionsFor (registry : RbacRegistry) (userId : String) : Finset String :=
  (registry.userRoles userId).biUnion fun role =>
    match registry.roles role with
    | some known => known.permissions
    | none => ∅

end RbacRegistry

/-- A call that changes a registry. -/
inductive RbacMutation where
  | defineRole (role : Role)
  | definePermission (name : String)
  | grant (role permission : String)
  | revoke (role permission : String)
  | assignRole (userId role : String)
  | removeRole (userId role : String)
  | syncRoles (userId : String) (roles : List String)

def RbacMutation.apply (registry : RbacRegistry) : RbacMutation → Except RbacError RbacRegistry
  | .defineRole role => registry.defineRole role
  | .definePermission name => registry.definePermission name
  | .grant role permission => registry.grantPermissionToRole role permission
  | .revoke role permission => (registry.revokePermissionFromRole role permission).map Prod.snd
  | .assignRole userId role => registry.assignRole userId role
  | .removeRole userId role => .ok (registry.removeRole userId role).2
  | .syncRoles userId roles => registry.syncRoles userId roles

/-- A call that changes anything advances the generation by one. -/
theorem RbacMutation.generation_apply {registry after : RbacRegistry} {mutation : RbacMutation}
    (applied : mutation.apply registry = .ok after) :
    after = registry ∨ after.generation = registry.generation + 1 := by
  cases mutation with
  | defineRole role =>
    simp only [apply, RbacRegistry.defineRole] at applied
    split at applied
    · cases applied
    · cases applied
      exact .inr rfl
  | definePermission name =>
    simp only [apply, RbacRegistry.definePermission] at applied
    split at applied
    · cases applied
    · cases applied
      exact .inr rfl
  | grant role permission =>
    simp only [apply, RbacRegistry.grantPermissionToRole] at applied
    split at applied
    · cases applied
    · split at applied
      · cases applied
      · cases applied
        exact .inr rfl
  | revoke role permission =>
    simp only [apply, RbacRegistry.revokePermissionFromRole] at applied
    split at applied
    · cases applied
    · cases applied
      exact .inr rfl
  | assignRole userId role =>
    simp only [apply, RbacRegistry.assignRole] at applied
    split at applied
    · cases applied
    · cases applied
      exact .inr rfl
  | removeRole userId role =>
    simp only [apply, RbacRegistry.removeRole] at applied
    split at applied
    · cases applied
      exact .inr rfl
    · cases applied
      exact .inl rfl
  | syncRoles userId roles =>
    simp only [apply, RbacRegistry.syncRoles] at applied
    split at applied
    · cases applied
    · cases applied
      exact .inr rfl

/-!
## Permission sets in a shared cache

Any number of registries, running at once or one after the other, share one
store.  Each writes the permissions of a user with its own generation under the
same key; an entry may also be gone at any time, and the store may fail.
-/

/-- The cache payload, with the generation it was written under. -/
structure CachedPermissions where
  generation : UInt64
  permissions : List String
  deriving DecidableEq

/-- A stored payload, and the registry that wrote it. -/
structure CacheEntry (Bytes : Type) where
  payload : Bytes
  writer : Nat
  deriving DecidableEq

/-- A cached lookup's result next to what the registry computes. -/
structure CachedLookup where
  returned : Finset String
  current : Finset String
  deriving DecidableEq

/-- The registries, the store they share and the lookups made so far. -/
structure RbacSystem (Bytes : Type) where
  registries : Nat → RbacRegistry
  entries : String → Option (CacheEntry Bytes)
  lookups : List CachedLookup

def permissionsKey (userId : String) : String := "rbac:perms:" ++ userId

theorem permissionsKey_injective : Injective permissionsKey :=
  fun _ _ same => (String.append_right_inj _).mp same

namespace RbacSystem

def initial {Bytes : Type} (cached : Nat → Bool) : RbacSystem Bytes :=
  { registries := fun registry => .new (cached registry), entries := fun _ => none, lookups := [] }

/-- What happens next: whether the store answers is part of a lookup. -/
inductive Action where
  | mutate (registry : Nat) (mutation : RbacMutation)
  | lookup (registry : Nat) (userId : String) (reads stores : Bool)
  | evict (key : String)

section Codec

variable {Bytes : Type} (codec : Codec CachedPermissions Bytes)

/-- The payload under a key, when the store answers and it can be read. -/
def stored? (system : RbacSystem Bytes) (key : String) : Option CachedPermissions :=
  (system.entries key).bind fun entry => (codec.decode entry.payload).toOption

local instance transNames : IsTrans String (· ≤ ·) := inferInstance

local instance antisymmNames : Std.Antisymm fun first second : String => first ≤ second :=
  inferInstance

/-- The result of a cached lookup, and the entry it writes. -/
def permissionsForCached (system : RbacSystem Bytes) (registry : Nat) (userId : String)
    (reads : Bool) : Finset String × Option (CacheEntry Bytes) :=
  let own := system.registries registry
  let current := own.permissionsFor userId
  if ¬ own.cached then (current, none)
  else
    let found :=
      if reads then system.stored? codec (permissionsKey userId)
      else none
    match found.filter fun cached => cached.generation = own.generation with
    | some cached => (cached.permissions.toFinset, none)
    | none =>
      (current, some
          { payload :=
              codec.encode { generation := own.generation, permissions := current.sort }
            writer := registry })

/-- One step of the system; a call that fails leaves its registry as it was. -/
def step? (system : RbacSystem Bytes) : Action → Option (RbacSystem Bytes)
  | .mutate registry mutation =>
    match mutation.apply (system.registries registry) with
    | .error _ => some system
    | .ok after =>
      some { system with registries := update system.registries registry after }
  | .lookup registry userId reads stores =>
    let (returned, written) := system.permissionsForCached codec registry userId reads
    some
      { system with
        entries :=
          match written.filter fun _ => stores with
          | some entry => update system.entries (permissionsKey userId) (some entry)
          | none => system.entries
        lookups :=
          system.lookups ++
            [{ returned := returned
               current := (system.registries registry).permissionsFor userId }] }
  | .evict key => some { system with entries := update system.entries key none }

/--
A step in the registry's own generation: the counter does not wrap, and an entry
read with the present generation is the registry's own.
-/
def InOwnGeneration (system : RbacSystem Bytes) : Action → Prop
  | .mutate registry _ => (system.registries registry).generation.toNat + 1 < 2 ^ 64
  | .lookup registry userId _ _ =>
    ∀ entry ∈ system.entries (permissionsKey userId),
      ∀ cached ∈ (codec.decode entry.payload).toOption,
        cached.generation = (system.registries registry).generation → entry.writer = registry
  | .evict _ => True

instance (system : RbacSystem Bytes) (action : Action) :
    Decidable (InOwnGeneration codec system action) := by
  cases action <;> unfold InOwnGeneration <;> infer_instance

/-! ## What a registry reads in its own generation -/

/--
Every entry holds its writer's permissions of the user, when the writer's
generation is still the one it was written under.
-/
def OwnEntries (system : RbacSystem Bytes) : Prop :=
  ∀ userId, ∀ entry ∈ system.entries (permissionsKey userId), ∃ cached,
      codec.decode entry.payload = .ok cached ∧ cached.generation.toNat ≤
          (system.registries entry.writer).generation.toNat ∧
        (cached.generation = (system.registries entry.writer).generation →
          cached.permissions.toFinset = (system.registries entry.writer).permissionsFor userId)

variable {codec} {system : RbacSystem Bytes} {registry : Nat} {userId : String}

theorem returned_eq_current (own : system.OwnEntries codec) {reads stores : Bool}
    (inOwn : system.InOwnGeneration codec (.lookup registry userId reads stores)) :
    (system.permissionsForCached codec registry userId reads).1 =
      (system.registries registry).permissionsFor userId := by
  unfold permissionsForCached
  dsimp only
  split
  · rfl
  · split
    · next cached isHit =>
      rw [Option.filter_eq_some_iff] at isHit
      obtain ⟨isFound, sameGeneration⟩ := isHit
      split at isFound
      · simp only [stored?, Option.bind_eq_some_iff] at isFound
        obtain ⟨entry, isEntry, isRead⟩ := isFound
        have sameGeneration := of_decide_eq_true sameGeneration
        have isOwn := inOwn entry isEntry cached isRead sameGeneration
        obtain ⟨written, decoded, -, current⟩ := own userId entry isEntry
        rw [decoded] at isRead
        cases isRead
        rw [isOwn] at current
        exact current sameGeneration
      · cases isFound
    · rfl

variable {reads : Bool} {entry : CacheEntry Bytes}

theorem written_eq
    (written : (system.permissionsForCached codec registry userId reads).2 = some entry) :
    entry.writer = registry ∧
      ∃ cached, codec.decode entry.payload = .ok cached ∧
        cached.generation = (system.registries registry).generation ∧
        cached.permissions.toFinset = (system.registries registry).permissionsFor userId := by
  unfold permissionsForCached at written
  dsimp only at written
  split at written
  · cases written
  · split at written
    · cases written
    · cases written
      exact ⟨rfl, _, codec.decode_encode _, rfl, Finset.sort_toFinset _ _⟩

theorem OwnEntries.mutate (own : system.OwnEntries codec) {mutation : RbacMutation}
    {after : RbacRegistry} (noWrap : (system.registries registry).generation.toNat + 1 < 2 ^ 64)
    (applied : mutation.apply (system.registries registry) = .ok after) :
    OwnEntries codec
      { system with
        registries := update system.registries registry after } := by
  rcases mutation.generation_apply applied with same | advanced
  · rw [same, update_eq_self]
    exact own
  · intro userId entry isEntry
    obtain ⟨cached, decoded, reached, current⟩ := own userId entry isEntry
    refine ⟨cached, decoded, ?_⟩
    by_cases isWriter : entry.writer = registry
    · subst isWriter
      dsimp only
      rw [update_self, advanced]
      have next : ((system.registries entry.writer).generation + 1).toNat =
          (system.registries entry.writer).generation.toNat + 1 := by
        rw [UInt64.toNat_add, UInt64.toNat_one, Nat.mod_eq_of_lt noWrap]
      constructor
      · rw [next]
        exact Nat.le_succ_of_le reached
      · intro same
        rw [same, next] at reached
        exact absurd reached (Nat.not_succ_le_self _)
    · dsimp only
      rw [update_of_ne isWriter]
      exact ⟨reached, current⟩

theorem OwnEntries.lookup (own : system.OwnEntries codec)
    (written : (system.permissionsForCached codec registry userId reads).2 = some entry)
    (lookups : List CachedLookup) :
    OwnEntries codec
      { system with
        entries := update system.entries (permissionsKey userId) (some entry)
        lookups := lookups } := by
  intro other stored isStored
  dsimp only at isStored ⊢
  by_cases isUser : other = userId
  · subst isUser
    rw [update_self] at isStored
    cases isStored
    obtain ⟨isWriter, cached, decoded, sameGeneration, current⟩ := written_eq written
    refine ⟨cached, decoded, ?_⟩
    rw [isWriter, sameGeneration]
    exact ⟨Nat.le_refl _, fun _ => current⟩
  · have differs : permissionsKey other ≠ permissionsKey userId :=
      fun same => isUser (permissionsKey_injective same)
    rw [update_of_ne differs] at isStored
    exact own other stored isStored

theorem OwnEntries.evict (own : system.OwnEntries codec) (key : String) :
    OwnEntries codec { system with entries := update system.entries key none } := by
  intro userId entry isEntry
  dsimp only at isEntry ⊢
  by_cases isKey : permissionsKey userId = key
  · rw [isKey, update_self] at isEntry
    cases isEntry
  · rw [update_of_ne isKey] at isEntry
    exact own userId entry isEntry

variable (codec) in
/-- Entries are their writers', and every lookup so far was current. -/
structure Current (system : RbacSystem Bytes) : Prop where
  own : system.OwnEntries codec
  answered : ∀ lookup ∈ system.lookups, lookup.returned = lookup.current

theorem Current.step {system after : RbacSystem Bytes} {action : Action}
    (current : system.Current codec) (inOwn : system.InOwnGeneration codec action)
    (taken : system.step? codec action = some after) : after.Current codec := by
  cases action with
  | mutate registry mutation =>
    simp only [step?] at taken
    split at taken
    · cases taken
      exact current
    · next applied =>
      cases taken
      exact { own := current.own.mutate inOwn applied, answered := current.answered }
  | lookup registry userId reads stores =>
    simp only [step?, Option.some.injEq] at taken
    subst taken
    constructor
    · split
      · next entry written => exact current.own.lookup (Option.eq_some_of_filter_eq_some written) _
      · exact current.own
    · intro lookup isLookup
      rw [List.mem_append, List.mem_singleton] at isLookup
      rcases isLookup with isEarlier | rfl
      · exact current.answered lookup isEarlier
      · exact returned_eq_current current.own inOwn
  | evict key =>
    cases taken
    exact { own := current.own.evict key, answered := current.answered }

/--
In every run in which no registry meets another's entry in its own generation,
cached lookups return what the registry computes at that moment.
-/
theorem cached_lookups_are_current {cached : Nat → Bool} {system : RbacSystem Bytes}
    (reached : TransitionSystem.ReachableAlong (step? codec) (InOwnGeneration codec)
      (initial cached) system) : ∀ lookup ∈ system.lookups, lookup.returned = lookup.current := by
  have current : system.Current codec := by
    refine
      reached.invariant (Current codec) ?_ (fun _ _ _ before inOwn taken => before.step inOwn taken)
    constructor
    · intro userId entry isEntry
      cases isEntry
    · intro lookup isLookup
      cases isLookup
  exact current.answered

end Codec

/-! ## Registries in turn -/

abbrev plainPayloads : Codec CachedPermissions (Option CachedPermissions) :=
  .plain CachedPermissions

def editorMayEdit (registry : Nat) : List Action :=
  [.mutate registry (.definePermission "posts.edit"),
    .mutate registry (.defineRole { name := "editor", permissions := ∅ }),
    .mutate registry (.grant "editor" "posts.edit"), .mutate registry (.assignRole "ada" "editor"),
    .lookup registry "ada" true true]

/-- An editor is looked up, loses the permission, and is looked up again. -/
def revokedEditor : Option (RbacSystem (Option CachedPermissions)) :=
  TransitionSystem.runAlong? (step? plainPayloads)
    (InOwnGeneration plainPayloads) (initial fun _ => true)
    (editorMayEdit 0 ++ [.lookup 0 "ada" true true, .mutate 0 (.revoke "editor" "posts.edit"),
        .lookup 0 "ada" true true])

theorem own_entry_serves_until_revoked :
    revokedEditor.isSome ∧
    ∀ system ∈ revokedEditor, ∀ lookup ∈ system.lookups, lookup.returned = lookup.current :=
  ⟨by decide +kernel, fun _ ran =>
    cached_lookups_are_current (TransitionSystem.reachableAlong_of_runAlong? .start ran)⟩

/-- A registry started later serves what an earlier one wrote. -/
theorem restarted_registry_serves_stale_permissions :
    ((TransitionSystem.run? (step? plainPayloads) (initial fun _ => true) (editorMayEdit 0 ++
            [.mutate 1 (.definePermission "posts.edit"), .mutate 1 (.definePermission "posts.view"),
              .mutate 1 (.defineRole { name := "editor", permissions := ∅ }),
              .mutate 1 (.assignRole "ada" "editor"),
              .lookup 1 "ada" true true])).map
        fun system => system.lookups) =
      some
        [{ returned := {"posts.edit"}, current := {"posts.edit"} },
          { returned := {"posts.edit"}, current := ∅ }] := by
  decide +kernel

end RbacSystem

end Rustasea.Auth
