import Mathlib.Data.List.Induction
import Mathlib.Logic.Function.Basic

namespace Rustasea.Auth

/-!
# Named guards

A manager, its clones and the registrars that `extend` returns share one map of guards under one
lock.  `extend` and the registrars refuse a name that is taken, `register` inserts whatever is
there, and a factory that panics does so while the lock is held.
-/

variable {Guard : Type}

/-- The variants of `AuthError` that the registry returns. -/
inductive RegistryError where
  | token (cause : String)
  | guardMismatch (expected actual : String)
  deriving DecidableEq

def registryPoisoned : RegistryError := .token "guard registry lock poisoned"

/-- The map that all handles share, and whether its lock is poisoned. -/
@[ext] structure GuardMap (Guard : Type) where
  guards : String → Option Guard
  poisoned : Bool

def GuardMap.new : GuardMap Guard := { guards := fun _ => none, poisoned := false }

/-- A handle on the shared map: the default guard name is its own. -/
structure AuthManager where
  default : String
  deriving DecidableEq

structure GuardRegistrar where
  manager : AuthManager
  defaultGuard : String
  deriving DecidableEq

abbrev Factory (Guard : Type) := Option Guard

/-- Insert what the factory makes unless the name is taken; none for a panic. -/
@[grind =]
def insertNew (manager : AuthManager) (name : String) (factory : Factory Guard)
    (map : GuardMap Guard) : Option (Except RegistryError Unit) × GuardMap Guard :=
  if map.poisoned then (some (.error registryPoisoned), map)
  else if (map.guards name).isSome then
    (some (.error (.guardMismatch manager.default name)), map)
  else
    match factory with
    | none => (none, { map with poisoned := true })
    | some guard =>
      (some (.ok ()), { map with guards := Function.update map.guards name (some guard) })

namespace AuthManager

/-- `register`: the guard goes in under its own name. -/
def register (name : String) (guard : Guard) (map : GuardMap Guard) :
    Except RegistryError Unit × GuardMap Guard :=
  if map.poisoned then (.error registryPoisoned, map)
  else (.ok (), { map with guards := Function.update map.guards name (some guard) })

def extend (manager : AuthManager) (name : String) (factory : Factory Guard)
    (map : GuardMap Guard) : Option (Except RegistryError GuardRegistrar) × GuardMap Guard :=
  let inserted := insertNew manager name factory map
  (inserted.1.map fun result => result.map fun _ => { manager, defaultGuard := name }, inserted.2)

@[grind =]
def guard (manager : AuthManager) (name : String) (map : GuardMap Guard) :
    Except RegistryError Guard :=
  if map.poisoned then .error registryPoisoned
  else
    match map.guards name with
    | some guard => .ok guard
    | none => .error (.guardMismatch manager.default name)

def defaultGuard (manager : AuthManager) (map : GuardMap Guard) : Except RegistryError Guard :=
  manager.guard manager.default map

end AuthManager

/-- `register` of a registrar, under the name it was made for. -/
def GuardRegistrar.register (registrar : GuardRegistrar) (factory : Factory Guard)
    (map : GuardMap Guard) : Option (Except RegistryError Unit) × GuardMap Guard :=
  insertNew registrar.manager registrar.defaultGuard factory map

/-! ## Histories -/

/-- A registration by one of the three routes, on any handle. -/
inductive Registration (Guard : Type) where
  | register (name : String) (guard : Guard)
  | extend (manager : AuthManager) (name : String) (factory : Factory Guard)
  | registrar (registrar : GuardRegistrar) (factory : Factory Guard)

namespace Registration

def apply (map : GuardMap Guard) : Registration Guard → GuardMap Guard
  | .register name guard => (AuthManager.register name guard map).2
  | .extend manager name factory => (manager.extend name factory map).2
  | .registrar handle factory => (handle.register factory map).2

/-- The map after some registrations with a new manager. -/
def run (registrations : List (Registration Guard)) : GuardMap Guard :=
  registrations.foldl apply .new

/-- A factory that is let through does not panic over a guard. -/
def SparesGuards (name : String) (factory : Factory Guard) (map : GuardMap Guard) : Prop :=
  map.poisoned = false → map.guards name = none → factory = none → ∀ other, map.guards other = none

/-- The registration neither swaps a guard nor has a factory panic over one. -/
def Spares (map : GuardMap Guard) : Registration Guard → Prop
  | .register name guard =>
    map.poisoned = false → ∀ other, map.guards name = some other → other = guard
  | .extend _ name factory => SparesGuards name factory map
  | .registrar handle factory => SparesGuards handle.defaultGuard factory map

end Registration

/-- What a name has resolved to on some handle, it resolves to on every handle from then on. -/
def Settled (registrations : List (Registration Guard)) : Prop :=
  ∀ earlier later, earlier ++ later <+: registrations →
    ∀ (first second : AuthManager) (name : String) (guard : Guard),
      first.guard name (Registration.run earlier) = .ok guard →
        second.guard name (Registration.run (earlier ++ later)) = .ok guard

def GuardMap.Extends (before after : GuardMap Guard) : Prop :=
  ∀ name guard, before.poisoned = false → before.guards name = some guard →
    after.poisoned = false ∧ after.guards name = some guard

section Steps

variable {map before after : GuardMap Guard} {manager : AuthManager} {name : String}
  {guard : Guard} {factory : Factory Guard}

theorem guard_eq_ok :
    manager.guard name map = .ok guard ↔ map.poisoned = false ∧ map.guards name = some guard := by
  unfold AuthManager.guard
  cases map.poisoned <;> cases map.guards name <;> simp

theorem GuardMap.Extends.refl (map : GuardMap Guard) : map.Extends map :=
  fun _ _ isOpen isGuard => ⟨isOpen, isGuard⟩

theorem GuardMap.Extends.trans {middle : GuardMap Guard} (earlier : before.Extends middle)
    (later : middle.Extends after) : before.Extends after := by
  intro name guard isOpen isGuard
  obtain ⟨isOpen, isGuard⟩ := earlier name guard isOpen isGuard
  exact later name guard isOpen isGuard

theorem extends_update {guards : String → Option Guard}
    (same : ∀ other, guards name = some other → other = guard) :
    GuardMap.Extends { guards, poisoned := false }
      { guards := Function.update guards name (some guard), poisoned := false } := by
  intro other held _ isHeld
  refine ⟨rfl, ?_⟩
  by_cases isName : other = name
  · subst isName
    rw [same held isHeld]
    exact Function.update_self ..
  · exact (Function.update_of_ne isName _ _).trans isHeld

theorem insertNew_extends_iff (manager : AuthManager) :
    map.Extends (insertNew manager name factory map).2 ↔
      Registration.SparesGuards name factory map := by
  obtain ⟨guards, poisoned⟩ := map
  unfold insertNew Registration.SparesGuards
  cases poisoned with
  | true => exact iff_of_true (.refl _) nofun
  | false =>
    rw [if_neg Bool.false_ne_true]
    by_cases isTaken : guards name = none
    · rw [if_neg (by simp [isTaken])]
      cases factory with
      | some guard => exact iff_of_true (extends_update (by simp [isTaken])) nofun
      | none =>
        constructor
        · intro kept _ _ _ other
          cases isHeld : guards other with
          | none => exact isHeld
          | some held => exact absurd (kept other held rfl isHeld).1 nofun
        · intro isEmpty other held _ isHeld
          cases (isEmpty rfl isTaken rfl other).symm.trans isHeld
    · rw [if_pos (Option.isSome_iff_ne_none.mpr isTaken)]
      exact iff_of_true (.refl _) fun _ isFree => absurd isFree isTaken

theorem register_extends_iff :
    map.Extends (AuthManager.register name guard map).2 ↔
      (map.poisoned = false → ∀ other, map.guards name = some other → other = guard) := by
  obtain ⟨guards, poisoned⟩ := map
  unfold AuthManager.register
  cases poisoned with
  | true => exact iff_of_true (.refl _) nofun
  | false =>
    refine ⟨fun kept _ other isTaken => ?_, fun same => extends_update (same rfl)⟩
    have isKept := (kept name other rfl isTaken).2
    simp only [Bool.false_eq_true, if_false, Function.update_self] at isKept
    exact (Option.some.inj isKept).symm

theorem apply_extends_iff (registration : Registration Guard) :
    map.Extends (registration.apply map) ↔ registration.Spares map := by
  cases registration with
  | register name guard => exact register_extends_iff
  | extend manager name factory => exact insertNew_extends_iff manager
  | registrar registrar factory => exact insertNew_extends_iff registrar.manager

end Steps

variable (registrations : List (Registration Guard))

theorem run_concat (last : Registration Guard) :
    Registration.run (registrations ++ [last]) = last.apply (Registration.run registrations) := by
  simp [Registration.run]

theorem settled_iff_extends :
    Settled registrations ↔
      ∀ earlier later, earlier ++ later <+: registrations →
          (Registration.run earlier).Extends (Registration.run (earlier ++ later)) := by
  simp only [Settled, guard_eq_ok, and_imp]
  exact
    ⟨fun settled earlier later isPrefix name guard =>
      settled earlier later isPrefix ⟨""⟩ ⟨""⟩ name guard,
      fun kept earlier later isPrefix _ _ => kept earlier later isPrefix⟩

/--
A name stays with the guard that it has once resolved to exactly when no `register` in the run gives
a taken name to another guard, and no factory panics over a registered guard.
-/
theorem guards_settled_iff :
    Settled registrations ↔
      ∀ earlier registration, earlier ++ [registration] <+: registrations →
        registration.Spares (Registration.run earlier) := by
  rw [settled_iff_extends]
  constructor
  · intro settled earlier registration isPrefix
    rw [← apply_extends_iff, ← run_concat]
    exact settled earlier [registration] isPrefix
  · intro spared earlier later isPrefix
    induction later using List.reverseRecOn with
    | nil => rw [List.append_nil]; exact .refl _
    | append_singleton later last ih =>
      rw [← List.append_assoc] at isPrefix ⊢
      refine (ih ((List.prefix_append _ _).trans isPrefix)).trans ?_
      rw [run_concat, apply_extends_iff]
      exact spared (earlier ++ later) last isPrefix

/-- A second `register` under the default name swaps the guard. -/
theorem registered_guard_is_swapped : ¬Settled [.register "jwt" true, .register "jwt" false] := by
  intro settled
  have swapped := settled [.register "jwt" true] [.register "jwt" false] List.prefix_rfl
    ⟨"jwt"⟩ ⟨"jwt"⟩ "jwt" true rfl
  exact absurd swapped (by decide)

end Rustasea.Auth
