import Mathlib.Data.List.Basic
import Mathlib.Logic.Relation

namespace TransitionSystem

/-!
# Runs of a partial step function

A system is given by one executable function `step? : State → Action → Option
State`; the action carries every choice the scheduler or the environment makes.
`Reachable` is the usual closure of an initial state under enabled steps, and
`ReachableAlong` restricts every step of the run to a side condition on the
state before it.  Both come with the induction rule the systems below use;
`run?` and `runAlong?` evaluate a concrete schedule.
-/

variable {State Action : Type*}

inductive ReachableAlong (step? : State → Action → Option State) (good : State → Action → Prop)
    (initial : State) : State → Prop where
  | start : ReachableAlong step? good initial initial
  | next {state after : State}
      {action : Action} : ReachableAlong step? good initial state → good state action →
      step? state action = some after → ReachableAlong step? good initial after

abbrev Reachable (step? : State → Action → Option State) (initial : State) : State → Prop :=
  ReachableAlong step? (fun _ _ => True) initial

namespace ReachableAlong

variable {step? : State → Action → Option State} {good : State → Action → Prop} {initial : State}

theorem invariant (holds : State → Prop) (atStart : holds initial)
    (kept : ∀ state action after, holds state → good state action →
      step? state action = some after → holds after) {state : State}
    (reached : ReachableAlong step? good initial state) : holds state := by
  induction reached with
  | start => exact atStart
  | next _ isGood taken ih => exact kept _ _ _ ih isGood taken

theorem invariant_of_reachable (holds : State → Prop) (atStart : holds initial)
    (kept : ∀ state action after, ReachableAlong step? good initial state → holds state →
        good state action → step? state action = some after → holds after) {state : State}
    (reached : ReachableAlong step? good initial state) : holds state := by
  induction reached with
  | start => exact atStart
  | next before isGood taken ih => exact kept _ _ _ before ih isGood taken

theorem trans {middle state : State} (before : ReachableAlong step? good initial middle)
    (after : ReachableAlong step? good middle state) : ReachableAlong step? good initial state := by
  induction after with
  | start => exact before
  | next _ isGood taken ih => exact ih.next isGood taken

theorem mono {weaker : State → Action → Prop}
    (weakens : ∀ state action, good state action → weaker state action)
    {state : State} (reached : ReachableAlong step? good initial state) :
    ReachableAlong step? weaker initial state := by
  induction reached with
  | start => exact .start
  | next _ isGood taken ih => exact ih.next (weakens _ _ isGood) taken

end ReachableAlong

/--
Execute a schedule, failing at the first action that is not enabled or not
good.
-/
def runAlong? (step? : State → Action → Option State) (good : State → Action → Prop)
    [∀ state action, Decidable (good state action)] : State → List Action → Option State
  | state, [] => some state
  | state, action :: rest =>
    if good state action then
      match step? state action with
      | none => none
      | some after => runAlong? step? good after rest
    else none

variable {actions : List Action} {step? : State → Action → Option State}

theorem reachableAlong_of_runAlong? {good : State → Action → Prop}
    [∀ state action, Decidable (good state action)] {initial state final : State}
    (reached : ReachableAlong step? good initial state)
    (accepted : runAlong? step? good state actions = some final) :
    ReachableAlong step? good initial final := by
  induction actions generalizing state with
  | nil =>
    simp only [runAlong?, Option.some.injEq] at accepted
    exact accepted ▸ reached
  | cons action rest ih =>
    unfold runAlong? at accepted
    split at accepted
    · next isGood =>
      cases taken : step? state action with
      | none => simp [taken] at accepted
      | some after =>
        simp only [taken] at accepted
        exact ih (reached.next isGood taken) accepted
    · simp at accepted

/-- Execute a schedule, failing at the first action that is not enabled. -/
def run? (step? : State → Action → Option State) (state : State)
    (actions : List Action) : Option State :=
  runAlong? step? (fun _ _ => True) state actions

theorem exists_of_run?_cons {state final : State} {action : Action} {rest : List Action}
    (accepted : run? step? state (action :: rest) = some final) :
    ∃ middle, step? state action = some middle ∧ run? step? middle rest = some final := by
  unfold run? runAlong? at accepted
  cases taken : step? state action with
  | none =>
    rw [taken] at accepted
    cases accepted
  | some middle =>
    rw [taken] at accepted
    exact ⟨middle, rfl, accepted⟩

theorem runAlong?_or_exists_bad {good : State → Action → Prop}
    [∀ state action, Decidable (good state action)] {initial state final : State}
    (reached : ReachableAlong step? good initial state)
    (accepted : run? step? state actions = some final) :
    runAlong? step? good state actions = some final ∨
      ∃ before action after rest, ReachableAlong step? good initial before ∧ ¬good before action ∧
        step? before action = some after ∧ run? step? after rest = some final := by
  induction actions generalizing state with
  | nil => exact .inl accepted
  | cons action rest ih =>
    obtain ⟨after, taken, ranRest⟩ := exists_of_run?_cons accepted
    by_cases isGood : good state action
    · rw [runAlong?, if_pos isGood, taken]
      exact ih (reached.next isGood taken) ranRest
    · exact .inr ⟨state, action, after, rest, reached, isGood, taken, ranRest⟩

theorem reachable_of_run? {initial final : State}
    (accepted : run? step? initial actions = some final) : Reachable step? initial final :=
  reachableAlong_of_runAlong? .start accepted

end TransitionSystem
