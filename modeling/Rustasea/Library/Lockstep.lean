import Mathlib.Data.List.Basic

namespace Lockstep

/-!
# Two machines in lockstep

A machine answers each input and moves on.  Two machines that are fed the same
inputs answer alike when a relation between their states is kept by every
input; a condition on the inputs may be asked of the first machine's state
before each of them.
-/

abbrev Machine (State Input Output : Type*) := State → Input → Output × State

variable {State Other Input Output Reply : Type*}

def answers (machine : Machine State Input Output) : State → List Input → List Output
  | _, [] => []
  | state, input :: rest => (machine state input).1 :: answers machine (machine state input).2 rest

def final (machine : Machine State Input Output) : State → List Input → State
  | state, [] => state
  | state, input :: rest => final machine (machine state input).2 rest

/-- Every input meets the condition on the state it finds. -/
def Along (machine : Machine State Input Output) (good : State → Input → Prop) :
    State → List Input → Prop
  | _, [] => True
  | state, input :: rest => good state input ∧ Along machine good (machine state input).2 rest

instance decidableAlong (machine : Machine State Input Output) (good : State → Input → Prop)
    [∀ state input, Decidable (good state input)] :
    (state : State) → (inputs : List Input) → Decidable (Along machine good state inputs)
  | _, [] => isTrue trivial
  | state, input :: rest =>
    haveI := decidableAlong machine good (machine state input).2 rest
    inferInstanceAs (Decidable (good state input ∧ _))

section TwoMachines

variable {machine : Machine State Input Output} {other : Machine Other Input Reply}
  {good : State → Input → Prop} {alike : Output → Reply → Prop} (related : State → Other → Prop)
  {inputs : List Input}

/--
Machines whose states stay related under every good input, and that answer
alike there, answer alike along good inputs.
-/
theorem forall₂_answers
    (kept : ∀ state shadow input, related state shadow → good state input →
      alike (machine state input).1 (other shadow input).1 ∧
        related (machine state input).2 (other shadow input).2) {state : State} {shadow : Other}
    (atStart : related state shadow) (along : Along machine good state inputs) :
    List.Forall₂ alike (answers machine state inputs) (answers other shadow inputs) := by
  induction inputs generalizing state shadow with
  | nil => exact .nil
  | cons input rest ih =>
    obtain ⟨answered, after⟩ := kept state shadow input atStart along.1
    exact .cons answered (ih after along.2)

theorem related_final
    (kept : ∀ state shadow input, related state shadow → good state input →
      related (machine state input).2 (other shadow input).2) {state : State} {shadow : Other}
    (atStart : related state shadow) (along : Along machine good state inputs) :
    related (final machine state inputs) (final other shadow inputs) := by
  induction inputs generalizing state shadow with
  | nil => exact atStart
  | cons input rest ih => exact ih (kept state shadow input atStart along.1) along.2

/--
When the states stay related whatever comes, and an input looks alike exactly
where it is good, all answers look alike exactly along good inputs.
-/
theorem map_answers_eq_iff {Seen : Type*} {observe : Output → Seen} {observeOther : Reply → Seen}
    {fed : Input → Prop}
    (kept : ∀ state shadow input, related state shadow → fed input →
        (observe (machine state input).1 = observeOther (other shadow input).1 ↔ good state input) ∧
          related (machine state input).2 (other shadow input).2) {state : State} {shadow : Other}
    (atStart : related state shadow) (allFed : ∀ input ∈ inputs, fed input) :
    (answers machine state inputs).map observe = (answers other shadow inputs).map observeOther ↔
      Along machine good state inputs := by
  induction inputs generalizing state shadow with
  | nil => exact iff_of_true rfl trivial
  | cons input rest ih =>
    rw [List.forall_mem_cons] at allFed
    obtain ⟨alikeHere, after⟩ := kept state shadow input atStart allFed.1
    have alikeAfter := ih after allFed.2
    simp only [answers, List.map_cons, List.cons.injEq]
    exact and_congr alikeHere alikeAfter

end TwoMachines

/-! ## Machines with a clock -/

/-- A machine whose every input says how much time has passed before it. -/
def clocked (apply : (now : Nat) → Input → State → Output × State) :
    Machine (Nat × State) (Nat × Input) Output :=
  fun before input =>
    let now := before.1 + input.1
    let after := apply now input.2 before.2
    (after.1, (now, after.2))

section OneClock

variable {apply : (now : Nat) → Input → State → Output × State}
  {applyOther : (now : Nat) → Input → Other → Reply × Other} {alike : Output → Reply → Prop}

/--
Two machines on one clock: it is enough that a relation survives the passing
of time, and every good operation at one instant.
-/
theorem agree_clocked (related : Nat → State → Other → Prop) (good : Nat → Input → State → Prop)
    (later : ∀ now after state shadow, now ≤ after → related now state shadow →
      related after state shadow)
    (kept : ∀ now input state shadow, related now state shadow → good now input state →
      alike (apply now input state).1 (applyOther now input shadow).1 ∧
        related now (apply now input state).2 (applyOther now input shadow).2) {start : Nat}
    {state : State} {shadow : Other} (atStart : related start state shadow)
    {inputs : List (Nat × Input)}
    (along : Along (clocked apply) (fun before input => good (before.1 + input.1) input.2 before.2)
      (start, state) inputs) :
    List.Forall₂ alike (answers (clocked apply) (start, state) inputs)
      (answers (clocked applyOther) (start, shadow) inputs) ∧
    related (final (clocked apply) (start, state) inputs).1
      (final (clocked apply) (start, state) inputs).2
      (final (clocked applyOther) (start, shadow) inputs).2 := by
  have keptTogether : ∀ before shadowed input,
      before.1 = shadowed.1 ∧ related before.1 before.2 shadowed.2 →
      good (before.1 + input.1) input.2 before.2 → alike (clocked apply before input).1
          (clocked applyOther shadowed input).1 ∧
        (clocked apply before input).2.1 = (clocked applyOther shadowed input).2.1 ∧
          related (clocked apply before input).2.1 (clocked apply before input).2.2
            (clocked applyOther shadowed input).2.2 := by
    rintro ⟨clock, before⟩ ⟨shadowClock, shadowed⟩ ⟨elapsed, input⟩ ⟨sameClock, isRelated⟩ isGood
    cases sameClock
    have related' := later clock (clock + elapsed) before shadowed
        (Nat.le_add_right clock elapsed) isRelated
    obtain ⟨answered, after⟩ := kept (clock + elapsed) input before shadowed related' isGood
    exact ⟨answered, rfl, after⟩
  have startTogether : (start, state).1 = (start, shadow).1 ∧
      related (start, state).1 (start, state).2 (start, shadow).2 :=
    ⟨rfl, atStart⟩
  constructor
  · exact forall₂_answers
      (fun before shadowed => before.1 = shadowed.1 ∧ related before.1 before.2 shadowed.2)
      keptTogether startTogether along
  · exact (related_final
        (fun before shadowed => before.1 = shadowed.1 ∧ related before.1 before.2 shadowed.2)
        (fun before shadowed input isRelated isGood =>
          (keptTogether before shadowed input isRelated isGood).2)
        startTogether along).2

end OneClock

end Lockstep
