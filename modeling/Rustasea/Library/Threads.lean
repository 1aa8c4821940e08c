import Mathlib.Algebra.BigOperators.Group.List.Basic
import Mathlib.Algebra.GroupWithZero.Nat
import Rustasea.Library.TransitionSystem

namespace Threads

open List Option

/-!
# Calls that interleave over a shared state

Any number of calls are in flight over one shared state.  A call begins when it
is made, each of its steps happens at once, and between two of them the others
may take theirs; a call may also be given up at any point.  An invariant of the
shared state holds when every step keeps it.
-/

variable {Shared Thread Call : Type*}

/-- How calls begin, and what a step of one does to the shared state. -/
structure Component (Shared Thread Call : Type*) where
  start : Shared → Call → Thread
  advance : Thread → Shared → Shared × Option Thread

/-- The shared state and the calls in flight. -/
structure World (Shared Thread : Type*) where
  shared : Shared
  threads : List Thread
  deriving DecidableEq

def World.initial (shared : Shared) : World Shared Thread :=
  { shared := shared, threads := [] }

/-- What happens next. -/
inductive Action (Call : Type*) where
  | call (made : Call)
  | advance (index : Nat)
  | drop (index : Nat)

/-- The threads once the one at `index` has gone on to `next`. -/
def replaced (threads : List Thread) (index : Nat) : Option Thread → List Thread
  | none => threads.eraseIdx index
  | some next => threads.set index next

def step? (component : Component Shared Thread Call) (world : World Shared Thread) :
    Action Call → Option (World Shared Thread)
  | .call made =>
    some { world with threads := world.threads ++ [component.start world.shared made] }
  | .advance index =>
    world.threads[index]?.map fun thread =>
      let (shared, next) := component.advance thread world.shared
      { shared := shared, threads := replaced world.threads index next }
  | .drop index =>
    if index < world.threads.length then some { world with threads := world.threads.eraseIdx index }
    else none

/-- A condition on the steps of the calls, as one on the world's. -/
def Along (good : Shared → Thread → Prop) (world : World Shared Thread) : Action Call → Prop
  | .advance index => ∀ thread ∈ world.threads[index]?, good world.shared thread
  | _ => True

instance (good : Shared → Thread → Prop) [∀ shared thread, Decidable (good shared thread)]
    (world : World Shared Thread) (action : Action Call) : Decidable (Along good world action) := by
  cases action with
  | advance index =>
    unfold Along
    infer_instance
  | call made => exact isTrue trivial
  | drop index => exact isTrue trivial

variable {component : Component Shared Thread Call} {good : Shared → Thread → Prop}
  {initial : Shared} {threads : List Thread} {index : Nat} {thread : Thread} {next : Option Thread}
  {start world : World Shared Thread} (holds : Shared → Prop)

theorem mem_eraseIdx_of_mem_replaced (isIn : thread ∈ replaced threads index next) :
    thread ∈ threads.eraseIdx index ∨ next = some thread := by
  cases next with
  | none => exact .inl isIn
  | some next =>
    change thread ∈ threads.set index next at isIn
    by_cases within : index < threads.length
    · have moved := set_perm_cons_eraseIdx within next
      rcases mem_cons.mp (moved.mem_iff.mp isIn) with rfl | isOther
      · exact .inr rfl
      · exact .inl isOther
    · rw [set_eq_of_length_le (Nat.le_of_not_lt within)] at isIn
      rw [eraseIdx_of_length_le (Nat.le_of_not_lt within)]
      exact .inl isIn

variable {side : World Shared Thread → Action Call → Prop}

/--
What threads assert of the shared state holds when no step interferes with what
the other threads assert.
-/
theorem invariant_of_interference_free (asserts : Shared → Thread → Prop)
    (atStart : holds start.shared)
    (allAtStart : ∀ thread ∈ start.threads, asserts start.shared thread)
    (starts : ∀ shared made, holds shared → asserts shared (component.start shared made))
    (kept : ∀ (world : World Shared Thread) index thread, world.threads[index]? = some thread →
      side world (.advance index) → holds world.shared →
      (∀ thread ∈ world.threads, asserts world.shared thread) →
      holds (component.advance thread world.shared).1 ∧
        (∀ next ∈ (component.advance thread world.shared).2,
          asserts (component.advance thread world.shared).1 next) ∧
        ∀ other ∈ world.threads.eraseIdx index,
          asserts (component.advance thread world.shared).1 other)
    (reached : TransitionSystem.ReachableAlong (step? component) side start world) :
    holds world.shared ∧ ∀ thread ∈ world.threads, asserts world.shared thread := by
  refine reached.invariant
    (fun world => holds world.shared ∧ ∀ thread ∈ world.threads, asserts world.shared thread)
    ⟨atStart, allAtStart⟩ ?_
  rintro before action after ⟨holdsBefore, allBefore⟩ isGood taken
  cases action with
  | call made =>
    cases taken
    refine ⟨holdsBefore, fun thread isIn => ?_⟩
    rw [mem_append, mem_singleton] at isIn
    rcases isIn with isOld | rfl
    · exact allBefore thread isOld
    · exact starts _ _ holdsBefore
  | advance index =>
    simp only [step?, map_eq_some_iff] at taken
    obtain ⟨thread, isThread, rfl⟩ := taken
    obtain ⟨holdsAfter, nextAsserts, othersAssert⟩ :=
      kept before index thread isThread isGood holdsBefore allBefore
    refine ⟨holdsAfter, fun other isIn => ?_⟩
    rcases mem_eraseIdx_of_mem_replaced isIn with isOther | isNext
    · exact othersAssert other isOther
    · exact nextAsserts other isNext
  | drop index =>
    simp only [step?, ite_none_right_eq_some, Option.some.injEq] at taken
    obtain ⟨-, rfl⟩ := taken
    exact ⟨holdsBefore, fun thread isIn => allBefore thread (mem_of_mem_eraseIdx isIn)⟩

/--
What every good step keeps holds of the shared state and of each thread, when a
thread's own part is not touched by the others.
-/
theorem invariant (asserts : Thread → Prop) (atStart : holds start.shared)
    (allAtStart : ∀ thread ∈ start.threads, asserts thread)
    (starts : ∀ shared made, asserts (component.start shared made))
    (kept : ∀ shared thread, holds shared → asserts thread → good shared thread →
      holds (component.advance thread shared).1 ∧
        ∀ next ∈ (component.advance thread shared).2, asserts next)
    (reached : TransitionSystem.ReachableAlong (step? component) (Along good) start world) :
    holds world.shared ∧ ∀ thread ∈ world.threads, asserts thread := by
  refine invariant_of_interference_free holds (fun _ => asserts) atStart allAtStart
    (fun shared made _ => starts shared made) ?_ reached
  intro before index thread isThread isGood holdsBefore allBefore
  obtain ⟨holdsAfter, nextAsserts⟩ := kept _ thread holdsBefore
    (allBefore thread (mem_of_getElem? isThread)) (isGood thread isThread)
  exact ⟨holdsAfter, nextAsserts, fun other isOther =>
    allBefore other (mem_of_mem_eraseIdx isOther)⟩

theorem shared_invariant (atStart : holds start.shared)
    (kept : ∀ shared thread, holds shared → good shared thread →
      holds (component.advance thread shared).1)
    (reached : TransitionSystem.ReachableAlong (step? component) (Along good) start world) :
    holds world.shared :=
  (invariant holds (fun _ => True) atStart (fun _ _ => trivial) (fun _ _ => trivial)
    (fun shared thread holdsBefore _ isGood =>
      ⟨kept shared thread holdsBefore isGood, fun _ _ => trivial⟩)
    reached).1

/-! ## What the calls hold -/

def total (held : Thread → Nat) (threads : List Thread) : Nat := (threads.map held).sum

variable (held : Thread → Nat)

theorem total_replaced (isThread : threads[index]? = some thread) (next : Option Thread) :
    total held (replaced threads index next) + held thread =
      total held threads + next.elim 0 held := by
  obtain ⟨within, rfl⟩ := List.getElem?_eq_some_iff.mp isThread
  have parts : threads = threads.take index ++ threads[index] :: threads.drop (index + 1) := by
    rw [getElem_cons_drop, take_append_drop]
  have whole := congrArg (total held) parts
  simp only [total, map_append, map_cons, sum_append, sum_cons] at whole
  cases next with
  | none =>
    simp only [total, replaced, eraseIdx_eq_take_drop_succ,
      map_append, sum_append, elim_none]
    omega
  | some next =>
    simp only [total, replaced, set_eq_take_append_cons_drop, within, if_true, map_append,
      map_cons, sum_append, sum_cons, elim_some]
    omega

theorem total_eraseIdx_le (threads : List Thread) (index : Nat) :
    total held (threads.eraseIdx index) ≤ total held threads := by
  cases isThread : threads[index]? with
  | none =>
    rw [List.getElem?_eq_none_iff] at isThread
    exact (eraseIdx_of_length_le isThread).symm ▸ Nat.le_refl _
  | some thread =>
    have moved := total_replaced held isThread none
    simp only [replaced, elim_none] at moved
    omega

/--
What has been spent and what is held come from what was issued, when a call
begins with nothing and no step makes more of it.
-/
theorem spent_le_issued (spent issued : Shared → Nat) (atStart : spent initial ≤ issued initial)
    (begins : ∀ shared made, held (component.start shared made) = 0) (moves : ∀ shared thread,
      spent (component.advance thread shared).1 +
      (component.advance thread shared).2.elim 0 held + issued shared ≤
      spent shared + held thread + issued (component.advance thread shared).1) (reached :
      TransitionSystem.ReachableAlong (step? component) side (World.initial initial) world) :
    spent world.shared + total held world.threads ≤ issued world.shared := by
  refine reached.invariant
    (fun world => spent world.shared + total held world.threads ≤ issued world.shared) ?_ ?_
  · simpa [World.initial, total] using atStart
  · intro before action after covered _ taken
    cases action with
    | call made =>
      cases taken
      simpa [total, begins] using covered
    | advance index =>
      simp only [step?, map_eq_some_iff] at taken
      obtain ⟨thread, isThread, rfl⟩ := taken
      have moved := moves before.shared thread
      have carriedOver := total_replaced held isThread (component.advance thread before.shared).2
      change
        spent (component.advance thread before.shared).1 +
            total held (replaced before.threads index (component.advance thread before.shared).2) ≤
          issued (component.advance thread before.shared).1
      omega
    | drop index =>
      simp only [step?, ite_none_right_eq_some, Option.some.injEq] at taken
      obtain ⟨-, rfl⟩ := taken
      have fewer := total_eraseIdx_le held before.threads index
      dsimp only
      omega

end Threads
