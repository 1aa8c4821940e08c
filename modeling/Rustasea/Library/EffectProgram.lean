import Mathlib.Logic.Function.Basic

namespace EffectProgram

/-!
# Programs that make requests

A program is a tree of requests to its environment; a request that fails ends
it with the error, as `?` does.  A handler answers one request in a state, and
`run` hands the state through a program.  `Makes` says which requests a program
can make, and `Takes` what it can do to the state: any preorder that these
requests respect.
-/

variable {Request Error State Result Next : Type} {Reply : Request → Type}

/-- A program with the replies its requests get. -/
inductive Program (Request : Type) (Reply : Request → Type) (Error Result : Type) : Type where
  | done (result : Except Error Result)
  | request (asked : Request) (next : Reply asked → Program Request Reply Error Result)

abbrev Handler (Request : Type) (Reply : Request → Type) (Error State : Type) :=
  (asked : Request) → State → State × Except Error (Reply asked)

namespace Program

def bind (program : Program Request Reply Error Result)
    (next : Result → Program Request Reply Error Next) : Program Request Reply Error Next :=
  match program with
  | .done (.ok result) => next result
  | .done (.error failure) => .done (.error failure)
  | .request asked later => .request asked fun reply => (later reply).bind next

instance : Monad (Program Request Reply Error) where
  pure result := .done (.ok result)
  bind := bind

def ask (asked : Request) : Program Request Reply Error (Reply asked) := .request asked pure

def fail (failure : Error) : Program Request Reply Error Result := .done (.error failure)

def run (handle : Handler Request Reply Error State) : Program Request Reply Error Result → State →
    State × Except Error Result
  | .done result, state => (state, result)
  | .request asked next, state =>
    match handle asked state with
    | (after, .ok reply) => run handle (next reply) after
    | (after, .error failure) => (after, .error failure)

variable {handle : Handler Request Reply Error State} {program : Program Request Reply Error Result}
  {next : Result → Program Request Reply Error Next}

@[simp] theorem run_ask (asked : Request) (state : State) :
    run handle (ask asked) state = handle asked state := by
  rw [ask, run]
  split
  all_goals next isAnswer => exact isAnswer.symm

theorem run_bind (program : Program Request Reply Error Result)
    (next : Result → Program Request Reply Error Next) (state : State) :
    run handle (program >>= next) state =
      match run handle program state with
      | (after, .ok result) => run handle (next result) after
      | (after, .error failure) => (after, .error failure) := by
  change run handle (program.bind next) state = _
  induction program generalizing state with
  | done result =>
    cases result with
    | ok result => rfl
    | error failure => rfl
  | request asked later ih =>
    rw [bind, run, run]
    split
    · next after reply isAnswer => exact ih reply after
    · rfl

variable {state after : State}

theorem run_bind_ok {result : Result} (ran : run handle program state = (after, .ok result)) :
    run handle (program >>= next) state = run handle (next result) after := by
  rw [run_bind, ran]

theorem exists_of_run_bind_ok {result : Next}
    (ran : run handle (program >>= next) state = (after, .ok result)) :
    ∃ middle first, run handle program state = (middle, .ok first) ∧
      run handle (next first) middle = (after, .ok result) := by
  rw [run_bind] at ran
  split at ran
  · next middle first ranFirst => exact ⟨middle, first, ranFirst, ran⟩
  · cases ran

theorem run_bind_error {failure : Error}
    (ran : run handle program state = (after, .error failure)) :
    run handle (program >>= next) state = (after, .error failure) := by
  rw [run_bind, ran]

end Program

/-! ## Which requests a program makes -/

def Makes (allowed : Request → Prop) : Program Request Reply Error Result → Prop
  | .done _ => True
  | .request asked next => allowed asked ∧ ∀ reply, Makes allowed (next reply)

namespace Makes

variable {allowed more : Request → Prop}

theorem pure (result : Result) :
    Makes allowed (Pure.pure result : Program Request Reply Error Result) :=
  trivial

theorem fail (failure : Error) :
    Makes allowed (Program.fail failure : Program Request Reply Error Result) :=
  trivial

theorem ask {asked : Request} (isAllowed : allowed asked) :
    Makes allowed (Program.ask asked : Program Request Reply Error (Reply asked)) :=
  ⟨isAllowed, fun _ => trivial⟩

variable {program : Program Request Reply Error Result}

theorem bind {next : Result → Program Request Reply Error Next} (first : Makes allowed program)
    (second : ∀ result, Makes allowed (next result)) : Makes allowed (program >>= next) := by
  change Makes allowed (program.bind next)
  induction program with
  | done result =>
    cases result with
    | ok result => exact second result
    | error failure => trivial
  | request asked later ih => exact ⟨first.1, fun reply => ih reply (first.2 reply)⟩

theorem mono (weaker : ∀ asked, allowed asked → more asked)
    (makes : Makes allowed program) : Makes more program := by
  induction program with
  | done result => trivial
  | request asked later ih => exact ⟨weaker asked makes.1, fun reply => ih reply (makes.2 reply)⟩

theorem all (allowsAll : ∀ asked, allowed asked)
    (program : Program Request Reply Error Result) : Makes allowed program := by
  induction program with
  | done result => trivial
  | request asked later ih => exact ⟨allowsAll asked, ih⟩

theorem forM {Item : Type} {body : Item → Program Request Reply Error Unit}
    (makes : ∀ item, Makes allowed (body item)) (items : List Item) :
    Makes allowed (items.forM body) := by
  induction items with
  | nil => exact pure ()
  | cons item rest ih => exact bind (makes item) fun _ => ih

end Makes

/-! ## What a program does to the state -/

/-- Every run relates the state before to the state after. -/
def Takes (handle : Handler Request Reply Error State) (related : State → State → Prop)
    (program : Program Request Reply Error Result) : Prop :=
  ∀ state, related state (program.run handle state).1

theorem Makes.takes {allowed : Request → Prop} {handle : Handler Request Reply Error State}
    {related : State → State → Prop} (reflexive : ∀ state, related state state)
    (transitive : ∀ first second third, related first second → related second third →
      related first third)
    (respects : ∀ asked state, allowed asked → related state (handle asked state).1)
    {program : Program Request Reply Error Result} (makes : Makes allowed program) :
    Takes handle related program := by
  induction program with
  | done result => exact reflexive
  | request asked later ih =>
    intro state
    have first := respects asked state makes.1
    rw [Program.run]
    split
    · next after reply isAnswer =>
      rw [isAnswer] at first
      exact transitive _ _ _ first (ih reply (makes.2 reply) after)
    · next after failure isAnswer =>
      rw [isAnswer] at first
      exact first

namespace Takes

variable {handle : Handler Request Reply Error State} {related : State → State → Prop}

theorem bind
    (transitive : ∀ first second third, related first second → related second third →
      related first third) {program : Program Request Reply Error Result}
    {next : Result → Program Request Reply Error Next} (first : Takes handle related program)
    (second : ∀ result, Takes handle related (next result)) :
    Takes handle related (program >>= next) := by
  intro state
  rw [Program.run_bind]
  have before := first state
  split
  · next after result ran =>
    rw [ran] at before
    exact transitive _ _ _ before (second result after)
  · next after failure ran =>
    rw [ran] at before
    exact before

end Takes

end EffectProgram
