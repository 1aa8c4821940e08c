import Mathlib.Tactic.Ring
import Rustasea.Schedule.Cron

namespace Rustasea.Schedule

open List

/-!
# The scheduler's tick

The registry, the running marks and one tick over them.  The call that hands a
command to the queue is a parameter, so that it can fail in any pattern;
`dispatchCommand` is the call as it stands.  A tick reports the calls it made.
-/

inductive TickOutcome where
  | suppressed
  | dispatched
  | idle
  deriving DecidableEq

/-- One call of the dispatch: the command, and the minute it was due for. -/
structure Dispatch where
  command : String
  dueAt : Int
  deriving DecidableEq

/-- The registered commands and the names marked as running. -/
structure Scheduler where
  commands : List ScheduleCommand
  running : List String
  deriving DecidableEq

namespace Scheduler

def new : Scheduler :=
  { commands := [], running := [] }

def register (scheduler : Scheduler) (command : ScheduleCommand) : Scheduler :=
  if scheduler.commands.any fun other => other.command == command.command then scheduler
  else { scheduler with commands := scheduler.commands ++ [command] }

end Scheduler

def markRunning (running : List String) (command : String) : List String :=
  if running.contains command then running
  else running ++ [command]

def markIdle (running : List String) (command : String) : List String :=
  running.filter fun other => decide (other ≠ command)

def dispatchCommand (command : ScheduleCommand) : Except ScheduleError Unit :=
  .error (.dispatch
    ("command \x60" ++ command.command ++
      "\x60 is due but no queue dispatch path is wired yet (S05-T03)"))

/-- What a tick returns, the dispatch calls it made and the marks it leaves. -/
structure Tick where
  outcome : Except ScheduleError TickOutcome
  calls : List Dispatch
  running : List String

def tickLoop (zones : String → Option Zone)
    (dispatch : ScheduleCommand → Except ScheduleError Unit) (now : Int) : List ScheduleCommand →
    Bool → List String → Tick
  | [], dispatched, running =>
    {
      outcome := .ok (if dispatched then .dispatched else .idle)
      calls := []
      running := running
    }
  | command :: rest, dispatched, running =>
    if command.skipIfRunning && running.contains command.command then
      tickLoop zones dispatch now rest dispatched running
    else
      match command.nextRun zones now with
      | none => tickLoop zones dispatch now rest dispatched running
      | some next =>
        if next ≤ now + second then
          let marked := markRunning running command.command
          let result := dispatch command
          let cleared := markIdle marked command.command
          let call : Dispatch := { command := command.command, dueAt := next }
          match result with
          | .error error =>
            { outcome := .error error, calls := [call], running := cleared }
          | .ok () =>
            let later := tickLoop zones dispatch now rest true cleared
            { later with calls := call :: later.calls }
        else tickLoop zones dispatch now rest dispatched running

/-- Run one tick: evaluate every command and dispatch the matches. -/
def Scheduler.tick (zones : String → Option Zone)
    (dispatch : ScheduleCommand → Except ScheduleError Unit) (paused : Bool)
    (now : Int) (scheduler : Scheduler) : Tick :=
  if paused then { outcome := .ok .suppressed, calls := [], running := scheduler.running }
  else tickLoop zones dispatch now scheduler.commands false scheduler.running

def tickInterval : Int := 60 * second

def tickInstant (start : Int) (tick : Nat) : Int :=
  start + tick * tickInterval

def Scheduler.run (zones : String → Option Zone)
    (dispatch : Nat → ScheduleCommand → Except ScheduleError Unit)
    (paused : Nat → Bool) (start : Int) : Nat → Scheduler → List Tick × Scheduler
  | 0, scheduler => ([], scheduler)
  | count + 1, scheduler =>
    let (ticks, scheduler) := Scheduler.run zones dispatch paused start count scheduler
    let tick := scheduler.tick zones (dispatch count) (paused count) (tickInstant start count)
    (ticks ++ [tick], { scheduler with running := tick.running })

def callsOf (ticks : List Tick) : List Dispatch := ticks.flatMap Tick.calls

def Scheduler.ofCommands (declared : List ScheduleCommand) : Scheduler :=
  declared.foldl Scheduler.register Scheduler.new

/-!
## Runs of ticks

A command without a zone is due at a tick exactly when the tick lands in the
last second of a minute and the expression matches the minute that follows.
The calls of a tick are its due commands up to the first one that fails, and a
run is one such tick after another, whatever failed before.
-/

def minuteAfter (now : Int) : Int := truncated now + minute

def LastSecond (now : Int) : Prop := minuteAfter now ≤ now + second

/-- The test of the loop: the next run is at most a second away. -/
@[grind =]
def due (zones : String → Option Zone) (now : Int) (command : ScheduleCommand) : Bool :=
  match command.nextRun zones now with
  | none => false
  | some next => decide (next ≤ now + second)

@[grind =]
def upToFailure (dispatch : ScheduleCommand → Except ScheduleError Unit) : List ScheduleCommand →
    List ScheduleCommand
  | [] => []
  | command :: rest =>
    match dispatch command with
    | .error _ => [command]
    | .ok () => command :: upToFailure dispatch rest

/-! ## When a command is due -/

theorem truncated_add_minute (now : Int) : truncated (now + minute) = minuteAfter now := by
  unfold truncated minuteAfter truncated
  rw [Int.add_emod_right]
  ring

theorem minuteAfter_emod (now : Int) : minuteAfter now % minute = 0 := by
  unfold minuteAfter truncated minute
  omega

variable {zones : String → Option Zone} {command : ScheduleCommand}

theorem nextRun_near {now next : Int} (isNext : command.nextRun zones now = some next)
    (near : next ≤ now + second) :
    command.zone zones = none ∧ next = minuteAfter now ∧
    command.matchesMinute (minuteAfter now) = true := by
  unfold ScheduleCommand.nextRun nextCronMatchIn at isNext
  cases isParsed : parseExpression command.cron with
  | none =>
    rw [isParsed] at isNext
    cases isNext
  | some fields =>
    rw [isParsed, Option.bind_eq_bind] at isNext
    cases isZone : command.zone zones with
    | some zone =>
      rw [isZone] at isNext
      have later := scanLocal_some isNext
      unfold second at near
      unfold minute at later
      omega
    | none =>
      rw [isZone] at isNext
      dsimp only at isNext
      rw [truncated_add_minute] at isNext
      rcases scanUtc_some isNext with ⟨same, isMatch⟩ | later
      · refine ⟨rfl, same, ?_⟩
        unfold ScheduleCommand.matchesMinute
        rw [isParsed]
        exact isMatch
      · unfold minuteAfter truncated minute at later
        unfold second at near
        omega

variable {now : Int}

theorem nextRun_of_match (inUtc : command.zone zones = none)
    (isMatch : command.matchesMinute (minuteAfter now) = true) :
    command.nextRun zones now = some (minuteAfter now) := by
  unfold ScheduleCommand.matchesMinute at isMatch
  unfold ScheduleCommand.nextRun nextCronMatchIn
  cases isParsed : parseExpression command.cron with
  | none =>
    rw [isParsed] at isMatch
    cases isMatch
  | some fields =>
    rw [isParsed] at isMatch
    rw [Option.bind_eq_bind, inUtc]
    dsimp only
    rw [truncated_add_minute]
    exact scanUtc_of_match (by decide) isMatch

theorem due_iff (zones : String → Option Zone) (now : Int) (command : ScheduleCommand) :
    due zones now command = true ↔
      LastSecond now ∧ command.zone zones = none ∧
        command.matchesMinute (minuteAfter now) = true := by
  constructor
  · intro isDue
    unfold due at isDue
    split at isDue
    · cases isDue
    · next next isNext =>
      have near := of_decide_eq_true isDue
      obtain ⟨inUtc, rfl, isMatch⟩ := nextRun_near isNext near
      exact ⟨near, inUtc, isMatch⟩
  · rintro ⟨lastSecond, inUtc, isMatch⟩
    unfold due
    rw [nextRun_of_match inUtc isMatch]
    exact decide_eq_true lastSecond

/-! ## The calls up to a failure -/

theorem upToFailure_sublist (dispatch : ScheduleCommand → Except ScheduleError Unit)
    (commands : List ScheduleCommand) : (upToFailure dispatch commands).Sublist commands := by
  induction commands with
  | nil => exact .slnil
  | cons command rest ih =>
    rw [upToFailure]
    split
    · exact (nil_sublist rest).cons_cons command
    · exact ih.cons_cons command

variable {dispatch : ScheduleCommand → Except ScheduleError Unit}
  {before after : List ScheduleCommand}

theorem mem_upToFailure (fresh : command ∉ before) :
    command ∈ upToFailure dispatch (before ++ command :: after) ↔
      ∀ earlier ∈ before, dispatch earlier = .ok () := by
  induction before with
  | nil =>
    rw [nil_append, upToFailure]
    constructor
    · intro _ earlier isEarlier
      cases isEarlier
    · intro _
      split <;> exact mem_cons_self
  | cons first before ih =>
    rw [mem_cons, not_or] at fresh
    rw [cons_append, upToFailure, forall_mem_cons]
    cases result : dispatch first with
    | error error =>
      constructor
      · intro isMember
        exact absurd (mem_singleton.mp isMember) fresh.1
      · rintro ⟨isOk, -⟩
        cases isOk
    | ok =>
      rw [mem_cons, ih fresh.2]
      constructor
      · rintro (same | allOk)
        · exact absurd same fresh.1
        · exact ⟨rfl, allOk⟩
      · rintro ⟨-, allOk⟩
        exact .inr allOk

/-! ## One tick -/

def callAt (now : Int) (command : ScheduleCommand) : Dispatch :=
  { command := command.command, dueAt := minuteAfter now }

def dispatchedAt (zones : String → Option Zone)
    (dispatch : ScheduleCommand → Except ScheduleError Unit) (now : Int)
    (commands : List ScheduleCommand) : List ScheduleCommand :=
  upToFailure dispatch (commands.filter (due zones now))

/-- What a tick over idle commands reports. -/
structure TickReport (zones : String → Option Zone)
    (dispatch : ScheduleCommand → Except ScheduleError Unit) (now : Int)
    (commands : List ScheduleCommand) (tick : Tick) :
    Prop where
  calls : tick.calls = (dispatchedAt zones dispatch now commands).map (callAt now)
  idle : tick.running = []
  failed : ∀ error, tick.outcome = .error error ↔
        ∃ command ∈ dispatchedAt zones dispatch now commands, dispatch command = .error error

theorem markIdle_markRunning (command : String) :
    markIdle (markRunning [] command) command = [] := by
  simp [markIdle, markRunning]

theorem TickReport.skip {rest : List ScheduleCommand} {tick : Tick}
    (notDue : due zones now command = false) (report : TickReport zones dispatch now rest tick) :
    TickReport zones dispatch now (command :: rest) tick := by
  have same : dispatchedAt zones dispatch now (command :: rest) =
      dispatchedAt zones dispatch now rest := by
    unfold dispatchedAt
    rw [filter_cons_of_neg (by simp [notDue])]
  exact {
    calls := by rw [same]; exact report.calls
    idle := report.idle
    failed := by rw [same]; exact report.failed
  }

/-- The loop makes the calls of the due commands up to the first failure. -/
theorem tickLoop_report (zones : String → Option Zone)
    (dispatch : ScheduleCommand → Except ScheduleError Unit) (now : Int)
    (commands : List ScheduleCommand) (dispatched : Bool) :
    TickReport zones dispatch now commands
      (tickLoop zones dispatch now commands dispatched []) := by
  induction commands generalizing dispatched with
  | nil =>
    refine { calls := rfl, idle := rfl, failed := ?_ }
    intro error
    simp [tickLoop, dispatchedAt, upToFailure]
  | cons command rest ih =>
    rw [tickLoop, if_neg (by simp)]
    cases isNext : command.nextRun zones now with
    | none =>
      refine (ih dispatched).skip ?_
      unfold due
      rw [isNext]
    | some next =>
      dsimp only
      by_cases near : next ≤ now + second
      · have isDue : due zones now command = true := by
          unfold due
          rw [isNext]
          exact decide_eq_true near
        have isMinute : next = minuteAfter now := (nextRun_near isNext near).2.1
        rw [if_pos near, markIdle_markRunning, isMinute]
        cases result : dispatch command with
        | error failure =>
          have reached : dispatchedAt zones dispatch now (command :: rest) = [command] := by
            unfold dispatchedAt
            rw [filter_cons_of_pos isDue, upToFailure, result]
          refine { calls := ?_, idle := rfl, failed := ?_ }
          · rw [reached]
            rfl
          · intro error
            rw [reached]
            simp [result]
        | ok =>
          have later := ih true
          have reached : dispatchedAt zones dispatch now (command :: rest) =
              command :: dispatchedAt zones dispatch now rest := by
            unfold dispatchedAt
            rw [filter_cons_of_pos isDue, upToFailure, result]
          refine { calls := ?_, idle := later.idle, failed := ?_ }
          · rw [reached, map_cons, ← later.calls]
            rfl
          · intro error
            rw [reached]
            rw [later.failed error]
            simp [result]
      · rw [if_neg near]
        refine (ih dispatched).skip ?_
        unfold due
        rw [isNext]
        exact decide_eq_false near

/-! ## A run -/

def Scheduler.tickAt (zones : String → Option Zone)
    (dispatch : Nat → ScheduleCommand → Except ScheduleError Unit)
    (paused : Nat → Bool) (start : Int) (scheduler : Scheduler) (tick : Nat) : Tick :=
  scheduler.tick zones (dispatch tick) (paused tick) (tickInstant start tick)

variable {paused : Bool} {scheduler : Scheduler}

theorem Scheduler.tick_idle (isIdle : scheduler.running = []) :
    (scheduler.tick zones dispatch paused now).running = [] := by
  unfold Scheduler.tick
  split
  · exact isIdle
  · rw [isIdle]
    exact (tickLoop_report zones dispatch now _ false).idle

theorem Scheduler.run_eq (zones : String → Option Zone)
    (dispatch : Nat → ScheduleCommand → Except ScheduleError Unit)
    (paused : Nat → Bool) (start : Int) (count : Nat) (isIdle : scheduler.running = []) :
    scheduler.run zones dispatch paused start count = ((List.range count).map
      (scheduler.tickAt zones dispatch paused start), scheduler) := by
  induction count with
  | zero => rfl
  | succ count ih =>
    have same : { scheduler with running := [] } = scheduler := by rw [← isIdle]
    rw [Scheduler.run, ih]
    dsimp only
    rw [Scheduler.tick_idle isIdle, same, range_succ, map_append]
    rfl

/-! ## The registry -/

theorem Scheduler.register_nodup (distinct : (scheduler.commands.map ScheduleCommand.command).Nodup)
    (command : ScheduleCommand) :
    ((scheduler.register command).commands.map ScheduleCommand.command).Nodup := by
  unfold Scheduler.register
  split
  · exact distinct
  · next isNew =>
    rw [any_eq_true] at isNew
    push Not at isNew
    rw [map_append]
    refine distinct.append (nodup_singleton _) ?_
    intro name isOld isName
    obtain ⟨other, isOther, rfl⟩ := mem_map.mp isOld
    apply isNew other isOther
    rw [beq_iff_eq]
    exact mem_singleton.mp isName

theorem Scheduler.register_running (scheduler : Scheduler) (command : ScheduleCommand) :
    (scheduler.register command).running = scheduler.running := by
  unfold Scheduler.register
  split <;> rfl

theorem Scheduler.ofCommands_ready (declared : List ScheduleCommand) :
    (Scheduler.ofCommands declared).running = [] ∧
    ((Scheduler.ofCommands declared).commands.map ScheduleCommand.command).Nodup := by
  unfold Scheduler.ofCommands
  induction declared using List.reverseRecOn with
  | nil => exact ⟨rfl, .nil⟩
  | append_singleton earlier command ih =>
    rw [foldl_append, foldl_cons]
    exact ⟨(Scheduler.register_running _ command).trans ih.1, Scheduler.register_nodup ih.2 command⟩

/-! ## The calls of a run -/

theorem minuteAfter_tickInstant (start : Int) (tick : Nat) :
    minuteAfter (tickInstant start tick) = minuteAfter start + tick * minute := by
  unfold minuteAfter truncated tickInstant tickInterval second minute
  omega

theorem minuteAfter_tickInstant_inj {start : Int} {tick other : Nat} :
    minuteAfter (tickInstant start tick) = minuteAfter (tickInstant start other) ↔ tick = other :=
      by
  rw [minuteAfter_tickInstant, minuteAfter_tickInstant]
  unfold minute
  omega

theorem Scheduler.mem_tick_calls (isIdle : scheduler.running = []) {call : Dispatch} :
    call ∈ (scheduler.tick zones dispatch paused now).calls ↔
      paused = false ∧
        ∃ command ∈ dispatchedAt zones dispatch now scheduler.commands,
          callAt now command = call := by
  unfold Scheduler.tick
  cases paused with
  | true => simp
  | false =>
    rw [if_neg Bool.false_ne_true, isIdle, (tickLoop_report zones dispatch now _ false).calls]
    simp

theorem mem_dispatchedAt {commands : List ScheduleCommand}
    (isMember : command ∈ dispatchedAt zones dispatch now commands) :
    command ∈ commands ∧ due zones now command = true :=
  mem_filter.mp ((upToFailure_sublist _ _).subset isMember)

theorem Scheduler.tick_calls_nodup (isIdle : scheduler.running = [])
    (distinct : (scheduler.commands.map ScheduleCommand.command).Nodup) :
    (scheduler.tick zones dispatch paused now).calls.Nodup := by
  unfold Scheduler.tick
  split
  · exact .nil
  · rw [isIdle, (tickLoop_report zones dispatch now _ false).calls]
    apply List.Nodup.of_map Dispatch.command
    rw [map_map]
    refine List.Nodup.sublist (List.Sublist.map _ ?_) distinct
    exact (upToFailure_sublist _ _).trans filter_sublist

theorem Scheduler.run_calls_nodup (zones : String → Option Zone)
    (dispatch : Nat → ScheduleCommand → Except ScheduleError Unit)
    (paused : Nat → Bool) (start : Int) (count : Nat) (isIdle : scheduler.running = [])
    (distinct : (scheduler.commands.map ScheduleCommand.command).Nodup) :
    (callsOf (scheduler.run zones dispatch paused start count).1).Nodup := by
  rw [Scheduler.run_eq zones dispatch paused start count isIdle, callsOf,
    flatMap_map, nodup_flatMap]
  constructor
  · intro tick _
    exact Scheduler.tick_calls_nodup isIdle distinct
  · refine nodup_range.imp ?_
    intro first later different call isFirst isLater
    obtain ⟨-, firstCommand, -, rfl⟩ := (Scheduler.mem_tick_calls isIdle).mp isFirst
    obtain ⟨-, laterCommand, -, same⟩ := (Scheduler.mem_tick_calls isIdle).mp isLater
    have sameTick := minuteAfter_tickInstant_inj.mp (congrArg Dispatch.dueAt same)
    exact different sameTick.symm

theorem mem_dispatchedAt_iff (fresh : command ∉ before) (isDue : due zones now command = true) :
    command ∈ dispatchedAt zones dispatch now (before ++ command :: after) ↔
      ∀ earlier ∈ before, due zones now earlier = true → dispatch earlier = .ok () := by
  unfold dispatchedAt
  rw [filter_append, filter_cons_of_pos isDue, mem_upToFailure
    fun isMember => fresh (mem_of_mem_filter isMember)]
  simp

variable {count : Nat}

theorem exists_tickInstant {start clock : Int} (lastSecond : LastSecond start)
    (whole : clock % minute = 0) (afterStart : start < clock)
    (beforeEnd : clock ≤ start + count * tickInterval) :
    ∃ tick < count,
      minuteAfter (tickInstant start tick) = clock ∧ LastSecond (tickInstant start tick) := by
  unfold LastSecond minuteAfter truncated minute second at lastSecond
  unfold minute at whole
  unfold tickInterval second at beforeEnd
  refine ⟨((clock - start) / 60000000000).toNat, by omega, ?_, ?_⟩
  · rw [minuteAfter_tickInstant]
    unfold minuteAfter truncated minute
    omega
  · unfold LastSecond
    unfold minuteAfter truncated tickInstant tickInterval minute second
    omega

variable {start : Int}

theorem Scheduler.mem_run_calls {dispatch : Nat → ScheduleCommand → Except ScheduleError Unit}
    {paused : Nat → Bool} (isIdle : scheduler.running = []) {call : Dispatch} :
    call ∈ callsOf (scheduler.run zones dispatch paused start count).1 ↔
      ∃ tick < count, paused tick = false ∧
        ∃ command ∈ dispatchedAt zones (dispatch tick) (tickInstant start tick) scheduler.commands,
          callAt (tickInstant start tick) command = call := by
  rw [Scheduler.run_eq zones dispatch paused start count isIdle, callsOf,
    flatMap_map, mem_flatMap]
  simp only [mem_range]
  exact exists_congr fun tick => and_congr_right fun _ => Scheduler.mem_tick_calls isIdle

theorem Scheduler.mem_run_calls_of_due
    {dispatch : Nat → ScheduleCommand → Except ScheduleError Unit}
    {paused : Nat → Bool} {count tick : Nat} (isIdle : scheduler.running = [])
    (distinct : (scheduler.commands.map ScheduleCommand.command).Nodup)
    (inRun : tick < count) (unpaused : paused tick = false)
    (isSplit : scheduler.commands = before ++ command :: after)
    (isDue : due zones (tickInstant start tick) command = true) :
    callAt (tickInstant start tick) command ∈
        callsOf (scheduler.run zones dispatch paused start count).1 ↔
      ∀ earlier ∈ before, due zones (tickInstant start tick) earlier = true →
        dispatch tick earlier = .ok () := by
  have fresh : command ∉ before := by
    intro isMember
    have split := distinct.of_map
    rw [isSplit] at split
    exact disjoint_of_nodup_append split isMember mem_cons_self
  have isCommand : command ∈ scheduler.commands := by
    rw [isSplit]
    exact mem_append_right _ mem_cons_self
  rw [Scheduler.mem_run_calls isIdle, ← mem_dispatchedAt_iff fresh isDue, ← isSplit]
  constructor
  · rintro ⟨other, -, -, found, isFound, same⟩
    obtain rfl := minuteAfter_tickInstant_inj.mp (congrArg Dispatch.dueAt same)
    rw [← inj_on_of_nodup_map distinct (mem_dispatchedAt isFound).1
      isCommand (congrArg Dispatch.command same)]
    exact isFound
  · intro isDispatched
    exact ⟨tick, inRun, unpaused, command, isDispatched, rfl⟩

theorem Scheduler.tick_failed (isIdle : scheduler.running = [])
    (distinct : (scheduler.commands.map ScheduleCommand.command).Nodup) (error : ScheduleError) :
    (scheduler.tick zones dispatch paused now).outcome = .error error ↔
      ∃ command ∈ scheduler.commands,
        callAt now command ∈ (scheduler.tick zones dispatch paused now).calls ∧
          dispatch command = .error error := by
  cases paused with
  | true => simp [Scheduler.tick]
  | false =>
    unfold Scheduler.tick
    have report := tickLoop_report zones dispatch now scheduler.commands false
    rw [if_neg Bool.false_ne_true, isIdle, report.failed error, report.calls]
    constructor
    · rintro ⟨command, isDispatched, fails⟩
      exact ⟨command, (mem_dispatchedAt isDispatched).1, mem_map_of_mem isDispatched, fails⟩
    · rintro ⟨command, isCommand, isCall, fails⟩
      obtain ⟨other, isDispatched, same⟩ := mem_map.mp isCall
      have sameCommand : other = command :=
        inj_on_of_nodup_map distinct (mem_dispatchedAt isDispatched).1
          isCommand (congrArg Dispatch.command same)
      subst sameCommand
      exact ⟨other, isDispatched, fails⟩

theorem Scheduler.run_dispatches (zones : String → Option Zone)
    (dispatch : Nat → ScheduleCommand → Except ScheduleError Unit)
    (paused : Nat → Bool) (start : Int) (count : Nat) (declared : List ScheduleCommand) :
    let scheduler := Scheduler.ofCommands declared
    let ticks := (scheduler.run zones dispatch paused start count).1
    -- a minute of the run is dispatched once, unless a command before failed
    (LastSecond start → ∀ clock, clock % minute = 0 → start < clock →
        clock ≤ start + count * tickInterval → ∃ tick < count, LastSecond (tickInstant start tick) ∧
          (∀ other, minuteAfter (tickInstant start other) = clock ↔ other = tick) ∧
          ∀ before command after,
            scheduler.commands = before ++ command :: after → command.zone zones = none →
            command.matchesMinute clock = true → paused tick = false →
            ((callsOf ticks).count ⟨command.command, clock⟩ = 1 ↔ ∀ earlier ∈ before,
                earlier.zone zones = none → earlier.matchesMinute clock = true →
                dispatch tick earlier = .ok ())) ∧
    -- never twice, and only minutes that match
    (∀ call ∈ callsOf ticks, (callsOf ticks).count call = 1 ∧ call.dueAt % minute = 0 ∧
        ∃ command ∈ scheduler.commands,
          command.command = call.command ∧ command.matchesMinute call.dueAt = true) ∧
    -- a failure ends its own tick with its error, and no other
    (ticks.length = count ∧ ∀ tick result, ticks[tick]? = some result →
        result = scheduler.tick zones (dispatch tick) (paused tick) (tickInstant start tick) ∧
        ∀ error, result.outcome = .error error ↔ ∃ command ∈ scheduler.commands,
              callAt (tickInstant start tick) command ∈ result.calls ∧
                dispatch tick command = .error error) := by
  intro scheduler ticks
  obtain ⟨isIdle, distinct⟩ := Scheduler.ofCommands_ready declared
  have calls_nodup : (callsOf ticks).Nodup :=
    Scheduler.run_calls_nodup zones dispatch paused start count isIdle distinct
  have isRun : ticks = (List.range count).map (scheduler.tickAt zones dispatch paused start) :=
    congrArg Prod.fst (Scheduler.run_eq zones dispatch paused start count isIdle)
  refine ⟨?_, ?_, ?_, ?_⟩
  · intro lastSecond clock whole afterStart beforeEnd
    obtain ⟨tick, inRun, isClock, isLast⟩ :=
      exists_tickInstant lastSecond whole afterStart beforeEnd
    subst isClock
    refine ⟨tick, inRun, isLast, fun _ => minuteAfter_tickInstant_inj, ?_⟩
    intro before command after isSplit inUtc isMatch unpaused
    have reached : callAt (tickInstant start tick) command ∈ callsOf ticks ↔ _ :=
      Scheduler.mem_run_calls_of_due isIdle distinct inRun unpaused isSplit
        ((due_iff zones _ command).mpr ⟨isLast, inUtc, isMatch⟩)
    rw [List.Nodup.count calls_nodup, ite_eq_left_iff]
    constructor
    · intro isOne earlier isEarlier earlierUtc earlierMatch
      refine reached.mp ?_ earlier isEarlier
        ((due_iff zones _ earlier).mpr ⟨isLast, earlierUtc, earlierMatch⟩)
      by_contra missing
      exact absurd (isOne missing) (by decide)
    · intro allOk missing
      refine absurd (reached.mpr ?_) missing
      intro earlier isEarlier isDue
      obtain ⟨-, earlierUtc, earlierMatch⟩ := (due_iff zones _ earlier).mp isDue
      exact allOk earlier isEarlier earlierUtc earlierMatch
  · intro call isCall
    obtain ⟨tick, -, -, command, isDispatched, rfl⟩ := (Scheduler.mem_run_calls isIdle).mp isCall
    obtain ⟨isCommand, isDue⟩ := mem_dispatchedAt isDispatched
    obtain ⟨-, -, isMatch⟩ := (due_iff zones _ command).mp isDue
    exact ⟨count_eq_one_of_mem calls_nodup isCall, minuteAfter_emod _,
      command, isCommand, rfl, isMatch⟩
  · rw [isRun, length_map, length_range]
  · intro tick result isResult
    rw [isRun, getElem?_map, Option.map_eq_some_iff] at isResult
    obtain ⟨index, isIndex, rfl⟩ := isResult
    obtain ⟨-, rfl⟩ := List.getElem?_eq_some_iff.mp isIndex
    rw [getElem_range]
    exact ⟨rfl, Scheduler.tick_failed isIdle distinct⟩

/-! ## Concrete runs -/

def everyMinute (command : String) : ScheduleCommand :=
  {
    command := command
    cron := "* * * * *"
    skipIfRunning := false
    timezone := none
  }

def noZones (_ : String) : Option Zone := none

theorem Scheduler.run_dispatches_twoMinutes :
    let scheduler := Scheduler.ofCommands [everyMinute "emails:send", everyMinute "logs:trim"]
    let ticks := (scheduler.run noZones (fun _ _ => .ok ()) (fun _ => false) (59 * second) 2).1
    (callsOf ticks).count ⟨"logs:trim", 2 * minute⟩ = 1 := by
  intro scheduler ticks
  obtain ⟨once, -⟩ := Scheduler.run_dispatches noZones (fun _ _ => .ok ()) (fun _ => false)
      (59 * second) 2 [everyMinute "emails:send", everyMinute "logs:trim"]
  obtain ⟨tick, -, -, -, counts⟩ :=
    once (by unfold LastSecond; decide) (2 * minute) (by decide) (by decide) (by decide)
  refine (counts [everyMinute "emails:send"] (everyMinute "logs:trim") []
    (by decide) rfl (by decide) rfl).mpr ?_
  intro earlier _ _ _
  rfl

/--
The calls of every tick at the start of a minute are none, and in a tick at
second 59 the command that fails first keeps the next one from its call.
-/
theorem Scheduler.run_misses :
    let scheduler := Scheduler.ofCommands [everyMinute "emails:send", everyMinute "logs:trim"]
    let early := (scheduler.run noZones (fun _ => dispatchCommand) (fun _ => false) 0 3).1
    let late :=
      (scheduler.run noZones (fun _ => dispatchCommand) (fun _ => false) (59 * second) 1).1
    (everyMinute "emails:send").matchesMinute minute = true ∧
      (everyMinute "logs:trim").matchesMinute minute = true ∧ callsOf early = [] ∧
      callsOf late = [⟨"emails:send", minute⟩] := by
  decide

end Rustasea.Schedule
