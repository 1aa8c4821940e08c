import Rustasea.Schedule.Cron

namespace Rustasea.Schedule

open List

/-!
# The schedule builder

The frequency calls write two fields of the builder, an expression and a daily
time, and the expression wins when the command is built.  A cron call clears the
daily time, a daily call leaves the expression, so an expression set before a
daily call is what runs.  The table of the zone names is a parameter.
-/

/-! ## Zone names -/

def aliases : List (String × String) :=
  [("PST", "America/Los_Angeles"), ("EST", "America/New_York"),
    ("CST", "America/Chicago"), ("MST", "America/Denver"),
    ("GMT", "Etc/GMT")]

def eqIgnoreAsciiCase (first second : String) : Bool :=
  first.toList.map Char.toLower == second.toList.map Char.toLower

/-- The name of the zone a text stands for, or why it stands for none. -/
def validateName (isZone : String → Bool) (name : String) : Except String String :=
  let trimmed := String.ofList (trim name.toList)
  if trimmed.isEmpty then .error "timezone name is empty"
  else
    let canonical :=
      ((aliases.find? fun entry => eqIgnoreAsciiCase entry.1 trimmed).map Prod.snd).getD trimmed
    if isZone canonical then .ok canonical
    else .error ("\x60" ++ trimmed ++ "\x60 is not a known IANA timezone")

/-- The name to store for a zone; a text that names none is refused. -/
def validateZone (isZone : String → Bool) (name : String) : Except ScheduleError String :=
  match validateName isZone name with
  | .ok canonical => .ok canonical
  | .error reason =>
    .error (.invalid
        ("invalid timezone \x60" ++ name ++ "\x60: " ++
          ("invalid timezone \x60" ++ name ++ "\x60: " ++ reason)))

/-! ## Entries -/

structure ScheduleEntry extends ScheduleCommand where
  frequency : String
  onOneServer : Bool
  every : Nat
  lockKey : String
  deriving DecidableEq

namespace ScheduleEntry

def ofCron
    (command expression : String) : Except ScheduleError ScheduleEntry := do
  let base ← ScheduleCommand.ofCron command expression
  return {
    base with
    frequency := "cron " ++ expression
    onOneServer := false
    every := 0
    lockKey := "schedule:lock:" ++ command }

end ScheduleEntry

/-- Parse an `HH:MM` wall-clock time into hour and minute. -/
def parseHhmm (time : String) : Except ScheduleError (Nat × Nat) :=
  match split (· = ':') time.toList with
  | [hour, minute] =>
    match parseU32 hour with
    | none => .error (.invalid ("daily time \x60" ++ time ++ "\x60 has a non-numeric hour"))
    | some hour =>
      match parseU32 minute with
      | none => .error (.invalid ("daily time \x60" ++ time ++ "\x60 has a non-numeric minute"))
      | some minute =>
        if 23 < hour ∨ 59 < minute then
          .error (.invalid ("daily time \x60" ++ time ++ "\x60 out of range (HH 0-23, MM 0-59)"))
        else .ok (hour, minute)
  | _ => .error (.invalid ("daily time \x60" ++ time ++ "\x60 must be HH:MM"))

def dailyExpression (time : String) : Except ScheduleError String := do
  let (hour, minute) ← parseHhmm time
  return toString minute ++ " " ++ toString hour ++ " * * *"

namespace ScheduleEntry

def dailyAt
    (command time : String) : Except ScheduleError ScheduleEntry := do
  let expression ← dailyExpression time
  let entry ← ofCron command expression
  return { entry with frequency := "daily at " ++ time }

/-- Evaluate the expression in the wall clock of a zone. -/
def withTimezone (isZone : String → Bool) (name : String)
    (entry : ScheduleEntry) : Except ScheduleError ScheduleEntry := do
  let canonical ← validateZone isZone name
  return { entry with timezone := some canonical }

end ScheduleEntry

/-! ## The builder -/

/-- Chainable frequency and modifier builder. -/
structure ScheduleBuilder where
  command : String
  cron : Option String
  dailyAt : Option String
  skipIfRunning : Bool
  onOneServer : Bool
  timezone : Option String
  deriving DecidableEq

/-- The calls of a chain; `at` is `atTime`. -/
inductive BuilderCall where
  | cron (expression : String)
  | daily
  | atTime (time : String)
  | everyMinute
  | timezone (name : String)
  | skipIfRunning
  | onOneServer
  | skipIfStillRunning

namespace ScheduleBuilder

def new (command : String) : ScheduleBuilder where
  command := command
  cron := none
  dailyAt := none
  skipIfRunning := false
  onOneServer := false
  timezone := none

/-- One call of a chain; a zone that is refused ends it. -/
def call (isZone : String → Bool) (builder : ScheduleBuilder) :
    BuilderCall → Except ScheduleError ScheduleBuilder
  | .cron expression => .ok { builder with cron := some expression, dailyAt := none }
  | .daily => .ok { builder with dailyAt := some "00:00" }
  | .atTime time => .ok { builder with dailyAt := some time }
  | .everyMinute => .ok { builder with cron := some "* * * * *", dailyAt := none }
  | .timezone name =>
    match validateZone isZone name with
    | .error error => .error error
    | .ok canonical => .ok { builder with timezone := some canonical }
  | .skipIfRunning => .ok { builder with skipIfRunning := true }
  | .onOneServer => .ok { builder with onOneServer := true }
  | .skipIfStillRunning => .ok { builder with skipIfRunning := true }

def chain (isZone : String → Bool) :
    List BuilderCall → ScheduleBuilder → Except ScheduleError ScheduleBuilder
  | [], builder => .ok builder
  | next :: rest, builder =>
    match builder.call isZone next with
    | .error error => .error error
    | .ok called => chain isZone rest called

/-- The entry of the frequency fields: an expression, or else a daily time. -/
def frequencyEntry (builder : ScheduleBuilder) : Except ScheduleError ScheduleEntry :=
  match builder.cron with
  | some expression => ScheduleEntry.ofCron builder.command expression
  | none => ScheduleEntry.dailyAt builder.command (builder.dailyAt.getD "00:00")

def build (isZone : String → Bool)
    (builder : ScheduleBuilder) : Except ScheduleError ScheduleEntry := do
  let entry ← builder.frequencyEntry
  let entry :=
    if builder.skipIfRunning then { entry with skipIfRunning := true }
    else entry
  let entry :=
    if builder.onOneServer then { entry with onOneServer := true }
    else entry
  match builder.timezone with
  | some name => entry.withTimezone isZone name
  | none => return entry

end ScheduleBuilder

def builtEntry (isZone : String → Bool) (command : String)
    (calls : List BuilderCall) : Except ScheduleError ScheduleEntry := do
  let builder ← ScheduleBuilder.chain isZone calls (.new command)
  builder.build isZone

/-! ## What the calls ask for -/

/-- What a frequency call asks for. -/
inductive Frequency where
  | cron (expression : String)
  | dailyAt (time : String)
  deriving DecidableEq

def Frequency.cron? : Frequency → Option String
  | .cron expression => some expression
  | .dailyAt _ => none

def Frequency.daily? : Frequency → Option String
  | .cron _ => none
  | .dailyAt time => some time

def BuilderCall.frequency? : BuilderCall → Option Frequency
  | .cron expression => some (.cron expression)
  | .daily => some (.dailyAt "00:00")
  | .atTime time => some (.dailyAt time)
  | .everyMinute => some (.cron "* * * * *")
  | .timezone _ | .skipIfRunning | .onOneServer | .skipIfStillRunning => none

def BuilderCall.skips : BuilderCall → Bool
  | .skipIfRunning | .skipIfStillRunning => true
  | _ => false

def BuilderCall.onOne : BuilderCall → Bool
  | .onOneServer => true
  | _ => false

/-- The zone of the last zone call, unless one of them is refused. -/
def lastZone (isZone : String → Bool) :
    List BuilderCall → Option String → Except ScheduleError (Option String)
  | [], zone => .ok zone
  | .timezone name :: rest, _ =>
    match validateZone isZone name with
    | .error error => .error error
    | .ok canonical => lastZone isZone rest (some canonical)
  | _ :: rest, zone => lastZone isZone rest zone

def frequencies (calls : List BuilderCall) : List Frequency :=
  calls.filterMap BuilderCall.frequency?

/-- The frequency of the last call that sets one; midnight without any. -/
def lastFrequency (calls : List BuilderCall) : Frequency :=
  (frequencies calls).getLast?.getD (.dailyAt "00:00")

def Frequency.entry (command : String) : Frequency → Except ScheduleError ScheduleEntry
  | .cron expression => ScheduleEntry.ofCron command expression
  | .dailyAt time => ScheduleEntry.dailyAt command time

/-- The entry that the last frequency call and the modifiers determine. -/
def determinedEntry (isZone : String → Bool) (command : String)
    (calls : List BuilderCall) : Except ScheduleError ScheduleEntry := do
  let zone ← lastZone isZone calls none
  let entry ← (lastFrequency calls).entry command
  return {
    entry with
    skipIfRunning := calls.any BuilderCall.skips
    onOneServer := calls.any BuilderCall.onOne
    timezone := zone }

/-! ## What a chain leaves -/

theorem lastCron_cons (frequency : Frequency) (rest : List Frequency) (before : Option String) :
    ((frequency :: rest).filterMap Frequency.cron?).getLast?.or before =
      (rest.filterMap Frequency.cron?).getLast?.or (frequency.cron?.or before) := by
  cases frequency with
  | cron expression =>
    simp only [filterMap_cons, Frequency.cron?, getLast?_cons]
    cases (rest.filterMap Frequency.cron?).getLast? <;> rfl
  | dailyAt time => rfl

def lastDaily (frequencies : List Frequency) (before : Option String) : Option String :=
  match frequencies.getLast? with
  | some frequency => frequency.daily?
  | none => before

theorem lastDaily_cons (frequency : Frequency) (rest : List Frequency) (before : Option String) :
    lastDaily (frequency :: rest) before = lastDaily rest frequency.daily? := by
  unfold lastDaily
  rw [getLast?_cons]
  cases rest.getLast? <;> rfl

/-- A builder after some calls: every field holds what was written to it last. -/
def ScheduleBuilder.after (builder : ScheduleBuilder) (calls : List BuilderCall)
    (zone : Option String) : ScheduleBuilder where
  command := builder.command
  cron := ((frequencies calls).filterMap Frequency.cron?).getLast?.or builder.cron
  dailyAt := lastDaily (frequencies calls) builder.dailyAt
  skipIfRunning := builder.skipIfRunning || calls.any BuilderCall.skips
  onOneServer := builder.onOneServer || calls.any BuilderCall.onOne
  timezone := zone

variable {frequency : Frequency} {builder called : ScheduleBuilder} {next : BuilderCall}

theorem ScheduleBuilder.after_frequency (sets : next.frequency? = some frequency)
    (isCalled : called =
        { builder with cron := frequency.cron?.or builder.cron, dailyAt := frequency.daily? })
    (plain : next.skips = false ∧ next.onOne = false) (rest : List BuilderCall)
    (zone : Option String) : called.after rest zone = builder.after (next :: rest) zone := by
  have split : frequencies (next :: rest) = frequency :: frequencies rest := by
    simp [frequencies, sets]
  unfold after
  rw [split, lastCron_cons, lastDaily_cons, any_cons, any_cons,
    plain.1, plain.2, isCalled, Bool.false_or, Bool.false_or]

theorem ScheduleBuilder.after_modifier (sets : next.frequency? = none)
    (isCalled : called =
        { builder with
          skipIfRunning := builder.skipIfRunning || next.skips
          onOneServer := builder.onOneServer || next.onOne
          timezone := called.timezone })
    (rest : List BuilderCall) (zone : Option String) :
    called.after rest zone = builder.after (next :: rest) zone := by
  have same : frequencies (next :: rest) = frequencies rest := by simp [frequencies, sets]
  unfold after
  rw [same, any_cons, any_cons, isCalled, Bool.or_assoc, Bool.or_assoc]

/-- A chain ends with every field as written last, or at a refused zone. -/
theorem ScheduleBuilder.chain_eq (isZone : String → Bool) (calls : List BuilderCall)
    (builder : ScheduleBuilder) :
    ScheduleBuilder.chain isZone calls builder =
      (lastZone isZone calls builder.timezone).map (builder.after calls) := by
  induction calls generalizing builder with
  | nil => simp [chain, lastZone, after, frequencies, lastDaily, Except.map]
  | cons next rest ih =>
    have continued
        {called : ScheduleBuilder}
        (sameZone :
          lastZone isZone (next :: rest) builder.timezone = lastZone isZone rest called.timezone)
        (sameAfter : ∀ zone, called.after rest zone = builder.after (next :: rest) zone) :
        ScheduleBuilder.chain isZone rest called =
          (lastZone isZone (next :: rest) builder.timezone).map (builder.after (next :: rest)) := by
      rw [ih, sameZone, funext sameAfter]
    unfold chain
    cases next with
    | cron expression | daily | atTime time | everyMinute =>
      refine continued rfl (after_frequency rfl ?_ ⟨rfl, rfl⟩ rest)
      rfl
    | timezone name =>
      cases isValid : validateZone isZone name with
      | error error => simp [call, lastZone, isValid, Except.map]
      | ok canonical =>
        simp only [call, isValid]
        refine continued ?_ (after_modifier rfl ?_ rest)
        · simp [lastZone, isValid]
        · simp [BuilderCall.skips, BuilderCall.onOne]
    | skipIfRunning | onOneServer | skipIfStillRunning =>
      refine continued rfl (after_modifier rfl ?_ rest)
      simp [BuilderCall.skips, BuilderCall.onOne]

/-! ## Zones once more -/

variable {isZone : String → Bool} {name canonical : String}

/-- The name stored for a zone stands for that zone. -/
theorem validateName_canonical (valid : validateName isZone name = .ok canonical) :
    validateName isZone canonical = .ok canonical := by
  -- A canonical name is trimmed, and no short name of a zone.
  have settled (isTrimmed : String.ofList (trim canonical.toList) = canonical)
      (nonempty : canonical.isEmpty = false)
      (noAlias : (aliases.find? fun entry => eqIgnoreAsciiCase entry.1 canonical) = none)
      (known : isZone canonical = true) :
      validateName isZone canonical = .ok canonical := by
    unfold validateName
    rw [isTrimmed]
    dsimp only
    rw [noAlias]
    simp [nonempty, known]
  unfold validateName at valid
  generalize isName : String.ofList (trim name.toList) = trimmed at valid
  dsimp only at valid
  split at valid
  · cases valid
  · next nonempty =>
    rw [Bool.not_eq_true] at nonempty
    cases isAlias : aliases.find? fun entry => eqIgnoreAsciiCase entry.1 trimmed with
    | none =>
      rw [isAlias] at valid
      dsimp only [Option.map_none, Option.getD_none] at valid
      split at valid
      · next known =>
        obtain rfl := Except.ok.inj valid
        refine settled ?_ nonempty isAlias known
        rw [← isName, String.toList_ofList, trim_trim]
      · cases valid
    | some entry =>
      rw [isAlias] at valid
      split at valid
      · next known =>
        obtain rfl := Except.ok.inj valid
        have targets : ∀ entry ∈ aliases,
              String.ofList (trim entry.2.toList) = entry.2 ∧ entry.2.isEmpty = false ∧
                  (aliases.find? fun other =>
                    eqIgnoreAsciiCase other.1 entry.2) = none := by
          decide
        obtain ⟨isTrimmed, isText, noAlias⟩ := targets entry (mem_of_find?_eq_some isAlias)
        exact settled isTrimmed isText noAlias known
      · cases valid

theorem validateZone_canonical (valid : validateZone isZone name = .ok canonical) :
    validateZone isZone canonical = .ok canonical := by
  unfold validateZone at valid
  split at valid
  · next isCanonical =>
    obtain rfl := Except.ok.inj valid
    rw [validateZone, validateName_canonical isCanonical]
  · cases valid

variable {calls : List BuilderCall}

theorem validateZone_lastZone {before : Option String} {name : String}
    (stored : ∀ zone, before = some zone → validateZone isZone zone = .ok zone)
    (isLast : lastZone isZone calls before = .ok (some name)) :
    validateZone isZone name = .ok name := by
  induction calls generalizing before with
  | nil => exact stored name (Except.ok.inj isLast)
  | cons next rest ih =>
    cases next with
    | timezone zone =>
      unfold lastZone at isLast
      split at isLast
      · cases isLast
      · next canonical valid =>
        apply ih ?_ isLast
        intro other isOther
        obtain rfl := Option.some.inj isOther
        exact validateZone_canonical valid
    | cron expression | daily | atTime time | everyMinute | skipIfRunning | onOneServer
    | skipIfStillRunning => exact ih stored isLast

/-! ## The last call -/

/-- An entry without its description, which tells how it was set. -/
def ScheduleEntry.withoutText (entry : ScheduleEntry) : ScheduleEntry :=
  { entry with frequency := "" }

/-- The frequency that a chain of calls runs at: an expression goes first. -/
def heededFrequency (calls : List BuilderCall) : Frequency :=
  match ((frequencies calls).filterMap Frequency.cron?).getLast? with
  | some expression => .cron expression
  | none => lastFrequency calls

def ScheduleEntry.modify (calls : List BuilderCall) (zone : Option String)
    (entry : ScheduleEntry) : ScheduleEntry :=
  { entry with
    skipIfRunning := calls.any BuilderCall.skips
    onOneServer := calls.any BuilderCall.onOne
    timezone := zone }

theorem ofCron_cases (command expression : String) :
    ScheduleEntry.ofCron command expression = .ok
          { command := command
            cron := expression
            skipIfRunning := false
            timezone := none
            frequency := "cron " ++ expression
            onOneServer := false
            every := 0
            lockKey := "schedule:lock:" ++ command } ∨
      ∃ reason,
        ScheduleEntry.ofCron command expression = .error (.invalidCron expression reason) := by
  unfold ScheduleEntry.ofCron ScheduleCommand.ofCron validateExpression
  dsimp only
  split
  · exact .inr ⟨_, rfl⟩
  · split
    · exact .inr ⟨_, rfl⟩
    · exact .inl rfl

theorem dailyExpression_error {time : String} {error : ScheduleError}
    (refused : dailyExpression time = .error error) : ∃ reason, error = .invalid reason := by
  unfold dailyExpression parseHhmm at refused
  repeat' split at refused
  all_goals
    first
      | exact ⟨_, (Except.error.inj refused).symm⟩
      | cases refused

theorem dailyAt_eq {command time expression : String}
    (isDaily : dailyExpression time = .ok expression) :
    ScheduleEntry.dailyAt command time =
      (ScheduleEntry.ofCron command expression).map fun entry =>
        { entry with frequency := "daily at " ++ time } := by
  unfold ScheduleEntry.dailyAt
  rw [isDaily]
  change (ScheduleEntry.ofCron command expression >>= fun entry => pure _) = _
  cases ScheduleEntry.ofCron command expression <;> rfl

theorem Frequency.entry_plain {command : String} {entry : ScheduleEntry}
    (isEntry : frequency.entry command = .ok entry) :
    entry.skipIfRunning = false ∧ entry.onOneServer = false ∧ entry.timezone = none := by
  have ofCron_plain
      {expression : String}
      {entry : ScheduleEntry}
      (isEntry : ScheduleEntry.ofCron command expression = .ok entry) :
      entry.skipIfRunning = false ∧ entry.onOneServer = false ∧ entry.timezone = none := by
    rcases ofCron_cases command expression with same | ⟨_, same⟩
    · rw [same] at isEntry
      obtain rfl := Except.ok.inj isEntry
      exact ⟨rfl, rfl, rfl⟩
    · rw [same] at isEntry
      cases isEntry
  cases frequency with
  | cron expression => exact ofCron_plain isEntry
  | dailyAt time =>
    change ScheduleEntry.dailyAt command time = _ at isEntry
    cases isDaily : dailyExpression time with
    | error error =>
      rw [ScheduleEntry.dailyAt, isDaily] at isEntry
      cases isEntry
    | ok expression =>
      rw [dailyAt_eq isDaily] at isEntry
      cases isCron : ScheduleEntry.ofCron command expression with
      | error error =>
        rw [isCron] at isEntry
        cases isEntry
      | ok base =>
        rw [isCron] at isEntry
        have plain := ofCron_plain isCron
        obtain rfl := Except.ok.inj isEntry
        exact plain

theorem ScheduleBuilder.build_eq {builder : ScheduleBuilder}
    (heeded : frequency =
        match builder.cron with
        | some expression => .cron expression
        | none => .dailyAt (builder.dailyAt.getD "00:00"))
    (stored : ∀ name, builder.timezone = some name → validateZone isZone name = .ok name) :
    builder.build isZone =
      (frequency.entry builder.command).map fun entry =>
        { entry with
          skipIfRunning := builder.skipIfRunning
          onOneServer := builder.onOneServer
          timezone := builder.timezone } := by
  have source : builder.frequencyEntry = frequency.entry builder.command := by
    rw [heeded, frequencyEntry]
    cases builder.cron <;> rfl
  unfold build
  rw [source]
  cases isEntry : frequency.entry builder.command with
  | error error => rfl
  | ok entry =>
    obtain ⟨noSkip, notOne, noZone⟩ := Frequency.entry_plain isEntry
    obtain ⟨base, description, onOne, every, lockKey⟩ := entry
    obtain ⟨name, cron, skip, zone⟩ := base
    obtain rfl : skip = false := noSkip
    obtain rfl : onOne = false := notOne
    obtain rfl : zone = none := noZone
    obtain ⟨command, cron?, daily?, skips, one, timezone⟩ := builder
    cases timezone with
    | none => cases skips <;> cases one <;> rfl
    | some zoneName =>
      have valid := stored zoneName rfl
      cases skips <;> cases one <;> simp [ScheduleEntry.withTimezone, valid] <;> rfl

theorem heededFrequency_eq (calls : List BuilderCall) :
    heededFrequency calls = match
        (((frequencies calls).filterMap Frequency.cron?).getLast?).or none with
      | some expression => .cron expression
      | none =>
        .dailyAt ((lastDaily (frequencies calls) none).getD "00:00") := by
  unfold heededFrequency
  cases isLast : ((frequencies calls).filterMap Frequency.cron?).getLast? with
  | some expression => rfl
  | none =>
    unfold lastFrequency lastDaily
    cases isFrequency : (frequencies calls).getLast? with
    | none => rfl
    | some frequency =>
      cases frequency with
      | dailyAt time => rfl
      | cron expression =>
        have isMember : expression ∈ (frequencies calls).filterMap Frequency.cron? :=
          mem_filterMap.mpr ⟨.cron expression, mem_of_getLast? isFrequency, rfl⟩
        rw [getLast?_eq_none_iff.mp isLast] at isMember
        exact absurd isMember not_mem_nil

theorem lastCron_of_last {expression : String} (isLast : lastFrequency calls = .cron expression) :
    ((frequencies calls).filterMap Frequency.cron?).getLast? = some expression := by
  unfold lastFrequency at isLast
  cases isFrequency : (frequencies calls).getLast? with
  | none =>
    rw [isFrequency] at isLast
    cases isLast
  | some frequency =>
    rw [isFrequency] at isLast
    subst isLast
    obtain ⟨earlier, shape⟩ := getLast?_eq_some_iff.mp isFrequency
    rw [shape, filterMap_append]
    exact getLast?_concat

variable {zone : Option String}

theorem builtEntry_eq (isLast : lastZone isZone calls none = .ok zone) (command : String) :
    builtEntry isZone command calls =
      ((heededFrequency calls).entry command).map (ScheduleEntry.modify calls zone) := by
  unfold builtEntry
  rw [ScheduleBuilder.chain_eq]
  have atStart : (ScheduleBuilder.new command).timezone = none := rfl
  rw [atStart, isLast]
  have stored : ∀ name, ((ScheduleBuilder.new command).after calls zone).timezone = some name →
      validateZone isZone name = .ok name := by
    rintro name rfl
    exact validateZone_lastZone (fun _ isSome => by cases isSome) isLast
  exact ScheduleBuilder.build_eq (heededFrequency_eq calls) stored

theorem determinedEntry_eq (isLast : lastZone isZone calls none = .ok zone) (command : String) :
    determinedEntry isZone command calls =
      ((lastFrequency calls).entry command).map (ScheduleEntry.modify calls zone) := by
  unfold determinedEntry
  rw [isLast]
  cases (lastFrequency calls).entry command <;> rfl

theorem entry_eq_iff (command expression time : String) (calls : List BuilderCall)
    (zone : Option String) :
    ((ScheduleEntry.ofCron command expression).map (ScheduleEntry.modify calls zone)).map
        ScheduleEntry.withoutText =
        ((ScheduleEntry.dailyAt command time).map (ScheduleEntry.modify calls zone)).map
          ScheduleEntry.withoutText ↔
      dailyExpression time = .ok expression := by
  cases isDaily : dailyExpression time with
  | error error =>
    obtain ⟨reason, rfl⟩ := dailyExpression_error isDaily
    have refused : ScheduleEntry.dailyAt command time = .error (.invalid reason) := by
      rw [ScheduleEntry.dailyAt, isDaily]
      rfl
    rw [refused]
    refine iff_of_false ?_ (fun same => by cases same)
    rcases ofCron_cases command expression with same | ⟨_, same⟩
    all_goals
      rw [same]
      intro equal
      cases equal
  | ok daily =>
    rw [dailyAt_eq isDaily, Except.ok.injEq]
    constructor
    · intro equal
      rcases ofCron_cases command expression with same | ⟨_, same⟩ <;>
        rcases ofCron_cases command daily with dailySame | ⟨_, dailySame⟩ <;>
          rw [same, dailySame] at equal
      · exact congrArg (fun entry : ScheduleEntry => entry.cron) (Except.ok.inj equal).symm
      · cases equal
      · cases equal
      · exact (ScheduleError.invalidCron.inj (Except.error.inj equal)).1.symm
    · rintro rfl
      cases ScheduleEntry.ofCron command daily <;> rfl


/--
A chain builds what its last frequency call and its modifiers determine exactly
when a zone in it is refused, or no daily time is set over an expression, or the
two come to the same expression.
-/
theorem builtEntry_eq_determined_iff
    (isZone : String → Bool) (command : String) (calls : List BuilderCall) :
    (builtEntry isZone command calls).map ScheduleEntry.withoutText =
        (determinedEntry isZone command calls).map ScheduleEntry.withoutText ↔
      (∃ error, lastZone isZone calls none = .error error) ∨
        ∀ expression time, lastFrequency calls = .dailyAt time →
          ((frequencies calls).filterMap Frequency.cron?).getLast? = some expression →
          dailyExpression time = .ok expression := by
  cases isLast : lastZone isZone calls none with
  | error error =>
    refine iff_of_true ?_ (.inl ⟨error, rfl⟩)
    have sameError : builtEntry isZone command calls = determinedEntry isZone command calls := by
      unfold builtEntry determinedEntry
      have atStart : (ScheduleBuilder.new command).timezone = none := rfl
      rw [ScheduleBuilder.chain_eq, atStart, isLast]
      rfl
    rw [sameError]
  | ok zone =>
    rw [builtEntry_eq isLast, determinedEntry_eq isLast, heededFrequency]
    cases isCron : ((frequencies calls).filterMap Frequency.cron?).getLast? with
    | none => exact iff_of_true rfl (.inr fun _ _ _ isSome => by cases isSome)
    | some expression =>
      cases isFrequency : lastFrequency calls with
      | cron other =>
        obtain rfl : other = expression :=
          Option.some.inj ((lastCron_of_last isFrequency).symm.trans isCron)
        refine iff_of_true rfl (.inr fun _ _ isDaily => ?_)
        cases isDaily
      | dailyAt time =>
        refine (entry_eq_iff command expression time calls zone).trans ?_
        constructor
        · rintro isDaily
          refine .inr fun other otherTime sameTime sameCron => ?_
          obtain rfl := Frequency.dailyAt.inj sameTime
          obtain rfl := Option.some.inj sameCron
          exact isDaily
        · rintro (⟨error, refused⟩ | isDaily)
          · cases refused
          · exact isDaily expression time rfl rfl

/-- A daily call after an expression leaves the expression in force. -/
theorem builtEntry_daily_ignored :
    (builtEntry (fun _ => true) "emails:send" [.cron "0 8 * * 1", .daily]).map
      (fun entry => entry.cron) = .ok "0 8 * * 1" ∧ (determinedEntry (fun _ => true) "emails:send"
      [.cron "0 8 * * 1", .daily]).map (fun entry => entry.cron) = .ok "0 0 * * *" := by
  decide +kernel

end Rustasea.Schedule
