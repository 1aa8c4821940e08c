import Mathlib.Data.List.Destutter
import Mathlib.Data.List.DropRight
import Mathlib.Data.List.Sort
import Rustasea.Library.PercentEncoding

namespace Rustasea.Schedule

open PercentEncoding (splitOnce)

/-!
# Scheduled commands and their next run

The five-field cron parser, the minute-by-minute scan and its mapping through a
time zone.  Instants are nanoseconds since the Unix epoch; a local wall clock is
counted the same way.  The zone database is a parameter.
-/

def second : Int := 1000000000

def minute : Int := 60000000000

inductive ScheduleError where
  | invalidCron (expression reason : String)
  | invalid (reason : String)
  | stateUnavailable (reason : String)
  | dispatch (reason : String)
  deriving DecidableEq

/-! ## The civil calendar -/

def epochDay (clock : Int) : Int := clock / (1440 * minute)

/-- Days since 1 March of the year 0, in the 400-year cycle. -/
def dayOfEra (clock : Int) : Nat := ((epochDay clock + 719468) % 146097).toNat

def dayOfMarchYear (clock : Int) : Nat :=
  let day := dayOfEra clock
  let year := (day - day / 1460 + day / 36524 - day / 146096) / 365
  day - (365 * year + year / 4 - year / 100)

def marchMonth (clock : Int) : Nat := (5 * dayOfMarchYear clock + 2) / 153

def dayOf (clock : Int) : Nat := dayOfMarchYear clock - (153 * marchMonth clock + 2) / 5 + 1

def monthOf (clock : Int) : Nat :=
  if marchMonth clock < 10 then marchMonth clock + 3
  else marchMonth clock - 9

def hourOf (clock : Int) : Nat := (clock / (60 * minute) % 24).toNat

def minuteOf (clock : Int) : Nat := (clock / minute % 60).toNat

def numDaysFromSunday (clock : Int) : Nat := ((epochDay clock + 4) % 7).toNat

def truncated (clock : Int) : Int := clock - clock % minute

example : (monthOf 946684799000000000, dayOf 946684799000000000,
      hourOf 946684799000000000, minuteOf 946684799000000000,
      numDaysFromSunday 946684799000000000) = (12, 31, 23, 59, 5) := by
  decide

/-! ## Text -/

/-- The characters of the Unicode property `White_Space`. -/
def isWhitespace (char : Char) : Bool :=
  let code := char.toNat
  (9 ≤ code && code ≤ 13) || code == 0x20 || code == 0x85 || code == 0xA0 ||
    code == 0x1680 || (0x2000 ≤ code && code ≤ 0x200A) || code == 0x2028 ||
    code == 0x2029 || code == 0x202F || code == 0x205F || code == 0x3000

/-- The pieces of a text between the characters that satisfy `separates`. -/
def split (separates : Char → Bool) : List Char → List (List Char)
  | [] => [[]]
  | char :: rest =>
    if separates char then [] :: split separates rest
    else
      match split separates rest with
      | [] => [[char]]
      | piece :: pieces => (char :: piece) :: pieces

def splitWhitespace (text : List Char) : List (List Char) :=
  (split isWhitespace text).filter fun piece => !piece.isEmpty

def trim (text : List Char) : List Char :=
  ((text.dropWhile isWhitespace).reverse.dropWhile isWhitespace).reverse

theorem length_trim_le (text : List Char) : (trim text).length ≤ text.length := by
  rw [trim, List.length_reverse]
  refine (List.dropWhile_sublist _).length_le.trans ?_
  rw [List.length_reverse]
  exact (List.dropWhile_sublist _).length_le

theorem trim_of_no_whitespace {text : List Char}
    (plain : ∀ char ∈ text, isWhitespace char = false) : trim text = text := by
  have kept : ∀ chars : List Char, (∀ char ∈ chars, isWhitespace char = false) →
      chars.dropWhile isWhitespace = chars := by
    intro chars none_
    cases chars with
    | nil => rfl
    | cons first rest =>
      rw [List.dropWhile_cons_of_neg]
      rw [none_ first List.mem_cons_self]
      exact Bool.false_ne_true
  rw [trim, kept text plain, kept _ fun char isIn => plain char (List.mem_reverse.mp isIn),
    List.reverse_reverse]

theorem trim_trim (text : List Char) : trim (trim text) = trim text := by
  have ends : trim text = (text.dropWhile isWhitespace).rdropWhile isWhitespace := rfl
  have begins : (trim text).dropWhile isWhitespace = trim text := by
    rw [List.dropWhile_eq_self_iff]
    intro nonempty
    have isPrefix : trim text <+: text.dropWhile isWhitespace :=
      ends ▸ List.rdropWhile_prefix isWhitespace _
    have sameHead := isPrefix.getElem nonempty
    rw [sameHead]
    exact List.dropWhile_get_zero_not isWhitespace text _
  have idempotent := List.rdropWhile_idempotent isWhitespace (text.dropWhile isWhitespace)
  rw [← ends] at idempotent
  calc
    trim (trim text) = ((trim text).dropWhile isWhitespace).rdropWhile isWhitespace := rfl
    _ = trim text := by rw [begins, idempotent]

/-- The digits of a number, with no overflow of 32 bits. -/
def parseDigits (value : Nat) : List Char → Option Nat
  | [] => some value
  | char :: rest =>
    if char.isDigit then
      let next := value * 10 + (char.toNat - 48)
      if next < 4294967296 then parseDigits next rest
      else none
    else none

/-- `str::parse::<u32>`: an optional plus sign and at least one digit. -/
def parseU32 : List Char → Option Nat
  | [] => none
  | ['+'] => none
  | '+' :: digits => parseDigits 0 digits
  | digits => parseDigits 0 digits

/-! ## Fields -/

/-- The loop of a step: `high` bounds it, and the addition wraps at 32 bits. -/
@[grind =] def stepValues (step high : Nat) : Nat → Nat → List Nat
  | 0, _ => []
  | fuel + 1, value =>
    if value ≤ high then value :: stepValues step high fuel ((value + step) % 4294967296)
    else []

def stepBounds (base : List Char) (min max : Nat) : Option (Nat × Nat) :=
  if base = ['*'] then some (min, max)
  else
    match splitOnce '-' base with
    | some (low, high) => do
      let low ← parseU32 low
      let high ← parseU32 high
      return (low, high)
    | none => do
      let single ← parseU32 base
      return (single, max)

def parsePart (min max : Nat) (part : List Char) : Option (List Nat) :=
  if part = ['*'] then some (List.range' min (max + 1 - min))
  else
    match splitOnce '/' part with
    | some (base, step) => do
      let step ← parseU32 step
      let (low, high) ← stepBounds base min max
      return stepValues (Nat.max step 1) (Nat.min high max) (Nat.min high max + 1) (Nat.max low min)
    | none =>
      match splitOnce '-' part with
      | some (low, high) => do
        let low ← parseU32 low
        let high ← parseU32 high
        return (List.range' low (Nat.min high max + 1 - low)).filter
          fun value => decide (min ≤ value)
      | none => do
        let value ← parseU32 part
        if min ≤ value ∧ value ≤ max then return [value]
        else none

def parseField (field : List Char) (min max : Nat) :
    Option (List Nat) := do
  let parts ← (split (· = ',') field).mapM fun part => parsePart min max (trim part)
  return (parts.flatten.insertionSort (· ≤ ·)).destutter (· ≠ ·)

/-- The values the five fields of an expression allow. -/
structure CronFields where
  minutes : List Nat
  hours : List Nat
  days : List Nat
  months : List Nat
  weekdays : List Nat

/-- The fields of an expression; anything but five fields is refused. -/
def parseExpression (expression : String) : Option CronFields :=
  match splitWhitespace expression.toList with
  | [minutes, hours, days, months, weekdays] => do
    let minutes ← parseField minutes 0 59
    let hours ← parseField hours 0 23
    let days ← parseField days 1 31
    let months ← parseField months 1 12
    let weekdays ← parseField weekdays 0 6
    return { minutes, hours, days, months, weekdays }
  | _ => none

/-- Whether day-of-month is unrestricted, letting day-of-week drive. -/
def isDomUnrestricted (days : List Nat) : Bool := decide (31 ≤ days.length)

def fieldsMatch (clock : Int) (fields : CronFields) : Bool :=
  let domOk := fields.days.contains (dayOf clock) ||
      (isDomUnrestricted fields.days && fields.weekdays.contains (numDaysFromSunday clock))
  domOk && fields.months.contains (monthOf clock) && fields.hours.contains (hourOf clock) &&
    fields.minutes.contains (minuteOf clock)

/-! ## The next run -/

/-- What a wall-clock time of a zone stands for. -/
inductive LocalResult where
  | none
  | single (instant : Int)
  | ambiguous (earliest latest : Int)

/-- A zone: its wall clock at an instant, and the instants of a wall clock. -/
structure Zone where
  toLocal : Int → Int
  fromLocal : Int → LocalResult

/-- The first occurrence of a local time at or after `start`. -/
def Zone.occurrence (zone : Zone) (start clock : Int) : Option Int :=
  match zone.fromLocal clock with
  | .none => none
  | .single instant => if start ≤ instant then some instant else none
  | .ambiguous earliest latest =>
    if start ≤ earliest then some earliest
    else if start ≤ latest then some latest
    else none

def scanLimit : Nat := 366 * 24 * 60

def scanUtc (fields : CronFields) : Nat → Int → Option Int
  | 0, _ => none
  | steps + 1, cursor =>
    if fieldsMatch cursor fields then some cursor
    else scanUtc fields steps (cursor + minute)

def scanLocal (zone : Zone) (fields : CronFields) (start : Int) : Nat → Int → Option Int
  | 0, _ => none
  | steps + 1, cursor =>
    let found :=
      if fieldsMatch cursor fields then zone.occurrence start cursor
      else none
    match found with
    | some instant => some instant
    | none => scanLocal zone fields start steps (cursor + minute)

def nextCronMatchIn (expression : String) (reference : Int) (zone? : Option Zone) :
    Option Int := do
  let fields ← parseExpression expression
  let start := reference + minute
  match zone? with
  | none => scanUtc fields scanLimit (truncated start)
  | some zone => scanLocal zone fields start scanLimit (truncated (zone.toLocal start))

structure ScheduleCommand where
  command : String
  cron : String
  skipIfRunning : Bool
  timezone : Option String
  deriving DecidableEq

def validateExpression (expression : String) : Except ScheduleError Unit :=
  let fields := splitWhitespace expression.toList
  if fields.length ≠ 5 then
    .error (.invalidCron expression "expected 5 fields (min hour dom month dow)")
  else if fields.any List.isEmpty then .error (.invalidCron expression "empty field")
  else .ok ()

def ScheduleCommand.ofCron (command expression : String) :
    Except ScheduleError ScheduleCommand := do
  validateExpression expression
  return { command, cron := expression, skipIfRunning := false, timezone := none }

def ScheduleCommand.everyMinute (command : String) : Except ScheduleError ScheduleCommand :=
  ScheduleCommand.ofCron command "* * * * *"

/-- The zone of a command; an unknown name falls back to UTC. -/
def ScheduleCommand.zone (zones : String → Option Zone) (command : ScheduleCommand) : Option Zone :=
  command.timezone.bind zones

/-- The next UTC instant that matches the command's expression. -/
def ScheduleCommand.nextRun (zones : String → Option Zone) (command : ScheduleCommand)
    (reference : Int) : Option Int :=
  nextCronMatchIn command.cron reference (command.zone zones)

def ScheduleCommand.matchesMinute (command : ScheduleCommand) (clock : Int) : Bool :=
  match parseExpression command.cron with
  | none => false
  | some fields => fieldsMatch clock fields

/-! ## What a scan finds -/

variable {fields : CronFields} {steps : Nat}

theorem scanUtc_some {cursor found : Int} (isFound : scanUtc fields steps cursor = some found) :
    (found = cursor ∧ fieldsMatch cursor fields = true) ∨ cursor + minute ≤ found := by
  induction steps generalizing cursor with
  | zero => simp [scanUtc] at isFound
  | succ steps ih =>
    rw [scanUtc] at isFound
    split at isFound
    · next isMatch => exact .inl ⟨(Option.some.inj isFound).symm, isMatch⟩
    · rcases ih isFound with ⟨rfl, -⟩ | later
      · exact .inr (Int.le_refl _)
      · refine .inr (Int.le_trans ?_ later)
        exact Int.le_add_of_nonneg_right (by decide)

variable {cursor : Int}

theorem scanUtc_of_match (positive : 0 < steps) (isMatch : fieldsMatch cursor fields = true) :
    scanUtc fields steps cursor = some cursor := by
  cases steps with
  | zero => exact absurd positive (Nat.lt_irrefl 0)
  | succ steps => rw [scanUtc, if_pos isMatch]

variable {zone : Zone}

theorem Zone.occurrence_some {start clock found : Int}
    (isFound : zone.occurrence start clock = some found) : start ≤ found := by
  unfold Zone.occurrence at isFound
  split at isFound
  · cases isFound
  · split at isFound
    · next reached =>
      cases isFound
      exact reached
    · cases isFound
  · split at isFound
    · next reached =>
      cases isFound
      exact reached
    · split at isFound
      · next reached =>
        cases isFound
        exact reached
      · cases isFound

theorem scanLocal_some {start found : Int}
    (isFound : scanLocal zone fields start steps cursor = some found) : start ≤ found := by
  induction steps generalizing cursor with
  | zero => simp [scanLocal] at isFound
  | succ steps ih =>
    rw [scanLocal] at isFound
    split at isFound
    · next instant isOccurrence =>
      cases isFound
      split at isOccurrence
      · exact Zone.occurrence_some isOccurrence
      · cases isOccurrence
    · exact ih isFound

/-! ## The step loop ends -/

private def stepsLeft (step high value : Nat) : Nat :=
  if high < value then 0
  else if step + high < 4294967296 then high + 1 - value
  else value + 1

private theorem stepsLeft_step {step high value : Nat} (positive : 0 < step)
    (inRange : step < 4294967296) (highSmall : high < 2147483648) (within : value ≤ high) :
    stepsLeft step high ((value + step) % 4294967296) < stepsLeft step high value := by
  have high_lt (number : Nat) (above : high < number) : stepsLeft step high number = 0 :=
    if_pos above
  have current : stepsLeft step high value =
      if step + high < 4294967296 then high + 1 - value else value + 1 :=
    if_neg (Nat.not_lt.mpr within)
  by_cases noWrap : step + high < 4294967296
  · rw [current, if_pos noWrap, Nat.mod_eq_of_lt (by omega)]
    by_cases above : high < value + step
    · rw [high_lt _ above]
      omega
    · rw [stepsLeft, if_neg above, if_pos noWrap]
      omega
  · rw [current, if_neg noWrap]
    by_cases wraps : value + step < 4294967296
    · -- a step this long leaves the loop at once unless it wraps
      rw [high_lt _ (by omega)]
      omega
    · have back : (value + step) % 4294967296 = value + step - 4294967296 := by omega
      rw [stepsLeft, if_neg (by omega), if_neg noWrap]
      omega

theorem stepValues_of_le {step high fuel value : Nat} (positive : 0 < step)
    (inRange : step < 4294967296) (highSmall : high < 2147483648) (enough : high + 1 ≤ fuel) :
    stepValues step high fuel value = stepValues step high (high + 1) value := by
  have settled (fuel other value : Nat) (enough : stepsLeft step high value ≤ fuel)
      (alsoEnough : stepsLeft step high value ≤ other) :
      stepValues step high fuel value = stepValues step high other value := by
    induction fuel generalizing other value with
    | zero =>
      have outside : high < value := by
        unfold stepsLeft at enough
        split at enough
        · assumption
        · split at enough <;> omega
      cases other with
      | zero => rfl
      | succ other => rw [stepValues, stepValues, if_neg (by omega)]
    | succ fuel ih =>
      by_cases within : value ≤ high
      · have smaller := stepsLeft_step positive inRange highSmall within
        cases other with
        | zero => omega
        | succ other =>
          rw [stepValues, stepValues, if_pos within, if_pos within,
            ih other _ (by omega) (by omega)]
      · cases other with
        | zero => rw [stepValues, stepValues, if_neg within]
        | succ other => rw [stepValues, stepValues, if_neg within, if_neg within]
  have bounded : stepsLeft step high value ≤ high + 1 := by
    unfold stepsLeft
    split
    · omega
    · split <;> omega
  exact settled fuel (high + 1) value (by omega) bounded

theorem stepValues_settled : stepValues 7 59 100 3 = stepValues 7 59 60 3 :=
  stepValues_of_le (by decide) (by decide) (by decide) (by decide)

end Rustasea.Schedule
