import Rustasea.Schedule.CronCalendar
import Rustasea.Schedule.CronFields
import Rustasea.Schedule.ZoneScan

namespace Rustasea.Schedule

/-!
# The next match of an expression

Under cron semantics both day fields must allow a date unless both are restricted:
then either may.  The search tests the day of the month only, and it ends after
366 days, so it returns the next match from every start exactly when that test
and the semantics agree at every slot of the calendar, and the expression is not
limited to 29 February.
-/

/-! ## Cron semantics -/

/-- What the five fields of an expression mean. -/
structure CronMeaning where
  minutes : List Progression
  hours : List Progression
  days : List Progression
  months : List Progression
  weekdays : List Progression
  deriving DecidableEq

def expressionMeaning (expression : String) : Option CronMeaning :=
  match splitWhitespace expression.toList with
  | [minutes, hours, days, months, weekdays] => do
    let minutes ← fieldMeaning 0 59 minutes
    let hours ← fieldMeaning 0 23 hours
    let days ← fieldMeaning 1 31 days
    let months ← fieldMeaning 1 12 months
    let weekdays ← fieldMeaning 0 6 weekdays
    return { minutes, hours, days, months, weekdays }
  | _ => none

/-- A field is restricted unless it allows all its values. -/
def Restricted (min max : Nat) (progressions : List Progression) : Prop :=
  ∃ value, min ≤ value ∧ value ≤ max ∧ ¬Allows progressions value

namespace CronMeaning

/-- Both day fields allow the slot, or one of two that are restricted. -/
def AllowsDay (meaning : CronMeaning) (slot : Slot) : Prop :=
  (Allows meaning.days slot.day ∧ Allows meaning.weekdays slot.weekday) ∨
    (Restricted 1 31 meaning.days ∧ Restricted 0 6 meaning.weekdays ∧
      (Allows meaning.days slot.day ∨ Allows meaning.weekdays slot.weekday))

structure AllowsSlot (meaning : CronMeaning) (slot : Slot) : Prop where
  minute : Allows meaning.minutes slot.minute
  hour : Allows meaning.hours slot.hour
  month : Allows meaning.months slot.month
  day : meaning.AllowsDay slot

end CronMeaning

def CronMatches (expression : String) (clock : Int) : Prop :=
  ∃ meaning, expressionMeaning expression = some meaning ∧ meaning.AllowsSlot (slotOf clock)

/-- A result is the first whole minute after the start that matches. -/
def IsNext (expression : String) (reference : Int) : Option Int → Prop
  | some found =>
    found % minute = 0 ∧ reference < found ∧ CronMatches expression found ∧ ∀ other,
          other % minute = 0 → reference < other → CronMatches expression other → found ≤ other
  | none =>
    ∀ other, other % minute = 0 → reference < other → ¬CronMatches expression other

/-! ## What the search tests -/

def CronFields.allows (fields : CronFields) (slot : Slot) : Bool :=
  (fields.days.contains slot.day ||
      (isDomUnrestricted fields.days && fields.weekdays.contains slot.weekday)) &&
    fields.months.contains slot.month &&
      fields.hours.contains slot.hour && fields.minutes.contains slot.minute

theorem fieldsMatch_eq (fields : CronFields) (clock : Int) :
    fieldsMatch clock fields = fields.allows (slotOf clock) :=
  rfl

structure ExpressionRead (fields : CronFields) (meaning : CronMeaning) : Prop where
  minutes : FieldRead 0 59 fields.minutes meaning.minutes
  hours : FieldRead 0 23 fields.hours meaning.hours
  days : FieldRead 1 31 fields.days meaning.days
  months : FieldRead 1 12 fields.months meaning.months
  weekdays : FieldRead 0 6 fields.weekdays meaning.weekdays

theorem parseExpression_cases (expression : String) :
    (parseExpression expression = none ∧ expressionMeaning expression = none) ∨
    ∃ fields meaning, parseExpression expression = some fields ∧
        expressionMeaning expression = some meaning ∧ ExpressionRead fields meaning := by
  unfold parseExpression expressionMeaning
  generalize splitWhitespace expression.toList = texts
  rcases texts with _ | ⟨minutes, _ | ⟨hours, _ | ⟨days, _ | ⟨months, _ | ⟨weekdays, _ | ⟨_, _⟩⟩⟩⟩⟩⟩
  case cons.cons.cons.cons.cons.nil =>
    rcases parseField_cases 0 59 (by decide) minutes with
      ⟨unread, noMeaning⟩ | ⟨minuteValues, minuteMeaning, minutesRead, minutesMean, isMinutes⟩
    · exact .inl ⟨by simp [unread], by simp [noMeaning]⟩
    rcases parseField_cases 0 23 (by decide) hours with
      ⟨unread, noMeaning⟩ | ⟨hourValues, hourMeaning, hoursRead, hoursMean, isHours⟩
    · exact .inl ⟨by simp [unread], by simp [noMeaning]⟩
    rcases parseField_cases 1 31 (by decide) days with
      ⟨unread, noMeaning⟩ | ⟨dayValues, dayMeaning, daysRead, daysMean, isDays⟩
    · exact .inl
        ⟨by simp [unread], by simp [noMeaning]⟩
    rcases parseField_cases 1 12 (by decide) months with
      ⟨unread, noMeaning⟩ | ⟨monthValues, monthMeaning, monthsRead, monthsMean, isMonths⟩
    · exact .inl
        ⟨by simp [hoursRead, daysRead, unread],
          by simp [hoursMean, daysMean, noMeaning]⟩
    rcases parseField_cases 0 6 (by decide) weekdays with
      ⟨unread, noMeaning⟩ | ⟨weekdayValues, weekdayMeaning, weekdaysRead, weekdaysMean, isWeekdays⟩
    · exact .inl
        ⟨by simp [hoursRead, daysRead, unread],
          by simp [hoursMean, daysMean, noMeaning]⟩
    refine .inr
      ⟨.mk minuteValues hourValues dayValues monthValues weekdayValues,
        .mk minuteMeaning hourMeaning dayMeaning monthMeaning
          weekdayMeaning, ?_, ?_, isMinutes, isHours, isDays, isMonths,
        isWeekdays⟩
    · simp [minutesRead, hoursRead, daysRead, monthsRead, weekdaysRead]
    · simp [minutesMean, hoursMean, daysMean, monthsMean, weekdaysMean]
  all_goals exact .inl ⟨rfl, rfl⟩

/-! ## The whole minutes of a search -/

theorem start_le_of_after {reference other : Int} (whole : other % minute = 0)
    (after : reference < other) : truncated (reference + minute) ≤ other := by
  unfold truncated minute at *
  omega

theorem start_after (reference : Int) :
    truncated (reference + minute) % minute = 0 ∧ reference < truncated (reference + minute) := by
  unfold truncated minute
  omega

theorem exists_index {start other : Int} (startWhole : start % minute = 0)
    (whole : other % minute = 0) (reached : start ≤ other) :
    ∃ index : Nat,
      other = start + index * minute ∧ (other < start + 366 * daySpan → index < scanLimit) := by
  refine ⟨((other - start) / minute).toNat, ?_, ?_⟩
  · unfold minute at *
    omega
  · unfold scanLimit
    unfold daySpan minute at *
    omega

variable {expression : String} {fields : CronFields}

theorem nextCronMatchIn_some_iff (isRead : parseExpression expression = some fields)
    (reference found : Int) :
    nextCronMatchIn expression reference none = some found ↔
      ∃ index < scanLimit, found = truncated (reference + minute) + index * minute ∧
        fields.allows (slotOf found) = true ∧
        ∀ earlier < index,
          fields.allows (slotOf (truncated (reference + minute) + earlier * minute)) = false := by
  unfold nextCronMatchIn
  rw [isRead, Option.bind_eq_bind, Option.bind_some]
  dsimp only
  rw [scanUtc_eq_first, BoundedScan.first_eq_some_iff]
  simp only [iterate_minute, matchUtc, fieldsMatch_eq]
  refine exists_congr fun index => and_congr_right fun _ => ?_
  constructor
  · rintro ⟨isFound, none⟩
    split at isFound
    · next passes =>
      obtain rfl := Option.some.inj isFound
      refine ⟨rfl, passes, fun earlier isEarlier => ?_⟩
      have isNone := none earlier isEarlier
      split at isNone
      · cases isNone
      · next fails => exact Bool.not_eq_true _ ▸ fails
    · cases isFound
  · rintro ⟨rfl, passes, none⟩
    refine ⟨if_pos passes, fun earlier isEarlier => ?_⟩
    rw [none earlier isEarlier]
    rfl

theorem nextCronMatchIn_none_iff
    (isRead : parseExpression expression = some fields) (reference : Int) :
    nextCronMatchIn expression reference none = none ↔
      ∀ index < scanLimit,
        fields.allows (slotOf (truncated (reference + minute) + index * minute)) = false := by
  unfold nextCronMatchIn
  rw [isRead, Option.bind_eq_bind, Option.bind_some]
  dsimp only
  rw [scanUtc_eq_first, BoundedScan.first_eq_none_iff]
  simp only [iterate_minute, matchUtc, fieldsMatch_eq]
  refine forall₂_congr fun index _ => ?_
  split
  · next passes => simp [passes]
  · next fails => simpa using fails

/-! ## When the search is right -/

/-- The test of the search agrees with the semantics at every slot. -/
def SlotsAgree (meaning : CronMeaning) (fields : CronFields) : Prop :=
  ∀ slot : Slot, slot.Valid → (meaning.AllowsSlot slot ↔ fields.allows slot = true)

/-- An expression that allows a slot allows one that is not on 29 February. -/
def ComesYearly (meaning : CronMeaning) : Prop :=
  (∃ slot : Slot, slot.Valid ∧ meaning.AllowsSlot slot) →
    ∃ slot : Slot, slot.Valid ∧ meaning.AllowsSlot slot ∧ ¬slot.OnLeapDay

theorem exists_earlyDay {days : List Nat} {progressions : List Progression}
    (isRead : FieldRead 1 31 days progressions)
    (unrestricted : isDomUnrestricted days = true) : ∃ day ∈ days, 1 ≤ day ∧ day ≤ 28 := by
  by_contra noneEarly
  have late : days ⊆ [0, 29, 30, 31] := by
    intro day isDay
    obtain ⟨progression, isMember, pushed⟩ := (isRead.mem_iff day).mp isDay
    have atMost := Progression.le_of_mem_run pushed
    have bounds := isRead.fits progression isMember
    have notEarly : ¬(1 ≤ day ∧ day ≤ 28) := fun early => noneEarly ⟨day, isDay, early⟩
    simp only [List.mem_cons]
    omega
  have distinct : days.Nodup := isRead.ascending.imp fun before => Nat.ne_of_lt before
  have few := (List.subperm_of_subset distinct late).length_le
  have many : 31 ≤ days.length := of_decide_eq_true unrestricted
  simp only [List.length_cons, List.length_nil] at few
  omega

variable {meaning : CronMeaning} {slot : Slot}

theorem exists_anyWeekday (isRead : ExpressionRead fields meaning) (valid : slot.Valid)
    (notLeapDay : ¬slot.OnLeapDay) (passes : fields.allows slot = true) :
    ∃ other : Slot, other.Valid ∧ ¬other.OnLeapDay ∧
      ∀ same : Slot, same.SameTime other → fields.allows same = true := by
  unfold CronFields.allows at passes
  simp only [Bool.and_eq_true, Bool.or_eq_true, List.contains_eq_mem, decide_eq_true_eq] at passes
  obtain ⟨⟨⟨isDay, isMonth⟩, isHour⟩, isMinute⟩ := passes
  -- A listed day passes whatever the weekday.
  have listed (day : Nat) (isListed : day ∈ fields.days) : ∀ same : Slot,
      same.SameTime { slot with day := day } → fields.allows same = true := by
    intro same ⟨sameMonth, sameDay, sameHour, sameMinute⟩
    simp [CronFields.allows, sameMonth, sameDay, sameHour, sameMinute,
      isListed, isMonth, isHour, isMinute]
  rcases isDay with isListed | ⟨unrestricted, -⟩
  · exact ⟨slot, valid, notLeapDay, listed slot.day isListed⟩
  · obtain ⟨day, isListed, first, early⟩ := exists_earlyDay isRead.days unrestricted
    refine ⟨{ slot with day := day }, ?_, ?_, listed day isListed⟩
    · refine { valid with day := ⟨first, ?_⟩ }
      dsimp only
      unfold longestMonth
      split_ifs <;> omega
    · rintro ⟨-, isLast⟩
      dsimp only at isLast
      omega

theorem cronMatches_iff (means : expressionMeaning expression = some meaning) (clock : Int) :
    CronMatches expression clock ↔ meaning.AllowsSlot (slotOf clock) := by
  unfold CronMatches
  rw [means]
  simp

theorem isNext_of_agree (isRead : parseExpression expression = some fields)
    (means : expressionMeaning expression = some meaning) (reads : ExpressionRead fields meaning)
    (agree : SlotsAgree meaning fields) (yearly : ComesYearly meaning) (reference : Int) :
    IsNext expression reference (nextCronMatchIn expression reference none) := by
  obtain ⟨startWhole, startAfter⟩ := start_after reference
  have tested (clock : Int) : CronMatches expression clock ↔ fields.allows (slotOf clock) = true :=
    (cronMatches_iff means clock).trans (agree _ (slotOf_valid clock))
  cases isFound : nextCronMatchIn expression reference none with
  | some found =>
    obtain ⟨index, -, isIndex, passes, earlierFail⟩ :=
      (nextCronMatchIn_some_iff isRead reference found).mp isFound
    refine ⟨?_, ?_, (tested found).mpr passes, ?_⟩
    · unfold minute at *
      omega
    · unfold minute at *
      omega
    · intro other whole after isMatch
      obtain ⟨otherIndex, isOther, -⟩ :=
        exists_index startWhole whole (start_le_of_after whole after)
      by_contra isEarlier
      have earlier : otherIndex < index := by
        unfold minute at *
        omega
      have fails := earlierFail otherIndex earlier
      rw [← isOther, (tested other).mp isMatch] at fails
      cases fails
  | none =>
    intro other whole after isMatch
    -- Some minute of the 366 days passes as well.
    obtain ⟨slot, valid, allowed, notLeapDay⟩ := yearly
        ⟨slotOf other, slotOf_valid other, (cronMatches_iff means other).mp isMatch⟩
    obtain ⟨yearlySlot, yearlyValid, yearlyNot, anyWeekday⟩ :=
      exists_anyWeekday reads valid notLeapDay ((agree slot valid).mp allowed)
    obtain ⟨clock, ⟨clockWhole, sameTime⟩, reached, within⟩ :=
      exists_showsTime yearlyValid yearlyNot (truncated (reference + minute))
    obtain ⟨index, isIndex, inScan⟩ := exists_index startWhole clockWhole reached
    have fails := (nextCronMatchIn_none_iff isRead reference).mp isFound index (inScan within)
    rw [← isIndex, anyWeekday _ sameTime] at fails
    cases fails

theorem slotsAgree_of_isNext (isRead : parseExpression expression = some fields)
    (means : expressionMeaning expression = some meaning) (isNext :
      ∀ reference, IsNext expression reference (nextCronMatchIn expression reference none)) :
    SlotsAgree meaning fields := by
  intro slot valid
  obtain ⟨clock, whole, -, rfl⟩ := exists_slotOf valid
  rw [← cronMatches_iff means]
  -- The search that starts a minute before looks at this minute first.
  have first : truncated (clock - minute + minute) = clock := by
    unfold truncated minute at *
    omega
  have right := isNext (clock - minute)
  have before : clock - minute < clock := by
    unfold minute
    omega
  constructor
  · intro isMatch
    cases isFound : nextCronMatchIn expression (clock - minute) none with
    | none =>
      rw [isFound] at right
      exact absurd isMatch (right clock whole before)
    | some found =>
      rw [isFound] at right
      obtain ⟨-, -, -, least⟩ := right
      obtain ⟨index, -, isIndex, passes, -⟩ := (nextCronMatchIn_some_iff isRead _ found).mp isFound
      have atMost := least clock whole before isMatch
      have same : found = clock := by
        unfold minute at *
        omega
      rwa [same] at passes
  · intro passes
    have isFound : nextCronMatchIn expression (clock - minute) none = some clock := by
      rw [nextCronMatchIn_some_iff isRead, first]
      exact
        ⟨0, by decide, by simp, passes, fun earlier isEarlier =>
          absurd isEarlier (Nat.not_lt_zero earlier)⟩
    rw [isFound] at right
    exact right.2.2.1

theorem comesYearly_of_isNext (isRead : parseExpression expression = some fields)
    (means : expressionMeaning expression = some meaning) (isNext :
      ∀ reference, IsNext expression reference (nextCronMatchIn expression reference none)) :
    ComesYearly meaning := by
  rintro ⟨slot, valid, allowed⟩
  obtain ⟨clock, whole, inEra, rfl⟩ := exists_slotOf valid
  have right := isNext (eraStart * daySpan - minute)
  have first : truncated (eraStart * daySpan - minute + minute) = eraStart * daySpan := by decide
  have before : eraStart * daySpan - minute < clock := by
    unfold minute at *
    omega
  cases isFound : nextCronMatchIn expression (eraStart * daySpan - minute) none with
  | none =>
    rw [isFound] at right
    exact absurd ((cronMatches_iff means clock).mpr allowed) (right clock whole before)
  | some found =>
    rw [isFound] at right
    obtain ⟨index, inScan, isIndex, -, -⟩ := (nextCronMatchIn_some_iff isRead _ found).mp isFound
    refine ⟨slotOf found, slotOf_valid found, (cronMatches_iff means found).mp right.2.2.1, ?_⟩
    unfold scanLimit at inScan
    apply not_onLeapDay_first
    · unfold minute at *
      omega
    · unfold daySpan minute at *
      omega

/-! ## The day fields -/

/-- No loop of the five fields overflows. -/
structure CronMeaning.NoOverflow (meaning : CronMeaning) : Prop where
  minutes : ∀ progression ∈ meaning.minutes, ¬progression.Overflows
  hours : ∀ progression ∈ meaning.hours, ¬progression.Overflows
  days : ∀ progression ∈ meaning.days, ¬progression.Overflows
  months : ∀ progression ∈ meaning.months, ¬progression.Overflows
  weekdays : ∀ progression ∈ meaning.weekdays, ¬progression.Overflows

/-- Some minute of some day in some month is allowed, but for the day. -/
def CronMeaning.HasTime (meaning : CronMeaning) : Prop :=
  (∃ value, Allows meaning.minutes value) ∧ (∃ value, Allows meaning.hours value) ∧
      ∃ value, Allows meaning.months value

/--
The day field alone decides: the weekday field is not restricted, or else the day
field is, and it allows every date of the months that some weekday could add.
-/
def CronMeaning.DayDecides (meaning : CronMeaning) : Prop :=
  Restricted 0 6 meaning.weekdays → Restricted 1 31 meaning.days ∧
      ((∃ weekday, Allows meaning.weekdays weekday) → ∀ month day,
          Allows meaning.months month → 1 ≤ day →
              day ≤ longestMonth month → Allows meaning.days day)

theorem allows_iff (isRead : ExpressionRead fields meaning) (noOverflow : meaning.NoOverflow)
    (valid : slot.Valid) :
    fields.allows slot = true ↔
      Allows meaning.minutes slot.minute ∧ Allows meaning.hours slot.hour ∧
        Allows meaning.months slot.month ∧ Allows meaning.days slot.day := by
  have everyDay (unrestricted : isDomUnrestricted fields.days = true) :
      slot.day ∈ fields.days := by
    have distinct : fields.days.Nodup := isRead.days.ascending.imp fun before => Nat.ne_of_lt before
    have inMonth : fields.days ⊆ List.range' 1 31 := by
      intro day isDay
      have bounds := isRead.days.bounds ((isRead.days.mem_iff_allows noOverflow.days day).mp isDay)
      rw [List.mem_range'_1]
      omega
    have many : 31 ≤ fields.days.length := of_decide_eq_true unrestricted
    have all := (List.subperm_of_subset distinct inMonth).perm_of_length_le
        (by rwa [List.length_range'])
    rw [all.mem_iff, List.mem_range'_1]
    have inMonths := (longestMonth_bounds slot.month).2
    have bounds := valid.day
    omega
  unfold CronFields.allows
  simp only [Bool.and_eq_true, Bool.or_eq_true, List.contains_eq_mem, decide_eq_true_eq]
  rw [← isRead.minutes.mem_iff_allows noOverflow.minutes,
    ← isRead.hours.mem_iff_allows noOverflow.hours,
    ← isRead.months.mem_iff_allows noOverflow.months, ← isRead.days.mem_iff_allows noOverflow.days]
  constructor
  · rintro ⟨⟨⟨isDay | ⟨unrestricted, -⟩, isMonth⟩, isHour⟩, isMinute⟩
    · exact ⟨isMinute, isHour, isMonth, isDay⟩
    · exact ⟨isMinute, isHour, isMonth, everyDay unrestricted⟩
  · rintro ⟨isMinute, isHour, isMonth, isDay⟩
    exact ⟨⟨⟨.inl isDay, isMonth⟩, isHour⟩, isMinute⟩

theorem slotsAgree_iff (isRead : ExpressionRead fields meaning) (noOverflow : meaning.NoOverflow) :
    SlotsAgree meaning fields ↔ (meaning.HasTime → meaning.DayDecides) := by
  constructor
  · rintro agree ⟨⟨minute, isMinute⟩, ⟨hour, isHour⟩, month, isMonth⟩
      ⟨weekday, -, lastWeekday, notWeekday⟩
    have isValid
        {otherMonth day otherWeekday : Nat}
        (isMonth : Allows meaning.months otherMonth)
        (isDay : 1 ≤ day ∧ day ≤ longestMonth otherMonth)
        (isWeekday : otherWeekday ≤ 6) : (Slot.mk otherMonth day otherWeekday hour minute).Valid :=
      { month := isRead.months.bounds isMonth
        day := isDay
        weekday := Nat.lt_succ_of_le isWeekday
        hour := Nat.lt_succ_of_le (isRead.hours.bounds isHour).2
        minute := Nat.lt_succ_of_le (isRead.minutes.bounds isMinute).2 }
    have restrictedDays : Restricted 1 31 meaning.days := by
      by_contra unrestricted
      have firstDay : Allows meaning.days 1 := by
        by_contra notFirst
        exact unrestricted ⟨1, by decide, by decide, notFirst⟩
      have valid := isValid isMonth ⟨Nat.le_refl 1, (longestMonth_bounds month).1⟩ lastWeekday
      have allowed := (agree _ valid).mpr
          ((allows_iff isRead noOverflow valid).mpr ⟨isMinute, isHour, isMonth, firstDay⟩)
      rcases allowed.day with ⟨-, isWeekday⟩ | ⟨restricted, -⟩
      · exact notWeekday isWeekday
      · exact unrestricted restricted
    refine ⟨restrictedDays, ?_⟩
    rintro ⟨otherWeekday, isWeekday⟩ otherMonth day isOther first last
    have valid := isValid isOther ⟨first, last⟩ (isRead.weekdays.bounds isWeekday).2
    have allowed : meaning.AllowsSlot (Slot.mk otherMonth day otherWeekday hour minute) :=
      { minute := isMinute
        hour := isHour
        month := isOther
        day :=
          .inr ⟨restrictedDays, ⟨weekday, Nat.zero_le _, lastWeekday, notWeekday⟩, .inr isWeekday⟩ }
    have passes := (agree _ valid).mp allowed
    exact ((allows_iff isRead noOverflow valid).mp passes).2.2.2
  · intro decides slot valid
    rw [allows_iff isRead noOverflow valid]
    constructor
    · rintro ⟨isMinute, isHour, isMonth, isDay⟩
      refine ⟨isMinute, isHour, isMonth, ?_⟩
      rcases isDay with ⟨isDay, -⟩ | ⟨-, restricted, isDay | isWeekday⟩
      · exact isDay
      · exact isDay
      · exact (decides ⟨⟨_, isMinute⟩, ⟨_, isHour⟩, _, isMonth⟩ restricted).2
          ⟨_, isWeekday⟩ _ _ isMonth valid.day.1 valid.day.2
    · rintro ⟨isMinute, isHour, isMonth, isDay⟩
      refine ⟨isMinute, isHour, isMonth, ?_⟩
      by_cases restricted : Restricted 0 6 meaning.weekdays
      · exact .inr
          ⟨(decides ⟨⟨_, isMinute⟩, ⟨_, isHour⟩, _, isMonth⟩ restricted).1,
            restricted, .inl isDay⟩
      · refine .inl ⟨isDay, ?_⟩
        by_contra notWeekday
        exact restricted ⟨slot.weekday, Nat.zero_le _, Nat.le_of_lt_succ valid.weekday, notWeekday⟩

/--
The search in UTC is right from every start exactly when its test agrees with the
semantics at every slot and the expression is not limited to 29 February; without
an overflow the first means that the day field alone decides.
-/
theorem nextCronMatchIn_isNext_iff (expression : String) :
    ((∀ reference, IsNext expression reference (nextCronMatchIn expression reference none)) ↔
      ∀ meaning fields, expressionMeaning expression = some meaning →
        parseExpression expression = some fields → SlotsAgree meaning fields ∧ ComesYearly meaning) ∧
    ∀ meaning fields, expressionMeaning expression = some meaning →
      parseExpression expression = some fields → meaning.NoOverflow →
      (SlotsAgree meaning fields ↔ (meaning.HasTime → meaning.DayDecides)) := by
  rcases parseExpression_cases expression with
    ⟨unread, noMeaning⟩ | ⟨fields, meaning, isRead, means, reads⟩
  · refine ⟨iff_of_true ?_ ?_, ?_⟩
    · intro reference
      have isNone : nextCronMatchIn expression reference none = none := by
        unfold nextCronMatchIn
        rw [unread]
        rfl
      rw [isNone]
      rintro other - - ⟨meaning, means, -⟩
      rw [noMeaning] at means
      cases means
    all_goals
      intro meaning fields means
      rw [noMeaning] at means
      cases means
  · have only
        {otherMeaning : CronMeaning}
        {otherFields : CronFields}
        (otherMeans : expressionMeaning expression = some otherMeaning)
        (otherRead : parseExpression expression = some otherFields) :
        otherMeaning = meaning ∧ otherFields = fields :=
      ⟨Option.some.inj (otherMeans.symm.trans means), Option.some.inj (otherRead.symm.trans isRead)⟩
    refine ⟨⟨fun isNext other otherFields otherMeans otherRead => ?_,
      fun agree => ?_⟩, fun other otherFields otherMeans otherRead => ?_⟩
    · exact ⟨slotsAgree_of_isNext otherRead otherMeans isNext,
        comesYearly_of_isNext otherRead otherMeans isNext⟩
    · obtain ⟨slots, yearly⟩ := agree meaning fields means isRead
      exact isNext_of_agree isRead means reads slots yearly
    · obtain ⟨rfl, rfl⟩ := only otherMeans otherRead
      exact slotsAgree_iff reads

def newYear : String := "0 0 1 1 *"

/-- What the expression for the first minute of the year means. -/
def newYearMeaning : CronMeaning where
  minutes := [{ low := 0, high := 0, step := 1 }]
  hours := [{ low := 0, high := 0, step := 1 }]
  days := [{ low := 1, high := 1, step := 1 }]
  months := [{ low := 1, high := 1, step := 1 }]
  weekdays := [{ low := 0, high := 6, step := 1 }]

theorem newYear_isNext :
    ∀ reference, IsNext newYear reference (nextCronMatchIn newYear reference none) := by
  have isMeaning : expressionMeaning newYear = some newYearMeaning := by decide +kernel
  have noOverflow
      {progression : Progression}
      (small : progression.low + progression.step < 4294967296)
      (fits : progression.Fits) :
      ¬progression.Overflows := by
    rw [Progression.overflows_iff fits]
    omega
  have fitting : newYearMeaning.NoOverflow := by
    constructor <;>
      · intro progression isMember
        obtain rfl := List.mem_singleton.mp isMember
        exact noOverflow (by decide) ⟨by decide, by decide, by decide⟩
  refine (nextCronMatchIn_isNext_iff newYear).1.mpr ?_
  intro meaning fields means isRead
  obtain rfl := Option.some.inj (isMeaning.symm.trans means)
  constructor
  · refine
      ((nextCronMatchIn_isNext_iff newYear).2 _ fields means isRead fitting).mpr ?_
    rintro - ⟨weekday, first, last, notWeekday⟩
    exact absurd ⟨_, List.mem_singleton.mpr rfl, first, last, by simp⟩ notWeekday
  · intro _
    refine ⟨{ month := 1, day := 1, weekday := 0, hour := 0, minute := 0 }, ?_, ?_,
      by simp [Slot.OnLeapDay]⟩
    · constructor <;> decide
    · constructor <;> simp [Allows, newYearMeaning, Progression.Contains, CronMeaning.AllowsDay]

/-- An expression for Mondays, at the start of the epoch, a Thursday. -/
def mondays : String := "0 0 * * 1"

/-- The search returns the Friday after, which is no Monday. -/
theorem mondays_friday :
    nextCronMatchIn mondays 0 none = some daySpan ∧
    ¬IsNext mondays 0 (nextCronMatchIn mondays 0 none) := by
  have isFriday : nextCronMatchIn mondays 0 none = some daySpan := by decide +kernel
  refine ⟨isFriday, ?_⟩
  rw [isFriday]
  rintro ⟨-, -, ⟨meaning, means, allowed⟩, -⟩
  have isMeaning : expressionMeaning mondays = some
      { minutes := [{ low := 0, high := 0, step := 1 }]
        hours := [{ low := 0, high := 0, step := 1 }]
        days := [{ low := 1, high := 31, step := 1 }]
        months := [{ low := 1, high := 12, step := 1 }]
        weekdays := [{ low := 1, high := 1, step := 1 }] } := by
    decide +kernel
  obtain rfl := Option.some.inj (isMeaning.symm.trans means)
  rcases allowed.day with ⟨-, isMonday⟩ | ⟨⟨day, first, last, notDay⟩, -⟩
  · have isWeekday : (slotOf daySpan).weekday = 5 := by decide +kernel
    rw [isWeekday] at isMonday
    simp [Allows, Progression.Contains] at isMonday
  · apply notDay
    simp [Allows, Progression.Contains, first, last]

end Rustasea.Schedule
