import Rustasea.Library.CalendarRecurrence
import Rustasea.Schedule.Cron
import Mathlib.Tactic.IntervalCases

namespace Rustasea.Schedule

open CalendarTime

open CalendarTime (yearDay)

/-!
# The minutes of the calendar

What a cron expression asks of a minute is its slot: month, day of the month, day
of the week, hour and minute.  Every slot of the calendar occurs, and a date other
than 29 February occurs in every 366 days at every time of the day.
-/

/-- What the calendar shows at a minute. -/
structure Slot where
  month : Nat
  day : Nat
  weekday : Nat
  hour : Nat
  minute : Nat

def slotOf (clock : Int) : Slot where
  month := monthOf clock
  day := dayOf clock
  weekday := numDaysFromSunday clock
  hour := hourOf clock
  minute := minuteOf clock

def longestMonth (month : Nat) : Nat :=
  if month = 2 then 29
  else if month = 4 ∨ month = 6 ∨ month = 9 ∨ month = 11 then 30
  else 31

namespace Slot

/-- The slot occurs in the calendar. -/
structure Valid (slot : Slot) : Prop where
  month : 1 ≤ slot.month ∧ slot.month ≤ 12
  day : 1 ≤ slot.day ∧ slot.day ≤ longestMonth slot.month
  weekday : slot.weekday < 7
  hour : slot.hour < 24
  minute : slot.minute < 60

def OnLeapDay (slot : Slot) : Prop := slot.month = 2 ∧ slot.day = 29

def SameTime (first second : Slot) : Prop :=
  first.month = second.month ∧ first.day = second.day ∧
    first.hour = second.hour ∧ first.minute = second.minute

end Slot

theorem longestMonth_bounds (month : Nat) : 1 ≤ longestMonth month ∧ longestMonth month ≤ 31 := by
  unfold longestMonth
  split_ifs <;> omega

/-! ## Days -/

def daySpan : Int := 1440 * minute

variable (clock : Int)

theorem dayOfEra_lt : dayOfEra clock < 146097 := by
  unfold dayOfEra
  omega

theorem dayOfMarchYear_eq : dayOfMarchYear clock = (yearDay (dayOfEra clock)).day :=
  closed_day (dayOfEra_lt clock)

theorem dayOfEra_add (days : Nat) :
    dayOfEra (clock + days * daySpan) = (dayOfEra clock + days) % 146097 := by
  unfold dayOfEra epochDay daySpan minute
  omega

theorem hourOf_add (days : Int) : hourOf (clock + days * daySpan) = hourOf clock := by
  unfold hourOf daySpan minute
  omega

theorem minuteOf_add (days : Int) : minuteOf (clock + days * daySpan) = minuteOf clock := by
  unfold minuteOf daySpan minute
  omega

theorem numDaysFromSunday_eq : numDaysFromSunday clock = (dayOfEra clock + 3) % 7 := by
  unfold numDaysFromSunday dayOfEra
  omega

/-! ## Dates -/

def monthOfYearDay (day : Nat) : Nat :=
  if CalendarTime.monthOf day < 10 then CalendarTime.monthOf day + 3
  else CalendarTime.monthOf day - 9

def dayOfYearDay (day : Nat) : Nat := day - (153 * CalendarTime.monthOf day + 2) / 5 + 1

theorem monthOf_eq : monthOf clock = monthOfYearDay (yearDay (dayOfEra clock)).day := by
  unfold monthOf marchMonth monthOfYearDay CalendarTime.monthOf
  rw [dayOfMarchYear_eq]

theorem dayOf_eq : dayOf clock = dayOfYearDay (yearDay (dayOfEra clock)).day := by
  unfold dayOf marchMonth dayOfYearDay CalendarTime.monthOf
  rw [dayOfMarchYear_eq]

variable {day : Nat}

theorem date_valid (inYear : day < 366) :
    (1 ≤ monthOfYearDay day ∧ monthOfYearDay day ≤ 12) ∧ 1 ≤ dayOfYearDay day ∧
    dayOfYearDay day ≤ longestMonth (monthOfYearDay day) := by
  unfold monthOfYearDay dayOfYearDay longestMonth CalendarTime.monthOf
  refine ⟨?_, by omega, ?_⟩
  · split <;> omega
  · split_ifs <;> omega

theorem exists_yearDay {month day : Nat} (isMonth : 1 ≤ month ∧ month ≤ 12)
    (isDay : 1 ≤ day ∧ day ≤ longestMonth month) :
    ∃ yearDay < 366, monthOfYearDay yearDay = month ∧ dayOfYearDay yearDay = day := by
  obtain ⟨march, isMarch, rfl⟩ :
      ∃ march < 12, month = if march < 10 then march + 3 else march - 9 := by
    by_cases early : month < 3
    · exact ⟨month + 9, by omega, by rw [if_neg] <;> omega⟩
    · exact ⟨month - 3, by omega, by rw [if_pos] <;> omega⟩
  unfold longestMonth at isDay
  have within : (153 * march + 2) / 5 + (day - 1) < 366 ∧
      CalendarTime.monthOf ((153 * march + 2) / 5 + (day - 1)) = march := by
    unfold CalendarTime.monthOf
    interval_cases march <;> simp at isDay <;> omega
  refine ⟨(153 * march + 2) / 5 + (day - 1), within.1, ?_, ?_⟩
  · unfold monthOfYearDay
    rw [within.2]
  · unfold dayOfYearDay
    omega

theorem leapDay_iff (inYear : day < 366) :
    (monthOfYearDay day = 2 ∧ dayOfYearDay day = 29) ↔ day = 365 := by
  unfold monthOfYearDay dayOfYearDay CalendarTime.monthOf
  split <;> omega

theorem slotOf_valid : (slotOf clock).Valid := by
  have inYear : (yearDay (dayOfEra clock)).day < 366 := by
    have := day_le (dayOfEra_lt clock)
    omega
  have date := date_valid inYear
  rw [← monthOf_eq, ← dayOf_eq] at date
  refine ⟨date.1, date.2, ?_, ?_, ?_⟩
  · unfold slotOf numDaysFromSunday
    dsimp only
    omega
  · unfold slotOf hourOf
    dsimp only
    omega
  · unfold slotOf minuteOf
    dsimp only
    omega

/-! ## Every slot occurs -/

def clockAt (day : Int) (minuteOfDay : Nat) : Int :=
  day * daySpan + minuteOfDay * minute

def eraStart : Int := -719468

theorem clockAt_whole (day : Int) (minuteOfDay : Nat) : clockAt day minuteOfDay % minute = 0 := by
  unfold clockAt daySpan minute
  omega

theorem slotOf_clockAt {dayOfEra : Nat} (inEra : dayOfEra < 146097) {hour minuteOfHour : Nat}
    (isHour : hour < 24) (isMinute : minuteOfHour < 60) :
    slotOf (clockAt (eraStart + dayOfEra) (hour * 60 + minuteOfHour)) =
      { month := monthOfYearDay (yearDay dayOfEra).day
        day := dayOfYearDay (yearDay dayOfEra).day
        weekday := (dayOfEra + 3) % 7
        hour := hour
        minute := minuteOfHour } := by
  have isDay : Schedule.dayOfEra (clockAt (eraStart + dayOfEra) (hour * 60 + minuteOfHour)) =
      dayOfEra := by
    unfold Schedule.dayOfEra epochDay clockAt eraStart daySpan minute
    omega
  unfold slotOf
  rw [monthOf_eq, dayOf_eq, numDaysFromSunday_eq, isDay]
  congr 1
  · unfold hourOf clockAt eraStart daySpan minute
    omega
  · unfold minuteOf clockAt eraStart daySpan minute
    omega

variable {slot : Slot}

theorem exists_slotOf (valid : slot.Valid) :
    ∃ clock, clock % minute = 0 ∧ eraStart * daySpan ≤ clock ∧ slotOf clock = slot := by
  obtain ⟨day, inYear, isMonth, isDay⟩ := exists_yearDay valid.month valid.day
  obtain ⟨dayOfEra, inEra, sameDay, onWeekday⟩ := exists_onWeekday inYear
      (show (slot.weekday + 4) % 7 < 7 from Nat.mod_lt _ (by decide))
  refine ⟨clockAt (eraStart + dayOfEra) (slot.hour * 60 + slot.minute), clockAt_whole _ _, ?_, ?_⟩
  · unfold clockAt eraStart daySpan minute
    omega
  · rw [slotOf_clockAt inEra valid.hour valid.minute, sameDay, isMonth, isDay]
    have weekday := valid.weekday
    have sameWeekday : (dayOfEra + 3) % 7 = slot.weekday := by omega
    rw [sameWeekday]

variable {clock : Int}

theorem not_onLeapDay_first (reached : eraStart * daySpan ≤ clock)
    (within : clock < eraStart * daySpan + 366 * daySpan) : ¬(slotOf clock).OnLeapDay := by
  have early : dayOfEra clock < 366 := by
    unfold dayOfEra epochDay
    unfold eraStart daySpan minute at *
    omega
  have plain := yearDay_first early
  rintro ⟨isMonth, isDay⟩
  change monthOf clock = 2 at isMonth
  change dayOf clock = 29 at isDay
  rw [monthOf_eq] at isMonth
  rw [dayOf_eq] at isDay
  have isLeapDay := (leapDay_iff (Nat.lt_succ_of_lt plain)).mp ⟨isMonth, isDay⟩
  omega

/-! ## Dates come again -/

theorem slotOf_sameTime_add {days : Nat}
    (sameDay : (yearDay ((dayOfEra clock + days) % 146097)).day = (yearDay (dayOfEra clock)).day) :
    (slotOf (clock + days * daySpan)).SameTime (slotOf clock) := by
  refine ⟨?_, ?_, hourOf_add clock days, minuteOf_add clock days⟩
  · change monthOf _ = monthOf _
    rw [monthOf_eq, monthOf_eq, dayOfEra_add, sameDay]
  · change dayOf _ = dayOf _
    rw [dayOf_eq, dayOf_eq, dayOfEra_add, sameDay]

def ShowsTime (slot : Slot) (clock : Int) : Prop :=
  clock % minute = 0 ∧ (slotOf clock).SameTime slot

theorem ShowsTime.again (notLeapDay : ¬slot.OnLeapDay) (shows : ShowsTime slot clock) :
    ∃ later, ShowsTime slot later ∧ clock < later ∧ later ≤ clock + 366 * daySpan := by
  obtain ⟨whole, sameMonth, sameDay, sameHour, sameMinute⟩ := shows
  have inYear : (yearDay (dayOfEra clock)).day < 366 := by
    have := day_le (dayOfEra_lt clock)
    omega
  have plain : (yearDay (dayOfEra clock)).day < 365 := by
    have notLast : (yearDay (dayOfEra clock)).day ≠ 365 := by
      intro isLast
      have isLeapDay := (leapDay_iff inYear).mpr isLast
      rw [← monthOf_eq, ← dayOf_eq] at isLeapDay
      exact notLeapDay ⟨sameMonth.symm.trans isLeapDay.1, sameDay.symm.trans isLeapDay.2⟩
    omega
  have later (days : Nat)
      (bounds : 0 < days ∧ days ≤ 366)
      (again : (yearDay ((dayOfEra clock + days) % 146097)).day = (yearDay (dayOfEra clock)).day) :
      ∃ later, ShowsTime slot later ∧ clock < later ∧ later ≤ clock + 366 * daySpan := by
    obtain ⟨month, day, hour, minutes⟩ := slotOf_sameTime_add again
    refine ⟨clock + days * daySpan,
      ⟨?_, month.trans sameMonth, day.trans sameDay, hour.trans sameHour,
        minutes.trans sameMinute⟩, ?_, ?_⟩
    · unfold daySpan minute at *
      omega
    all_goals
      unfold daySpan minute
      omega
  rcases yearDay_again (dayOfEra_lt clock) plain with inYear | inLeapYear
  · exact later 365 (by decide) inYear
  · exact later 366 (by decide) inLeapYear

theorem ShowsTime.earlier (shows : ShowsTime slot clock) (start : Int) :
    ∃ first, ShowsTime slot first ∧ first < start := by
  obtain ⟨whole, sameMonth, sameDay, sameHour, sameMinute⟩ := shows
  -- So many eras before, the calendar shows the same.
  let days := ((clock - start).toNat + 1) * 146097
  have sameEra (first : Int) : (dayOfEra first + days) % 146097 = dayOfEra first := by
    rw [Nat.add_mul_mod_self_right, Nat.mod_eq_of_lt (dayOfEra_lt first)]
  have shifted : clock - days * daySpan + days * daySpan = clock := by omega
  have same := slotOf_sameTime_add (congrArg (fun day => (yearDay day).day)
      (sameEra (clock - days * daySpan)))
  rw [shifted] at same
  obtain ⟨month, day, hour, minutes⟩ := same
  refine ⟨clock - days * daySpan,
    ⟨?_, month.symm.trans sameMonth, day.symm.trans sameDay,
      hour.symm.trans sameHour, minutes.symm.trans sameMinute⟩, ?_⟩
  · unfold daySpan minute at *
    omega
  · unfold daySpan minute
    omega

theorem exists_showsTime (valid : slot.Valid) (notLeapDay : ¬slot.OnLeapDay) (start : Int) :
    ∃ clock, ShowsTime slot clock ∧ start ≤ clock ∧ clock < start + 366 * daySpan := by
  obtain ⟨clock, whole, -, isSlot⟩ := exists_slotOf valid
  have shows : ShowsTime slot clock := by
    refine ⟨whole, ?_⟩
    rw [isSlot]
    exact ⟨rfl, rfl, rfl, rfl⟩
  obtain ⟨first, isFirst, before⟩ := shows.earlier start
  exact exists_in_window (fun _ isTime => isTime.again notLeapDay) isFirst before

end Rustasea.Schedule
