import Rustasea.Library.CalendarOrder

/-!
# Calendar times of instants

The calendar date of a day counted from 1970-01-01, and the calendar time of an
instant counted in nanoseconds from that day's midnight.  Years are counted from
March, so that a leap day is the last day of its year, in eras of 400 years.
-/

namespace CalendarTime

/-! ## Days of an era -/

structure YearDay where
  year : Nat
  day : Nat

/-- Four centuries, of which the last is a day longer; and so on. -/
def yearDay (dayOfEra : Nat) : YearDay :=
  let century := min (dayOfEra / 36524) 3
  let dayOfCentury := dayOfEra - century * 36524
  let quad := dayOfCentury / 1461
  let dayOfQuad := dayOfCentury % 1461
  let yearOfQuad := min (dayOfQuad / 365) 3
  { year := century * 100 + quad * 4 + yearOfQuad, day := dayOfQuad - yearOfQuad * 365 }

theorem yearDay_lt {first second : Nat} (before : first < second) (inEra : second < 146097) :
    (yearDay first).year < (yearDay second).year ∨
    (yearDay first).year = (yearDay second).year ∧ (yearDay first).day < (yearDay second).day := by
  unfold yearDay
  simp only
  omega

variable {day : Nat}

theorem year_lt (inEra : day < 146097) : (yearDay day).year < 400 := by
  unfold yearDay
  simp only
  omega

theorem day_le (inEra : day < 146097) :
    (yearDay day).day < 365 ∨
    (yearDay day).day = 365 ∧ (yearDay day).year % 4 = 3 ∧
      ((yearDay day).year % 100 ≠ 99 ∨ (yearDay day).year = 399) := by
  unfold yearDay
  simp only
  omega

/-! ## Dates -/

/-- A date of the calendar. -/
structure CivilDate where
  year : Int
  month : Nat
  day : Nat
  deriving DecidableEq

def monthOf (day : Nat) : Nat := (5 * day + 2) / 153

def civilDateOf (era : Int) (yearDay : YearDay) : CivilDate :=
  let month := monthOf yearDay.day
  { year := era * 400 + yearDay.year + (if month < 10 then 0 else 1)
    month := if month < 10 then month + 3 else month - 9
    day := yearDay.day - (153 * month + 2) / 5 + 1 }

def civilDate (day : Int) : CivilDate :=
  civilDateOf ((day + 719468) / 146097) (yearDay ((day + 719468) % 146097).toNat)

def CivilDate.Precedes (first second : CivilDate) : Prop :=
  first.year < second.year ∨
    first.year = second.year ∧ first.month * 100 + first.day < second.month * 100 + second.day

theorem civilDateOf_valid (era : Int) {yearDay : YearDay}
    (bound : yearDay.day < 365 ∨
      yearDay.day = 365 ∧ yearDay.year % 4 = 3 ∧ (yearDay.year % 100 ≠ 99 ∨ yearDay.year = 399)) :
    (1 ≤ (civilDateOf era yearDay).month ∧ (civilDateOf era yearDay).month ≤ 12) ∧
      1 ≤ (civilDateOf era yearDay).day ∧
      (civilDateOf era yearDay).day ≤
        daysInMonth (civilDateOf era yearDay).year (civilDateOf era yearDay).month := by
  unfold civilDateOf monthOf daysInMonth
  simp only
  refine ⟨?_, ?_, ?_⟩
  · split_ifs <;> omega
  · omega
  · split_ifs <;> omega

theorem monthOf_bounds (day : Nat) :
    (153 * monthOf day + 2) / 5 ≤ day ∧ day < (153 * monthOf day + 2) / 5 + 31 := by
  unfold monthOf
  omega

theorem monthOf_le {first second : Nat} (before : first ≤ second) :
    monthOf first ≤ monthOf second := by
  unfold monthOf
  omega

theorem civilDateOf_lt (era : Int) {first second : YearDay} (firstBound : first.day < 366)
    (secondBound : second.day < 366)
    (before : first.year < second.year ∨ first.year = second.year ∧ first.day < second.day) :
    (civilDateOf era first).Precedes (civilDateOf era second) := by
  have firstMonth := monthOf_bounds first.day
  unfold CivilDate.Precedes civilDateOf
  simp only
  rcases before with earlierYear | ⟨sameYear, earlierDay⟩
  · split_ifs <;> omega
  · have months := monthOf_le earlierDay.le
    rcases Nat.lt_or_eq_of_le months with earlierMonth | sameMonth
    · split_ifs <;> omega
    · split_ifs <;> omega

theorem civilDate_lt {first second : Int} (before : first < second) :
    (civilDate first).Precedes (civilDate second) := by
  have inEra (day : Int) : ((day + 719468) % 146097).toNat < 146097 := by omega
  have bound (day : Int) : (yearDay ((day + 719468) % 146097).toNat).day < 366 := by
    have := day_le (inEra day)
    omega
  rcases Int.lt_or_eq_of_le
    (Int.ediv_le_ediv (by decide : (0 : Int) < 146097)
      (Int.add_le_add_right before.le 719468)) with earlierEra | sameEra
  · have firstYear := year_lt (inEra first)
    have firstBounds := monthOf_bounds (yearDay ((first + 719468) % 146097).toNat).day
    have firstDay := bound first
    unfold CivilDate.Precedes civilDate civilDateOf
    simp only
    split_ifs <;> omega
  · unfold civilDate
    rw [sameEra]
    refine civilDateOf_lt _ (bound first) (bound second) ?_
    exact yearDay_lt (by omega) (inEra second)

theorem civilDate_valid (day : Int) :
    (1 ≤ (civilDate day).month ∧ (civilDate day).month ≤ 12) ∧ 1 ≤ (civilDate day).day ∧
    (civilDate day).day ≤ daysInMonth (civilDate day).year (civilDate day).month :=
  civilDateOf_valid _ (day_le (by omega))

theorem civilDate_plain {day : Int} (isPlain : -719528 ≤ day ∧ day < 2932897) :
    0 ≤ (civilDate day).year ∧ (civilDate day).year ≤ 9999 := by
  have first : (civilDate (-719529)).year = -1 := by decide
  have last : (civilDate 2932897).year = 10000 := by decide
  have lastMonth : (civilDate 2932897).month * 100 + (civilDate 2932897).day = 101 := by decide
  have firstMonth : (civilDate (-719529)).month * 100 +
      (civilDate (-719529)).day = 1231 := by decide
  have afterFirst := civilDate_lt (show -719529 < day by omega)
  have beforeLast := civilDate_lt (show day < 2932897 by omega)
  have valid := civilDate_valid day
  unfold CivilDate.Precedes at afterFirst beforeLast
  have days : daysInMonth (civilDate day).year (civilDate day).month ≤ 31 := by
    unfold daysInMonth
    split_ifs <;> omega
  omega

/-! ## Times -/

def nanosPerDay : Int := 86400 * 1000000000

def ofInstant? (instant : Int) : Option CalendarTime :=
  let date := civilDate (instant / nanosPerDay)
  let ofDay := (instant % nanosPerDay).toNat
  let second := ofDay / nanosPerSecond
  ofNumbers date.year date.month date.day (second / 3600)
    (second / 60 % 60) (second % 60) (ofDay % nanosPerSecond)

/-- The RFC 3339 text of an instant, with six digits of the fraction. -/
def rfc3339 (instant : Int) : String :=
  match ofInstant? instant with
  | some time => time.print 6
  | none => ""

def IsPlain (instant : Int) : Prop :=
  -719528 * nanosPerDay ≤ instant ∧ instant < 2932897 * nanosPerDay

instance (instant : Int) : Decidable (IsPlain instant) := inferInstanceAs (Decidable (_ ∧ _))

structure IsTimeOf (time : CalendarTime) (instant : Int) : Prop where
  year : time.year = (civilDate (instant / nanosPerDay)).year
  month : time.month = (civilDate (instant / nanosPerDay)).month
  day : time.day = (civilDate (instant / nanosPerDay)).day
  hour : time.hour = (instant % nanosPerDay).toNat / nanosPerSecond / 3600
  minute : time.minute = (instant % nanosPerDay).toNat / nanosPerSecond / 60 % 60
  second : time.second = (instant % nanosPerDay).toNat / nanosPerSecond % 60
  nanosecond : time.nanosecond = (instant % nanosPerDay).toNat % nanosPerSecond

theorem ofInstant?_plain {instant : Int} (isPlain : IsPlain instant) :
    ∃ time, ofInstant? instant = some time ∧ IsTimeOf time instant ∧ time.hasPlainYear ∧
      time.isOnClock := by
  unfold IsPlain nanosPerDay at isPlain
  have plain := civilDate_plain
    (show -719528 ≤ instant / nanosPerDay ∧
        instant / nanosPerDay < 2932897 by
      unfold nanosPerDay
      omega)
  have valid := civilDate_valid (instant / nanosPerDay)
  have inDay : (instant % nanosPerDay).toNat < 86400 * nanosPerSecond := by
    unfold nanosPerDay nanosPerSecond
    omega
  have inSecond : (instant % nanosPerDay).toNat % nanosPerSecond < nanosPerSecond :=
    Nat.mod_lt _ (by decide)
  have secondOfDay : (instant % nanosPerDay).toNat / nanosPerSecond < 86400 :=
    Nat.div_lt_of_lt_mul (Nat.mul_comm _ nanosPerSecond ▸ inDay)
  refine ⟨_, dif_pos ⟨by omega, valid.1, valid.2, by omega,
    Nat.mod_lt _ (by decide), Nat.mod_lt _ (by decide), by omega⟩,
    ⟨rfl, rfl, rfl, rfl, rfl, rfl, rfl⟩, plain, .inl inSecond⟩

variable {first second : CalendarTime}

theorem precedes_of_ofDay {firstOfDay secondOfDay : Nat} (sameYear : first.year = second.year)
    (sameDate : first.month * 100 + first.day = second.month * 100 + second.day)
    (firstHour : first.hour = firstOfDay / nanosPerSecond / 3600)
    (firstMinute : first.minute = firstOfDay / nanosPerSecond / 60 % 60)
    (firstSecond : first.second = firstOfDay / nanosPerSecond % 60)
    (firstNano : first.nanosecond = firstOfDay % nanosPerSecond)
    (secondHour : second.hour = secondOfDay / nanosPerSecond / 3600)
    (secondMinute : second.minute = secondOfDay / nanosPerSecond / 60 % 60)
    (secondSecond : second.second = secondOfDay / nanosPerSecond % 60)
    (secondNano : second.nanosecond = secondOfDay % nanosPerSecond)
    (before : firstOfDay / 1000 < secondOfDay / 1000) : first.Precedes second := by
  have seconds : firstOfDay / nanosPerSecond < secondOfDay / nanosPerSecond ∨
      firstOfDay / nanosPerSecond = secondOfDay / nanosPerSecond ∧
        firstOfDay % nanosPerSecond / 1000 < secondOfDay % nanosPerSecond / 1000 := by
    unfold nanosPerSecond
    omega
  refine .inr ⟨sameYear, ?_⟩
  unfold minuteRank microsecond
  rw [sameDate]
  rcases seconds with earlier | ⟨same, micros⟩
  · omega
  · omega

theorem precedes_of_lt {firstInstant secondInstant : Int} (isFirst : IsTimeOf first firstInstant)
    (isSecond : IsTimeOf second secondInstant)
    (before : firstInstant / 1000 < secondInstant / 1000) : first.Precedes second := by
  rcases Int.lt_or_eq_of_le
      (Int.ediv_le_ediv (by decide : 0 < nanosPerDay)
        (show firstInstant ≤ secondInstant by omega)) with
    earlierDay | sameDay
  · have dates := civilDate_lt earlierDay
    unfold CivilDate.Precedes at dates
    rw [← isFirst.year, ← isFirst.month, ← isFirst.day, ← isSecond.year,
      ← isSecond.month, ← isSecond.day] at dates
    have firstHour := first.hourBound
    have firstMinute := first.minuteBound
    refine dates.imp id fun ⟨sameYear, earlier⟩ => ⟨sameYear, .inl ?_⟩
    unfold minuteRank
    omega
  · refine precedes_of_ofDay ?_ ?_ isFirst.hour isFirst.minute isFirst.second
      isFirst.nanosecond isSecond.hour isSecond.minute isSecond.second
      isSecond.nanosecond ?_
    · rw [isFirst.year, isSecond.year, sameDay]
    · rw [isFirst.month, isSecond.month, isFirst.day, isSecond.day, sameDay]
    · unfold nanosPerDay at sameDay ⊢
      omega

theorem le_of_rfc3339_le {first second : Int} (firstPlain : IsPlain first)
    (secondPlain : IsPlain second) (inOrder : rfc3339 first ≤ rfc3339 second) :
    first / 1000 ≤ second / 1000 := by
  obtain ⟨firstTime, isFirst, ofFirst, firstYear, firstClock⟩ := ofInstant?_plain firstPlain
  obtain ⟨secondTime, isSecond, ofSecond, secondYear, secondClock⟩ := ofInstant?_plain secondPlain
  unfold rfc3339 at inOrder
  rw [isFirst, isSecond] at inOrder
  by_contra behind
  have precedes := precedes_of_lt ofSecond ofFirst (Int.not_le.mp behind)
  have ordered := (orderedAsTexts_iff secondTime firstTime).mpr
    (comparable_of_plain secondYear firstYear secondClock firstClock)
  exact inOrder (ordered.1.mpr precedes)

end CalendarTime
