import Rustasea.Library.CivilDate

/-!
# When a date comes again

A day of the year other than the leap day comes again after 365 or 366 days, and
every day of the year falls on every weekday within a century.  A set of numbers
that goes on in steps of a bounded length meets every window of that length.
-/

namespace CalendarTime

/-! ## The days of an era by their year -/

def dayAt (century quad year day : Nat) : Nat :=
  century * 36524 + (quad * 1461 + (year * 365 + day))

/-- The numbers are those of a day: the last one of four years may be a leap day. -/
structure IsDay (century quad year day : Nat) : Prop where
  inEra : century < 4
  inCentury : quad < 25
  inQuad : year < 4
  inYear : day < 365 ∨ day = 365 ∧ year = 3 ∧ (quad < 24 ∨ century = 3)

variable {dayOfEra : Nat}

theorem exists_dayAt (inEra : dayOfEra < 146097) :
    ∃ century quad year day,
      IsDay century quad year day ∧ dayOfEra = dayAt century quad year day := by
  let century := min (dayOfEra / 36524) 3
  let dayOfCentury := dayOfEra - century * 36524
  let year := min (dayOfCentury % 1461 / 365) 3
  refine
    ⟨century, dayOfCentury / 1461, year, dayOfCentury % 1461 - year * 365, ⟨?_, ?_, ?_, ?_⟩, ?_⟩
  · omega
  · omega
  · omega
  · omega
  · unfold dayAt
    omega

variable {century quad year day : Nat}

theorem IsDay.bounds (isDay : IsDay century quad year day) :
    dayAt century quad year day < 146097 ∧ day < 366 := by
  obtain ⟨centuries, quads, years, days⟩ := isDay
  unfold dayAt
  omega

private theorem century_eq {century rest : Nat} (last : century < 4)
    (within : rest < 36524 ∨ rest = 36524 ∧ century = 3) :
    min ((century * 36524 + rest) / 36524) 3 = century := by
  omega

private theorem year_eq {year day : Nat} (last : year < 4)
    (within : day < 365 ∨ day = 365 ∧ year = 3) : min ((year * 365 + day) / 365) 3 = year := by
  omega

theorem yearDay_dayAt (isDay : IsDay century quad year day) :
    yearDay (dayAt century quad year day) =
      { year := century * 100 + quad * 4 + year, day := day } := by
  obtain ⟨centuries, quads, years, days⟩ := isDay
  have inCentury : quad * 1461 + (year * 365 + day) < 36524 ∨
      quad * 1461 + (year * 365 + day) = 36524 ∧ century = 3 := by
    omega
  have quadIs : (quad * 1461 + (year * 365 + day)) / 1461 = quad := by omega
  have inQuad : (quad * 1461 + (year * 365 + day)) % 1461 = year * 365 + day := by omega
  have yearIs := year_eq years (by omega : day < 365 ∨ day = 365 ∧ year = 3)
  unfold yearDay dayAt
  rw [century_eq centuries inCentury]
  simp [quadIs, inQuad, yearIs]

/-- The year of a day in closed form: leap days are taken out, and put back. -/
def closedYear (dayOfEra : Nat) : Nat :=
  (dayOfEra - dayOfEra / 1460 + dayOfEra / 36524 - dayOfEra / 146096) / 365

theorem closedYear_dayAt (isDay : IsDay century quad year day) :
    closedYear (dayAt century quad year day) = century * 100 + quad * 4 + year := by
  obtain ⟨centuries, quads, years, days⟩ := isDay
  unfold closedYear dayAt
  have eras : (century * 36524 + (quad * 1461 + (year * 365 + day))) / 146096 =
      if century = 3 ∧ quad = 24 ∧ year = 3 ∧ day = 365 then 1 else 0 := by
    split <;> omega
  have hundreds : (century * 36524 + (quad * 1461 + (year * 365 + day))) / 36524 = century +
          if century = 3 ∧ quad = 24 ∧ year = 3 ∧ day = 365 then 1
          else
            0 := by
    split <;> omega
  rw [hundreds]
  split <;> omega

theorem closed_day (inEra : dayOfEra < 146097) :
    dayOfEra - (365 * closedYear dayOfEra + closedYear dayOfEra / 4 - closedYear dayOfEra / 100) =
      (yearDay dayOfEra).day := by
  obtain ⟨century, quad, year, day, isDay, rfl⟩ := exists_dayAt inEra
  rw [closedYear_dayAt isDay, yearDay_dayAt isDay]
  obtain ⟨centuries, quads, years, days⟩ := isDay
  unfold dayAt
  dsimp only
  omega

/-! ## The same day again -/

theorem yearDay_again (inEra : dayOfEra < 146097) (plain : (yearDay dayOfEra).day < 365) :
    (yearDay ((dayOfEra + 365) % 146097)).day = (yearDay dayOfEra).day ∨
    (yearDay ((dayOfEra + 366) % 146097)).day = (yearDay dayOfEra).day := by
  obtain ⟨century, quad, year, day, isDay, rfl⟩ := exists_dayAt inEra
  rw [yearDay_dayAt isDay] at plain ⊢
  dsimp only at plain ⊢
  obtain ⟨centuries, quads, years, -⟩ := isDay
  have again
      (laterCentury laterQuad laterYear : Nat)
      {later : Nat}
      (inEra : laterCentury < 4)
      (inCentury : laterQuad < 25)
      (inQuad : laterYear < 4)
      (same : later = laterCentury * 36524 + (laterQuad * 1461 + (laterYear * 365 + day))) :
      (yearDay later).day = day := by
    have isLater : later = dayAt laterCentury laterQuad laterYear day := same
    rw [isLater, yearDay_dayAt ⟨inEra, inCentury, inQuad, .inl plain⟩]
  unfold dayAt
  by_cases lastYear : year = 3
  · by_cases lastQuad : quad = 24
    · by_cases lastCentury : century = 3
      · -- The era ends, with a leap day.
        right
        apply again 0 0 0 <;> omega
      · left
        apply again (century + 1) 0 0 <;> omega
    · right
      apply again century (quad + 1) 0 <;> omega
  · left
    apply again century quad (year + 1) <;> omega

theorem exists_onWeekday {day weekday : Nat} (isDay : day < 366) (isWeekday : weekday < 7) :
    ∃ dayOfEra < 146097, (yearDay dayOfEra).day = day ∧ dayOfEra % 7 = weekday := by
  -- Four years later the same day falls five weekdays later.
  let year := day / 365 * 3
  let quad := 3 * (weekday + 2100 - (year * 365 + day)) % 7
  have isDayOf : IsDay 0 quad year day := ⟨by omega, by omega, by omega, by omega⟩
  refine ⟨dayAt 0 quad year day, isDayOf.bounds.1, ?_, ?_⟩
  · rw [yearDay_dayAt isDayOf]
  · unfold dayAt
    omega

theorem yearDay_first (early : dayOfEra < 366) : (yearDay dayOfEra).day < 365 := by
  unfold yearDay
  simp only
  omega

theorem exists_in_window {Has : Int → Prop} {gap : Int}
    (goesOn : ∀ number, Has number → ∃ later, Has later ∧ number < later ∧ later ≤ number + gap)
    {first start : Int} (isFirst : Has first) (before : first < start) :
    ∃ number, Has number ∧ start ≤ number ∧ number < start + gap := by
  induction steps : (start - first).toNat using Nat.strong_induction_on generalizing first with
  | _ steps ih =>
    obtain ⟨later, isLater, after, within⟩ := goesOn first isFirst
    by_cases reached : start ≤ later
    · exact ⟨later, isLater, reached, by omega⟩
    · exact ih (start - later).toNat (by omega) isLater (by omega) rfl

end CalendarTime
