import Rustasea.Schedule.NextMatch

namespace Rustasea.Schedule

/-!
# What is accepted at registration

Registration counts the words of an expression and nothing else.  Whether the
words can be read, whether they name any value, and whether the loops of their
steps fit into 32 bits comes out when the next run is looked for, where an
expression that cannot be read is one that is never due.
-/

def Accepted (command expression : String) : Prop :=
  ∃ accepted, ScheduleCommand.ofCron command expression = .ok accepted

theorem accepted_iff (command expression : String) :
    Accepted command expression ↔ (splitWhitespace expression.toList).length = 5 := by
  have noEmpty : (splitWhitespace expression.toList).any List.isEmpty = false := by
    rw [List.any_eq_false]
    intro word isWord
    simpa using (List.mem_filter.mp isWord).2
  unfold Accepted ScheduleCommand.ofCron validateExpression
  by_cases five : (splitWhitespace expression.toList).length = 5
  · rw [if_neg (not_not.mpr five), noEmpty]
    exact iff_of_true ⟨_, rfl⟩ five
  · rw [if_pos five]
    refine iff_of_false ?_ five
    rintro ⟨accepted, isOk⟩
    cases isOk

/-! ## Fields that can be evaluated -/

/-- A field is read as some values within its bounds, and nothing overflows. -/
structure FieldEvaluable (min max : Nat) (values : List Nat)
    (progressions : List Progression) : Prop where
  nonempty : values ≠ []
  ascending : values.Pairwise (· < ·)
  bounded : ∀ value ∈ values, min ≤ value ∧ value ≤ max
  noOverflow : ∀ progression ∈ progressions, ¬progression.Overflows

/-- All five fields of an expression can be evaluated. -/
def Evaluable (expression : String) : Prop :=
  ∃ fields meaning,
    parseExpression expression = some fields ∧ expressionMeaning expression = some meaning ∧
        FieldEvaluable 0 59 fields.minutes meaning.minutes ∧
          FieldEvaluable 0 23 fields.hours meaning.hours ∧
            FieldEvaluable 1 31 fields.days meaning.days ∧
              FieldEvaluable 1 12 fields.months meaning.months ∧
                FieldEvaluable 0 6 fields.weekdays meaning.weekdays

/--
Some part of a field has a value, and no part starts at a number whose step leads
beyond 32 bits.
-/
def Denotes (progressions : List Progression) : Prop :=
  (∃ progression ∈ progressions, progression.low ≤ progression.high) ∧ ∀ progression ∈ progressions,
      progression.low ≤ progression.high → progression.low + progression.step < 4294967296

def CronMeaning.Denotes (meaning : CronMeaning) : Prop :=
  Schedule.Denotes meaning.minutes ∧ Schedule.Denotes meaning.hours ∧
    Schedule.Denotes meaning.days ∧ Schedule.Denotes meaning.months ∧
      Schedule.Denotes meaning.weekdays

def CronMeaning.HasDate (meaning : CronMeaning) : Prop :=
  ∃ month day, Allows meaning.months month ∧ Allows meaning.days day ∧ day ≤ longestMonth month

variable {progressions : List Progression} {min max : Nat} {values : List Nat}

theorem fieldEvaluable_iff (isRead : FieldRead min max values progressions) :
    FieldEvaluable min max values progressions ↔ Denotes progressions := by
  have overflows_iff
      {progression : Progression}
      (isMember : progression ∈ progressions) :=
    Progression.overflows_iff (isRead.fits progression isMember).1
  constructor
  · intro evaluable
    constructor
    · obtain ⟨value, isValue⟩ := List.exists_mem_of_ne_nil _ evaluable.nonempty
      obtain ⟨progression, isMember, above, below, -⟩ :=
        (isRead.mem_iff_allows evaluable.noOverflow value).mp isValue
      exact ⟨progression, isMember, Nat.le_trans above below⟩
    · intro progression isMember within
      have fits := evaluable.noOverflow progression isMember
      rw [overflows_iff isMember] at fits
      omega
  · rintro ⟨⟨first, isFirst, within⟩, small⟩
    have noOverflow : ∀ progression ∈ progressions, ¬progression.Overflows := by
      intro progression isMember
      rw [overflows_iff isMember]
      rintro ⟨below, overflows⟩
      exact Nat.not_le.mpr (small progression isMember below) overflows
    have mem_iff := isRead.mem_iff_allows noOverflow
    refine ⟨?_, isRead.ascending, fun value isValue => ?_, noOverflow⟩
    · have isValue : first.low ∈ values :=
        (mem_iff first.low).mpr ⟨first, isFirst, Nat.le_refl _, within, by simp⟩
      exact List.ne_nil_of_mem isValue
    · exact isRead.bounds ((mem_iff value).mp isValue)

theorem evaluable_iff (expression : String) :
    Evaluable expression ↔
      ∃ meaning, expressionMeaning expression = some meaning ∧ meaning.Denotes := by
  constructor
  · rintro ⟨fields, meaning, isRead, means, minutes, hours, days, months,
      weekdays⟩
    rcases parseExpression_cases expression with ⟨unread, -⟩ | ⟨read, meant, readIs, meantIs, reads⟩
    · rw [unread] at isRead
      cases isRead
    · obtain rfl := Option.some.inj (readIs.symm.trans isRead)
      obtain rfl := Option.some.inj (meantIs.symm.trans means)
      exact ⟨_, means, (fieldEvaluable_iff reads.minutes).mp minutes,
        (fieldEvaluable_iff reads.hours).mp hours, (fieldEvaluable_iff reads.days).mp days,
        (fieldEvaluable_iff reads.months).mp months,
        (fieldEvaluable_iff reads.weekdays).mp weekdays⟩
  · rintro ⟨meaning, means, minutes, hours, days, months, weekdays⟩
    rcases parseExpression_cases expression with
      ⟨-, noMeaning⟩ | ⟨fields, meant, isRead, meantIs, reads⟩
    · rw [noMeaning] at means
      cases means
    · obtain rfl := Option.some.inj (meantIs.symm.trans means)
      exact ⟨fields, _, isRead, means, (fieldEvaluable_iff reads.minutes).mpr minutes,
        (fieldEvaluable_iff reads.hours).mpr hours, (fieldEvaluable_iff reads.days).mpr days,
        (fieldEvaluable_iff reads.months).mpr months,
        (fieldEvaluable_iff reads.weekdays).mpr weekdays⟩

/-! ## Expressions that come due -/

def ComesDue (expression : String) : Prop := ∃ clock, Matches expression clock

theorem Denotes.noOverflow (isRead : FieldRead min max values progressions)
    (denotes : Denotes progressions) : ∀ progression ∈ progressions, ¬progression.Overflows :=
  ((fieldEvaluable_iff isRead).mpr denotes).noOverflow

theorem Denotes.exists_allowed (denotes : Denotes progressions) :
    ∃ value, Allows progressions value := by
  obtain ⟨⟨progression, isMember, within⟩, -⟩ := denotes
  exact ⟨progression.low, progression, isMember, Nat.le_refl _, within, by simp⟩

theorem comesDue_iff {expression : String} {meaning : CronMeaning}
    (means : expressionMeaning expression = some meaning)
    (denotes : meaning.Denotes) : ComesDue expression ↔ meaning.HasDate := by
  rcases parseExpression_cases expression with
    ⟨-, noMeaning⟩ | ⟨fields, meant, isRead, meantIs, reads⟩
  · rw [noMeaning] at means
    cases means
  obtain rfl := Option.some.inj (meantIs.symm.trans means)
  obtain ⟨minutes, hours, days, months, weekdays⟩ := denotes
  have noOverflow : meant.NoOverflow :=
    { minutes := minutes.noOverflow reads.minutes
      hours := hours.noOverflow reads.hours
      days := days.noOverflow reads.days
      months := months.noOverflow reads.months
      weekdays := weekdays.noOverflow reads.weekdays }
  have matches_iff (clock : Int) :
      Matches expression clock ↔ fields.allows (slotOf clock) = true := by
    unfold Matches
    rw [isRead]
    simp [fieldsMatch_eq]
  constructor
  · rintro ⟨clock, isMatch⟩
    have valid := slotOf_valid clock
    obtain ⟨-, -, isMonth, isDay⟩ :=
      (allows_iff reads noOverflow valid).mp ((matches_iff clock).mp isMatch)
    exact ⟨_, _, isMonth, isDay, valid.day.2⟩
  · rintro ⟨month, day, isMonth, isDay, inMonth⟩
    obtain ⟨minute, isMinute⟩ := minutes.exists_allowed
    obtain ⟨hour, isHour⟩ := hours.exists_allowed
    have valid : (Slot.mk month day 0 hour minute).Valid :=
      { month := reads.months.bounds isMonth
        day := ⟨(reads.days.bounds isDay).1, inMonth⟩
        weekday := by simp
        hour := Nat.lt_succ_of_le (reads.hours.bounds isHour).2
        minute := Nat.lt_succ_of_le (reads.minutes.bounds isMinute).2 }
    obtain ⟨clock, -, -, isSlot⟩ := exists_slotOf valid
    refine ⟨clock, (matches_iff clock).mpr ?_⟩
    rw [isSlot]
    exact (allows_iff reads noOverflow valid).mpr ⟨isMinute, isHour, isMonth, isDay⟩

/--
What is accepted can be evaluated exactly when it has not five words or all five
denote values; it also comes due exactly when, besides, one of its dates exists.
-/
theorem accepted_evaluable_iff (command expression : String) :
    ((Accepted command expression → Evaluable expression) ↔
      (splitWhitespace expression.toList).length ≠ 5 ∨
        ∃ meaning, expressionMeaning expression = some meaning ∧ meaning.Denotes) ∧
    ((Accepted command expression → Evaluable expression ∧ ComesDue expression) ↔
      (splitWhitespace expression.toList).length ≠ 5 ∨
        ∃ meaning, expressionMeaning expression = some meaning ∧ meaning.Denotes ∧ meaning.HasDate) := by
  rw [accepted_iff, evaluable_iff, imp_iff_not_or, imp_iff_not_or]
  refine ⟨Iff.rfl, or_congr_right ?_⟩
  constructor
  · rintro ⟨⟨meaning, means, denotes⟩, due⟩
    exact ⟨meaning, means, denotes, (comesDue_iff means denotes).mp due⟩
  · rintro ⟨meaning, means, denotes, hasDate⟩
    exact ⟨⟨meaning, means, denotes⟩, (comesDue_iff means denotes).mpr hasDate⟩

/-- The sixtieth minute is accepted and never due. -/
theorem sixtieth_accepted :
    Accepted "emails:send" "60 * * * *" ∧ ¬Evaluable "60 * * * *" ∧ ¬ComesDue "60 * * * *" := by
  have unread : parseExpression "60 * * * *" = none := by decide +kernel
  refine ⟨?_, ?_, ?_⟩
  · rw [accepted_iff]
    decide +kernel
  · rintro ⟨fields, meaning, isRead, -⟩
    rw [unread] at isRead
    cases isRead
  · rintro ⟨clock, fields, isRead, -⟩
    rw [unread] at isRead
    cases isRead

/-- A step just short of 32 bits comes back to a day that does not exist. -/
example : parseField "1/4294967295".toList 1 31 = some [0, 1] := by
  decide +kernel

end Rustasea.Schedule
