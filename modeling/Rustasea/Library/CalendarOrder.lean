import Rustasea.Library.CalendarTime

/-!
# The texts of calendar times in order

Texts with six digits of a second's fraction are compared character by
character.  Inside one year that compares the times, but for a leap second that
runs into the next second's text; different years are compared by their texts,
and a sign stands before every digit.
-/

namespace CalendarTime

open Timestamp List

/-! ## Chronological order -/

def minuteRank (time : CalendarTime) : Nat :=
  ((time.month * 100 + time.day) * 100 + time.hour) * 100 + time.minute

/-- The microseconds of a time; those of a leap second go on beyond one second. -/
def microsecond (time : CalendarTime) : Nat := time.nanosecond / 1000

def Precedes (first second : CalendarTime) : Prop :=
  first.year < second.year ∨ first.year = second.year ∧ (first.minuteRank < second.minuteRank ∨
        first.minuteRank = second.minuteRank ∧ (first.second < second.second ∨
            first.second = second.second ∧ first.microsecond < second.microsecond))

def OrderedAsTexts (first second : CalendarTime) : Prop :=
  (first.print 6 < second.print 6 ↔ first.Precedes second) ∧
    (second.print 6 < first.print 6 ↔ second.Precedes first)

/-! ## Times of one year -/

theorem microsecond_split (time : CalendarTime) :
    time.microsecond = time.nanosecond / nanosPerSecond * 1000000 +
      time.nanosecond % nanosPerSecond / 1000 := by
  unfold microsecond nanosPerSecond
  omega

/-- The texts behind the year show a leap second as the next second. -/
theorem clockText_lt_iff (first second : CalendarTime) :
    first.clockText 6 < second.clockText 6 ↔
      first.minuteRank < second.minuteRank ∨
        first.minuteRank = second.minuteRank ∧
          first.second * 1000000 + first.microsecond <
            second.second * 1000000 + second.microsecond := by
  have two {number : Nat} (small : number ≤ 99) : number < 10 ^ 2 := Nat.lt_succ_of_le small
  have daysAtMost (year : Int) (month : Nat) :
      daysInMonth year month ≤ 31 := by
    unfold daysInMonth
    split_ifs <;> omega
  have firstDays := daysAtMost first.year first.month
  have secondDays := daysAtMost second.year second.month
  have firstMonth := first.monthBound
  have secondMonth := second.monthBound
  have firstDay := first.dayBound
  have secondDay := second.dayBound
  have firstHour := first.hourBound
  have secondHour := second.hourBound
  have firstMinute := first.minuteBound
  have secondMinute := second.minuteBound
  have firstSecond := first.secondBound
  have secondSecond := second.secondBound
  have carryAtMost (time : CalendarTime) : time.nanosecond / nanosPerSecond < 2 :=
    Nat.div_lt_of_lt_mul (Nat.mul_comm 2 _ ▸ time.nanosecondBound)
  have firstCarry := carryAtMost first
  have secondCarry := carryAtMost second
  have fractionSmall (time : CalendarTime) :
      time.nanosecond % nanosPerSecond / 10 ^ (9 - 6) < 10 ^ 6 := by
    have small := Nat.mod_lt time.nanosecond (show 0 < nanosPerSecond by decide)
    unfold nanosPerSecond at small ⊢
    omega
  have noLater : ¬['Z'] < ['Z'] := by decide
  have firstFraction := fractionSmall first
  have secondFraction := fractionSmall second
  rw [clockText, clockText, separated_lt_iff,
    field_append_lt_iff (two (by omega)) (two (by omega)), separated_lt_iff,
    field_append_lt_iff (two (by omega)) (two (by omega)), separated_lt_iff,
    field_append_lt_iff (two (by omega)) (two (by omega)), separated_lt_iff,
    field_append_lt_iff (two (by omega)) (two (by omega)), separated_lt_iff,
    field_append_lt_iff (two (by omega)) (two (by omega)), separated_lt_iff,
    field_append_lt_iff firstFraction secondFraction,
    microsecond_split first, microsecond_split second, minuteRank, minuteRank]
  simp only [noLater, and_false, or_false]
  omega

/-! ## Digits of different numbers -/

theorem field_add (width extra number : Nat) :
    field (width + extra) number = field width (number / 10 ^ extra) ++ field extra number := by
  induction extra generalizing number with
  | zero => rw [Nat.add_zero, Nat.pow_zero, Nat.div_one, field, append_nil]
  | succ extra ih =>
    rw [← Nat.add_assoc, field, ih, field,
      Nat.div_div_eq_div_mul, append_assoc, Nat.pow_succ, Nat.mul_comm 10]

theorem sign_lt_field {sign : Char} (isSign : ∀ digit : Fin 10, sign < digitChar digit)
    {width : Nat} (positive : 0 < width) (number : Nat)
    (rest otherRest : List Char) : sign :: rest < field width number ++ otherRest := by
  obtain ⟨extra, rfl⟩ := Nat.exists_eq_add_of_le positive
  have isFirst : field (0 + 1 + extra) number =
      digitChar (number / 10 ^ extra % 10) :: field extra number := by
    rw [field_add]
    rfl
  rw [isFirst, cons_append, cons_lt_cons_iff]
  exact .inl (isSign ⟨number / 10 ^ extra % 10, Nat.mod_lt _ (by decide)⟩)

def digitWidth (year : Nat) : Nat :=
  if year < 10000 then 4 else if year < 100000 then 5 else 6

theorem yearDigits_eq (year : Nat) : yearDigits year = field (digitWidth year) year := by
  unfold yearDigits digitWidth
  split_ifs <;> rfl

theorem lt_pow_digitWidth {year : Nat} (small : year < 1000000) : year < 10 ^ digitWidth year := by
  unfold digitWidth
  split_ifs <;> omega

/--
The digits of one number, with something that ends them, stand before those of
another: the shorter ones are compared with as many digits of the longer.
-/
def DigitsBefore (first second : Nat) : Prop :=
  if digitWidth first < digitWidth second then
    first ≤ second / 10 ^ (digitWidth second - digitWidth first)
  else first / 10 ^ (digitWidth first - digitWidth second) < second

instance (first second : Nat) : Decidable (DigitsBefore first second) := by
  unfold DigitsBefore
  infer_instance

theorem yearDigits_lt_iff {first second : Nat} (different : first ≠ second)
    (firstSmall : first < 1000000) (secondSmall : second < 1000000)
    (firstRest secondRest : List Char) :
    yearDigits first ++ '-' :: firstRest < yearDigits second ++ '-' :: secondRest ↔
      DigitsBefore first second := by
  have firstBound := lt_pow_digitWidth firstSmall
  have secondBound := lt_pow_digitWidth secondSmall
  have isSign : ∀ digit : Fin 10, '-' < digitChar digit := by decide
  rw [yearDigits_eq, yearDigits_eq, DigitsBefore]
  split
  next shorter =>
    obtain ⟨extra, isWidth⟩ := Nat.exists_eq_add_of_lt shorter
    have isExtra : digitWidth second - digitWidth first = extra + 1 := by omega
    rw [isExtra]
    rw [isWidth, Nat.add_assoc, Nat.pow_add] at secondBound
    have frontBound : second / 10 ^ (extra + 1) < 10 ^ digitWidth first :=
      Nat.div_lt_of_lt_mul (Nat.mul_comm _ (10 ^ (extra + 1)) ▸ secondBound)
    rw [isWidth, Nat.add_assoc, field_add, append_assoc,
      field_append_lt_iff firstBound frontBound]
    have isBefore := sign_lt_field isSign (Nat.succ_pos extra) second firstRest ('-' :: secondRest)
    simp only [isBefore, and_true]
    exact Nat.le_iff_lt_or_eq.symm
  next notShorter =>
    obtain ⟨extra, isWidth⟩ := Nat.exists_eq_add_of_le (Nat.not_lt.mp notShorter)
    have isExtra : digitWidth first - digitWidth second = extra := by omega
    rw [isExtra]
    rw [isWidth, Nat.pow_add] at firstBound
    have frontBound : first / 10 ^ extra < 10 ^ digitWidth second :=
      Nat.div_lt_of_lt_mul (Nat.mul_comm _ (10 ^ extra) ▸ firstBound)
    rw [isWidth, field_add, append_assoc, field_append_lt_iff frontBound secondBound]
    rcases Nat.eq_zero_or_pos extra with isZero | positive
    · subst isZero
      simp [different]
    · have notBefore : ¬field extra first ++ '-' :: firstRest < '-' :: secondRest :=
        List.lt_asymm (sign_lt_field isSign positive first _ _)
      simp [notBefore]

/-! ## Texts of different years -/

/--
The texts of two years, the first earlier, are in order: the later one has no
sign, or both have the same and the digits are in order.
-/
def YearsInOrder (earlier later : Int) : Prop :=
  0 ≤ later ∧ later ≤ 9999 ∨ 9999 < earlier ∧ DigitsBefore earlier.natAbs later.natAbs ∨
      later < 0 ∧ DigitsBefore earlier.natAbs later.natAbs

instance (earlier later : Int) : Decidable (YearsInOrder earlier later) := by
  unfold YearsInOrder
  infer_instance

variable {year : Int}

theorem yearText_plain (isPlain : 0 ≤ year ∧ year ≤ 9999) : yearText year = field 4 year.natAbs :=
  if_pos isPlain

theorem yearText_late (isLate : 9999 < year) : yearText year = '+' :: yearDigits year.natAbs := by
  rw [yearText, if_neg (by omega), if_neg (by omega)]

theorem yearText_early (isEarly : year < 0) : yearText year = '-' :: yearDigits year.natAbs := by
  rw [yearText, if_neg (by omega), if_pos isEarly]

theorem digitsBefore_comm {first second : Nat} (different : first ≠ second) :
    DigitsBefore second first ↔ ¬DigitsBefore first second := by
  unfold DigitsBefore
  rcases Nat.lt_trichotomy (digitWidth first) (digitWidth second) with shorter | same | longer
  · rw [if_neg (Nat.lt_asymm shorter), if_pos shorter, Nat.not_le]
  · rw [if_neg (by omega), if_neg (by omega), same, Nat.sub_self, Nat.pow_zero, Nat.div_one]
    omega
  · rw [if_pos longer, if_neg (Nat.lt_asymm longer), Nat.not_lt]

def TextsInOrder (condition : Prop) (earlier later : List Char) : Prop :=
  (earlier < later ↔ condition) ∧ (later < earlier ↔ ¬condition)

variable {condition : Prop} {earlier later : List Char}

theorem textsInOrder_of_lt (holds : condition) (before : earlier < later) :
    TextsInOrder condition earlier later :=
  ⟨iff_of_true before holds, iff_of_false (List.lt_asymm before) (not_not_intro holds)⟩

theorem textsInOrder_of_gt (fails : ¬condition) (behind : later < earlier) :
    TextsInOrder condition earlier later :=
  ⟨iff_of_false (List.lt_asymm behind) fails, iff_of_true behind fails⟩

theorem textsInOrder_of_digits (sign : Char) {earlier later : Nat} (different : earlier ≠ later)
    (isDigits : condition ↔ DigitsBefore earlier later)
    (earlierSmall : earlier < 1000000) (laterSmall : later < 1000000)
    (earlierRest laterRest : List Char) :
    TextsInOrder condition
      (sign :: yearDigits earlier ++ '-' :: earlierRest)
      (sign :: yearDigits later ++ '-' :: laterRest) := by
  constructor
  · rw [cons_append, cons_append, separated_lt_iff,
      yearDigits_lt_iff different earlierSmall laterSmall, isDigits]
  · rw [cons_append, cons_append, separated_lt_iff,
      yearDigits_lt_iff different.symm laterSmall earlierSmall, isDigits]
    exact digitsBefore_comm different

/-- Behind the texts of different years nothing is compared any more. -/
theorem yearText_inOrder {earlier later : Int} (isEarlier : earlier < later)
    (earlierBound : -262143 ≤ earlier) (laterBound : later ≤ 262142)
    (earlierRest laterRest : List Char) :
    TextsInOrder (YearsInOrder earlier later)
      (yearText earlier ++ '-' :: earlierRest) (yearText later ++ '-' :: laterRest) := by
  have minus : ∀ digit : Fin 10, '-' < digitChar digit := by decide
  have plus : ∀ digit : Fin 10, '+' < digitChar digit := by decide
  by_cases isPlain : 0 ≤ later ∧ later ≤ 9999
  · have inOrder : YearsInOrder earlier later := .inl isPlain
    refine textsInOrder_of_lt inOrder ?_
    rw [yearText_plain isPlain]
    by_cases isEarly : earlier < 0
    · rw [yearText_early isEarly]
      exact sign_lt_field minus (by decide) _ _ _
    · rw [yearText_plain (by omega),
        field_append_lt_iff (by omega) (by omega)]
      exact .inl (by omega)
  · by_cases isLate : 9999 < later
    · rw [yearText_late isLate]
      by_cases isEarly : earlier < 0
      · have notInOrder : ¬YearsInOrder earlier later := by
          rintro (plain | ⟨late, -⟩ | ⟨early, -⟩) <;> omega
        rw [yearText_early isEarly]
        refine textsInOrder_of_gt notInOrder ?_
        rw [cons_append, cons_append, cons_lt_cons_iff]
        exact .inl (by decide)
      · by_cases earlierLate : 9999 < earlier
        · rw [yearText_late earlierLate]
          refine textsInOrder_of_digits '+' (by omega) ?_ (by omega) (by omega) _ _
          constructor
          · rintro (plain | ⟨-, digits⟩ | ⟨early, -⟩)
            · omega
            · exact digits
            · omega
          · intro digits
            exact .inr (.inl ⟨earlierLate, digits⟩)
        · have notInOrder : ¬YearsInOrder earlier later := by
            rintro (plain | ⟨late, -⟩ | ⟨early, -⟩) <;> omega
          rw [yearText_plain (by omega)]
          exact textsInOrder_of_gt notInOrder (sign_lt_field plus (by decide) _ _ _)
    · have laterEarly : later < 0 := by omega
      rw [yearText_early laterEarly, yearText_early (by omega)]
      refine textsInOrder_of_digits '-' (by omega) ?_ (by omega) (by omega)
        _ _
      constructor
      · rintro (plain | ⟨late, -⟩ | ⟨-, digits⟩)
        · omega
        · omega
        · exact digits
      · intro digits
        exact .inr (.inr ⟨laterEarly, digits⟩)

/-! ## When texts are in the order of their times -/

/--
The text of a leap second inside a minute stands with, or behind, the text of a
time of the next second.
-/
def Overtakes (first second : CalendarTime) : Prop :=
  first.year = second.year ∧ first.minuteRank = second.minuteRank ∧
    second.second = first.second + 1 ∧ 1000000 + second.microsecond ≤ first.microsecond

/-- What two times need for their texts to be in their order. -/
def Comparable (first second : CalendarTime) : Prop :=
  (first.year < second.year → YearsInOrder first.year second.year) ∧
    (second.year < first.year → YearsInOrder second.year first.year) ∧
      ¬Overtakes first second ∧ ¬Overtakes second first

instance (first second : CalendarTime) :
    Decidable (Overtakes first second) := by
  unfold Overtakes
  infer_instance

instance (first second : CalendarTime) :
    Decidable (Comparable first second) := by
  unfold Comparable
  infer_instance

theorem print_lt_iff (digits : Nat) (first second : CalendarTime) :
    first.print digits < second.print digits ↔
      yearText first.year ++ clockText digits first <
        yearText second.year ++ clockText digits second := by
  rw [String.lt_iff, print, print, String.toList_ofList, String.toList_ofList]

theorem microsecond_lt (time : CalendarTime) : time.microsecond < 2000000 := by
  have bound := time.nanosecondBound
  unfold microsecond
  unfold nanosPerSecond at bound
  omega

variable {first second : CalendarTime}

theorem orderedAsTexts_of_lt (isEarlier : first.year < second.year) :
    first.OrderedAsTexts second ↔ YearsInOrder first.year second.year := by
  obtain ⟨before, behind⟩ := yearText_inOrder isEarlier first.yearBound.1
    second.yearBound.2 (clockText 6 first).tail (clockText 6 second).tail
  have precedes : first.Precedes second := .inl isEarlier
  have notBehind : ¬second.Precedes first := by
    rintro (later | ⟨same, -⟩) <;> omega
  rw [OrderedAsTexts, print_lt_iff, print_lt_iff]
  constructor
  · intro ordered
    exact before.mp (ordered.1.mpr precedes)
  · intro inOrder
    exact ⟨iff_of_true (before.mpr inOrder) precedes,
      iff_of_false (fun isBehind => behind.mp isBehind inOrder) notBehind⟩

theorem orderedAsTexts_of_eq (sameYear : first.year = second.year) :
    first.OrderedAsTexts second ↔ ¬Overtakes first second ∧ ¬Overtakes second first := by
  have cancels (front left right : List Char) : front ++ left < front ++ right ↔ left < right := by
    rw [append_lt_append_iff rfl]
    simp
  have firstMicros := microsecond_lt first
  have secondMicros := microsecond_lt second
  rw [OrderedAsTexts, print_lt_iff, print_lt_iff, sameYear, cancels, cancels,
    clockText_lt_iff, clockText_lt_iff]
  unfold Precedes Overtakes
  omega

theorem orderedAsTexts_iff (first second : CalendarTime) :
    first.OrderedAsTexts second ↔ first.Comparable second := by
  unfold Comparable
  rcases lt_trichotomy first.year second.year with isEarlier | sameYear | isLater
  · rw [orderedAsTexts_of_lt isEarlier]
    have notLater : ¬second.year < first.year := lt_asymm isEarlier
    have notSame : first.year ≠ second.year := ne_of_lt isEarlier
    simp [Overtakes, isEarlier, notLater, notSame, notSame.symm]
  · rw [orderedAsTexts_of_eq sameYear]
    have notEarlier : ¬first.year < second.year := by omega
    have notLater : ¬second.year < first.year := by omega
    simp [notEarlier, notLater]
  · have swapped : first.OrderedAsTexts second ↔ second.OrderedAsTexts first := And.comm
    rw [swapped, orderedAsTexts_of_lt isLater]
    have notEarlier : ¬first.year < second.year := lt_asymm isLater
    have notSame : first.year ≠ second.year := ne_of_gt isLater
    simp [Overtakes, isLater, notEarlier, notSame, notSame.symm]

theorem comparable_of_plain (firstPlain : first.hasPlainYear) (secondPlain : second.hasPlainYear)
    (firstOnClock : first.isOnClock) (secondOnClock : second.isOnClock) :
    first.Comparable second := by
  have stays
      {first second : CalendarTime}
      (onClock : first.isOnClock) :
      ¬Overtakes first second := by
    rintro ⟨-, -, isNext, isBeyond⟩
    have bound := second.secondBound
    unfold isOnClock nanosPerSecond at onClock
    unfold microsecond at isBeyond
    omega
  exact ⟨fun _ => .inl secondPlain, fun _ => .inl firstPlain,
    stays firstOnClock, stays secondOnClock⟩

end CalendarTime
