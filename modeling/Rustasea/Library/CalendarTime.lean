import Rustasea.Library.Timestamp

/-!
# Calendar times

A time of day on a calendar date, in UTC, to the nanosecond.  A leap second
stands in the second before it, with a second or more of nanoseconds; its text
shows the next second.  A text has four digits of the year, or a sign and as
many as it takes.
-/

def daysInMonth (year : Int) (month : Nat) : Nat :=
  if month = 2 then if year % 4 = 0 ∧ (year % 100 ≠ 0 ∨ year % 400 = 0) then 29 else 28
  else if month = 4 ∨ month = 6 ∨ month = 9 ∨ month = 11 then 30
  else 31

def nanosPerSecond : Nat := 1000000000

@[ext]
structure CalendarTime where
  year : Int
  month : Nat
  day : Nat
  hour : Nat
  minute : Nat
  second : Nat
  nanosecond : Nat
  yearBound : -262143 ≤ year ∧ year ≤ 262142
  monthBound : 1 ≤ month ∧ month ≤ 12
  dayBound : 1 ≤ day ∧ day ≤ daysInMonth year month
  hourBound : hour < 24
  minuteBound : minute < 60
  secondBound : second < 60
  nanosecondBound : nanosecond < 2 * nanosPerSecond

instance : DecidableEq CalendarTime := fun _ _ => decidable_of_iff _ CalendarTime.ext_iff.symm

namespace CalendarTime

open Timestamp List

def hasPlainYear (time : CalendarTime) : Prop := 0 ≤ time.year ∧ time.year ≤ 9999

instance (time : CalendarTime) : Decidable time.hasPlainYear := inferInstanceAs (Decidable (_ ∧ _))

/-- Whether the time is no leap second, or one at the end of a minute. -/
def isOnClock (time : CalendarTime) : Prop := time.nanosecond < nanosPerSecond ∨ time.second = 59

instance (time : CalendarTime) : Decidable time.isOnClock := inferInstanceAs (Decidable (_ ∨ _))

def settle (time : CalendarTime) : CalendarTime :=
  if offClock : nanosPerSecond ≤ time.nanosecond ∧ time.second ≠ 59 then
    { time with
      second := time.second + 1
      nanosecond := time.nanosecond - nanosPerSecond
      secondBound := by
        have := time.secondBound
        omega
      nanosecondBound := by
        have := time.nanosecondBound
        omega }
  else time

def truncate (time : CalendarTime) (unit : Nat) : CalendarTime :=
  { time with
    nanosecond := time.nanosecond - time.nanosecond % unit
    nanosecondBound := lt_of_le_of_lt (Nat.sub_le _ _) time.nanosecondBound }

variable (time : CalendarTime)

theorem isOnClock_settle : time.settle.isOnClock := by
  unfold settle isOnClock
  split
  · next offClock =>
    left
    have := time.nanosecondBound
    show time.nanosecond - nanosPerSecond < nanosPerSecond
    omega
  · next onClock => omega

theorem settle_eq_self_iff : time.settle = time ↔ time.isOnClock := by
  constructor
  · intro same
    rw [← same]
    exact time.isOnClock_settle
  · intro onClock
    unfold isOnClock at onClock
    rw [settle, dif_neg (by omega)]

theorem truncate_eq_self_iff (unit : Nat) :
    time.truncate unit = time ↔ time.nanosecond % unit = 0 := by
  have atMost : time.nanosecond % unit ≤ time.nanosecond := Nat.mod_le _ _
  constructor
  · intro same
    have sameNanos : time.nanosecond - time.nanosecond % unit =
        time.nanosecond := congrArg CalendarTime.nanosecond same
    omega
  · intro whole
    apply CalendarTime.ext <;> try rfl
    show time.nanosecond - time.nanosecond % unit = time.nanosecond
    omega

@[simp] theorem year_settle : time.settle.year = time.year := by
  unfold settle
  split <;> rfl

@[simp] theorem year_truncate (unit : Nat) : (time.truncate unit).year = time.year :=
  rfl

/-! ## Texts -/

def yearDigits (year : Nat) : List Char :=
  if year < 10000 then field 4 year
  else if year < 100000 then field 5 year
  else field 6 year

def yearText (year : Int) : List Char :=
  if 0 ≤ year ∧ year ≤ 9999 then field 4 year.natAbs
  else (if year < 0 then '-' else '+') :: yearDigits year.natAbs

def clockText (digits : Nat) (time : CalendarTime) : List Char :=
  '-' :: (field 2 time.month ++ '-' :: (field 2 time.day ++
    'T' :: (field 2 time.hour ++ ':' :: (field 2 time.minute ++
      ':' :: (field 2 (time.second + time.nanosecond / nanosPerSecond) ++ '.' :: (field digits
            (time.nanosecond % nanosPerSecond / 10 ^ (9 - digits)) ++
          ['Z']))))))

/-- `YYYY-MM-DDTHH:MM:SS.fZ`, with some digits of the second's fraction. -/
def print (digits : Nat) (time : CalendarTime) : String :=
  String.ofList (yearText time.year ++ clockText digits time)

theorem length_clockText (digits : Nat) (time : CalendarTime) :
    (clockText digits time).length = 17 + digits := by
  simp only [clockText, length_cons, length_append, length_field, length_nil]
  omega

theorem length_yearText_le (year : Int) : (yearText year).length ≤ 7 := by
  unfold yearText yearDigits
  split_ifs <;> simp

variable {digits : Nat}

theorem length_print_lt (few : digits ≤ 7) (time : CalendarTime) :
    (print digits time).toList.length < 32 := by
  have yearLength := length_yearText_le time.year
  rw [print, String.toList_ofList, length_append, length_clockText]
  omega

def alphabet : List Char := "0123456789+-:.TZ".toList

theorem digitChar_mem_alphabet : ∀ digit : Fin 10, digitChar digit ∈ alphabet := by
  decide

variable {character : Char}

theorem mem_alphabet_of_mem_field {width number : Nat} (isIn : character ∈ field width number) :
    character ∈ alphabet := by
  induction width generalizing number with
  | zero => cases isIn
  | succ width ih =>
    rcases mem_append.mp isIn with front | last
    · exact ih front
    · rw [mem_singleton.mp last]
      exact digitChar_mem_alphabet ⟨number % 10, Nat.mod_lt _ (by decide)⟩

variable {year : Int}

theorem mem_alphabet_of_mem_yearText (isIn : character ∈ yearText year) : character ∈ alphabet := by
  have ofDigits : character ∈ yearDigits year.natAbs → character ∈ alphabet := by
    unfold yearDigits
    split_ifs <;> exact mem_alphabet_of_mem_field
  unfold yearText at isIn
  split_ifs at isIn
  · exact mem_alphabet_of_mem_field isIn
  all_goals
    rcases mem_cons.mp isIn with rfl | inDigits
    · decide
    · exact ofDigits inDigits

theorem mem_alphabet_of_mem_print {time : CalendarTime}
    (isIn : character ∈ (print digits time).toList) : character ∈ alphabet := by
  rw [print, String.toList_ofList, mem_append] at isIn
  rcases isIn with inYear | inClock
  · exact mem_alphabet_of_mem_yearText inYear
  · simp only [clockText, mem_cons, mem_append, not_mem_nil, or_false] at inClock
    rcases inClock with rfl | inField | rfl | inField | rfl | inField | rfl |
      inField | rfl | inField | rfl | inField | rfl
    all_goals first
      | exact mem_alphabet_of_mem_field inField
      | decide

/-! ## Reading -/

def number (characters : List Char) : Nat :=
  characters.foldl (fun value digit => value * 10 + (digit.toNat - 48)) 0

theorem toNat_digitChar : ∀ digit : Fin 10, (digitChar digit).toNat - 48 = digit := by
  decide

theorem number_field {width value : Nat} (fits : value < 10 ^ width) :
    number (field width value) = value := by
  induction width generalizing value with
  | zero =>
    have isZero : value = 0 := by omega
    rw [isZero]
    rfl
  | succ width ih =>
    rw [Nat.pow_succ] at fits
    have front := ih (Nat.div_lt_of_lt_mul (Nat.mul_comm _ 10 ▸ fits))
    have last : (digitChar (value % 10)).toNat - 48 = value % 10 :=
      toNat_digitChar ⟨value % 10, Nat.mod_lt _ (by decide)⟩
    unfold number at front
    rw [number, field, foldl_append, foldl_cons, foldl_nil]
    omega

def readYear : List Char → Int
  | '+' :: digits => number digits
  | '-' :: digits => -number digits
  | digits => number digits

theorem readYear_yearText (bound : -262143 ≤ year ∧ year ≤ 262142) :
    readYear (yearText year) = year := by
  have ofDigits : (number (yearDigits year.natAbs) : Nat) = year.natAbs := by
    unfold yearDigits
    split_ifs
    all_goals exact number_field (by omega)
  have unsigned : ∀ digit : Fin 10, digitChar digit ≠ '+' ∧ digitChar digit ≠ '-' := by decide
  unfold yearText
  split_ifs with plain negative
  · have first := unsigned ⟨year.natAbs / 10 / 10 / 10 % 10,
      Nat.mod_lt _ (by decide)⟩
    have read : readYear (field 4 year.natAbs) = number (field 4 year.natAbs) := by
      simp only [readYear]
      split
      · next isPlus => exact absurd (List.cons.inj isPlus).1 first.1
      · next isMinus => exact absurd (List.cons.inj isMinus).1 first.2
      · rfl
    rw [read, number_field (by omega)]
    omega
  · show -(number (yearDigits year.natAbs) : Int) = year
    omega
  · show (number (yearDigits year.natAbs) : Int) = year
    omega

def ofNumbers (year : Int) (month day hour minute second nanosecond : Nat) : Option CalendarTime :=
  if valid : (-262143 ≤ year ∧ year ≤ 262142) ∧ (1 ≤ month ∧ month ≤ 12) ∧
      (1 ≤ day ∧ day ≤ daysInMonth year month) ∧ hour < 24 ∧ minute < 60 ∧
      second < 60 ∧ nanosecond < 2 * nanosPerSecond then
    some
      { year, month, day, hour, minute, second, nanosecond
        yearBound := valid.1
        monthBound := valid.2.1
        dayBound := valid.2.2.1
        hourBound := valid.2.2.2.1
        minuteBound := valid.2.2.2.2.1
        secondBound := valid.2.2.2.2.2.1
        nanosecondBound := valid.2.2.2.2.2.2 }
  else none

theorem ofNumbers_self :
    ofNumbers time.year time.month time.day time.hour time.minute time.second time.nanosecond =
      some time :=
  dif_pos ⟨time.yearBound, time.monthBound, time.dayBound, time.hourBound,
    time.minuteBound, time.secondBound, time.nanosecondBound⟩

def read (digits : Nat) (text : String) : Option CalendarTime :=
  let characters := text.toList
  let width := characters.length - (17 + digits)
  let clock := characters.drop width
  let shown := number ((clock.drop 13).take 2)
  let fraction := number ((clock.drop 16).take digits) * 10 ^ (9 - digits)
  ofNumbers (readYear (characters.take width))
    (number ((clock.drop 1).take 2)) (number ((clock.drop 4).take 2))
    (number ((clock.drop 7).take 2)) (number ((clock.drop 10).take 2))
    (if shown = 60 then 59 else shown)
    (if shown = 60 then nanosPerSecond + fraction else fraction)

theorem unit_dvd (few : digits ≤ 9) : 10 ^ (9 - digits) ∣ nanosPerSecond :=
  ⟨10 ^ digits, by
    rw [← Nat.pow_add, Nat.sub_add_cancel few]
    rfl⟩

theorem fraction_mul (few : digits ≤ 9) (nanoseconds : Nat) :
    nanoseconds % nanosPerSecond / 10 ^ (9 - digits) * 10 ^ (9 - digits) =
      nanoseconds % nanosPerSecond - nanoseconds % 10 ^ (9 - digits) := by
  have split := Nat.div_add_mod' (nanoseconds % nanosPerSecond) (10 ^ (9 - digits))
  rw [Nat.mod_mod_of_dvd nanoseconds (unit_dvd few)] at split
  omega

/-- The second that is shown, read back with the fraction. -/
theorem ofNumbers_shown {unit : Nat} (divides : unit ∣ nanosPerSecond) :
    ofNumbers time.year time.month time.day time.hour time.minute
        (if time.second + time.nanosecond / nanosPerSecond = 60 then 59
          else time.second + time.nanosecond / nanosPerSecond)
        (if time.second + time.nanosecond / nanosPerSecond = 60 then
            nanosPerSecond + (time.nanosecond % nanosPerSecond - time.nanosecond % unit)
          else time.nanosecond % nanosPerSecond - time.nanosecond % unit) =
      some (time.settle.truncate unit) := by
  have secondBound := time.secondBound
  rw [← ofNumbers_self (time.settle.truncate unit)]
  rcases Nat.lt_or_ge time.nanosecond nanosPerSecond with inSecond | leap
  · have isSettled : time.settle = time := (settle_eq_self_iff time).mpr (.inl inSecond)
    rw [isSettled, Nat.div_eq_of_lt inSecond, Nat.mod_eq_of_lt inSecond,
      if_neg (by omega), if_neg (by omega)]
    rfl
  · have carried : time.nanosecond / nanosPerSecond = 1 := Nat.div_eq_of_lt_le (by omega) (by
        have := time.nanosecondBound
        omega)
    have remainder : time.nanosecond % nanosPerSecond = time.nanosecond - nanosPerSecond := by
      have := Nat.div_add_mod time.nanosecond nanosPerSecond
      rw [carried] at this
      omega
    have below : (time.nanosecond - nanosPerSecond) % unit = time.nanosecond % unit := by
      rw [← remainder, Nat.mod_mod_of_dvd _ divides]
    have small := Nat.mod_le (time.nanosecond - nanosPerSecond) unit
    rw [carried, remainder]
    by_cases last : time.second = 59
    · have isSettled : time.settle = time := (settle_eq_self_iff time).mpr (.inr last)
      have nanos :
          nanosPerSecond + (time.nanosecond - nanosPerSecond -
            time.nanosecond % unit) = time.nanosecond - time.nanosecond % unit := by
        omega
      rw [isSettled, last, if_pos rfl, if_pos rfl, nanos, ← last]
      rfl
    · have isSettled : time.settle.truncate unit =
          { time with
            second := time.second + 1
            nanosecond := time.nanosecond - nanosPerSecond -
              (time.nanosecond - nanosPerSecond) % unit
            secondBound := by omega
            nanosecondBound := by
              have := time.nanosecondBound
              omega } := by
        rw [settle, dif_pos ⟨leap, last⟩]
        rfl
      rw [isSettled, if_neg (by omega), if_neg (by omega), ← below]

/-- Reading a text gives the time it means, to its last digit. -/
theorem read_print (few : digits ≤ 9) (time : CalendarTime) :
    read digits (print digits time) = some (time.settle.truncate (10 ^ (9 - digits))) := by
  have width : (yearText time.year ++ clockText digits time).length - (17 + digits) =
      (yearText time.year).length := by
    rw [length_append, length_clockText, Nat.add_sub_cancel]
  have days : daysInMonth time.year time.month ≤ 31 := by
    unfold daysInMonth
    split_ifs <;> omega
  have carried : time.nanosecond / nanosPerSecond < 2 :=
    Nat.div_lt_of_lt_mul (Nat.mul_comm 2 _ ▸ time.nanosecondBound)
  have month : number (((clockText digits time).drop 1).take 2) = time.month := by
    show number (field 2 time.month) = time.month
    have bound := time.monthBound
    exact number_field (by omega)
  have day : number (((clockText digits time).drop 4).take 2) = time.day := by
    show number (field 2 time.day) = time.day
    have bound := time.dayBound
    exact number_field (by omega)
  have hour : number (((clockText digits time).drop 7).take 2) = time.hour := by
    show number (field 2 time.hour) = time.hour
    have bound := time.hourBound
    exact number_field (by omega)
  have minute : number (((clockText digits time).drop 10).take 2) = time.minute := by
    show number (field 2 time.minute) = time.minute
    have bound := time.minuteBound
    exact number_field (by omega)
  have second : number (((clockText digits time).drop 13).take 2) =
      time.second + time.nanosecond / nanosPerSecond := by
    show number (field 2 (time.second + time.nanosecond / nanosPerSecond)) =
      time.second + time.nanosecond / nanosPerSecond
    have bound := time.secondBound
    exact number_field (by omega)
  have fractionText : ((clockText digits time).drop 16).take digits =
      field digits (time.nanosecond % nanosPerSecond / 10 ^ (9 - digits)) :=
    take_left' (length_field _ _)
  have fractionFits : time.nanosecond % nanosPerSecond / 10 ^ (9 - digits) < 10 ^ digits := by
    refine Nat.div_lt_of_lt_mul ?_
    rw [← Nat.pow_add, Nat.sub_add_cancel few]
    exact Nat.mod_lt _ (by decide)
  rw [read, print, String.toList_ofList, width, drop_left, take_left, fractionText,
    readYear_yearText time.yearBound, number_field fractionFits, fraction_mul few, month, day, hour,
    minute, second, ofNumbers_shown time (unit_dvd few)]

end CalendarTime
