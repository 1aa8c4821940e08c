import Rustasea.Library.Fallible
import Rustasea.Schedule.Cron

namespace Rustasea.Schedule

open List Option

open PercentEncoding (splitOnce)

/-!
# What a cron field means

Every part of a field stands for an arithmetic progression, cut to the bounds of
the field.  The parser lists the values of the progressions in order, unless the
loop of a step adds beyond 32 bits: then it comes back to small numbers.
-/

/-! ## Progressions -/

/-- The numbers from `low` to `high` in steps. -/
structure Progression where
  low : Nat
  high : Nat
  step : Nat
  deriving DecidableEq

namespace Progression

def Contains (progression : Progression) (value : Nat) : Prop :=
  progression.low ≤ value ∧ value ≤ progression.high ∧ progression.step ∣ value - progression.low

def run (progression : Progression) : List Nat :=
  stepValues progression.step progression.high (progression.high + 1) progression.low

/-- The counter of the loop comes to a value. -/
inductive Reaches (progression : Progression) : Nat → Prop where
  | start : Reaches progression progression.low
  | next {value : Nat} (reached : Reaches progression value) (within : value ≤ progression.high) :
      Reaches progression ((value + progression.step) % 4294967296)

/-- Some addition of the loop does not fit into 32 bits. -/
def Overflows (progression : Progression) : Prop :=
  ∃ value,
    progression.Reaches value ∧ value ≤ progression.high ∧ 4294967296 ≤ value + progression.step

structure Fits (progression : Progression) : Prop where
  positive : 0 < progression.step
  inRange : progression.step < 4294967296
  small : progression.high < 2147483648

end Progression

def partMeaning (min max : Nat) (part : List Char) : Option Progression :=
  if part = ['*'] then some { low := min, high := max, step := 1 }
  else
    match splitOnce '/' part with
    | some (base, step) => do
      let step ← parseU32 step
      let (low, high) ← stepBounds base min max
      return {
        low := Nat.max low min
        high := Nat.min high max
        step := Nat.max step 1 }
    | none =>
      match splitOnce '-' part with
      | some (low, high) => do
        let low ← parseU32 low
        let high ← parseU32 high
        return { low := Nat.max low min, high := Nat.min high max, step := 1 }
      | none => do
        let value ← parseU32 part
        if min ≤ value ∧ value ≤ max then return { low := value, high := value, step := 1 }
        else none

def fieldMeaning (min max : Nat) (field : List Char) : Option (List Progression) :=
  (split (· = ',') field).mapM fun part => partMeaning min max (trim part)

/-! ## Numbers of 32 bits -/

theorem parseDigits_lt {digits : List Char} {value number : Nat} (small : value < 4294967296)
    (parsed : parseDigits value digits = some number) : number < 4294967296 := by
  induction digits generalizing value with
  | nil => exact Option.some.inj parsed ▸ small
  | cons char rest ih =>
    unfold parseDigits at parsed
    split at parsed
    · dsimp only at parsed
      split at parsed
      · next fits => exact ih fits parsed
      · cases parsed
    · cases parsed

theorem parseU32_lt {text : List Char} {number : Nat} (parsed : parseU32 text = some number) :
    number < 4294967296 := by
  unfold parseU32 at parsed
  split at parsed
  · cases parsed
  · cases parsed
  all_goals exact parseDigits_lt (by decide) parsed

/-! ## The loop of a step -/

theorem le_of_mem_stepValues {step high fuel value found : Nat}
    (pushed : found ∈ stepValues step high fuel value) : found ≤ high := by
  induction fuel generalizing value with
  | zero => exact absurd pushed not_mem_nil
  | succ fuel ih =>
    unfold stepValues at pushed
    split at pushed
    · next within =>
      rcases mem_cons.mp pushed with rfl | later
      · exact within
      · exact ih later
    · exact absurd pushed not_mem_nil

theorem mem_stepValues_iff {step high fuel value : Nat} (positive : 0 < step)
    (small : high < 2147483648) (fits : value ≤ high → value + step < 4294967296)
    (enough : high + 1 ≤ value + fuel) (found : Nat) :
    found ∈ stepValues step high fuel value ↔
      value ≤ found ∧ found ≤ high ∧ step ∣ found - value := by
  induction fuel generalizing value with
  | zero =>
    refine iff_of_false not_mem_nil ?_
    rintro ⟨above, below, -⟩
    omega
  | succ fuel ih =>
    unfold stepValues
    split
    · next within =>
      have noWrap : (value + step) % 4294967296 = value + step := Nat.mod_eq_of_lt (fits within)
      rw [noWrap, mem_cons, ih (by omega) (by omega)]
      constructor
      · rintro (rfl | ⟨above, below, divides⟩)
        · exact ⟨Nat.le_refl _, within, by simp⟩
        · refine ⟨by omega, below, ?_⟩
          have apart : found - value = found - (value + step) + step := by omega
          rw [apart]
          exact Nat.dvd_add divides (Nat.dvd_refl step)
      · rintro ⟨above, below, divides⟩
        rcases Nat.eq_or_lt_of_le above with rfl | later
        · exact .inl rfl
        · right
          have far : step ≤ found - value := Nat.le_of_dvd (by omega) divides
          refine ⟨by omega, below, ?_⟩
          have apart : found - (value + step) = found - value - step := by omega
          rw [apart]
          exact Nat.dvd_sub divides (Nat.dvd_refl step)
    · next past =>
      refine iff_of_false not_mem_nil ?_
      rintro ⟨above, below, -⟩
      omega

namespace Progression

variable {progression : Progression}

theorem le_of_mem_run {value : Nat} (pushed : value ∈ progression.run) : value ≤ progression.high :=
  le_of_mem_stepValues pushed

theorem Reaches.bounds (fits : progression.Fits)
    (firstFits : progression.low ≤ progression.high →
      progression.low + progression.step < 4294967296) {value : Nat}
    (reached : progression.Reaches value) (within : value ≤ progression.high) :
    progression.low ≤ value ∧ (value = progression.low ∨ progression.step ≤ progression.high) := by
  have small := fits.small
  induction reached with
  | start => exact ⟨Nat.le_refl _, .inl rfl⟩
  | @next before _ beforeWithin ih =>
    obtain ⟨above, isFirst | smallStep⟩ := ih beforeWithin
    · have sum := firstFits (isFirst ▸ beforeWithin)
      omega
    · have sum : before + progression.step < 4294967296 := by omega
      omega

theorem overflows_iff (fits : progression.Fits) :
    progression.Overflows ↔
      progression.low ≤ progression.high ∧ 4294967296 ≤ progression.low + progression.step := by
  constructor
  · rintro ⟨value, reached, within, overflows⟩
    by_contra firstFits
    have small := fits.small
    obtain ⟨above, isFirst | smallStep⟩ := reached.bounds fits (by omega) within
    · omega
    · omega
  · rintro ⟨within, overflows⟩
    exact ⟨progression.low, .start, within, overflows⟩

theorem mem_run_iff (fits : progression.Fits) (noOverflow : ¬progression.Overflows)
    (value : Nat) : value ∈ progression.run ↔ progression.Contains value := by
  rw [overflows_iff fits] at noOverflow
  exact mem_stepValues_iff fits.positive fits.small (by omega) (by omega) value

end Progression

/-! ## The parser -/

variable {min max : Nat}

theorem partMeaning_fits (small : max < 2147483648) {part : List Char} {progression : Progression}
    (isPart : partMeaning min max part = some progression) :
    progression.Fits ∧ min ≤ progression.low ∧ progression.high ≤ max := by
  unfold partMeaning at isPart
  split at isPart
  · obtain rfl := Option.some.inj isPart
    exact ⟨⟨Nat.one_pos, Nat.one_lt_two_pow (by decide : 32 ≠ 0), small⟩,
      Nat.le_refl _, Nat.le_refl _⟩
  · split at isPart
    · next base step _ =>
      simp only [bind_eq_bind, bind_eq_some_iff,
        Option.pure_def, Option.some.injEq] at isPart
      obtain ⟨stepValue, isStep, bounds, -, rfl⟩ := isPart
      have inRange := parseU32_lt isStep
      refine ⟨⟨?_, ?_, ?_⟩, Nat.le_max_right _ _, Nat.min_le_right _ _⟩
      · exact Nat.le_max_right _ _
      · exact Nat.max_lt.mpr ⟨inRange, by decide⟩
      · exact Nat.lt_of_le_of_lt (Nat.min_le_right _ _) small
    · split at isPart
      · next low high _ =>
        simp only [bind_eq_bind, bind_eq_some_iff,
          Option.pure_def, Option.some.injEq] at isPart
        obtain ⟨lowValue, -, highValue, -, rfl⟩ := isPart
        refine ⟨⟨Nat.one_pos, ?_, ?_⟩, Nat.le_max_right _ _, Nat.min_le_right _ _⟩
        · exact Nat.one_lt_two_pow (by decide : 32 ≠ 0)
        · exact Nat.lt_of_le_of_lt (Nat.min_le_right _ _) small
      · simp only [bind_eq_bind, bind_eq_some_iff] at isPart
        obtain ⟨value, -, isValue⟩ := isPart
        split at isValue
        · next within =>
          obtain rfl := Option.some.inj isValue
          refine ⟨⟨Nat.one_pos, ?_, ?_⟩, within.1, within.2⟩
          · exact Nat.one_lt_two_pow (by decide : 32 ≠ 0)
          · exact Nat.lt_of_le_of_lt within.2 small
        · cases isValue

theorem mem_run_one {low high : Nat} (small : high < 2147483648) (value : Nat) :
    value ∈ ({ low := low, high := high, step := 1 } : Progression).run ↔
      low ≤ value ∧ value ≤ high := by
  change value ∈ stepValues 1 high (high + 1) low ↔ _
  rw [mem_stepValues_iff Nat.one_pos small (by omega) (by omega)]
  simp

def ReadAs (values? : Option (List Nat)) (meaning? : Option Progression) : Prop :=
  match values?, meaning? with
  | some values, some progression => ∀ value, value ∈ values ↔ value ∈ progression.run
  | none, none => True
  | _, _ => False

theorem parsePart_readAs (min max : Nat) (small : max < 2147483648) (part : List Char) :
    ReadAs (parsePart min max part) (partMeaning min max part) := by
  unfold parsePart partMeaning
  by_cases isStar : part = ['*']
  · rw [if_pos isStar, if_pos isStar]
    intro value
    rw [mem_run_one small, mem_range'_1]
    omega
  · rw [if_neg isStar, if_neg isStar]
    cases splitOnce '/' part with
    | some pieces =>
      obtain ⟨base, step⟩ := pieces
      cases isStep : parseU32 step with
      | none => simp [isStep, ReadAs]
      | some stepValue =>
        cases isBase : stepBounds base min max with
        | none => simp [isBase, ReadAs]
        | some bounds => simp [isStep, isBase, ReadAs, Progression.run]
    | none =>
      cases splitOnce '-' part with
      | some pieces =>
        obtain ⟨low, high⟩ := pieces
        cases isLow : parseU32 low with
        | none => simp [isLow, ReadAs]
        | some lowValue =>
          cases isHigh : parseU32 high with
          | none => simp [isHigh, ReadAs]
          | some highValue =>
            simp only [isLow, isHigh]
            intro value
            rw [mem_run_one (Nat.lt_of_le_of_lt (Nat.min_le_right _ _) small), mem_filter,
              mem_range'_1, decide_eq_true_eq, Nat.max_le]
            change
              _ ↔ _ ∧ value ≤ Nat.min highValue max
            omega
      | none =>
        cases parseU32 part with
        | none => simp [ReadAs]
        | some value =>
          simp only [bind_eq_bind, bind_some]
          by_cases within : min ≤ value ∧ value ≤ max
          · rw [if_pos within, if_pos within]
            intro other
            rw [mem_run_one (Nat.lt_of_le_of_lt within.2 small), mem_singleton]
            omega
          · rw [if_neg within, if_neg within]
            trivial

/-! ## The values of a field -/

variable {values : List Nat}

theorem mem_destutter_ne {value : Nat} : value ∈ values.destutter (· ≠ ·) ↔ value ∈ values := by
  have kept (first : Nat) (rest : List Nat) :
      ∀ value ∈ first :: rest, value ∈ rest.destutter' (· ≠ ·) first := by
    induction rest generalizing first with
    | nil => exact fun value isMember => isMember
    | cons next rest ih =>
      intro value isMember
      rw [destutter'_cons]
      split
      · rcases mem_cons.mp isMember with rfl | inRest
        · exact mem_cons_self
        · exact mem_cons_of_mem _ (ih next value inRest)
      · next same =>
        rw [not_not] at same
        subst same
        apply ih
        simpa using isMember
  constructor
  · exact fun isMember => (destutter_sublist _ values).mem isMember
  · intro isMember
    cases values with
    | nil => exact isMember
    | cons first rest => exact kept first rest value isMember

theorem pairwise_sorted_destutter (values : List Nat) :
    ((values.insertionSort (· ≤ ·)).destutter (· ≠ ·)).Pairwise (· < ·) := by
  have ascending : ((values.insertionSort (· ≤ ·)).destutter (· ≠ ·)).Pairwise (· ≤ ·) :=
    (pairwise_insertionSort (· ≤ ·) values).sublist (destutter_sublist _ _)
  have different := isChain_destutter (· ≠ ·) (values.insertionSort (· ≤ ·))
  rw [← isChain_iff_pairwise]
  have chain := ascending.isChain
  rw [isChain_iff_getElem] at chain different ⊢
  exact fun index within => Nat.lt_of_le_of_ne (chain index within) (different index within)

theorem parts_readAs (min max : Nat) (small : max < 2147483648) (parts : List (List Char)) :
    ((parts.mapM fun part => parsePart min max (trim part)) = none ∧
      (parts.mapM fun part => partMeaning min max (trim part)) = none) ∨
      ∃ read progressions, (parts.mapM fun part => parsePart min max (trim part)) = some read ∧
        (parts.mapM fun part => partMeaning min max (trim part)) = some progressions ∧
        ∀ value, value ∈ read.flatten ↔ ∃ progression ∈ progressions, value ∈ progression.run := by
  induction parts with
  | nil => exact .inr ⟨[], [], rfl, rfl, by simp⟩
  | cons part rest ih =>
    have isRead := parsePart_readAs min max small (trim part)
    rw [mapM_cons, mapM_cons]
    cases isPart : parsePart min max (trim part) with
    | none =>
      cases isMeaning : partMeaning min max (trim part) with
      | none => exact .inl ⟨rfl, rfl⟩
      | some progression =>
        rw [isPart, isMeaning] at isRead
        exact isRead.elim
    | some values =>
      cases isMeaning : partMeaning min max (trim part) with
      | none =>
        rw [isPart, isMeaning] at isRead
        exact isRead.elim
      | some progression =>
        rw [isPart, isMeaning] at isRead
        rcases ih with ⟨unread, noMeaning⟩ | ⟨read, progressions, isRest, means, same⟩
        · rw [unread, noMeaning]
          exact .inl ⟨rfl, rfl⟩
        · rw [isRest, means]
          refine .inr ⟨values :: read, progression :: progressions, rfl, rfl, fun value => ?_⟩
          rw [flatten_cons, mem_append, isRead value, same value,
            exists_mem_cons_iff]

theorem parseField_spec (min max : Nat) (small : max < 2147483648) (field : List Char) :
    (parseField field min max = none ∧ fieldMeaning min max field = none) ∨
      ∃ values progressions, parseField field min max = some values ∧
        fieldMeaning min max field = some progressions ∧ values.Pairwise (· < ·) ∧
        ∀ value, value ∈ values ↔ ∃ progression ∈ progressions, value ∈ progression.run := by
  unfold parseField fieldMeaning
  rcases parts_readAs min max small (split (· = ',') field) with
    ⟨unread, noMeaning⟩ | ⟨read, progressions, isRead, means, same⟩
  · rw [unread, noMeaning]
    exact .inl ⟨rfl, rfl⟩
  · rw [isRead, means]
    refine .inr ⟨_, progressions, rfl, rfl, pairwise_sorted_destutter _, fun value => ?_⟩
    rw [mem_destutter_ne, mem_insertionSort, same value]

variable {progressions : List Progression}

theorem fieldMeaning_fits (small : max < 2147483648) {field : List Char}
    (means : fieldMeaning min max field = some progressions) :
    ∀ progression ∈ progressions,
      progression.Fits ∧ min ≤ progression.low ∧ progression.high ≤ max := by
  have parts := Fallible.mapM_eq_some_iff.mp means
  generalize split (· = ',') field = texts at parts
  clear means
  induction parts with
  | nil => exact fun _ isMember => absurd isMember not_mem_nil
  | cons isPart _ ih =>
    intro progression isMember
    rcases mem_cons.mp isMember with rfl | inRest
    · exact partMeaning_fits small isPart
    · exact ih progression inRest

/-- The values read of a field: they ascend, and are pushed by its loops. -/
structure FieldRead (min max : Nat) (values : List Nat)
    (progressions : List Progression) : Prop where
  ascending : values.Pairwise (· < ·)
  mem_iff : ∀ value, value ∈ values ↔ ∃ progression ∈ progressions, value ∈ progression.run
  fits :
    ∀ progression ∈ progressions, progression.Fits ∧ min ≤ progression.low ∧ progression.high ≤ max

theorem parseField_cases (min max : Nat) (small : max < 2147483648) (field : List Char) :
    (parseField field min max = none ∧ fieldMeaning min max field = none) ∨
      ∃ values progressions, parseField field min max = some values ∧
        fieldMeaning min max field = some progressions ∧ FieldRead min max values progressions := by
  rcases parseField_spec min max small field with
    unread | ⟨values, progressions, isRead, means, ascending, same⟩
  · exact .inl unread
  · exact .inr
      ⟨values, progressions, isRead, means, ⟨ascending, same, fieldMeaning_fits small means⟩⟩

def Allows (progressions : List Progression) (value : Nat) : Prop :=
  ∃ progression ∈ progressions, progression.Contains value

theorem FieldRead.bounds (isRead : FieldRead min max values progressions) {value : Nat}
    (allowed : Allows progressions value) : min ≤ value ∧ value ≤ max := by
  obtain ⟨progression, isMember, above, below, -⟩ := allowed
  obtain ⟨-, low, high⟩ := isRead.fits progression isMember
  exact ⟨Nat.le_trans low above, Nat.le_trans below high⟩

theorem FieldRead.mem_iff_allows (isRead : FieldRead min max values progressions)
    (noOverflow : ∀ progression ∈ progressions, ¬progression.Overflows)
    (value : Nat) : value ∈ values ↔ Allows progressions value := by
  rw [isRead.mem_iff]
  refine exists_congr fun progression => and_congr_right fun isMember => ?_
  exact Progression.mem_run_iff (isRead.fits progression isMember).1
    (noOverflow progression isMember) value

end Rustasea.Schedule
