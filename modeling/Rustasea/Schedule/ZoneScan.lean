import Rustasea.Library.BoundedScan
import Rustasea.Schedule.Cron

namespace Rustasea.Schedule

/-!
# The next run in a time zone

Both searches are bounded scans.  The one in a zone walks the wall clock and maps
every matching minute back to the instants that show it; what it returns is the
first answer of that walk, which need not be the first instant.  In UTC the two
searches differ in one place: the walk starts at a whole minute, and the one in a
zone refuses that minute when the start has seconds.
-/

/-! ## The scans -/

theorem iterate_minute (index : Nat) (clock : Int) :
    (· + minute)^[index] clock = clock + index * minute := by
  induction index with
  | zero => simp
  | succ index ih =>
    rw [Function.iterate_succ_apply', ih, Int.natCast_succ, Int.add_mul, Int.one_mul, Int.add_assoc]

def matchUtc (fields : CronFields) (clock : Int) : Option Int :=
  if fieldsMatch clock fields then some clock
  else none

def matchLocal (zone : Zone) (fields : CronFields) (start clock : Int) : Option Int :=
  if fieldsMatch clock fields then zone.occurrence start clock
  else none

theorem scanUtc_eq_first (fields : CronFields) (steps : Nat) (cursor : Int) :
    scanUtc fields steps cursor =
      BoundedScan.first (matchUtc fields) (· + minute) steps cursor := by
  induction steps generalizing cursor with
  | zero => rfl
  | succ steps ih =>
    rw [scanUtc, BoundedScan.first, ih, matchUtc]
    by_cases isMatch : fieldsMatch cursor fields = true
    · simp [if_pos isMatch]
    · simp [if_neg isMatch]

theorem scanLocal_eq_first (zone : Zone) (fields : CronFields) (start : Int) (steps : Nat)
    (cursor : Int) :
    scanLocal zone fields start steps cursor =
      BoundedScan.first (matchLocal zone fields start) (· + minute) steps cursor := by
  induction steps generalizing cursor with
  | zero => rfl
  | succ steps ih =>
    rw [scanLocal, BoundedScan.first, ih, matchLocal]
    by_cases isMatch : fieldsMatch cursor fields = true
    · simp only [if_pos isMatch]
      cases zone.occurrence start cursor <;> rfl
    · simp [if_neg isMatch]

/-- The instants are those of an expression that has five readable fields. -/
def Matches (expression : String) (clock : Int) : Prop :=
  ∃ fields, parseExpression expression = some fields ∧ fieldsMatch clock fields = true

/-! ## A zone without an offset -/

/-- The wall clock of the zone is UTC. -/
structure Zone.IsUtc (zone : Zone) : Prop where
  toLocal : ∀ instant, zone.toLocal instant = instant
  fromLocal : ∀ clock, zone.fromLocal clock = .single clock

def Zone.utc : Zone where
  toLocal := fun instant => instant
  fromLocal := .single

theorem Zone.utc_isUtc : Zone.utc.IsUtc where
  toLocal := fun _ => rfl
  fromLocal := fun _ => rfl

theorem truncated_bounds (clock : Int) :
    truncated clock ≤ clock ∧ clock < truncated clock + minute := by
  have positive : (0 : Int) < minute := by decide
  have low := Int.emod_nonneg clock (Int.ne_of_gt positive)
  have high := Int.emod_lt_of_pos clock positive
  unfold truncated
  omega

variable {zone : Zone}

theorem matchLocal_utc (isUtc : zone.IsUtc) (fields : CronFields) (start clock : Int) :
    matchLocal zone fields start clock = if start ≤ clock then matchUtc fields clock else none := by
  unfold matchLocal matchUtc Zone.occurrence
  rw [isUtc.fromLocal]
  split <;> simp

theorem le_truncated_iff (reference : Int) :
    reference + minute ≤ truncated (reference + minute) ↔ reference % minute = 0 := by
  have sameRest : (reference + minute) % minute = reference % minute :=
    Int.add_emod_right reference minute
  have low : 0 ≤ reference % minute := Int.emod_nonneg reference (by decide)
  unfold truncated
  omega

theorem scanLocal_utc_eq_iff (isUtc : zone.IsUtc) (fields : CronFields) (reference : Int) :
    scanLocal zone fields (reference + minute) scanLimit (truncated (reference + minute)) =
      scanUtc fields scanLimit (truncated (reference + minute)) ↔
      reference % minute = 0 ∨ ¬fieldsMatch (truncated (reference + minute)) fields = true := by
  have bounds := truncated_bounds (reference + minute)
  have aligned := le_truncated_iff reference
  generalize reference + minute = start at bounds aligned ⊢
  by_cases isMatch : fieldsMatch (truncated start) fields = true
  · rw [scanUtc_of_match (by decide) isMatch, ← aligned]
    constructor
    · intro same
      exact .inl (scanLocal_some same)
    · rintro (reached | notMatch)
      · have answer : matchLocal zone fields start (truncated start) = some (truncated start) := by
          rw [matchLocal_utc isUtc, if_pos reached, matchUtc, if_pos isMatch]
        rw [scanLocal_eq_first, BoundedScan.first_eq_some_iff]
        exact
          ⟨0, by decide, answer, fun earlier isEarlier =>
            absurd isEarlier (Nat.not_lt_zero earlier)⟩
      · exact absurd isMatch notMatch
  · refine iff_of_true ?_ (.inr isMatch)
    rw [scanLocal_eq_first, scanUtc_eq_first]
    apply BoundedScan.first_congr
    intro index _
    cases index with
    | zero => rw [Function.iterate_zero_apply, matchLocal, matchUtc, if_neg isMatch, if_neg isMatch]
    | succ index =>
      -- Every later minute of the walk is past the start.
      have reached : start ≤ truncated start + (index + 1 : Nat) * minute := by
        have positive : (0 : Int) ≤ index * minute :=
          Int.mul_nonneg (Int.natCast_nonneg index) (by decide)
        rw [Int.natCast_succ, Int.add_mul]
        omega
      rw [iterate_minute, matchLocal_utc isUtc, if_pos reached]

/--
In a zone without an offset the two searches agree exactly when the start is a
whole minute, or the whole minute within the minute after it does not match.
-/
theorem nextCronMatchIn_utc_eq_iff
    (zone : Zone) (isUtc : zone.IsUtc) (expression : String) (reference : Int) :
    nextCronMatchIn expression reference (some zone) = nextCronMatchIn expression reference none ↔
      reference % minute = 0 ∨ ¬Matches expression (truncated (reference + minute)) := by
  unfold nextCronMatchIn Matches
  cases parseExpression expression with
  | none => simp
  | some fields =>
    simp only [Option.bind_eq_bind, Option.bind_some, isUtc.toLocal,
      Option.some.injEq, exists_eq_left']
    exact scanLocal_utc_eq_iff isUtc fields reference

theorem nextCronMatchIn_utc_aligned :
    nextCronMatchIn "* * * * *" 0 (some Zone.utc) = nextCronMatchIn "* * * * *" 0 none :=
  (nextCronMatchIn_utc_eq_iff Zone.utc Zone.utc_isUtc "* * * * *" 0).mpr (.inl (by decide))

/-- Half a minute past, the search in a zone is a minute late. -/
theorem nextCronMatchIn_utc_late :
    nextCronMatchIn "* * * * *" 30000000000 none = some 60000000000 ∧
    nextCronMatchIn "* * * * *" 30000000000 (some Zone.utc) = some 120000000000 := by
  decide +kernel

/-! ## A zone with gaps and overlaps -/

/-- A result lists exactly the instants that satisfy a property, in order. -/
def LocalResult.Lists (shows : Int → Prop) : LocalResult → Prop
  | .none => ∀ instant, ¬shows instant
  | .single only => ∀ instant, shows instant ↔ instant = only
  | .ambiguous earliest latest =>
    earliest < latest ∧ ∀ instant, shows instant ↔ instant = earliest ∨ instant = latest

/-- A wall clock is mapped back to exactly the instants that show it. -/
def Zone.Consistent (zone : Zone) : Prop :=
  ∀ clock, (zone.fromLocal clock).Lists fun instant => zone.toLocal instant = clock

structure Zone.FirstShowing (zone : Zone) (start clock found : Int) : Prop where
  showing : zone.toLocal found = clock
  future : start ≤ found
  earliest : ∀ other, zone.toLocal other = clock → start ≤ other → found ≤ other

theorem Zone.occurrence_eq_some_iff (consistent : zone.Consistent) {start clock found : Int} :
    zone.occurrence start clock = some found ↔ zone.FirstShowing start clock found := by
  have lists := consistent clock
  unfold Zone.occurrence
  cases isLocal : zone.fromLocal clock with
  | none =>
    rw [isLocal] at lists
    exact iff_of_false (fun same => by cases same) fun first => lists found first.showing
  | single only =>
    rw [isLocal] at lists
    dsimp only
    split
    · next reached =>
      rw [Option.some.injEq]
      constructor
      · rintro rfl
        exact
          { showing := (lists only).mpr rfl
            future := reached
            earliest := fun other shows _ => Int.le_of_eq ((lists other).mp shows).symm }
      · exact fun first => ((lists found).mp first.showing).symm
    · next past =>
      refine iff_of_false (fun same => by cases same) fun first => ?_
      obtain rfl := (lists found).mp first.showing
      exact past first.future
  | ambiguous earliest latest =>
    rw [isLocal] at lists
    obtain ⟨ordered, lists⟩ := lists
    dsimp only
    split
    · next reached =>
      rw [Option.some.injEq]
      constructor
      · rintro rfl
        refine
          { showing := (lists earliest).mpr (.inl rfl)
            future := reached
            earliest := fun other shows _ => ?_ }
        rcases (lists other).mp shows with rfl | rfl
        · exact Int.le_refl _
        · exact Int.le_of_lt ordered
      · intro first
        have atMost := first.earliest earliest ((lists earliest).mpr (.inl rfl)) reached
        rcases (lists found).mp first.showing with rfl | rfl
        · rfl
        · exact absurd ordered (Int.not_lt.mpr atMost)
    · next past =>
      split
      · next reached =>
        rw [Option.some.injEq]
        constructor
        · rintro rfl
          refine
            { showing := (lists latest).mpr (.inr rfl)
              future := reached
              earliest := fun other shows isFuture => ?_ }
          rcases (lists other).mp shows with rfl | rfl
          · exact absurd isFuture past
          · exact Int.le_refl _
        · intro first
          rcases (lists found).mp first.showing with rfl | rfl
          · exact absurd first.future past
          · rfl
      · next bothPast =>
        refine iff_of_false (fun same => by cases same) fun first => ?_
        rcases (lists found).mp first.showing with rfl | rfl
        · exact past first.future
        · exact bothPast first.future

theorem Zone.occurrence_eq_none_iff (consistent : zone.Consistent) {start clock : Int} :
    zone.occurrence start clock = none ↔
      ∀ instant, zone.toLocal instant = clock → instant < start := by
  constructor
  · intro noOccurrence instant shows
    by_contra isPast
    have isFuture : start ≤ instant := Int.not_lt.mp isPast
    have lists := consistent clock
    unfold Zone.occurrence at noOccurrence
    cases isLocal : zone.fromLocal clock with
    | none =>
      rw [isLocal] at lists
      exact lists instant shows
    | single only =>
      rw [isLocal] at lists noOccurrence
      obtain rfl := (lists instant).mp shows
      dsimp only at noOccurrence
      rw [if_pos isFuture] at noOccurrence
      cases noOccurrence
    | ambiguous earliest latest =>
      rw [isLocal] at lists noOccurrence
      dsimp only at noOccurrence
      split at noOccurrence
      · cases noOccurrence
      · next past =>
        split at noOccurrence
        · cases noOccurrence
        · next bothPast =>
          rcases (lists.2 instant).mp shows with rfl | rfl
          · exact past isFuture
          · exact bothPast isFuture
  · intro allPast
    cases isFound : zone.occurrence start clock with
    | none => rfl
    | some found =>
      have first := (Zone.occurrence_eq_some_iff consistent).mp isFound
      exact absurd first.future (Int.not_le.mpr (allPast found first.showing))

variable {fields : CronFields}

theorem matchLocal_eq_some_iff (consistent : zone.Consistent) {start clock found : Int} :
    matchLocal zone fields start clock = some found ↔
      fieldsMatch clock fields = true ∧ zone.FirstShowing start clock found := by
  unfold matchLocal
  rw [← Zone.occurrence_eq_some_iff consistent]
  by_cases isMatch : fieldsMatch clock fields = true
  · rw [if_pos isMatch]
    exact (and_iff_right isMatch).symm
  · rw [if_neg isMatch]
    exact iff_of_false (fun same => by cases same) fun both => isMatch both.1

theorem matchLocal_eq_none_iff (consistent : zone.Consistent) {start clock : Int} :
    matchLocal zone fields start clock = none ↔
      (fieldsMatch clock fields = true →
        ∀ instant, zone.toLocal instant = clock → instant < start) := by
  unfold matchLocal
  rw [← Zone.occurrence_eq_none_iff consistent]
  by_cases isMatch : fieldsMatch clock fields = true
  · rw [if_pos isMatch]
    exact ⟨fun none _ => none, fun none => none isMatch⟩
  · rw [if_neg isMatch]
    exact iff_of_true rfl fun both => absurd both isMatch

def walkMinute (zone : Zone) (reference : Int) (index : Nat) : Int :=
  truncated (zone.toLocal (reference + minute)) + index * minute

/--
What the walk finds at one of its minutes: that minute matches and this instant
shows it first, and the matching minutes before it are shown in the past only.
-/
structure FoundOnWalk (zone : Zone) (expression : String) (reference : Int) (index : Nat)
    (found : Int) : Prop where
  matched : Matches expression (zone.toLocal found)
  first : zone.FirstShowing (reference + minute) (walkMinute zone reference index) found
  passed : ∀ earlier < index, Matches expression (walkMinute zone reference earlier) → ∀ instant,
          zone.toLocal instant = walkMinute zone reference earlier → instant < reference + minute

/--
The search in a zone returns the instant found first on its walk of the wall
clock, and none only if there is none within its 366 days.
-/
theorem nextCronMatchIn_zone (zone : Zone) (consistent : zone.Consistent) (expression : String)
    (reference : Int) :
    (∀ found, nextCronMatchIn expression reference (some zone) = some found ↔
      ∃ index < scanLimit, FoundOnWalk zone expression reference index found) ∧
    ∀ found, nextCronMatchIn expression reference (some zone) = some found → reference < found := by
  have searched (found : Int) : nextCronMatchIn expression reference (some zone) = some found ↔
      ∃ index < scanLimit, FoundOnWalk zone expression reference index found := by
    unfold nextCronMatchIn
    cases isExpression : parseExpression expression with
    | none =>
      refine iff_of_false (fun same => by cases same) ?_
      rintro ⟨index, -, isFound⟩
      obtain ⟨fields, isFields, -⟩ := isFound.matched
      rw [isExpression] at isFields
      cases isFields
    | some fields =>
      have matches_iff (clock : Int) :
          Matches expression clock ↔ fieldsMatch clock fields = true := by
        unfold Matches
        rw [isExpression]
        simp
      simp only [Option.bind_eq_bind, Option.bind_some]
      rw [scanLocal_eq_first, BoundedScan.first_eq_some_iff]
      simp only [iterate_minute, matchLocal_eq_some_iff consistent,
        matchLocal_eq_none_iff consistent, ← matches_iff]
      refine exists_congr fun index => and_congr_right fun _ => ?_
      constructor
      · rintro ⟨⟨isMatch, first⟩, passed⟩
        exact { matched := first.showing.symm ▸ isMatch, first := first, passed := passed }
      · intro isFound
        have isMatch := isFound.matched
        rw [isFound.first.showing] at isMatch
        exact ⟨⟨isMatch, isFound.first⟩, isFound.passed⟩
  refine ⟨searched, fun found isFound => ?_⟩
  obtain ⟨index, -, onWalk⟩ := (searched found).mp isFound
  have future := onWalk.first.future
  have positive : (0 : Int) < minute := by decide
  omega

/-! ## A clock that is set back -/

def hour : Int := 60 * minute

/-- A zone an hour ahead of UTC until the epoch, and in UTC from then on. -/
def setBack : Zone where
  toLocal := fun instant => if instant < 0 then instant + hour else instant
  fromLocal := fun clock =>
    if clock < 0 then .single (clock - hour)
    else if clock < hour then .ambiguous (clock - hour) clock
    else .single clock

theorem setBack_consistent : setBack.Consistent := by
  intro clock
  have positive : (0 : Int) < hour := by decide
  unfold setBack
  dsimp only
  split
  · next before =>
    intro instant
    dsimp only
    split <;> omega
  · next reached =>
    split
    · next within =>
      refine ⟨by omega, fun instant => ?_⟩
      dsimp only
      split <;> omega
    · next after =>
      intro instant
      dsimp only
      split <;> omega

theorem nextCronMatchIn_zone_setBack :
    (∃ index < scanLimit, FoundOnWalk setBack "0 * * * *" (-(30 * minute)) index hour) ∧
    -(30 * minute) < hour :=
  have isFound : nextCronMatchIn "0 * * * *" (-(30 * minute)) (some setBack) = some hour := by
    decide +kernel
  ⟨((nextCronMatchIn_zone setBack setBack_consistent "0 * * * *"
      (-(30 * minute))).1 hour).mp isFound,
    (nextCronMatchIn_zone setBack setBack_consistent "0 * * * *" (-(30 * minute))).2 hour isFound⟩

/-- The full hour shown at the epoch is earlier, and behind the walk. -/
theorem setBack_earlier_match :
    setBack.Consistent ∧ nextCronMatchIn "0 * * * *" (-(30 * minute)) (some setBack) = some hour ∧
    -(30 * minute) < 0 ∧ 0 < hour ∧ Matches "0 * * * *" (setBack.toLocal 0) := by
  refine ⟨setBack_consistent, by decide +kernel, by decide, by decide, ?_⟩
  exact ⟨_, rfl, by decide +kernel⟩

end Rustasea.Schedule
