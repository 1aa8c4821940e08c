import Mathlib.Data.Int.ConditionallyCompleteOrder
import Rustasea.I18n.Interpolation
import Rustasea.Library.DecimalText
import Rustasea.Schedule.Cron

namespace Rustasea.I18n

open List

open Rustasea.Schedule (isWhitespace trim)

/-!
# Plural forms

A line holds segments between bars, and a segment may start with the counts it is for.  The prefix
is cut out at byte offsets that are looked for one by one; an offset past the end of a text or
inside a character would be a panic, which is `none` below.
-/

abbrev Text := List Char

/-! ## Slices of a text -/

@[grind =] def splitAtByte : Nat → Text → Option (Text × Text)
  | 0, text => some ([], text)
  | _ + 1, [] => none
  | offset + 1, char :: rest =>
    if offset + 1 < char.utf8Size then none
    else (splitAtByte (offset + 1 - char.utf8Size) rest).map fun cut => (char :: cut.1, cut.2)

def sliceFrom (start : Nat) (text : Text) : Option Text := (splitAtByte start text).map (·.2)

def sliceTo (stop : Nat) (text : Text) : Option Text := (splitAtByte stop text).map (·.1)

def slice (start stop : Nat) (text : Text) : Option Text :=
  (sliceTo stop text).bind (sliceFrom start)

def byteAt (offset : Nat) (text : Text) : Option UInt8 :=
  (text.flatMap String.utf8EncodeChar)[offset]?

/-- The offset of the first character that is looked for. -/
@[grind =] def findByte (wanted : Char → Bool) : Text → Option Nat
  | [] => none
  | char :: rest =>
    if wanted char then some 0 else (findByte wanted rest).map (char.utf8Size + ·)

def trimStart (text : Text) : Text := text.dropWhile isWhitespace

/-! ## Forms -/

inductive Form where
  | exact (n : Int)
  | range (low : Int) (lowInclusive : Bool) (high : Option Int) (highInclusive : Bool)
  deriving DecidableEq

@[grind =] def Form.matches (count : Int) : Form → Bool
  | .exact n => count = n
  | .range low lowInclusive high highInclusive =>
    let aboveLow : Bool := if lowInclusive then low ≤ count else low < count
    let belowHigh : Bool :=
      match high with
      | none => true
      | some high => if highInclusive then count ≤ high else count < high
    aboveLow && belowHigh

def parseInteger (text : Text) : Option Int :=
  DecimalText.parseI64 (text.flatMap String.utf8EncodeChar)

def parseBound (text : Text) : Option Int := parseInteger text

def parseHigh (text : Text) : Option (Option Int) :=
  if text = ['*'] then some none else (parseInteger text).map some

/-- The form that a segment starts with, and the message behind it. -/
@[grind =] def parseForm (part : Text) : Option (Option (Form × Text)) :=
  let part := trim part
  match part.head? with
  | none => some none
  | some first =>
    if first = '{' then
      match findByte (· = '}') part with
      | none => some none
      | some stop =>
        (slice 1 stop part).bind fun body =>
          (sliceFrom (stop + 1) part).map fun rest =>
            (parseInteger (trim body)).map fun n => (.exact n, trimStart rest)
    else if first ≠ '[' ∧ first ≠ ']' then some none
    else
      match findByte (· = ',') part with
      | none => some none
      | some comma =>
        (sliceFrom (comma + 1) part).bind fun tail =>
          match findByte (fun char => char = ']' ∨ char = '[') tail with
          | none => some none
          | some close =>
            (byteAt close tail).bind fun closing =>
              (sliceFrom (comma + 1 + close + 1) part).bind fun rest =>
                (slice 1 comma part).bind fun low =>
                  (sliceTo close tail).map fun high =>
                    (parseBound (trim low)).bind fun low =>
                      (parseHigh (trim high)).map fun high =>
                        (.range low (first = '[') high (closing.toNat = ']'.toNat),
                          trimStart rest)

def segments (line : Text) : List Text := (line.splitOn '|').map trim

@[grind =] def chooseForm (line : Text) (count : Int) : Option Text :=
  match segments line with
  | [part] => some part
  | parts =>
    (parts.mapM fun part => (parseForm part).map fun form => (part, form)).map fun parsed =>
      let standard := (parsed.filter (·.2.isNone)).map (·.1)
      let explicit := parsed.filterMap (·.2)
      match explicit.find? (·.1.matches count) with
      | some chosen => chosen.2
      | none => (standard[if count = 1 then 0 else 1]?.or standard.head?).getD line

/-! ## What the prefixes mean -/

@[grind =] def Form.counts : Form → Set Int
  | .exact n => {n}
  | .range low lowInclusive high highInclusive =>
    (if lowInclusive then Set.Ici low else Set.Ioi low) ∩
      match high with
      | none => Set.univ
      | some high => if highInclusive then Set.Iic high else Set.Iio high

/-- A well-formed prefix, with the form it stands for and the message behind it. -/
inductive Explicit : Text → Form → Text → Prop where
  | exact {body rest : Text} {n : Int} (noBrace : '}' ∉ body)
      (isNumber : parseInteger (trim body) = some n) :
      Explicit ('{' :: (body ++ '}' :: rest)) (.exact n) (trimStart rest)
  | range {opening closing : Char} {low high rest : Text} {least : Int} {most : Option Int}
      (opens : opening = '[' ∨ opening = ']') (noComma : ',' ∉ low)
      (closes : closing = ']' ∨ closing = '[') (noBracket : ']' ∉ high ∧ '[' ∉ high)
      (isLeast : parseInteger (trim low) = some least)
      (isMost : parseHigh (trim high) = some most) :
      Explicit (opening :: (low ++ ',' :: (high ++ closing :: rest)))
        (.range least (opening = '[') most (closing = ']')) (trimStart rest)

noncomputable def standards (line : Text) : List Text :=
  open Classical in
  (segments line).filter fun part => ∀ form message, ¬Explicit part form message

/-- The text that a line with several segments has for a count. -/
inductive Chosen (line : Text) (count : Int) : Text → Prop where
  | explicit {before after : List Text} {part message : Text} {form : Form}
      (isSegment : segments line = before ++ part :: after)
      (isExplicit : Explicit part form message) (isFor : count ∈ form.counts)
      (isFirst : ∀ other ∈ before, ∀ form message, Explicit other form message →
        count ∉ form.counts) :
      Chosen line count message
  | standard {message : Text}
      (isForNone : ∀ part ∈ segments line, ∀ form message, Explicit part form message →
        count ∉ form.counts)
      (isStandard : (standards line)[if count = 1 ∨ (standards line).length = 1 then 0 else 1]? =
        some message) :
      Chosen line count message
  | line (isForNone : ∀ part ∈ segments line, ∀ form message, Explicit part form message →
        count ∉ form.counts)
      (allExplicit : standards line = []) : Chosen line count line

/-! ## Finding and cutting -/

variable {text before after : Text} {wanted : Char → Bool} {mark : Char}

theorem splitAtByte_append (before after : Text) :
    splitAtByte (byteLength before) (before ++ after) = some (before, after) := by
  induction before with
  | nil => cases after <;> rfl
  | cons char rest ih =>
    have isPositive := char.utf8Size_pos
    have length : byteLength (char :: rest) = char.utf8Size + byteLength rest := by
      simp [byteLength]
    obtain ⟨offset, isOffset⟩ :=
      Nat.exists_eq_succ_of_ne_zero (Nat.ne_of_gt (Nat.add_pos_left isPositive (byteLength rest)))
    rw [length, isOffset, cons_append, splitAtByte, ← Nat.succ_eq_add_one, ← isOffset,
      if_neg (by omega), Nat.add_sub_cancel_left, ih]
    rfl

theorem findByte_eq_none (isAbsent : ∀ char ∈ text, wanted char = false) :
    findByte wanted text = none := by
  induction text with
  | nil => rfl
  | cons char rest ih =>
    obtain ⟨first, others⟩ := forall_mem_cons.mp isAbsent
    simp [findByte, first, ih others]

theorem findByte_append (after : Text) (isAbsent : ∀ char ∈ before, wanted char = false)
    (isWanted : wanted mark = true) :
    findByte wanted (before ++ mark :: after) = some (byteLength before) := by
  induction before with
  | nil => simp [findByte, isWanted, byteLength]
  | cons char rest ih =>
    obtain ⟨first, others⟩ := forall_mem_cons.mp isAbsent
    simp [findByte, first, ih others, byteLength]

theorem absent_or_split (wanted : Char → Bool) (text : Text) :
    (∀ char ∈ text, wanted char = false) ∨
      ∃ before mark after, text = before ++ mark :: after ∧ wanted mark = true ∧
        ∀ char ∈ before, wanted char = false := by
  induction text with
  | nil => exact .inl nofun
  | cons char rest ih =>
    cases isWanted : wanted char with
    | true => exact .inr ⟨[], char, rest, rfl, isWanted, nofun⟩
    | false =>
      rcases ih with isAbsent | ⟨before, mark, after, rfl, isMark, isAbsent⟩
      · exact .inl (forall_mem_cons.mpr ⟨isWanted, isAbsent⟩)
      · exact
          .inr ⟨char :: before, mark, after, rfl, isMark,
            forall_mem_cons.mpr ⟨isWanted, isAbsent⟩⟩

theorem byteAt_append (isBracket : mark = ']' ∨ mark = '[') :
    byteAt (byteLength before) (before ++ mark :: after) = some (UInt8.ofNat mark.toNat) := by
  have length : byteLength before = (before.flatMap String.utf8EncodeChar).length := by
    simp [byteLength]
  rw [byteAt, flatMap_append, length, getElem?_append_right le_rfl, Nat.sub_self]
  rcases isBracket with rfl | rfl <;> rfl

/-! ## Prefixes -/

variable {part body rest low high message : Text} {opening closing : Char} {form : Form}

theorem sliceFrom_one (isOne : mark.utf8Size = 1) : sliceFrom 1 (mark :: text) = some text := by
  have cut := splitAtByte_append [mark] text
  rw [byteLength, map_singleton, sum_singleton, isOne] at cut
  rw [sliceFrom, cons_append, nil_append] at *
  rw [cut, Option.map_some]

theorem sliceFrom_behind (before after : Text) (isOne : mark.utf8Size = 1) :
    sliceFrom (byteLength before + 1) (before ++ mark :: after) = some after := by
  have cut := splitAtByte_append (before ++ [mark]) after
  have length : byteLength (before ++ [mark]) = byteLength before + 1 := by simp [byteLength, isOne]
  rw [length, append_assoc, singleton_append] at cut
  rw [sliceFrom, cut, Option.map_some]

theorem slice_one (before after : Text) (isOne : opening.utf8Size = 1) :
    slice 1 (byteLength (opening :: before)) (opening :: (before ++ after)) = some before := by
  rw [slice, sliceTo, ← cons_append, splitAtByte_append, Option.map_some, Option.bind_some,
    sliceFrom_one isOne]

theorem parseForm_brace (trimmed : trim part = part) (isPart : part = '{' :: (body ++ '}' :: rest))
    (noBrace : '}' ∉ body) :
    parseForm part =
      some ((parseInteger (trim body)).map fun n => (.exact n, trimStart rest)) := by
  have isAbsent : ∀ char ∈ '{' :: body, decide (char = '}') = false := by
    simp only [forall_mem_cons, decide_eq_false_iff_not]
    exact ⟨by decide, fun char isIn same => noBrace (same ▸ isIn)⟩
  have found := findByte_append rest isAbsent (decide_eq_true rfl)
  have behind := sliceFrom_behind ('{' :: body) rest (show '}'.utf8Size = 1 by decide)
  have within := slice_one body ('}' :: rest) (show '{'.utf8Size = 1 by decide)
  rw [cons_append] at found behind
  rw [parseForm, trimmed, isPart]
  simp [found, within, behind]

theorem parseForm_bracket (trimmed : trim part = part)
    (isPart : part = opening :: (low ++ ',' :: (high ++ closing :: rest)))
    (opens : opening = '[' ∨ opening = ']') (noComma : ',' ∉ low)
    (closes : closing = ']' ∨ closing = '[') (noBracket : ']' ∉ high ∧ '[' ∉ high) :
    parseForm part =
      some ((parseBound (trim low)).bind fun low => (parseHigh (trim high)).map fun high =>
        (.range low (opening = '[') high (closing = ']'), trimStart rest)) := by
  have isOne : opening.utf8Size = 1 := by
    rcases opens with rfl | rfl <;> decide
  have isAbsent : ∀ char ∈ opening :: low, decide (char = ',') = false := by
    simp only [forall_mem_cons, decide_eq_false_iff_not]
    refine ⟨?_, fun char isIn same => noComma (same ▸ isIn)⟩
    rcases opens with rfl | rfl <;> decide
  have found := findByte_append (high ++ closing :: rest) isAbsent (decide_eq_true rfl)
  have isInside : ∀ char ∈ high, decide (char = ']' ∨ char = '[') = false := by
    simp only [decide_eq_false_iff_not, not_or]
    exact fun char isIn =>
      ⟨fun same => noBracket.1 (same ▸ isIn), fun same => noBracket.2 (same ▸ isIn)⟩
  have closed := findByte_append rest isInside (decide_eq_true closes)
  have behind := sliceFrom_behind (opening :: low) (high ++ closing :: rest)
    (show ','.utf8Size = 1 by decide)
  have within := slice_one low (',' :: (high ++ closing :: rest)) isOne
  have last : sliceFrom (byteLength (opening :: low) + 1 + byteLength high + 1)
      (opening :: (low ++ ',' :: (high ++ closing :: rest))) = some rest := by
    have isSmall : closing.utf8Size = 1 := by
      rcases closes with rfl | rfl <;> decide
    have cut := sliceFrom_behind (opening :: (low ++ ',' :: high)) rest isSmall
    have length : byteLength (opening :: (low ++ ',' :: high)) =
        byteLength (opening :: low) + 1 + byteLength high := by
      have isComma : ','.utf8Size = 1 := by decide
      simp only [byteLength, map_cons, map_append, sum_cons, sum_append]
      omega
    rw [← length]
    simpa using cut
  have kind : decide ((UInt8.ofNat closing.toNat).toNat = ']'.toNat) = decide (closing = ']') := by
    rcases closes with rfl | rfl <;> rfl
  rw [cons_append] at found behind
  rw [parseForm, trimmed, isPart]
  have noBrace : opening ≠ '{' := by
    rcases opens with rfl | rfl <;> decide
  have isBracket : ¬(opening ≠ '[' ∧ opening ≠ ']') :=
    not_and_or.mpr (opens.imp not_not.mpr not_not.mpr)
  simp only [head?_cons, if_neg noBrace, if_neg isBracket, found, behind, closed,
    byteAt_append closes, last, within, sliceTo, splitAtByte_append, kind, Option.bind_some,
    Option.map_some]

theorem parseForm_of_explicit (trimmed : trim part = part)
    (isExplicit : Explicit part form message) : parseForm part = some (some (form, message)) := by
  cases isExplicit with
  | exact noBrace isNumber => rw [parseForm_brace trimmed rfl noBrace, isNumber, Option.map_some]
  | range opens noComma closes noBracket isLeast isMost =>
    rw [parseForm_bracket trimmed rfl opens noComma closes noBracket, parseBound, isLeast,
      Option.bind_some, isMost, Option.map_some]

/-- Parsing never panics, and finds well-formed prefixes only. -/
theorem exists_parseForm (trimmed : trim part = part) :
    ∃ result, parseForm part = some result ∧
      ∀ form message, result = some (form, message) → Explicit part form message := by
  cases part with
  | nil => exact ⟨none, rfl, nofun⟩
  | cons first rest =>
    by_cases isBrace : first = '{'
    · subst isBrace
      rcases absent_or_split (fun char => char = '}') rest with
        isAbsent | ⟨body, mark, after, rfl, isMark, isAbsent⟩
      · refine ⟨none, ?_, nofun⟩
        have absent : findByte (fun char => char = '}') ('{' :: rest) = none :=
          findByte_eq_none (forall_mem_cons.mpr ⟨by decide, isAbsent⟩)
        simp [parseForm, trimmed, absent]
      · obtain rfl := of_decide_eq_true isMark
        have noBrace : '}' ∉ body := fun isIn => absurd (isAbsent _ isIn) (by decide)
        refine ⟨_, parseForm_brace trimmed rfl noBrace, fun form message isRead => ?_⟩
        obtain ⟨n, isNumber, same⟩ := Option.map_eq_some_iff.mp isRead
        cases same
        exact .exact noBrace isNumber
    · by_cases opens : first = '[' ∨ first = ']'
      · have isOther : ¬(first ≠ '[' ∧ first ≠ ']') :=
          not_and_or.mpr (opens.imp not_not.mpr not_not.mpr)
        rcases absent_or_split (fun char => char = ',') rest with
          isAbsent | ⟨low, mark, tail, rfl, isMark, isAbsent⟩
        · refine ⟨none, ?_, nofun⟩
          have absent : findByte (fun char => char = ',') (first :: rest) = none :=
            findByte_eq_none
              (forall_mem_cons.mpr ⟨by rcases opens with rfl | rfl <;> decide, isAbsent⟩)
          simp [parseForm, trimmed, if_neg isBrace, absent]
        · obtain rfl := of_decide_eq_true isMark
          have noComma : ',' ∉ low := fun isIn => absurd (isAbsent _ isIn) (by decide)
          rcases absent_or_split (fun char => char = ']' ∨ char = '[') tail with
            notClosed | ⟨high, closing, after, rfl, isClosing, isInside⟩
          · refine ⟨none, ?_, nofun⟩
            have isAhead : ∀ char ∈ first :: low, decide (char = ',') = false :=
              forall_mem_cons.mpr ⟨by rcases opens with rfl | rfl <;> decide, isAbsent⟩
            have found := findByte_append tail isAhead (decide_eq_true rfl)
            have behind := sliceFrom_behind (first :: low) tail (show ','.utf8Size = 1 by decide)
            rw [cons_append] at found behind
            simp only [parseForm, trimmed, head?_cons, if_neg isBrace, if_neg isOther, found,
              behind, Option.bind_some, findByte_eq_none notClosed]
          · have closes := of_decide_eq_true isClosing
            have noBracket : ']' ∉ high ∧ '[' ∉ high :=
              ⟨fun isIn => absurd (isInside _ isIn) (by decide),
                fun isIn => absurd (isInside _ isIn) (by decide)⟩
            refine ⟨_, parseForm_bracket trimmed rfl opens noComma closes noBracket,
              fun form message isRead => ?_⟩
            obtain ⟨least, isLeast, isRead⟩ := Option.bind_eq_some_iff.mp isRead
            obtain ⟨most, isMost, same⟩ := Option.map_eq_some_iff.mp isRead
            cases same
            exact .range opens noComma closes noBracket isLeast isMost
      · refine ⟨none, ?_, nofun⟩
        simp [parseForm, trimmed, if_neg isBrace, if_pos (not_or.mp opens)]

theorem matches_iff (form : Form) (count : Int) :
    form.matches count = true ↔ count ∈ form.counts := by
  cases form with
  | exact n => simp [Form.matches, Form.counts]
  | range low lowInclusive high highInclusive =>
    cases lowInclusive <;> cases high <;> cases highInclusive <;> simp [Form.matches, Form.counts]

/-! ## Lines -/

def formOf (part : Text) : Option (Form × Text) := (parseForm part).join

section Lines

variable {line : Text} {count : Int} {parts : List Text}

theorem parseForm_eq (trimmed : trim part = part) : parseForm part = some (formOf part) := by
  obtain ⟨result, isResult, -⟩ := exists_parseForm trimmed
  rw [formOf, isResult]
  rfl

theorem formOf_eq_some_iff (trimmed : trim part = part) :
    formOf part = some (form, message) ↔ Explicit part form message := by
  constructor
  · intro isRead
    obtain ⟨result, isResult, isExplicit⟩ := exists_parseForm trimmed
    refine isExplicit form message ?_
    rwa [formOf, isResult] at isRead
  · intro isExplicit
    rw [formOf, parseForm_of_explicit trimmed isExplicit]
    rfl

theorem trim_of_mem_segments (isIn : part ∈ segments line) : trim part = part := by
  obtain ⟨text, -, rfl⟩ := mem_map.mp isIn
  exact Schedule.trim_trim text

theorem mapM_parseForm (trimmed : ∀ part ∈ parts, trim part = part) :
    (parts.mapM fun part => (parseForm part).map fun form => (part, form)) =
      some (parts.map fun part => (part, formOf part)) := by
  induction parts with
  | nil => rfl
  | cons part rest ih =>
    obtain ⟨first, others⟩ := forall_mem_cons.mp trimmed
    rw [mapM_cons, parseForm_eq first, ih others]
    rfl

theorem standards_eq (line : Text) :
    standards line = (segments line).filter fun part => (formOf part).isNone := by
  classical
  refine filter_congr fun part isIn => ?_
  rw [Bool.eq_iff_iff, decide_eq_true_iff, Option.isNone_iff_eq_none,
    Option.eq_none_iff_forall_ne_some]
  constructor
  · rintro isStandard ⟨form, message⟩ isRead
    exact isStandard form message ((formOf_eq_some_iff (trim_of_mem_segments isIn)).mp isRead)
  · intro notRead form message isExplicit
    exact notRead _ ((formOf_eq_some_iff (trim_of_mem_segments isIn)).mpr isExplicit)

@[grind =] def pick (line : Text) (count : Int) : Text :=
  let standard := (segments line).filter fun part => (formOf part).isNone
  match ((segments line).filterMap formOf).find? (·.1.matches count) with
  | some chosen => chosen.2
  | none => (standard[if count = 1 then 0 else 1]?.or standard.head?).getD line

theorem chooseForm_eq (several : 2 ≤ (segments line).length) :
    chooseForm line count = some (pick line count) := by
  unfold chooseForm pick
  split
  · next isSingle => simp [isSingle] at several
  · rw [mapM_parseForm fun _ => trim_of_mem_segments, Option.map_some]
    simp [filter_map, Function.comp_def]

theorem chosen_pick (line : Text) (count : Int) : Chosen line count (pick line count) := by
  unfold pick
  rw [find?_filterMap]
  cases found : (segments line).find? fun part => (formOf part).any (·.1.matches count) with
  | some part =>
    obtain ⟨fits, before, after, isSegment, others⟩ := find?_eq_some_iff_append.mp found
    obtain ⟨⟨form, message⟩, isForm, isFor⟩ := (Option.any_eq_true _ _).mp fits
    have trimmed : ∀ other ∈ before ++ part :: after, trim other = other :=
      fun other isIn => trim_of_mem_segments (isSegment ▸ isIn)
    rw [Option.bind_some, isForm]
    refine .explicit isSegment ((formOf_eq_some_iff (trimmed part (by simp))).mp isForm)
      ((matches_iff form count).mp isFor) fun other isIn form message isExplicit isForm => ?_
    have isRead := (formOf_eq_some_iff (trimmed other (mem_append_left _ isIn))).mpr isExplicit
    simpa [isRead, (matches_iff form count).mpr isForm] using others other isIn
  | none =>
    have isForNone : ∀ part ∈ segments line, ∀ form message, Explicit part form message →
        count ∉ form.counts := by
      intro part isIn form message isExplicit isFor
      have isRead := (formOf_eq_some_iff (trim_of_mem_segments isIn)).mpr isExplicit
      have unfit := find?_eq_none.mp found part isIn
      simp [isRead, (matches_iff form count).mpr isFor] at unfit
    rw [← standards_eq]
    cases isStandard : standards line with
    | nil => exact .line isForNone isStandard
    | cons first rest =>
      refine .standard isForNone ?_
      rw [isStandard]
      by_cases isOne : count = 1
      · simp [isOne]
      · cases rest <;> simp [isOne]

end Lines

/--
A form is always chosen, without a panic; of a line with several segments it is the message of the
first well-formed prefix for the count, or else the standard segment for it.
-/
theorem chooseForm_chosen (line : Text) (count : Int) :
    ∃ text, chooseForm line count = some text ∧
      (2 ≤ (segments line).length → Chosen line count text) := by
  by_cases several : 2 ≤ (segments line).length
  · exact ⟨pick line count, chooseForm_eq several, fun _ => chosen_pick line count⟩
  · unfold chooseForm
    split
    · next part isSingle => exact ⟨part, rfl, fun isSeveral => absurd isSeveral several⟩
    · rw [mapM_parseForm fun _ => trim_of_mem_segments]
      exact ⟨_, rfl, fun isSeveral => absurd isSeveral several⟩

end Rustasea.I18n
