import Mathlib.Data.List.ReduceOption
import Rustasea.Library.Framing

/-!
# Reading UTF-8 byte by byte

A reader keeps the bits of a character that is not complete yet, and the bytes
that the character still owes.  Ill-formed text is read in maximal parts, each
of which is one error.  Strict reading fails on an error, lossy reading puts a
replacement character in its place.
-/

namespace Utf8

open List

/-- The least and the greatest byte that may come next. -/
structure Range where
  low : Nat
  high : Nat
  deriving DecidableEq

def Range.Holds (range : Range) (byte : UInt8) : Prop :=
  range.low ≤ byte.toNat ∧ byte.toNat ≤ range.high

instance (range : Range) (byte : UInt8) : Decidable (range.Holds byte) :=
  inferInstanceAs (Decidable (_ ∧ _))

def tail : Range :=
  { low := 0x80, high := 0xBF }

/-- Where the reader stands between two bytes. -/
inductive State where
  | start
  | within (bits : Nat) (next : Range) (more : List Range)
  deriving DecidableEq

/-- The state after the first byte of a longer character. -/
def lead (byte : Nat) : Option State :=
  if 0xC2 ≤ byte ∧ byte ≤ 0xDF then some (.within (byte % 0x20) tail [])
  else if byte = 0xE0 then some (.within 0 { tail with low := 0xA0 } [tail])
  else if byte = 0xED then some (.within 0xD { tail with high := 0x9F } [tail])
  else if 0xE1 ≤ byte ∧ byte ≤ 0xEF then some (.within (byte % 0x10) tail [tail])
  else if byte = 0xF0 then some (.within 0 { tail with low := 0x90 } [tail, tail])
  else if 0xF1 ≤ byte ∧ byte ≤ 0xF3 then some (.within (byte % 0x08) tail [tail, tail])
  else if byte = 0xF4 then some (.within 0x4 { tail with high := 0x8F } [tail, tail])
  else none

abbrev Piece := Option Char

def begin (byte : UInt8) : List Piece × State :=
  if byte.toNat < 0x80 then ([some (Char.ofNat byte.toNat)], .start)
  else
    match lead byte.toNat with
    | none => ([none], .start)
    | some state => ([], state)

def step : State → UInt8 → List Piece × State
  | .start, byte => begin byte
  | .within bits next more, byte =>
    if next.Holds byte then
      let bits := bits * 0x40 + byte.toNat % 0x40
      match more with
      | [] => ([some (Char.ofNat bits)], .start)
      | next :: more => ([], .within bits next more)
    else (none :: (begin byte).1, (begin byte).2)

def State.flush : State → List Piece
  | .start => []
  | .within _ _ _ => [none]

def feed : State → List UInt8 → List Piece × State
  | state, [] => ([], state)
  | state, byte :: rest =>
    let stepped := step state byte
    let read := feed stepped.2 rest
    (stepped.1 ++ read.1, read.2)

def pieces (bytes : List UInt8) : List Piece :=
  let read := feed .start bytes
  read.1 ++ read.2.flush

/-- The text with a replacement character for every error. -/
def lossy (bytes : List UInt8) : List Char := (pieces bytes).map fun piece => piece.getD '\uFFFD'

def decode (bytes : List UInt8) : Option (List Char) :=
  if none ∈ pieces bytes then none
  else some (pieces bytes).reduceOption

/-! ## Characters and their bytes -/

/-- Bits of a character of more than one byte, with what it still owes. -/
def Owes : Nat → Range → List Range → Prop
  | bits, next, [] =>
    0x80 ≤ next.low ∧ ∀ byte : UInt8,
        next.Holds byte → (bits * 0x40 + byte.toNat % 0x40).isValidChar ∧
            0x80 ≤ bits * 0x40 + byte.toNat % 0x40
  | bits, next, later :: more =>
    0x80 ≤ next.low ∧
      ∀ byte : UInt8, next.Holds byte → Owes (bits * 0x40 + byte.toNat % 0x40) later more

/-- What is owed completes a character that is not ASCII. -/
def State.Sound : State → Prop
  | .start => True
  | .within bits next more => Owes bits next more

variable {state : State}

theorem sound_lead {byte : Nat} (isLead : lead byte = some state) : state.Sound := by
  unfold lead at isLead
  split_ifs at isLead <;> cases isLead <;>
    simp only [State.Sound, Owes, Range.Holds, tail] <;> grind

theorem sound_begin (byte : UInt8) : (begin byte).2.Sound := by
  unfold begin
  split
  · trivial
  · split
    · trivial
    · next state isLead => exact sound_lead isLead

variable {next : Range}

theorem Owes.low_le {bits : Nat} {more : List Range} (owes : Owes bits next more) :
    0x80 ≤ next.low := by
  cases more <;> exact owes.1

theorem State.Sound.step (sound : state.Sound) (byte : UInt8) : (Utf8.step state byte).2.Sound := by
  cases state with
  | start => exact sound_begin byte
  | within bits next more =>
    rw [Utf8.step]
    split
    · next isOwed =>
      cases more with
      | nil => trivial
      | cons later more => exact sound.2 byte isOwed
    · exact sound_begin byte

theorem State.Sound.feed (sound : state.Sound) (bytes : List UInt8) :
    (Utf8.feed state bytes).2.Sound := by
  induction bytes generalizing state with
  | nil => exact sound
  | cons byte rest ih => exact ih (sound.step byte)

theorem exists_of_lead {byte : Nat} (isLead : lead byte = some state) :
    ∃ bits next more, state = .within bits next more := by
  unfold lead at isLead
  split_ifs at isLead <;> cases isLead <;> exact ⟨_, _, _, rfl⟩

variable {code : Nat}

theorem toNat_ofNat (isValid : code.isValidChar) : (Char.ofNat code).toNat = code := by
  rw [Char.ofNat, dif_pos isValid]
  rfl

def Wide (piece : Piece) : Prop := ∀ char ∈ piece, 0x80 ≤ char.toNat

variable {byte : UInt8}

theorem wide_begin (isWide : 0x80 ≤ byte.toNat) : ∀ piece ∈ (begin byte).1, Wide piece := by
  have notAscii : ¬ byte.toNat < 0x80 := Nat.not_lt.mpr isWide
  unfold begin
  rw [if_neg notAscii]
  split <;> simp [Wide]

theorem wide_step (sound : state.Sound) (isWide : 0x80 ≤ byte.toNat) :
    ∀ piece ∈ (step state byte).1, Wide piece := by
  cases state with
  | start => exact wide_begin isWide
  | within bits next more =>
    rw [step]
    split
    · next isOwed =>
      cases more with
      | nil =>
        obtain ⟨isValid, isHigh⟩ := sound.2 byte isOwed
        simpa [Wide, toNat_ofNat isValid] using isHigh
      | cons later more => simp
    · rw [forall_mem_cons]
      exact ⟨by simp [Wide], wide_begin isWide⟩

theorem step_ascii (sound : state.Sound) (isAscii : byte.toNat < 0x80) :
    step state byte = (state.flush ++ [some (Char.ofNat byte.toNat)], .start) := by
  cases state with
  | start => simp [step, begin, isAscii, State.flush]
  | within bits next more =>
    have unowed : ¬ next.Holds byte := by
      have isHigh := Owes.low_le sound
      unfold Range.Holds
      omega
    simp [step, begin, isAscii, State.flush, unowed]

/-! ## Reading in parts -/

theorem feed_append (state : State) (first second : List UInt8) :
    feed state (first ++ second) = ((feed state first).1 ++
          (feed (feed state first).2 second).1, (feed (feed state first).2 second).2) := by
  induction first generalizing state with
  | nil => rfl
  | cons byte rest ih => simp [feed, ih]

theorem sound_start : State.start.Sound := trivial

theorem sound_feed (bytes : List UInt8) : (feed .start bytes).2.Sound := sound_start.feed bytes

theorem pieces_append_ascii (first second : List UInt8) (isAscii : byte.toNat < 0x80) :
    pieces (first ++ byte :: second) =
      pieces first ++ some (Char.ofNat byte.toNat) :: pieces second := by
  simp [pieces, feed_append, feed, step_ascii (sound_feed first) isAscii]

variable {first : List UInt8}

theorem pieces_append (second : List UInt8) (wellFormed : none ∉ pieces first) :
    pieces (first ++ second) = pieces first ++ pieces second := by
  have completed : (feed .start first).2 = .start := by
    cases ends : (feed .start first).2 with
    | start => rfl
    | within bits next more =>
      refine absurd ?_ wellFormed
      simp [pieces, ends, State.flush]
  simp [pieces, feed_append, completed, State.flush]

theorem isSome_begin (byte : UInt8) : (begin byte).1 ++ (begin byte).2.flush ≠ [] := by
  unfold begin
  split
  · simp
  · split
    · simp
    · next state isLead =>
      obtain ⟨bits, next, more, rfl⟩ := exists_of_lead isLead
      simp [State.flush]

theorem isSome_step (state : State) (byte : UInt8) :
    (step state byte).1 ++ (step state byte).2.flush ≠ [] := by
  cases state with
  | start => exact isSome_begin byte
  | within bits next more =>
    rw [step]
    split
    · cases more <;> simp [State.flush]
    · simp

theorem wide_flush (state : State) : ∀ piece ∈ state.flush, Wide piece := by
  cases state <;> simp [State.flush, Wide]

theorem pieces_concat_wide (first : List UInt8) (isWide : 0x80 ≤ byte.toNat) :
    ∃ before piece, pieces (first ++ [byte]) = before ++ [piece] ∧ Wide piece := by
  have sound := sound_feed first
  have isSome := isSome_step (feed .start first).2 byte
  obtain isNone | ⟨before, piece, isLast⟩ := eq_nil_or_concat' _
  · exact absurd isNone isSome
  · refine ⟨(feed .start first).1 ++ before, piece, ?_, ?_⟩
    · simp [pieces, feed_append, feed, isLast]
    · have isPiece : piece ∈ before ++ [piece] := by simp
      rw [← isLast, mem_append] at isPiece
      rcases isPiece with isRead | isOpen
      · exact wide_step sound isWide _ isRead
      · exact wide_flush _ _ isOpen

variable {bytes : List UInt8} {char : Char}

theorem mem_of_mem_feed (sound : state.Sound) (isRead : some char ∈ (feed state bytes).1)
    (isAscii : char.toNat < 0x80) : ∃ byte ∈ bytes, byte.toNat = char.toNat := by
  induction bytes generalizing state with
  | nil => cases isRead
  | cons byte rest ih =>
    rcases mem_append.mp isRead with isFirst | isLater
    · refine ⟨byte, mem_cons_self, ?_⟩
      by_cases byteAscii : byte.toNat < 0x80
      · rw [step_ascii sound byteAscii, mem_append,
          mem_singleton, Option.some.injEq] at isFirst
        rcases isFirst with isOpen | rfl
        · exact absurd (wide_flush _ _ isOpen char rfl) (by omega)
        · exact (toNat_ofNat (.inl (by omega))).symm
      · have charWide := wide_step sound (Nat.not_lt.mp byteAscii) _ isFirst char rfl
        omega
    · obtain ⟨found, isFound, same⟩ := ih (sound.step byte) isLater
      exact ⟨found, mem_cons_of_mem _ isFound, same⟩

theorem mem_of_mem_pieces (isPiece : some char ∈ pieces bytes) (isAscii : char.toNat < 0x80) :
    ∃ byte ∈ bytes, byte.toNat = char.toNat := by
  rcases mem_append.mp isPiece with isRead | isOpen
  · exact mem_of_mem_feed (sound_feed []) isRead isAscii
  · exact absurd (wide_flush _ _ isOpen char rfl) (by omega)

/-! ## Lossy reading -/

theorem lossy_append_ascii (first second : List UInt8) (isAscii : byte.toNat < 0x80) :
    lossy (first ++ byte :: second) = lossy first ++ Char.ofNat byte.toNat :: lossy second := by
  simp [lossy, pieces_append_ascii first second isAscii]

theorem mem_of_mem_lossy (isRead : char ∈ lossy bytes) (isAscii : char.toNat < 0x80) :
    ∃ byte ∈ bytes, byte.toNat = char.toNat := by
  obtain ⟨piece, isPiece, isChar⟩ := mem_map.mp isRead
  cases piece with
  | none =>
    rw [← isChar] at isAscii
    exact absurd isAscii (by decide)
  | some read =>
    cases isChar
    exact mem_of_mem_pieces isPiece isAscii

theorem notMem_lossy (byte : UInt8) (isAscii : byte.toNat < 0x80) (isAbsent : byte ∉ bytes) :
    Char.ofNat byte.toNat ∉ lossy bytes := by
  have asCode : (Char.ofNat byte.toNat).toNat = byte.toNat := toNat_ofNat (.inl (by omega))
  intro isRead
  obtain ⟨found, isFound, same⟩ := mem_of_mem_lossy isRead (by rwa [asCode])
  rw [asCode] at same
  exact isAbsent (UInt8.toNat_inj.mp same ▸ isFound)

variable {text : List Char}

theorem lossy_eq_concat_ascii (byte : UInt8) (isAscii : byte.toNat < 0x80) :
    lossy bytes = text ++ [Char.ofNat byte.toNat] ↔
      ∃ before, bytes = before ++ [byte] ∧ lossy before = text := by
  have asCode : (Char.ofNat byte.toNat).toNat = byte.toNat := toNat_ofNat (.inl (by omega))
  constructor
  · intro isRead
    obtain rfl | ⟨before, last, rfl⟩ := eq_nil_or_concat' bytes
    · simp [lossy, pieces, feed, State.flush] at isRead
    · by_cases lastAscii : last.toNat < 0x80
      · rw [lossy_append_ascii before [] lastAscii] at isRead
        obtain ⟨sameText, sameChar⟩ := append_inj' isRead rfl
        refine ⟨before, ?_, sameText⟩
        have same := congrArg Char.toNat (List.cons.inj sameChar).1
        rw [asCode, toNat_ofNat (.inl (by omega)), UInt8.toNat_inj] at same
        rw [same]
      · obtain ⟨pieces, piece, arePieces, isWide⟩ :=
          pieces_concat_wide before (Nat.not_lt.mp lastAscii)
        rw [lossy, arePieces, map_append] at isRead
        obtain ⟨-, sameChar⟩ := append_inj' isRead rfl
        have same := congrArg Char.toNat (List.cons.inj sameChar).1
        rw [asCode] at same
        cases piece with
        | none =>
          rw [← same] at isAscii
          exact absurd isAscii (by decide)
        | some char =>
          have isHigh := isWide char rfl
          simp only [Option.getD_some] at same
          omega
  · rintro ⟨before, rfl, rfl⟩
    exact lossy_append_ascii before [] isAscii

/-! ## Strict reading -/

theorem map_some_reduceOption {read : List Piece} (isText : none ∉ read) :
    read.reduceOption.map some = read := by
  induction read with
  | nil => rfl
  | cons piece rest ih =>
    rw [mem_cons, not_or] at isText
    cases piece with
    | none => exact absurd rfl isText.1
    | some char => rw [reduceOption_cons_of_some, map_cons, ih isText.2]

theorem decode_eq_some {text : List Char} :
    decode bytes = some text ↔ pieces bytes = text.map some := by
  unfold decode
  split
  · next isError =>
    refine ⟨fun isNone => (nomatch isNone), fun same => ?_⟩
    rw [same] at isError
    simp at isError
  · next isText =>
    rw [Option.some.injEq]
    constructor
    · rintro rfl
      exact (map_some_reduceOption isText).symm
    · intro same
      rw [same, ← map_id (List.map some text)]
      simp [List.reduceOption]

theorem decode_append (isText : decode first = some text) (second : List UInt8) :
    decode (first ++ second) = (decode second).map (text ++ ·) := by
  rw [decode_eq_some] at isText
  have wellFormed : none ∉ pieces first := by simp [isText]
  ext read
  rw [decode_eq_some, pieces_append second wellFormed, isText, Option.map_eq_some_iff]
  constructor
  · intro same
    obtain ⟨before, rest, rfl, sameBefore, sameRest⟩ := map_eq_append_iff.mp same.symm
    rw [List.map_inj_right (fun _ _ => Option.some.inj)] at sameBefore
    exact ⟨rest, decode_eq_some.mpr sameRest.symm, by rw [sameBefore]⟩
  · rintro ⟨rest, isRest, rfl⟩
    rw [decode_eq_some.mp isRest, map_append]

/-! ## Encoding -/

theorem feed_lead (isLead : lead byte.toNat = some state) (isWide : 0x80 ≤ byte.toNat)
    (rest : List UInt8) : feed .start (byte :: rest) = feed state rest := by
  have notAscii : ¬ byte.toNat < 0x80 := Nat.not_lt.mpr isWide
  simp [feed, step, begin, notAscii, isLead]

variable (bits : Nat)

theorem feed_owed (isOwed : next.Holds byte) (later : Range)
    (more : List Range) (rest : List UInt8) :
    feed (.within bits next (later :: more)) (byte :: rest) =
      feed (.within (bits * 0x40 + byte.toNat % 0x40) later more) rest := by
  simp [feed, step, isOwed]

theorem feed_last (isOwed : next.Holds byte) :
    feed (.within bits next []) [byte] =
      ([some (Char.ofNat (bits * 0x40 + byte.toNat % 0x40))], .start) := by
  simp [feed, step, isOwed]

theorem toNat_tail : (UInt8.ofNat (bits % 0x40 + 0x80)).toNat = bits % 0x40 + 0x80 := by
  simp
  omega

theorem holds_tail : tail.Holds (UInt8.ofNat (bits % 0x40 + 0x80)) := by
  unfold Range.Holds
  rw [toNat_tail]
  simp only [tail]
  omega

theorem lead_three (isValid : code.isValidChar) (isLow : 0x7ff < code) (isHigh : code ≤ 0xffff) :
    ∃ next, lead (code / 0x1000 % 0x10 + 0xe0) = some (.within (code / 0x1000) next [tail]) ∧
      next.Holds (UInt8.ofNat (code / 0x40 % 0x40 + 0x80)) := by
  unfold lead Range.Holds
  rw [toNat_tail]
  split_ifs <;> first
    | omega
    | exact ⟨_, congrArg some (congrArg (State.within · _ _) (by omega)),
          by simp only [tail]; omega⟩

theorem lead_four (isValid : code.isValidChar) (isLow : 0xffff < code) :
    ∃ next,
      lead (code / 0x40000 % 0x08 + 0xf0) = some (.within (code / 0x40000) next [tail, tail]) ∧
      next.Holds (UInt8.ofNat (code / 0x1000 % 0x40 + 0x80)) := by
  unfold lead Range.Holds
  rw [toNat_tail]
  split_ifs <;> first
    | omega
    | exact ⟨_, congrArg some (congrArg (State.within · _ _) (by omega)),
          by simp only [tail]; omega⟩

theorem feed_utf8EncodeChar (char : Char) :
    feed .start (String.utf8EncodeChar char) = ([some char], .start) := by
  have isValid : char.toNat.isValidChar := char.valid
  have asChar : Char.ofNat char.toNat = char := Char.ofNat_toNat char
  unfold String.utf8EncodeChar
  simp only [← Char.toNat.eq_1]
  generalize char.toNat = code at *
  subst asChar
  split_ifs with isOne isTwo isThree
  · have asByte : (UInt8.ofNat code).toNat = code := by
      simp
      omega
    have isAscii : code < 0x80 := by omega
    simp [feed, step, begin, asByte, isAscii]
  · have first : (UInt8.ofNat (code / 0x40 % 0x20 + 0xc0)).toNat = code / 0x40 + 0xc0 := by
      simp
      omega
    have isLead : lead (code / 0x40 + 0xc0) = some (.within (code / 0x40) tail []) := by
      unfold lead
      rw [if_pos (by omega)]
      congr 2
      omega
    have whole : code / 0x40 * 0x40 + (code % 0x40 + 0x80) % 0x40 = code := by omega
    rw [feed_lead (first ▸ isLead) (by omega), feed_last _ (holds_tail _), toNat_tail, whole]
  · have first :
        (UInt8.ofNat (code / 0x1000 % 0x10 + 0xe0)).toNat = code / 0x1000 % 0x10 + 0xe0 := by
      simp
      omega
    obtain ⟨next, isLead, isNext⟩ := lead_three isValid (by omega) (by omega)
    have whole : (code / 0x1000 * 0x40 + (code / 0x40 % 0x40 + 0x80) % 0x40) * 0x40 +
          (code % 0x40 + 0x80) % 0x40 =
        code := by
      omega
    rw [feed_lead (first ▸ isLead) (by omega), feed_owed _ isNext,
      feed_last _ (holds_tail _), toNat_tail, toNat_tail, whole]
  · have first :
        (UInt8.ofNat (code / 0x40000 % 0x08 + 0xf0)).toNat = code / 0x40000 % 0x08 + 0xf0 := by
      simp
      omega
    obtain ⟨next, isLead, isNext⟩ := lead_four isValid (by omega)
    have whole : ((code / 0x40000 * 0x40 +
              (code / 0x1000 % 0x40 + 0x80) % 0x40) * 0x40 +
            (code / 0x40 % 0x40 + 0x80) % 0x40) * 0x40 +
          (code % 0x40 + 0x80) % 0x40 =
        code := by
      omega
    rw [feed_lead (first ▸ isLead) (by omega), feed_owed _ isNext,
      feed_owed _ (holds_tail _), feed_last _ (holds_tail _), toNat_tail,
      toNat_tail, toNat_tail, whole]

variable (text : List Char)

theorem pieces_flatMap_utf8EncodeChar :
    pieces (text.flatMap String.utf8EncodeChar) = text.map some := by
  induction text with
  | nil => rfl
  | cons char rest ih =>
    have isChar : pieces (String.utf8EncodeChar char) = [some char] := by
      rw [pieces, feed_utf8EncodeChar]
      rfl
    rw [flatMap_cons, pieces_append _ (by simp [isChar]), isChar, ih]
    rfl

theorem decode_flatMap_utf8EncodeChar : decode (text.flatMap String.utf8EncodeChar) = some text :=
  decode_eq_some.mpr (pieces_flatMap_utf8EncodeChar text)

/-! ## Reading from some byte on -/

theorem decode_cons_tail (isTail : tail.Holds byte) (rest : List UInt8) :
    decode (byte :: rest) = none := by
  obtain ⟨isLow, isHigh⟩ : 0x80 ≤ byte.toNat ∧ byte.toNat ≤ 0xBF := isTail
  have notAscii : ¬ byte.toNat < 0x80 := Nat.not_lt.mpr isLow
  have notLead : lead byte.toNat = none := by
    unfold lead
    split_ifs <;> first
      | omega
      | rfl
  refine if_pos ?_
  simp [pieces, feed, step, begin, notAscii, notLead]

theorem holds_of_mem_tail (isTail : byte ∈ (String.utf8EncodeChar char).tail) :
    tail.Holds byte := by
  unfold String.utf8EncodeChar at isTail
  simp only [← Char.toNat.eq_1] at isTail
  split_ifs at isTail <;>
    simp only [tail_cons, mem_cons, not_mem_nil, or_false] at isTail
  · exact isTail ▸ holds_tail _
  · rcases isTail with rfl | rfl <;> exact holds_tail _
  · rcases isTail with rfl | rfl | rfl <;> exact holds_tail _

theorem decode_drop (start : Nat) (inside : start ≤ (text.flatMap String.utf8EncodeChar).length) :
    (∃ before after,
      text = before ++ after ∧ (before.flatMap String.utf8EncodeChar).length = start) ∨
      decode ((text.flatMap String.utf8EncodeChar).drop start) = none := by
  induction text generalizing start with
  | nil => exact .inl ⟨[], [], rfl, (Nat.le_zero.mp inside).symm⟩
  | cons char rest ih =>
    rw [flatMap_cons] at inside ⊢
    by_cases isStart : start = 0
    · exact .inl ⟨[], char :: rest, rfl, isStart.symm⟩
    by_cases isBehind : (String.utf8EncodeChar char).length ≤ start
    · obtain ⟨later, rfl⟩ := Nat.exists_eq_add_of_le isBehind
      rw [length_append] at inside
      rw [drop_length_add_append]
      rcases ih later (Nat.le_of_add_le_add_left inside) with split | isError
      · obtain ⟨before, after, rfl, length⟩ := split
        exact .inl ⟨char :: before, after, rfl, by
          rw [flatMap_cons, length_append, length]⟩
      · exact .inr isError
    · right
      rw [drop_append_of_le_length (Nat.le_of_not_le isBehind)]
      obtain ⟨earlier, rfl⟩ := Nat.exists_eq_succ_of_ne_zero isStart
      cases dropped : (String.utf8EncodeChar char).drop (earlier + 1) with
      | nil => exact absurd (drop_eq_nil_iff.mp dropped) isBehind
      | cons byte more =>
        have isTail : byte ∈ (String.utf8EncodeChar char).tail := by
          rw [← drop_one]
          refine mem_of_mem_drop (i := earlier) ?_
          rw [drop_drop, Nat.add_comm 1, dropped]
          exact mem_cons_self
        exact decode_cons_tail (holds_of_mem_tail isTail) _

end Utf8
