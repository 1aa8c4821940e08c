import Mathlib.Data.List.TakeWhile
import Mathlib.Data.Nat.Digits.Defs

namespace DecimalText

/-!
# Decimal numerals

The text of a natural number is its decimal digits.  Different numbers have
different texts, nothing but digits stands in one, and a numeral that no digit
follows is read off the front of a text in one way.
-/

theorem toList_toString (number : Nat) : (toString number).toList = Nat.toDigits 10 number :=
  Nat.toList_repr

variable {character : Char}

theorem isDigit_of_mem_toDigits {number : Nat} (isIn : character ∈ Nat.toDigits 10 number) :
    character.isDigit = true :=
  Nat.isDigit_of_mem_toDigits (by decide) (by decide) isIn

theorem notMem_toDigits (other : character.isDigit = false) (number : Nat) :
    character ∉ Nat.toDigits 10 number := by
  intro isIn
  rw [isDigit_of_mem_toDigits isIn] at other
  cases other

theorem toDigits_injective : Function.Injective (Nat.toDigits 10) := by
  intro first second same
  have parsed := congrArg (fun digits => Nat.ofDigitChars 10 digits 0) same
  simpa using parsed

theorem toString_injective : Function.Injective (toString : Nat → String) := by
  intro first second same
  have sameDigits := congrArg String.toList same
  rw [toList_toString, toList_toString] at sameDigits
  exact toDigits_injective sameDigits

theorem notMem_toString (other : character.isDigit = false) (number : Nat) :
    character ∉ (toString number).toList := by
  rw [toList_toString]
  exact notMem_toDigits other number

/-! ## Runs of characters -/

section Runs

variable {Character : Type*}

/-- Whether a text goes on with a character of a kind. -/
def startsWith (isKind : Character → Bool) : List Character → Bool
  | [] => false
  | character :: _ => isKind character

variable {isKind : Character → Bool}

theorem takeWhile_append {run rest : List Character}
    (isRun : ∀ character ∈ run, isKind character = true) (ends : startsWith isKind rest = false) :
    (run ++ rest).takeWhile isKind = run := by
  have behind : rest.takeWhile isKind = [] := by
    cases rest with
    | nil => rfl
    | cons character rest => exact List.takeWhile_cons_of_neg (Bool.eq_false_iff.mp ends)
  rw [List.takeWhile_append_of_pos isRun, behind, List.append_nil]

theorem append_run_inj {run other rest otherRest : List Character}
    (isRun : ∀ character ∈ run, isKind character = true)
    (isOther : ∀ character ∈ other, isKind character = true) (ends : startsWith isKind rest = false)
    (otherEnds : startsWith isKind otherRest = false)
    (same : run ++ rest = other ++ otherRest) : run = other ∧ rest = otherRest := by
  have sameRun := congrArg (List.takeWhile isKind) same
  rw [takeWhile_append isRun ends, takeWhile_append isOther otherEnds] at sameRun
  subst sameRun
  exact ⟨rfl, List.append_cancel_left same⟩

end Runs

/-!
## Decimal text of 64-bit numbers

Numbers are read from ASCII digits under an optional sign, and written without
a sign or zeros that are not needed; a number in range is read back from the
text it is written as.
-/

def inI64 (n : Int) : Bool := -9223372036854775808 ≤ n ∧ n ≤ 9223372036854775807

def u64Max : Nat := 2 ^ 64 - 1

def digitValue? (byte : UInt8) : Option Nat :=
  if 48 ≤ byte ∧ byte ≤ 57 then some (byte.toNat - 48)
  else none

def charValue? (character : Char) : Option Nat :=
  if character.isDigit then some (character.toNat - 48)
  else none

section Parsing

variable {Character : Type} (value? : Character → Option Nat)

def parseDigitsFrom : Nat → List Character → Option Nat
  | sum, [] => some sum
  | sum, first :: rest =>
    (value? first).bind fun digit => parseDigitsFrom (10 * sum + digit) rest

/-- The number a text of at least one digit stands for. -/
def parseDigits : List Character → Option Nat
  | [] => none
  | first :: rest => parseDigitsFrom value? 0 (first :: rest)

variable {value?} {write : Char → Character}
  (writes : ∀ digit : Char, digit.isDigit = true → value? (write digit) = some (digit.toNat - 48))

include writes

theorem parseDigitsFrom_map (characters : List Char)
    (allDigits : ∀ character ∈ characters, character.isDigit = true) (sum : Nat) :
    parseDigitsFrom value? sum (characters.map write) =
      some (Nat.ofDigitChars 10 characters sum) := by
  induction characters generalizing sum with
  | nil => rfl
  | cons character rest ih =>
    rw [List.forall_mem_cons] at allDigits
    rw [List.map_cons, parseDigitsFrom, writes character allDigits.1]
    exact ih allDigits.2 _

theorem parseDigits_toDigits (n : Nat) :
    parseDigits value? ((Nat.toDigits 10 n).map write) = some n := by
  have read := parseDigitsFrom_map writes (Nat.toDigits 10 n) (fun _ => isDigit_of_mem_toDigits) 0
  rw [Nat.ofDigitChars_ten_toDigits] at read
  obtain ⟨first, rest, digits⟩ := List.exists_cons_of_ne_nil Nat.toDigits_ne_nil
  rw [digits] at read ⊢
  exact read

end Parsing

/--
The number in range that a text stands for: an optional sign and digits, leading
zeros included.  Bytes of other characters are no digits.
-/
def parseI64 : List UInt8 → Option Int
  | 45 :: digits => ((parseDigits digitValue? digits).map fun n : Nat => -(n : Int)).filter
    (inI64 ·)
  | 43 :: digits => ((parseDigits digitValue? digits).map fun n : Nat => (n : Int)).filter (inI64 ·)
  | digits => ((parseDigits digitValue? digits).map fun n : Nat => (n : Int)).filter (inI64 ·)

def asciiBytes (characters : List Char) : List UInt8 :=
  characters.map fun character => UInt8.ofNat character.toNat

def decimal : Int → List UInt8
  | .ofNat n => asciiBytes (Nat.toDigits 10 n)
  | .negSucc n => 45 :: asciiBytes (Nat.toDigits 10 (n + 1))

variable {character : Char}

theorem toNat_of_isDigit (isDigit : character.isDigit = true) :
    48 ≤ character.toNat ∧ character.toNat ≤ 57 := by
  simpa [Char.isDigit, UInt32.le_iff_toNat_le] using isDigit

theorem digitValue?_of_isDigit (isDigit : character.isDigit = true) :
    digitValue? (UInt8.ofNat character.toNat) = some (character.toNat - 48) := by
  have bounds := toNat_of_isDigit isDigit
  have byteValue : (UInt8.ofNat character.toNat).toNat = character.toNat := by
    rw [UInt8.toNat_ofNat']
    omega
  have isByteDigit : 48 ≤ UInt8.ofNat character.toNat ∧ UInt8.ofNat character.toNat ≤ 57 := by
    simp only [UInt8.le_iff_toNat_le, byteValue]
    exact bounds
  rw [digitValue?, if_pos isByteDigit, byteValue]

theorem parseDigits_asciiBytes (n : Nat) :
    parseDigits digitValue? (asciiBytes (Nat.toDigits 10 n)) = some n :=
  parseDigits_toDigits (fun _ => digitValue?_of_isDigit) n

theorem parseI64_unsigned {n : Nat} (inRange : inI64 n = true) :
    parseI64 (asciiBytes (Nat.toDigits 10 n)) = some (n : Int) := by
  have notSigned : ∀ sign rest, digitValue? sign = none →
      asciiBytes (Nat.toDigits 10 n) ≠ sign :: rest := by
    intro sign rest notDigit starts
    have read := parseDigits_asciiBytes n
    rw [starts, parseDigits, parseDigitsFrom, notDigit] at read
    cases read
  rw [parseI64.eq_3 _ (fun rest => notSigned 45 rest (by decide))
      (fun rest => notSigned 43 rest (by decide)),
    parseDigits_asciiBytes]
  simp [inRange]

variable {n : Int}

theorem parseI64_decimal (inRange : inI64 n = true) : parseI64 (decimal n) = some n := by
  cases n with
  | ofNat n => exact parseI64_unsigned inRange
  | negSucc n =>
    have opposite : -((n + 1 : Nat) : Int) = Int.negSucc n := rfl
    rw [decimal, parseI64, parseDigits_asciiBytes, Option.map_some, opposite]
    simp [inRange]

theorem inI64_of_parseI64 {bytes : List UInt8} (isRead : parseI64 bytes = some n) :
    inI64 n = true := by
  unfold parseI64 at isRead
  split at isRead <;> exact (Option.filter_eq_some_iff.mp isRead).2

theorem exists_digits_of_decimal (n : Int) :
    ∃ characters : List Char,
      decimal n = asciiBytes characters ∧ ∀ character ∈ characters, character.toNat < 128 := by
  have digits :
      ∀ {m : Nat} {character : Char}, character ∈ Nat.toDigits 10 m → character.toNat < 128 := by
    intro m character isIn
    have bounds := toNat_of_isDigit (Nat.isDigit_of_mem_toDigits (by decide) (by decide) isIn)
    omega
  cases n with
  | ofNat m => exact ⟨Nat.toDigits 10 m, rfl, fun _ isIn => digits isIn⟩
  | negSucc m =>
    refine ⟨'-' :: Nat.toDigits 10 (m + 1), rfl, ?_⟩
    rw [List.forall_mem_cons]
    exact ⟨by decide, fun _ isIn => digits isIn⟩

end DecimalText
