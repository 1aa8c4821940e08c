import Mathlib.Algebra.Group.Nat.Defs
import Rustasea.Library.BitStream

namespace Rustasea.Auth

open BitStream List

/-!
# The base32 and base64 codecs

The secrets of authenticator apps are written in base32, and an application key
may be given in base64.  A text is the list of its octets; both codecs shift
octets through an accumulator of 32 bits that is never masked.
-/

/-- The variables of a codec's loop: only the low `bits` of the buffer count. -/
structure Accumulator where
  buffer : BitVec 32
  bits : Nat
  out : List UInt8

def Accumulator.start : Accumulator := ⟨0, 0, []⟩

def base32Alphabet : List UInt8 :=
  "ABCDEFGHIJKLMNOPQRSTUVWXYZ234567".toList.map fun c => UInt8.ofNat c.toNat

def base32Symbol (value : UInt8) : UInt8 := base32Alphabet.getD value.toNat 0

/-- The five low bits of a word, as an index into the alphabet. -/
def base32Index (word : BitVec 32) : UInt8 := ⟨(word &&& 0x1f).setWidth 8⟩

/-- The inner loop of the encoder, which writes while five bits are there. -/
def Accumulator.drain (s : Accumulator) : Accumulator :=
  if 5 ≤ s.bits then
    drain
      { s with
        bits := s.bits - 5
        out := s.out ++ [base32Symbol (base32Index (s.buffer >>> (s.bits - 5)))] }
  else s
termination_by s.bits

def Accumulator.takeOctet (s : Accumulator) (byte : UInt8) : Accumulator :=
  Accumulator.drain
    { s with buffer := s.buffer <<< 8 ||| byte.toBitVec.setWidth 32, bits := s.bits + 8 }

def base32Encode (data : List UInt8) : List UInt8 :=
  let s := data.foldl Accumulator.takeOctet .start
  if 0 < s.bits then s.out ++ [base32Symbol (base32Index (s.buffer <<< (5 - s.bits)))] else s.out

/-- `decode_symbol`: the value of a symbol, in either case. -/
def decodeSymbol (byte : UInt8) : Option UInt8 :=
  if 65 ≤ byte ∧ byte ≤ 90 then some (byte - 65)
  else if 97 ≤ byte ∧ byte ≤ 122 then some (byte - 97)
  else if 50 ≤ byte ∧ byte ≤ 55 then some (byte - 50 + 26)
  else none

/-- Both decoders' loop on a symbol of `w` bits; the cast keeps the low octet. -/
def Accumulator.takeSymbol (w : Nat) (s : Accumulator) (value : UInt8) : Accumulator :=
  let buffer := s.buffer <<< w ||| value.toBitVec.setWidth 32
  let bits := s.bits + w
  if 8 ≤ bits then ⟨buffer, bits - 8, s.out ++ [⟨(buffer >>> (bits - 8)).setWidth 8⟩]⟩
  else ⟨buffer, bits, s.out⟩

def base32Loop (s : Accumulator) : List UInt8 → Option Accumulator
  | [] => some s
  | byte :: rest => do
      let value ← decodeSymbol byte
      base32Loop (s.takeSymbol 5 value) rest

def base32Decode (input : List UInt8) : Option (List UInt8) :=
  (base32Loop .start input).map Accumulator.out

/-- The reasons of `base64_decode`; the first shows the octet as a character. -/
inductive Base64Failure where
  | invalidCharacter (byte : UInt8)
  | truncatedGroup
  deriving DecidableEq

/-- The value of a base64 symbol, of the standard or the other alphabet. -/
def base64Value (byte : UInt8) : Option UInt8 :=
  if 65 ≤ byte ∧ byte ≤ 90 then some (byte - 65)
  else if 97 ≤ byte ∧ byte ≤ 122 then some (byte - 97 + 26)
  else if 48 ≤ byte ∧ byte ≤ 57 then some (byte - 48 + 52)
  else if byte = 43 ∨ byte = 45 then some 62
  else if byte = 47 ∨ byte = 95 then some 63
  else none

/-- The loop of `base64_decode`, which ends at the first `=`. -/
def base64Loop (s : Accumulator) : List UInt8 → Except Base64Failure Accumulator
  | [] => .ok s
  | byte :: rest =>
      if byte = 61 then .ok s
      else match base64Value byte with
        | some value => base64Loop (s.takeSymbol 6 value) rest
        | none => .error (.invalidCharacter byte)

def base64Decode (input : List UInt8) : Except Base64Failure (List UInt8) := do
  let s ← base64Loop .start input
  if 6 ≤ s.bits then .error .truncatedGroup else .ok s.out

/-- The groups of six bits that encode octets, three octets at a time. -/
def base64Groups : List UInt8 → List UInt8
  | [] => []
  | [a] => [a >>> 2, (a &&& 3) <<< 4]
  | [a, b] => [a >>> 2, (a &&& 3) <<< 4 ||| b >>> 4, (b &&& 15) <<< 2]
  | a :: b :: c :: rest =>
      a >>> 2 :: ((a &&& 3) <<< 4 ||| b >>> 4) :: ((b &&& 15) <<< 2 ||| c >>> 6) :: (c &&& 63) ::
        base64Groups rest

def base64Symbol (urlSafe : Bool) (value : UInt8) : UInt8 :=
  if value < 26 then value + 65
  else if value < 52 then value - 26 + 97
  else if value < 62 then value - 52 + 48
  else if value = 62 then (if urlSafe then 45 else 43)
  else (if urlSafe then 95 else 47)

/-- The base64 encoding of octets, with or without the `=` that fill the last four. -/
def base64Encode (urlSafe padded : Bool) (data : List UInt8) : List UInt8 :=
  let text := (base64Groups data).map (base64Symbol urlSafe)
  text ++ List.replicate (if padded then (4 - text.length % 4) % 4 else 0) 61

/-! ## The alphabets -/

theorem octet_cases {p : UInt8 → Prop} (all : ∀ i : Fin 256, p (UInt8.ofNat i)) (byte : UInt8) :
    p byte := by
  simpa using all ⟨byte.toNat, byte.toNat_lt⟩

theorem decodeSymbol_base32Symbol :
    ∀ value, value.toNat < 2 ^ 5 → decodeSymbol (base32Symbol value) = some value :=
  octet_cases (by decide +kernel)

theorem base64Value_base64Symbol (urlSafe : Bool) :
    ∀ value, value.toNat < 2 ^ 6 →
      base64Symbol urlSafe value ≠ 61 ∧ base64Value (base64Symbol urlSafe value) = some value :=
  octet_cases (by cases urlSafe <;> decide +kernel)

theorem decodeSymbol_lt : ∀ byte, ∀ value ∈ decodeSymbol byte, value.toNat < 2 ^ 5 :=
  octet_cases (by decide +kernel)

theorem base64Value_lt : ∀ byte, ∀ value ∈ base64Value byte, value.toNat < 2 ^ 6 :=
  octet_cases (by decide +kernel)

/-! ## The encoder's accumulator -/

/-- What is written and what the buffer holds are the given bits. -/
def Accumulator.Encodes (s : Accumulator) (bits : List Bool) : Prop :=
  ∃ values : List UInt8, (∀ v ∈ values, v.toNat < 2 ^ 5) ∧ s.out = values.map base32Symbol ∧
    bitsOf 5 values ++ lowBits s.bits s.buffer = bits

theorem base32Index_lt (word : BitVec 32) : (base32Index word).toNat < 2 ^ 5 := by
  have small : (word &&& 0x1f).toNat ≤ 0x1f := by
    exact Nat.and_le_right
  change ((word &&& 0x1f).setWidth 8).toNat < 2 ^ 5
  rw [BitVec.toNat_setWidth]
  omega

theorem lowBits_base32Index (word : BitVec 32) :
    lowBits 5 (base32Index word).toBitVec = lowBits 5 word := by
  simp [lowBits, base32Index]

variable {bits : List Bool} {s : Accumulator}

theorem drain_encodes (holds : s.Encodes bits) : s.drain.Encodes bits ∧ s.drain.bits < 5 := by
  induction s using Accumulator.drain.induct with
  | case1 s full ih =>
      rw [Accumulator.drain, if_pos full]
      obtain ⟨values, small, out, same⟩ := holds
      let index := base32Index (s.buffer >>> (s.bits - 5))
      refine ih ⟨values ++ [index], ?_, by simp [out, index], ?_⟩
      · exact forall_mem_append.mpr ⟨small, by simpa using base32Index_lt _⟩
      · rw [← same, bitsOf_append]
        conv_rhs => rw [show s.bits = 5 + (s.bits - 5) by omega, lowBits_split]
        simp [bitsOf, index, lowBits_base32Index]
  | case2 s few =>
      rw [Accumulator.drain, if_neg few]
      exact ⟨holds, by omega⟩

theorem lowBits_shifted {n w : Nat} (buffer : BitVec 32) {value : UInt8} (room : n + w ≤ 32)
    (small : value.toNat < 2 ^ w) :
    lowBits (n + w) (buffer <<< w ||| value.toBitVec.setWidth 32) =
      lowBits n buffer ++ lowBits w value.toBitVec := by
  rw [lowBits_push buffer room]
  · rw [lowBits_congr (x := value.toBitVec) w fun i low => by simp [show i < 32 by omega]]
  · intro i high
    have bound : value.toNat < 2 ^ i := Nat.lt_of_lt_of_le small
      (Nat.pow_le_pow_right (by omega) high)
    simp [BitVec.getLsbD, Nat.testBit_lt_two_pow bound]

theorem takeOctet_encodes (byte : UInt8) (holds : s.Encodes bits) (few : s.bits < 5) :
    (s.takeOctet byte).Encodes (bits ++ lowBits 8 byte.toBitVec) ∧ (s.takeOctet byte).bits < 5 := by
  obtain ⟨values, small, out, same⟩ := holds
  refine drain_encodes ⟨values, small, out, ?_⟩
  rw [lowBits_shifted _ (by omega) byte.toNat_lt, ← same, append_assoc]

variable (data : List UInt8)

theorem foldl_takeOctet_encodes (holds : s.Encodes bits) (few : s.bits < 5) :
    (data.foldl Accumulator.takeOctet s).Encodes (bits ++ bitsOf 8 data) ∧
    (data.foldl Accumulator.takeOctet s).bits < 5 := by
  induction data generalizing s bits with
  | nil => simpa [bitsOf] using ⟨holds, few⟩
  | cons byte rest ih =>
      obtain ⟨next, few⟩ := takeOctet_encodes byte holds few
      simpa [bitsOf] using ih next few

theorem octets_encode :
    (data.foldl Accumulator.takeOctet .start).Encodes (bitsOf 8 data) ∧
    (data.foldl Accumulator.takeOctet .start).bits < 5 :=
  foldl_takeOctet_encodes data ⟨[], by simp, rfl, rfl⟩ (by decide)

theorem base32Encode_symbols :
    ∃ values : List UInt8, (∀ v ∈ values, v.toNat < 2 ^ 5) ∧
      base32Encode data = values.map base32Symbol ∧
      ∃ fill, fill < 5 ∧ bitsOf 5 values = bitsOf 8 data ++ List.replicate fill false := by
  obtain ⟨⟨values, small, out, same⟩, few⟩ := octets_encode data
  rw [base32Encode]
  generalize data.foldl Accumulator.takeOctet .start = s at out same few
  by_cases left : 0 < s.bits
  · rw [if_pos left]
    refine ⟨values ++ [base32Index (s.buffer <<< (5 - s.bits))], ?_, by simp [out], 5 - s.bits,
      by omega, ?_⟩
    · exact forall_mem_append.mpr ⟨small, by simpa using base32Index_lt _⟩
    · rw [← same]
      have last := lowBits_push (n := s.bits) (w := 5 - s.bits) (x := 0#32) s.buffer (by omega)
        (by simp)
      rw [show s.bits + (5 - s.bits) = 5 by omega, BitVec.or_zero, lowBits_zero] at last
      simp [bitsOf, lowBits_base32Index, last]
  · rw [if_neg left]
    exact ⟨values, small, out, 0, by omega, by simpa [show s.bits = 0 by omega, lowBits] using same⟩

/-! ## The decoders' accumulator -/

/-- What is written and what the buffer holds are the given bits. -/
def Accumulator.Decodes (s : Accumulator) (bits : List Bool) : Prop :=
  s.bits < 8 ∧ bitsOf 8 s.out ++ lowBits s.bits s.buffer = bits

variable {w : Nat}

theorem takeSymbol_decodes {value : UInt8}
    (narrow : w ≤ 8) (small : value.toNat < 2 ^ w) (holds : s.Decodes bits) :
    (s.takeSymbol w value).Decodes (bits ++ lowBits w value.toBitVec) := by
  obtain ⟨few, same⟩ := holds
  have pushed := lowBits_shifted (n := s.bits) s.buffer (by omega) small
  simp only [Accumulator.takeSymbol]
  split
  · rename_i full
    refine ⟨by simp only; omega, ?_⟩
    rw [show s.bits + w = 8 + (s.bits + w - 8) by omega, lowBits_split] at pushed
    have octet : ∀ word : BitVec 32, lowBits 8 (word.setWidth 8) = lowBits 8 word :=
      fun word => lowBits_congr 8 fun i low => by simp [low]
    rw [← same, append_assoc, ← pushed, bitsOf_append]
    simp [bitsOf, octet]
  · exact ⟨by simp only; omega, by simp only; rw [pushed, ← same, append_assoc]⟩

theorem foldl_takeSymbol_decodes (narrow : w ≤ 8) (values : List UInt8)
    (small : ∀ v ∈ values, v.toNat < 2 ^ w) (holds : s.Decodes bits) :
    (values.foldl (Accumulator.takeSymbol w) s).Decodes (bits ++ bitsOf w values) := by
  induction values generalizing s bits with
  | nil => simpa [bitsOf] using holds
  | cons v rest ih =>
      rw [forall_mem_cons] at small
      simpa [bitsOf] using ih small.2 (takeSymbol_decodes narrow small.1 holds)

theorem symbols_decode (narrow : w ≤ 8) {values : List UInt8}
    (small : ∀ v ∈ values, v.toNat < 2 ^ w) :
    (values.foldl (Accumulator.takeSymbol w) .start).Decodes (bitsOf w values) :=
  foldl_takeSymbol_decodes narrow values small ⟨by decide, rfl⟩

theorem decoded_out (narrow : w ≤ 8) {values data : List UInt8} {fill : List Bool}
    (small : ∀ v ∈ values, v.toNat < 2 ^ w) (short : fill.length < 8)
    (same : bitsOf w values = bitsOf 8 data ++ fill) :
    (values.foldl (Accumulator.takeSymbol w) .start).out = data ∧
    (values.foldl (Accumulator.takeSymbol w) .start).bits = fill.length := by
  obtain ⟨few, read⟩ := symbols_decode narrow small
  rw [same] at read
  have out := octets_of_bits (by simpa using few) short read
  rw [out] at read
  exact ⟨out, by simpa using congrArg List.length read⟩

theorem base32Loop_values (text : List UInt8) {s t : Accumulator}
    (run : base32Loop s text = some t) :
    t = (text.filterMap decodeSymbol).foldl (Accumulator.takeSymbol 5) s := by
  induction text generalizing s with
  | nil => exact (Option.some.inj run).symm
  | cons byte rest ih =>
      obtain ⟨value, read, next⟩ := Option.bind_eq_some_iff.mp run
      rw [filterMap_cons_some read]
      exact ih next

theorem base32Loop_symbols (values : List UInt8) (s : Accumulator)
    (small : ∀ v ∈ values, v.toNat < 2 ^ 5) :
    base32Loop s (values.map base32Symbol) = some (values.foldl (Accumulator.takeSymbol 5) s) := by
  induction values generalizing s with
  | nil => rfl
  | cons v rest ih =>
      rw [forall_mem_cons] at small
      rw [map_cons, base32Loop, decodeSymbol_base32Symbol v small.1]
      exact ih _ small.2

theorem base32Decode_base32Encode : base32Decode (base32Encode data) = some data := by
  obtain ⟨values, small, text, fill, short, same⟩ := base32Encode_symbols data
  rw [base32Decode, text, base32Loop_symbols values .start small]
  exact congrArg some (decoded_out (by omega) small
    (by simp only [length_replicate]; omega) same).1

theorem base64Loop_values (text : List UInt8) {s t : Accumulator}
    (run : base64Loop s text = .ok t) :
    t = ((text.takeWhile (· ≠ 61)).filterMap base64Value).foldl (Accumulator.takeSymbol 6) s := by
  induction text generalizing s with
  | nil => exact (Except.ok.inj run).symm
  | cons byte rest ih =>
      rw [base64Loop] at run
      by_cases fill : byte = 61
      · rw [if_pos fill] at run
        simpa [fill] using (Except.ok.inj run).symm
      · rw [if_neg fill] at run
        rw [takeWhile_cons_of_pos (by simpa using fill)]
        cases read : base64Value byte with
        | none => rw [read] at run; cases run
        | some value =>
            rw [read] at run
            rw [filterMap_cons_some read]
            exact ih run

theorem base64Loop_symbols (urlSafe : Bool) (values : List UInt8) (fill : Nat) (s : Accumulator)
    (small : ∀ v ∈ values, v.toNat < 2 ^ 6) :
    base64Loop s (values.map (base64Symbol urlSafe) ++ List.replicate fill 61) =
      .ok (values.foldl (Accumulator.takeSymbol 6) s) := by
  induction values generalizing s with
  | nil => cases fill <;> rfl
  | cons v rest ih =>
      rw [forall_mem_cons] at small
      obtain ⟨symbol, value⟩ := base64Value_base64Symbol urlSafe v small.1
      rw [map_cons, cons_append, base64Loop, if_neg symbol, value]
      exact ih _ small.2

theorem base64Groups_lt : ∀ v ∈ base64Groups data, v.toNat < 2 ^ 6 := by
  have top : ∀ a : UInt8, (a >>> 2).toNat < 2 ^ 6 := octet_cases (by decide +kernel)
  have high : ∀ a : UInt8, ((a &&& 3) <<< 4).toNat < 2 ^ 6 := octet_cases (by decide +kernel)
  have half : ∀ a : UInt8, (a >>> 4).toNat < 2 ^ 6 := octet_cases (by decide +kernel)
  have wide : ∀ a : UInt8, ((a &&& 15) <<< 2).toNat < 2 ^ 6 := octet_cases (by decide +kernel)
  have tail : ∀ a : UInt8, (a >>> 6).toNat < 2 ^ 6 := octet_cases (by decide +kernel)
  have low : ∀ a : UInt8, (a &&& 63).toNat < 2 ^ 6 := octet_cases (by decide +kernel)
  have both {x y : Nat} := @Nat.or_lt_two_pow x y 6
  induction data using base64Groups.induct with
  | case1 => exact fun _ mem => nomatch mem
  | case2 a =>
      simp only [base64Groups, forall_mem_cons]
      exact ⟨top a, high a, fun _ mem => nomatch mem⟩
  | case3 a b =>
      simp only [base64Groups, forall_mem_cons]
      exact ⟨top a, both (high a) (half b), wide b, fun _ mem => nomatch mem⟩
  | case4 a b c rest ih =>
      simp only [base64Groups, forall_mem_cons]
      exact ⟨top a, both (high a) (half b), both (wide b) (tail c), low c, ih⟩

theorem bitsOf_base64Groups :
    ∃ fill,
      fill < 6 ∧ bitsOf 6 (base64Groups data) = bitsOf 8 data ++ List.replicate fill false := by
  induction data using base64Groups.induct with
  | case1 => exact ⟨0, by omega, rfl⟩
  | case2 a => exact ⟨4, by omega, by simp [base64Groups, bitsOf, lowBits]⟩
  | case3 a b => exact ⟨2, by omega, by simp [base64Groups, bitsOf, lowBits]⟩
  | case4 a b c rest ih =>
      obtain ⟨fill, short, same⟩ := ih
      refine ⟨fill, short, ?_⟩
      simp [base64Groups, bitsOf_cons, lowBits, same]

theorem base64Decode_base64Encode (urlSafe padded : Bool) (data : List UInt8) :
    base64Decode (base64Encode urlSafe padded data) = .ok data := by
  obtain ⟨fill, short, same⟩ := bitsOf_base64Groups data
  have small := base64Groups_lt data
  obtain ⟨out, left⟩ := decoded_out (w := 6) (by omega) small
    (by simp only [length_replicate]; omega) same
  rw [base64Decode, base64Encode, base64Loop_symbols urlSafe _ _ .start small]
  change (if _ then _ else _) = _
  rw [if_neg (by rw [left, length_replicate]; omega), out]

/-- The bits of the buffer that count are the bits read and not yet written. -/
def Accumulator.Pending (s : Accumulator) (w : Nat) (bits : List Bool) : Prop :=
  lowBits s.bits s.buffer = bits.drop (w * s.out.length)

theorem pending_of_append {values : List UInt8} (count : values.length = s.out.length)
    (same : bitsOf w values ++ lowBits s.bits s.buffer = bits) : s.Pending w bits := by
  rw [Accumulator.Pending, ← same, ← count, ← bitsOf_length, drop_left]

theorem filterMap_pending (narrow : w ≤ 8) {read : UInt8 → Option UInt8}
    (small : ∀ byte, ∀ value ∈ read byte, value.toNat < 2 ^ w) (text : List UInt8) :
    ((text.filterMap read).foldl (Accumulator.takeSymbol w) .start).Pending 8
      (bitsOf w (text.filterMap read)) := by
  refine pending_of_append rfl (symbols_decode narrow fun v mem => ?_).2
  obtain ⟨byte, -, value⟩ := mem_filterMap.mp mem
  exact small byte v value

/-- Each codec gives octets back, and no loop loses a bit that is still to be written. -/
theorem text_codecs_round_trip :
    base32Decode (base32Encode data) = some data ∧
    (∀ urlSafe padded, base64Decode (base64Encode urlSafe padded data) = .ok data) ∧
    (data.foldl Accumulator.takeOctet .start).Pending 5 (bitsOf 8 data) ∧
    (∀ s, base32Loop .start data = some s → s.Pending 8 (bitsOf 5 (data.filterMap decodeSymbol))) ∧
    ∀ s, base64Loop .start data = .ok s →
      s.Pending 8 (bitsOf 6 ((data.takeWhile (· ≠ 61)).filterMap base64Value)) := by
  refine ⟨base32Decode_base32Encode data, fun u p => base64Decode_base64Encode u p data, ?_, ?_, ?_⟩
  · obtain ⟨⟨values, -, out, same⟩, -⟩ := octets_encode data
    exact pending_of_append (by simp [out]) same
  · intro s run
    rw [base32Loop_values data run]
    exact filterMap_pending (w := 5) (by omega) decodeSymbol_lt data
  · intro s run
    rw [base64Loop_values data run]
    exact filterMap_pending (w := 6) (by omega) base64Value_lt _

end Rustasea.Auth
