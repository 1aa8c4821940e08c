import Mathlib.Data.List.Basic

namespace BitStream

/-!
# Bit accumulators

Bytes and symbols are read as bits, the highest first.  An accumulator is a word
of which only the low bits count.
-/

variable {k w : Nat}

/-- The `n` low bits of a word, the highest first. -/
@[grind =] def lowBits : Nat → BitVec k → List Bool
  | 0, _ => []
  | n + 1, v => v.getLsbD n :: lowBits n v

@[simp] theorem lowBits_length (n : Nat) (v : BitVec k) : (lowBits n v).length = n := by
  induction n with
  | zero => rfl
  | succ n ih => simp [lowBits, ih]

theorem lowBits_congr {j : Nat} {v : BitVec k} {x : BitVec j} (n : Nat)
    (same : ∀ i < n, v.getLsbD i = x.getLsbD i) : lowBits n v = lowBits n x := by
  induction n with
  | zero => rfl
  | succ n ih => rw [lowBits, lowBits, same n (by omega), ih fun i low => same i (by omega)]

theorem lowBits_zero (n : Nat) : lowBits n 0#k = List.replicate n false := by
  induction n with
  | zero => rfl
  | succ n ih => simp [lowBits, ih, List.replicate_succ]

theorem lowBits_split (m n : Nat) (v : BitVec k) :
    lowBits (m + n) v = lowBits m (v >>> n) ++ lowBits n v := by
  induction m with
  | zero => simp [lowBits]
  | succ m ih =>
      rw [show m + 1 + n = m + n + 1 by omega, lowBits, ih, lowBits]
      simp [Nat.add_comm]

theorem lowBits_push {n : Nat} {x : BitVec k} (v : BitVec k) (room : n + w ≤ k)
    (small : ∀ i, w ≤ i → x.getLsbD i = false) :
    lowBits (n + w) (v <<< w ||| x) = lowBits n v ++ lowBits w x := by
  rw [lowBits_split]
  congr 1
  · refine lowBits_congr n fun i low => ?_
    have wide : w + i < k := by omega
    rw [BitVec.getLsbD_ushiftRight, BitVec.getLsbD_or, small (w + i) (by omega)]
    simp [wide, BitVec.getLsbD_eq_getElem (show i < k by omega)]
  · refine lowBits_congr w fun i low => ?_
    simp [low]

/-- The bits of octets that carry `w` bits each. -/
def bitsOf (w : Nat) (values : List UInt8) : List Bool :=
  values.flatMap fun v => lowBits w v.toBitVec

theorem bitsOf_cons (w : Nat) (v : UInt8) (rest : List UInt8) :
    bitsOf w (v :: rest) = lowBits w v.toBitVec ++ bitsOf w rest :=
  List.flatMap_cons

theorem bitsOf_append (w : Nat) (first second : List UInt8) :
    bitsOf w (first ++ second) = bitsOf w first ++ bitsOf w second :=
  List.flatMap_append

@[simp] theorem bitsOf_length (w : Nat) (values : List UInt8) :
    (bitsOf w values).length = w * values.length := by
  induction values with
  | nil => rfl
  | cons v rest ih =>
      rw [bitsOf_cons, List.length_append, lowBits_length, ih, List.length_cons, Nat.mul_succ,
        Nat.add_comm]

theorem getLsbD_of_lowBits {v x : BitVec k} {n : Nat} (same : lowBits n v = lowBits n x) :
    ∀ i < n, v.getLsbD i = x.getLsbD i := by
  induction n with
  | zero => intro i low; omega
  | succ n ih =>
      obtain ⟨top, rest⟩ := List.cons.inj same
      intro i low
      obtain rfl | below : i = n ∨ i < n := by omega
      · exact top
      · exact ih rest i below

theorem lowBits_octet_inj {a b : UInt8} (same : lowBits 8 a.toBitVec = lowBits 8 b.toBitVec) :
    a = b :=
  UInt8.toBitVec_inj.mp (BitVec.eq_of_getLsbD_eq fun i low => getLsbD_of_lowBits same i low)

theorem octets_of_bits {first second : List UInt8} {left right : List Bool}
    (short : left.length < 8) (short' : right.length < 8)
    (same : bitsOf 8 first ++ left = bitsOf 8 second ++ right) : first = second := by
  have lengths := congrArg List.length same
  simp only [List.length_append, bitsOf_length] at lengths
  have bits := (List.append_inj same (by simp only [bitsOf_length]; omega)).1
  clear same lengths
  induction first generalizing second with
  | nil => cases second with
    | nil => rfl
    | cons b rest => simp [bitsOf, lowBits] at bits
  | cons a rest ih => cases second with
    | nil => simp [bitsOf, lowBits] at bits
    | cons b others =>
        have halves := List.append_inj bits (by simp only [lowBits_length])
        rw [lowBits_octet_inj halves.1, ih halves.2]

end BitStream
