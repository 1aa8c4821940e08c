import Mathlib.Algebra.Group.Nat.Defs
import Mathlib.Data.List.Induction

/-!
# Reads of a byte buffer at computed offsets

A read outside the buffer has no result; numbers are written with the most
significant byte first.  Where the buffer is known to be one part after the
other, a read behind the first part is a read of the second.
-/

namespace ByteReads

variable {Cell : Type*}

/-- The cells from `start` up to `stop`, if the buffer holds them. -/
def slice (buffer : List Cell) (start stop : Nat) : Option (List Cell) :=
  if start ≤ stop ∧ stop ≤ buffer.length then some ((buffer.drop start).take (stop - start))
  else none

theorem slice_middle {front middle back : List Cell} {start stop : Nat}
    (starts : start = front.length) (stops : stop = front.length + middle.length) :
    slice (front ++ middle ++ back) start stop = some middle := by
  subst starts stops
  simp [slice]

theorem getElem?_behind {front : List Cell} {cell : Cell} {back : List Cell} {index : Nat}
    (behind : index = front.length) : (front ++ cell :: back)[index]? = some cell := by
  subst behind
  simp

/-! ## Numbers, most significant byte first -/

def ofBigEndian (bytes : List UInt8) : Nat :=
  bytes.foldl (fun number byte => 256 * number + byte.toNat) 0

def toBigEndian : (width number : Nat) → List UInt8
  | 0, _ => []
  | width + 1, number => toBigEndian width (number / 256) ++ [UInt8.ofNat number]

@[simp] theorem length_toBigEndian (width number : Nat) :
    (toBigEndian width number).length = width := by
  induction width generalizing number with
  | zero => rfl
  | succ width ih => simp [toBigEndian, ih]

variable (bytes : List UInt8)

@[simp] theorem ofBigEndian_append_singleton (last : UInt8) :
    ofBigEndian (bytes ++ [last]) = 256 * ofBigEndian bytes + last.toNat := by
  simp [ofBigEndian]

theorem ofBigEndian_lt : ofBigEndian bytes < 256 ^ bytes.length := by
  induction bytes using List.reverseRecOn with
  | nil => simp [ofBigEndian]
  | append_singleton bytes last ih =>
    have fits := last.toNat_lt
    rw [ofBigEndian_append_singleton, List.length_append, List.length_singleton]
    omega

theorem ofBigEndian_toBigEndian {width number : Nat} (fits : number < 256 ^ width) :
    ofBigEndian (toBigEndian width number) = number := by
  induction width generalizing number with
  | zero =>
    simp at fits
    simp [toBigEndian, ofBigEndian, fits]
  | succ width ih =>
    have quotientFits : number / 256 < 256 ^ width := Nat.div_lt_of_lt_mul (by omega)
    rw [toBigEndian, ofBigEndian_append_singleton, ih quotientFits, UInt8.toNat_ofNat']
    omega

theorem toBigEndian_ofBigEndian : toBigEndian bytes.length (ofBigEndian bytes) = bytes := by
  induction bytes using List.reverseRecOn with
  | nil => rfl
  | append_singleton bytes last ih =>
    have fits := last.toNat_lt
    have quotient : (256 * ofBigEndian bytes + last.toNat) / 256 = ofBigEndian bytes := by omega
    have remainder : UInt8.ofNat (256 * ofBigEndian bytes + last.toNat) = last := by
      rw [← UInt8.toNat_inj, UInt8.toNat_ofNat']
      omega
    rw [List.length_append, List.length_singleton, toBigEndian, ofBigEndian_append_singleton,
      quotient, remainder, ih]

end ByteReads
