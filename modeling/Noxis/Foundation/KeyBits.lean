import Mathlib.Data.Nat.Bitwise
import Noxis.Foundation.ByteColumns

namespace Foundation

/-!
# The bits of a byte array

A byte array is read as a number with its least significant byte first, so the
bit `n` of the number is the bit `n % 8` of the byte `n / 8`.  Flipping and
clearing one bit of the array does the same to the number.
-/

variable {width : Nat}

namespace Bytes

/-- The number with the bytes of the array, least significant first. -/
def number (array : Bytes width) : Nat := ofLittleEndian array.toList

theorem number_lt (array : Bytes width) : array.number < 2 ^ (8 * width) := by
  have bound := ofLittleEndian_lt array.toList
  rw [array.length_toList] at bound
  rw [Nat.pow_mul]
  exact bound

theorem number_injective : Function.Injective (@number width) := by
  intro left right same
  apply toList_injective
  rw [← littleEndian_ofLittleEndian left.toList, ← littleEndian_ofLittleEndian right.toList,
    left.length_toList, right.length_toList]
  exact congrArg (littleEndian width) same

def modifyByte (array : Bytes width) (index : Nat) (change : UInt8 -> UInt8) : Bytes width where
  toList := array.toList.modify index change
  length_toList := by rw [List.length_modify, array.length_toList]

def readBit (array : Bytes width) (bit : Nat) : Bool :=
  ((array.toList.getD (bit / 8) 0 >>> UInt8.ofNat (bit % 8)) &&& 1) == 1

def flipBit (array : Bytes width) (bit : Nat) : Bytes width :=
  array.modifyByte (bit / 8) (fun byte => byte ^^^ (1 <<< UInt8.ofNat (bit % 8)))

def clearBit (array : Bytes width) (bit : Nat) : Bytes width :=
  array.modifyByte (bit / 8) (fun byte => byte &&& ~~~(1 <<< UInt8.ofNat (bit % 8)))

end Bytes

theorem testBit_oneShifted : forall bit, bit < 8 -> forall other, other < 8 ->
    ((1 <<< UInt8.ofNat bit : UInt8)).toNat.testBit other = decide (bit = other) := by
  decide

theorem testBit_complement : forall bit, bit < 8 -> forall other, other < 8 ->
    (~~~(1 <<< UInt8.ofNat bit : UInt8)).toNat.testBit other = !decide (bit = other) := by
  decide

theorem readBit_byte (byte : UInt8) {bit : Nat} (small : bit < 8) :
    (((byte >>> UInt8.ofNat bit) &&& 1) == 1) = byte.toNat.testBit bit := by
  have shifted : (byte >>> UInt8.ofNat bit).toNat = byte.toNat / 2 ^ bit := by
    rw [UInt8.toNat_shiftRight, UInt8.toNat_ofNat', Nat.mod_eq_of_lt (show bit < 2 ^ 8 by omega),
      Nat.mod_eq_of_lt small, Nat.shiftRight_eq_div_pow]
  have masked : ((byte >>> UInt8.ofNat bit) &&& 1).toNat = byte.toNat / 2 ^ bit % 2 := by
    rw [UInt8.toNat_and, shifted]
    exact Nat.and_one_is_mod _
  rw [Nat.testBit_eq_decide_div_mod_eq, ← masked, beq_eq_decide]
  apply decide_eq_decide.mpr
  exact UInt8.toNat_inj.symm

theorem testBit_ofLittleEndian (bytes : List UInt8) (bit : Nat) :
    (ofLittleEndian bytes).testBit bit = (bytes.getD (bit / 8) 0).toNat.testBit (bit % 8) := by
  induction bytes generalizing bit with
  | nil => simp [ofLittleEndian]
  | cons byte rest ih =>
    have split := Nat.testBit_two_pow_mul_add (ofLittleEndian rest) byte.toNat_lt bit
    rw [ofLittleEndian, Nat.add_comm]
    rw [show 256 = 2 ^ 8 by rfl, split]
    by_cases early : bit < 8
    · rw [if_pos early, Nat.div_eq_of_lt early, Nat.mod_eq_of_lt early]
      rfl
    · have place : bit / 8 = (bit - 8) / 8 + 1 := by omega
      have offset : bit % 8 = (bit - 8) % 8 := by omega
      simp [*]

namespace Bytes

variable (array : Bytes width)

theorem readBit_eq (bit : Nat) : array.readBit bit = array.number.testBit bit := by
  rw [readBit, readBit_byte _ (Nat.mod_lt bit (by decide)), number, testBit_ofLittleEndian]

theorem testBit_modifyByte {index : Nat} (within : index < width) (change : UInt8 -> UInt8)
    (bit : Nat) :
    (array.modifyByte index change).number.testBit bit =
      if bit / 8 = index then
        (change (array.toList.getD index 0)).toNat.testBit (bit % 8)
      else
        array.number.testBit bit := by
  have inside : index < array.toList.length := by rwa [array.length_toList]
  rw [number, testBit_ofLittleEndian, modifyByte, number, testBit_ofLittleEndian,
    List.getD_eq_getElem?_getD, List.getElem?_modify, List.getD_eq_getElem?_getD,
    List.getD_eq_getElem?_getD]
  by_cases here : bit / 8 = index
  · rw [if_pos here, here, List.getElem?_eq_getElem inside]
    simp
  · rw [if_neg here]
    simp [Ne.symm here]

theorem testBit_flipBit {bit : Nat} (within : bit < 8 * width) (other : Nat) :
    (array.flipBit bit).number.testBit other = (array.number.testBit other ^^ decide (bit = other)) := by
  rw [flipBit, testBit_modifyByte array (by omega)]
  by_cases here : other / 8 = bit / 8
  · have same : (bit = other) = (bit % 8 = other % 8) := by
      apply propext
      omega
    rw [if_pos here, UInt8.toNat_xor, Nat.testBit_xor, ← here, number, testBit_ofLittleEndian,
      testBit_oneShifted _ (by omega) _ (by omega)]
    simp only [same]
  · have different : bit ≠ other := by
      intro isSame
      exact here (congrArg (· / 8) isSame.symm)
    rw [if_neg here, decide_eq_false different, Bool.xor_false]

theorem testBit_clearBit {bit : Nat} (within : bit < 8 * width) (other : Nat) :
    (array.clearBit bit).number.testBit other =
      (array.number.testBit other && !decide (bit = other)) := by
  rw [clearBit, testBit_modifyByte array (by omega)]
  by_cases here : other / 8 = bit / 8
  · have same : (bit = other) = (bit % 8 = other % 8) := by
      apply propext
      omega
    rw [if_pos here, UInt8.toNat_and, Nat.testBit_and, ← here, number, testBit_ofLittleEndian,
      testBit_complement _ (by omega) _ (by omega)]
    simp only [same]
  · have different : bit ≠ other := by
      intro isSame
      exact here (congrArg (· / 8) isSame.symm)
    simp [*]

theorem flipBit_div {bit : Nat} (within : bit < 8 * width) :
    (array.flipBit bit).number / 2 ^ bit = (array.number / 2 ^ bit) ^^^ 1 := by
  apply Nat.eq_of_testBit_eq
  intro other
  rw [Nat.testBit_div_two_pow, testBit_flipBit array within, Nat.testBit_xor,
    Nat.testBit_div_two_pow]
  congr 1
  cases other with
  | zero => simp
  | succ other => simp [Nat.testBit_succ]

theorem flipBit_mod {bit : Nat} (within : bit < 8 * width) :
    (array.flipBit bit).number % 2 ^ bit = array.number % 2 ^ bit := by
  apply Nat.eq_of_testBit_eq
  intro other
  rw [Nat.testBit_mod_two_pow, Nat.testBit_mod_two_pow, testBit_flipBit array within]
  by_cases below : other < bit
  · rw [decide_eq_false (show ¬ bit = other by omega), Bool.xor_false]
  · rw [decide_eq_false below, Bool.false_and, Bool.false_and]

theorem clearBit_div {bit : Nat} (within : bit < 8 * width) :
    (array.clearBit bit).number / 2 ^ (bit + 1) = array.number / 2 ^ (bit + 1) := by
  apply Nat.eq_of_testBit_eq
  intro other
  rw [Nat.testBit_div_two_pow, Nat.testBit_div_two_pow, testBit_clearBit array within,
    decide_eq_false (by omega), Bool.not_false, Bool.and_true]

theorem clearBit_mod {bit : Nat} (within : bit < 8 * width) (cleared : array.number % 2 ^ bit = 0) :
    (array.clearBit bit).number % 2 ^ (bit + 1) = 0 := by
  apply Nat.eq_of_testBit_eq
  intro other
  rw [Nat.testBit_mod_two_pow, testBit_clearBit array within, Nat.zero_testBit]
  by_cases below : other < bit
  · have isClear := congrArg (fun number => number.testBit other) cleared
    simp only [Nat.testBit_mod_two_pow, decide_eq_true below, Bool.true_and,
      Nat.zero_testBit] at isClear
    rw [isClear, Bool.false_and, Bool.and_false]
  · by_cases isSame : bit = other
    · simp [*]
    · rw [decide_eq_false (show ¬ other < bit + 1 by omega), Bool.false_and]

end Bytes
end Foundation
