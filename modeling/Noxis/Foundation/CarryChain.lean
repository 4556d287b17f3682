import Mathlib.Algebra.BigOperators.Intervals
import Mathlib.Data.ZMod.Basic
import Noxis.Foundation.ByteColumns

namespace Foundation

/-!
# Carries between digits

Numbers are compared digit by digit when the difference of two digits and a
carry is a multiple of the base, namely the base times the next carry.  The
differences then add up to the last carry, so a chain that starts and ends
without a carry compares the numbers.  Two sums of one value keep the same
digits.  In a prime field such an equation between small numbers holds exactly
when it holds between integers.
-/

/-- The weighted differences of a chain add up to its last carry. -/
theorem sum_eq_last_carry {base : Int} {difference carry : Nat -> Int} {count : Nat}
    (starts : carry 0 = 0)
    (chained : forall index, index < count ->
      difference index + carry index = base * carry (index + 1)) :
    ∑ index ∈ Finset.range count, difference index * base ^ index = base ^ count * carry count := by
  induction count with
  | zero => rw [Finset.range_zero, Finset.sum_empty, starts, mul_zero]
  | succ count ih =>
    have step := chained count (Nat.lt_succ_self count)
    rw [Finset.sum_range_succ, ih (fun index early => chained index (by omega))]
    calc
      base ^ count * carry count + difference count * base ^ count =
          base ^ count * (difference count + carry count) := by ring
      _ = base ^ count * (base * carry (count + 1)) := by rw [step]
      _ = base ^ (count + 1) * carry (count + 1) := by ring

section
variable {base : Nat} {digit : Nat -> Nat}

/-- The carry into a digit, when every sum leaves its quotient to the next. -/
def carryInto (base : Nat) (digit : Nat -> Nat) : Nat -> Nat
  | 0 => 0
  | index + 1 => (digit index + carryInto base digit index) / base

/-- A carry is what the digits below weigh beyond their places. -/
theorem carryInto_eq (positive : 0 < base) (index : Nat) :
    carryInto base digit index =
      (∑ place ∈ Finset.range index, digit place * base ^ place) / base ^ index := by
  induction index with
  | zero => simp [carryInto]
  | succ index ih =>
    rw [carryInto, ih, Finset.sum_range_succ, pow_succ, ← Nat.div_div_eq_div_mul,
      Nat.add_mul_div_right _ _ (Nat.pow_pos positive), Nat.add_comm]

/-- What a place keeps is a digit of the whole sum. -/
theorem add_carryInto_mod (positive : 0 < base) {index count : Nat} (early : index < count) :
    (digit index + carryInto base digit index) % base =
      (∑ place ∈ Finset.range count, digit place * base ^ place) / base ^ index % base := by
  induction count, early using Nat.le_induction with
  | base =>
    rw [Finset.sum_range_succ, Nat.add_mul_div_right _ _ (Nat.pow_pos positive),
      ← carryInto_eq positive, Nat.add_comm]
  | succ count inside ih =>
    have weight : base ^ count = base ^ index * (base * base ^ (count - (index + 1))) := by
      rw [← pow_succ', ← pow_add]
      congr 1
      omega
    rw [ih, Finset.sum_range_succ, weight, Nat.mul_left_comm,
      Nat.add_mul_div_left _ _ (Nat.pow_pos positive), Nat.mul_left_comm,
      Nat.add_mul_mod_self_left]

/-- Two digits leave no carry beyond one. -/
theorem carryInto_le_one (small : forall index, digit index + 1 < 2 * base) (index : Nat) :
    carryInto base digit index <= 1 := by
  induction index with
  | zero => exact Nat.zero_le 1
  | succ index ih =>
    have sum := small index
    exact Nat.le_of_lt_succ (Nat.div_lt_of_lt_mul (by rw [Nat.mul_comm]; omega))

end

theorem eq_zero_of_cast_eq_zero {modulus : Nat} {value : Int} (small : |value| < modulus)
    (isZero : (value : ZMod modulus) = 0) : value = 0 :=
  Int.eq_zero_of_abs_lt_dvd ((ZMod.intCast_zmod_eq_zero_iff_dvd value modulus).mp isZero) small

theorem ofLittleEndian_append (left right : List UInt8) :
    ofLittleEndian (left ++ right) =
      ofLittleEndian left + 256 ^ left.length * ofLittleEndian right := by
  induction left with
  | nil => simp [ofLittleEndian]
  | cons byte rest ih =>
    rw [List.cons_append, ofLittleEndian, ih, ofLittleEndian, List.length_cons, pow_succ]
    ring

theorem ofLittleEndian_reverse (bytes : List UInt8) :
    ofLittleEndian bytes.reverse = ofBigEndian bytes := by
  induction bytes with
  | nil => rfl
  | cons byte rest ih =>
    rw [List.reverse_cons, ofLittleEndian_append, ih, List.length_reverse,
      ofLittleEndian, ofLittleEndian, ofBigEndian]
    ring

/-- A big-endian number is the weighted sum of its bytes from the last one. -/
theorem ofBigEndian_eq_sum (bytes : List UInt8) :
    ofBigEndian bytes = ∑ index ∈ Finset.range bytes.length,
      (bytes.getD (bytes.length - 1 - index) 0).toNat * 256 ^ index := by
  have number := @weighBytes_take Nat _ bytes.length bytes.reverse
  rw [Nat.cast_id, List.take_of_length_le (by simp), ofLittleEndian_reverse] at number
  rw [← number, weighBytes]
  apply Finset.sum_congr rfl
  intro index inside
  have early := Finset.mem_range.mp inside
  have place : bytes.reverse.getD index 0 = bytes.getD (bytes.length - 1 - index) 0 := by
    rw [List.getD_eq_getElem _ _ (by simpa using early), List.getElem_reverse,
      List.getD_eq_getElem _ _ (by omega)]
  rw [place, Nat.cast_id, Nat.cast_id, Nat.mul_comm index 8, Nat.pow_mul]

end Foundation
