import Mathlib.Data.UInt

namespace Foundation

/-!
# The CRC-32 checksum

The checksum shifts the message through a 32-bit register, low bits first, and
adds the reflected IEEE polynomial whenever a one is shifted out.  The
polynomial has its top bit set, so the bit that was shifted out can be read
off the register afterwards.  Every step of the checksum is therefore
injective in the register, and a change of one byte is never hidden by the
bytes that follow it.  The steps are also linear, so that two messages of one
length that differ within 32 bits are told apart by what differs alone.
-/

def crcPolynomial : UInt32 := 0xedb88320

/-- Shift one bit out of the register. -/
def crcShift (value : UInt32) : UInt32 :=
  if value &&& 1 = 1 then (value >>> 1) ^^^ crcPolynomial else value >>> 1

/-- Shift a number of bits out of the register. -/
def crcShifts : Nat -> UInt32 -> UInt32
  | 0, value => value
  | count + 1, value => crcShifts count (crcShift value)

/-- Feed one byte to the register. -/
def crcByte (value : UInt32) (byte : UInt8) : UInt32 :=
  crcShifts 8 (value ^^^ byte.toUInt32)

/-- The complement of the register after all bytes. -/
def crc32 (bytes : List UInt8) : UInt32 :=
  ~~~(bytes.foldl crcByte 0xffffffff)

theorem getLsbD_crcShift (value : UInt32) (position : Nat) :
    (crcShift value).toBitVec.getLsbD position =
      (value.toBitVec.getLsbD (1 + position) ^^
        (value.toBitVec.getLsbD 0 && crcPolynomial.toBitVec.getLsbD position)) := by
  have lowBit : (value &&& 1 = 1) <-> value.toBitVec.getLsbD 0 = true := by
    rw [← UInt32.toBitVec_inj, UInt32.toBitVec_and]
    change value.toBitVec &&& 1#32 = 1#32 <-> _
    rw [BitVec.and_one_eq_setWidth_ofBool_getLsbD]
    cases value.toBitVec.getLsbD 0 <;> decide
  have shifted : (value >>> 1).toBitVec.getLsbD position =
      value.toBitVec.getLsbD (1 + position) := by
    rw [UInt32.toBitVec_shiftRight]
    exact BitVec.getLsbD_ushiftRight _ _ _
  unfold crcShift
  by_cases one : value &&& 1 = 1
  · rw [if_pos one, UInt32.toBitVec_xor, BitVec.getLsbD_xor, shifted, lowBit.mp one, Bool.true_and]
  · have low : value.toBitVec.getLsbD 0 = false :=
      Bool.eq_false_iff.mpr (fun high => one (lowBit.mpr high))
    rw [if_neg one, shifted, low, Bool.false_and, Bool.xor_false]

/-- The top bit of the register after a shift is the bit that was shifted out. -/
theorem getLsbD_crcShift_top (value : UInt32) :
    (crcShift value).toBitVec.getLsbD 31 = value.toBitVec.getLsbD 0 := by
  have top : crcPolynomial.toBitVec.getLsbD 31 = true := by decide
  rw [getLsbD_crcShift, BitVec.getLsbD_of_ge _ _ (by decide), top, Bool.and_true, Bool.false_xor]

theorem crcShift_injective : Function.Injective crcShift := by
  intro left right same
  have low : left.toBitVec.getLsbD 0 = right.toBitVec.getLsbD 0 := by
    rw [← getLsbD_crcShift_top, same, getLsbD_crcShift_top]
  apply UInt32.toBitVec_inj.mp
  apply BitVec.eq_of_getLsbD_eq
  intro position _
  cases position with
  | zero => exact low
  | succ position =>
    have shifted := getLsbD_crcShift left position
    rw [same, getLsbD_crcShift right position, low, Nat.add_comm 1 position] at shifted
    exact (Bool.xor_left_inj.mp shifted).symm

theorem crcShifts_injective (count : Nat) : Function.Injective (crcShifts count) := by
  induction count with
  | zero => exact Function.injective_id
  | succ count ih => exact ih.comp crcShift_injective

theorem crcByte_injective_left (byte : UInt8) : Function.Injective (fun value => crcByte value byte) := by
  intro left right same
  exact (UInt32.xor_left_inj _).mp (crcShifts_injective 8 same)

theorem crcByte_injective_right (value : UInt32) : Function.Injective (crcByte value) := by
  intro left right same
  exact UInt8.toUInt32_inj.mp ((UInt32.xor_right_inj _).mp (crcShifts_injective 8 same))

theorem foldl_injective {α : Type} {step : UInt32 -> α -> UInt32}
    (injective : forall value, Function.Injective (fun register => step register value))
    (values : List α) : Function.Injective (fun register => values.foldl step register) := by
  induction values with
  | nil => exact Function.injective_id
  | cons value rest ih => exact ih.comp (injective value)

/-- A change of one byte changes the checksum. -/
theorem byte_eq_of_crc32_eq {before after : List UInt8} {left right : UInt8}
    (same : crc32 (before ++ left :: after) = crc32 (before ++ right :: after)) : left = right := by
  have registers := UInt32.not_inj.mp same
  rw [List.foldl_append, List.foldl_append, List.foldl_cons, List.foldl_cons] at registers
  exact crcByte_injective_right _ (foldl_injective crcByte_injective_left after registers)

example : crc32 [0x31, 0x32, 0x33, 0x34, 0x35, 0x36, 0x37, 0x38, 0x39] = 0xcbf43926 := by decide +kernel

theorem crcShift_xor (left right : UInt32) :
    crcShift (left ^^^ right) = crcShift left ^^^ crcShift right := by
  apply UInt32.toBitVec_inj.mp
  apply BitVec.eq_of_getLsbD_eq
  intro position _
  simp only [UInt32.toBitVec_xor, BitVec.getLsbD_xor, getLsbD_crcShift, Bool.and_xor_distrib_right,
    Bool.xor_assoc, Bool.xor_left_comm]

theorem crcShifts_xor (count : Nat) (left right : UInt32) :
    crcShifts count (left ^^^ right) = crcShifts count left ^^^ crcShifts count right := by
  induction count generalizing left right with
  | zero => rfl
  | succ count ih => rw [crcShifts, crcShift_xor, ih, crcShifts, crcShifts]

theorem crcByte_xor (left right : UInt32) (first second : UInt8) :
    crcByte (left ^^^ right) (first ^^^ second) = crcByte left first ^^^ crcByte right second := by
  rw [crcByte, crcByte, crcByte, ← crcShifts_xor, UInt8.toUInt32_xor]
  congr 1
  ac_rfl

/-- The registers after two messages of one length give the register after their sum. -/
theorem foldl_xor {α : Type} {step : UInt32 -> α -> UInt32} {add : α -> α -> α}
    (linear : forall left right first second,
      step (left ^^^ right) (add first second) = step left first ^^^ step right second)
    {first second : List α} (sameLength : first.length = second.length) (left right : UInt32) :
    (List.zipWith add first second).foldl step (left ^^^ right) =
      first.foldl step left ^^^ second.foldl step right := by
  induction first generalizing second left right with
  | nil =>
    rw [List.length_eq_zero_iff.mp sameLength.symm]
    rfl
  | cons value rest ih =>
    cases second with
    | nil => cases sameLength
    | cons other others =>
      rw [List.zipWith_cons_cons, List.foldl_cons, linear]
      exact ih (Nat.succ_injective sameLength) _ _

/-! ## Bursts -/

/-- The bits of a message in the order in which the checksum shifts them in. -/
def bitsOf (bytes : List UInt8) : List Bool :=
  bytes.flatMap (fun byte => (List.range 8).map byte.toBitVec.getLsbD)

/-- Feed one bit to the register. -/
def crcBit (value : UInt32) (bit : Bool) : UInt32 :=
  crcShift (value ^^^ if bit then 1 else 0)

theorem crcBit_xor (left right : UInt32) (first second : Bool) :
    crcBit (left ^^^ right) (first ^^ second) = crcBit left first ^^^ crcBit right second := by
  have bits : (if first ^^ second then 1 else 0 : UInt32) =
      (if first then 1 else 0) ^^^ (if second then 1 else 0) := by
    revert first second
    decide
  rw [crcBit, crcBit, crcBit, ← crcShift_xor, bits]
  congr 1
  ac_rfl

theorem foldl_crcBit_bits (value : UInt32) (byte : UInt8) :
    ((List.range 8).map byte.toBitVec.getLsbD).foldl crcBit value = crcByte value byte := by
  have fromZero : forall number : Fin 256, ((List.range 8).map
      (UInt8.ofFin number).toBitVec.getLsbD).foldl crcBit 0 = crcByte 0 (.ofFin number) := by
    decide +kernel
  have silent : (List.replicate 8 false).foldl crcBit value = crcByte value 0 := by
    simp [List.replicate, crcBit, crcByte, crcShifts]
  have summed : (List.zipWith xor (List.replicate 8 false)
      ((List.range 8).map byte.toBitVec.getLsbD)).foldl crcBit (value ^^^ 0) =
        crcByte value 0 ^^^ crcByte 0 byte := by
    refine (foldl_xor crcBit_xor (by simp) value 0).trans ?_
    rw [silent]
    exact congrArg _ (fromZero byte.toFin)
  rw [← crcByte_xor, UInt32.xor_zero, UInt8.zero_xor] at summed
  rw [← summed]
  simp [List.range_succ, List.replicate]

theorem foldl_crcBit_bitsOf (bytes : List UInt8) (value : UInt32) :
    (bitsOf bytes).foldl crcBit value = bytes.foldl crcByte value := by
  induction bytes generalizing value with
  | nil => rfl
  | cons byte rest ih =>
    rw [bitsOf, List.flatMap_cons, List.foldl_append, foldl_crcBit_bits]
    exact ih _

/-- Up to 32 bits that lead to the register zero stood in the register before. -/
theorem getLsbD_of_foldl_crcBit {bits : List Bool} {value : UInt32} (short : bits.length <= 32)
    (cleared : bits.foldl crcBit value = 0) (position : Nat) :
    value.toBitVec.getLsbD position = bits.getD position false := by
  induction bits generalizing value position with
  | nil =>
    rw [show value = 0 from cleared]
    exact BitVec.getLsbD_zero
  | cons bit rest ih =>
    rw [List.length_cons] at short
    have shifted := ih (by omega) cleared
    have inserted (position : Nat) : (value ^^^ if bit then 1 else 0).toBitVec.getLsbD position =
        (value.toBitVec.getLsbD position ^^ (bit && decide (position = 0))) := by
      rw [UInt32.toBitVec_xor, BitVec.getLsbD_xor]
      cases bit with
      | false => simp
      | true =>
        congr 1
        cases position <;> simp
    have low : (value ^^^ if bit then 1 else 0).toBitVec.getLsbD 0 = false := by
      rw [← getLsbD_crcShift_top]
      rw [← crcBit, shifted, List.getD_eq_getElem?_getD, List.getElem?_eq_none (by omega)]
      rfl
    cases position with
    | zero =>
      rw [inserted] at low
      simpa using low
    | succ position =>
      have next := shifted position
      rw [crcBit, getLsbD_crcShift, low, inserted] at next
      simpa [Nat.add_comm] using next

theorem crcBit_injective_left (bit : Bool) : Function.Injective (fun value => crcBit value bit) := by
  intro left right same
  exact (UInt32.xor_left_inj _).mp (crcShift_injective same)

/-- Two messages that lead from one register to one register and differ within 32 bits are
the same. -/
theorem eq_of_burst {first second : List Bool} {start : Nat} {value : UInt32}
    (sameLength : first.length = second.length)
    (burst : forall index, first[index]? ≠ second[index]? -> start <= index /\ index < start + 32)
    (same : first.foldl crcBit value = second.foldl crcBit value) : first = second := by
  have before : first.take start = second.take start := by
    apply List.ext_getElem?
    intro index
    rw [List.getElem?_take, List.getElem?_take]
    split
    case isFalse => rfl
    case isTrue early => exact Not.imp_symm (fun differ => (burst index differ).1) (by omega)
  have after : (first.drop start).drop 32 = (second.drop start).drop 32 := by
    apply List.ext_getElem?
    intro index
    rw [List.drop_drop, List.drop_drop, List.getElem?_drop, List.getElem?_drop]
    exact Not.imp_symm (fun differ => (burst _ differ).2) (by omega)
  have parts (bits : List Bool) : bits = bits.take start ++
      ((bits.drop start).take 32 ++ (bits.drop start).drop 32) := by
    rw [List.take_append_drop, List.take_append_drop]
  rw [parts first, parts second, before, after] at same ⊢
  simp only [List.foldl_append] at same
  have window := foldl_injective crcBit_injective_left _ same
  have sameWindow : ((first.drop start).take 32).length = ((second.drop start).take 32).length := by
    simp only [List.length_take, List.length_drop, sameLength]
  have summed := foldl_xor crcBit_xor sameWindow ((second.take start).foldl crcBit value)
    ((second.take start).foldl crcBit value)
  rw [window, UInt32.xor_self, UInt32.xor_self] at summed
  congr 2
  apply List.ext_getElem sameWindow
  intro index inFirst inSecond
  have stood := getLsbD_of_foldl_crcBit (by simp) summed index
  rw [List.getD_eq_getElem?_getD, List.getElem?_zipWith_eq_some.mpr
    ⟨_, _, List.getElem?_eq_getElem inFirst, List.getElem?_eq_getElem inSecond, rfl⟩] at stood
  simpa using stood

theorem crc32_xor {first second third : List UInt8} (sameLength : first.length = second.length)
    (sameLengths : second.length = third.length) :
    crc32 first ^^^ crc32 second ^^^ crc32 third =
      crc32 (List.zipWith (· ^^^ ·) (List.zipWith (· ^^^ ·) first second) third) := by
  have start : (0xffffffff : UInt32) = 0xffffffff ^^^ 0xffffffff ^^^ 0xffffffff := by decide
  have summed : (List.zipWith (· ^^^ ·) (List.zipWith (· ^^^ ·) first second) third).foldl crcByte
      0xffffffff = first.foldl crcByte 0xffffffff ^^^ second.foldl crcByte 0xffffffff ^^^
        third.foldl crcByte 0xffffffff := by
    nth_rewrite 1 [start]
    rw [foldl_xor crcByte_xor (by simp [sameLength, sameLengths]), foldl_xor crcByte_xor sameLength]
  rw [crc32, crc32, crc32, crc32, summed]
  simp only [UInt32.not_xor, UInt32.xor_not, UInt32.not_not]

theorem bitsOf_injective {left right : List UInt8} (same : bitsOf left = bitsOf right) :
    left = right := by
  induction left generalizing right with
  | nil =>
    cases right with
    | nil => rfl
    | cons byte rest => cases same
  | cons byte rest ih =>
    cases right with
    | nil => cases same
    | cons other others =>
      rw [bitsOf, bitsOf, List.flatMap_cons, List.flatMap_cons] at same
      rcases List.append_inj same (by simp) with ⟨sameBits, sameRest⟩
      rw [ih sameRest, UInt8.toBitVec_inj.mp (BitVec.eq_of_getLsbD_eq fun index within =>
        List.map_inj_left.mp sameBits index (List.mem_range.mpr within))]

end Foundation
