import Mathlib.Algebra.BigOperators.Ring.Finset
import Mathlib.Data.List.GetD
import Noxis.Foundation.Bytes

namespace Foundation

/-!
# Bytes in the columns of a field

A trace over a field holds bytes as field elements.  A byte column is checked
against eight bit columns, and groups of bytes are read as little-endian
numbers by weighted sums.  A sum of four bytes may exceed the characteristic
of the field, so equality in the field does not determine the bytes.
-/

/-- The natural number a little-endian byte string denotes. -/
def ofLittleEndian : List UInt8 -> Nat
  | [] => 0
  | byte :: rest => byte.toNat + 256 * ofLittleEndian rest

/-- The `width` low-order bytes of a natural number, least significant first. -/
def littleEndian : Nat -> Nat -> List UInt8
  | 0, _ => []
  | width + 1, value => UInt8.ofNat value :: littleEndian width (value / 256)

@[simp] theorem length_littleEndian (width value : Nat) :
    (littleEndian width value).length = width := by
  induction width generalizing value with
  | zero => rfl
  | succ width ih =>
    rw [littleEndian, List.length_cons, ih]

variable {width : Nat}

theorem ofLittleEndian_littleEndian {value : Nat} (fits : value < 256 ^ width) :
    ofLittleEndian (littleEndian width value) = value := by
  induction width generalizing value with
  | zero =>
    rw [pow_zero] at fits
    rw [littleEndian, ofLittleEndian]
    omega
  | succ width ih =>
    have quotient : value / 256 < 256 ^ width := by
      rw [pow_succ] at fits
      omega
    have digit : (UInt8.ofNat value).toNat = value % 256 := UInt8.toNat_ofNat'
    rw [littleEndian, ofLittleEndian, ih quotient, digit]
    omega

theorem littleEndian_ofLittleEndian (bytes : List UInt8) :
    littleEndian bytes.length (ofLittleEndian bytes) = bytes := by
  induction bytes with
  | nil => rfl
  | cons byte rest ih =>
    have bound := byte.toNat_lt
    have head : UInt8.ofNat (byte.toNat + 256 * ofLittleEndian rest) = byte := by
      apply UInt8.toNat_inj.mp
      rw [UInt8.toNat_ofNat']
      omega
    have tail : (byte.toNat + 256 * ofLittleEndian rest) / 256 = ofLittleEndian rest := by
      omega
    rw [ofLittleEndian, List.length_cons, littleEndian, head, tail, ih]

theorem ofLittleEndian_lt (bytes : List UInt8) : ofLittleEndian bytes < 256 ^ bytes.length := by
  induction bytes with
  | nil => decide
  | cons byte rest ih =>
    have bound := byte.toNat_lt
    rw [ofLittleEndian, List.length_cons, pow_succ]
    omega

variable {index : Nat}

theorem group_flatMap {α : Type} {encode : α -> List UInt8}
    (lengths : forall item, (encode item).length = width) (items : List α)
    (within : index < items.length) :
    ((items.flatMap encode).drop (index * width)).take width = encode items[index] := by
  induction items generalizing index with
  | nil => exact absurd within (Nat.not_lt_zero index)
  | cons item rest ih =>
    rw [List.flatMap_cons]
    cases index with
    | zero => simp [*]
    | succ index =>
      rw [List.getElem_cons_succ, ← ih (by simpa using within), Nat.succ_mul,
        Nat.add_comm, ← List.drop_drop, List.drop_left' (lengths item)]

variable {count : Nat}

theorem eq_of_groups {left right : List UInt8} (leftLength : left.length = count * width)
    (rightLength : right.length = count * width) (same : forall index, index < count ->
      (left.drop (index * width)).take width = (right.drop (index * width)).take width) :
    left = right := by
  induction count generalizing left right with
  | zero =>
    rw [Nat.zero_mul, List.length_eq_zero_iff] at leftLength rightLength
    rw [leftLength, rightLength]
  | succ count ih =>
    rw [Nat.succ_mul] at leftLength rightLength
    have first := same 0 (Nat.succ_pos count)
    rw [Nat.zero_mul, List.drop_zero, List.drop_zero] at first
    have rest : left.drop width = right.drop width := by
      apply ih
      · rw [List.length_drop, leftLength, Nat.add_sub_cancel]
      · rw [List.length_drop, rightLength, Nat.add_sub_cancel]
      grind [List.drop_drop]
    grind [List.take_append_drop]

/-- A finite family, continued by zeros. -/
def extend {β : Type} [Zero β] {count : Nat} (values : Fin count -> β) (index : Nat) : β :=
  if within : index < count then values ⟨index, within⟩ else 0

variable {β : Type}

theorem extend_of_lt [Zero β] (values : Fin count -> β) (within : index < count) :
    extend values index = values ⟨index, within⟩ :=
  dif_pos within

theorem extend_of_le [Zero β] (values : Fin count -> β) (outside : count <= index) :
    extend values index = 0 :=
  dif_neg (Nat.not_lt.mpr outside)

theorem getD_ofFn [Zero β] (values : Fin count -> β) (index : Nat) :
    (List.ofFn values).getD index 0 = extend values index := by
  grind [extend_of_lt, extend_of_le]

section
variable {F : Type} [CommSemiring F]

/-- A group of byte columns as a little-endian number in the field. -/
def weighBytes (count : Nat) (byte : Nat -> F) : F :=
  ∑ index ∈ Finset.range count, byte index * ((2 ^ (index * 8) : Nat) : F)

theorem weighBytes_congr {count : Nat} {left right : Nat -> F}
    (same : forall index, index < count -> left index = right index) :
    weighBytes count left = weighBytes count right := by
  apply Finset.sum_congr rfl
  intro index inside
  rw [same index (Finset.mem_range.mp inside)]

/-- The sum over the columns of a byte string is the number that its bytes
denote.  Columns after the end of the string count as zeros. -/
theorem weighBytes_take (count : Nat) (bytes : List UInt8) :
    weighBytes count (fun index => ((bytes.getD index 0).toNat : F)) =
      (ofLittleEndian (bytes.take count) : F) := by
  induction count generalizing bytes with
  | zero => simp [weighBytes, ofLittleEndian]
  | succ count ih =>
    have shifted (value : F) (index : Nat) : value * ((2 ^ ((index + 1) * 8) : Nat) : F) =
        256 * (value * ((2 ^ (index * 8) : Nat) : F)) := by
      rw [add_mul, pow_add, Nat.cast_mul]
      push_cast
      ring
    cases bytes with
    | nil => simp [weighBytes, ofLittleEndian]
    | cons byte rest =>
      rw [List.take_succ_cons, ofLittleEndian, Nat.cast_add, Nat.cast_mul,
        ← ih, weighBytes, Finset.sum_range_succ', weighBytes, Finset.mul_sum,
        add_comm]
      simp only [shifted, List.getD_cons_succ]
      simp

theorem weighBytes_drop (start count : Nat) (bytes : List UInt8) :
    weighBytes count (fun index => ((bytes.getD (start + index) 0).toNat : F)) =
      (ofLittleEndian ((bytes.drop start).take count) : F) := by
  rw [← weighBytes_take]
  simp [List.getD_eq_getElem?_getD]

end

/-! ## Range checks -/

variable {F : Type} [CommRing F]

/-- The constraints of one byte column and its eight bit columns. -/
structure HoldsByte (byte : F) (bit : Nat -> F) : Prop where
  boolean : forall index, index < 8 -> bit index * (bit index - 1) = 0
  recomposed : byte = ∑ index ∈ Finset.range 8, bit index * ((2 ^ index : Nat) : F)

variable {bit : Nat -> F}

/-- Boolean columns hold the bits of the number they add up to. -/
theorem exists_sum_bits [IsDomain F]
    (boolean : forall index, index < count -> bit index * (bit index - 1) = 0) :
    ∃ value : Nat, value < 2 ^ count /\
      ∑ index ∈ Finset.range count, bit index * ((2 ^ index : Nat) : F) = (value : F) /\
      forall index, index < count -> bit index = ((value.testBit index).toNat : F) := by
  induction count with
  | zero => simp
  | succ count ih =>
    rcases ih (fun index early => boolean index (by omega)) with
      ⟨value, bounded, isSum, areBits⟩
    have top := Nat.testBit_lt_two_pow bounded
    rw [Finset.sum_range_succ, isSum]
    rcases mul_eq_zero.mp (boolean count (by omega)) with isZero | isOne
    · refine ⟨value, ?_, ?_, ?_⟩
      · rw [pow_succ]
        omega
      · rw [isZero, zero_mul, add_zero]
      · intro index early
        rcases Nat.lt_succ_iff_lt_or_eq.mp early with below | isLast
        · exact areBits index below
        · rw [isLast, isZero, top, Bool.toNat_false, Nat.cast_zero]
    · refine ⟨2 ^ count + value, ?_, ?_, ?_⟩
      · rw [pow_succ]
        omega
      · rw [sub_eq_zero.mp isOne, one_mul, ← Nat.cast_add, Nat.add_comm]
      · intro index early
        rcases Nat.lt_succ_iff_lt_or_eq.mp early with below | isLast
        · rw [areBits index below, Nat.testBit_two_pow_add_gt below]
        · rw [isLast, sub_eq_zero.mp isOne, Nat.testBit_two_pow_add_eq, top, Bool.not_false,
            Bool.toNat_true, Nat.cast_one]

variable {byte : F}

/-- A checked column holds a byte and its bit columns hold the bits. -/
theorem HoldsByte.exists_byte [IsDomain F] (holds : HoldsByte byte bit) :
    ∃ value : UInt8, byte = (value.toNat : F) /\
      forall index, index < 8 -> bit index = ((value.toNat.testBit index).toNat : F) := by
  rcases exists_sum_bits holds.boolean with ⟨value, bounded, isSum, areBits⟩
  have sameValue : (UInt8.ofNat value).toNat = value := by
    rw [UInt8.toNat_ofNat', Nat.mod_eq_of_lt bounded]
  grind [recomposed]

/-- The bit columns of a byte are its bits when the field tells bytes apart. -/
theorem HoldsByte.bit_eq [IsDomain F]
    (injective : Function.Injective (fun byte : UInt8 => (byte.toNat : F))) {byte : UInt8}
    (holds : HoldsByte (byte.toNat : F) bit) (within : index < 8) :
    bit index = ((byte.toNat.testBit index).toNat : F) := by
  rcases holds.exists_byte with ⟨value, sameByte, areBits⟩
  have same : byte = value := injective sameByte
  rw [areBits index within, same]

theorem sum_bits_eq_mod (value count : Nat) :
    ∑ index ∈ Finset.range count, value / 2 ^ index % 2 * 2 ^ index = value % 2 ^ count := by
  induction count with
  | zero => simp [Nat.mod_one]
  | succ count ih =>
    rw [Finset.sum_range_succ, ih, pow_succ, Nat.mod_mul, Nat.mul_comm]

theorem holdsByte_bits (value : UInt8) :
    HoldsByte (value.toNat : F) (fun index => ((value.toNat.testBit index).toNat : F)) := by
  constructor
  · intro index _
    cases value.toNat.testBit index with
    | false => simp
    | true => simp
  · have whole := sum_bits_eq_mod value.toNat 8
    rw [Nat.mod_eq_of_lt value.toNat_lt] at whole
    grind [Nat.toNat_testBit, Nat.cast_sum]

theorem HoldsByte.congr {left right} (holds : HoldsByte byte left)
    (same : forall index, index < 8 -> left index = right index) : HoldsByte byte right := by
  constructor
  · intro index within
    rw [← same index within]
    exact holds.boolean index within
  grind [recomposed, Finset.sum_congr]

def HoldsBytes {count : Nat} (columns : Fin count -> F) (bytes : Bytes count) : Prop :=
  forall index : Fin count, columns index = ((bytes.toList.getD index.val 0).toNat : F)

namespace HoldsBytes

variable {count : Nat} {columns : Fin count -> F} {bytes : Bytes count}

theorem extend_eq (holds : HoldsBytes columns bytes) (index : Nat) :
    extend columns index = ((bytes.toList.getD index 0).toNat : F) := by
  by_cases within : index < count
  · rw [extend_of_lt columns within]
    exact holds ⟨index, within⟩
  have outside : bytes.toList.length <= index := by
    rw [bytes.length_toList]
    omega
  rw [extend_of_le columns (by omega), List.getD_eq_default _ _ outside]
  simp

/-- Columns that pass the check of each byte hold some array. -/
theorem exists_of_holdsByte [IsDomain F] {bits : Fin count -> Nat -> F}
    (checked : forall index, HoldsByte (columns index) (bits index)) :
    ∃ held : Bytes count, HoldsBytes columns held := by
  choose byte isByte _ using fun index => (checked index).exists_byte
  refine ⟨⟨List.ofFn byte, List.length_ofFn⟩, ?_⟩
  intro index
  rw [isByte index]
  simp [List.getD_eq_getElem?_getD]

/-- Columns hold one array at most when the field tells bytes apart. -/
theorem unique (injective : Function.Injective (fun byte : UInt8 => (byte.toNat : F))) {other}
    (holds : HoldsBytes columns bytes) (holdsOther : HoldsBytes columns other) : bytes = other := by
  apply Bytes.ext
  apply List.ext_getElem
  · rw [bytes.length_toList, other.length_toList]
  · intro index early earlyOther
    have within : index < count := by
      rw [bytes.length_toList] at early
      exact early
    have same := (holds ⟨index, within⟩).symm.trans (holdsOther ⟨index, within⟩)
    rw [List.getD_eq_getElem _ _ early, List.getD_eq_getElem _ _ earlyOther] at same
    exact injective same

end HoldsBytes

def byteColumns {count : Nat} (bytes : Bytes count) : Fin count -> F :=
  fun index => ((bytes.toList.getD index.val 0).toNat : F)

def bitColumns {count : Nat} (bytes : Bytes count) : Fin count -> Fin 8 -> F :=
  fun index bit => (((bytes.toList.getD index.val 0).toNat.testBit bit.val).toNat : F)

theorem holdsBytes_byteColumns (bytes : Bytes count) :
    HoldsBytes (byteColumns bytes : Fin count -> F) bytes :=
  fun _ => rfl

theorem holdsByte_columns (bytes : Bytes count) (index : Fin count) :
    HoldsByte (byteColumns bytes index : F) (extend (bitColumns bytes index)) := by
  apply (holdsByte_bits (bytes.toList.getD index.val 0)).congr
  intro bit within
  rw [extend_of_lt _ within]
  rfl

end Foundation
