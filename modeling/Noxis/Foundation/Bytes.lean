import Mathlib.Data.List.Lex
import Mathlib.Tactic.Ring

namespace Foundation

/-!
# Byte strings, fixed-width arrays and big-endian integers

Wire formats and hash inputs are lists of `UInt8`.  A fixed-width array keeps
its width in its type, so a decoder that produces one has already checked the
length.  Its order is the lexicographic order of its bytes, which is the order
sorted collections of identifiers use.

Integers are written most significant byte first.  Reading inverts writing on
every value that fits the width, and writing inverts reading on every byte
string, so a field of fixed width has exactly one representation.
-/

-- One proof for the literals of each index type that the formats and circuits use.
instance neZero2 : NeZero 2 := ⟨by decide⟩
instance neZero3 : NeZero 3 := ⟨by decide⟩
instance neZero4 : NeZero 4 := ⟨by decide⟩
instance neZero15 : NeZero 15 := ⟨by decide⟩
instance neZero16 : NeZero 16 := ⟨by decide⟩
instance neZero24 : NeZero 24 := ⟨by decide⟩

instance byteLinearOrder : LinearOrder UInt8 where
  le_refl := UInt8.le_refl
  le_trans := fun _ _ _ => UInt8.le_trans
  le_antisymm := fun _ _ => UInt8.le_antisymm
  le_total := UInt8.le_total
  lt_iff_le_not_ge := fun left right => by
    grind
  toDecidableLE := inferInstance
  toDecidableEq := inferInstance
  toDecidableLT := inferInstance

/-- Exactly `width` bytes. -/
@[ext]
structure Bytes (width : Nat) where
  toList : List UInt8
  length_toList : toList.length = width

namespace Bytes

variable {width : Nat}

theorem toList_injective : Function.Injective (@toList width) :=
  fun _ _ same => Bytes.ext same

/-- Lexicographic order on the bytes, first byte most significant. -/
instance : LinearOrder (Bytes width) :=
  LinearOrder.lift' toList toList_injective

/-- The array that repeats one byte. -/
def replicate (width : Nat) (byte : UInt8) : Bytes width :=
  ⟨List.replicate width byte, List.length_replicate⟩

/-- Check the length of a byte string against a width. -/
def ofList? (width : Nat) (bytes : List UInt8) : Option (Bytes width) :=
  if sameLength : bytes.length = width then some ⟨bytes, sameLength⟩ else none

@[simp] theorem ofList?_toList (array : Bytes width) : ofList? width array.toList = some array := by
  simp only [ofList?, array.length_toList, dite_true]

theorem toList_of_ofList?_eq_some {bytes array} (accepted : ofList? width bytes = some array) :
    array.toList = bytes := by
  unfold ofList? at accepted
  by_cases sameLength : bytes.length = width
  · rw [dif_pos sameLength] at accepted
    rw [← Option.some.inj accepted]
  · rw [dif_neg sameLength] at accepted
    cases accepted

def cut {total : Nat} (whole : Bytes total) (offset width : Nat) (within : offset + width <= total) :
    Bytes width where
  toList := (whole.toList.drop offset).take width
  length_toList := by
    grind [length_toList]

theorem drop_eq_cut_append {total : Nat} (whole : Bytes total) {offset width : Nat}
    (within : offset + width <= total) :
    whole.toList.drop offset =
      (whole.cut offset width within).toList ++ whole.toList.drop (offset + width) := by
  rw [cut, ← List.drop_drop, List.take_append_drop]

theorem toList_append_inj {left right : Bytes width} {afterLeft afterRight : List UInt8} :
    left.toList ++ afterLeft = right.toList ++ afterRight <->
      left = right /\ afterLeft = afterRight := by
  constructor
  · intro same
    have parts := List.append_inj same (left.length_toList.trans right.length_toList.symm)
    exact ⟨Bytes.ext parts.1, parts.2⟩
  · intro both
    rw [both.1, both.2]

end Bytes

def utf8 (text : String) : List UInt8 :=
  text.toByteArray.data.toList

theorem utf8_injective : Function.Injective utf8 :=
  fun _ _ same => String.toByteArray_inj.mp (ByteArray.ext (Array.toList_inj.mp same))

def fromUtf8 (bytes : List UInt8) : Option String :=
  String.fromUTF8? ⟨bytes.toArray⟩

theorem fromUtf8_eq_some {bytes text} : fromUtf8 bytes = some text <-> bytes = utf8 text := by
  unfold fromUtf8 String.fromUTF8? utf8
  constructor
  · intro decoded
    split at decoded
    · rw [← Option.some.inj decoded]
      rfl
    · cases decoded
  · intro encoded
    subst encoded
    rw [dif_pos text.isValidUTF8]
    rfl

/-- The `width` low-order bytes of a natural number, most significant first. -/
def bigEndian : Nat -> Nat -> List UInt8
  | 0, _ => []
  | width + 1, value => UInt8.ofNat (value / 256 ^ width) :: bigEndian width value

/-- The natural number a big-endian byte string denotes. -/
def ofBigEndian : List UInt8 -> Nat
  | [] => 0
  | byte :: rest => byte.toNat * 256 ^ rest.length + ofBigEndian rest

@[simp] theorem length_bigEndian (width value : Nat) : (bigEndian width value).length = width := by
  induction width with
  | zero => rfl
  | succ width ih =>
    rw [bigEndian, List.length_cons, ih]

theorem getD_bigEndian {width value index : Nat} (within : index < width) :
    (bigEndian width value).getD index 0 = UInt8.ofNat (value / 256 ^ (width - 1 - index)) := by
  induction width generalizing index with
  | zero => exact absurd within (Nat.not_lt_zero index)
  | succ width ih =>
    cases index with
    | zero => rfl
    | succ index =>
      rw [bigEndian, List.getD_cons_succ, ih (by omega)]
      congr 3
      omega

theorem ofBigEndian_lt (bytes : List UInt8) : ofBigEndian bytes < 256 ^ bytes.length := by
  induction bytes with
  | nil => decide
  | cons byte rest ih =>
    have byteBound : byte.toNat + 1 <= 256 := byte.toNat_lt
    calc
      ofBigEndian (byte :: rest) < byte.toNat * 256 ^ rest.length + 256 ^ rest.length :=
        Nat.add_lt_add_left ih _
      _ = (byte.toNat + 1) * 256 ^ rest.length := by ring
      _ <= 256 * 256 ^ rest.length := Nat.mul_le_mul_right _ byteBound
      _ = 256 ^ (byte :: rest).length := by rw [List.length_cons, Nat.pow_succ, Nat.mul_comm]

theorem ofBigEndian_bigEndian_mod (width value : Nat) :
    ofBigEndian (bigEndian width value) = value % 256 ^ width := by
  induction width with
  | zero => rw [bigEndian, ofBigEndian, Nat.pow_zero, Nat.mod_one]
  | succ width ih =>
    have digit : (UInt8.ofNat (value / 256 ^ width)).toNat = value / 256 ^ width % 256 :=
      UInt8.toNat_ofNat'
    rw [bigEndian, ofBigEndian, length_bigEndian, ih, digit,
      Nat.pow_succ, Nat.mod_mul, Nat.mul_comm, Nat.add_comm]

theorem ofBigEndian_bigEndian {width value : Nat} (fits : value < 256 ^ width) :
    ofBigEndian (bigEndian width value) = value := by
  rw [ofBigEndian_bigEndian_mod, Nat.mod_eq_of_lt fits]

theorem ofBigEndian_injective {left right} (sameLength : left.length = right.length)
    (same : ofBigEndian left = ofBigEndian right) : left = right := by
  induction left generalizing right with
  | nil => exact (List.length_eq_zero_iff.mp sameLength.symm).symm
  | cons byte rest ih =>
    cases right with
    | nil => cases sameLength
    | cons other tail =>
      have tailLength : rest.length = tail.length := Nat.succ.inj sameLength
      have restBound := ofBigEndian_lt rest
      have tailBound := ofBigEndian_lt tail
      rw [ofBigEndian, ofBigEndian, ← tailLength] at same
      rw [← tailLength] at tailBound
      have positive : 0 < 256 ^ rest.length := Nat.pow_pos (by decide)
      have heads := congrArg (fun value => value / 256 ^ rest.length) same
      have tails := congrArg (fun value => value % 256 ^ rest.length) same
      simp only [Nat.mul_comm _ (256 ^ rest.length), Nat.mul_add_div positive,
        Nat.div_eq_of_lt restBound, Nat.div_eq_of_lt tailBound, Nat.add_zero] at heads
      grind [UInt8.toNat_inj]

/-- Writing inverts reading, so no integer field has a second representation. -/
theorem bigEndian_ofBigEndian (bytes : List UInt8) :
    bigEndian bytes.length (ofBigEndian bytes) = bytes :=
  ofBigEndian_injective (length_bigEndian _ _) (ofBigEndian_bigEndian (ofBigEndian_lt bytes))

theorem bigEndian_injective {width left right : Nat}
    (leftFits : left < 256 ^ width) (rightFits : right < 256 ^ width)
    (same : bigEndian width left = bigEndian width right) : left = right := by
  grind [ofBigEndian_bigEndian]

end Foundation
