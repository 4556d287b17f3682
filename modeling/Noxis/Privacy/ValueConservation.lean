import Noxis.Foundation.CarryChain
import Noxis.Foundation.Stateful
import Noxis.Privacy.Tables
import Noxis.Privacy.ValueTrace

namespace Noxis.Privacy

open Foundation Poseidon2P24ValueConservationAir

/-!
# What a value proof proves

The byte equations hold in the field, and their terms are small, so they hold
between integers.  The carries of the inputs and of the outputs enter them only
by their difference.  That is enough for the sums to be equal, and too little to
keep each sum below `2 ^ 128`.
-/

def noteValue (note : Bytes 178) : Nat := ofBigEndian ((note.toList.drop 34).take 16)

variable (note : Bytes 178)

theorem length_valueBytes : ((note.toList.drop 34).take 16).length = 16 := by
  rw [List.length_take, List.length_drop, note.length_toList]
  rfl

/-- The byte of a note's value at a step, from the least significant one. -/
def byteAt (note : Bytes 178) (byteStep : Nat) : Nat :=
  (note.toList.getD (34 + 16 - 1 - byteStep) 0).toNat

theorem byteAt_lt (byteStep : Nat) : byteAt note byteStep < 256 :=
  UInt8.toNat_lt _

theorem getD_valueBytes {index : Nat} (within : index < 16) :
    ((note.toList.drop 34).take 16).getD index 0 = note.toList.getD (34 + index) 0 := by
  simp [*]

theorem noteValue_eq_sum :
    noteValue note = ∑ byteStep ∈ Finset.range 16, byteAt note byteStep * 256 ^ byteStep := by
  rw [noteValue, ofBigEndian_eq_sum, length_valueBytes]
  apply Finset.sum_congr rfl
  grind [byteAt]

theorem valueByte_eq {witness note} (holds : HoldsBytes witness.bytes note) (byteStep : Nat) :
    valueByte witness byteStep = (byteAt note byteStep : Val) :=
  holds.extend_eq _

/-- Input bytes minus output bytes. -/
def byteDifference (notes : Fin 4 -> Bytes 178) (byteStep : Nat) : Int :=
  (byteAt (notes 0) byteStep + byteAt (notes 1) byteStep : Int) -
    (byteAt (notes 2) byteStep + byteAt (notes 3) byteStep)

theorem sum_byteDifference (notes : Fin 4 -> Bytes 178) :
    ∑ byteStep ∈ Finset.range 16, byteDifference notes byteStep * 256 ^ byteStep =
      (noteValue (notes 0) + noteValue (notes 1) : Int) -
        (noteValue (notes 2) + noteValue (notes 3)) := by
  simp only [noteValue_eq_sum, byteDifference, sub_mul, add_mul, Finset.sum_sub_distrib,
    Finset.sum_add_distrib]
  push_cast
  rfl

/-- A carry column as an integer. -/
def carryOf (carry : Val) : Int := if carry = 0 then 0 else 1

theorem cast_carryOf {carry : Val} (boolean : carry * (carry - 1) = 0) :
    ((carryOf carry : Int) : Val) = carry := by
  unfold carryOf
  rcases mul_eq_zero.mp boolean with isZero | isOne
  · rw [if_pos isZero, isZero, Int.cast_zero]
  · rw [sub_eq_zero.mp isOne, if_neg one_ne_zero, Int.cast_one]

theorem carryOf_bounds (carry : Val) : 0 <= carryOf carry /\ carryOf carry <= 1 := by
  unfold carryOf
  split
  · decide
  · decide

/-- The difference of the two carries of a row. -/
def carryDifference (arithmetic : ArithmeticColumns) : Int :=
  carryOf arithmetic.inputCarry - carryOf arithmetic.outputCarry

/-- A byte equation in the field is one between integers. -/
theorem byteDifference_add_carry {notes} {byteStep : Nat} {arithmetic next}
    (carries : forall carry, carry ∈ [arithmetic.inputCarry, arithmetic.outputCarry,
      next.inputCarry, next.outputCarry] -> carry * (carry - 1) = 0)
    (equation : ((byteAt (notes 0) byteStep : Val) + (byteAt (notes 1) byteStep : Val) +
        arithmetic.inputCarry) -
      ((byteAt (notes 2) byteStep : Val) + (byteAt (notes 3) byteStep : Val) +
        arithmetic.outputCarry) - (next.inputCarry - next.outputCarry) * 256 = 0) :
    byteDifference notes byteStep + carryDifference arithmetic = 256 * carryDifference next := by
  have bound (index : Fin 4) := byteAt_lt (notes index) byteStep
  have carry {column : Val} (member : column ∈ [arithmetic.inputCarry, arithmetic.outputCarry,
      next.inputCarry, next.outputCarry]) := cast_carryOf (carries column member)
  have inputCarry := carryOf_bounds arithmetic.inputCarry
  have outputCarry := carryOf_bounds arithmetic.outputCarry
  have nextInput := carryOf_bounds next.inputCarry
  have nextOutput := carryOf_bounds next.outputCarry
  have difference : byteDifference notes byteStep + carryDifference arithmetic -
      256 * carryDifference next = 0 := by
    apply @eq_zero_of_cast_eq_zero babyBearModulus
    · have first := bound 0
      have second := bound 1
      have third := bound 2
      have fourth := bound 3
      rw [abs_lt]
      unfold byteDifference carryDifference
      grind
    · rw [← equation]
      unfold byteDifference carryDifference
      push_cast
      rw [carry (by simp), carry (by simp), carry (by simp), carry (by simp)]
      ring
  exact sub_eq_zero.mp difference

/-! ## Satisfied traces -/

section
variable {air : Poseidon2P24ValueConservationAir} {height : Nat} {trace : Nat -> ValueRow}
  {publicValues : ValuePublicValues} {notes : Fin 4 -> Bytes 178}

/-- The constant byte columns of the four notes. -/
def HoldsNotes (row : ValueRow) (notes : Fin 4 -> Bytes 178) : Prop :=
  forall noteIndex, HoldsBytes (row.notes noteIndex).witness.bytes (notes noteIndex)

theorem holdsNotes_of_first (satisfied : air.Satisfies height trace publicValues)
    (holds : HoldsNotes (trace 0) notes) {row : Nat} (within : row < height) :
    HoldsNotes (trace row) notes := by
  intro noteIndex
  rw [(noteFollows_of_satisfies satisfied noteIndex within).sameWitness]
  exact holds noteIndex

/-- In the first sixteen rows the byte equations chain the carries. -/
theorem byteDifference_of_satisfies (full : 17 <= height)
    (satisfied : air.Satisfies height trace publicValues) (holds : HoldsNotes (trace 0) notes)
    {row : Nat} (early : row < 16) :
    byteDifference notes row + carryDifference (trace row).arithmetic =
      256 * carryDifference (trace (row + 1)).arithmetic := by
  have relation {row : Nat} (within : row + 1 < height) := (next_eq within satisfied).values
  have hot : extend (trace row).arithmetic.selectors row = 1 := by
    rw [register_eq_oneHot ((satisfied 0 (by omega)).values.firstSelectors rfl)
      (fun _ inside => (relation inside).nextSelectors trivial) (show row < height by omega) early,
      oneHot_self]
  have here := relation (show row + 1 < height by omega)
  have held := holdsNotes_of_first satisfied holds (show row < height by omega)
  have equation := here.sums row early
  rw [hot, one_mul] at equation
  simp only [valueByte_eq (held _)] at equation
  exact byteDifference_add_carry here.carries equation

/-- The carries after the last byte are zero. -/
theorem lastCarries_of_satisfies (full : 17 <= height)
    (satisfied : air.Satisfies height trace publicValues) :
    (trace 16).arithmetic.inputCarry = 0 /\ (trace 16).arithmetic.outputCarry = 0 := by
  have relation {row : Nat} (within : row + 1 < height) := (next_eq within satisfied).values
  have first := (satisfied 0 (by omega)).values
  have hot : extend (trace 15).arithmetic.selectors 15 = 1 := by
    rw [register_eq_oneHot (first.firstSelectors rfl)
      (fun _ inside => (relation inside).nextSelectors trivial) (show 15 < height by omega)
      (show 15 < 16 by decide), oneHot_self]
  have last := relation (show 15 + 1 < height by omega)
  have inputCarry := last.lastInputCarry
  have outputCarry := last.lastOutputCarry
  rw [hot, one_mul] at inputCarry outputCarry
  exact ⟨inputCarry, outputCarry⟩

theorem carryDifference_ends (full : 17 <= height)
    (satisfied : air.Satisfies height trace publicValues) :
    carryDifference (trace 0).arithmetic = 0 /\ carryDifference (trace 16).arithmetic = 0 := by
  have first := (satisfied 0 (by omega)).values
  have last := lastCarries_of_satisfies full satisfied
  unfold carryDifference carryOf
  rw [if_pos (first.firstInputCarry rfl), if_pos (first.firstOutputCarry rfl), if_pos last.1,
    if_pos last.2]
  exact ⟨rfl, rfl⟩

theorem values_balance (full : 17 <= height) (satisfied : air.Satisfies height trace publicValues)
    (holds : HoldsNotes (trace 0) notes) :
    noteValue (notes 0) + noteValue (notes 1) = noteValue (notes 2) + noteValue (notes 3) := by
  have ends := carryDifference_ends full satisfied
  have total := @sum_eq_last_carry 256 (byteDifference notes)
    (fun row => carryDifference (trace row).arithmetic) 16 ends.1
    (fun row early => byteDifference_of_satisfies full satisfied holds early)
  rw [ends.2, mul_zero, sum_byteDifference] at total
  omega

theorem input_ne_zero (nonempty : 0 < height) (satisfied : air.Satisfies height trace publicValues)
    (holds : HoldsNotes (trace 0) notes) (inputIndex : Fin 2) :
    noteValue (notes (inputIndex.castLE (by decide))) ≠ 0 := by
  intro isZero
  have inverse := (satisfied 0 nonempty).values.nonzeroInputs rfl inputIndex
  have zeros : ((notes (inputIndex.castLE (by decide))).toList.drop 34).take 16 =
      List.replicate 16 0 := by
    apply ofBigEndian_injective
    · rw [length_valueBytes, List.length_replicate]
    · exact isZero
  have none : ∑ byteIndex ∈ Finset.range 16,
      extend ((trace 0).notes (inputIndex.castLE (by decide))).witness.bytes (34 + byteIndex) =
        0 := by
    apply Finset.sum_eq_zero
    intro byteIndex inside
    have early := Finset.mem_range.mp inside
    rw [(holds _).extend_eq, ← getD_valueBytes _ early, zeros,
      List.getD_eq_getElem _ _ (by simpa using early), List.getElem_replicate]
    exact Nat.cast_zero
  rw [none, zero_mul] at inverse
  exact zero_ne_one inverse

/-- The notes of a trace have the first version and the public asset. -/
theorem header_eq (nonempty : 0 < height) (satisfied : air.Satisfies height trace publicValues)
    (holds : HoldsNotes (trace 0) notes) (noteIndex : Fin 4) :
    (notes noteIndex).toList.take 34 = [0, 1] ++ publicValues.assetId.toList := by
  have relation := (satisfied 0 nonempty).notes noteIndex
  have held := (holds noteIndex).extend_eq
  have assetLength := publicValues.assetId.length_toList
  have noteLength := (notes noteIndex).length_toList
  have high : (notes noteIndex).toList.getD 0 0 = 0 := by
    apply cast_byte_injective
    exact (held 0).symm.trans ((relation.versionHigh rfl).trans Nat.cast_zero.symm)
  have low : (notes noteIndex).toList.getD 1 0 = 1 := by
    apply cast_byte_injective
    exact (held 1).symm.trans ((relation.versionLow rfl).trans Nat.cast_one.symm)
  apply List.ext_getElem
  · simp [assetLength, noteLength]
  · intro index early earlyOther
    have within : index < 34 := by
      rw [List.length_take, noteLength] at early
      omega
    rw [List.getElem_take, ← List.getD_eq_getElem _ 0]
    match index, within with
    | 0, _ => exact high
    | 1, _ => exact low
    | index + 2, within =>
      have asset := relation.asset ⟨index, by omega⟩
      rw [held, Nat.add_comm 2] at asset
      rw [cast_byte_injective asset]
      exact List.getD_eq_getElem _ _ (by omega)

end

section
variable {notes : Fin 4 -> Bytes 178} {inverse : Fin 2 -> Val} {inputCarry outputCarry : Nat -> Bool}

def byteSum (note : Bytes 178) : Val :=
  ∑ byteIndex ∈ Finset.range 16, ((note.toList.getD (34 + byteIndex) 0).toNat : Val)

/-- What supplied carries have to do: both chains start and end at zero, and
their difference carries the difference of the bytes. -/
structure ChainsCarries (notes : Fin 4 -> Bytes 178) (inputCarry outputCarry : Nat -> Bool) :
    Prop where
  firstInput : inputCarry 0 = false
  firstOutput : outputCarry 0 = false
  lastInput : inputCarry 16 = false
  lastOutput : outputCarry 16 = false
  chained : forall byteStep, byteStep < 16 ->
    byteDifference notes byteStep +
        ((inputCarry byteStep).toNat - (outputCarry byteStep).toNat : Int) =
      256 * ((inputCarry (byteStep + 1)).toNat - (outputCarry (byteStep + 1)).toNat : Int)

theorem carry_boolean (carry : Bool) : (carry.toNat : Val) * ((carry.toNat : Val) - 1) = 0 := by
  cases carry with
  | false => rw [Bool.toNat_false, Nat.cast_zero, zero_mul]
  | true => rw [Bool.toNat_true, Nat.cast_one, sub_self, mul_zero]

variable (air : Poseidon2P24ValueConservationAir)

theorem valueRelation_valueRowOf (inverts : forall inputIndex : Fin 2,
      byteSum (notes (inputIndex.castLE (by decide))) * inverse inputIndex = 1)
    (chains : ChainsCarries notes inputCarry outputCarry) {height row : Nat} (full : 17 <= height)
    (within : row < height) :
    ValueRelation (row = 0) (row + 1 ≠ height)
      (fun noteIndex =>
        ((valueRowOf air notes inverse inputCarry outputCarry row).notes noteIndex).witness)
      (valueRowOf air notes inverse inputCarry outputCarry row).arithmetic
      (valueRowOf air notes inverse inputCarry outputCarry ((row + 1) % height)).arithmetic := by
  have holds (noteIndex : Fin 4) :
      HoldsBytes (noteWitnessOf (notes noteIndex)).bytes (notes noteIndex) :=
    holdsBytes_byteColumns (notes noteIndex)
  have next (early : row < 16) : (row + 1) % height = row + 1 := Nat.mod_eq_of_lt (by omega)
  have cold {selector : Nat} (small : selector < 16) (other : row ≠ selector) :
      extend (valueRowOf air notes inverse inputCarry outputCarry row).arithmetic.selectors
        selector = 0 :=
    (extend_oneHot small).trans (oneHot_of_ne (Ne.symm other))
  constructor
  case firstSelectors =>
    intro isFirst
    subst isFirst
    exact startsRegister_extend 16
  case nextSelectors =>
    intro isTransition
    rw [Nat.mod_eq_of_lt (show row + 1 < height by omega)]
    exact shiftsRegister_extend 16 row
  case firstInputCarry =>
    intro isFirst
    simp only [valueRowOf, isFirst, chains.firstInput, Bool.toNat_false, Nat.cast_zero]
  case firstOutputCarry =>
    intro isFirst
    simp only [valueRowOf, isFirst, chains.firstOutput, Bool.toNat_false, Nat.cast_zero]
  case carries =>
    simp only [valueRowOf, List.forall_mem_cons, carry_boolean, true_and]
    intro carry impossible
    cases impossible
  case nonzeroInputs =>
    intro _ inputIndex
    rw [← inverts inputIndex]
    apply congrArg (fun sum => sum * inverse inputIndex)
    apply Finset.sum_congr rfl
    intro byteIndex _
    exact (holds _).extend_eq _
  case sums =>
    intro byteStep small
    by_cases here : row = byteStep
    · subst here
      have equation := congrArg (fun value : Int => (value : Val)) (chains.chained row small)
      simp only [byteDifference, Int.cast_add, Int.cast_sub, Int.cast_mul, Int.cast_natCast,
        Int.cast_ofNat] at equation
      apply mul_eq_zero_of_right
      simp only [valueRowOf, noteColumnsOf, valueByte_eq (holds _), next small]
      rw [sub_eq_zero, mul_comm, ← equation]
      ring
    · rw [cold small here, zero_mul]
  case lastInputCarry =>
    by_cases here : row = 15
    · subst here
      apply mul_eq_zero_of_right
      simp only [valueRowOf, next (by decide), chains.lastInput, Bool.toNat_false, Nat.cast_zero]
    · rw [cold (by decide) here, zero_mul]
  case lastOutputCarry =>
    by_cases here : row = 15
    · subst here
      apply mul_eq_zero_of_right
      simp only [valueRowOf, next (by decide), chains.lastOutput, Bool.toNat_false, Nat.cast_zero]
    · rw [cold (by decide) here, zero_mul]

/-- The public values of four notes, with the output slots bound to the
outputs. -/
def notesPublicValues (candidate : Poseidon2P24Candidate) (notes : Fin 4 -> Bytes 178)
    (assetId : Bytes 32) : ValuePublicValues where
  noteCommitments noteIndex := candidate.hashNote (notes noteIndex)
  assetId := assetId
  outputCommitments outputIndex := candidate.hashNote (notes (Fin.natAdd 2 outputIndex))

/-- The trace of four notes of one asset satisfies every constraint once the
byte sums of the inputs are inverted and the carries chain. -/
theorem satisfies_valueRowOf {assetId}
    (header : forall noteIndex, (notes noteIndex).toList.take 34 = [0, 1] ++ assetId.toList)
    (inverts : forall inputIndex : Fin 2,
      byteSum (notes (inputIndex.castLE (by decide))) * inverse inputIndex = 1)
    (chains : ChainsCarries notes inputCarry outputCarry) {height : Nat} (full : 17 <= height) :
    air.Satisfies height (valueRowOf air notes inverse inputCarry outputCarry)
      (notesPublicValues air.candidate notes assetId) := by
  intro row within
  constructor
  case notes =>
    intro noteIndex
    exact noteRelation_noteColumnsOf air (header noteIndex) within
  case boundOutputs =>
    intro _ outputIndex
    rfl
  grind [valueRelation_valueRowOf]

/-- A non-zero value has a non-zero byte sum, which is too small to vanish in the
field. -/
theorem byteSum_ne_zero {note} (nonzero : noteValue note ≠ 0) : byteSum note ≠ 0 := by
  have small : ∑ byteIndex ∈ Finset.range 16, (note.toList.getD (34 + byteIndex) 0).toNat <
      babyBearModulus := by
    have bound := Finset.sum_le_card_nsmul (Finset.range 16)
      (fun byteIndex => (note.toList.getD (34 + byteIndex) 0).toNat) 255
      (fun byteIndex _ => Nat.le_of_lt_succ (UInt8.toNat_lt _))
    exact Nat.lt_of_le_of_lt bound (by decide)
  intro isZero
  rw [byteSum, ← Nat.cast_sum, ZMod.natCast_eq_zero_iff] at isZero
  have none := Finset.sum_eq_zero_iff.mp (Nat.eq_zero_of_dvd_of_lt isZero small)
  apply nonzero
  rw [noteValue_eq_sum]
  apply Finset.sum_eq_zero
  intro byteStep inside
  have early := Finset.mem_range.mp inside
  have place : 34 + (15 - byteStep) = 34 + 16 - 1 - byteStep := by omega
  grind [byteAt]

/-- The trace of one note that is spent twice and created twice, without a
carry. -/
def copiesTrace (air : Poseidon2P24ValueConservationAir) (note : Bytes 178) : Nat -> ValueRow :=
  valueRowOf air (fun _ => note) (fun _ => (byteSum note)⁻¹) (fun _ => false) (fun _ => false)

theorem satisfies_copiesTrace {note assetId}
    (header : note.toList.take 34 = [0, 1] ++ assetId.toList) (nonzero : noteValue note ≠ 0)
    {height : Nat} (full : 17 <= height) :
    air.Satisfies height (copiesTrace air note)
      (notesPublicValues air.candidate (fun _ => note) assetId) := by
  apply satisfies_valueRowOf air (fun _ => header) _ _ full
  · grind [byteSum_ne_zero]
  · constructor
    case firstInput => rfl
    case firstOutput => rfl
    case lastInput => rfl
    case lastOutput => rfl
    grind [byteDifference]

end

def zeroAsset : Bytes 32 := ⟨List.replicate 32 0, rfl⟩

/-- A note of the zero asset whose value has only a leading byte. -/
def leadingNote (leading : UInt8) : Bytes 178 :=
  ⟨[0, 1] ++ zeroAsset.toList ++ leading :: List.replicate 143 0, rfl⟩

variable (leading : UInt8)

theorem header_leadingNote : (leadingNote leading).toList.take 34 = [0, 1] ++ zeroAsset.toList :=
  rfl

theorem noteValue_leadingNote : noteValue (leadingNote leading) = leading.toNat * 256 ^ 15 := by
  have bytes : ((leadingNote leading).toList.drop 34).take 16 = leading :: List.replicate 15 0 :=
    rfl
  rw [noteValue, bytes]
  simp [ofBigEndian]

/-- The four notes that a value proof holds carry the public asset, open the
public commitments and balance. -/
theorem satisfied_notes_balance (air : Poseidon2P24ValueConservationAir) {height : Nat}
    {trace : Nat -> ValueRow} {publicValues : ValuePublicValues} (full : 256 <= height)
    (satisfied : air.Satisfies height trace publicValues) :
    ∃ notes : Fin 4 -> Bytes 178,
      (forall row, row < height -> HoldsNotes (trace row) notes) /\
      (forall noteIndex,
        (notes noteIndex).toList.take 34 = [0, 1] ++ publicValues.assetId.toList) /\
      (forall noteIndex,
        publicValues.noteCommitments noteIndex = air.candidate.hashNote (notes noteIndex)) /\
      noteValue (notes 0) ≠ 0 /\ noteValue (notes 1) ≠ 0 /\
      noteValue (notes 0) + noteValue (notes 1) = noteValue (notes 2) + noteValue (notes 3) /\
      (air.bindOutputCommitments = true -> forall outputIndex : Fin 2,
        publicValues.noteCommitments (Fin.natAdd 2 outputIndex) =
          publicValues.outputCommitments outputIndex) := by
  have first := satisfied 0 (by omega)
  choose notes holds using fun noteIndex =>
    HoldsBytes.exists_of_holdsByte (first.notes noteIndex).bytes
  exact ⟨notes, fun row within => holdsNotes_of_first satisfied holds within,
    header_eq (by omega) satisfied holds,
    fun noteIndex => commitment_of_satisfies (by omega) satisfied (holds noteIndex),
    input_ne_zero (by omega) satisfied holds 0, input_ne_zero (by omega) satisfied holds 1,
    values_balance (by omega) satisfied holds, first.boundOutputs⟩

theorem leadingNote_copies_balance :
    (⟨loadCandidate, true⟩ : Poseidon2P24ValueConservationAir).Satisfies 256
        (copiesTrace ⟨loadCandidate, true⟩ (leadingNote 1))
        (notesPublicValues loadCandidate (fun _ => leadingNote 1) zeroAsset) /\
      ∃ notes : Fin 4 -> Bytes 178,
        HoldsNotes (copiesTrace ⟨loadCandidate, true⟩ (leadingNote 1) 0) notes /\
        noteValue (notes 0) + noteValue (notes 1) = noteValue (notes 2) + noteValue (notes 3) := by
  have nonzero : noteValue (leadingNote 1) ≠ 0 := by
    rw [noteValue_leadingNote]
    decide
  have satisfied := satisfies_copiesTrace ⟨loadCandidate, true⟩ (header_leadingNote 1) nonzero
    (show 17 <= 256 by decide)
  rcases satisfied_notes_balance ⟨loadCandidate, true⟩ (Nat.le_refl 256) satisfied with
    ⟨notes, holds, _, _, _, _, balance, _⟩
  exact ⟨satisfied, notes, holds 0 (by decide), balance⟩

end Noxis.Privacy
