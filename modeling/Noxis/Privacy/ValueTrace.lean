import Noxis.Privacy.ValueAir

namespace Noxis.Privacy

open Foundation Poseidon2P24ValueConservationAir

/-!
# Traces of value conservation

The register of a note is hot at the number of the row, so the columns of a note
are determined by its witness: they run five permutations and then stay.  Two
rows compare the state with the commitment, and both are reached by a trace of
at least 145 rows.
-/

section
variable (air : Poseidon2P24ValueConservationAir) (witness : NoteWitness)

/-- The run of permutations that hashes a note. -/
def noteRun : PhasedRun where
  reference := air.candidate.reference
  start := air.mix (rawState (air.candidate.noteIv .note) (extend witness.packed))
  target := air.noteTransitionTarget witness

def noteState (row : Nat) : State := (noteRun air witness).stateAt (min row 145)

theorem noteState_of_le {row : Nat} (early : row <= 145) :
    noteState air witness row = (noteRun air witness).stateAt row := by
  rw [noteState, Nat.min_eq_left early]

/-- The columns of a note in a row of the trace of its witness. -/
structure NoteFollows (index : Nat) (columns : NoteColumns) : Prop where
  sameWitness : columns.witness = witness
  selectors : forall selector, selector < 145 ->
    extend columns.selectors selector = oneHot index selector
  state : columns.state = noteState air witness index

variable {air witness} {columns next : NoteColumns} {index : Nat}

theorem NoteFollows.expectedNextNote_eq (follows : NoteFollows air witness index columns) :
    air.expectedNextNote columns = noteState air witness (index + 1) := by
  funext lane
  have selected (value : Nat -> Nat -> Val) :
      ∑ phase ∈ Finset.range 5, ∑ round ∈ Finset.range 29,
          extend columns.selectors (phase * 29 + round) * value phase round =
        ∑ phase ∈ Finset.range 5, ∑ round ∈ Finset.range 29,
          oneHot index (phase * 29 + round) * value phase round := by
    apply Finset.sum_congr rfl
    intro phase phaseInside
    apply Finset.sum_congr rfl
    intro round roundInside
    have phaseBelow := Finset.mem_range.mp phaseInside
    have roundBelow := Finset.mem_range.mp roundInside
    rw [follows.selectors _ (by omega)]
  unfold expectedNextNote
  simp only [selected]
  by_cases early : index < 145
  · rw [sum_grid_oneHot_mul (by omega), noteState_of_le air witness early, PhasedRun.stateAt,
      ← noteState_of_le air witness (Nat.le_of_lt early), ← follows.state, PhasedRun.step,
      add_sub_cancel, follows.sameWitness]
    by_cases isLast : index % 29 + 1 = 29
    · rw [if_pos isLast, if_pos isLast]
      rfl
    · rw [if_neg isLast, if_neg isLast]
      rfl
  · have late : min (index + 1) 145 = min index 145 := by omega
    rw [sum_grid_oneHot_mul_of_le (by omega), add_zero, follows.state, noteState, noteState, late]

/-- The row that ends the last block compares fifteen lanes. -/
theorem NoteFollows.rate_iff (follows : NoteFollows air witness index columns) {value : State}
    {commitment : Digest} :
    (forall lane : Fin 15, extend columns.selectors (4 * 29 - 1) *
        (value (lane.castLE (by decide)) - commitment (lane.castLE (by decide))) = 0) <->
      (index = 115 -> forall lane : Fin 15,
        value (lane.castLE (by decide)) = commitment (lane.castLE (by decide))) := by
  rw [follows.selectors _ (by decide)]
  by_cases here : index = 115
  · subst here
    rw [oneHot_self]
    simp only [one_mul, sub_eq_zero, forall_const]
  · rw [oneHot_of_ne (fun same => here same.symm)]
    simp [here]

/-- The row that ends the squeezing phase compares one lane. -/
theorem NoteFollows.last_iff (follows : NoteFollows air witness index columns) {value expected : Val} :
    extend columns.selectors (145 - 1) * (value - expected) = 0 <->
      (index = 144 -> value = expected) := by
  rw [follows.selectors _ (by decide)]
  by_cases here : index = 144
  · subst here
    rw [oneHot_self, one_mul, sub_eq_zero]
    simp
  · rw [oneHot_of_ne (fun same => here same.symm)]
    simp [here]

end

section
variable (air : Poseidon2P24ValueConservationAir) (witness : NoteWitness)

theorem hashesAt_noteRun : (noteRun air witness).HashesAt (air.candidate.noteIv .note)
    (extend witness.packed) 0 3 := by
  constructor
  case starts => rfl
  case absorbs =>
    intro block early state
    have target : (noteRun air witness).target (0 + block) state =
        air.noteTransitionTarget witness block state := by
      rw [Nat.zero_add]
      rfl
    rw [target, noteTransitionTarget, if_pos (by omega)]
    apply congrArg
    funext lane
    unfold addBlock
    by_cases inRate : lane.val < 15
    · rw [if_pos ⟨by omega, inRate⟩, if_pos inRate]
    · rw [if_neg (fun both => inRate both.2), if_neg inRate]
  case squeezes =>
    intro state
    have target : (noteRun air witness).target (0 + 3) state =
        air.noteTransitionTarget witness 3 state := rfl
    rw [target, noteTransitionTarget, if_pos (by decide)]
    apply congrArg
    funext lane
    rw [if_neg (fun both => absurd both.1 (by decide))]

variable {air witness}

/-- The two compared rows show the digest of the packed elements. -/
theorem commitment_eq_iff {commitment} :
    commitment = digestOf air.candidate.reference (air.candidate.noteIv .note)
        (extend witness.packed) 4 <->
      (forall lane : Fin 15,
        (noteRun air witness).finish 3 (lane.castLE (by decide)) =
          commitment (lane.castLE (by decide))) /\
      (noteRun air witness).finish 4 0 = commitment 15 :=
  (hashesAt_noteRun air witness).eq_squeeze_iff

/-- Packed columns of held bytes are the packed elements of the note. -/
theorem digestOf_packed {note} (holds : HoldsBytes witness.bytes note)
    (packed : forall packedIndex, witness.packed packedIndex =
      packedExpression (extend witness.bytes) packedIndex.val) :
    digestOf air.candidate.reference (air.candidate.noteIv .note) (extend witness.packed) 4 =
      air.candidate.hashNote note := by
  have elements : extend witness.packed = packedElement note.toList := by
    funext index
    by_cases within : index < 60
    · rw [extend_of_lt _ within, packed, packedExpression_eq holds.extend_eq]
    · rw [extend_of_le _ (by omega), packedElement_of_le]
      rw [note.length_toList]
      omega
  rw [elements, Poseidon2P24Candidate.hashNote_eq]

end

section
variable {air : Poseidon2P24ValueConservationAir} {height : Nat} {trace : Nat -> ValueRow}
  {publicValues : ValuePublicValues}

theorem next_eq {row : Nat} (within : row + 1 < height)
    (satisfied : air.Satisfies height trace publicValues) :
    air.EvalRelation (row = 0) True (trace row) (trace (row + 1)) publicValues := by
  have relation := satisfied row (by omega)
  rw [Nat.mod_eq_of_lt within] at relation
  have isTransition : (row + 1 ≠ height) = True := eq_true (by omega)
  rw [isTransition] at relation
  exact relation

theorem noteFollows_of_satisfies (satisfied : air.Satisfies height trace publicValues)
    (noteIndex : Fin 4) {row : Nat} (within : row < height) :
    NoteFollows air ((trace 0).notes noteIndex).witness row ((trace row).notes noteIndex) := by
  have relation {row : Nat} (early : row + 1 < height) :=
    (next_eq early satisfied).notes noteIndex
  have first := (satisfied 0 (by omega)).notes noteIndex
  have hot {row : Nat} (early : row < height) {selector : Nat} (selectorWithin : selector < 145) :
      extend ((trace row).notes noteIndex).selectors selector = oneHot row selector :=
    register_eq_oneHot (first.firstSelectors rfl)
      (fun _ inside => (relation inside).nextSelectors trivial) early selectorWithin
  induction row with
  | zero =>
    refine ⟨rfl, fun selector => hot within, ?_⟩
    rw [noteState_of_le _ _ (by decide)]
    exact first.firstState rfl
  | succ row ih =>
    have follows := ih (by omega)
    have step := relation within
    refine ⟨(step.constantWitness trivial).trans follows.sameWitness,
      fun selector => hot within, ?_⟩
    rw [step.nextState trivial, follows.expectedNextNote_eq]

/-- A trace that reaches the end of the hashes commits to its notes. -/
theorem commitment_of_satisfies (full : 145 <= height)
    (satisfied : air.Satisfies height trace publicValues) {noteIndex : Fin 4} {note : Bytes 178}
    (holds : HoldsBytes ((trace 0).notes noteIndex).witness.bytes note) :
    publicValues.noteCommitments noteIndex = air.candidate.hashNote note := by
  have follows {row : Nat} (within : row < height) :=
    noteFollows_of_satisfies satisfied noteIndex within
  have relation {row : Nat} (within : row < height) := (satisfied row within).notes noteIndex
  have packed := (relation (show 0 < height by omega)).packed
  have rate := (follows (show 115 < height by omega)).rate_iff.mp (relation (by omega)).rate rfl
  have last := (follows (show 144 < height by omega)).last_iff.mp (relation (by omega)).last rfl
  rw [(follows (show 115 < height by omega)).state, noteState_of_le _ _ (by decide)] at rate
  rw [(follows (show 144 < height by omega)).state, noteState_of_le _ _ (by decide)] at last
  rw [← digestOf_packed holds packed]
  exact commitment_eq_iff.mpr ⟨rate, last⟩

end

/-! ## The trace of four notes -/

def noteWitnessOf (note : Bytes 178) : NoteWitness where
  bytes := byteColumns note
  bits := bitColumns note
  packed packedIndex := packedElement note.toList packedIndex.val

def noteColumnsOf (air : Poseidon2P24ValueConservationAir) (note : Bytes 178) (row : Nat) :
    NoteColumns where
  state := noteState air (noteWitnessOf note) row
  selectors selector := oneHot row selector.val
  witness := noteWitnessOf note

/-- The row of four notes, with carries and inverses that are supplied. -/
def valueRowOf (air : Poseidon2P24ValueConservationAir) (notes : Fin 4 -> Bytes 178)
    (inverse : Fin 2 -> Val) (inputCarry outputCarry : Nat -> Bool) (row : Nat) : ValueRow where
  notes noteIndex := noteColumnsOf air (notes noteIndex) row
  arithmetic := {
    selectors := fun selector => oneHot row selector.val
    inputCarry := ((inputCarry row).toNat : Val)
    outputCarry := ((outputCarry row).toNat : Val)
    inputZeroInverse := inverse }

theorem extend_oneHot {count row selector : Nat} (within : selector < count) :
    extend (fun selector : Fin count => (oneHot row selector.val : Val)) selector =
      oneHot row selector :=
  extend_of_lt _ within

theorem noteFollows_noteColumnsOf (air : Poseidon2P24ValueConservationAir) (note : Bytes 178)
    (row : Nat) : NoteFollows air (noteWitnessOf note) row (noteColumnsOf air note row) :=
  ⟨rfl, fun _ within => extend_oneHot within, rfl⟩

theorem startsRegister_extend (count : Nat) :
    StartsRegister count (extend (fun selector : Fin count => (oneHot 0 selector.val : Val))) := by
  intro index within
  rw [extend_oneHot within]
  exact startsRegister_oneHot count index within

theorem shiftsRegister_extend (count row : Nat) :
    ShiftsRegister count (extend (fun selector : Fin count => (oneHot row selector.val : Val)))
      (extend (fun selector : Fin count => (oneHot (row + 1) selector.val : Val))) := by
  intro index within
  rw [extend_oneHot within, shiftsRegister_oneHot count row index within]
  by_cases isFirst : index = 0
  · rw [if_pos isFirst, if_pos isFirst]
  · rw [if_neg isFirst, if_neg isFirst, extend_oneHot (by omega)]

theorem packed_noteWitnessOf (note : Bytes 178) (packedIndex : Fin 60) :
    (noteWitnessOf note).packed packedIndex =
      packedExpression (extend (noteWitnessOf note).bytes) packedIndex.val :=
  (packedExpression_eq (holdsBytes_byteColumns note).extend_eq packedIndex.val).symm

/-- The columns of a note satisfy its constraints on every row. -/
theorem noteRelation_noteColumnsOf (air : Poseidon2P24ValueConservationAir) {note : Bytes 178}
    {assetId : Bytes 32} (header : note.toList.take 34 = [0, 1] ++ assetId.toList)
    {height row : Nat} (within : row < height) :
    air.NoteRelation (row = 0) (row + 1 ≠ height) (noteColumnsOf air note row)
      (noteColumnsOf air note ((row + 1) % height)) assetId (air.candidate.hashNote note) := by
  have follows := noteFollows_noteColumnsOf air note row
  have holds : HoldsBytes (noteWitnessOf note).bytes note := holdsBytes_byteColumns note
  have next (isTransition : row + 1 ≠ height) : (row + 1) % height = row + 1 :=
    Nat.mod_eq_of_lt (by omega)
  have byte {index : Nat} (early : index < 34) :
      note.toList.getD index 0 = ([0, 1] ++ assetId.toList).getD index 0 := by
    rw [← header]
    simp only [List.getD_eq_getElem?_getD, List.getElem?_take, if_pos early]
  have shown := commitment_eq_iff.mp
    (@digestOf_packed air _ note holds (packed_noteWitnessOf note)).symm
  constructor
  case bytes => exact holdsByte_columns note
  case packed => exact packed_noteWitnessOf note
  case versionHigh =>
    intro _
    exact congrArg (fun byte : UInt8 => (byte.toNat : Val)) (byte (show 0 < 34 by decide))
  case versionLow =>
    intro _
    have isOne := congrArg (fun byte : UInt8 => (byte.toNat : Val)) (byte (show 1 < 34 by decide))
    exact isOne.trans Nat.cast_one
  case asset =>
    intro index
    have place : ([0, 1] ++ assetId.toList).getD (2 + index.val) 0 =
        assetId.toList.getD index.val 0 := by
      rw [Nat.add_comm]
      rfl
    have extended : extend (noteWitnessOf note).bytes (2 + index.val) =
        ((note.toList.getD (2 + index.val) 0).toNat : Val) := holds.extend_eq _
    rw [byte (by omega), place] at extended
    exact extended
  case constantWitness =>
    intro _
    rfl
  case firstState =>
    intro isFirst
    rw [follows.state, isFirst, noteState_of_le _ _ (by decide)]
    rfl
  case firstSelectors =>
    intro isFirst
    subst isFirst
    exact startsRegister_extend 145
  case nextSelectors =>
    intro isTransition
    rw [next isTransition]
    exact shiftsRegister_extend 145 row
  case nextState =>
    intro isTransition
    rw [next isTransition, follows.expectedNextNote_eq]
    rfl
  case rate =>
    apply follows.rate_iff.mpr
    intro here
    subst here
    rw [follows.state, noteState_of_le _ _ (by decide)]
    exact shown.1
  case last =>
    apply follows.last_iff.mpr
    intro here
    subst here
    rw [follows.state, noteState_of_le _ _ (by decide)]
    exact shown.2

end Noxis.Privacy
