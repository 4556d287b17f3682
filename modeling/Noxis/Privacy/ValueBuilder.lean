import Noxis.Privacy.ValueOverflow

namespace Noxis.Privacy

open Foundation Poseidon2P24ValueConservationAir

/-!
# The trace that a value prover builds

The prover fills the trace row by row.  It keeps the states of the four notes
and two carries, writes them, and advances them.  Nothing it writes depends on
the constraints, so that they hold is a theorem: the states are those of the
permutations, and the carries of two equal sums leave the same bytes and end at
zero.  A trace of other origin may hold notes whose sums overflow alike: only the
carries that the prover computes tell them apart.
-/

section
variable (air : Poseidon2P24ValueConservationAir) (note : Bytes 178)

/-- One row of a note: a round, and after the last round of a phase the next
block. -/
def advanceNote (row : Nat) (state : State) : State :=
  let round := row % 29
  let phase := row / 29
  let rounded := roundExpression air.candidate.reference state round
  if round + 1 = 29 then
    if phase + 1 < 5 then
      air.mix (fun lane =>
        if phase + 1 < 4 /\ lane.val < 15 then
          rounded lane + packedElement note.toList ((phase + 1) * 15 + lane.val)
        else
          rounded lane)
    else
      rounded
  else
    rounded

def initialNoteState : State :=
  air.mix (rawState (air.candidate.noteIv .note) (packedElement note.toList))

/-- The state of a note that the prover holds before a row. -/
def noteStateAt : Nat -> State
  | 0 => initialNoteState air note
  | row + 1 =>
    if row < 145 then advanceNote air note row (noteStateAt row) else noteStateAt row

/-- The carry of two notes that the prover holds before a row. -/
def carryAt (first second : Bytes 178) : Nat -> Nat
  | 0 => 0
  | row + 1 =>
    if row < 16 then (byteAt first row + byteAt second row + carryAt first second row) / 256
    else carryAt first second row

/-- The inverse of a sum of bytes.  Zero has none. -/
def inputNonzeroInverse : Except Panic Val :=
  if byteSum note = 0 then .error ⟨"Tried to invert zero"⟩ else .ok (byteSum note)⁻¹

def buildTraceWithRows (notes : Fin 4 -> Bytes 178) (traceRows : Nat) :
    Except Panic (Nat -> ValueRow) :=
  if traceRows < 256 then
    .error ⟨"value trace must contain all selector steps"⟩
  else do
    let inputInverse ← inputNonzeroInverse (notes 0)
    let secondInputInverse ← inputNonzeroInverse (notes 1)
    .ok fun row => {
      notes := fun noteIndex => {
        state := noteStateAt air (notes noteIndex) row
        selectors := fun selector => oneHot row selector.val
        witness := noteWitnessOf (notes noteIndex) }
      arithmetic := {
        selectors := fun selector => oneHot row selector.val
        inputCarry := (carryAt (notes 0) (notes 1) row : Val)
        outputCarry := (carryAt (notes 2) (notes 3) row : Val)
        inputZeroInverse := ![inputInverse, secondInputInverse] } }

theorem extend_packed {index : Nat} (within : index < 60) :
    extend (noteWitnessOf note).packed index = packedElement note.toList index :=
  extend_of_lt _ within

theorem advanceNote_noteState {row : Nat} (early : row < 145) :
    advanceNote air note row (noteState air (noteWitnessOf note) row) =
      noteState air (noteWitnessOf note) (row + 1) := by
  rw [noteState_of_le _ _ (Nat.le_of_lt early), noteState_of_le _ _ early, PhasedRun.stateAt,
    PhasedRun.step]
  by_cases isLast : row % 29 + 1 = 29
  · have round : row % 29 = 28 := Nat.succ_injective isLast
    have target (rounded : State) : (noteRun air (noteWitnessOf note)).target (row / 29) rounded =
        air.noteTransitionTarget (noteWitnessOf note) (row / 29) rounded := rfl
    rw [if_pos isLast, target, noteTransitionTarget, advanceNote, if_pos isLast, round]
    congr 2
    funext lane
    by_cases absorbs : row / 29 + 1 < 4 /\ lane.val < 15
    · rw [if_pos absorbs, if_pos absorbs, extend_packed note (by omega)]
      rfl
    · rw [if_neg absorbs, if_neg absorbs]
      rfl
  · rw [if_neg isLast, advanceNote, if_neg isLast]
    rfl

theorem noteStateAt_eq (row : Nat) :
    noteStateAt air note row = noteState air (noteWitnessOf note) row := by
  induction row with
  | zero =>
    have starts : rawState (air.candidate.noteIv .note) (packedElement note.toList) =
        rawState (air.candidate.noteIv .note) (extend (noteWitnessOf note).packed) := by
      funext lane
      unfold rawState
      by_cases inRate : lane.val < 15
      · rw [dif_pos inRate, dif_pos inRate, extend_packed note (by omega)]
      · rw [dif_neg inRate, dif_neg inRate]
    rw [noteStateAt, initialNoteState, starts, noteState_of_le _ _ (by decide)]
    rfl
  | succ row ih =>
    rw [noteStateAt, ih]
    by_cases early : row < 145
    · rw [if_pos early, advanceNote_noteState air note early]
    · have late : min (row + 1) 145 = min row 145 := by omega
      rw [if_neg early, noteState, noteState, late]

end

section
variable {notes : Fin 4 -> Bytes 178}

/-- The sum of two bytes of a step. -/
def digitOf (first second : Bytes 178) (byteStep : Nat) : Nat :=
  byteAt first byteStep + byteAt second byteStep

variable (first second : Bytes 178)

theorem sum_digitOf :
    ∑ byteStep ∈ Finset.range 16, digitOf first second byteStep * 256 ^ byteStep =
      noteValue first + noteValue second := by
  rw [noteValue_eq_sum, noteValue_eq_sum, ← Finset.sum_add_distrib]
  apply Finset.sum_congr rfl
  intro byteStep _
  rw [digitOf, Nat.add_mul]

theorem carryAt_eq (row : Nat) :
    carryAt first second row = carryInto 256 (digitOf first second) (min row 16) := by
  induction row with
  | zero => rfl
  | succ row ih =>
    rw [carryAt, ih]
    by_cases early : row < 16
    · have next : min (row + 1) 16 = row + 1 := by omega
      rw [if_pos early, next, Nat.min_eq_left (Nat.le_of_lt early)]
      rfl
    · have late : min (row + 1) 16 = min row 16 := by omega
      rw [if_neg early, late]

theorem carryAt_le_one (row : Nat) : carryAt first second row <= 1 := by
  rw [carryAt_eq]
  apply carryInto_le_one
  intro byteStep
  have firstByte := byteAt_lt first byteStep
  have secondByte := byteAt_lt second byteStep
  unfold digitOf
  omega

def carryColumn (first second : Bytes 178) (row : Nat) : Bool := decide (carryAt first second row = 1)

theorem toNat_carryColumn (row : Nat) :
    (carryColumn first second row).toNat = carryAt first second row := by
  have small := carryAt_le_one first second row
  unfold carryColumn
  by_cases isOne : carryAt first second row = 1
  · rw [isOne]
    rfl
  · rw [decide_eq_false isOne, Bool.toNat_false]
    omega

/-- No carry leaves the last byte of a sum that fits, and only then. -/
theorem last_carryAt_iff :
    carryAt first second 16 = 0 <-> noteValue first + noteValue second < 2 ^ 128 := by
  rw [carryAt_eq, Nat.min_self, carryInto_eq (by decide), sum_digitOf, Nat.div_eq_zero_iff]
  exact or_iff_right (by decide)

theorem last_carryColumn {first second : Bytes 178}
    (fits : noteValue first + noteValue second < 2 ^ 128) :
    carryColumn first second 16 = false := by
  unfold carryColumn
  rw [(last_carryAt_iff first second).mpr fits]
  rfl

/-- Equal sums that fit chain their carries. -/
theorem chainsCarries_carryColumn (inputFits : noteValue (notes 0) + noteValue (notes 1) < 2 ^ 128)
    (balance : noteValue (notes 0) + noteValue (notes 1) =
      noteValue (notes 2) + noteValue (notes 3)) :
    ChainsCarries notes (carryColumn (notes 0) (notes 1)) (carryColumn (notes 2) (notes 3)) := by
  constructor
  case firstInput => rfl
  case firstOutput => rfl
  case lastInput => exact last_carryColumn inputFits
  case lastOutput => exact last_carryColumn (balance ▸ inputFits)
  case chained =>
    intro byteStep early
    have kept (first second : Bytes 178) :=
      @add_carryInto_mod 256 (digitOf first second) (by decide) byteStep 16 early
    have input := kept (notes 0) (notes 1)
    have output := kept (notes 2) (notes 3)
    rw [sum_digitOf] at input output
    rw [← balance] at output
    have here : min byteStep 16 = byteStep := by omega
    have next : min (byteStep + 1) 16 = byteStep + 1 := by omega
    simp only [toNat_carryColumn, carryAt_eq, here, next, carryInto, byteDifference]
    unfold digitOf at *
    omega

theorem inputNonzeroInverse_eq {note : Bytes 178} (nonzero : noteValue note ≠ 0) :
    inputNonzeroInverse note = .ok (byteSum note)⁻¹ :=
  if_neg (byteSum_ne_zero nonzero)

/-- The rows that the prover writes. -/
theorem buildTraceWithRows_eq (air : Poseidon2P24ValueConservationAir) {traceRows : Nat}
    (full : 256 <= traceRows) (nonzero : forall index : Fin 4, index.val < 2 ->
      noteValue (notes index) ≠ 0) :
    buildTraceWithRows air notes traceRows = .ok (valueRowOf air notes
      (fun inputIndex => (byteSum (notes (inputIndex.castLE (by decide))))⁻¹)
      (carryColumn (notes 0) (notes 1)) (carryColumn (notes 2) (notes 3))) := by
  have inverses : ![(byteSum (notes 0))⁻¹, (byteSum (notes 1))⁻¹] =
      fun inputIndex : Fin 2 => (byteSum (notes (inputIndex.castLE (by decide))))⁻¹ := by
    funext inputIndex
    fin_cases inputIndex
    · rfl
    · rfl
  rw [buildTraceWithRows, if_neg (Nat.not_lt.mpr full),
    inputNonzeroInverse_eq (nonzero 0 (by decide)), inputNonzeroInverse_eq (nonzero 1 (by decide))]
  apply congrArg Except.ok
  funext row
  simp only [inverses, noteStateAt_eq, valueRowOf, toNat_carryColumn]
  rfl

/-- The prover's trace of notes that open the public values and balance without an
overflow satisfies every constraint. -/
theorem exists_built_satisfies (air : Poseidon2P24ValueConservationAir) {traceRows : Nat}
    (full : 256 <= traceRows) {publicValues : ValuePublicValues}
    (opens : forall noteIndex,
      publicValues.noteCommitments noteIndex = air.candidate.hashNote (notes noteIndex))
    (bound : air.bindOutputCommitments = true -> forall outputIndex : Fin 2,
      publicValues.noteCommitments (Fin.natAdd 2 outputIndex) =
        publicValues.outputCommitments outputIndex)
    (header : forall noteIndex,
      (notes noteIndex).toList.take 34 = [0, 1] ++ publicValues.assetId.toList)
    (nonzero : forall index : Fin 4, index.val < 2 -> noteValue (notes index) ≠ 0)
    (inputFits : noteValue (notes 0) + noteValue (notes 1) < 2 ^ 128)
    (balance : noteValue (notes 0) + noteValue (notes 1) =
      noteValue (notes 2) + noteValue (notes 3)) :
    ∃ trace, buildTraceWithRows air notes traceRows = .ok trace /\
      air.Satisfies traceRows trace publicValues := by
  refine ⟨_, buildTraceWithRows_eq air full nonzero, ?_⟩
  have satisfied := satisfies_valueRowOf air header
    (fun inputIndex => mul_inv_cancel₀ (byteSum_ne_zero (nonzero _ inputIndex.isLt)))
    (chainsCarries_carryColumn inputFits balance) (show 17 <= traceRows by omega)
  intro row within
  have relation := satisfied row within
  refine ⟨?_, bound, relation.values⟩
  intro noteIndex
  rw [opens]
  exact relation.notes noteIndex

/-- The sums of the notes of a satisfied trace fit into 128 bits exactly when the trace
that the prover builds of the same notes satisfies the constraints for the same public
values. -/
theorem satisfied_sums_fit_iff (air : Poseidon2P24ValueConservationAir) {height : Nat}
    {trace : Nat -> ValueRow} {publicValues : ValuePublicValues} (full : 256 <= height)
    (satisfied : air.Satisfies height trace publicValues) {notes : Fin 4 -> Bytes 178}
    (holds : HoldsNotes (trace 0) notes) :
    (noteValue (notes 0) + noteValue (notes 1) < 2 ^ 128 /\
        noteValue (notes 2) + noteValue (notes 3) < 2 ^ 128) <->
      ∃ built, buildTraceWithRows air notes height = .ok built /\
        air.Satisfies height built publicValues := by
  have nonzero (index : Fin 4) (isInput : index.val < 2) : noteValue (notes index) ≠ 0 :=
    input_ne_zero (by omega) satisfied holds ⟨index.val, isInput⟩
  constructor
  · intro fits
    exact exists_built_satisfies air full
      (fun noteIndex => commitment_of_satisfies (by omega) satisfied (holds noteIndex))
      (satisfied 0 (by omega)).boundOutputs (header_eq (by omega) satisfied holds) nonzero fits.1
      (values_balance (by omega) satisfied holds)
  · intro isBuilt
    rcases isBuilt with ⟨built, isBuilt, builtSatisfied⟩
    rw [buildTraceWithRows_eq air full nonzero] at isBuilt
    rw [← Except.ok.inj isBuilt] at builtSatisfied
    -- the carries that the prover writes are the true ones, and the last ones vanish
    have last := lastCarries_of_satisfies (show 17 <= height by omega) builtSatisfied
    simp only [valueRowOf, toNat_carryColumn] at last
    have none {first second : Bytes 178} (isZero : ((carryAt first second 16 : Nat) : Val) = 0) :
        noteValue first + noteValue second < 2 ^ 128 := by
      apply (last_carryAt_iff first second).mp
      have small := carryAt_le_one first second 16
      by_contra some
      have isOne : carryAt first second 16 = 1 := by omega
      rw [isOne, Nat.cast_one] at isZero
      exact one_ne_zero isZero
    exact ⟨none last.1, none last.2⟩

/-- Four copies of a note of value `2 ^ 127` satisfy every constraint, and both
sums are `2 ^ 128`. -/
theorem leadingNote_copies_overflow :
    ∃ trace notes publicValues,
      (⟨loadCandidate, true⟩ : Poseidon2P24ValueConservationAir).Satisfies 256 trace publicValues /\
      HoldsNotes (trace 0) notes /\
      noteValue (notes 0) + noteValue (notes 1) = 2 ^ 128 /\
      noteValue (notes 2) + noteValue (notes 3) = 2 ^ 128 := by
  have value : noteValue (leadingNote 128) = 2 ^ 127 := noteValue_leadingNote 128
  refine ⟨copiesTrace ⟨loadCandidate, true⟩ (leadingNote 128), fun _ => leadingNote 128,
    notesPublicValues loadCandidate (fun _ => leadingNote 128) zeroAsset, ?_, ?_, ?_, ?_⟩
  · apply satisfies_copiesTrace ⟨loadCandidate, true⟩ (header_leadingNote 128) _ (by decide)
    rw [value]
    decide
  · intro noteIndex
    exact holdsBytes_byteColumns (leadingNote 128)
  · rw [value]
    rfl
  · rw [value]
    rfl

/-- A note of the zero asset whose value is 128: the sum of two copies carries out of
the lowest byte. -/
def carryingNote : Bytes 178 :=
  ⟨[0, 1] ++ zeroAsset.toList ++ (List.replicate 15 0 ++ 128 :: List.replicate 128 0), rfl⟩

theorem noteValue_carryingNote : noteValue carryingNote = 128 := by decide

theorem carryingNote_copies_fit :
    ∃ built, buildTraceWithRows ⟨loadCandidate, true⟩ (fun _ => carryingNote) 256 = .ok built /\
      (⟨loadCandidate, true⟩ : Poseidon2P24ValueConservationAir).Satisfies 256 built
        (notesPublicValues loadCandidate (fun _ => carryingNote) zeroAsset) := by
  -- the trace it starts from has no carries at all
  have satisfied := satisfies_copiesTrace ⟨loadCandidate, true⟩
    (show carryingNote.toList.take 34 = [0, 1] ++ zeroAsset.toList from rfl)
    (by rw [noteValue_carryingNote]; decide) (show 17 <= 256 by decide)
  have holds : HoldsNotes (copiesTrace ⟨loadCandidate, true⟩ carryingNote 0)
      (fun _ => carryingNote) := fun _ => holdsBytes_byteColumns carryingNote
  apply (satisfied_sums_fit_iff ⟨loadCandidate, true⟩ (Nat.le_refl 256) satisfied holds).mp
  rw [noteValue_carryingNote]
  decide

/-- The public values of a proof.  Without bound outputs there are no output
slots. -/
def provedPublicValues (candidate : Poseidon2P24Candidate) (notes : Fin 4 -> Bytes 178)
    (assetId : Bytes 32) (outputCommitments : Option (Fin 2 -> Digest)) : ValuePublicValues where
  noteCommitments noteIndex := candidate.hashNote (notes noteIndex)
  assetId := assetId
  outputCommitments := outputCommitments.getD (fun _ _ => 0)

/-- Notes that pass the prover's check give a trace that satisfies every
constraint on every row. -/
theorem built_value_trace_satisfies (candidate : Poseidon2P24Candidate)
    (notes : Fin 4 -> Bytes 178) (assetId : Bytes 32)
    (outputCommitments : Option (Fin 2 -> Digest)) (traceRows : Nat)
    (accepted : validateWitnessValues candidate notes assetId outputCommitments = .ok ())
    (full : 256 <= traceRows) :
    let air : Poseidon2P24ValueConservationAir := ⟨candidate, outputCommitments.isSome⟩
    ∃ trace, buildTraceWithRows air notes traceRows = .ok trace /\
      air.Satisfies traceRows trace
        (provedPublicValues candidate notes assetId outputCommitments) := by
  intro air
  rcases validateWitnessValues_eq_ok.mp accepted with ⟨checked, ⟨inputFits, _⟩, balance, bound⟩
  refine exists_built_satisfies air full (fun _ => rfl) ?_ (fun noteIndex => (checked noteIndex).1)
    (fun noteIndex => (checked noteIndex).2) inputFits balance
  intro isBound outputIndex
  rcases Option.isSome_iff_exists.mp isBound with ⟨commitments, supplied⟩
  exact (bound commitments supplied outputIndex).trans (by
    rw [provedPublicValues, supplied]
    rfl)

theorem carryingNote_copies_are_built :
    validateWitnessValues loadCandidate (fun _ => carryingNote) zeroAsset none = .ok () /\
      ∃ trace, buildTraceWithRows ⟨loadCandidate, false⟩ (fun _ => carryingNote) 256 = .ok trace /\
        (trace 1).arithmetic.inputCarry = 1 /\
        (⟨loadCandidate, false⟩ : Poseidon2P24ValueConservationAir).Satisfies 256 trace
          (provedPublicValues loadCandidate (fun _ => carryingNote) zeroAsset none) := by
  have nonzero : noteValue carryingNote ≠ 0 := by
    rw [noteValue_carryingNote]
    decide
  have accepted : validateWitnessValues loadCandidate (fun _ => carryingNote) zeroAsset none =
      .ok () := by
    rw [validateWitnessValues_eq_ok, noteValue_carryingNote]
    exact ⟨fun _ => ⟨rfl, fun _ => by decide⟩, by decide, rfl, by simp⟩
  rcases built_value_trace_satisfies loadCandidate _ zeroAsset none 256 accepted
    (Nat.le_refl 256) with ⟨trace, built, satisfied⟩
  refine ⟨accepted, trace, built, ?_, satisfied⟩
  have isTrace := Except.ok.inj
    (built.symm.trans (buildTraceWithRows_eq _ (Nat.le_refl 256) (fun _ _ => nonzero)))
  have carries : carryAt carryingNote carryingNote 1 = 1 := by decide
  rw [isTrace]
  simp only [valueRowOf, toNat_carryColumn, carries, Nat.cast_one]

end
end Noxis.Privacy
