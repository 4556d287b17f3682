import Noxis.Foundation.PhaseSchedule
import Noxis.Privacy.Poseidon2Air

namespace Noxis.Privacy

open Foundation

/-!
# The constraints of value conservation

One trace hashes four notes side by side, two inputs and two outputs, and adds
their values byte by byte.  The columns of a note are a state, a register that
counts the rounds of its five permutations, and a witness that no row changes.
The columns of the addition are a register over the sixteen bytes of a value, a
carry for the inputs, a carry for the outputs, and inverses that show the inputs
to be non-zero.
-/

structure NoteWitness where
  bytes : Fin 178 -> Val
  bits : Fin 178 -> Fin 8 -> Val
  packed : Fin 60 -> Val

structure NoteColumns where
  state : State
  selectors : Fin 145 -> Val
  witness : NoteWitness

structure ArithmeticColumns where
  selectors : Fin 16 -> Val
  inputCarry : Val
  outputCarry : Val
  inputZeroInverse : Fin 2 -> Val

structure ValueRow where
  notes : Fin 4 -> NoteColumns
  arithmetic : ArithmeticColumns

/-- The commitments of two inputs and two outputs, the asset, and the output
slots of the variant that binds them. -/
structure ValuePublicValues where
  noteCommitments : Fin 4 -> Digest
  assetId : Bytes 32
  outputCommitments : Fin 2 -> Digest

structure Poseidon2P24ValueConservationAir where
  candidate : Poseidon2P24Candidate
  bindOutputCommitments : Bool

namespace Poseidon2P24ValueConservationAir

variable (air : Poseidon2P24ValueConservationAir)

def mix (state : State) : State := matrixExpression air.candidate.reference.externalMatrix state

/-- The state that the last round of a phase hands to the next phase. -/
def noteTransitionTarget (witness : NoteWitness) (phase : Nat) (roundState : State) : State :=
  if phase + 1 < 5 then
    air.mix (fun lane =>
      if phase + 1 < 4 /\ lane.val < 15 then
        roundState lane + extend witness.packed ((phase + 1) * 15 + lane.val)
      else
        roundState lane)
  else
    roundState

def expectedNextNote (columns : NoteColumns) : State := fun lane =>
  let rounds := fun round => roundExpression air.candidate.reference columns.state round
  columns.state lane + ∑ phase ∈ Finset.range 5, ∑ round ∈ Finset.range 29,
    extend columns.selectors (phase * 29 + round) *
      ((if round + 1 = 29 then air.noteTransitionTarget columns.witness phase (rounds 28) lane
        else rounds round lane) - columns.state lane)

/-- The constraints on the columns of one note in two rows. -/
structure NoteRelation (isFirstRow isTransition : Prop) (columns next : NoteColumns)
    (assetId : Bytes 32) (commitment : Digest) : Prop where
  bytes : forall index,
    HoldsByte (columns.witness.bytes index) (extend (columns.witness.bits index))
  packed : forall packedIndex, columns.witness.packed packedIndex =
    packedExpression (extend columns.witness.bytes) packedIndex.val
  versionHigh : isFirstRow -> columns.witness.bytes 0 = 0
  versionLow : isFirstRow -> columns.witness.bytes 1 = 1
  asset : forall index : Fin 32, extend columns.witness.bytes (2 + index.val) =
    ((assetId.toList.getD index.val 0).toNat : Val)
  constantWitness : isTransition -> next.witness = columns.witness
  firstState : isFirstRow -> columns.state =
    air.mix (rawState (air.candidate.noteIv .note) (extend columns.witness.packed))
  firstSelectors : isFirstRow -> StartsRegister 145 (extend columns.selectors)
  nextSelectors : isTransition ->
    ShiftsRegister 145 (extend columns.selectors) (extend next.selectors)
  nextState : isTransition -> next.state = air.expectedNextNote columns
  rate : forall lane : Fin 15, extend columns.selectors (4 * 29 - 1) *
    (roundExpression air.candidate.reference columns.state 28 (lane.castLE (by decide)) -
      commitment (lane.castLE (by decide))) = 0
  last : extend columns.selectors (145 - 1) *
    (roundExpression air.candidate.reference columns.state 28 0 - commitment 15) = 0

/-- The byte of a value at a step of the addition, from the least significant
one. -/
def valueByte (witness : NoteWitness) (byteStep : Nat) : Val :=
  extend witness.bytes (34 + 16 - 1 - byteStep)

/-- The constraints on the addition in two rows. -/
structure ValueRelation (isFirstRow isTransition : Prop) (witnesses : Fin 4 -> NoteWitness)
    (arithmetic next : ArithmeticColumns) : Prop where
  firstSelectors : isFirstRow -> StartsRegister 16 (extend arithmetic.selectors)
  nextSelectors : isTransition ->
    ShiftsRegister 16 (extend arithmetic.selectors) (extend next.selectors)
  firstInputCarry : isFirstRow -> arithmetic.inputCarry = 0
  firstOutputCarry : isFirstRow -> arithmetic.outputCarry = 0
  carries : forall carry, carry ∈ [arithmetic.inputCarry, arithmetic.outputCarry, next.inputCarry,
    next.outputCarry] -> carry * (carry - 1) = 0
  nonzeroInputs : isFirstRow -> forall inputIndex : Fin 2,
    (∑ byteIndex ∈ Finset.range 16,
        extend (witnesses (inputIndex.castLE (by decide))).bytes (34 + byteIndex)) *
      arithmetic.inputZeroInverse inputIndex = 1
  sums : forall byteStep, byteStep < 16 -> extend arithmetic.selectors byteStep *
    ((valueByte (witnesses 0) byteStep + valueByte (witnesses 1) byteStep +
        arithmetic.inputCarry) -
      (valueByte (witnesses 2) byteStep + valueByte (witnesses 3) byteStep +
        arithmetic.outputCarry) -
      (next.inputCarry - next.outputCarry) * 256) = 0
  lastInputCarry : extend arithmetic.selectors (16 - 1) * next.inputCarry = 0
  lastOutputCarry : extend arithmetic.selectors (16 - 1) * next.outputCarry = 0

structure EvalRelation (isFirstRow isTransition : Prop) (row next : ValueRow)
    (publicValues : ValuePublicValues) : Prop where
  notes : forall noteIndex, air.NoteRelation isFirstRow isTransition (row.notes noteIndex)
    (next.notes noteIndex) publicValues.assetId (publicValues.noteCommitments noteIndex)
  boundOutputs : air.bindOutputCommitments = true -> forall outputIndex : Fin 2,
    publicValues.noteCommitments (Fin.natAdd 2 outputIndex) =
      publicValues.outputCommitments outputIndex
  values : ValueRelation isFirstRow isTransition (fun noteIndex => (row.notes noteIndex).witness)
    row.arithmetic next.arithmetic

/-- Every constraint holds on every row.  The row after the last is the first,
and no transition leads there. -/
def Satisfies (height : Nat) (trace : Nat -> ValueRow) (publicValues : ValuePublicValues) : Prop :=
  forall row, row < height ->
    air.EvalRelation (row = 0) (row + 1 ≠ height) (trace row) (trace ((row + 1) % height))
      publicValues

end Poseidon2P24ValueConservationAir
end Noxis.Privacy
