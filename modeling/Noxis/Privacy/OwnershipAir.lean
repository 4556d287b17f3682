import Noxis.Foundation.PhaseSchedule
import Noxis.Privacy.Poseidon2Air

namespace Noxis.Privacy

open Foundation

/-!
# The constraints of the ownership proof

A proof of ownership is a trace of field elements.  The first columns hold the
state of the permutation and the selectors of a round and a phase.  The other
columns hold the witness, which no row changes: the key, the note and the
position with the bits of their bytes, the digests that the phases compute, and
the path to the root.  Eleven phases hash the key, the note and the nullifier,
three hash the leaf, and four hash each of the 32 nodes on the path.
-/

/-- The columns that stay the same in every row. -/
structure OwnershipWitness where
  keyBytes : Fin 32 -> Val
  keyBits : Fin 32 -> Fin 8 -> Val
  noteBytes : Fin 178 -> Val
  noteBits : Fin 178 -> Fin 8 -> Val
  positionBytes : Fin 4 -> Val
  positionBits : Fin 4 -> Fin 8 -> Val
  recipientDigest : Digest
  noteCommitmentBytes : Fin 64 -> Val
  noteCommitmentBits : Fin 64 -> Fin 8 -> Val
  noteDigest : Digest
  treeLeafDigest : Digest
  merkleSiblings : Fin 32 -> Digest
  merkleIntermediates : Fin 31 -> Digest

structure OwnershipRow where
  state : State
  selectors : Selectors Val
  witness : OwnershipWitness

/-- Nullifier and root, and the note commitment of the variant that binds it. -/
structure OwnershipPublicValues where
  nullifier : Digest
  root : Digest
  noteCommitment : Digest

/-- 29 rounds in each of 142 phases. -/
def ownershipSchedule : PhaseSchedule where
  rounds := 29
  phases := 142
  severalRounds := by decide
  severalPhases := by decide

def nodePhase (level phaseInHash : Nat) : Nat := 14 + level * 4 + phaseInHash

namespace OwnershipWitness

variable (witness : OwnershipWitness)

def keyPackedExpression (packedIndex : Nat) : Val :=
  packedExpression (extend witness.keyBytes) packedIndex

def notePackedExpression (packedIndex : Nat) : Val :=
  packedExpression (extend witness.noteBytes) packedIndex

/-- Key, `rho` of the note, note commitment and position. -/
def nullifierByteExpression (byteIndex : Nat) : Val :=
  if byteIndex < 32 then extend witness.keyBytes byteIndex
  else if byteIndex < 64 then extend witness.noteBytes (114 + (byteIndex - 32))
  else if byteIndex < 128 then extend witness.noteCommitmentBytes (byteIndex - 64)
  else extend witness.positionBytes (byteIndex - 128)

def nullifierPackedExpression (packedIndex : Nat) : Val :=
  if 44 <= packedIndex then 0 else packedExpression witness.nullifierByteExpression packedIndex

def fourBytesExpression (byte : Nat -> Val) (offset : Nat) : Val :=
  weighBytes 4 (fun byteOffset => byte (offset + byteOffset))

def domainElement (domain : Poseidon2P24NoteDomain) (index : Nat) : Val :=
  match domain with
  | .addr => if index < 11 then witness.keyPackedExpression index else 0
  | .note => witness.notePackedExpression index
  | .nullifier => witness.nullifierPackedExpression index

/-- The bit of the position that tells on which side a level continues. -/
def positionDirectionExpression (level : Nat) : Val :=
  extend (extend witness.positionBits (3 - level / 8)) (level % 8)

/-- The value that enters a level from below. -/
def currentDigest (level : Nat) : Digest :=
  if level = 0 then witness.treeLeafDigest else extend witness.merkleIntermediates (level - 1)

/-- The two children of a node in their order. -/
def nodeInputExpression (level inputIndex : Nat) : Val :=
  let current := extend (witness.currentDigest level) (inputIndex % 16)
  let sibling := extend (extend witness.merkleSiblings level) (inputIndex % 16)
  let direction := witness.positionDirectionExpression level
  if inputIndex < 16 then current + direction * (sibling - current)
  else sibling + direction * (current - sibling)

/-- The constraints within one witness. -/
structure Static : Prop where
  key : forall index, HoldsByte (witness.keyBytes index) (extend (witness.keyBits index))
  note : forall index, HoldsByte (witness.noteBytes index) (extend (witness.noteBits index))
  position : forall index,
    HoldsByte (witness.positionBytes index) (extend (witness.positionBits index))
  noteCommitment : forall index,
    HoldsByte (witness.noteCommitmentBytes index) (extend (witness.noteCommitmentBits index))
  versionHigh : witness.noteBytes 0 = 0
  versionLow : witness.noteBytes 1 = 1
  recipient : forall lane : Fin 16, witness.recipientDigest lane =
    fourBytesExpression (extend witness.noteBytes) (50 + lane.val * 4)
  commitment : forall lane : Fin 16, witness.noteDigest lane =
    fourBytesExpression (extend witness.noteCommitmentBytes) (lane.val * 4)

end OwnershipWitness

/-- The relation for one key, note, nullifier and path. -/
structure Poseidon2P24OwnershipAir where
  candidate : Poseidon2P24Candidate
  bindNoteCommitment : Bool

namespace Poseidon2P24OwnershipAir

variable (air : Poseidon2P24OwnershipAir) (witness : OwnershipWitness)

def mix (state : State) : State := matrixExpression air.candidate.reference.externalMatrix state

def initialStateExpression (domain : Poseidon2P24NoteDomain) : State :=
  air.mix (rawState (air.candidate.noteIv domain) (witness.domainElement domain))

def initialLeafStateExpression : State :=
  air.mix (rawState (air.candidate.treeIv .leaf) (extend witness.noteDigest))

def initialNodeStateExpression (level : Nat) : State :=
  air.mix (rawState (air.candidate.treeIv .node) (witness.nodeInputExpression level))

def absorbThenPermuteExpression (roundState : State) (packed : Nat -> Val) (block : Nat) : State :=
  air.mix (addBlock 15 (fun lane => packed (block * 15 + lane)) roundState)

def leafSecondBlockExpression (roundState : State) : State :=
  air.mix (Function.update roundState 0 (roundState 0 + witness.noteDigest 15))

def nodeAbsorbExpression (roundState : State) (level inputStart : Nat) : State :=
  air.mix (fun lane =>
    if lane.val < 15 /\ inputStart + lane.val < 32 then
      roundState lane + witness.nodeInputExpression level (inputStart + lane.val)
    else
      roundState lane)

/-- The state after the last round of a phase has been prepared for the next
phase. -/
def phaseTransitionTarget (phase : Nat) (roundState : State) : State :=
  if 14 <= phase then
    let level := (phase - 14) / 4
    match (phase - 14) % 4 with
    | 0 => air.nodeAbsorbExpression witness roundState level 15
    | 1 => air.nodeAbsorbExpression witness roundState level 30
    | 2 => air.mix roundState
    | _ =>
      if level + 1 < 32 then air.initialNodeStateExpression witness (level + 1) else roundState
  else
    match phase with
    | 0 | 5 | 9 | 12 => air.mix roundState
    | 1 => air.initialStateExpression witness .note
    | 6 => air.initialStateExpression witness .nullifier
    | 2 | 3 | 4 =>
      air.absorbThenPermuteExpression roundState (witness.domainElement .note) (phase - 2 + 1)
    | 7 | 8 =>
      air.absorbThenPermuteExpression roundState (witness.domainElement .nullifier)
        (phase - 7 + 1)
    | 10 => air.initialLeafStateExpression witness
    | 11 => air.leafSecondBlockExpression witness roundState
    | _ => air.initialNodeStateExpression witness 0

def expectedNext (row : OwnershipRow) : State := fun lane =>
  let rounds := fun round => roundExpression air.candidate.reference row.state round
  let finalRoundTarget := row.state lane + ∑ phase ∈ Finset.range 142,
    row.selectors.phase phase *
      (air.phaseTransitionTarget row.witness phase (rounds 28) lane - row.state lane)
  row.state lane + ∑ round ∈ Finset.range 29,
    (1 - row.selectors.done) * row.selectors.round round *
      ((if round + 1 = 29 then finalRoundTarget else rounds round lane) - row.state lane)

/-- Fifteen lanes of a digest at the end of one phase and the last lane at the
end of another. -/
structure DigestAtPhase (row : OwnershipRow) (finalBlockPhase squeezePhase : Nat)
    (digest : Digest) : Prop where
  rate : forall lane : Fin 15,
    (1 - row.selectors.done) * row.selectors.round 28 * row.selectors.phase finalBlockPhase *
      (roundExpression air.candidate.reference row.state 28 (lane.castLE (by decide)) -
        digest (lane.castLE (by decide))) = 0
  last : (1 - row.selectors.done) * row.selectors.round 28 * row.selectors.phase squeezePhase *
    (roundExpression air.candidate.reference row.state 28 0 - digest 15) = 0

/-- The constraints on a row and the next one. -/
structure EvalRelation (isFirstRow isTransition : Prop) (row next : OwnershipRow)
    (publicValues : OwnershipPublicValues) : Prop where
  static : row.witness.Static
  constantWitness : isTransition -> next.witness = row.witness
  firstState : isFirstRow -> row.state = air.initialStateExpression row.witness .addr
  firstSelectors : isFirstRow -> ownershipSchedule.Shows row.selectors ⟨0, 0, false⟩
  doneBoolean : row.selectors.done * (row.selectors.done - 1) = 0
  advances : isTransition -> ownershipSchedule.Advances row.selectors next.selectors
  nextState : isTransition -> next.state = air.expectedNext row
  recipient : air.DigestAtPhase row 0 1 row.witness.recipientDigest
  note : air.DigestAtPhase row 5 6 row.witness.noteDigest
  boundNoteCommitment : air.bindNoteCommitment = true ->
    row.witness.noteDigest = publicValues.noteCommitment
  nullifier : air.DigestAtPhase row 9 10 publicValues.nullifier
  treeLeaf : air.DigestAtPhase row 12 13 row.witness.treeLeafDigest
  nodes : forall level, level < 32 ->
    air.DigestAtPhase row (nodePhase level 2) (nodePhase level 3)
      (if level + 1 = 32 then publicValues.root
        else extend row.witness.merkleIntermediates level)

/-- Every constraint holds on every row.  The row after the last is the first,
and no transition leads there. -/
def Satisfies (height : Nat) (trace : Nat -> OwnershipRow)
    (publicValues : OwnershipPublicValues) : Prop :=
  forall row, row < height ->
    air.EvalRelation (row = 0) (row + 1 ≠ height) (trace row) (trace ((row + 1) % height))
      publicValues

end Poseidon2P24OwnershipAir
end Noxis.Privacy
