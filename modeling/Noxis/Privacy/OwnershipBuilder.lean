import Noxis.Foundation.Stateful
import Noxis.Privacy.TraceHeight

namespace Noxis.Privacy

open Foundation

/-!
# The trace that an ownership prover builds

The prover first evaluates the hashes of an opening and then fills the trace row
by row.  The state that it prepares for the next phase comes from the values it
holds, and the constraints read the same state from the columns.  Both agree in
each of the 142 phases, so a note that belongs to the key gives a trace without
a violated constraint.
-/

/-- What the prover writes into the columns of every row. -/
structure OwnershipTraceWitness where
  nullifierKey : Bytes 32
  notePreimage : Bytes 178
  leafPosition : UInt32
  recipientCommitment : Digest
  noteCommitment : Digest
  treeLeaf : Digest
  siblings : Fin 32 -> Digest
  intermediates : Fin 31 -> Digest

/-- The witness of a path and what it makes public. -/
structure PreparedOwnershipPath32 extends OwnershipPublicValues where
  witness : OwnershipTraceWitness

def prepareOwnershipPath32 (candidate : Poseidon2P24Candidate) (nullifierKey : Bytes 32)
    (notePreimage : Bytes 178) (leafPosition : UInt32) (siblings : Fin 32 -> Digest) :
    PreparedOwnershipPath32 :=
  let noteCommitment := candidate.hashNote notePreimage
  let treeLeaf := candidate.leaf noteCommitment
  let root := candidate.pathValue treeLeaf leafPosition siblings
  { witness := {
      nullifierKey
      notePreimage
      leafPosition
      recipientCommitment := candidate.hashAddr nullifierKey
      noteCommitment
      treeLeaf
      siblings
      intermediates := fun level => root (level.val + 1) }
    nullifier := candidate.hashNullifierPreimage
      (makeNullifierPreimage nullifierKey notePreimage noteCommitment leafPosition)
    root := root 32
    noteCommitment }

def writeWitness (input : OwnershipTraceWitness) : OwnershipWitness where
  keyBytes := byteColumns input.nullifierKey
  keyBits := bitColumns input.nullifierKey
  noteBytes := byteColumns input.notePreimage
  noteBits := bitColumns input.notePreimage
  positionBytes := byteColumns (positionBytes input.leafPosition)
  positionBits := bitColumns (positionBytes input.leafPosition)
  recipientDigest := input.recipientCommitment
  noteCommitmentBytes := byteColumns (digestBytes input.noteCommitment)
  noteCommitmentBits := bitColumns (digestBytes input.noteCommitment)
  noteDigest := input.noteCommitment
  treeLeafDigest := input.treeLeaf
  merkleSiblings := input.siblings
  merkleIntermediates := input.intermediates

section
variable (air : Poseidon2P24OwnershipAir) (input : OwnershipTraceWitness)

def initialStateValues (iv : Fin 9 -> Val) (packed : Nat -> Val) : State :=
  air.mix (rawState iv packed)

/-- Fifteen elements from a start are added.  Beyond the last element there is
nothing to add. -/
def absorbValues (state : State) (packed : Nat -> Val) (start : Nat) : State :=
  air.mix (addBlock 15 (fun lane => packed (start + lane)) state)

/-- The children that the node of a level absorbs. -/
def OwnershipTraceWitness.nodeInput (level : Nat) : Nat -> Val :=
  orderedNodeInput
    (if level = 0 then input.treeLeaf else extend input.intermediates (level - 1))
    (extend input.siblings level) (input.leafPosition.toNat.testBit level)

def ownershipPhaseTransitionValues (phase : Nat) (state : State) : State :=
  let notePacked := packedElement input.notePreimage.toList
  let nullifierPacked := packedElement (makeNullifierPreimage input.nullifierKey
    input.notePreimage input.noteCommitment input.leafPosition).toList
  if 14 <= phase then
    let level := (phase - 14) / 4
    match (phase - 14) % 4 with
    | 0 => absorbValues air state (input.nodeInput level) 15
    | 1 => absorbValues air state (input.nodeInput level) 30
    | 2 => air.mix state
    | _ =>
      if level + 1 < 32 then
        initialStateValues air (air.candidate.treeIv .node) (input.nodeInput (level + 1))
      else state
  else
    match phase with
    | 0 | 5 | 9 | 12 => air.mix state
    | 1 => initialStateValues air (air.candidate.noteIv .note) notePacked
    | 2 | 3 | 4 => absorbValues air state notePacked ((phase - 2 + 1) * 15)
    | 6 => initialStateValues air (air.candidate.noteIv .nullifier) nullifierPacked
    | 7 | 8 => absorbValues air state nullifierPacked ((phase - 7 + 1) * 15)
    | 10 => initialStateValues air (air.candidate.treeIv .leaf) (extend input.noteCommitment)
    | 11 => air.mix (Function.update state 0 (state 0 + input.noteCommitment 15))
    | _ => initialStateValues air (air.candidate.treeIv .node) (input.nodeInput 0)

/-- The state that the prover holds before a row. -/
def ownershipStateAt : Nat -> State
  | 0 => initialStateValues air (air.candidate.noteIv .addr)
      (packedElement input.nullifierKey.toList)
  | row + 1 =>
    let state := ownershipStateAt row
    if row < 4118 then
      let rounded := roundExpression air.candidate.reference state (row % 29)
      if row % 29 + 1 = 29 then ownershipPhaseTransitionValues air input (row / 29) rounded
      else rounded
    else state

def buildOwnershipTraceWithRows (traceRows : Nat) : Except Panic (Nat -> OwnershipRow) :=
  if traceRows < 8192 then
    .error ⟨"ownership trace must contain all selector steps"⟩
  else
    .ok fun row => {
      state := ownershipStateAt air input row
      selectors :=
        if row < 4118 then ⟨oneHot (row % 29), oneHot (row / 29), 0⟩
        else ⟨oneHot 28, oneHot 141, 1⟩
      witness := writeWitness input }

variable {input} (static : (writeWitness input).Static)

theorem holdsOpening_writeWitness (input : OwnershipTraceWitness) :
    HoldsOpening (writeWitness input) input.nullifierKey input.notePreimage
      (positionBytes input.leafPosition) (digestBytes input.noteCommitment) :=
  ⟨holdsBytes_byteColumns _, holdsBytes_byteColumns _, holdsBytes_byteColumns _,
    holdsBytes_byteColumns _⟩

include static

theorem nodeElement_writeWitness {level : Nat} (levelWithin : level < 32) :
    nodeElement (writeWitness input) level = input.nodeInput level :=
  HoldsOpening.nodeElement_eq (HoldsOpening.positionDirectionExpression_eq
    (holdsOpening_writeWitness input).position static levelWithin)

theorem initialNodeStateExpression_writeWitness {level : Nat} (levelWithin : level < 32) :
    air.initialNodeStateExpression (writeWitness input) level =
      initialStateValues air (air.candidate.treeIv .node) (input.nodeInput level) := by
  rw [initialStateValues, ← nodeElement_writeWitness static levelWithin, rawState_nodeElement]
  rfl

theorem nodeAbsorbExpression_writeWitness (state : State) {level : Nat} (levelWithin : level < 32)
    (block : Nat) :
    air.nodeAbsorbExpression (writeWitness input) state level (block * 15) =
      absorbValues air state (input.nodeInput level) (block * 15) := by
  rw [nodeAbsorbExpression_eq, nodeElement_writeWitness static levelWithin]
  rfl

/-- The columns and the values of the prover lead to the same next phase. -/
theorem phaseTransitionTarget_writeWitness {phase : Nat} (within : phase < 142) (state : State) :
    air.phaseTransitionTarget (writeWitness input) phase state =
      ownershipPhaseTransitionValues air input phase state := by
  have holds := holdsOpening_writeWitness input
  unfold Poseidon2P24OwnershipAir.phaseTransitionTarget ownershipPhaseTransitionValues
  by_cases isNode : 14 <= phase
  · have levelWithin : (phase - 14) / 4 < 32 := by omega
    have absorbs := nodeAbsorbExpression_writeWitness air static state levelWithin
    have reduced := Nat.mod_lt (phase - 14) (show 4 > 0 by decide)
    simp only [if_pos isNode]
    generalize (phase - 14) % 4 = phaseInHash at reduced ⊢
    interval_cases phaseInHash
    · exact absorbs 1
    · exact absorbs 2
    · rfl
    · by_cases continues : (phase - 14) / 4 + 1 < 32
      · simp only [if_pos continues]
        exact initialNodeStateExpression_writeWitness air static continues
      · simp only [if_neg continues]
  · simp only [if_neg isNode, Poseidon2P24OwnershipAir.initialStateExpression,
      holds.domainElement_note, holds.domainElement_nullifier]
    have early : phase < 14 := by omega
    interval_cases phase
    case «13» => exact initialNodeStateExpression_writeWitness air static (by decide)
    all_goals rfl

theorem ownershipStateAt_eq (row : Nat) :
    ownershipStateAt air input row = rowState air (writeWitness input) row := by
  induction row with
  | zero =>
    rw [rowState_of_le _ _ (by decide), ownershipStateAt,
      ← (holdsOpening_writeWitness input).domainElement_addr]
    rfl
  | succ row ih =>
    rw [ownershipStateAt]
    by_cases early : row < 4118
    · rw [if_pos early, rowState_of_le _ _ early, PhasedRun.stateAt, PhasedRun.step, ih,
        rowState_of_le _ _ (Nat.le_of_lt early)]
      by_cases isLast : row % 29 + 1 = 29
      · have round : row % 29 = 28 := Nat.succ_injective isLast
        rw [if_pos isLast, if_pos isLast, round]
        exact (phaseTransitionTarget_writeWitness air static (by omega) _).symm
      · rw [if_neg isLast, if_neg isLast]
        rfl
    · have late : min (row + 1) 4118 = min row 4118 := by omega
      rw [if_neg early, ih, rowState, rowState, late]

/-- The rows that the prover writes. -/
theorem buildOwnershipTraceWithRows_eq {traceRows : Nat} (full : 8192 <= traceRows) :
    buildOwnershipTraceWithRows air input traceRows = .ok (rowOf air (writeWitness input)) := by
  rw [buildOwnershipTraceWithRows, if_neg (Nat.not_lt.mpr full)]
  apply congrArg Except.ok
  funext row
  rw [rowOf, ownershipStateAt_eq air static]
  by_cases early : row < 4118
  · rw [if_pos early, ownershipSchedule.position_of_lt early]
    rfl
  · rw [if_neg early, ownershipSchedule.position_of_le (Nat.not_lt.mp early)]
    rfl

end

/-- A note that names the address of the key in its canonical bytes. -/
theorem ownedNote_of_bytes {candidate key note} (version : note.toList.take 2 = [0, 1])
    (recipient : (note.toList.drop 50).take 64 = (digestBytes (candidate.hashAddr key)).toList) :
    OwnedNote candidate key note := by
  have parts : note.toList = note.toList.take 50 ++
      ((digestBytes (candidate.hashAddr key)).toList ++ note.toList.drop 114) := by
    have after : note.toList.drop 114 = (note.toList.drop 50).drop 64 := by
      rw [List.drop_drop]
    rw [← recipient, after, List.take_append_drop, List.take_append_drop]
  have before : (note.toList.take 50).length = 50 := by
    rw [List.length_take, note.length_toList]
    rfl
  have byte {index : Nat} (early : index < 2) :
      note.toList.getD index 0 = ([0, 1] : List UInt8).getD index 0 := by
    rw [← version]
    simp only [List.getD_eq_getElem?_getD, List.getElem?_take, if_pos early]
  refine ⟨byte (by decide), byte (by decide), ?_⟩
  have encodes := @encodesDigest_append (note.toList.take 50) _ (note.toList.drop 114) _
    (digestBytes (candidate.hashAddr key)).length_toList (encodesDigest_digestBytes _)
  rw [← parts, before] at encodes
  exact encodes

/-- The trace of a note that belongs to the key satisfies every constraint on
every row, with the public values that the prover returns. -/
theorem built_ownership_trace_satisfies (candidate : Poseidon2P24Candidate)
    (bindNoteCommitment : Bool) (key : Bytes 32) (note : Bytes 178) (leafPosition : UInt32)
    (siblings : Fin 32 -> Digest) (traceRows : Nat) (version : note.toList.take 2 = [0, 1])
    (recipient : (note.toList.drop 50).take 64 = (digestBytes (candidate.hashAddr key)).toList)
    (full : 8192 <= traceRows) :
    let air : Poseidon2P24OwnershipAir := ⟨candidate, bindNoteCommitment⟩
    let prepared := prepareOwnershipPath32 candidate key note leafPosition siblings
    ∃ trace, buildOwnershipTraceWithRows air prepared.witness traceRows = .ok trace /\
      air.Satisfies traceRows trace prepared.toOwnershipPublicValues := by
  intro air prepared
  have owned := ownedNote_of_bytes version recipient
  have encodes := encodesDigest_digestBytes (candidate.hashNote note)
  have static : (writeWitness prepared.witness).Static :=
    static_openingWitness leafPosition siblings owned encodes
  refine ⟨_, buildOwnershipTraceWithRows_eq air static full, ?_⟩
  exact satisfies_openingWitness leafPosition siblings owned encodes bindNoteCommitment traceRows

theorem ownNote_trace_is_built :
    (ownNote loadCandidate zeroKey).toList.take 2 = [0, 1] /\
      ∃ trace, buildOwnershipTraceWithRows ⟨loadCandidate, true⟩
        (prepareOwnershipPath32 loadCandidate zeroKey (ownNote loadCandidate zeroKey) 0
          (fun _ _ => 0)).witness 8192 = .ok trace := by
  have recipient : ((ownNote loadCandidate zeroKey).toList.drop 50).take 64 =
      (digestBytes (loadCandidate.hashAddr zeroKey)).toList :=
    List.take_left' (Bytes.length_toList _)
  rcases built_ownership_trace_satisfies loadCandidate true zeroKey _ 0 (fun _ _ => 0) 8192 rfl
    recipient (Nat.le_refl 8192) with ⟨trace, built, _⟩
  exact ⟨rfl, trace, built⟩

end Noxis.Privacy
