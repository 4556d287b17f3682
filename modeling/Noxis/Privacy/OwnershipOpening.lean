import Noxis.Privacy.Identifiers
import Noxis.Privacy.OwnershipDigests

namespace Noxis.Privacy

open Foundation

/-!
# What an ownership proof opens

An opening is a key, a note, a position and the siblings of a path.  It
determines the commitment of the note, the nullifier and the root.  In a trace
the same quantities are read from byte columns, and the bytes of the commitment
stand in columns of their own.
-/

/-- A position with the most significant byte first. -/
def positionBytes (leafPosition : UInt32) : Bytes 4 :=
  ⟨bigEndian 4 leafPosition.toNat, length_bigEndian 4 _⟩

/-- The key, `rho` of the note, and the bytes of a commitment and a position. -/
def nullifierPreimage (key : Bytes 32) (note : Bytes 178) (commitment : Bytes 64)
    (position : Bytes 4) : Bytes 132 where
  toList := key.toList ++ ((note.toList.drop 114).take 32 ++
    (commitment.toList ++ position.toList))
  length_toList := by simp [Bytes.length_toList]

def makeNullifierPreimage (key : Bytes 32) (note : Bytes 178) (noteCommitment : Digest)
    (leafPosition : UInt32) : Bytes 132 :=
  nullifierPreimage key note (digestBytes noteCommitment) (positionBytes leafPosition)

/-- Two children one after the other. -/
def orderedNodeInput (current sibling : Digest) (currentIsRight : Bool) (index : Nat) : Val :=
  if index < 16 then extend (if currentIsRight then sibling else current) index
  else extend (if currentIsRight then current else sibling) (index - 16)

namespace Poseidon2P24Candidate

variable (candidate : Poseidon2P24Candidate)

def candidateNode (current sibling : Digest) (currentIsRight : Bool) : Digest :=
  candidate.node (if currentIsRight then sibling else current)
    (if currentIsRight then current else sibling)

/-- The value of a path after a number of levels. -/
def pathValue (treeLeaf : Digest) (leafPosition : UInt32) (siblings : Fin 32 -> Digest) :
    Nat -> Digest
  | 0 => treeLeaf
  | level + 1 => candidate.candidateNode (pathValue treeLeaf leafPosition siblings level)
      (extend siblings level) (leafPosition.toNat.testBit level)

end Poseidon2P24Candidate

/-- The byte columns of a witness. -/
structure HoldsOpening (witness : OwnershipWitness) (key : Bytes 32) (note : Bytes 178)
    (position : Bytes 4) (commitment : Bytes 64) : Prop where
  key : HoldsBytes witness.keyBytes key
  note : HoldsBytes witness.noteBytes note
  position : HoldsBytes witness.positionBytes position
  commitment : HoldsBytes witness.noteCommitmentBytes commitment

namespace HoldsOpening

variable {witness : OwnershipWitness} {key : Bytes 32} {note : Bytes 178} {position : Bytes 4}
  {commitment : Bytes 64}

open OwnershipWitness

variable (holds : HoldsOpening witness key note position commitment)

include holds in
theorem domainElement_addr : witness.domainElement .addr = packedElement key.toList := by
  funext index
  simp only [domainElement, keyPackedExpression]
  by_cases inside : index < 11
  · rw [if_pos inside, packedExpression_eq holds.key.extend_eq]
  · rw [if_neg inside, packedElement_of_le]
    rw [key.length_toList]
    omega

include holds in
theorem domainElement_note : witness.domainElement .note = packedElement note.toList := by
  funext index
  exact packedExpression_eq holds.note.extend_eq index

include holds in
/-- The columns that a nullifier is read from hold its preimage. -/
theorem nullifierByteExpression_eq (index : Nat) :
    witness.nullifierByteExpression index =
      (((nullifierPreimage key note commitment position).toList.getD index 0).toNat : Val) := by
  have rhoLength : ((note.toList.drop 114).take 32).length = 32 := by
    simp [note.length_toList]
  unfold nullifierByteExpression nullifierPreimage
  simp only
  by_cases inKey : index < 32
  · rw [if_pos inKey, holds.key.extend_eq,
      List.getD_append _ _ _ _ (by rw [key.length_toList]; exact inKey)]
  rw [if_neg inKey, List.getD_append_right _ _ _ _ (by rw [key.length_toList]; omega),
    key.length_toList]
  by_cases inRho : index < 64
  · rw [if_pos inRho, holds.note.extend_eq, List.getD_append _ _ _ _ (by rw [rhoLength]; omega)]
    simp only [List.getD_eq_getElem?_getD, List.getElem?_take, List.getElem?_drop]
    rw [if_pos (by omega)]
  rw [if_neg inRho, List.getD_append_right _ _ _ _ (by rw [rhoLength]; omega), rhoLength]
  by_cases inCommitment : index < 128
  · rw [if_pos inCommitment, holds.commitment.extend_eq,
      List.getD_append _ _ _ _ (by rw [commitment.length_toList]; omega), Nat.sub_sub]
  · rw [if_neg inCommitment, holds.position.extend_eq,
      List.getD_append_right _ _ _ _ (by rw [commitment.length_toList]; omega),
      commitment.length_toList, Nat.sub_sub, Nat.sub_sub]

include holds in
theorem domainElement_nullifier :
    witness.domainElement .nullifier =
      packedElement (nullifierPreimage key note commitment position).toList := by
  funext index
  simp only [domainElement, nullifierPackedExpression]
  by_cases outside : 44 <= index
  · rw [if_pos outside, packedElement_of_le]
    rw [(nullifierPreimage key note commitment position).length_toList]
    omega
  · rw [if_neg outside, packedExpression_eq holds.nullifierByteExpression_eq]

/-- The column that tells the side of a level holds a bit of the position. -/
theorem positionDirectionExpression_eq {leafPosition}
    (holds : HoldsBytes witness.positionBytes (positionBytes leafPosition))
    (static : witness.Static) {level : Nat} (levelWithin : level < 32) :
    witness.positionDirectionExpression level =
      ((leafPosition.toNat.testBit level).toNat : Val) := by
  have byteWithin : 3 - level / 8 < 4 := by omega
  have isByte : (positionBytes leafPosition).toList.getD (3 - level / 8) 0 =
      UInt8.ofNat (leafPosition.toNat / 2 ^ (8 * (level / 8))) := by
    have place : 4 - 1 - (3 - level / 8) = level / 8 := by omega
    rw [positionBytes, getD_bigEndian byteWithin, place, Nat.pow_mul]
  have checked := static.position ⟨3 - level / 8, byteWithin⟩
  rw [holds ⟨3 - level / 8, byteWithin⟩, isByte] at checked
  have isBit := checked.bit_eq cast_byte_injective (show level % 8 < 8 by omega)
  have bit : (UInt8.ofNat (leafPosition.toNat / 2 ^ (8 * (level / 8)))).toNat.testBit (level % 8) =
      leafPosition.toNat.testBit level := by
    rw [UInt8.toNat_ofNat', Nat.testBit_mod_two_pow, Nat.testBit_div_two_pow,
      decide_eq_true (show level % 8 < 8 by omega), Bool.true_and, Nat.add_comm,
      Nat.div_add_mod]
  grind [positionDirectionExpression, extend_of_lt]

/-- The elements of a node are the two children in the order of the side. -/
theorem nodeElement_eq {level : Nat} {isRight}
    (direction : witness.positionDirectionExpression level = (isRight.toNat : Val)) :
    nodeElement witness level = orderedNodeInput (witness.currentDigest level)
      (extend witness.merkleSiblings level) isRight := by
  funext index
  simp only [nodeElement, nodeInputExpression, orderedNodeInput, direction]
  by_cases early : index < 16
  · rw [if_pos (by omega), if_pos early, if_pos early, Nat.mod_eq_of_lt early]
    cases isRight with
    | false => simp
    | true => simp
  · rw [if_neg early]
    by_cases inside : index < 32
    · have lane : index % 16 = index - 16 := by omega
      rw [if_pos inside, if_neg early, lane]
      cases isRight with
      | false => simp
      | true => simp
    · rw [if_neg inside, if_neg early, extend_of_le _ (by omega)]

theorem digestOf_nodeElement (candidate : Poseidon2P24Candidate) {level : Nat} {isRight}
    (direction : witness.positionDirectionExpression level = (isRight.toNat : Val)) :
    digestOf candidate.reference (candidate.treeIv .node) (nodeElement witness level) 3 =
      candidate.candidateNode (witness.currentDigest level)
        (extend witness.merkleSiblings level) isRight := by
  rw [Poseidon2P24Candidate.candidateNode, Poseidon2P24Candidate.node_eq, nodeElement_eq direction]
  rfl

end HoldsOpening

/-! ## Full traces -/

/-- The hashes that relate a witness and public values to an opening. -/
structure Opens (candidate : Poseidon2P24Candidate) (witness : OwnershipWitness)
    (publicValues : OwnershipPublicValues) (key : Bytes 32) (note : Bytes 178)
    (leafPosition : UInt32) (commitment : Bytes 64) : Prop where
  recipient : witness.recipientDigest = candidate.hashAddr key
  noteDigest : witness.noteDigest = candidate.hashNote note
  nullifier : publicValues.nullifier = candidate.hashNullifierPreimage
    (nullifierPreimage key note commitment (positionBytes leafPosition))
  treeLeaf : witness.treeLeafDigest = candidate.leaf witness.noteDigest
  nodes : forall level, level < 32 ->
    (if level + 1 = 32 then publicValues.root else extend witness.merkleIntermediates level) =
      candidate.candidateNode (witness.currentDigest level) (extend witness.merkleSiblings level)
        (leafPosition.toNat.testBit level)

section
variable {air : Poseidon2P24OwnershipAir} {witness : OwnershipWitness} {height : Nat}
  {publicValues : OwnershipPublicValues} {key : Bytes 32} {note : Bytes 178}
  {leafPosition : UInt32} {commitment : Bytes 64}

/-- In a trace that reaches every phase, the comparisons are the hashes of the
opening that the columns hold. -/
theorem comparesDigests_iff (full : 4118 <= height)
    (holds : HoldsOpening witness key note (positionBytes leafPosition) commitment) :
    ComparesDigests air witness height publicValues <->
      witness.Static /\
      (air.bindNoteCommitment = true -> witness.noteDigest = publicValues.noteCommitment) /\
      Opens air.candidate witness publicValues key note leafPosition commitment := by
  have recipient := @digestAtEnd_iff _ _ _ _ _ _ height (hashesAt_addr air witness) (by omega)
    witness.recipientDigest
  have noteDigest := @digestAtEnd_iff _ _ _ _ _ _ height (hashesAt_note air witness) (by omega)
    witness.noteDigest
  have nullifier := @digestAtEnd_iff _ _ _ _ _ _ height (hashesAt_nullifier air witness)
    (by omega) publicValues.nullifier
  have treeLeaf := @digestAtEnd_iff _ _ _ _ _ _ height (hashesAt_leaf air witness) (by omega)
    witness.treeLeafDigest
  rw [holds.domainElement_addr, ← Poseidon2P24Candidate.hashAddr_eq] at recipient
  rw [holds.domainElement_note, ← Poseidon2P24Candidate.hashNote_eq] at noteDigest
  rw [holds.domainElement_nullifier, ← Poseidon2P24Candidate.hashNullifierPreimage_eq] at nullifier
  rw [← Poseidon2P24Candidate.leaf_eq] at treeLeaf
  have node (static : witness.Static) {level : Nat} (levelWithin : level < 32) {digest : Digest} :
      DigestAtEnd air witness height (nodePhase level 2) (nodePhase level 3) digest <->
        digest = air.candidate.candidateNode (witness.currentDigest level)
          (extend witness.merkleSiblings level) (leafPosition.toNat.testBit level) := by
    have reached : 29 * (nodePhase level 0 + 2 + 1) + 28 < height := by
      unfold nodePhase
      omega
    have compared := @digestAtEnd_iff _ _ _ _ _ _ height (hashesAt_node air witness levelWithin)
      reached digest
    rw [HoldsOpening.digestOf_nodeElement air.candidate
      (HoldsOpening.positionDirectionExpression_eq holds.position static levelWithin)] at compared
    exact compared
  constructor
  · intro compares
    refine ⟨compares.static, compares.boundNoteCommitment, recipient.mp compares.recipient,
      noteDigest.mp compares.note, nullifier.mp compares.nullifier,
      treeLeaf.mp compares.treeLeaf, ?_⟩
    intro level levelWithin
    exact (node compares.static levelWithin).mp (compares.nodes level levelWithin)
  · intro opened
    rcases opened with ⟨static, bound, opens⟩
    refine ⟨static, recipient.mpr opens.recipient, noteDigest.mpr opens.noteDigest, bound,
      nullifier.mpr opens.nullifier, treeLeaf.mpr opens.treeLeaf, ?_⟩
    intro level levelWithin
    exact (node static levelWithin).mpr (opens.nodes level levelWithin)

/-- The values on the levels of an opened path. -/
theorem Opens.currentDigest_eq {candidate}
    (opens : Opens candidate witness publicValues key note leafPosition commitment) {level : Nat}
    (levelWithin : level < 32) :
    witness.currentDigest level =
      candidate.pathValue (candidate.leaf (candidate.hashNote note)) leafPosition
        witness.merkleSiblings level := by
  induction level with
  | zero => exact opens.treeLeaf.trans (congrArg candidate.leaf opens.noteDigest)
  | succ level ih =>
    have here := opens.nodes level (by omega)
    rw [if_neg (by omega), ih (by omega)] at here
    exact here

/-- The root of an opened path. -/
theorem Opens.root_eq {candidate}
    (opens : Opens candidate witness publicValues key note leafPosition commitment) :
    publicValues.root =
      candidate.pathValue (candidate.leaf (candidate.hashNote note)) leafPosition
        witness.merkleSiblings 32 := by
  have top := opens.nodes 31 (by decide)
  rw [if_pos rfl, opens.currentDigest_eq (by decide)] at top
  exact top

end

/-- Four columns that hold bytes are a little-endian number in the field. -/
theorem fourBytesExpression_eq {byte : Nat -> Val} {bytes : List UInt8}
    (holds : forall index, byte index = ((bytes.getD index 0).toNat : Val)) (offset : Nat) :
    OwnershipWitness.fourBytesExpression byte offset =
      (ofLittleEndian ((bytes.drop offset).take 4) : Val) := by
  grind [OwnershipWitness.fourBytesExpression, weighBytes_drop]

/-- A note of the first version whose recipient is the address of a key. -/
structure OwnedNote (candidate : Poseidon2P24Candidate) (key : Bytes 32) (note : Bytes 178) :
    Prop where
  versionHigh : note.toList.getD 0 0 = 0
  versionLow : note.toList.getD 1 0 = 1
  recipient : EncodesDigest note.toList 50 (candidate.hashAddr key)

section
variable (candidate : Poseidon2P24Candidate) (key : Bytes 32) (note : Bytes 178)
  (leafPosition : UInt32) (siblings : Fin 32 -> Digest) (commitment : Bytes 64)

/-- The witness that an opening writes, with any bytes for the commitment. -/
def openingWitness : OwnershipWitness where
  keyBytes := byteColumns key
  keyBits := bitColumns key
  noteBytes := byteColumns note
  noteBits := bitColumns note
  positionBytes := byteColumns (positionBytes leafPosition)
  positionBits := bitColumns (positionBytes leafPosition)
  recipientDigest := candidate.hashAddr key
  noteCommitmentBytes := byteColumns commitment
  noteCommitmentBits := bitColumns commitment
  noteDigest := candidate.hashNote note
  treeLeafDigest := candidate.leaf (candidate.hashNote note)
  merkleSiblings := siblings
  merkleIntermediates level := candidate.pathValue (candidate.leaf (candidate.hashNote note))
    leafPosition siblings (level.val + 1)

def openingPublicValues : OwnershipPublicValues where
  nullifier := candidate.hashNullifierPreimage
    (nullifierPreimage key note commitment (positionBytes leafPosition))
  root := candidate.pathValue (candidate.leaf (candidate.hashNote note)) leafPosition siblings 32
  noteCommitment := candidate.hashNote note

theorem holdsOpening_openingWitness :
    HoldsOpening (openingWitness candidate key note leafPosition siblings commitment) key note
      (positionBytes leafPosition) commitment :=
  ⟨holdsBytes_byteColumns _, holdsBytes_byteColumns _, holdsBytes_byteColumns _,
    holdsBytes_byteColumns _⟩

variable {candidate key note commitment}

theorem static_openingWitness (owned : OwnedNote candidate key note)
    (encodes : EncodesDigest commitment.toList 0 (candidate.hashNote note)) :
    (openingWitness candidate key note leafPosition siblings commitment).Static := by
  have holds := holdsOpening_openingWitness candidate key note leafPosition siblings commitment
  constructor
  case key => exact holdsByte_columns key
  case note => exact holdsByte_columns note
  case position => exact holdsByte_columns (positionBytes leafPosition)
  case noteCommitment => exact holdsByte_columns commitment
  case versionHigh =>
    rw [holds.note 0]
    exact congrArg (fun byte : UInt8 => (byte.toNat : Val)) owned.versionHigh
  case versionLow =>
    have isOne := congrArg (fun byte : UInt8 => (byte.toNat : Val)) owned.versionLow
    rw [holds.note 1]
    exact isOne.trans Nat.cast_one
  case recipient =>
    intro lane
    rw [fourBytesExpression_eq holds.note.extend_eq]
    exact owned.recipient lane
  case commitment =>
    intro lane
    have isLane := encodes lane
    rw [Nat.zero_add] at isLane
    rw [fourBytesExpression_eq holds.commitment.extend_eq]
    exact isLane

theorem opens_openingWitness :
    Opens candidate (openingWitness candidate key note leafPosition siblings commitment)
      (openingPublicValues candidate key note leafPosition siblings commitment) key note
      leafPosition commitment := by
  constructor
  case recipient => rfl
  case noteDigest => rfl
  case nullifier => rfl
  case treeLeaf => rfl
  case nodes =>
    intro level levelWithin
    have current : (openingWitness candidate key note leafPosition siblings
        commitment).currentDigest level = candidate.pathValue
          (candidate.leaf (candidate.hashNote note)) leafPosition siblings level := by
      cases level with
      | zero => rfl
      | succ level => exact extend_of_lt _ (show level < 31 by omega)
    rw [current]
    by_cases isTop : level + 1 = 32
    · have top : level = 31 := by omega
      subst top
      rfl
    · rw [if_neg isTop]
      exact extend_of_lt _ (show level < 31 by omega)

/-- Lower traces make fewer comparisons. -/
theorem ComparesDigests.mono {air witness} {height lower : Nat} {publicValues}
    (lowerBound : lower <= height) (compares : ComparesDigests air witness height publicValues) :
    ComparesDigests air witness lower publicValues := by
  have mono {finalBlockPhase squeezePhase : Nat} {digest : Digest}
      (digestAt : DigestAtEnd air witness height finalBlockPhase squeezePhase digest) :
      DigestAtEnd air witness lower finalBlockPhase squeezePhase digest :=
    ⟨fun reached => digestAt.rate (by omega), fun reached => digestAt.last (by omega)⟩
  exact ⟨compares.static, mono compares.recipient, mono compares.note,
    compares.boundNoteCommitment, mono compares.nullifier, mono compares.treeLeaf,
    fun level within => mono (compares.nodes level within)⟩

/-- The columns of an opening pass the comparisons at every height. -/
theorem comparesDigests_openingWitness (owned : OwnedNote candidate key note)
    (encodes : EncodesDigest commitment.toList 0 (candidate.hashNote note)) (binds : Bool)
    (height : Nat) :
    ComparesDigests ⟨candidate, binds⟩
      (openingWitness candidate key note leafPosition siblings commitment) height
      (openingPublicValues candidate key note leafPosition siblings commitment) := by
  apply ComparesDigests.mono (Nat.le_max_left height 4118)
  apply (comparesDigests_iff (Nat.le_max_right height 4118)
    (holdsOpening_openingWitness candidate key note leafPosition siblings commitment)).mpr
  exact ⟨static_openingWitness leafPosition siblings owned encodes, fun _ => rfl,
    opens_openingWitness leafPosition siblings⟩

theorem satisfies_openingWitness (owned : OwnedNote candidate key note)
    (encodes : EncodesDigest commitment.toList 0 (candidate.hashNote note)) (binds : Bool)
    (height : Nat) :
    (⟨candidate, binds⟩ : Poseidon2P24OwnershipAir).Satisfies height
      (rowOf ⟨candidate, binds⟩
        (openingWitness candidate key note leafPosition siblings commitment))
      (openingPublicValues candidate key note leafPosition siblings commitment) :=
  satisfies_of_follows (fun row _ => rowFollows_rowOf row)
    (comparesDigests_openingWitness leafPosition siblings owned encodes binds height)

end
end Noxis.Privacy
