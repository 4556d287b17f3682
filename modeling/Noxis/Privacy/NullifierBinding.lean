import Noxis.Foundation.Hashing
import Noxis.Privacy.OwnershipOpening
import Noxis.Privacy.Tables

namespace Noxis.Privacy

open Foundation

/-!
# One note, one nullifier

The nullifier hashes the bytes of the note commitment, and the trace holds
those bytes in columns of their own.  The constraints compare each four of them
with a lane of the commitment in the field, where numbers that differ by the
modulus are equal.  So the bytes are the canonical ones only if each group is
below the modulus, and a note has other nullifiers besides the one that its
owner computes.
-/

/-- The number that four byte columns of the commitment denote. -/
def OwnershipWitness.commitmentGroup (witness : OwnershipWitness) (lane : Fin 16) : Nat :=
  weighBytes 4 (fun byteOffset =>
    (extend witness.noteCommitmentBytes (lane.val * 4 + byteOffset)).val)

/-- Every group of the commitment columns is below the modulus. -/
def OwnershipWitness.CanonicalCommitment (witness : OwnershipWitness) : Prop :=
  forall lane, witness.commitmentGroup lane < babyBearModulus

/-- The bytes that the columns of a witness give to the nullifier. -/
def OwnershipWitness.heldPreimage (witness : OwnershipWitness) : Bytes 132 :=
  ⟨List.ofFn (fun index : Fin 132 => UInt8.ofNat (witness.nullifierByteExpression index.val).val),
    List.length_ofFn⟩

theorem val_byte (byte : UInt8) : ((byte.toNat : Val)).val = byte.toNat := by
  grind [ZMod.val_natCast, UInt8.toNat_lt]

namespace HoldsOpening

variable {key : Bytes 32} {note : Bytes 178}

variable {witness : OwnershipWitness} {position : Bytes 4} {commitment : Bytes 64}

theorem commitmentGroup_eq (holds : HoldsOpening witness key note position commitment)
    (lane : Fin 16) :
    witness.commitmentGroup lane =
      ofLittleEndian ((commitment.toList.drop (lane.val * 4)).take 4) := by
  have number := @weighBytes_drop Nat _ (lane.val * 4) 4 commitment.toList
  rw [Nat.cast_id] at number
  rw [← number]
  apply weighBytes_congr
  intro offset _
  rw [holds.commitment.extend_eq, val_byte, Nat.cast_id]

theorem heldPreimage_eq (holds : HoldsOpening witness key note position commitment) :
    witness.heldPreimage = nullifierPreimage key note commitment position := by
  apply Bytes.ext
  apply List.ext_getElem
  · rw [Bytes.length_toList, Bytes.length_toList]
  · intro index early earlyOther
    have byte := holds.nullifierByteExpression_eq index
    rw [List.getD_eq_getElem _ _ earlyOther] at byte
    have held : witness.heldPreimage.toList[index] =
        UInt8.ofNat (witness.nullifierByteExpression index).val := List.getElem_ofFn _
    rw [held, byte, val_byte, UInt8.ofNat_toNat]

end HoldsOpening

/-- The constant columns hold a key, a note and a position. -/
structure HoldsSpend (witness : OwnershipWitness) (key : Bytes 32) (note : Bytes 178)
    (leafPosition : UInt32) : Prop where
  key : HoldsBytes witness.keyBytes key
  note : HoldsBytes witness.noteBytes note
  position : HoldsBytes witness.positionBytes (positionBytes leafPosition)

section
variable {candidate : Poseidon2P24Candidate} {binds : Bool} {trace : Nat -> OwnershipRow}
  {publicValues : OwnershipPublicValues} {leafPosition : UInt32}

/-- A full trace opens a note with some bytes for its commitment. -/
theorem opens_of_satisfies {height : Nat} (full : 4118 <= height)
    (satisfied : (⟨candidate, binds⟩ : Poseidon2P24OwnershipAir).Satisfies height trace
      publicValues) (holds : HoldsSpend (trace 0).witness key note leafPosition) :
    (trace 0).witness.Static /\ ∃ commitment : Bytes 64,
      HoldsOpening (trace 0).witness key note (positionBytes leafPosition) commitment /\
      Opens candidate (trace 0).witness publicValues key note leafPosition commitment := by
  have compares := comparesDigests_of_satisfies (by omega) satisfied
  rcases HoldsBytes.exists_of_holdsByte compares.static.noteCommitment with
    ⟨commitment, holdsCommitment⟩
  have opening : HoldsOpening (trace 0).witness key note (positionBytes leafPosition) commitment :=
    ⟨holds.key, holds.note, holds.position, holdsCommitment⟩
  have opened := (comparesDigests_iff full opening).mp compares
  exact ⟨opened.1, commitment, opening, opened.2.2⟩

theorem nullifierPreimage_injective {left right position}
    (same : nullifierPreimage key note left position = nullifierPreimage key note right position) :
    left = right := by
  have lists := congrArg Bytes.toList same
  have tails := List.append_cancel_left (List.append_cancel_left lists)
  exact Bytes.ext (List.append_cancel_right tails)

/-- The nullifier of a full trace is the owner's exactly if the commitment
columns are canonical or the two preimages collide. -/
theorem nullifier_eq_iff {height : Nat} (full : 4118 <= height)
    (satisfied : (⟨candidate, binds⟩ : Poseidon2P24OwnershipAir).Satisfies height trace
      publicValues) (holds : HoldsSpend (trace 0).witness key note leafPosition) :
    publicValues.nullifier = candidate.hashNullifierPreimage
        (makeNullifierPreimage key note (candidate.hashNote note) leafPosition) <->
      (trace 0).witness.CanonicalCommitment ∨
        Collides candidate.hashNullifierPreimage (trace 0).witness.heldPreimage
          (makeNullifierPreimage key note (candidate.hashNote note) leafPosition) := by
  rcases opens_of_satisfies full satisfied holds with ⟨static, commitment, opening, opens⟩
  have encodes : EncodesDigest commitment.toList 0 (candidate.hashNote note) := by
    intro lane
    rw [← opens.noteDigest, static.commitment lane, Nat.zero_add,
      fourBytesExpression_eq opening.commitment.extend_eq]
  have canonical : (trace 0).witness.CanonicalCommitment <->
      commitment = digestBytes (candidate.hashNote note) := by
    rw [eq_digestBytes_iff encodes]
    exact forall_congr' (fun lane => by rw [opening.commitmentGroup_eq])
  rw [canonical, opening.heldPreimage_eq, opens.nullifier]
  constructor
  · intro same
    rcases eq_or_collides _ same with equal | collides
    · exact Or.inl (nullifierPreimage_injective equal)
    · exact Or.inr collides
  · intro condition
    rcases condition with equal | collides
    · rw [equal]
      rfl
    · exact collides.2

end

/-! ## A note with two nullifiers -/

/-- The bytes of numbers of four bytes. -/
def groupBytes (values : List Nat) : List UInt8 := values.flatMap (littleEndian 4)

/-- Numbers of four bytes stand for the lanes they denote in the field. -/
theorem encodesDigest_groupBytes {values} (sixteen : values.length = 16)
    (fits : forall value, value ∈ values -> value < 256 ^ 4) :
    EncodesDigest (groupBytes values) 0 (ofLanes values) := by
  intro lane
  have within : lane.val < values.length := by omega
  have group := group_flatMap (length_littleEndian 4) values within
  rw [Nat.zero_add, groupBytes, group,
    ofLittleEndian_littleEndian (fits _ (List.getElem_mem within)), ofLanes,
    List.getD_eq_getElem _ _ within]

theorem encodesDigest_append {left middle right digest} (sixteen : middle.length = 64)
    (encodes : EncodesDigest middle 0 digest) :
    EncodesDigest (left ++ (middle ++ right)) left.length digest := by
  intro lane
  have isLane := encodes lane
  rw [Nat.zero_add] at isLane
  rw [isLane, ← List.drop_drop, List.drop_left, List.drop_append_of_le_length (by omega),
    List.take_append_of_le_length (by rw [List.length_drop]; omega)]

/-- Lanes that agree modulo the modulus. -/
theorem ofLanes_congr {left right} (same : forall lane, lane < 16 ->
      left.getD lane 0 % babyBearModulus = right.getD lane 0 % babyBearModulus) :
    (ofLanes left : Digest) = ofLanes right := by
  funext lane
  exact (ZMod.natCast_eq_natCast_iff' _ _ _).mpr (same lane.val lane.isLt)

def testKey : Bytes 32 :=
  ⟨(List.range 32).map (fun index => UInt8.ofNat (index * 13 + 3)), by simp⟩

/-- The address of the key. -/
def testAddress : List Nat :=
    [383192749, 840331358, 126607466, 1260709520, 856290799, 1239655522, 1892007830, 161098568,
      1795135778, 1196319660, 922377903, 1964921644, 1874083380, 230221057, 1577960944,
      1969465136]

def syntheticBytes (start count : Nat) : List UInt8 :=
  (List.range' start count).map (fun index => UInt8.ofNat (index * 19 + 7))

def testNote : Bytes 178 :=
  ⟨[0, 1] ++ syntheticBytes 2 48 ++ (groupBytes testAddress ++ syntheticBytes 114 64),
    by decide +kernel⟩

/-- The commitment of the note. -/
def testCommitment : List Nat :=
    [1728779669, 1257222213, 86575608, 853199623, 1677170709, 55719257, 669270601, 1966174742,
      1130496286, 1677480674, 83608194, 604471816, 252319715, 867677618, 1390615705, 475095879]

/-- The commitment with the modulus added to its last lane. -/
def otherCommitment : List Nat :=
    [1728779669, 1257222213, 86575608, 853199623, 1677170709, 55719257, 669270601, 1966174742,
      1130496286, 1677480674, 83608194, 604471816, 252319715, 867677618, 1390615705, 2488361800]

def testCommitmentBytes : Bytes 64 := ⟨groupBytes testCommitment, by decide⟩

def otherCommitmentBytes : Bytes 64 := ⟨groupBytes otherCommitment, by decide⟩

def testPosition : UInt32 := 0x89abcdef

def testSiblings : Fin 32 -> Digest :=
  fun level lane => ((level.val + 1) * 101 + lane.val + 1 : Nat)

theorem hashAddr_testKey : loadCandidate.hashAddr testKey = ofLanes testAddress := by
  have evaluated : candidateTables.evalDigest (candidateTables.noteIv .addr)
      (bytePack3le testKey.toList) 1 = testAddress := by decide +kernel
  have digest := candidateTables.hashBytes_eq_evalDigest .addr testKey.toList
  rw [testKey.length_toList, evaluated] at digest
  exact digest

theorem hashNote_testNote : loadCandidate.hashNote testNote = ofLanes testCommitment := by
  have evaluated : candidateTables.evalDigest (candidateTables.noteIv .note)
      (bytePack3le testNote.toList) 4 = testCommitment := by decide +kernel
  have digest := candidateTables.hashBytes_eq_evalDigest .note testNote.toList
  rw [testNote.length_toList, evaluated] at digest
  exact digest

theorem ownedNote_testNote : OwnedNote loadCandidate testKey testNote := by
  refine ⟨by decide, by decide, ?_⟩
  rw [hashAddr_testKey]
  exact @encodesDigest_append ([0, 1] ++ syntheticBytes 2 48) _ _ _ (by decide)
    (encodesDigest_groupBytes (by decide) (by decide))

theorem encodes_testCommitmentBytes :
    EncodesDigest testCommitmentBytes.toList 0 (loadCandidate.hashNote testNote) := by
  rw [hashNote_testNote]
  exact encodesDigest_groupBytes (by decide) (by decide)

theorem encodes_otherCommitmentBytes :
    EncodesDigest otherCommitmentBytes.toList 0 (loadCandidate.hashNote testNote) := by
  rw [hashNote_testNote, show (ofLanes testCommitment : Digest) = ofLanes otherCommitment from
    ofLanes_congr (by decide)]
  exact encodesDigest_groupBytes (by decide) (by decide)

/-- The witness of a spend of the note with some bytes for its commitment. -/
def testWitness (commitment : Bytes 64) : OwnershipWitness :=
  openingWitness loadCandidate testKey testNote testPosition testSiblings commitment

def testTrace (commitment : Bytes 64) : Nat -> OwnershipRow :=
  rowOf ⟨loadCandidate, true⟩ (testWitness commitment)

def testPublicValues (commitment : Bytes 64) : OwnershipPublicValues :=
  openingPublicValues loadCandidate testKey testNote testPosition testSiblings commitment

theorem satisfies_testTrace {commitment}
    (encodes : EncodesDigest commitment.toList 0 (loadCandidate.hashNote testNote)) :
    (⟨loadCandidate, true⟩ : Poseidon2P24OwnershipAir).Satisfies 8192 (testTrace commitment)
      (testPublicValues commitment) :=
  satisfies_openingWitness testPosition testSiblings ownedNote_testNote encodes true 8192

theorem holdsSpend_testTrace (commitment : Bytes 64) :
    HoldsSpend (testTrace commitment 0).witness testKey testNote testPosition := by
  have holds := holdsOpening_openingWitness loadCandidate testKey testNote testPosition
    testSiblings commitment
  exact ⟨holds.key, holds.note, holds.position⟩

theorem canonical_openingWitness (siblings : Fin 32 -> Digest) : (openingWitness loadCandidate
    testKey testNote testPosition siblings testCommitmentBytes).CanonicalCommitment := by
  intro lane
  have opening := holdsOpening_openingWitness loadCandidate testKey testNote testPosition siblings
    testCommitmentBytes
  have below : forall lane : Fin 16, ofLittleEndian
      ((testCommitmentBytes.toList.drop (lane.val * 4)).take 4) < babyBearModulus := by decide
  exact (opening.commitmentGroup_eq lane).trans_lt (below lane)

theorem nullifiers_differ : (testPublicValues testCommitmentBytes).nullifier ≠
    (testPublicValues otherCommitmentBytes).nullifier := by
  have different : (candidateTables.evalDigest (candidateTables.noteIv .nullifier)
      (bytePack3le (nullifierPreimage testKey testNote testCommitmentBytes
        (positionBytes testPosition)).toList) 3).getD 0 0 % babyBearModulus ≠
      (candidateTables.evalDigest (candidateTables.noteIv .nullifier)
        (bytePack3le (nullifierPreimage testKey testNote otherCommitmentBytes
          (positionBytes testPosition)).toList) 3).getD 0 0 % babyBearModulus := by
    decide +kernel
  intro same
  have digest (commitment : Bytes 64) := candidateTables.hashBytes_eq_evalDigest .nullifier
    (nullifierPreimage testKey testNote commitment (positionBytes testPosition)).toList
  have first := congrArg (fun digest : Digest => digest 0)
    ((digest testCommitmentBytes).symm.trans (same.trans (digest otherCommitmentBytes)))
  simp only [Bytes.length_toList] at first
  exact different ((ZMod.natCast_eq_natCast_iff' _ _ _).mp first)

/-- Two full traces that spend one note at one position both show the nullifier
that the owner computes exactly if, in each of them, the commitment columns are
canonical or the hash collides on what they hold. -/
theorem nullifiers_agree_iff (candidate : Poseidon2P24Candidate) {leftBinds rightBinds : Bool}
    {left right : Nat -> OwnershipRow} {leftValues rightValues : OwnershipPublicValues}
    {key : Bytes 32} {note : Bytes 178} {leafPosition : UInt32}
    (leftSatisfied : (⟨candidate, leftBinds⟩ : Poseidon2P24OwnershipAir).Satisfies 8192 left
      leftValues)
    (rightSatisfied : (⟨candidate, rightBinds⟩ : Poseidon2P24OwnershipAir).Satisfies 8192 right
      rightValues)
    (leftHolds : HoldsSpend (left 0).witness key note leafPosition)
    (rightHolds : HoldsSpend (right 0).witness key note leafPosition) :
    (leftValues.nullifier = rightValues.nullifier /\
        leftValues.nullifier = candidate.hashNullifierPreimage
          (makeNullifierPreimage key note (candidate.hashNote note) leafPosition)) <->
      ((left 0).witness.CanonicalCommitment ∨
        Collides candidate.hashNullifierPreimage (left 0).witness.heldPreimage
          (makeNullifierPreimage key note (candidate.hashNote note) leafPosition)) /\
      ((right 0).witness.CanonicalCommitment ∨
        Collides candidate.hashNullifierPreimage (right 0).witness.heldPreimage
          (makeNullifierPreimage key note (candidate.hashNote note) leafPosition)) := by
  rw [← nullifier_eq_iff (by decide) leftSatisfied leftHolds,
    ← nullifier_eq_iff (by decide) rightSatisfied rightHolds]
  constructor
  · intro agree
    exact ⟨agree.2, agree.1.symm.trans agree.2⟩
  · intro both
    exact ⟨both.1.trans both.2.symm, both.1⟩

/-- The owner of the test note can show a second nullifier for it, under the
same root and the same commitment. -/
theorem testNote_has_two_nullifiers :
    (⟨loadCandidate, true⟩ : Poseidon2P24OwnershipAir).Satisfies 8192
        (testTrace testCommitmentBytes) (testPublicValues testCommitmentBytes) /\
      (⟨loadCandidate, true⟩ : Poseidon2P24OwnershipAir).Satisfies 8192
        (testTrace otherCommitmentBytes) (testPublicValues otherCommitmentBytes) /\
      HoldsSpend (testTrace testCommitmentBytes 0).witness testKey testNote testPosition /\
      HoldsSpend (testTrace otherCommitmentBytes 0).witness testKey testNote testPosition /\
      (testPublicValues testCommitmentBytes).root =
        (testPublicValues otherCommitmentBytes).root /\
      (testPublicValues testCommitmentBytes).noteCommitment =
        (testPublicValues otherCommitmentBytes).noteCommitment /\
      (testPublicValues testCommitmentBytes).nullifier ≠
        (testPublicValues otherCommitmentBytes).nullifier :=
  ⟨satisfies_testTrace encodes_testCommitmentBytes,
    satisfies_testTrace encodes_otherCommitmentBytes, holdsSpend_testTrace testCommitmentBytes,
    holdsSpend_testTrace otherCommitmentBytes, rfl, rfl, nullifiers_differ⟩

/-- In two trees that hold the test note at one position it has one nullifier. -/
theorem testNote_nullifiers_agree :
    let values := openingPublicValues loadCandidate testKey testNote testPosition (fun _ => 0)
      testCommitmentBytes
    (testPublicValues testCommitmentBytes).nullifier = values.nullifier /\
      (testPublicValues testCommitmentBytes).nullifier = loadCandidate.hashNullifierPreimage
        (makeNullifierPreimage testKey testNote (loadCandidate.hashNote testNote)
          testPosition) := by
  have opening := holdsOpening_openingWitness loadCandidate testKey testNote testPosition
    (fun _ => 0) testCommitmentBytes
  apply (nullifiers_agree_iff loadCandidate (satisfies_testTrace encodes_testCommitmentBytes)
    (satisfies_openingWitness testPosition (fun _ => 0) ownedNote_testNote
      encodes_testCommitmentBytes false 8192) (holdsSpend_testTrace testCommitmentBytes)
    ⟨opening.key, opening.note, opening.position⟩).mpr
  exact ⟨Or.inl (canonical_openingWitness testSiblings), Or.inl (canonical_openingWitness _)⟩

end Noxis.Privacy
