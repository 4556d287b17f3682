import Noxis.Privacy.NullifierBinding

namespace Noxis.Privacy

open Foundation

/-!
# The height of an ownership proof

The verifier takes the height of a trace from the proof.  The digests are
compared on the rows that end the phases, and the last of these is row 4117, so
a lower trace leaves a part of the public values uncompared.  A trace of at most
128 rows ends before the commitment is first compared with the hash of the note,
and such traces exist for all public values.
-/

/-- A proof is accepted for public values when its trace satisfies the constraints.  The
trace has a power of two of rows; a hiding proof declares one bit more than its trace. -/
def VerifiesOwnership (air : Poseidon2P24OwnershipAir) (heightBits : Nat)
    (publicValues : OwnershipPublicValues) : Prop :=
  ∃ trace, air.Satisfies (2 ^ heightBits) trace publicValues

/-- The note, the key, the position and the siblings that a witness holds open
the commitment and the root. -/
def OpensPublicValues (candidate : Poseidon2P24Candidate) (witness : OwnershipWitness)
    (publicValues : OwnershipPublicValues) : Prop :=
  ∃ (note : Bytes 178) (key : Bytes 32) (leafPosition : UInt32) (siblings : Fin 32 -> Digest),
    HoldsSpend witness key note leafPosition /\ witness.merkleSiblings = siblings /\
      publicValues.noteCommitment = candidate.hashNote note /\
      publicValues.root = candidate.pathValue (candidate.leaf (candidate.hashNote note))
        leafPosition siblings 32

theorem positionBytes_surjective (bytes : Bytes 4) :
    ∃ leafPosition, positionBytes leafPosition = bytes := by
  have bound := ofBigEndian_lt bytes.toList
  rw [bytes.length_toList] at bound
  refine ⟨UInt32.ofNat (ofBigEndian bytes.toList), ?_⟩
  apply Bytes.ext
  have sameNumber : (UInt32.ofNat (ofBigEndian bytes.toList)).toNat = ofBigEndian bytes.toList := by
    rw [UInt32.toNat_ofNat']
    exact Nat.mod_eq_of_lt bound
  apply ofBigEndian_injective
  · rw [Bytes.length_toList, Bytes.length_toList]
  · rw [positionBytes, sameNumber, ofBigEndian_bigEndian bound]

theorem positionBytes_injective : Function.Injective positionBytes := by
  intro left right same
  have number (leafPosition : UInt32) :
      ofBigEndian (positionBytes leafPosition).toList = leafPosition.toNat :=
    ofBigEndian_bigEndian leafPosition.toNat_lt
  apply UInt32.toNat_inj.mp
  rw [← number left, ← number right, same]

theorem exists_holdsSpend {witness} (static : witness.Static) :
    ∃ key note leafPosition, HoldsSpend witness key note leafPosition := by
  rcases HoldsBytes.exists_of_holdsByte static.key with ⟨key, holdsKey⟩
  rcases HoldsBytes.exists_of_holdsByte static.note with ⟨note, holdsNote⟩
  rcases HoldsBytes.exists_of_holdsByte static.position with ⟨position, holdsPosition⟩
  rcases positionBytes_surjective position with ⟨leafPosition, isPosition⟩
  subst isPosition
  exact ⟨key, note, leafPosition, holdsKey, holdsNote, holdsPosition⟩

theorem opensPublicValues_of_satisfies {candidate} {height : Nat} {trace publicValues}
    (full : 4118 <= height)
    (satisfied : (⟨candidate, true⟩ : Poseidon2P24OwnershipAir).Satisfies height trace
      publicValues) : OpensPublicValues candidate (trace 0).witness publicValues := by
  have compares := comparesDigests_of_satisfies (by omega) satisfied
  rcases exists_holdsSpend compares.static with ⟨key, note, leafPosition, holds⟩
  rcases opens_of_satisfies full satisfied holds with ⟨_, commitment, _, opens⟩
  refine ⟨note, key, leafPosition, (trace 0).witness.merkleSiblings, holds, rfl, ?_, opens.root_eq⟩
  rw [← compares.boundNoteCommitment rfl, opens.noteDigest]

section
variable (candidate : Poseidon2P24Candidate)

def zeroKey : Bytes 32 := .replicate 32 0

/-- A note that belongs to a key. -/
def ownNote (key : Bytes 32) : Bytes 178 where
  toList := ([0, 1] ++ List.replicate 48 0) ++
    ((digestBytes (candidate.hashAddr key)).toList ++ List.replicate 64 0)
  length_toList := by simp [Bytes.length_toList]

theorem ownedNote_ownNote (key : Bytes 32) : OwnedNote candidate key (ownNote candidate key) := by
  refine ⟨rfl, rfl, ?_⟩
  exact @encodesDigest_append ([0, 1] ++ List.replicate 48 0) _ _ _ (Bytes.length_toList _)
    (encodesDigest_digestBytes (candidate.hashAddr key))

/-- An opening with no siblings but zeros. -/
def ownWitness : OwnershipWitness :=
  openingWitness candidate zeroKey (ownNote candidate zeroKey) 0 (fun _ _ => 0)
    (digestBytes (candidate.hashNote (ownNote candidate zeroKey)))

def ownPublicValues : OwnershipPublicValues :=
  openingPublicValues candidate zeroKey (ownNote candidate zeroKey) 0 (fun _ _ => 0)
    (digestBytes (candidate.hashNote (ownNote candidate zeroKey)))

/-- The same public values with another last lane of the root. -/
def forgedRoot : OwnershipPublicValues :=
  { ownPublicValues candidate with
    root := Function.update (ownPublicValues candidate).root 15
      ((ownPublicValues candidate).root 15 + 1) }

theorem comparesDigests_forgedRoot {height : Nat} (low : height <= 4117) :
    ComparesDigests ⟨candidate, true⟩ (ownWitness candidate) height (forgedRoot candidate) := by
  have compares := comparesDigests_openingWitness 0 (fun _ _ => 0)
    (ownedNote_ownNote candidate zeroKey)
    (encodesDigest_digestBytes (candidate.hashNote (ownNote candidate zeroKey))) true height
  refine ⟨compares.static, compares.recipient, compares.note, compares.boundNoteCommitment,
    compares.nullifier, compares.treeLeaf, ?_⟩
  intro level levelWithin
  have node := compares.nodes level levelWithin
  by_cases isTop : level + 1 = 32
  · have top : level = 31 := by omega
    subst top
    rw [if_pos isTop] at node ⊢
    constructor
    · intro reached lane
      have other : lane.castLE (by decide : 15 <= 16) ≠ 15 := by
        intro same
        have value := congrArg Fin.val same
        have bound := lane.isLt
        change lane.val = 15 at value
        omega
      exact (node.rate reached lane).trans (Function.update_of_ne other _ _).symm
    · intro reached
      exact absurd reached (by unfold nodePhase; omega)
  · rw [if_neg isTop] at node ⊢
    exact node

theorem not_opensPublicValues_forgedRoot :
    ¬ OpensPublicValues candidate (ownWitness candidate) (forgedRoot candidate) := by
  intro opens
  rcases opens with ⟨note, key, leafPosition, siblings, holds, sameSiblings, _, isRoot⟩
  have own := holdsOpening_openingWitness candidate zeroKey (ownNote candidate zeroKey) 0
    (fun _ _ => 0) (digestBytes (candidate.hashNote (ownNote candidate zeroKey)))
  have sameNote := HoldsBytes.unique cast_byte_injective holds.note own.note
  have samePosition := positionBytes_injective
    (HoldsBytes.unique cast_byte_injective holds.position own.position)
  have zeroSiblings : siblings = fun _ _ => 0 := sameSiblings.symm
  have isOwn : (ownPublicValues candidate).root =
      candidate.pathValue (candidate.leaf (candidate.hashNote note)) leafPosition siblings 32 := by
    rw [sameNote, samePosition, zeroSiblings, ownPublicValues, openingPublicValues]
  have forged : (forgedRoot candidate).root 15 = (ownPublicValues candidate).root 15 + 1 := by
    simp only [forgedRoot, Function.update_self]
  have lane := congrFun (isRoot.trans isOwn.symm) 15
  rw [forged] at lane
  exact one_ne_zero (add_eq_left.mp lane)

theorem satisfies_forgedRoot {height : Nat} (low : height <= 4117) :
    (⟨candidate, true⟩ : Poseidon2P24OwnershipAir).Satisfies height
      (rowOf ⟨candidate, true⟩ (ownWitness candidate)) (forgedRoot candidate) :=
  satisfies_of_follows (fun row _ => rowFollows_rowOf row) (comparesDigests_forgedRoot candidate low)

/-- A witness whose commitment columns hold any commitment. -/
def freeWitness (noteCommitment : Digest) : OwnershipWitness :=
  { ownWitness candidate with
    noteCommitmentBytes := byteColumns (digestBytes noteCommitment)
    noteCommitmentBits := bitColumns (digestBytes noteCommitment)
    noteDigest := noteCommitment }

theorem static_freeWitness (noteCommitment : Digest) :
    (freeWitness candidate noteCommitment).Static := by
  have own := static_openingWitness 0 (fun _ _ => 0) (ownedNote_ownNote candidate zeroKey)
    (encodesDigest_digestBytes (candidate.hashNote (ownNote candidate zeroKey)))
  refine ⟨own.key, own.note, own.position, holdsByte_columns (digestBytes noteCommitment),
    own.versionHigh, own.versionLow, own.recipient, ?_⟩
  intro lane
  have holds : HoldsBytes (freeWitness candidate noteCommitment).noteCommitmentBytes
      (digestBytes noteCommitment) := holdsBytes_byteColumns _
  have isLane := encodesDigest_digestBytes noteCommitment lane
  rw [Nat.zero_add] at isLane
  rw [fourBytesExpression_eq holds.extend_eq]
  exact isLane

/-- A trace that ends before row 173 compares no public value but the bound
commitment, and that one only with its own columns. -/
theorem satisfies_freeWitness {height : Nat} (low : height <= 173)
    (publicValues : OwnershipPublicValues) :
    (⟨candidate, true⟩ : Poseidon2P24OwnershipAir).Satisfies height
      (rowOf ⟨candidate, true⟩ (freeWitness candidate publicValues.noteCommitment))
      publicValues := by
  have unreached {finalBlockPhase squeezePhase : Nat} {digest : Digest}
      (blockLater : 5 <= finalBlockPhase) (squeezeLater : 5 <= squeezePhase) :
      DigestAtEnd ⟨candidate, true⟩ (freeWitness candidate publicValues.noteCommitment) height
        finalBlockPhase squeezePhase digest :=
    ⟨fun reached => absurd reached (by omega), fun reached => absurd reached (by omega)⟩
  have opening : HoldsOpening (freeWitness candidate publicValues.noteCommitment) zeroKey
      (ownNote candidate zeroKey) (positionBytes 0) (digestBytes publicValues.noteCommitment) :=
    ⟨holdsBytes_byteColumns _, holdsBytes_byteColumns _, holdsBytes_byteColumns _,
      holdsBytes_byteColumns _⟩
  have recipient : DigestAtEnd ⟨candidate, true⟩
      (freeWitness candidate publicValues.noteCommitment) 4118 0 1 (candidate.hashAddr zeroKey) := by
    apply (digestAtEnd_iff (hashesAt_addr _ _) (by decide)).mpr
    rw [opening.domainElement_addr, ← Poseidon2P24Candidate.hashAddr_eq]
  apply satisfies_of_follows (fun row _ => rowFollows_rowOf row)
  refine ⟨static_freeWitness candidate publicValues.noteCommitment, ?_,
    unreached (by decide) (by decide), fun _ => rfl, unreached (by decide) (by decide),
    unreached (by decide) (by decide), ?_⟩
  · exact ⟨fun reached => recipient.rate (by omega), fun reached => recipient.last (by omega)⟩
  · intro level _
    apply unreached
    · unfold nodePhase
      omega
    · unfold nodePhase
      omega

end

/-- Every satisfied trace of a height opens its public values exactly if that height
reaches all phases. -/
theorem satisfied_traces_open_iff (candidate : Poseidon2P24Candidate) (heightBits : Nat) :
    (forall trace publicValues,
      (⟨candidate, true⟩ : Poseidon2P24OwnershipAir).Satisfies (2 ^ heightBits) trace publicValues ->
        OpensPublicValues candidate (trace 0).witness publicValues) <->
      8192 <= 2 ^ heightBits := by
  constructor
  · intro allOpen
    by_contra low
    have small : heightBits <= 12 := by
      by_contra large
      have grown : 2 ^ 13 <= 2 ^ heightBits := Nat.pow_le_pow_right (by decide) (by omega)
      exact low grown
    have height : 2 ^ heightBits <= 2 ^ 12 := Nat.pow_le_pow_right (by decide) small
    exact not_opensPublicValues_forgedRoot candidate
      (allOpen _ _ (satisfies_forgedRoot candidate (height.trans (by decide))))
  · intro full trace publicValues satisfied
    exact opensPublicValues_of_satisfies (by omega) satisfied

/-- With the parameters of the repository a proof of 128 rows is accepted for all
public values, and a proof of 4096 rows for a root that the opening it holds does
not have. -/
theorem low_traces_verify_forgeries :
    (forall publicValues, VerifiesOwnership ⟨loadCandidate, true⟩ 7 publicValues) /\
      (⟨loadCandidate, true⟩ : Poseidon2P24OwnershipAir).Satisfies (2 ^ 12)
        (rowOf ⟨loadCandidate, true⟩ (ownWitness loadCandidate)) (forgedRoot loadCandidate) /\
      ¬ OpensPublicValues loadCandidate (ownWitness loadCandidate) (forgedRoot loadCandidate) :=
  ⟨fun publicValues => ⟨_, satisfies_freeWitness loadCandidate (by decide) publicValues⟩,
    satisfies_forgedRoot loadCandidate (by decide),
    not_opensPublicValues_forgedRoot loadCandidate⟩

end Noxis.Privacy
