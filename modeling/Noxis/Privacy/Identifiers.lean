import Noxis.Privacy.Poseidon2

namespace Noxis.Privacy

open Foundation

/-!
# Public values of private transfers

Commitments, nullifiers, roots and digests are published as 64 bytes that hold
sixteen field elements, four bytes each and least significant byte first.  Only
canonical elements are accepted, so a published value and its elements determine
each other.  The values are one family, indexed by what they stand for.
-/

def digestBytes (digest : Digest) : Bytes 64 where
  toList := (List.ofFn digest).flatMap (fun value => littleEndian 4 value.val)
  length_toList := by simp

/-- Sixteen groups of four bytes stand for the lanes of a digest.  A group may
exceed the modulus. -/
def EncodesDigest (bytes : List UInt8) (offset : Nat) (digest : Digest) : Prop :=
  forall lane : Fin 16,
    digest lane = (ofLittleEndian ((bytes.drop (offset + lane.val * 4)).take 4) : Val)

theorem group_digestBytes (digest : Digest) (lane : Fin 16) :
    ((digestBytes digest).toList.drop (lane.val * 4)).take 4 =
      littleEndian 4 (digest lane).val := by
  have within : lane.val < (List.ofFn digest).length := by simp
  have group := group_flatMap (fun value : Val => length_littleEndian 4 value.val)
    (List.ofFn digest) within
  rw [List.getElem_ofFn] at group
  exact group

/-- A group of canonical bytes denotes the lane. -/
theorem ofLittleEndian_group_digestBytes (digest : Digest) (lane : Fin 16) :
    ofLittleEndian (((digestBytes digest).toList.drop (lane.val * 4)).take 4) =
      (digest lane).val := by
  have small : (digest lane).val < 256 ^ 4 := Nat.lt_trans (ZMod.val_lt _) (by decide)
  rw [group_digestBytes, ofLittleEndian_littleEndian small]

theorem encodesDigest_digestBytes (digest : Digest) :
    EncodesDigest (digestBytes digest).toList 0 digest := by
  intro lane
  rw [Nat.zero_add, ofLittleEndian_group_digestBytes, ZMod.natCast_zmod_val]

/-- Among the bytes that stand for a digest, the canonical ones are those whose
groups are below the modulus. -/
theorem eq_digestBytes_iff {bytes digest} (encodes : EncodesDigest bytes.toList 0 digest) :
    bytes = digestBytes digest <-> forall lane : Fin 16,
      ofLittleEndian ((bytes.toList.drop (lane.val * 4)).take 4) < babyBearModulus := by
  constructor
  · intro isCanonical lane
    rw [isCanonical, ofLittleEndian_group_digestBytes]
    exact ZMod.val_lt _
  · intro below
    apply Bytes.ext
    apply @eq_of_groups 4 16 _ _ bytes.length_toList (digestBytes digest).length_toList
    intro index within
    have lane := encodes ⟨index, within⟩
    have value := congrArg ZMod.val lane
    rw [Nat.zero_add, ZMod.val_natCast, Nat.mod_eq_of_lt (below ⟨index, within⟩)] at value
    have length : ((bytes.toList.drop (index * 4)).take 4).length = 4 := by
      rw [List.length_take, List.length_drop, bytes.length_toList]
      omega
    rw [group_digestBytes digest ⟨index, within⟩, value]
    have inverse := littleEndian_ofLittleEndian ((bytes.toList.drop (index * 4)).take 4)
    rw [length] at inverse
    exact inverse.symm

/-- What a public field vector stands for. -/
inductive VectorKind where
  | ciphertextDigest
  | intentCommitment
  | noteCommitment
  | nullifier
  | merkleRoot
  | nullifierSparseRoot
deriving DecidableEq

inductive PrivacyTypesError where
  | invalidIntentLength (actual expected : Nat)
  | duplicateInputNullifier
  | nonCanonicalInputNullifierOrder
  | duplicateOutputCommitment
  | nonCanonicalOutputCommitmentOrder
  | nonCanonicalBabyBearElement (index : Nat) (value : Nat)
deriving DecidableEq, Repr

/-- Sixteen 32-bit numbers, canonical or not. -/
abbrev BabyBearDigest : Type := Fin 16 -> UInt32

def elementAt (bytes : Bytes 64) (index : Fin 16) : Nat :=
  ofLittleEndian ((bytes.toList.drop (index.val * 4)).take 4)

/-- Sixty-four bytes that hold sixteen canonical elements. -/
@[ext]
structure CanonicalVector (kind : VectorKind) where
  bytes : Bytes 64
  canonical : forall index, elementAt bytes index < babyBearModulus

abbrev CiphertextDigestV2 := CanonicalVector .ciphertextDigest
abbrev PrivateTransferIntentCommitmentV2 := CanonicalVector .intentCommitment
abbrev NoteCommitmentV2 := CanonicalVector .noteCommitment
abbrev NullifierV2 := CanonicalVector .nullifier
abbrev MerkleRootV2 := CanonicalVector .merkleRoot
abbrev NullifierSparseRootV1 := CanonicalVector .nullifierSparseRoot

namespace CanonicalVector

variable {kind : VectorKind}

theorem bytes_injective : Function.Injective (@bytes kind) :=
  fun _ _ same => CanonicalVector.ext same

instance : LinearOrder (CanonicalVector kind) :=
  LinearOrder.lift' bytes bytes_injective

def firstNonCanonical (element : Fin 16 -> Nat) : Option (Fin 16) :=
  (List.finRange 16).find? (fun index => babyBearModulus <= element index)

theorem firstNonCanonical_eq_none {element} :
    firstNonCanonical element = none <-> forall index, element index < babyBearModulus := by
  simp only [firstNonCanonical, List.find?_eq_none, List.mem_finRange, true_implies,
    decide_eq_true_eq, Nat.not_le]

def new (bytes : Bytes 64) : Except PrivacyTypesError (CanonicalVector kind) :=
  match found : firstNonCanonical (elementAt bytes) with
  | some index => .error (.nonCanonicalBabyBearElement index.val (elementAt bytes index))
  | none => .ok ⟨bytes, firstNonCanonical_eq_none.mp found⟩

theorem new_eq_ok {bytes : Bytes 64} {vector : CanonicalVector kind} :
    new bytes = .ok vector <-> vector.bytes = bytes := by
  unfold new
  constructor
  · intro made
    split at made
    · cases made
    · rw [← Except.ok.inj made]
  · intro same
    subst same
    split
    · rename_i index found
      rw [firstNonCanonical_eq_none.mpr vector.canonical] at found
      cases found
    · rfl

/-- The vector that holds the lanes of a digest. -/
def ofDigest (digest : Digest) : CanonicalVector kind where
  bytes := digestBytes digest
  canonical index := by
    rw [elementAt, ofLittleEndian_group_digestBytes]
    exact ZMod.val_lt _

/-- The lanes as field elements. -/
def digest (vector : CanonicalVector kind) : Digest := fun index => elementAt vector.bytes index

@[simp] theorem digest_ofDigest (digest : Digest) :
    (ofDigest digest : CanonicalVector kind).digest = digest := by
  funext index
  rw [CanonicalVector.digest, elementAt, ofDigest, ofLittleEndian_group_digestBytes,
    ZMod.natCast_zmod_val]

@[simp] theorem ofDigest_digest (vector : CanonicalVector kind) :
    ofDigest vector.digest = vector := by
  apply CanonicalVector.ext
  symm
  apply (eq_digestBytes_iff _).mpr vector.canonical
  intro lane
  rw [Nat.zero_add]
  rfl

theorem digest_injective : Function.Injective (@digest kind) :=
  Function.LeftInverse.injective ofDigest_digest

/-- The elements as 32-bit numbers. -/
def elements (vector : CanonicalVector kind) : BabyBearDigest :=
  fun index => UInt32.ofNat (elementAt vector.bytes index)

theorem toNat_elements (vector : CanonicalVector kind) (index : Fin 16) :
    (vector.elements index).toNat = elementAt vector.bytes index := by
  rw [elements, UInt32.toNat_ofNat', Nat.mod_eq_of_lt]
  exact Nat.lt_trans (vector.canonical index) (by decide)

end CanonicalVector

/-- The elements of an array in the field. -/
def BabyBearDigest.toDigest (elements : BabyBearDigest) : Digest :=
  fun index => ((elements index).toNat : Val)

namespace CanonicalVector

def fromElements (elements : BabyBearDigest) : Except PrivacyTypesError (CanonicalVector kind) :=
  match firstNonCanonical (fun index => (elements index).toNat) with
  | some index => .error (.nonCanonicalBabyBearElement index.val (elements index).toNat)
  | none => .ok (ofDigest elements.toDigest)

theorem toDigest_elements (vector : CanonicalVector kind) :
    vector.elements.toDigest = vector.digest := by
  funext index
  rw [BabyBearDigest.toDigest, toNat_elements]
  rfl

theorem fromElements_eq_ok {elements : BabyBearDigest} {vector : CanonicalVector kind} :
    fromElements elements = .ok vector <-> vector.elements = elements := by
  have canonical (vector : CanonicalVector kind) :
      firstNonCanonical (fun index => (vector.elements index).toNat) = none := by
    apply firstNonCanonical_eq_none.mpr
    intro index
    rw [toNat_elements]
    exact vector.canonical index
  unfold fromElements
  constructor
  · intro made
    split at made
    · cases made
    rename_i found
    have below := firstNonCanonical_eq_none.mp found
    rw [← Except.ok.inj made]
    funext index
    apply UInt32.toNat_inj.mp
    rw [toNat_elements, elementAt, ofDigest, ofLittleEndian_group_digestBytes,
      BabyBearDigest.toDigest, ZMod.val_natCast, Nat.mod_eq_of_lt (below index)]
  · intro same
    subst same
    rw [canonical, toDigest_elements, ofDigest_digest]

end CanonicalVector
end Noxis.Privacy
