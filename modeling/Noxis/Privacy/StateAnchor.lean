import Noxis.Privacy.NullifierProofs
import Noxis.Privacy.PrivateState
import Noxis.Privacy.Transfer

namespace Noxis.Privacy

open Foundation

/-!
# Anchors of the private state

An anchor names one private state: the note root, the root and the size of the
nullifier tree, and the identity that hashes all of them.  It is made from a
snapshot and a tree, and only if the tree has the size and the root of a tree
that is rebuilt from the snapshot.  Equal roots mean equal sets of spent
nullifiers, or the two trees show a collision.
-/

variable {candidate : Poseidon2P24Candidate} {reference : NullifierSparseTreeReferenceV1}

/-- The identity of the sparse-tree candidate. -/
def nullifierSparseCandidateId : CandidatePoseidon2P24NullifierSparseIdV1 where
  bytes := ⟨[23, 106, 134, 140, 133, 95, 60, 197, 33, 191, 21, 51, 137, 168, 62, 3, 180, 174, 38,
    252, 66, 106, 51, 4, 202, 237, 89, 236, 116, 135, 154, 241], rfl⟩

inductive PrivateStateAnchorError where
  | genesisMismatch
  | validationContextMismatch
  | treeParametersMismatch
  | noteRootMismatch
  | stateIdMismatch
deriving DecidableEq, Repr

inductive PrivateStateAnchorV2Error where
  | sparseTree (reason : NullifierSparseTreeStateError)
  | spentCountMismatch (snapshot tree : Nat)
  | nullifierRootMismatch
deriving DecidableEq

structure PrivateStateAnchorV2 where
  genesisId : GenesisId
  validationContextId : ValidationContextId
  noteTreeParameters : TreeParametersV2
  nullifierTreeCandidate : CandidatePoseidon2P24NullifierSparseIdV1
  nextLeafIndex : Nat
  noteRoot : MerkleRootV2
  spentNullifierCount : Nat
  nullifierRoot : NullifierSparseRootV1
  stateId : StateId
  bounded : nextLeafIndex <= candidatePrivateStateMaxNotes
deriving DecidableEq

namespace PrivateStateAnchorV2

/-- The framed fields, without the identity. -/
def encode (anchor : PrivateStateAnchorV2) : List UInt8 :=
  utf8 "NXPS" ++ bigEndian 2 2 ++ [0, 0] ++ anchor.genesisId.bytes.toList ++
    anchor.validationContextId.bytes.toList ++ anchor.noteTreeParameters.id.bytes.toList ++
    [anchor.noteTreeParameters.depth] ++ [2] ++ [1] ++ anchor.nullifierTreeCandidate.bytes.toList ++
    bigEndian 2 512 ++ [1] ++ [1] ++ [0] ++ bigEndian 8 anchor.nextLeafIndex ++
    anchor.noteRoot.bytes.toList ++ bigEndian 8 anchor.spentNullifierCount ++
    anchor.nullifierRoot.bytes.toList

end PrivateStateAnchorV2

/-- Mark nullifiers in turn, and stop at the first failure. -/
def markAll (reference : NullifierSparseTreeReferenceV1) :
    List NullifierV2 -> EStateM NullifierSparseTreeStateError NullifierSparseTreeStateV1 Unit
  | [] => pure ()
  | nullifier :: rest => do
      let _ ← NullifierSparseTreeStateV1.markSpent reference nullifier
      markAll reference rest

variable {state : NullifierSparseTreeStateV1} {spent : Finset NullifierV2}
  {nullifiers : List NullifierV2}

theorem StoresSet.markAll (stores : StoresSet reference state spent) (distinct : nullifiers.Nodup)
    (fresh : forall nullifier, nullifier ∈ nullifiers -> nullifier ∉ spent) :
    ∃ next, markAll reference nullifiers state = .ok () next /\
      StoresSet reference next (spent ∪ nullifiers.toFinset) := by
  induction nullifiers generalizing state spent with
  | nil =>
    rw [List.toFinset_nil, Finset.union_empty]
    exact ⟨state, rfl, stores⟩
  | cons nullifier rest ih =>
    have parts := List.nodup_cons.mp distinct
    have isFresh := fresh nullifier List.mem_cons_self
    have marked := stores.markSpent_eq nullifier
    rw [if_neg isFresh] at marked
    rcases ih (stores.insert_path isFresh) parts.2 (by
      intro other member inserted
      rcases Finset.mem_insert.mp inserted with same | member'
      · rw [same] at member
        exact parts.1 member
      · exact fresh other (List.mem_cons_of_mem _ member) member') with ⟨next, done, nextStores⟩
    refine ⟨next, ?_, ?_⟩
    · rw [Privacy.markAll, bind_of_ok marked]
      exact done
    · rw [List.toFinset_cons, Finset.union_insert, ← Finset.insert_union]
      exact nextStores

/-- Marking succeeds only on fresh and distinct nullifiers. -/
theorem StoresSet.of_markAll_eq_ok {next} (stores : StoresSet reference state spent)
    (done : Privacy.markAll reference nullifiers state = .ok () next) :
    (nullifiers.Nodup /\ forall nullifier, nullifier ∈ nullifiers -> nullifier ∉ spent) /\
      StoresSet reference next (spent ∪ nullifiers.toFinset) := by
  induction nullifiers generalizing state spent with
  | nil =>
    cases done
    rw [List.toFinset_nil, Finset.union_empty]
    exact ⟨⟨List.nodup_nil, fun _ member => absurd member List.not_mem_nil⟩, stores⟩
  | cons nullifier rest ih =>
    rcases bind_eq_ok.mp done with ⟨update, middle, marked, later⟩
    rw [stores.markSpent_eq] at marked
    by_cases member : nullifier ∈ spent
    · rw [if_pos member] at marked
      cases marked
    rw [if_neg member] at marked
    cases marked
    rcases ih (stores.insert_path member) later with ⟨⟨distinct, fresh⟩, nextStores⟩
    refine ⟨⟨List.nodup_cons.mpr ⟨?_, distinct⟩, ?_⟩, ?_⟩
    · intro repeated
      exact fresh nullifier repeated (Finset.mem_insert_self _ _)
    · intro other listed
      rcases List.mem_cons.mp listed with same | listed
      · rw [same]
        exact member
      · intro old
        exact fresh other listed (Finset.mem_insert_of_mem old)
    · rw [List.toFinset_cons, Finset.union_insert, ← Finset.insert_union]
      exact nextStores

/-- The root of a tree that has the size and the root of the snapshot's tree. -/
def verifySnapshotTree (reference : NullifierSparseTreeReferenceV1)
    (snapshot : CandidatePrivateStateSnapshotV1 candidate) (tree : NullifierSparseTreeStateV1) :
    Except PrivateStateAnchorV2Error NullifierSparseRootV1 :=
  if tree.spentCount ≠ snapshot.spentNullifiers.length then
    .error (.spentCountMismatch snapshot.spentNullifiers.length tree.spentCount)
  else
    match markAll reference snapshot.spentNullifiers .newCandidate with
    | .error reason _ => .error (.sparseTree reason)
    | .ok _ rebuilt =>
      if tree.root reference ≠ rebuilt.root reference then .error .nullifierRootMismatch
      else .ok (tree.root reference)

theorem exists_markAll_snapshot (snapshot : CandidatePrivateStateSnapshotV1 candidate) :
    ∃ rebuilt, markAll reference snapshot.spentNullifiers .newCandidate = .ok () rebuilt /\
      StoresSet reference rebuilt snapshot.spentSet := by
  rcases (storesSet_newCandidate reference).markAll (snapshot.sorted.imp (fun before => before.ne))
    (fun _ _ => Finset.notMem_empty _) with ⟨rebuilt, done, stores⟩
  rw [Finset.empty_union] at stores
  exact ⟨rebuilt, done, stores⟩

theorem verifySnapshotTree_eq_ok {snapshot : CandidatePrivateStateSnapshotV1 candidate}
    {tree : NullifierSparseTreeStateV1} {root : NullifierSparseRootV1} :
    verifySnapshotTree reference snapshot tree = .ok root <->
      tree.spentCount = snapshot.spentNullifiers.length /\
      tree.root reference = completeRoot reference snapshot.spentSet /\
      tree.root reference = root := by
  rcases @exists_markAll_snapshot _ reference snapshot with ⟨rebuilt, done, stores⟩
  rw [verifySnapshotTree, done, Except.refuse_eq_ok, not_not]
  dsimp only
  rw [Except.refuse_eq_ok, not_not, Except.ok.injEq, stores.root_eq]

namespace PrivateStateAnchorV2

variable [Sha256]

def new (reference : NullifierSparseTreeReferenceV1) (genesisId : GenesisId)
    (validationContextId : ValidationContextId) (noteTreeParameters : TreeParametersV2)
    (snapshot : CandidatePrivateStateSnapshotV1 candidate) (tree : NullifierSparseTreeStateV1) :
    Except PrivateStateAnchorV2Error PrivateStateAnchorV2 := do
  let nullifierRoot ← verifySnapshotTree reference snapshot tree
  let anchor : PrivateStateAnchorV2 := {
    genesisId, validationContextId, noteTreeParameters
    nullifierTreeCandidate := nullifierSparseCandidateId
    nextLeafIndex := snapshot.commitments.length
    noteRoot := snapshot.root
    spentNullifierCount := tree.spentCount
    nullifierRoot
    stateId := ⟨Bytes.replicate 32 0⟩
    bounded := snapshot.bounded }
  .ok { anchor with
    stateId := ⟨Sha256.digest (utf8 "NOXIS/PRIVATE-STATE-ID/V2\x00" ++ anchor.encode)⟩ }

omit [Sha256] in
/-- Refuse an intent that does not start from this state. -/
def assertMatchesIntent (anchor : PrivateStateAnchorV2) (intent : PrivateTransferIntentV2) :
    Except PrivateStateAnchorError Unit :=
  if intent.genesisId ≠ anchor.genesisId then .error .genesisMismatch
  else if intent.validationContextId ≠ anchor.validationContextId then
    .error .validationContextMismatch
  else if intent.treeParameters ≠ anchor.noteTreeParameters then .error .treeParametersMismatch
  else if intent.preStateRoot ≠ anchor.noteRoot then .error .noteRootMismatch
  else if intent.preStateId ≠ anchor.stateId then .error .stateIdMismatch
  else .ok ()

end PrivateStateAnchorV2

section
variable [Sha256] {genesisId : GenesisId} {validationContextId : ValidationContextId}
  {noteTreeParameters : TreeParametersV2} {snapshot : CandidatePrivateStateSnapshotV1 candidate}
  {tree : NullifierSparseTreeStateV1} {anchor : PrivateStateAnchorV2}

/-- An anchor repeats the roots and sizes of its snapshot and tree. -/
structure AnchorsState (reference : NullifierSparseTreeReferenceV1)
    (snapshot : CandidatePrivateStateSnapshotV1 candidate) (tree : NullifierSparseTreeStateV1)
    (anchor : PrivateStateAnchorV2) : Prop where
  nextLeafIndex : anchor.nextLeafIndex = snapshot.commitments.length
  noteRoot : anchor.noteRoot = .ofDigest (candidate.noteTreeRoot snapshot.commitments)
  spentNullifierCount : anchor.spentNullifierCount = snapshot.spentNullifiers.length
  nullifierRoot : anchor.nullifierRoot = completeRoot reference snapshot.spentSet
  sameRoot : tree.root reference = anchor.nullifierRoot
  sameCount : tree.spentCount = anchor.spentNullifierCount

variable (made : PrivateStateAnchorV2.new reference genesisId validationContextId
  noteTreeParameters snapshot tree = .ok anchor)

include made in
theorem anchorsState_of_new : AnchorsState reference snapshot tree anchor := by
  rcases Except.bind_eq_ok.mp made with ⟨root, verified, isAnchor⟩
  rcases verifySnapshotTree_eq_ok.mp verified with ⟨sameCount, complete, isRoot⟩
  rw [← Except.ok.inj isAnchor]
  constructor
  case nextLeafIndex => rfl
  case noteRoot => exact snapshot.root_eq
  case spentNullifierCount => exact sameCount
  case nullifierRoot => exact isRoot.symm.trans complete
  case sameRoot => exact isRoot
  case sameCount => rfl

include made in
/-- An anchor keeps the identities it is made with. -/
theorem identities_of_new :
    anchor.genesisId = genesisId /\ anchor.validationContextId = validationContextId /\
      anchor.noteTreeParameters = noteTreeParameters := by
  rcases Except.bind_eq_ok.mp made with ⟨root, _, isAnchor⟩
  rw [← Except.ok.inj isAnchor]
  exact ⟨rfl, rfl, rfl⟩

include made in
theorem nullifierTreeCandidate_of_new :
    anchor.nullifierTreeCandidate = nullifierSparseCandidateId := by
  rcases Except.bind_eq_ok.mp made with ⟨root, _, isAnchor⟩
  rw [← Except.ok.inj isAnchor]

/-- A tree of the snapshot's nullifiers is accepted. -/
theorem exists_new_of_storesSet (stores : StoresSet reference tree snapshot.spentSet) :
    ∃ anchor, PrivateStateAnchorV2.new reference genesisId validationContextId noteTreeParameters
      snapshot tree = .ok anchor := by
  have verified := verifySnapshotTree_eq_ok.mpr
    ⟨stores.count.trans snapshot.card_spentSet, stores.root_eq, rfl⟩
  exact ⟨_, Except.bind_eq_ok.mpr ⟨_, verified, rfl⟩⟩

end

/-- A nullifier for which one tree proves inclusion and the other absence, with
two inputs of one hash among those that the proofs hash. -/
def TreesCollide (reference : NullifierSparseTreeReferenceV1)
    (including excluding : NullifierSparseTreeStateV1) : Prop :=
  ∃ nullifier, including.isSpent nullifier = true /\ excluding.isSpent nullifier = false /\
    CollisionBetween (treeHash reference)
      (inclusionInputs reference nullifier (including.prove reference nullifier))
      (absenceInputs reference nullifier (excluding.prove reference nullifier))

variable {left right : NullifierSparseTreeStateV1} {leftSpent rightSpent : Finset NullifierV2}

theorem StoresSet.treesCollide (leftStores : StoresSet reference left leftSpent)
    (rightStores : StoresSet reference right rightSpent)
    (sameRoot : left.root reference = right.root reference) {nullifier}
    (inLeft : nullifier ∈ leftSpent) (notInRight : nullifier ∉ rightSpent) :
    TreesCollide reference left right := by
  have included := leftStores.verifyInclusion_prove inLeft
  rw [sameRoot] at included
  refine ⟨nullifier, leftStores.isSpent_iff.mpr inLeft, ?_,
    collision_of_contradiction included (rightStores.verifyAbsence_prove notInRight)⟩
  apply Bool.eq_false_iff.mpr
  intro isSpent
  exact notInRight (rightStores.isSpent_iff.mp isSpent)

/-- Trees with one root hold one set, or they collide. -/
theorem StoresSet.eq_or_collide (leftStores : StoresSet reference left leftSpent)
    (rightStores : StoresSet reference right rightSpent)
    (sameRoot : left.root reference = right.root reference) :
    leftSpent = rightSpent ∨ TreesCollide reference left right ∨
      TreesCollide reference right left := by
  by_cases leftSubset : leftSpent ⊆ rightSpent
  · by_cases rightSubset : rightSpent ⊆ leftSpent
    · exact Or.inl (Finset.Subset.antisymm leftSubset rightSubset)
    · rcases Finset.not_subset.mp rightSubset with ⟨nullifier, inRight, notInLeft⟩
      exact Or.inr (Or.inr (rightStores.treesCollide leftStores sameRoot.symm inRight notInLeft))
  · rcases Finset.not_subset.mp leftSubset with ⟨nullifier, inLeft, notInRight⟩
    exact Or.inr (Or.inl (leftStores.treesCollide rightStores sameRoot inLeft notInRight))

end Noxis.Privacy
