import Noxis.Foundation.Collections
import Noxis.Foundation.OrderedLists
import Noxis.Foundation.SparseTree
import Noxis.Privacy.Identifiers

namespace Noxis.Privacy

open Foundation

/-!
# Snapshots of the private state

A snapshot is the list of note commitments in the order of their positions, the
sorted list of spent nullifiers and the root of the note tree.  The root is
computed level by level from a map of occupied nodes, and it is the root of the
complete tree of 32 levels over the listed commitments.
-/

def candidatePrivateStateMaxNotes : Nat := 1024

namespace Poseidon2P24Candidate

variable (candidate : Poseidon2P24Candidate)

def nodePair (pair : Digest × Digest) : Digest := candidate.node pair.1 pair.2

/-- The hash of an empty subtree of each height. -/
def emptyValues (height : Nat) : Digest := emptyAt candidate.nodePair candidate.emptyBase height

/-- The occupied nodes above a level. -/
def raiseLevel (emptyValue : Digest) (nodes : Table Nat Digest) : Table Nat Digest :=
  insertAll ∅ ((sortedList (nodes.keys.image (fun index => index / 2))).map (fun parent =>
    (parent, candidate.node ((nodes.lookup (2 * parent)).getD emptyValue)
      ((nodes.lookup (2 * parent + 1)).getD emptyValue))))

def leafNodes (commitments : List NoteCommitmentV2) : Table Nat Digest :=
  insertAll ∅ (commitments.zipIdx.map (fun entry => (entry.2, candidate.leaf entry.1.digest)))

/-- The occupied nodes at each height. -/
def levelNodes (commitments : List NoteCommitmentV2) : Nat -> Table Nat Digest
  | 0 => candidate.leafNodes commitments
  | height + 1 =>
    candidate.raiseLevel (candidate.emptyValues height) (levelNodes commitments height)

def rootForCommitments (commitments : List NoteCommitmentV2) : Digest :=
  if commitments = [] then candidate.emptyValues 32
  else ((candidate.levelNodes commitments 32).lookup 0).getD (candidate.emptyValues 32)

def noteLeaf (commitments : List NoteCommitmentV2) (position : Nat) : Digest :=
  (commitments.map (fun commitment => candidate.leaf commitment.digest)).getD position
    candidate.emptyBase

/-- The root of the complete note tree of 32 levels. -/
def noteTreeRoot (commitments : List NoteCommitmentV2) : Digest :=
  nodeAt candidate.nodePair (candidate.noteLeaf commitments) 32 0

variable {commitments : List NoteCommitmentV2}

theorem noteLeaf_of_le {position : Nat} (outside : commitments.length <= position) :
    candidate.noteLeaf commitments position = candidate.emptyBase :=
  List.getD_eq_default _ _ (by rwa [List.length_map])

variable {height index : Nat}

/-- A node without an occupied leaf below it. -/
theorem nodeAt_of_unoccupied (unoccupied : commitments.length <= index * 2 ^ height) :
    nodeAt candidate.nodePair (candidate.noteLeaf commitments) height index =
      candidate.emptyValues height := by
  apply nodeAt_eq_emptyAt
  intro position isBelow
  apply noteLeaf_of_le
  rw [← isBelow] at unoccupied
  exact Nat.le_trans unoccupied (Nat.div_mul_le_self _ _)

/-- A level holds the nodes that have an occupied leaf below them. -/
def HoldsLevel (commitments : List NoteCommitmentV2) (height : Nat) (nodes : Table Nat Digest) :
    Prop :=
  forall index value, nodes.lookup index = some value <->
    index * 2 ^ height < commitments.length /\
      nodeAt candidate.nodePair (candidate.noteLeaf commitments) height index = value

variable {candidate} {commitments : List NoteCommitmentV2}
  {nodes : Table Nat Digest}

theorem HoldsLevel.getD_lookup (holds : candidate.HoldsLevel commitments height nodes)
    (index : Nat) :
    (nodes.lookup index).getD (candidate.emptyValues height) =
      nodeAt candidate.nodePair (candidate.noteLeaf commitments) height index := by
  cases found : nodes.lookup index with
  | some value => exact ((holds index value).mp found).2.symm
  | none =>
    symm
    apply nodeAt_of_unoccupied
    apply Nat.not_lt.mp
    intro occupied
    rw [(holds index _).mpr ⟨occupied, rfl⟩] at found
    cases found

theorem HoldsLevel.mem_keys (holds : candidate.HoldsLevel commitments height nodes) :
    index ∈ nodes.keys <-> index * 2 ^ height < commitments.length := by
  rw [Finmap.mem_keys, Finmap.mem_iff]
  constructor
  · intro stored
    rcases stored with ⟨value, found⟩
    exact ((holds index value).mp found).1
  · intro occupied
    exact ⟨_, (holds index _).mpr ⟨occupied, rfl⟩⟩

theorem holdsLevel_leafNodes (candidate : Poseidon2P24Candidate)
    (commitments : List NoteCommitmentV2) :
    candidate.HoldsLevel commitments 0 (candidate.leafNodes commitments) := by
  have increasing : (commitments.zipIdx.map (fun entry =>
      (entry.2, candidate.leaf entry.1.digest))).Pairwise (fun left right => left.1 < right.1) := by
    simp [List.pairwise_iff_getElem]
  intro index value
  rw [leafNodes, lookup_insertAll increasing]
  simp only [List.mem_map, Prod.mk.injEq, Prod.exists, Finmap.lookup_empty, reduceCtorEq, false_and,
    or_false, List.mem_zipIdx_iff_getElem?, Nat.pow_zero, Nat.mul_one, nodeAt]
  constructor
  · grind [noteLeaf]
  grind [noteLeaf]

/-- Raising a level keeps exactly the parents of occupied nodes. -/
theorem HoldsLevel.raiseLevel (holds : candidate.HoldsLevel commitments height nodes) :
    candidate.HoldsLevel commitments (height + 1)
      (candidate.raiseLevel (candidate.emptyValues height) nodes) := by
  have parents {parent : Nat} : parent ∈ nodes.keys.image (fun index => index / 2) <->
      parent * 2 ^ (height + 1) < commitments.length := by
    have double : parent * 2 ^ (height + 1) = 2 * parent * 2 ^ height := by
      rw [Nat.pow_succ]
      ring
    rw [Finset.mem_image, double]
    constructor
    · intro isParent
      rcases isParent with ⟨index, stored, rfl⟩
      have smaller : 2 * (index / 2) <= index := Nat.mul_div_le index 2
      exact Nat.lt_of_le_of_lt (Nat.mul_le_mul_right _ smaller) (holds.mem_keys.mp stored)
    · intro occupied
      exact ⟨2 * parent, holds.mem_keys.mpr occupied, by omega⟩
  have increasing (value : Nat -> Digest) :
      ((sortedList (nodes.keys.image (fun index => index / 2))).map (fun parent =>
        (parent, value parent))).Pairwise (fun left right => left.1 < right.1) := by
    rw [List.pairwise_map]
    exact pairwise_sortedList _
  intro parent value
  rw [Poseidon2P24Candidate.raiseLevel, lookup_insertAll (increasing _)]
  simp only [holds.getD_lookup, List.mem_map, mem_sortedList, Prod.mk.injEq, Finmap.lookup_empty,
    reduceCtorEq, false_and, or_false, parents]
  constructor
  · intro listed
    rcases listed with ⟨index, occupied, rfl, isValue⟩
    exact ⟨occupied, isValue⟩
  · intro occupied
    exact ⟨parent, occupied.1, rfl, occupied.2⟩

theorem holdsLevel_levelNodes (candidate : Poseidon2P24Candidate)
    (commitments : List NoteCommitmentV2) (height : Nat) :
    candidate.HoldsLevel commitments height (candidate.levelNodes commitments height) := by
  induction height with
  | zero => exact holdsLevel_leafNodes candidate commitments
  | succ height ih => exact ih.raiseLevel

theorem rootForCommitments_eq (candidate : Poseidon2P24Candidate)
    (commitments : List NoteCommitmentV2) :
    candidate.rootForCommitments commitments = candidate.noteTreeRoot commitments := by
  unfold rootForCommitments noteTreeRoot
  by_cases isEmpty : commitments = []
  · simp [nodeAt_of_unoccupied, *]
  · rw [if_neg isEmpty, (holdsLevel_levelNodes candidate commitments 32).getD_lookup]

end Poseidon2P24Candidate

inductive CandidatePrivateStateError where
  | tooManyCommitments (count : Nat)
  | duplicateCommitment
  | duplicateNullifier
deriving DecidableEq, Repr

/-- The commitments in order, the sorted spent nullifiers and the note root. -/
@[ext]
structure CandidatePrivateStateSnapshotV1 (candidate : Poseidon2P24Candidate) where
  commitments : List NoteCommitmentV2
  spentNullifiers : List NullifierV2
  root : MerkleRootV2
  bounded : commitments.length <= candidatePrivateStateMaxNotes
  distinct : commitments.Nodup
  sorted : spentNullifiers.Pairwise (· < ·)
  isRoot : root = .ofDigest (candidate.rootForCommitments commitments)

/-- Sorted nullifiers without equal neighbours ascend. -/
theorem pairwise_lt_of_anyNeighbours {nullifiers : List NullifierV2}
    (different : anyNeighbours (fun left right => decide (left = right))
      (nullifiers.insertionSort (· <= ·)) = false) :
    (nullifiers.insertionSort (· <= ·)).Pairwise (· < ·) := by
  have ordered := List.pairwise_insertionSort (· <= ·) nullifiers
  have chained := anyNeighbours_eq_false.mp different
  rw [List.isChain_iff_getElem] at chained
  apply List.isChain_iff_pairwise.mp
  apply List.isChain_iff_getElem.mpr
  intro index within
  have before := List.pairwise_iff_getElem.mp ordered index (index + 1) (by omega) within
    (Nat.lt_succ_self index)
  grind

namespace CandidatePrivateStateSnapshotV1

variable {candidate : Poseidon2P24Candidate}

def new (commitments : List NoteCommitmentV2) (spentNullifiers : List NullifierV2) :
    Except CandidatePrivateStateError (CandidatePrivateStateSnapshotV1 candidate) :=
  if tooMany : candidatePrivateStateMaxNotes < commitments.length then
    .error (.tooManyCommitments commitments.length)
  else if repeated : commitments.toFinset.card ≠ commitments.length then
    .error .duplicateCommitment
  else
    let sorted := spentNullifiers.insertionSort (· <= ·)
    if same : anyNeighbours (fun left right => decide (left = right)) sorted = true then
      .error .duplicateNullifier
    else
      .ok {
        commitments
        spentNullifiers := sorted
        root := .ofDigest (candidate.rootForCommitments commitments)
        bounded := Nat.not_lt.mp tooMany
        distinct := Multiset.toFinset_card_eq_card_iff_nodup.mp (not_not.mp repeated)
        sorted := pairwise_lt_of_anyNeighbours (Bool.eq_false_iff.mpr same)
        isRoot := rfl }

variable {commitments : List NoteCommitmentV2} {spentNullifiers : List NullifierV2}

theorem of_new_eq_ok {snapshot : CandidatePrivateStateSnapshotV1 candidate}
    (made : new commitments spentNullifiers = .ok snapshot) :
    snapshot.commitments = commitments /\ snapshot.spentNullifiers.Perm spentNullifiers := by
  unfold new at made
  split at made
  · cases made
  split at made
  · cases made
  dsimp only at made
  split at made
  · cases made
  · rw [← Except.ok.inj made]
    exact ⟨rfl, List.perm_insertionSort _ _⟩

/-- Distinct commitments within the bound and distinct nullifiers are accepted. -/
theorem exists_new (bounded : commitments.length <= candidatePrivateStateMaxNotes)
    (distinct : commitments.Nodup) (distinctSpent : spentNullifiers.Nodup) :
    ∃ snapshot : CandidatePrivateStateSnapshotV1 candidate,
      new commitments spentNullifiers = .ok snapshot := by
  have different : ¬ anyNeighbours (fun left right => decide (left = right))
      (spentNullifiers.insertionSort (· <= ·)) = true := by
    rw [Bool.not_eq_true, anyNeighbours_eq_false]
    grind [List.perm_insertionSort]
  unfold new
  rw [dif_neg (Nat.not_lt.mpr bounded),
    dif_neg (not_not.mpr (List.toFinset_card_of_nodup distinct))]
  dsimp only
  rw [dif_neg different]
  exact ⟨_, rfl⟩

def spentSet (snapshot : CandidatePrivateStateSnapshotV1 candidate) : Finset NullifierV2 :=
  snapshot.spentNullifiers.toFinset

theorem card_spentSet (snapshot : CandidatePrivateStateSnapshotV1 candidate) :
    snapshot.spentSet.card = snapshot.spentNullifiers.length :=
  List.toFinset_card_of_nodup (snapshot.sorted.imp (fun before => before.ne))

theorem root_eq (snapshot : CandidatePrivateStateSnapshotV1 candidate) :
    snapshot.root = .ofDigest (candidate.noteTreeRoot snapshot.commitments) := by
  rw [snapshot.isRoot, Poseidon2P24Candidate.rootForCommitments_eq]

end CandidatePrivateStateSnapshotV1
end Noxis.Privacy
