import Noxis.Foundation.PerfectTree
import Noxis.Foundation.Stateful
import Noxis.Types

namespace Noxis.Merkle

open Foundation

/-!
# The fixed-depth commitment tree

The tree stores the appended commitments and recomputes its root on demand.
Occupied leaves, empty leaves and internal nodes are hashed in separate
domains.  Depth and capacity are fields of the tree: it is created only by
`MerkleTree.new`, which checks the depth, and grows only by
`MerkleTree.append`, which checks the capacity.
-/

def minDepth : UInt8 := 1
def maxDepth : UInt8 := 32
def maxCommitments : Nat := 1048576

inductive MerkleError where
  | invalidDepth (depth minimum maximum : UInt8)
  | treeFull (capacity : Nat)
  | leafIndexOutOfRange (index : UInt32) (occupiedLeaves : Nat)
  | proofDepthMismatch (rootDepth proofDepth : UInt8)
  | indexOverflow
deriving DecidableEq

def validateDepth (depth : UInt8) : Except MerkleError Unit :=
  if minDepth <= depth /\ depth <= maxDepth then .ok ()
  else .error (.invalidDepth depth minDepth maxDepth)

theorem validateDepth_eq_ok {depth} :
    validateDepth depth = .ok () <-> minDepth <= depth /\ depth <= maxDepth := by
  unfold validateDepth
  by_cases valid : minDepth <= depth /\ depth <= maxDepth
  · simp only [if_pos valid, true_iff]
    exact valid
  · simp only [if_neg valid, reduceCtorEq, false_iff]
    exact valid

/-- The structural capacity of a depth, cut off at the resource limit. -/
def maximumLeafCount (depth : UInt8) : Nat :=
  min (2 ^ depth.toNat) maxCommitments

theorem maximumLeafCount_le_pow (depth : UInt8) : maximumLeafCount depth <= 2 ^ depth.toNat :=
  Nat.min_le_left _ _

theorem maximumLeafCount_lt_index (depth : UInt8) : maximumLeafCount depth < 2 ^ 32 :=
  Nat.lt_of_le_of_lt (Nat.min_le_right _ _) (by decide)

abbrev Hash := Bytes 32

def leafDomain : List UInt8 := utf8 "NOXIS/MERKLE/V1/LEAF"
def emptyLeafDomain : List UInt8 := utf8 "NOXIS/MERKLE/V1/EMPTY_LEAF"
def nodeDomain : List UInt8 := utf8 "NOXIS/MERKLE/V1/NODE"

def leafInput (commitment : Commitment) : List UInt8 :=
  leafDomain ++ commitment.bytes.toList

def nodeInput (children : Hash × Hash) : List UInt8 :=
  nodeDomain ++ (children.1.toList ++ children.2.toList)

theorem leafInput_injective : Function.Injective leafInput := by
  intro left right same
  exact Identifier.bytes_injective (Bytes.toList_injective (List.append_cancel_left same))

theorem nodeInput_injective : Function.Injective nodeInput := by
  intro left right same
  have children := List.append_inj (List.append_cancel_left same)
    (left.1.length_toList.trans right.1.length_toList.symm)
  grind [Bytes.toList_injective]

/-- An occupied leaf is longer than the empty one, whatever it commits to. -/
theorem leafInput_ne_emptyLeafDomain (commitment : Commitment) :
    leafInput commitment ≠ emptyLeafDomain := by
  intro same
  have lengths := congrArg List.length same
  rw [leafInput, List.length_append, commitment.bytes.length_toList] at lengths
  exact absurd lengths (by decide)

section
variable [Sha256]

def hashLeaf (commitment : Commitment) : Hash :=
  Sha256.digest (leafInput commitment)

def hashEmptyLeaf : Hash :=
  Sha256.digest emptyLeafDomain

def hashNode (children : Hash × Hash) : Hash :=
  Sha256.digest (nodeInput children)

/-- The hash of an empty subtree of a height, the source's `empty_hashes`. -/
def emptyHash (height : Nat) : Hash :=
  emptyAt hashNode hashEmptyLeaf height

/-- The level above a level of even length. -/
def parentLevel (children : List Hash) : List Hash :=
  (pairUp children).map hashNode

/-- The levels of the tree from the occupied leaves upwards.  Before each
step an odd level is padded with the empty hash of its height. -/
def levelAt (commitments : List Commitment) (height : Nat) : List Hash :=
  (List.range height).foldl
    (fun level below => parentLevel (padEven (emptyHash below) level)) (commitments.map hashLeaf)

def rootFromCommitments (depth : UInt8) (commitments : List Commitment) : Hash :=
  if commitments.isEmpty then emptyHash depth.toNat
  else (levelAt commitments depth.toNat).headD (emptyHash depth.toNat)

theorem levelAt_eq_climb (commitments : List Commitment) (height : Nat) :
    levelAt commitments height =
      climb hashNode hashEmptyLeaf (commitments.map hashLeaf) height := rfl

/-- The leaves of the complete tree: occupied ones first, empty ones after. -/
def paddedLeaf (commitments : List Commitment) (position : Nat) : Hash :=
  (commitments.map hashLeaf).getD position hashEmptyLeaf

/-- The computed root is the root of the complete padded tree. -/
theorem rootFromCommitments_eq_nodeAt (depth : UInt8) (commitments : List Commitment) :
    rootFromCommitments depth commitments =
      nodeAt hashNode (paddedLeaf commitments) depth.toNat 0 := by
  have level := climb_getD hashNode hashEmptyLeaf (commitments.map hashLeaf) depth.toNat 0
  change _ = nodeAt hashNode (paddedLeaf commitments) depth.toNat 0 at level
  rw [← level, rootFromCommitments, levelAt_eq_climb]
  cases commitments with
  | nil =>
    have empty : climb hashNode hashEmptyLeaf [] depth.toNat = [] := by
      induction depth.toNat with
      | zero => rfl
      | succ height ih =>
        rw [climb_succ, ih]
        rfl
    rw [List.map_nil, empty]
    rfl
  | cons first rest =>
    rw [List.isEmpty_cons, if_neg Bool.false_ne_true]
    cases climb hashNode hashEmptyLeaf ((first :: rest).map hashLeaf) depth.toNat <;> rfl

/-- Every byte string hashed while the root is computed. -/
def rootInputs (depth : UInt8) (commitments : List Commitment) : List (List UInt8) :=
  emptyLeafDomain :: (commitments.map leafInput ++
    (emptyPairs hashNode hashEmptyLeaf depth.toNat ++
      climbPairs hashNode hashEmptyLeaf (commitments.map hashLeaf) depth.toNat).map nodeInput)

variable {depth : UInt8}

theorem leafInput_mem_rootInputs {commitments commitment} (member : commitment ∈ commitments) :
    leafInput commitment ∈ rootInputs depth commitments :=
  List.mem_cons_of_mem _ (List.mem_append_left _ (List.mem_map_of_mem member))

theorem emptyLeafDomain_mem_rootInputs (depth : UInt8) (commitments : List Commitment) :
    emptyLeafDomain ∈ rootInputs depth commitments :=
  List.mem_cons_self

variable {left right : List Commitment}

/-- Two padded leaves that agree come from the same occupied or empty
position, up to a collision of their inputs. -/
private theorem getElem?_eq_of_paddedLeaf_eq {position : Nat}
    (same : paddedLeaf left position = paddedLeaf right position) :
    left[position]? = right[position]? ∨
      CollisionBetween Sha256.digest (rootInputs depth left) (rootInputs depth right) := by
  simp only [paddedLeaf, List.getD_eq_getElem?_getD, List.getElem?_map] at same
  cases leftLeaf : left[position]? with
  | none =>
    cases rightLeaf : right[position]? with
    | none => exact Or.inl rfl
    | some commitment =>
      rw [leftLeaf, rightLeaf] at same
      exact Or.inr ⟨_, emptyLeafDomain_mem_rootInputs depth left, _,
        leafInput_mem_rootInputs (List.mem_of_getElem? rightLeaf),
        (leafInput_ne_emptyLeafDomain commitment).symm, same⟩
  | some commitment =>
    cases rightLeaf : right[position]? with
    | none =>
      rw [leftLeaf, rightLeaf] at same
      exact Or.inr ⟨_, leafInput_mem_rootInputs (List.mem_of_getElem? leftLeaf), _,
        emptyLeafDomain_mem_rootInputs depth right,
        leafInput_ne_emptyLeafDomain commitment, same⟩
    | some other =>
      rw [leftLeaf, rightLeaf] at same
      rcases eq_or_collides Sha256.digest same with equal | collides
      · exact Or.inl (congrArg some (leafInput_injective equal))
      · exact Or.inr ⟨_, leafInput_mem_rootInputs (List.mem_of_getElem? leftLeaf), _,
          leafInput_mem_rootInputs (List.mem_of_getElem? rightLeaf), collides⟩

/-- The root determines the ordered commitments, their number included.  The
leaf count is not hashed; it is recovered from the padding. -/
theorem commitments_eq_of_root_eq (leftFits : left.length <= 2 ^ depth.toNat)
    (rightFits : right.length <= 2 ^ depth.toNat)
    (same : rootFromCommitments depth left = rootFromCommitments depth right) :
    left = right ∨
      CollisionBetween Sha256.digest (rootInputs depth left) (rootInputs depth right) := by
  rw [rootFromCommitments_eq_nodeAt, rootFromCommitments_eq_nodeAt] at same
  rcases leaves_eq_of_root_eq hashNode hashEmptyLeaf (left.map hashLeaf) (right.map hashLeaf)
      depth.toNat same with leaves | collision
  · by_cases collision : CollisionBetween Sha256.digest (rootInputs depth left)
        (rootInputs depth right)
    · exact Or.inr collision
    · refine Or.inl (List.ext_getElem? (fun position => ?_))
      by_cases inside : position < 2 ^ depth.toNat
      · exact (getElem?_eq_of_paddedLeaf_eq (leaves position inside)).resolve_right collision
      grind
  · refine Or.inr ((CollisionBetween.map nodeInput_injective collision).mono ?_ ?_)
    · exact fun input member => List.mem_cons_of_mem _ (List.mem_append_right _ member)
    · exact fun input member => List.mem_cons_of_mem _ (List.mem_append_right _ member)

end

/-! ## The append-only tree -/

/-- A root digest together with the depth it belongs to. -/
structure MerkleRoot where
  digest : Hash
  depth : UInt8
deriving DecidableEq

@[ext]
structure MerkleTree where
  depth : UInt8
  commitments : List Commitment
  depthValid : minDepth <= depth /\ depth <= maxDepth
  withinCapacity : commitments.length <= maximumLeafCount depth

namespace MerkleTree

def new (depth : UInt8) : Except MerkleError MerkleTree :=
  match checked : validateDepth depth with
  | .ok _ => .ok ⟨depth, [], validateDepth_eq_ok.mp checked, Nat.zero_le _⟩
  | .error reason => .error reason

def len (tree : MerkleTree) : Nat := tree.commitments.length

def capacity (tree : MerkleTree) : Nat := maximumLeafCount tree.depth

/-- Append one commitment and return its index. -/
def append (commitment : Commitment) : EStateM MerkleError MerkleTree UInt32 := fun tree =>
  if room : tree.len < tree.capacity then
    if tree.len < 2 ^ 32 then
      .ok (UInt32.ofNat tree.len)
        { tree with
          commitments := tree.commitments ++ [commitment]
          withinCapacity := by
            rw [List.length_append, List.length_singleton]
            exact room }
    else .error .indexOverflow tree
  else .error (.treeFull tree.capacity) tree

variable [Sha256]

def root (tree : MerkleTree) : MerkleRoot :=
  ⟨rootFromCommitments tree.depth tree.commitments, tree.depth⟩

end MerkleTree

namespace MerkleTree

variable {tree : MerkleTree}

/-- The constructor returns exactly the empty trees. -/
theorem new_eq_ok {depth} :
    new depth = .ok tree <-> tree.depth = depth /\ tree.commitments = [] := by
  unfold new
  constructor
  · grind
  · rintro ⟨rfl, empty⟩
    split
    · exact congrArg Except.ok (MerkleTree.ext rfl empty.symm)
    grind [validateDepth_eq_ok, depthValid]

variable {next : MerkleTree}

theorem capacity_of_depth (sameDepth : next.depth = tree.depth) : next.capacity = tree.capacity :=
  congrArg maximumLeafCount sameDepth

theorem len_of_appended {commitment}
    (leaves : next.commitments = tree.commitments ++ [commitment]) : next.len = tree.len + 1 := by
  rw [len, leaves, List.length_append, List.length_singleton]
  rfl

theorem len_le_pow (tree : MerkleTree) : tree.commitments.length <= 2 ^ tree.depth.toNat :=
  Nat.le_trans tree.withinCapacity (maximumLeafCount_le_pow tree.depth)

/-- With room left an append succeeds; the index conversion never fails. -/
theorem append_of_room (commitment : Commitment) (room : tree.len < tree.capacity) :
    ∃ index next, append commitment tree = .ok index next /\ next.depth = tree.depth /\
      next.commitments = tree.commitments ++ [commitment] := by
  have indexFits : tree.len < 2 ^ 32 :=
    Nat.lt_trans room (maximumLeafCount_lt_index tree.depth)
  unfold append
  rw [dif_pos room, if_pos indexFits]
  exact ⟨_, _, rfl, rfl, rfl⟩

end MerkleTree
end Noxis.Merkle
