import Noxis.Foundation.SparseTree
import Noxis.Merkle.Tree

namespace Noxis.Merkle

open Foundation

/-!
# Proofs of inclusion

A proof lists the siblings on the path from a leaf to the root.  They are read off
the padded levels, which hold the nodes of the complete tree as far as these are
occupied.  A proof that another tree has made may still lead to the root of this
one; then it starts from the leaf that this tree holds at the same position.
-/

structure InclusionProof where
  leafIndex : UInt32
  siblings : List Hash
deriving DecidableEq

/-- Construction bounds the depth to 32. -/
def InclusionProof.depth (proof : InclusionProof) : UInt8 := UInt8.ofNat proof.siblings.length

section
variable [Sha256]

/-- The siblings of a path, level by level.  An index outside the padded level would
abort the program. -/
def siblingsFrom : List Nat -> List Hash -> Nat -> Option (List Hash)
  | [], _, _ => some []
  | height :: heights, level, currentIndex => do
      let padded := padEven (emptyHash height) level
      let sibling ← padded[if currentIndex % 2 = 0 then currentIndex + 1 else currentIndex - 1]?
      let siblings ← siblingsFrom heights (parentLevel padded) (currentIndex / 2)
      return sibling :: siblings

def MerkleTree.prove (tree : MerkleTree) (leafIndex : UInt32) :
    Except (Fault MerkleError) InclusionProof :=
  if tree.len <= leafIndex.toNat then
    .error (.error (.leafIndexOutOfRange leafIndex tree.len))
  else
    match siblingsFrom (List.range tree.depth.toNat) (tree.commitments.map hashLeaf)
        leafIndex.toNat with
    | some siblings => .ok ⟨leafIndex, siblings⟩
    | none => .error (.panic ⟨"index out of bounds"⟩)

/-- Join the current node with its sibling and move to the level above. -/
def stepUp (current : Hash × Nat) (sibling : Hash) : Hash × Nat :=
  (if current.2 % 2 = 0 then hashNode (current.1, sibling) else hashNode (sibling, current.1),
    current.2 / 2)

def MerkleTree.verify (root : MerkleRoot) (commitment : Commitment) (proof : InclusionProof) :
    Except MerkleError Bool := do
  validateDepth proof.depth
  if proof.depth ≠ root.depth then
    .error (.proofDepthMismatch root.depth proof.depth)
  else
    .ok (decide ((proof.siblings.foldl stepUp
      (hashLeaf commitment, proof.leafIndex.toNat)).1 = root.digest))

/-- The sibling of a path's node on one level of the complete tree. -/
def treeSibling (commitments : List Commitment) (index level : Nat) : Hash :=
  nodeAt hashNode (paddedLeaf commitments) level ((index / 2 ^ level) ^^^ 1)

theorem stepUp_eq (current : Hash) (index : Nat) (sibling : Hash) :
    stepUp (current, index) sibling =
      (hashNode (orient (index.testBit 0) current sibling), index / 2) := by
  unfold stepUp orient
  rw [Nat.testBit_zero]
  rcases Nat.mod_two_eq_zero_or_one index with even | odd
  · simp [even]
  · simp [odd]

/-- The verifier climbs along the path of the claimed position. -/
theorem foldl_stepUp (siblings : List Hash) (leaf : Hash) (index : Nat) :
    (siblings.foldl stepUp (leaf, index)).1 =
      climbPath hashNode index leaf (fun level => siblings.getD level hashEmptyLeaf)
        siblings.length := by
  induction siblings generalizing leaf index with
  | nil => rfl
  | cons sibling siblings ih =>
    rw [List.foldl_cons, stepUp_eq, ih, List.length_cons, climbPath_succ_left]
    rfl

theorem lt_length_levelAt (commitments : List Commitment) {index : Nat}
    (occupied : index < commitments.length) (height : Nat) :
    index / 2 ^ height < (levelAt commitments height).length := by
  rw [levelAt_eq_climb]
  induction height with
  | zero => simpa [climb] using occupied
  | succ height ih =>
    rw [climb_succ, div_two_pow_succ]
    exact div_two_lt_length_raise _ _ ih

theorem siblingsFrom_eq (commitments : List Commitment) {index : Nat}
    (occupied : index < commitments.length) (count height : Nat) :
    siblingsFrom (List.range' height count) (levelAt commitments height) (index / 2 ^ height) =
      some ((List.range' height count).map (treeSibling commitments index)) := by
  induction count generalizing height with
  | zero => rfl
  | succ count ih =>
    have next : parentLevel (padEven (emptyHash height) (levelAt commitments height)) =
        levelAt commitments (height + 1) := (climb_succ _ _ _ _).symm
    rw [List.range'_succ, siblingsFrom,
      getElem?_padEven_sibling _ (lt_length_levelAt commitments occupied height), next,
      ← div_two_pow_succ, ih]
    exact congrArg (fun sibling => some (sibling :: _)) (climb_getD _ _ _ _ _)

/-- Every occupied leaf has a proof, which lists the siblings in the complete tree. -/
theorem MerkleTree.prove_eq_ok (tree : MerkleTree) {leafIndex proof} :
    tree.prove leafIndex = .ok proof <->
      leafIndex.toNat < tree.len /\ proof = ⟨leafIndex,
        (List.range tree.depth.toNat).map (treeSibling tree.commitments leafIndex.toNat)⟩ := by
  unfold MerkleTree.prove
  rw [Except.refuse_eq_ok, Nat.not_le]
  apply and_congr_right
  intro occupied
  have siblings := siblingsFrom_eq tree.commitments occupied tree.depth.toNat 0
  rw [← List.range_eq_range', Nat.pow_zero, Nat.div_one] at siblings
  rw [show tree.commitments.map hashLeaf = levelAt tree.commitments 0 from rfl, siblings]
  exact ⟨fun same => (Except.ok.inj same).symm, fun same => congrArg _ same.symm⟩

/-- What the verifier of a made proof decides. -/
theorem MerkleTree.verify_of_prove {tree other : MerkleTree} (sameDepth : other.depth = tree.depth)
    {leafIndex : UInt32} {proof : InclusionProof} (proved : other.prove leafIndex = .ok proof)
    (commitment : Commitment) :
    verify tree.root commitment proof = .ok (decide (
      climbPath hashNode leafIndex.toNat (hashLeaf commitment)
          (treeSibling other.commitments leafIndex.toNat) tree.depth.toNat =
        climbPath hashNode leafIndex.toNat (paddedLeaf tree.commitments leafIndex.toNat)
          (treeSibling tree.commitments leafIndex.toNat) tree.depth.toNat)) := by
  rcases (prove_eq_ok other).mp proved with ⟨occupied, rfl⟩
  have within : leafIndex.toNat < 2 ^ tree.depth.toNat :=
    Nat.lt_of_lt_of_le occupied (sameDepth ▸ other.len_le_pow)
  have root : tree.root.digest = climbPath hashNode leafIndex.toNat
      (paddedLeaf tree.commitments leafIndex.toNat)
      (treeSibling tree.commitments leafIndex.toNat) tree.depth.toNat := by
    refine (rootFromCommitments_eq_nodeAt _ _).trans ?_
    rw [← Nat.div_eq_of_lt within]
    exact (climbPath_nodeAt _ _ _ _).symm
  have isDepth : InclusionProof.depth ⟨leafIndex, (List.range other.depth.toNat).map
      (treeSibling other.commitments leafIndex.toNat)⟩ = tree.depth := by
    rw [InclusionProof.depth, List.length_map, List.length_range, UInt8.ofNat_toNat, sameDepth]
  unfold verify
  rw [isDepth, validateDepth_eq_ok.mpr tree.depthValid]
  refine (if_neg (not_not.mpr rfl)).trans ?_
  rw [foldl_stepUp, root, List.length_map, List.length_range, sameDepth]
  refine congrArg (fun value => Except.ok (decide (value = _))) (climbPath_congr ?_)
  intro level below
  rw [List.getD_eq_getElem?_getD, List.getElem?_map, List.getElem?_range below]
  rfl

/-- The byte strings hashed on the way from a leaf to the root. -/
def pathInputs (index : Nat) (leaf : Hash) (sibling : Nat -> Hash) (depth : UInt8) :
    List (List UInt8) :=
  (pathPairs hashNode index leaf sibling depth.toNat).map nodeInput

/-- A commitment whose leaf is that of a position is held there. -/
theorem getElem?_of_hashLeaf_eq {commitments commitment} {position : Nat}
    (same : hashLeaf commitment = paddedLeaf commitments position) :
    commitments[position]? = some commitment ∨ CollisionBetween Sha256.digest
      [leafInput commitment] (emptyLeafDomain :: commitments.map leafInput) := by
  rw [paddedLeaf, List.getD_eq_getElem?_getD, List.getElem?_map] at same
  cases held : commitments[position]? with
  | none =>
    rw [held] at same
    exact Or.inr ⟨_, List.mem_cons_self, _, List.mem_cons_self,
      leafInput_ne_emptyLeafDomain commitment, same⟩
  | some other =>
    rw [held] at same
    rcases eq_or_collides Sha256.digest same with equal | collides
    · exact Or.inl (congrArg some (leafInput_injective equal).symm)
    · exact Or.inr ⟨_, List.mem_cons_self, _, List.mem_cons_of_mem _
        (List.mem_map_of_mem (List.mem_of_getElem? held)), collides⟩

end

/-- The root is that of the complete tree padded with empty leaves, and every occupied
leaf has a proof that is accepted.  A proof made by a tree of the same depth that is
accepted for this root starts from the commitment this tree holds at that position, or
two byte strings hashed on the two paths collide. -/
theorem inclusion_proofs_hold_and_bind [Sha256] :
    (forall tree : MerkleTree,
      tree.root.digest = nodeAt hashNode (paddedLeaf tree.commitments) tree.depth.toNat 0 /\
      forall leafIndex commitment, tree.commitments[leafIndex.toNat]? = some commitment ->
        ∃ proof, tree.prove leafIndex = .ok proof /\
          MerkleTree.verify tree.root commitment proof = .ok true) /\
    (forall tree other : MerkleTree, other.depth = tree.depth ->
      forall leafIndex proof commitment, other.prove leafIndex = .ok proof ->
        MerkleTree.verify tree.root commitment proof = .ok true ->
        tree.commitments[leafIndex.toNat]? = some commitment ∨
          CollisionBetween Sha256.digest
            (leafInput commitment :: pathInputs leafIndex.toNat (hashLeaf commitment)
              (treeSibling other.commitments leafIndex.toNat) tree.depth)
            (emptyLeafDomain :: (tree.commitments.map leafInput ++
              pathInputs leafIndex.toNat (paddedLeaf tree.commitments leafIndex.toNat)
                (treeSibling tree.commitments leafIndex.toNat) tree.depth))) := by
  constructor
  · intro tree
    refine ⟨rootFromCommitments_eq_nodeAt _ _, ?_⟩
    intro leafIndex commitment held
    have proved := (MerkleTree.prove_eq_ok tree).mpr ⟨(List.getElem?_eq_some_iff.mp held).1, rfl⟩
    refine ⟨_, proved, ?_⟩
    rw [MerkleTree.verify_of_prove rfl proved]
    have leaf : paddedLeaf tree.commitments leafIndex.toNat = hashLeaf commitment := by
      rw [paddedLeaf, List.getD_eq_getElem?_getD, List.getElem?_map, held]
      rfl
    rw [leaf, decide_eq_true rfl]
  · intro tree other sameDepth leafIndex proof commitment proved accepted
    rw [MerkleTree.verify_of_prove sameDepth proved] at accepted
    have meets := of_decide_eq_true (Except.ok.inj accepted)
    rcases eq_or_collision_of_climbPath_eq meets with sameLeaf | collision
    · refine (getElem?_of_hashLeaf_eq sameLeaf).imp_right (fun collision => collision.mono ?_ ?_)
      · intro input member
        exact List.mem_cons.mpr (Or.inl (List.mem_singleton.mp member))
      · intro input member
        exact List.mem_append_left (pathInputs _ _ _ _) member
    · refine Or.inr ((collision.map nodeInput_injective).mono ?_ ?_)
      · exact fun input member => List.mem_cons_of_mem _ member
      · exact fun input member => List.mem_cons_of_mem _ (List.mem_append_right _ member)

end Noxis.Merkle
