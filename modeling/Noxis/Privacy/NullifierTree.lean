import Mathlib.Data.List.Iterate
import Noxis.Foundation.Collections
import Noxis.Privacy.NullifierReference

namespace Noxis.Privacy

open Foundation

/-!
# The stored nodes of the nullifier tree

Only the nodes above spent leaves are stored.  A node is addressed by its height
and by the bytes of a nullifier below it, with the bits under the node cleared.
Marking a nullifier climbs from its leaf to the root, reads the siblings from the
store or from the empty values, and stores the whole path at once.
-/

@[ext]
structure NodePositionV1 where
  height : Nat
  key : Bytes 64

namespace NodePositionV1

/-- Heights first, as in a map that is sorted by position. -/
instance : LinearOrder NodePositionV1 :=
  LinearOrder.lift' (fun position => toLex (position.height, position.key)) (by
    intro left right same
    have parts := Prod.mk.inj (toLex.injective same)
    exact NodePositionV1.ext parts.1 parts.2)

def leaf (nullifier : NullifierV2) : NodePositionV1 := ⟨0, nullifier.bytes⟩

def root : NodePositionV1 := ⟨nullifierSparseTreeDepth, Bytes.replicate 64 0⟩

def sibling (position : NodePositionV1) : NodePositionV1 :=
  ⟨position.height, position.key.flipBit position.height⟩

def parent (position : NodePositionV1) : NodePositionV1 :=
  ⟨position.height + 1, position.key.clearBit position.height⟩

def pathBit (position : NodePositionV1) : Bool := position.key.readBit position.height

def nodeIndex (position : NodePositionV1) : Nat := position.key.number / 2 ^ position.height

/-- The bits under the node are cleared. -/
def Aligned (position : NodePositionV1) : Prop := position.key.number % 2 ^ position.height = 0

variable {left right : NodePositionV1}

theorem lt_of_height_lt (lower : left.height < right.height) : left < right :=
  Prod.Lex.toLex_lt_toLex.mpr (Or.inl lower)

theorem eq_of_aligned (leftAligned : left.Aligned) (rightAligned : right.Aligned)
    (sameHeight : left.height = right.height) (sameIndex : left.nodeIndex = right.nodeIndex) :
    left = right := by
  apply NodePositionV1.ext sameHeight
  apply Bytes.number_injective
  unfold Aligned at leftAligned rightAligned
  unfold nodeIndex at sameIndex
  rw [sameHeight] at leftAligned sameIndex
  grind [Nat.div_add_mod]

/-- The node above a leaf at each height. -/
def ancestor (nullifier : NullifierV2) (height : Nat) : NodePositionV1 :=
  parent^[height] (leaf nullifier)

variable (nullifier : NullifierV2)

theorem ancestor_succ (height : Nat) :
    ancestor nullifier (height + 1) = (ancestor nullifier height).parent :=
  Function.iterate_succ_apply' parent height _

@[simp] theorem height_ancestor (height : Nat) : (ancestor nullifier height).height = height := by
  induction height with
  | zero => rfl
  | succ height ih => rw [ancestor_succ, parent, ih]

variable {height : Nat}

/-- Climbing clears the bits below and keeps those above. -/
theorem key_ancestor (within : height <= nullifierSparseTreeDepth) :
    (ancestor nullifier height).key.number % 2 ^ height = 0 /\
      (ancestor nullifier height).key.number / 2 ^ height = leafIndex nullifier / 2 ^ height := by
  induction height with
  | zero =>
    rw [Nat.pow_zero, Nat.mod_one]
    exact ⟨rfl, rfl⟩
  | succ height ih =>
    have below : height < 8 * 64 := within
    have before := ih (Nat.le_of_lt below)
    rw [ancestor_succ, parent, height_ancestor]
    refine ⟨Bytes.clearBit_mod _ below before.1, ?_⟩
    rw [Bytes.clearBit_div _ below, div_two_pow_succ, before.2, ← div_two_pow_succ]

theorem aligned_ancestor (within : height <= nullifierSparseTreeDepth) :
    (ancestor nullifier height).Aligned := by
  rw [Aligned, height_ancestor]
  exact (key_ancestor nullifier within).1

theorem nodeIndex_ancestor (within : height <= nullifierSparseTreeDepth) :
    (ancestor nullifier height).nodeIndex = leafIndex nullifier / 2 ^ height := by
  rw [nodeIndex, height_ancestor]
  exact (key_ancestor nullifier within).2

theorem pathBit_ancestor (below : height < nullifierSparseTreeDepth) :
    (ancestor nullifier height).pathBit = (leafIndex nullifier).testBit height := by
  have same := (key_ancestor nullifier (Nat.le_of_lt below)).2
  rw [pathBit, Bytes.readBit_eq, height_ancestor, ← Nat.zero_add height,
    ← Nat.testBit_div_two_pow, ← Nat.testBit_div_two_pow, Nat.zero_add, same]

theorem aligned_sibling (below : height < nullifierSparseTreeDepth) :
    (ancestor nullifier height).sibling.Aligned := by
  rw [Aligned, sibling, height_ancestor, Bytes.flipBit_mod _ below]
  exact (key_ancestor nullifier (Nat.le_of_lt below)).1

theorem nodeIndex_sibling (below : height < nullifierSparseTreeDepth) :
    (ancestor nullifier height).sibling.nodeIndex = (leafIndex nullifier / 2 ^ height) ^^^ 1 := by
  rw [nodeIndex, sibling, height_ancestor, Bytes.flipBit_div _ below,
    (key_ancestor nullifier (Nat.le_of_lt below)).2]

theorem number_root : root.key.number = 0 := by decide

theorem aligned_root : root.Aligned := by
  rw [Aligned, number_root, Nat.zero_mod]

theorem nodeIndex_root : root.nodeIndex = 0 := by
  rw [nodeIndex, number_root, Nat.zero_div]

/-- Leaves below one node. -/
theorem ancestor_eq_iff {nullifier other} (within : height <= nullifierSparseTreeDepth) :
    ancestor nullifier height = ancestor other height <->
      leafIndex nullifier / 2 ^ height = leafIndex other / 2 ^ height := by
  rw [← nodeIndex_ancestor nullifier within, ← nodeIndex_ancestor other within]
  constructor
  · intro same
    rw [same]
  · intro same
    apply eq_of_aligned (aligned_ancestor nullifier within) (aligned_ancestor other within) _ same
    rw [height_ancestor, height_ancestor]

end NodePositionV1

/-! ## The store -/

inductive NullifierSparseTreeStateError where
  | reference (reason : NullifierTreeReferenceError)
  | alreadySpent (nullifier : NullifierV2)
deriving DecidableEq

/-- The stored nodes and the number of spent leaves.  The source counts in 64 bits and
aborts on overflow, after more insertions than a run can make. -/
structure NullifierSparseTreeStateV1 where
  nonEmptyNodes : Table NodePositionV1 Digest
  spentCount : Nat

structure NullifierTreeUpdateV1 where
  nullifier : NullifierV2
  previousRoot : NullifierSparseRootV1
  root : NullifierSparseRootV1
deriving DecidableEq

/-- A digest as an array of 32-bit numbers. -/
def digestElements (digest : Digest) : BabyBearDigest :=
  fun index => UInt32.ofNat (digest index).val

namespace NullifierSparseTreeStateV1

def newCandidate : NullifierSparseTreeStateV1 := ⟨∅, 0⟩

def isSpent (state : NullifierSparseTreeStateV1) (nullifier : NullifierV2) : Bool :=
  (state.nonEmptyNodes.lookup (.leaf nullifier)).isSome

variable (reference : NullifierSparseTreeReferenceV1)

/-- A stored node, or the empty value of its height. -/
def valueAt (state : NullifierSparseTreeStateV1) (position : NodePositionV1) : Digest :=
  (state.nonEmptyNodes.lookup position).getD (reference.emptyValues position.height)

def root (state : NullifierSparseTreeStateV1) : NullifierSparseRootV1 :=
  .ofDigest (state.valueAt reference .root)

/-- The siblings from a leaf to the root. -/
def prove (state : NullifierSparseTreeStateV1) (nullifier : NullifierV2) : List BabyBearDigest :=
  (List.iterate NodePositionV1.parent (.leaf nullifier) nullifierSparseTreeDepth).map
    (fun position => digestElements (state.valueAt reference position.sibling))

/-- Join a node with its sibling. -/
def spendStep (state : NullifierSparseTreeStateV1) (entry : NodePositionV1 × Digest) :
    NodePositionV1 × Digest :=
  let sibling := state.valueAt reference entry.1.sibling
  (entry.1.parent,
    if entry.1.pathBit then reference.node sibling entry.2 else reference.node entry.2 sibling)

/-- The path from the spent leaf to the root, both included. -/
def prepareSpend (state : NullifierSparseTreeStateV1) (nullifier : NullifierV2) :
    List (NodePositionV1 × Digest) :=
  List.iterate (state.spendStep reference) (.leaf nullifier, reference.spentLeaf nullifier)
    (nullifierSparseTreeDepth + 1)

theorem prepareSpend_ne_nil (state : NullifierSparseTreeStateV1) (nullifier : NullifierV2) :
    state.prepareSpend reference nullifier ≠ [] := by
  intro isNil
  exact Nat.succ_ne_zero _ (List.iterate_eq_nil.mp isNil)

def markSpent (nullifier : NullifierV2) :
    EStateM NullifierSparseTreeStateError NullifierSparseTreeStateV1 NullifierTreeUpdateV1 := do
  let state ← get
  let previousRoot := state.root reference
  if state.isSpent nullifier then
    throw (.alreadySpent nullifier)
  else
    let updates := state.prepareSpend reference nullifier
    let last := updates.getLast (state.prepareSpend_ne_nil reference nullifier)
    set (NullifierSparseTreeStateV1.mk (insertAll state.nonEmptyNodes updates)
      (state.spentCount + 1))
    return ⟨nullifier, previousRoot, .ofDigest last.2⟩

end NullifierSparseTreeStateV1

section
variable (reference : NullifierSparseTreeReferenceV1)

/-- The leaf of the complete tree at an index: spent for the members of the set
and empty elsewhere. -/
def completeLeaf (spent : Finset NullifierV2) (index : Nat) : Digest :=
  if ∃ nullifier ∈ spent, leafIndex nullifier = index then
    reference.hashBytes .leaf ⟨littleEndian 64 index, length_littleEndian 64 index⟩
  else
    reference.emptyLeaf

def completeNode (spent : Finset NullifierV2) (height index : Nat) : Digest :=
  nodeAt reference.nodePair (completeLeaf reference spent) height index

/-- The root of the complete tree of 512 levels. -/
def completeRoot (spent : Finset NullifierV2) : NullifierSparseRootV1 :=
  .ofDigest (completeNode reference spent nullifierSparseTreeDepth 0)

variable {spent : Finset NullifierV2}
  (nullifier : NullifierV2)

theorem completeLeaf_self (member : nullifier ∈ spent) :
    completeLeaf reference spent (leafIndex nullifier) = reference.spentLeaf nullifier := by
  have bytes : (⟨littleEndian 64 (leafIndex nullifier), length_littleEndian 64 _⟩ : Bytes 64) =
      nullifier.bytes := by
    apply Bytes.ext
    have inverse := littleEndian_ofLittleEndian nullifier.bytes.toList
    rw [nullifier.bytes.length_toList] at inverse
    exact inverse
  rw [completeLeaf, if_pos ⟨nullifier, member, rfl⟩]
  exact congrArg (reference.hashBytes .leaf) bytes

theorem completeLeaf_of_notMem {index : Nat}
    (absent : forall nullifier, nullifier ∈ spent -> leafIndex nullifier ≠ index) :
    completeLeaf reference spent index = reference.emptyLeaf := by
  apply if_neg
  grind

/-- A further member replaces one leaf. -/
theorem completeLeaf_insert (spent : Finset NullifierV2) :
    completeLeaf reference (insert nullifier spent) =
      Function.update (completeLeaf reference spent) (leafIndex nullifier)
        (reference.spentLeaf nullifier) := by
  funext index
  by_cases isIndex : index = leafIndex nullifier
  · grind [completeLeaf_self]
  have others : (∃ other ∈ insert nullifier spent, leafIndex other = index) <->
      ∃ other ∈ spent, leafIndex other = index := by
    grind
  rw [Function.update_of_ne isIndex, completeLeaf, completeLeaf]
  simp only [others]

/-- The nodes above a further member are climbed from its leaf with the old
siblings. -/
theorem completeNode_insert_self (spent : Finset NullifierV2) (height : Nat) :
    completeNode reference (insert nullifier spent) height (leafIndex nullifier / 2 ^ height) =
      climbPath reference.nodePair (leafIndex nullifier) (reference.spentLeaf nullifier)
        (fun level => completeNode reference spent level ((leafIndex nullifier / 2 ^ level) ^^^ 1))
        height := by
  rw [completeNode, completeLeaf_insert]
  exact nodeAt_update_self reference.nodePair _ _ _ _

end

section
variable {reference : NullifierSparseTreeReferenceV1} {state : NullifierSparseTreeStateV1}
  {spent : Finset NullifierV2}

open NodePositionV1

/-- The store holds the nodes above the leaves of a set, each with its value in
the complete tree, and counts the set. -/
structure StoresSet (reference : NullifierSparseTreeReferenceV1)
    (state : NullifierSparseTreeStateV1) (spent : Finset NullifierV2) : Prop where
  lookup : forall position value, state.nonEmptyNodes.lookup position = some value <->
    (∃ nullifier ∈ spent, ∃ height, height <= nullifierSparseTreeDepth /\
      position = ancestor nullifier height) /\
    completeNode reference spent position.height position.nodeIndex = value
  count : state.spentCount = spent.card

theorem storesSet_newCandidate (reference : NullifierSparseTreeReferenceV1) :
    StoresSet reference .newCandidate ∅ := by
  constructor
  case lookup =>
    simp [NullifierSparseTreeStateV1.newCandidate]
  case count => rfl

namespace StoresSet

variable {position : NodePositionV1}
  (stores : StoresSet reference state spent)

include stores in
/-- Reading the store gives the complete tree, also where nothing is stored. -/
theorem valueAt_eq (aligned : position.Aligned)
    (within : position.height <= nullifierSparseTreeDepth) :
    state.valueAt reference position =
      completeNode reference spent position.height position.nodeIndex := by
  unfold NullifierSparseTreeStateV1.valueAt
  cases found : state.nonEmptyNodes.lookup position with
  | some value => exact ((stores.lookup position value).mp found).2.symm
  | none =>
    symm
    apply nodeAt_eq_emptyAt
    intro index isBelow
    apply completeLeaf_of_notMem
    intro nullifier member isIndex
    have isAncestor : position = ancestor nullifier position.height := by
      apply eq_of_aligned aligned (aligned_ancestor nullifier within)
      · rw [height_ancestor]
      · rw [nodeIndex_ancestor nullifier within, isIndex, isBelow]
    have stored := (stores.lookup position _).mpr ⟨⟨nullifier, member, _, within, isAncestor⟩, rfl⟩
    rw [found] at stored
    cases stored

variable {height : Nat}

include stores in
theorem valueAt_sibling (nullifier : NullifierV2) (below : height < nullifierSparseTreeDepth) :
    state.valueAt reference (ancestor nullifier height).sibling =
      completeNode reference spent height ((leafIndex nullifier / 2 ^ height) ^^^ 1) := by
  have sameHeight : (ancestor nullifier height).sibling.height = height :=
    height_ancestor nullifier height
  rw [stores.valueAt_eq (aligned_sibling nullifier below) (by omega),
    nodeIndex_sibling nullifier below, sameHeight]

include stores in
theorem root_eq : state.root reference = completeRoot reference spent := by
  have value := stores.valueAt_eq aligned_root (Nat.le_refl nullifierSparseTreeDepth)
  rw [nodeIndex_root] at value
  exact congrArg CanonicalVector.ofDigest value

variable {nullifier : NullifierV2}

include stores in
theorem isSpent_iff : state.isSpent nullifier = true <-> nullifier ∈ spent := by
  rw [NullifierSparseTreeStateV1.isSpent, Option.isSome_iff_exists]
  constructor
  · intro stored
    rcases stored with ⟨value, found⟩
    rcases ((stores.lookup _ value).mp found).1 with ⟨other, member, height, _, isAncestor⟩
    have isLeaf : height = 0 := by
      rw [← height_ancestor other height, ← isAncestor]
      rfl
    subst isLeaf
    have same : nullifier = other :=
      CanonicalVector.bytes_injective (congrArg NodePositionV1.key isAncestor)
    rw [same]
    exact member
  · intro member
    exact ⟨_, (stores.lookup _ _).mpr ⟨⟨nullifier, member, 0, Nat.zero_le _, rfl⟩, rfl⟩⟩

include stores in
/-- Each step of a spend reaches the node of the complete tree that holds the
further member. -/
theorem iterate_spendStep (nullifier : NullifierV2) (within : height <= nullifierSparseTreeDepth) :
    (state.spendStep reference)^[height] (.leaf nullifier, reference.spentLeaf nullifier) =
      (ancestor nullifier height,
        completeNode reference (insert nullifier spent) height
          (leafIndex nullifier / 2 ^ height)) := by
  have reached := completeNode_insert_self reference nullifier spent
  induction height with
  | zero =>
    rw [reached, climbPath]
    rfl
  | succ height ih =>
    have below : height < nullifierSparseTreeDepth := within
    have sibling := stores.valueAt_sibling nullifier below
    have next := reached (height + 1)
    rw [climbPath, ← reached height, ← NullifierSparseTreeReferenceV1.node_orient,
      ← pathBit_ancestor nullifier below] at next
    rw [Function.iterate_succ_apply', ih (Nat.le_of_lt below), next, ancestor_succ, ← sibling]
    rfl

include stores in
theorem mem_prepareSpend {value} :
    (position, value) ∈ state.prepareSpend reference nullifier <->
      (∃ height, height <= nullifierSparseTreeDepth /\ position = ancestor nullifier height) /\
        completeNode reference (insert nullifier spent) position.height position.nodeIndex =
          value := by
  rw [NullifierSparseTreeStateV1.prepareSpend, List.mem_iterate]
  constructor
  · intro member
    rcases member with ⟨height, early, isEntry⟩
    have within := Nat.le_of_lt_succ early
    rw [stores.iterate_spendStep nullifier within] at isEntry
    grind [nodeIndex_ancestor, height_ancestor]
  · intro member
    rcases member with ⟨⟨height, within, isAncestor⟩, isValue⟩
    refine ⟨height, Nat.lt_succ_of_le within, ?_⟩
    rw [isAncestor, nodeIndex_ancestor nullifier within, height_ancestor] at isValue
    rw [stores.iterate_spendStep nullifier within, isAncestor, isValue]

include stores in
theorem pairwise_prepareSpend (nullifier : NullifierV2) :
    (state.prepareSpend reference nullifier).Pairwise (fun left right => left.1 < right.1) := by
  apply List.pairwise_iff_getElem.mpr
  intro left right leftWithin rightWithin before
  rw [NullifierSparseTreeStateV1.prepareSpend, List.length_iterate] at leftWithin rightWithin
  simp only [NullifierSparseTreeStateV1.prepareSpend, List.getElem_iterate]
  rw [stores.iterate_spendStep nullifier (Nat.le_of_lt_succ leftWithin),
    stores.iterate_spendStep nullifier (Nat.le_of_lt_succ rightWithin)]
  grind [lt_of_height_lt, height_ancestor]

include stores in
theorem mem_keys_prepareSpend :
    position ∈ (state.prepareSpend reference nullifier).map Prod.fst <->
      ∃ height, height <= nullifierSparseTreeDepth /\ position = ancestor nullifier height := by
  constructor
  · intro member
    rcases List.mem_map.mp member with ⟨entry, listed, rfl⟩
    exact (stores.mem_prepareSpend.mp listed).1
  · intro isAncestor
    exact List.mem_map.mpr ⟨_, stores.mem_prepareSpend.mpr ⟨isAncestor, rfl⟩, rfl⟩

/-- Outside the path of a further member the complete tree does not change. -/
theorem completeNode_insert_of_ne {other} (within : height <= nullifierSparseTreeDepth)
    (outside : ancestor other height ≠ ancestor nullifier height) :
    completeNode reference (insert nullifier spent) height (ancestor other height).nodeIndex =
      completeNode reference spent height (ancestor other height).nodeIndex := by
  rw [completeNode, completeLeaf_insert]
  apply nodeAt_update_of_ne
  rw [nodeIndex_ancestor other within]
  intro same
  exact outside ((ancestor_eq_iff within).mpr same)

include stores

/-- Storing the prepared path stores the further member. -/
theorem insert_path (fresh : nullifier ∉ spent) :
    StoresSet reference
      ⟨insertAll state.nonEmptyNodes (state.prepareSpend reference nullifier),
        state.spentCount + 1⟩ (insert nullifier spent) := by
  constructor
  case count => rw [Finset.card_insert_of_notMem fresh, stores.count]
  case lookup =>
    intro position value
    dsimp only
    rw [lookup_insertAll (stores.pairwise_prepareSpend nullifier), stores.mem_prepareSpend,
      stores.mem_keys_prepareSpend, stores.lookup]
    constructor
    · intro found
      rcases found with ⟨⟨height, within, isAncestor⟩, isValue⟩ |
        ⟨⟨⟨other, member, height, within, isAncestor⟩, isValue⟩, outside⟩
      · grind
      grind [height_ancestor, completeNode_insert_of_ne]
    · intro found
      rcases found with ⟨⟨other, member, height, within, isAncestor⟩, isValue⟩
      by_cases onPath : ∃ height, height <= nullifierSparseTreeDepth /\
          position = ancestor nullifier height
      · exact Or.inl ⟨onPath, isValue⟩
      rcases Finset.mem_insert.mp member with same | member
      · rw [same] at isAncestor
        exact absurd ⟨height, within, isAncestor⟩ onPath
      refine Or.inr ⟨⟨⟨other, member, height, within, isAncestor⟩, ?_⟩, onPath⟩
      subst isAncestor
      rw [height_ancestor] at isValue ⊢
      rw [completeNode_insert_of_ne within (fun same => onPath ⟨height, within, same⟩)] at isValue
      exact isValue

theorem last_prepareSpend (nullifier : NullifierV2) :
    CanonicalVector.ofDigest ((state.prepareSpend reference nullifier).getLast
        (state.prepareSpend_ne_nil reference nullifier)).2 =
      completeRoot reference (insert nullifier spent) := by
  have last := stores.iterate_spendStep nullifier (Nat.le_refl nullifierSparseTreeDepth)
  rw [List.getLast_eq_getElem]
  simp only [NullifierSparseTreeStateV1.prepareSpend, List.getElem_iterate, List.length_iterate,
    Nat.add_sub_cancel]
  rw [last, leafIndex_div_depth]
  rfl

/-- What marking does to the store of a set. -/
theorem markSpent_eq (nullifier : NullifierV2) :
    NullifierSparseTreeStateV1.markSpent reference nullifier state =
      if nullifier ∈ spent then .error (.alreadySpent nullifier) state
      else .ok ⟨nullifier, completeRoot reference spent,
          completeRoot reference (insert nullifier spent)⟩
        ⟨insertAll state.nonEmptyNodes (state.prepareSpend reference nullifier),
          state.spentCount + 1⟩ := by
  by_cases member : nullifier ∈ spent
  · rw [if_pos member, NullifierSparseTreeStateV1.markSpent, get_bind,
      if_pos (stores.isSpent_iff.mpr member)]
    rfl
  have isFresh : ¬ state.isSpent nullifier = true := by
    rw [stores.isSpent_iff]
    exact member
  rw [if_neg member, NullifierSparseTreeStateV1.markSpent, get_bind, if_neg isFresh,
    ← stores.root_eq, ← stores.last_prepareSpend]
  rfl

/-- The store is determined by the set. -/
theorem unique {other} (otherStores : StoresSet reference other spent) : state = other := by
  have sameNodes : state.nonEmptyNodes = other.nonEmptyNodes := by
    apply Finmap.ext_lookup
    intro position
    apply Option.ext
    intro value
    rw [stores.lookup, otherStores.lookup]
  rcases state with ⟨nodes, count⟩
  rcases other with ⟨otherNodes, otherCount⟩
  rw [NullifierSparseTreeStateV1.mk.injEq]
  exact ⟨sameNodes, stores.count.trans otherStores.count.symm⟩

end StoresSet

/-! ## Runs -/

/-- The state after a call, accepted or not. -/
theorem StoresSet.markSpent (stores : StoresSet reference state spent) (nullifier : NullifierV2) :
    StoresSet reference
      (finalState (NullifierSparseTreeStateV1.markSpent reference nullifier state))
      (insert nullifier spent) := by
  rw [stores.markSpent_eq]
  by_cases member : nullifier ∈ spent
  · rw [if_pos member, Finset.insert_eq_of_mem member]
    exact stores
  · rw [if_neg member]
    exact stores.insert_path member

end

/-- Mark the nullifiers of a list in turn.  A refused call is passed over. -/
def markEach (reference : NullifierSparseTreeReferenceV1) (state : NullifierSparseTreeStateV1)
    (calls : List NullifierV2) : NullifierSparseTreeStateV1 :=
  calls.foldl
    (fun state nullifier =>
      finalState (NullifierSparseTreeStateV1.markSpent reference nullifier state)) state

theorem StoresSet.markEach {reference state spent} (stores : StoresSet reference state spent)
    (calls : List NullifierV2) :
    StoresSet reference (markEach reference state calls) (spent ∪ calls.toFinset) := by
  induction calls generalizing state spent with
  | nil =>
    rw [List.toFinset_nil, Finset.union_empty]
    exact stores
  | cons nullifier rest ih =>
    have later := ih (stores.markSpent nullifier)
    rw [List.toFinset_cons, Finset.union_insert, ← Finset.insert_union]
    exact later

theorem storesSet_markEach (reference : NullifierSparseTreeReferenceV1) (calls : List NullifierV2) :
    StoresSet reference (markEach reference .newCandidate calls) calls.toFinset := by
  have stores := (storesSet_newCandidate reference).markEach calls
  rwa [Finset.empty_union] at stores

/-- After any calls the store is that of the set of marked nullifiers: its root
and its nodes are those of the complete tree, other calls that mark the same set
lead to the same store, and a nullifier is refused exactly when it is in the
set, without a change. -/
theorem marked_tree_is_complete (reference : NullifierSparseTreeReferenceV1)
    (calls : List NullifierV2) :
    (markEach reference .newCandidate calls).root reference =
        completeRoot reference calls.toFinset /\
      (forall position value,
        (markEach reference .newCandidate calls).nonEmptyNodes.lookup position = some value <->
          (∃ nullifier ∈ calls, ∃ height, height <= nullifierSparseTreeDepth /\
            position = .ancestor nullifier height) /\
          completeNode reference calls.toFinset position.height position.nodeIndex = value) /\
      (forall others : List NullifierV2, others.toFinset = calls.toFinset ->
        markEach reference .newCandidate others = markEach reference .newCandidate calls) /\
      (forall nullifier, nullifier ∈ calls ->
        NullifierSparseTreeStateV1.markSpent reference nullifier
            (markEach reference .newCandidate calls) =
          .error (.alreadySpent nullifier) (markEach reference .newCandidate calls)) /\
      (forall nullifier, nullifier ∉ calls -> ∃ next,
        NullifierSparseTreeStateV1.markSpent reference nullifier
            (markEach reference .newCandidate calls) =
          .ok ⟨nullifier, completeRoot reference calls.toFinset,
            completeRoot reference (insert nullifier calls.toFinset)⟩ next) := by
  have stores := storesSet_markEach reference calls
  refine ⟨stores.root_eq, ?_, ?_, ?_, ?_⟩
  · intro position value
    rw [stores.lookup]
    simp only [List.mem_toFinset]
  · intro others sameSet
    have otherStores := storesSet_markEach reference others
    rw [sameSet] at otherStores
    exact otherStores.unique stores
  · intro nullifier member
    rw [stores.markSpent_eq, if_pos (List.mem_toFinset.mpr member)]
  · intro nullifier fresh
    rw [stores.markSpent_eq, if_neg (fun member => fresh (List.mem_toFinset.mp member))]
    exact ⟨_, rfl⟩

end Noxis.Privacy
