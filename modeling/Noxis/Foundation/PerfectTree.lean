import Noxis.Foundation.Hashing
import Mathlib.Data.List.GetD

namespace Foundation

/-!
# Complete binary hash trees

A complete tree is described by its node at every height and index: height
zero holds the leaves, and each other node joins the two nodes below it.
Programs do not store such a tree.  They keep the occupied leaves in a list
and climb one level at a time, padding an odd level with the hash of an empty
subtree of that height.  `climb_getD` says that the list at each height agrees
with the complete tree padded by empty leaves.

Binding is a statement about two trees of one height.  Equal roots force equal
leaves, or one of the pairs joined in the first tree and one joined in the
second have the same hash.  The pairs are those the climbing program itself
joins: beyond the stored list only pairs of equal empty subtrees remain.
-/

variable {D : Type}

/-- The node of a complete tree at a height and an index. -/
def nodeAt (node : D × D -> D) (leaf : Nat -> D) : Nat -> Nat -> D
  | 0, index => leaf index
  | height + 1, index =>
    node (nodeAt node leaf height (2 * index), nodeAt node leaf height (2 * index + 1))

/-- The pairs joined below a node, itself included. -/
def pairsBelow (node : D × D -> D) (leaf : Nat -> D) : Nat -> Nat -> List (D × D)
  | 0, _ => []
  | height + 1, index =>
    (nodeAt node leaf height (2 * index), nodeAt node leaf height (2 * index + 1)) ::
      (pairsBelow node leaf height (2 * index) ++ pairsBelow node leaf height (2 * index + 1))

variable (node : D × D -> D)

/-- A node determines the leaves below it, up to an explicit collision. -/
theorem leaf_eq_of_nodeAt_eq (left right : Nat -> D) (height index : Nat)
    (same : nodeAt node left height index = nodeAt node right height index) :
    (forall offset, offset < 2 ^ height ->
      left (index * 2 ^ height + offset) = right (index * 2 ^ height + offset)) ∨
    CollisionBetween node (pairsBelow node left height index)
      (pairsBelow node right height index) := by
  induction height generalizing index with
  | zero =>
    refine Or.inl (fun offset inside => ?_)
    have offsetZero : offset = 0 := by
      rw [Nat.pow_zero] at inside
      exact Nat.lt_one_iff.mp inside
    rw [offsetZero, Nat.pow_zero, Nat.mul_one, Nat.add_zero]
    exact same
  | succ height ih =>
    rcases eq_or_collides node same with equal | collides
    · have children := Prod.mk.inj equal
      rcases ih (2 * index) children.1 with leftLeaves | collision
      · rcases ih (2 * index + 1) children.2 with rightLeaves | collision
        · refine Or.inl (fun offset inside => ?_)
          rw [Nat.pow_succ] at inside ⊢
          by_cases early : offset < 2 ^ height
          · grind
          · have late : offset - 2 ^ height < 2 ^ height := by omega
            grind
        · exact Or.inr (collision.mono
            (fun pair member => List.mem_cons_of_mem _ (List.mem_append_right _ member))
            (fun pair member => List.mem_cons_of_mem _ (List.mem_append_right _ member)))
      · exact Or.inr (collision.mono
          (fun pair member => List.mem_cons_of_mem _ (List.mem_append_left _ member))
          (fun pair member => List.mem_cons_of_mem _ (List.mem_append_left _ member)))
    · exact Or.inr ⟨_, List.mem_cons_self, _, List.mem_cons_self, collides⟩

/-- The hash of an empty subtree of each height. -/
def emptyAt (node : D × D -> D) (empty : D) : Nat -> D
  | 0 => empty
  | height + 1 => node (emptyAt node empty height, emptyAt node empty height)

/-- Neighbouring elements two by two; an unpaired last element is dropped. -/
def pairUp : List D -> List (D × D)
  | first :: second :: rest => (first, second) :: pairUp rest
  | _ => []

/-- Append the padding element to a level of odd length. -/
def padEven (padding : D) (level : List D) : List D :=
  if level.length % 2 = 1 then level ++ [padding] else level

theorem padEven_cons_cons (padding first second : D) (rest : List D) :
    padEven padding (first :: second :: rest) = first :: second :: padEven padding rest := by
  grind [padEven]

theorem getElem?_pairUp_padEven (padding : D) : forall (level : List D) (index : Nat),
    (pairUp (padEven padding level))[index]? =
      if 2 * index < level.length then
        some (level.getD (2 * index) padding, level.getD (2 * index + 1) padding) else none
  | [], index => by simp [padEven, pairUp]
  | [single], 0 => by simp [padEven, pairUp]
  | [single], index + 1 => by
      have outside : ¬ (2 * (index + 1) < [single].length) := by
        rw [List.length_singleton]
        omega
      rw [if_neg outside]
      rfl
  | first :: second :: rest, 0 => by
      rw [padEven_cons_cons, pairUp]
      simp
  | first :: second :: rest, index + 1 => by
      have doubled : 2 * (index + 1) = 2 * index + 1 + 1 := by ring
      rw [padEven_cons_cons, pairUp, List.getElem?_cons_succ,
        getElem?_pairUp_padEven padding rest index, doubled, List.length_cons, List.length_cons]
      simp only [List.getD_cons_succ, Nat.add_lt_add_iff_right]

/-- One level up. -/
def raise (node : D × D -> D) (padding : D) (level : List D) : List D :=
  (pairUp (padEven padding level)).map node

theorem raise_getD (padding : D) (level : List D) (index : Nat) :
    (raise node padding level).getD index (node (padding, padding)) =
      node (level.getD (2 * index) padding, level.getD (2 * index + 1) padding) := by
  rw [raise, List.getD_eq_getElem?_getD, List.getElem?_map, getElem?_pairUp_padEven]
  split
  · rfl
  · next outside =>
      rw [List.getD_eq_default _ _ (by omega), List.getD_eq_default _ _ (by omega)]
      rfl

/-- The stored level after climbing `height` times. -/
def climb (node : D × D -> D) (empty : D) (leaves : List D) (height : Nat) : List D :=
  (List.range height).foldl
    (fun level below => raise node (emptyAt node empty below) level) leaves

theorem climb_succ (empty : D) (leaves : List D) (height : Nat) :
    climb node empty leaves (height + 1) =
      raise node (emptyAt node empty height) (climb node empty leaves height) := by
  rw [climb, List.range_succ, List.foldl_append]
  rfl

/-- Every level of the climb is the corresponding level of the complete tree
whose other leaves are empty. -/
theorem climb_getD (empty : D) (leaves : List D) (height index : Nat) :
    (climb node empty leaves height).getD index (emptyAt node empty height) =
      nodeAt node (fun position => leaves.getD position empty) height index := by
  induction height generalizing index with
  | zero => rfl
  | succ height ih =>
    rw [climb_succ, emptyAt, raise_getD, ih, ih, nodeAt]

/-- The pairs joined while hashing the empty subtrees below a height. -/
def emptyPairs (node : D × D -> D) (empty : D) (height : Nat) : List (D × D) :=
  (List.range height).map (fun below => (emptyAt node empty below, emptyAt node empty below))

/-- The pairs joined while climbing from the stored leaves. -/
def climbPairs (node : D × D -> D) (empty : D) (leaves : List D) (height : Nat) : List (D × D) :=
  (List.range height).flatMap (fun below =>
    pairUp (padEven (emptyAt node empty below) (climb node empty leaves below)))

/-- Every pair joined in the padded complete tree is one the program joins. -/
theorem mem_climbPairs_of_mem_pairsBelow (empty : D) (leaves : List D) (depth height index : Nat)
    (inside : height <= depth) (pair : D × D)
    (member : pair ∈ pairsBelow node (fun position => leaves.getD position empty) height index) :
    pair ∈ emptyPairs node empty depth ++ climbPairs node empty leaves depth := by
  induction height generalizing index with
  | zero => cases member
  | succ height ih =>
    rcases List.mem_cons.mp member with here | below
    · have level : height ∈ List.range depth := List.mem_range.mpr inside
      rw [← climb_getD, ← climb_getD] at here
      have listed := getElem?_pairUp_padEven (emptyAt node empty height)
        (climb node empty leaves height) index
      by_cases stored : 2 * index < (climb node empty leaves height).length
      · rw [if_pos stored, ← here] at listed
        exact List.mem_append_right _
          (List.mem_flatMap.mpr ⟨height, level, List.mem_of_getElem? listed⟩)
      · rw [List.getD_eq_default _ _ (by omega), List.getD_eq_default _ _ (by omega)] at here
        exact List.mem_append_left _ (List.mem_map.mpr ⟨height, level, here.symm⟩)
    grind

/-- Equal roots of two padded trees of one depth give equal padded leaves or
a collision between pairs the two climbs join. -/
theorem leaves_eq_of_root_eq (empty : D) (left right : List D) (depth : Nat)
    (same : nodeAt node (fun position => left.getD position empty) depth 0 =
      nodeAt node (fun position => right.getD position empty) depth 0) :
    (forall position, position < 2 ^ depth ->
      left.getD position empty = right.getD position empty) ∨
    CollisionBetween node (emptyPairs node empty depth ++ climbPairs node empty left depth)
      (emptyPairs node empty depth ++ climbPairs node empty right depth) := by
  rcases leaf_eq_of_nodeAt_eq node _ _ depth 0 same with leaves | collision
  · refine Or.inl (fun position inside => ?_)
    have found := leaves position inside
    rwa [Nat.zero_mul, Nat.zero_add] at found
  · exact Or.inr (collision.mono
      (mem_climbPairs_of_mem_pairsBelow node empty left depth depth 0 (Nat.le_refl depth))
      (mem_climbPairs_of_mem_pairsBelow node empty right depth depth 0 (Nat.le_refl depth)))

end Foundation
