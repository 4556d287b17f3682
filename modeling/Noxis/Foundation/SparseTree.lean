import Mathlib.Data.Nat.Bitwise
import Noxis.Foundation.PerfectTree

namespace Foundation

/-!
# Paths in a complete hash tree

A complete tree over a large index space is never written down.  A program
keeps the nodes above its occupied leaves, and computes along the path from one
leaf to the root: at each height the node so far is joined with a sibling, on
the side that a bit of the leaf's index selects.

Climbing from a leaf of the tree with the siblings of the tree reaches the nodes
of the tree.  Replacing one leaf replaces the nodes of its path, and these are
reached with the old siblings.  Two climbs along one path that meet at a root
start from the same leaf, or two of the pairs joined on the way collide.
-/

variable {D : Type}

/-- Join a node with its sibling, which is on the left of a right child. -/
def orient (isRight : Bool) (current sibling : D) : D × D :=
  if isRight then (sibling, current) else (current, sibling)

theorem orient_inj {isRight : Bool} {current current' sibling sibling' : D}
    (same : orient isRight current sibling = orient isRight current' sibling') :
    current = current' /\ sibling = sibling' := by
  cases isRight with
  | false => exact Prod.mk.inj same
  | true => exact (Prod.mk.inj same).symm

/-- The node reached from a leaf at each height. -/
def climbPath (node : D × D -> D) (index : Nat) (leaf : D) (sibling : Nat -> D) : Nat -> D
  | 0 => leaf
  | height + 1 => node (orient (index.testBit height) (climbPath node index leaf sibling height)
      (sibling height))

variable {node : D × D -> D} {index height : Nat} {leaf : D}

theorem climbPath_congr {left right : Nat -> D}
    (same : forall level, level < height -> left level = right level) :
    climbPath node index leaf left height = climbPath node index leaf right height := by
  induction height with
  | zero => rfl
  | succ height ih =>
    rw [climbPath, climbPath, same height (Nat.lt_succ_self height),
      ih (fun level below => same level (Nat.lt_succ_of_lt below))]

/-- Climbing starts with the lowest bit of the index. -/
theorem climbPath_succ_left (node : D × D -> D) (index : Nat) (leaf : D) (sibling : Nat -> D)
    (height : Nat) :
    climbPath node index leaf sibling (height + 1) =
      climbPath node (index / 2) (node (orient (index.testBit 0) leaf (sibling 0)))
        (fun level => sibling (level + 1)) height := by
  induction height with
  | zero => rfl
  | succ height ih => rw [climbPath, ih, climbPath, Nat.testBit_succ]

/-- The pairs joined on the way to a height. -/
def pathPairs (node : D × D -> D) (index : Nat) (leaf : D) (sibling : Nat -> D) (height : Nat) :
    List (D × D) :=
  (List.range height).map (fun level => orient (index.testBit level)
    (climbPath node index leaf sibling level) (sibling level))

variable {sibling sibling' : Nat -> D} {leaf' : D}

/-- Climbs along one path that meet start from the same leaf and have the same
siblings, or two of their pairs collide. -/
theorem same_or_collision_of_climbPath_eq
    (same : climbPath node index leaf sibling height = climbPath node index leaf' sibling' height) :
    (leaf = leaf' /\ forall level, level < height -> sibling level = sibling' level) ∨
      CollisionBetween node (pathPairs node index leaf sibling height)
        (pathPairs node index leaf' sibling' height) := by
  induction height with
  | zero => exact Or.inl ⟨same, fun level below => absurd below (Nat.not_lt_zero level)⟩
  | succ height ih =>
    have last (leaf : D) (sibling : Nat -> D) :
        orient (index.testBit height) (climbPath node index leaf sibling height)
          (sibling height) ∈ pathPairs node index leaf sibling (height + 1) :=
      List.mem_map_of_mem (f := fun level => orient (index.testBit level)
        (climbPath node index leaf sibling level) (sibling level)) List.self_mem_range_succ
    have grow (leaf : D) (sibling : Nat -> D) (pair : D × D)
        (member : pair ∈ pathPairs node index leaf sibling height) :
        pair ∈ pathPairs node index leaf sibling (height + 1) := by
      grind [pathPairs]
    rcases eq_or_collides node same with equal | collides
    · rcases orient_inj equal with ⟨sameBelow, sameSibling⟩
      rcases ih sameBelow with ⟨sameLeaf, sameSiblings⟩ | collision
      · grind
      · exact Or.inr (collision.mono (grow leaf sibling) (grow leaf' sibling'))
    grind [CollisionBetween.of_collides]

theorem eq_or_collision_of_climbPath_eq
    (same : climbPath node index leaf sibling height = climbPath node index leaf' sibling' height) :
    leaf = leaf' ∨ CollisionBetween node (pathPairs node index leaf sibling height)
      (pathPairs node index leaf' sibling' height) :=
  (same_or_collision_of_climbPath_eq same).imp_left And.left

variable {level : List D}

/-- A padded level holds the sibling of each of its elements. -/
theorem getElem?_padEven_sibling (padding : D) (inside : index < level.length) :
    (padEven padding level)[if index % 2 = 0 then index + 1 else index - 1]? =
      some (level.getD (index ^^^ 1) padding) := by
  unfold padEven
  rcases Nat.even_or_odd index with isEven | isOdd
  · have remainder := Nat.even_iff.mp isEven
    rw [Nat.xor_one_of_even isEven]
    grind
  · have remainder := Nat.odd_iff.mp isOdd
    rw [Nat.xor_one_of_odd isOdd]
    grind

theorem div_two_lt_length_raise (node : D × D -> D) (padding : D) (inside : index < level.length) :
    index / 2 < (raise node padding level).length := by
  have paired := getElem?_pairUp_padEven padding level (index / 2)
  rw [if_pos (by omega)] at paired
  rw [raise, List.length_map]
  exact (List.getElem?_eq_some_iff.mp paired).1

section
variable (node : D × D -> D)

theorem div_two_pow_succ (index height : Nat) : index / 2 ^ (height + 1) = index / 2 ^ height / 2 := by
  rw [Nat.pow_succ, Nat.div_div_eq_div_mul]

/-- A node joins the node below it on a path with that node's sibling. -/
theorem nodeAt_succ_div (leaf : Nat -> D) (index height : Nat) :
    nodeAt node leaf (height + 1) (index / 2 ^ (height + 1)) =
      node (orient (index.testBit height) (nodeAt node leaf height (index / 2 ^ height))
        (nodeAt node leaf height ((index / 2 ^ height) ^^^ 1))) := by
  have bit : index.testBit height = decide (index / 2 ^ height % 2 = 1) :=
    Nat.testBit_eq_decide_div_mod_eq
  rw [nodeAt, div_two_pow_succ, bit]
  generalize index / 2 ^ height = place
  rcases Nat.even_or_odd place with isEven | isOdd
  · have double := Nat.two_mul_div_two_of_even isEven
    have isZero := Nat.even_iff.mp isEven
    rw [Nat.xor_one_of_even isEven, double, isZero]
    rfl
  · have double := Nat.two_mul_div_two_add_one_of_odd isOdd
    have isOne := Nat.odd_iff.mp isOdd
    have before : 2 * (place / 2) = place - 1 := by omega
    rw [Nat.xor_one_of_odd isOdd, double, before, isOne]
    rfl

theorem climbPath_nodeAt (leaf : Nat -> D) (index height : Nat) :
    climbPath node index (leaf index)
        (fun level => nodeAt node leaf level ((index / 2 ^ level) ^^^ 1)) height =
      nodeAt node leaf height (index / 2 ^ height) := by
  induction height with
  | zero => rw [climbPath, nodeAt, Nat.pow_zero, Nat.div_one]
  | succ height ih =>
    rw [climbPath, ih, nodeAt_succ_div]

variable {height index : Nat}

theorem nodeAt_congr {left right : Nat -> D}
    (same : forall leafIndex, leafIndex / 2 ^ height = index -> left leafIndex = right leafIndex) :
    nodeAt node left height index = nodeAt node right height index := by
  induction height generalizing index with
  | zero =>
    apply same
    rw [Nat.pow_zero, Nat.div_one]
  | succ height ih =>
    have below {child : Nat} (isChild : child / 2 = index) (leafIndex : Nat)
        (isBelow : leafIndex / 2 ^ height = child) : left leafIndex = right leafIndex := by
      apply same
      rw [div_two_pow_succ, isBelow, isChild]
    rw [nodeAt, nodeAt, ih (below (show 2 * index / 2 = index by omega)),
      ih (below (show (2 * index + 1) / 2 = index by omega))]

theorem nodeAt_const (empty : D) (height index : Nat) :
    nodeAt node (fun _ => empty) height index = emptyAt node empty height := by
  induction height generalizing index with
  | zero => rfl
  | succ height ih =>
    rw [nodeAt, ih, ih, emptyAt]

theorem nodeAt_eq_emptyAt {leaf : Nat -> D} {empty : D}
    (unoccupied : forall leafIndex, leafIndex / 2 ^ height = index -> leaf leafIndex = empty) :
    nodeAt node leaf height index = emptyAt node empty height := by
  rw [nodeAt_congr node unoccupied, nodeAt_const]

theorem sibling_ne (index : Nat) : index ^^^ 1 ≠ index := by
  intro same
  rcases Nat.even_or_odd index with isEven | isOdd
  · rw [Nat.xor_one_of_even isEven] at same
    omega
  · rw [Nat.xor_one_of_odd isOdd] at same
    have isOne := Nat.odd_iff.mp isOdd
    omega

/-- Replacing a leaf leaves the nodes outside its path alone. -/
theorem nodeAt_update_of_ne (leaf : Nat -> D) {place : Nat} (value : D)
    (outside : place ≠ index / 2 ^ height) :
    nodeAt node (Function.update leaf index value) height place = nodeAt node leaf height place := by
  apply nodeAt_congr
  intro leafIndex isBelow
  apply Function.update_of_ne
  intro isIndex
  rw [isIndex] at isBelow
  exact outside isBelow.symm

/-- Replacing a leaf replaces the nodes of its path by those reached from the
new leaf with the old siblings. -/
theorem nodeAt_update_self (leaf : Nat -> D) (index height : Nat) (value : D) :
    nodeAt node (Function.update leaf index value) height (index / 2 ^ height) =
      climbPath node index value
        (fun level => nodeAt node leaf level ((index / 2 ^ level) ^^^ 1)) height := by
  rw [← climbPath_nodeAt, Function.update_self]
  apply climbPath_congr
  intro level _
  exact nodeAt_update_of_ne node leaf value (sibling_ne _)

end
end Foundation
