import Noxis.Foundation.ByteColumns

namespace Foundation

/-!
# Absorbing a message into a permuted state

A sponge adds the elements of a message to the first lanes of its state, one
block of lanes at a time, and permutes the state after each block.  The message
is a list that is consumed from the front, a family of elements with a number of
blocks, or a list of whole blocks.  The three agree, and a message that ends
inside a block is the same as one that continues with zeros.
-/

variable {F : Type} [AddCommMonoid F] {width : Nat}

section
variable (rate : Nat)

/-- Add a block to the first lanes of a state. -/
def addBlock (block : Nat -> F) (state : Fin width -> F) : Fin width -> F :=
  fun lane => if lane.val < rate then state lane + block lane.val else state lane

theorem addBlock_congr {left right : Nat -> F}
    (same : forall lane, lane < rate -> left lane = right lane) (state : Fin width -> F) :
    addBlock rate left state = addBlock rate right state := by
  funext lane
  unfold addBlock
  by_cases within : lane.val < rate
  · rw [if_pos within, if_pos within, same lane.val within]
  · rw [if_neg within, if_neg within]

end

variable (permute : (Fin width -> F) -> Fin width -> F) (rate : Nat)

/-- Absorb the blocks of a family, starting at the first. -/
def absorbBlocks (element : Nat -> F) (state : Fin width -> F) : Nat -> Fin width -> F
  | 0 => state
  | count + 1 => permute (addBlock rate (fun lane => element (count * rate + lane))
      (absorbBlocks element state count))

/-- Absorb a list, block by block from the front. -/
def absorbElements [NeZero rate] (state : Fin width -> F) (elements : List F) : Fin width -> F :=
  if elements = [] then state
  else absorbElements (permute (addBlock rate (fun lane => elements.getD lane 0) state))
    (elements.drop rate)
termination_by elements.length
decreasing_by
  rename_i nonempty
  have positive : 0 < rate := Nat.pos_of_ne_zero (NeZero.ne rate)
  have some := List.length_pos_iff.mpr nonempty
  rw [List.length_drop]
  omega

theorem absorbBlocks_succ (element : Nat -> F) (state : Fin width -> F) (count : Nat) :
    absorbBlocks permute rate element state (count + 1) =
      absorbBlocks permute rate (fun index => element (rate + index))
        (permute (addBlock rate element state)) count := by
  induction count with
  | zero => simp only [absorbBlocks, Nat.zero_mul, Nat.zero_add]
  | succ count ih =>
    rw [absorbBlocks, ih, absorbBlocks]
    congr 2
    funext lane
    congr 1
    rw [Nat.succ_mul]
    omega

/-- A list is absorbed as the blocks it fills, the last one with zeros. -/
theorem absorbElements_eq [NeZero rate] (state : Fin width -> F) (elements : List F) :
    absorbElements permute rate state elements =
      absorbBlocks permute rate (fun index => elements.getD index 0) state
        ((elements.length + (rate - 1)) / rate) := by
  have positive : 0 < rate := Nat.pos_of_ne_zero (NeZero.ne rate)
  fun_induction absorbElements permute rate state elements with
  | case1 state => rw [List.length_nil, Nat.zero_add, Nat.div_eq_of_lt (by omega), absorbBlocks]
  | case2 state elements nonempty ih =>
    have some := List.length_pos_iff.mpr nonempty
    have blocks : (elements.length + (rate - 1)) / rate =
        ((elements.drop rate).length + (rate - 1)) / rate + 1 := by
      rw [List.length_drop, ← Nat.add_div_right _ positive]
      by_cases full : rate <= elements.length
      · congr 1
        omega
      · have one {size : Nat} (atLeast : rate <= size) (below : size < 2 * rate) :
            size / rate = 1 :=
          Nat.div_eq_of_lt_le (by omega) (by omega)
        rw [one (by omega) (by omega), one (by omega) (by omega)]
    rw [ih, blocks, absorbBlocks_succ]
    congr 1
    funext index
    simp [List.getD_eq_getElem?_getD]

def absorb (state : Fin width -> F) (blocks : List (Fin rate -> F)) : Fin width -> F :=
  blocks.foldl (fun state block => permute (addBlock rate (extend block) state)) state

/-- The blocks that a list fills, the last one with zeros. -/
def blocksOf (elements : List F) : List (Fin rate -> F) :=
  (List.range ((elements.length + (rate - 1)) / rate)).map
    (fun block lane => elements.getD (block * rate + lane.val) 0)

theorem absorb_range (element : Nat -> F) (state : Fin width -> F) (count : Nat) :
    absorb permute rate state ((List.range count).map (fun block lane =>
        element (block * rate + lane.val))) = absorbBlocks permute rate element state count := by
  induction count with
  | zero => rfl
  | succ count ih =>
    rw [List.range_succ, List.map_append, absorb, List.foldl_append, absorbBlocks, ← ih]
    apply congrArg permute
    apply addBlock_congr
    intro lane within
    exact extend_of_lt _ within

theorem absorbElements_eq_absorb [NeZero rate] (state : Fin width -> F) (elements : List F) :
    absorbElements permute rate state elements =
      absorb permute rate state (blocksOf rate elements) := by
  rw [absorbElements_eq, ← absorb_range]
  rfl

/-- The blocks of a list determine its elements, up to zeros at its end. -/
theorem getD_eq_of_blocksOf_eq [NeZero rate] {left right : List F}
    (same : blocksOf rate left = blocksOf rate right) (index : Nat) :
    left.getD index 0 = right.getD index 0 := by
  have positive : 0 < rate := Nat.pos_of_ne_zero (NeZero.ne rate)
  have element (elements : List F) : elements.getD index 0 =
      extend ((blocksOf rate elements).getD (index / rate) 0) (index % rate) := by
    have lane := Nat.mod_lt index positive
    rw [extend_of_lt _ lane, blocksOf]
    by_cases within : index / rate < (elements.length + (rate - 1)) / rate
    · have block : ((List.range ((elements.length + (rate - 1)) / rate)).map
          (fun block (lane : Fin rate) => elements.getD (block * rate + lane.val) 0)).getD
            (index / rate) 0 = fun lane => elements.getD (index / rate * rate + lane.val) 0 := by
        rw [List.getD_eq_getElem _ _ (by simpa using within), List.getElem_map, List.getElem_range]
      rw [block]
      dsimp only
      rw [Nat.div_add_mod']
    · have outside : elements.length <= index := by
        have full := Nat.div_add_mod' (elements.length + (rate - 1)) rate
        have rest := Nat.mod_lt (elements.length + (rate - 1)) positive
        have whole := Nat.mul_le_mul_right rate (Nat.not_lt.mp within)
        have start := Nat.div_mul_le_self index rate
        omega
      rw [List.getD_eq_default _ _ outside, List.getD_eq_default _ _ (by simpa using within)]
      rfl
  rw [element left, element right, same]

end Foundation
