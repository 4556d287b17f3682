import Noxis.Privacy.OwnershipTrace

namespace Noxis.Privacy

open Foundation Poseidon2P24OwnershipAir

/-!
# Digests in the trace of the ownership proof

The phases of the trace are those of 36 hashes: the address of the key, the
note, the nullifier, the leaf, and one node on each level of the path.  In a
trace that reaches the end of a hash the compared digest is the digest of what
the hash absorbs.
-/

section
variable (air : Poseidon2P24OwnershipAir) (witness : OwnershipWitness)

variable {air witness} in
/-- In a trace that reaches the last phase of a hash, the comparisons ask for
the digest. -/
theorem digestAtEnd_iff {iv : Fin 9 -> Val} {element : Nat -> Val} {first lastBlock height : Nat}
    (hashes : (ownershipRun air witness).HashesAt iv element first lastBlock)
    (reached : 29 * (first + lastBlock + 1) + 28 < height) {digest : Digest} :
    DigestAtEnd air witness height (first + lastBlock) (first + lastBlock + 1) digest <->
      digest = digestOf air.candidate.reference iv element (lastBlock + 1) := by
  have shown := @PhasedRun.HashesAt.eq_squeeze_iff _ _ _ _ _ hashes digest
  constructor
  · intro digestAt
    exact shown.mpr ⟨digestAt.rate (by omega), digestAt.last reached⟩
  · intro isDigest
    have lanes := shown.mp isDigest
    exact ⟨fun _ => lanes.1, fun _ => lanes.2⟩

theorem hashesAt_addr : (ownershipRun air witness).HashesAt (air.candidate.noteIv .addr)
    (witness.domainElement .addr) 0 0 := by
  constructor
  case starts => rfl
  case absorbs =>
    intro block early
    exact absurd early (Nat.not_lt_zero block)
  case squeezes =>
    intro state
    rfl

theorem hashesAt_note : (ownershipRun air witness).HashesAt (air.candidate.noteIv .note)
    (witness.domainElement .note) 2 3 := by
  constructor
  case starts => exact (ownershipRun air witness).stateAt_next 1
  case absorbs =>
    intro block early state
    interval_cases block
    · rfl
    · rfl
    · rfl
  case squeezes =>
    intro state
    rfl

theorem hashesAt_nullifier : (ownershipRun air witness).HashesAt (air.candidate.noteIv .nullifier)
    (witness.domainElement .nullifier) 7 2 := by
  constructor
  case starts => exact (ownershipRun air witness).stateAt_next 6
  case absorbs =>
    intro block early state
    interval_cases block
    · rfl
    · rfl
  case squeezes =>
    intro state
    rfl

/-- The second block of a leaf has one element. -/
theorem leafSecondBlockExpression_eq (state : State) :
    air.leafSecondBlockExpression witness state =
      air.absorbThenPermuteExpression state (extend witness.noteDigest) 1 := by
  unfold leafSecondBlockExpression absorbThenPermuteExpression
  congr 1
  funext lane
  simp only [addBlock]
  by_cases isFirst : lane = 0
  · subst isFirst
    rw [Function.update_self, if_pos (by decide)]
    rfl
  · have later : 16 <= 1 * 15 + lane.val := by omega
    rw [Function.update_of_ne isFirst, extend_of_le _ later, add_zero, ite_self]

theorem hashesAt_leaf : (ownershipRun air witness).HashesAt (air.candidate.treeIv .leaf)
    (extend witness.noteDigest) 11 1 := by
  constructor
  case starts => exact (ownershipRun air witness).stateAt_next 10
  case absorbs =>
    intro block early state
    interval_cases block
    exact leafSecondBlockExpression_eq air witness state
  case squeezes =>
    intro state
    rfl

/-- The elements that the hash of a node absorbs. -/
def nodeElement (level index : Nat) : Val :=
  if index < 32 then witness.nodeInputExpression level index else 0

theorem nodeAbsorbExpression_eq (state : State) (level block : Nat) :
    air.nodeAbsorbExpression witness state level (block * 15) =
      air.absorbThenPermuteExpression state (nodeElement witness level) block := by
  unfold nodeAbsorbExpression absorbThenPermuteExpression
  congr 1
  funext lane
  simp only [addBlock, nodeElement]
  by_cases inRate : lane.val < 15
  · by_cases inside : block * 15 + lane.val < 32
    · rw [if_pos ⟨inRate, inside⟩, if_pos inRate, if_pos inside]
    · rw [if_neg (fun both => inside both.2), if_pos inRate, if_neg inside, add_zero]
  · rw [if_neg (fun both => inRate both.1), if_neg inRate]

theorem rawState_nodeElement (iv : Fin 9 -> Val) (level : Nat) :
    rawState iv (nodeElement witness level) = rawState iv (witness.nodeInputExpression level) := by
  funext lane
  unfold rawState nodeElement
  by_cases inRate : lane.val < 15
  · rw [dif_pos inRate, dif_pos inRate, if_pos (by omega)]
  · rw [dif_neg inRate, dif_neg inRate]

/-- The phases of a node. -/
theorem phaseTransitionTarget_node (level : Nat) (state : State) :
    air.phaseTransitionTarget witness (nodePhase level 0) state =
        air.nodeAbsorbExpression witness state level 15 /\
      air.phaseTransitionTarget witness (nodePhase level 1) state =
        air.nodeAbsorbExpression witness state level 30 /\
      air.phaseTransitionTarget witness (nodePhase level 2) state = air.mix state /\
      (level + 1 < 32 -> air.phaseTransitionTarget witness (nodePhase level 3) state =
        air.initialNodeStateExpression witness (level + 1)) := by
  have isNode (phaseInHash : Nat) : 14 <= nodePhase level phaseInHash := by
    unfold nodePhase
    omega
  have isLevel {phaseInHash : Nat} (phaseWithin : phaseInHash < 4) :
      (nodePhase level phaseInHash - 14) / 4 = level := by
    unfold nodePhase
    omega
  have isPhase {phaseInHash : Nat} (phaseWithin : phaseInHash < 4) :
      (nodePhase level phaseInHash - 14) % 4 = phaseInHash := by
    unfold nodePhase
    omega
  unfold phaseTransitionTarget
  refine ⟨?_, ?_, ?_, ?_⟩
  · simp only [if_pos (isNode 0), isLevel (show 0 < 4 by decide), isPhase (show 0 < 4 by decide)]
  · simp only [if_pos (isNode 1), isLevel (show 1 < 4 by decide), isPhase (show 1 < 4 by decide)]
  · simp only [if_pos (isNode 2), isPhase (show 2 < 4 by decide)]
  · intro levelWithin
    simp only [if_pos (isNode 3), isLevel (show 3 < 4 by decide), isPhase (show 3 < 4 by decide),
      if_pos levelWithin]

theorem stateAt_node {level : Nat} (levelWithin : level < 32) :
    (ownershipRun air witness).stateAt (29 * nodePhase level 0) =
      air.initialNodeStateExpression witness level := by
  cases level with
  | zero => exact (ownershipRun air witness).stateAt_next 13
  | succ level =>
    have same : nodePhase (level + 1) 0 = nodePhase level 3 + 1 := by
      unfold nodePhase
      omega
    rw [same, PhasedRun.stateAt_next]
    exact (phaseTransitionTarget_node air witness level _).2.2.2 levelWithin

theorem hashesAt_node {level : Nat} (levelWithin : level < 32) :
    (ownershipRun air witness).HashesAt (air.candidate.treeIv .node) (nodeElement witness level)
      (nodePhase level 0) 2 := by
  constructor
  case starts =>
    rw [stateAt_node air witness levelWithin, rawState_nodeElement]
    rfl
  case absorbs =>
    intro block early state
    have here := phaseTransitionTarget_node air witness level state
    have absorbed := nodeAbsorbExpression_eq air witness state level (block + 1)
    interval_cases block
    · exact here.1.trans absorbed
    · exact here.2.1.trans absorbed
  case squeezes =>
    intro state
    exact (phaseTransitionTarget_node air witness level state).2.2.1

end
end Noxis.Privacy
