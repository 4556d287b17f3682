import Noxis.Privacy.Poseidon2

namespace Noxis.Privacy

open Foundation

/-!
# The permutation in a trace

The proofs about private notes run the permutation one round in each row.  A
row that ends a permutation prepares the state for the next one: it absorbs a
block, starts another hash, or only mixes the state.  Such a run is determined
by its first state and by what it prepares, and the states at the ends of the
permutations are those of the sponge.
-/

def matrixExpression (matrix : Fin 24 -> Fin 24 -> Val) (values : State) : State :=
  fun row => ∑ column, values column * matrix row column

def seventhPower (value : Val) : Val :=
  let square := value * value
  let fourth := square * square
  fourth * square * value

def isFullRound (round : Nat) : Bool := !(decide (4 <= round) && decide (round < 29 - 4))

def roundExpression (reference : Poseidon2P24Reference) (state : State) (round : Nat) : State :=
  if isFullRound round then
    matrixExpression reference.externalMatrix
      (fun lane => seventhPower (state lane + reference.roundConstants round lane))
  else
    matrixExpression reference.internalMatrix
      (Function.update state 0 (seventhPower (state 0 + reference.roundConstants round 0)))

theorem matrixExpression_eq_matmul (matrix : Fin 24 -> Fin 24 -> Val) (state : State) :
    matrixExpression matrix state = matmul matrix state := by
  funext row
  unfold matrixExpression matmul
  apply Finset.sum_congr rfl
  intro column _
  exact mul_comm _ _

variable (reference : Poseidon2P24Reference)

theorem roundExpression_full {round : Nat} (isFull : isFullRound round = true) (state : State) :
    roundExpression reference state round = reference.fullRound state round := by
  rw [roundExpression, if_pos isFull, matrixExpression_eq_matmul]
  rfl

theorem roundExpression_partial {round : Nat} (isPartial : isFullRound round = false)
    (state : State) :
    roundExpression reference state round = reference.partialRound state round := by
  rw [roundExpression, if_neg (by simp [isPartial]), matrixExpression_eq_matmul]
  rfl

/-- The permutation runs the rounds of the trace one after the other. -/
theorem permutation_eq_foldl (input : State) :
    reference.permutation input = (List.range 29).foldl (roundExpression reference)
      (matrixExpression reference.externalMatrix input) := by
  have rounds : List.range 29 = List.range' 0 4 ++ List.range' 4 21 ++ List.range' 25 4 := by
    decide
  have full {start : State} {indices : List Nat}
      (areFull : forall round, round ∈ indices -> isFullRound round = true) :
      indices.foldl (roundExpression reference) start =
        indices.foldl reference.fullRound start := by
    apply List.foldl_ext
    intro state round member
    exact roundExpression_full reference (areFull round member) state
  have inner (start : State) : (List.range' 4 21).foldl (roundExpression reference) start =
      (List.range' 4 21).foldl reference.partialRound start := by
    apply List.foldl_ext
    intro state round member
    apply roundExpression_partial reference
    revert round
    decide
  rw [rounds, List.foldl_append, List.foldl_append, full (by decide), inner, full (by decide),
    matrixExpression_eq_matmul]
  rfl

/-- What determines a run: the state of the first row and the state that a
phase hands to the next one. -/
structure PhasedRun where
  reference : Poseidon2P24Reference
  start : State
  target : Nat -> State -> State

namespace PhasedRun

variable (run : PhasedRun)

def mix (state : State) : State := matrixExpression run.reference.externalMatrix state

def step (phase round : Nat) (state : State) : State :=
  if round + 1 = 29 then run.target phase (roundExpression run.reference state 28)
  else roundExpression run.reference state round

/-- The state of a row. -/
def stateAt : Nat -> State
  | 0 => run.start
  | row + 1 => run.step (row / 29) (row % 29) (stateAt row)

def finish (phase : Nat) : State :=
  roundExpression run.reference (run.stateAt (29 * phase + 28)) 28

theorem stateAt_succ {round : Nat} (roundWithin : round < 29) (phase : Nat) :
    run.stateAt (29 * phase + round + 1) =
      run.step phase round (run.stateAt (29 * phase + round)) := by
  have isPhase : (29 * phase + round) / 29 = phase := by omega
  have isRound : (29 * phase + round) % 29 = round := by omega
  rw [stateAt, isPhase, isRound]

variable (phase : Nat)

/-- The rounds of a phase before its last one. -/
theorem stateAt_round {round : Nat} (roundWithin : round < 29) :
    run.stateAt (29 * phase + round) =
      (List.range round).foldl (roundExpression run.reference) (run.stateAt (29 * phase)) := by
  induction round with
  | zero => rw [Nat.add_zero, List.range_zero, List.foldl_nil]
  | succ round ih =>
    rw [← Nat.add_assoc, run.stateAt_succ (by omega) phase, ih (by omega),
      List.range_succ, List.foldl_append, List.foldl_cons, List.foldl_nil, step,
      if_neg (Nat.ne_of_lt roundWithin)]

/-- A phase that starts from a mixed state permutes the state before mixing. -/
theorem finish_of_mix {phase : Nat} {raw : State}
    (starts : run.stateAt (29 * phase) = run.mix raw) :
    run.finish phase = run.reference.permutation raw := by
  have lastRound : List.range 29 = List.range 28 ++ [28] := List.range_succ
  rw [finish, run.stateAt_round phase (by decide), starts, permutation_eq_foldl, lastRound,
    List.foldl_append, List.foldl_cons, List.foldl_nil, mix]

theorem stateAt_next : run.stateAt (29 * (phase + 1)) = run.target phase (run.finish phase) := by
  have atEnd := run.stateAt_succ (show 28 < 29 by decide) phase
  rw [Nat.add_assoc] at atEnd
  rw [Nat.mul_succ, atEnd, step, if_pos rfl, finish]

end PhasedRun

/-- The phases of one hash: `first` starts from the domain, the phases after it
absorb the later blocks, and the phase after `lastBlock` yields the last lane. -/
structure PhasedRun.HashesAt (run : PhasedRun) (iv : Fin 9 -> Val) (element : Nat -> Val)
    (first lastBlock : Nat) : Prop where
  starts : run.stateAt (29 * first) = run.mix (rawState iv element)
  absorbs : forall block, block < lastBlock -> forall state, run.target (first + block) state =
    run.mix (addBlock 15 (fun lane => element ((block + 1) * 15 + lane)) state)
  squeezes : forall state, run.target (first + lastBlock) state = run.mix state

/-- Absorbing the first block into an empty message is the starting state. -/
theorem addBlock_rawState (iv : Fin 9 -> Val) (element : Nat -> Val) :
    addBlock 15 element (rawState iv (fun _ => 0)) = rawState iv element := by
  funext lane
  unfold addBlock rawState
  by_cases inRate : lane.val < 15
  · rw [if_pos inRate, dif_pos inRate, dif_pos inRate, zero_add]
  · rw [if_neg inRate, dif_neg inRate, dif_neg inRate]

namespace PhasedRun
namespace HashesAt

variable {run : PhasedRun} {iv : Fin 9 -> Val} {element : Nat -> Val} {first lastBlock : Nat}

theorem finish_block (hashes : run.HashesAt iv element first lastBlock) {block : Nat}
    (blockWithin : block <= lastBlock) :
    run.finish (first + block) =
      absorbBlocks run.reference.permutation 15 element (rawState iv (fun _ => 0)) (block + 1) := by
  induction block with
  | zero =>
    rw [Nat.add_zero, run.finish_of_mix hashes.starts]
    simp only [absorbBlocks, Nat.zero_mul, Nat.zero_add, addBlock_rawState]
  | succ block ih =>
    have starts := run.stateAt_next (first + block)
    rw [hashes.absorbs block (by omega), ih (by omega)] at starts
    rw [← Nat.add_assoc]
    exact run.finish_of_mix starts

theorem finish_squeeze (hashes : run.HashesAt iv element first lastBlock) :
    run.finish (first + lastBlock + 1) =
      run.reference.permutation (run.finish (first + lastBlock)) := by
  have starts := run.stateAt_next (first + lastBlock)
  rw [hashes.squeezes] at starts
  exact run.finish_of_mix starts

/-- The states at the ends of two phases show the digest of the absorbed
elements. -/
theorem eq_squeeze_iff (hashes : run.HashesAt iv element first lastBlock) {digest : Digest} :
    digest = squeeze run.reference
        (absorbBlocks run.reference.permutation 15 element (rawState iv (fun _ => 0))
          (lastBlock + 1)) <->
      (forall lane : Fin 15, run.finish (first + lastBlock) (lane.castLE (by decide)) =
        digest (lane.castLE (by decide))) /\
      run.finish (first + lastBlock + 1) 0 = digest 15 := by
  rw [← hashes.finish_block (Nat.le_refl lastBlock), Privacy.eq_squeeze_iff, hashes.finish_squeeze]
  constructor
  · intro lanes
    exact ⟨fun lane => (lanes.1 lane).symm, lanes.2.symm⟩
  · intro lanes
    exact ⟨fun lane => (lanes.1 lane).symm, lanes.2.symm⟩

end HashesAt
end PhasedRun
end Noxis.Privacy
