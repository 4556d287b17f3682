import Noxis.Foundation.PhaseSchedule
import Noxis.Privacy.Poseidon2Air

namespace Noxis.Privacy

open Foundation

/-!
# The trace of one permutation

The smallest circuit runs the permutation once: one round in each of the first 29
rows, then rows that only repeat the state.  Every row determines the next one, so
the public input leaves no choice for the trace.
-/

/-- The columns of a row. -/
structure PermutationRow where
  state : State
  selectors : Fin 29 -> Val

/-- The circuit has the parameters of the permutation. -/
structure Poseidon2P24Air where
  permutation : Poseidon2P24Reference

namespace Poseidon2P24Air

variable (air : Poseidon2P24Air)

/-- What the constraints of the first row ask for. -/
def initialRow (input : State) : PermutationRow where
  state := matrixExpression air.permutation.externalMatrix input
  selectors selector := if selector.val = 0 then 1 else 0

/-- What the transition constraints ask of the next row. -/
def expectedNext (row : PermutationRow) : PermutationRow where
  state lane := row.state lane + ∑ round : Fin 29, row.selectors round *
    (roundExpression air.permutation row.state round lane - row.state lane)
  selectors selector :=
    if selector.val = 0 then 0 else row.selectors ⟨selector.val - 1, by omega⟩

variable {last : Nat}

/-- The constraints of the first row, of the selectors and of the transitions. -/
structure Runs (input : State) (trace : Fin (last + 1) -> PermutationRow) : Prop where
  firstRow : trace 0 = air.initialRow input
  transition : forall row : Fin last, trace row.succ = air.expectedNext (trace row.castSucc)

def LastRow (trace : Fin (last + 1) -> PermutationRow) (output : State) : Prop :=
  forall lane, (trace (Fin.last last)).state lane = output lane

theorem runs_iff {input : State} {trace : Fin (last + 1) -> PermutationRow} :
    air.Runs input trace <->
      trace = fun row => air.expectedNext^[row.val] (air.initialRow input) := by
  constructor
  · intro runs
    funext row
    induction row using Fin.induction with
    | zero => exact runs.firstRow
    | succ row ih =>
      rw [runs.transition, ih]
      exact (Function.iterate_succ_apply' ..).symm
  · intro isTrace
    subst isTrace
    refine ⟨rfl, ?_⟩
    intro row
    exact Function.iterate_succ_apply' ..

/-- A row shows the state after its rounds, and its selector is hot while there are
rounds left. -/
theorem iterate_expectedNext (input : State) (row : Nat) :
    air.expectedNext^[row] (air.initialRow input) =
      ⟨(List.range (min row 29)).foldl (roundExpression air.permutation)
        (matrixExpression air.permutation.externalMatrix input),
        fun selector => oneHot row selector.val⟩ := by
  induction row with
  | zero => rfl
  | succ row ih =>
    rw [Function.iterate_succ_apply', ih, expectedNext, PermutationRow.mk.injEq]
    constructor
    · funext lane
      dsimp only
      rw [Fin.sum_univ_eq_sum_range (fun round => oneHot row round *
        (roundExpression air.permutation _ round lane - _)) 29]
      by_cases running : row < 29
      · rw [sum_oneHot_mul running, add_sub_cancel, Nat.min_eq_left (Nat.le_of_lt running),
          Nat.min_eq_left running, List.range_succ, List.foldl_append]
        rfl
      · rw [Finset.sum_eq_zero, add_zero, Nat.min_eq_right (by omega), Nat.min_eq_right (by omega)]
        intro round inside
        rw [Finset.mem_range] at inside
        rw [oneHot_of_ne (by omega), zero_mul]
    · funext selector
      exact (shiftsRegister_oneHot 29 row selector.val selector.isLt).symm

/-- Every public input has exactly one trace of a given height, and the last row of
that trace accepts the permuted input and nothing else. -/
theorem permutation_trace_is_unique (air : Poseidon2P24Air) (extra : Nat) (input : State) :
    (∃! trace : Fin (31 + extra + 1) -> PermutationRow, air.Runs input trace) /\
    (forall trace : Fin (31 + extra + 1) -> PermutationRow, air.Runs input trace ->
      forall output, LastRow trace output <-> output = air.permutation.permutation input) := by
  constructor
  · refine ⟨_, air.runs_iff.mpr rfl, ?_⟩
    intro trace runs
    exact air.runs_iff.mp runs
  · intro trace runs output
    rw [LastRow, ← funext_iff, air.runs_iff.mp runs]
    dsimp only
    rw [iterate_expectedNext, permutation_eq_foldl, Fin.val_last, Nat.min_eq_right (by omega)]
    exact eq_comm

end Poseidon2P24Air
end Noxis.Privacy
