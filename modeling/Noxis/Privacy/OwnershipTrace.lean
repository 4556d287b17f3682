import Noxis.Privacy.OwnershipAir

namespace Noxis.Privacy

open Foundation

/-!
# Traces of the ownership proof

The selectors leave a trace no freedom: the witness of the first row determines
every row.  What remains of the constraints is a comparison of digests at the
ends of the phases, and a comparison is made only when the trace is high enough
to reach its row.  A trace satisfies all constraints exactly when it follows its
witness and passes the comparisons that its height reaches.
-/

section
variable (air : Poseidon2P24OwnershipAir) (witness : OwnershipWitness)

/-- The run of permutations that a witness asks for. -/
def ownershipRun : PhasedRun where
  reference := air.candidate.reference
  start := air.initialStateExpression witness .addr
  target := air.phaseTransitionTarget witness

/-- The state after the row at a position. -/
def stepState (position : Position) (state : State) : State :=
  if position.done then state
  else (ownershipRun air witness).step position.phase position.round state

/-- The state of a row.  The last state stays. -/
def rowState (row : Nat) : State := (ownershipRun air witness).stateAt (min row 4118)

theorem rowState_of_le {row : Nat} (early : row <= 4118) :
    rowState air witness row = (ownershipRun air witness).stateAt row := by
  rw [rowState, Nat.min_eq_left early]

theorem rowState_succ (row : Nat) :
    rowState air witness (row + 1) =
      stepState air witness (ownershipSchedule.position row) (rowState air witness row) := by
  by_cases early : row < 4118
  · have position : ownershipSchedule.position row = ⟨row % 29, row / 29, false⟩ :=
      ownershipSchedule.position_of_lt early
    rw [rowState_of_le air witness early, rowState_of_le air witness (Nat.le_of_lt early),
      position, stepState, if_neg Bool.false_ne_true, PhasedRun.stateAt]
  · have position : ownershipSchedule.position row = ⟨28, 141, true⟩ :=
      ownershipSchedule.position_of_le (Nat.not_lt.mp early)
    rw [rowState, rowState, position, stepState, if_pos rfl, Nat.min_eq_right (by omega),
      Nat.min_eq_right (by omega)]

variable {air}

theorem expectedNext_of_shows {row position} (within : ownershipSchedule.Within position)
    (shows : ownershipSchedule.Shows row.selectors position) :
    air.expectedNext row = stepState air row.witness position row.state := by
  funext lane
  have selected := shows.select_round within (row.state lane) (fun round =>
    if round + 1 = 29 then
      row.state lane + ∑ phase ∈ Finset.range 142, row.selectors.phase phase *
        (air.phaseTransitionTarget row.witness phase
          (roundExpression air.candidate.reference row.state 28) lane - row.state lane)
    else roundExpression air.candidate.reference row.state round lane)
  have phase := shows.select_phase within (row.state lane) (fun phase =>
    air.phaseTransitionTarget row.witness phase
      (roundExpression air.candidate.reference row.state 28) lane)
  refine Eq.trans selected ?_
  unfold stepState PhasedRun.step
  by_cases isDone : position.done = true
  · rw [if_pos isDone, if_pos isDone]
  rw [if_neg isDone, if_neg isDone]
  by_cases isLast : position.round + 1 = 29
  · rw [if_pos isLast, if_pos isLast]
    exact phase
  · rw [if_neg isLast, if_neg isLast]
    rfl

end

section
variable {air : Poseidon2P24OwnershipAir} {height : Nat} {trace : Nat -> OwnershipRow}
  {witness : OwnershipWitness} {publicValues : OwnershipPublicValues}

/-- A row at its place in the trace of a witness. -/
structure RowFollows (air : Poseidon2P24OwnershipAir) (witness : OwnershipWitness) (index : Nat)
    (row : OwnershipRow) : Prop where
  sameWitness : row.witness = witness
  shows : ownershipSchedule.Shows row.selectors (ownershipSchedule.position index)
  state : row.state = rowState air witness index

/-- What the constraints compare at the ends of two phases, as far as a trace
of some height reaches them. -/
structure DigestAtEnd (air : Poseidon2P24OwnershipAir) (witness : OwnershipWitness)
    (height finalBlockPhase squeezePhase : Nat) (digest : Digest) : Prop where
  rate : 29 * finalBlockPhase + 28 < height -> forall lane : Fin 15,
    (ownershipRun air witness).finish finalBlockPhase (lane.castLE (by decide)) =
      digest (lane.castLE (by decide))
  last : 29 * squeezePhase + 28 < height ->
    (ownershipRun air witness).finish squeezePhase 0 = digest 15

/-- A digest is compared on the rows that end its two phases. -/
theorem RowFollows.digestAtPhase_iff {index : Nat} {row}
    (follows : RowFollows air witness index row) {finalBlockPhase squeezePhase : Nat}
    (blockWithin : finalBlockPhase < 142) (squeezeWithin : squeezePhase < 142) {digest} :
    air.DigestAtPhase row finalBlockPhase squeezePhase digest <->
      (index = 29 * finalBlockPhase + 28 -> forall lane : Fin 15,
        (ownershipRun air witness).finish finalBlockPhase (lane.castLE (by decide)) =
          digest (lane.castLE (by decide))) /\
      (index = 29 * squeezePhase + 28 ->
        (ownershipRun air witness).finish squeezePhase 0 = digest 15) := by
  have atEnd {phase : Nat} (phaseWithin : phase < 142) {value : Val} :
      (1 - row.selectors.done) * row.selectors.round 28 * row.selectors.phase phase * value = 0 <->
        (index = 29 * phase + 28 -> value = 0) := by
    have ends : (1 - row.selectors.done) * row.selectors.round 28 * row.selectors.phase phase *
        value = 0 <-> (ownershipSchedule.position index = ⟨28, phase, false⟩ -> value = 0) :=
      follows.shows.ends_phase_iff phaseWithin
    rw [ownershipSchedule.position_eq_iff (show 28 < 29 by decide) phaseWithin] at ends
    exact ends
  have isFinish {phase : Nat} (phaseWithin : phase < 142) (isEnd : index = 29 * phase + 28) :
      roundExpression air.candidate.reference row.state 28 =
        (ownershipRun air witness).finish phase := by
    rw [follows.state, isEnd, rowState_of_le air witness (by omega)]
    rfl
  constructor
  · intro digestAt
    refine ⟨?_, ?_⟩
    · intro isEnd lane
      rw [← isFinish blockWithin isEnd]
      exact sub_eq_zero.mp ((atEnd blockWithin).mp (digestAt.rate lane) isEnd)
    · intro isEnd
      rw [← isFinish squeezeWithin isEnd]
      exact sub_eq_zero.mp ((atEnd squeezeWithin).mp digestAt.last isEnd)
  · intro compared
    refine ⟨?_, ?_⟩
    · intro lane
      apply (atEnd blockWithin).mpr
      intro isEnd
      rw [isFinish blockWithin isEnd, compared.1 isEnd lane, sub_self]
    · apply (atEnd squeezeWithin).mpr
      intro isEnd
      rw [isFinish squeezeWithin isEnd, compared.2 isEnd, sub_self]

/-- All rows of a trace compare a digest exactly at the ends of its phases. -/
theorem digestAtPhase_rows_iff {finalBlockPhase squeezePhase : Nat}
    (blockWithin : finalBlockPhase < 142) (squeezeWithin : squeezePhase < 142) {digest}
    (follows : forall row, row < height -> RowFollows air witness row (trace row)) :
    (forall row, row < height ->
        air.DigestAtPhase (trace row) finalBlockPhase squeezePhase digest) <->
      DigestAtEnd air witness height finalBlockPhase squeezePhase digest := by
  constructor
  · intro compared
    have at_row {row : Nat} (within : row < height) :=
      ((follows row within).digestAtPhase_iff blockWithin squeezeWithin).mp (compared row within)
    exact ⟨fun within => (at_row within).1 rfl, fun within => (at_row within).2 rfl⟩
  · intro digestAt row within
    apply ((follows row within).digestAtPhase_iff blockWithin squeezeWithin).mpr
    refine ⟨?_, ?_⟩
    · intro isEnd
      exact digestAt.rate (by omega)
    · intro isEnd
      exact digestAt.last (by omega)

/-- What a satisfied trace says of its witness and the public values. -/
structure ComparesDigests (air : Poseidon2P24OwnershipAir) (witness : OwnershipWitness)
    (height : Nat) (publicValues : OwnershipPublicValues) : Prop where
  static : witness.Static
  recipient : DigestAtEnd air witness height 0 1 witness.recipientDigest
  note : DigestAtEnd air witness height 5 6 witness.noteDigest
  boundNoteCommitment : air.bindNoteCommitment = true ->
    witness.noteDigest = publicValues.noteCommitment
  nullifier : DigestAtEnd air witness height 9 10 publicValues.nullifier
  treeLeaf : DigestAtEnd air witness height 12 13 witness.treeLeafDigest
  nodes : forall level, level < 32 ->
    DigestAtEnd air witness height (nodePhase level 2) (nodePhase level 3)
      (if level + 1 = 32 then publicValues.root else extend witness.merkleIntermediates level)

theorem nodePhase_lt {level phaseInHash : Nat} (levelWithin : level < 32)
    (phaseWithin : phaseInHash < 4) : nodePhase level phaseInHash < 142 := by
  unfold nodePhase
  omega

/-! ## Satisfied traces -/

theorem rowFollows_of_satisfies (satisfied : air.Satisfies height trace publicValues) {row : Nat}
    (within : row < height) : RowFollows air (trace 0).witness row (trace row) := by
  induction row with
  | zero =>
    have relation := satisfied 0 within
    refine ⟨rfl, relation.firstSelectors rfl, ?_⟩
    rw [rowState_of_le air _ (by decide)]
    exact relation.firstState rfl
  | succ row ih =>
    have follows := ih (by omega)
    have relation := satisfied row (by omega)
    have inside := ownershipSchedule.position_within row
    have isTransition : row + 1 ≠ height := by omega
    rw [Nat.mod_eq_of_lt within] at relation
    refine ⟨(relation.constantWitness isTransition).trans follows.sameWitness, ?_, ?_⟩
    · rw [ownershipSchedule.position_succ]
      exact (PhaseSchedule.advances_iff_shows inside follows.shows).mp
        (relation.advances isTransition)
    · rw [relation.nextState isTransition, expectedNext_of_shows inside follows.shows,
        follows.sameWitness, follows.state, rowState_succ]

theorem comparesDigests_of_satisfies (nonempty : 0 < height)
    (satisfied : air.Satisfies height trace publicValues) :
    ComparesDigests air (trace 0).witness height publicValues := by
  have follows := fun row (within : row < height) => rowFollows_of_satisfies satisfied within
  have first := satisfied 0 nonempty
  have sameWitness {row : Nat} (within : row < height) := (follows row within).sameWitness
  refine ⟨first.static, ?_, ?_, first.boundNoteCommitment, ?_, ?_, ?_⟩
  · apply (digestAtPhase_rows_iff (by decide) (by decide) follows).mp
    intro row within
    rw [← sameWitness within]
    exact (satisfied row within).recipient
  · apply (digestAtPhase_rows_iff (by decide) (by decide) follows).mp
    intro row within
    rw [← sameWitness within]
    exact (satisfied row within).note
  · exact (digestAtPhase_rows_iff (by decide) (by decide) follows).mp
      (fun row within => (satisfied row within).nullifier)
  · apply (digestAtPhase_rows_iff (by decide) (by decide) follows).mp
    intro row within
    rw [← sameWitness within]
    exact (satisfied row within).treeLeaf
  · intro level levelWithin
    apply (digestAtPhase_rows_iff (nodePhase_lt levelWithin (by decide))
      (nodePhase_lt levelWithin (by decide)) follows).mp
    intro row within
    rw [← sameWitness within]
    exact (satisfied row within).nodes level levelWithin

/-- A trace that follows a witness satisfies the constraints when the witness
and the public values pass the comparisons. -/
theorem satisfies_of_follows
    (follows : forall row, row < height -> RowFollows air witness row (trace row))
    (compares : ComparesDigests air witness height publicValues) :
    air.Satisfies height trace publicValues := by
  intro row within
  have here := follows row within
  have inside := ownershipSchedule.position_within row
  have there (isTransition : row + 1 ≠ height) : (row + 1) % height = row + 1 /\
      RowFollows air witness (row + 1) (trace (row + 1)) :=
    ⟨Nat.mod_eq_of_lt (by omega), follows (row + 1) (by omega)⟩
  have digestAtPhase {finalBlockPhase squeezePhase : Nat} {digest : Digest}
      (blockWithin : finalBlockPhase < 142) (squeezeWithin : squeezePhase < 142)
      (digestAt : DigestAtEnd air witness height finalBlockPhase squeezePhase digest) :
      air.DigestAtPhase (trace row) finalBlockPhase squeezePhase digest :=
    (digestAtPhase_rows_iff blockWithin squeezeWithin follows).mpr digestAt row within
  have isDone := here.shows.done
  constructor
  case static =>
    rw [here.sameWitness]
    exact compares.static
  case constantWitness =>
    grind [RowFollows.sameWitness]
  case firstState =>
    intro isFirst
    rw [here.state, here.sameWitness, isFirst, rowState_of_le air _ (by decide)]
    rfl
  case firstSelectors =>
    intro isFirst
    have shows := here.shows
    subst isFirst
    exact shows
  case doneBoolean =>
    grind
  case advances =>
    intro isTransition
    have shows := (there isTransition).2.shows
    rw [(there isTransition).1]
    rw [ownershipSchedule.position_succ] at shows
    exact (PhaseSchedule.advances_iff_shows inside here.shows).mpr shows
  case nextState =>
    intro isTransition
    rw [(there isTransition).1, (there isTransition).2.state,
      expectedNext_of_shows inside here.shows, here.sameWitness, here.state, rowState_succ]
  case recipient =>
    grind [RowFollows.sameWitness, ComparesDigests.recipient]
  case note =>
    grind [RowFollows.sameWitness, ComparesDigests.note]
  case boundNoteCommitment =>
    rw [here.sameWitness]
    exact compares.boundNoteCommitment
  case nullifier => exact digestAtPhase (by decide) (by decide) compares.nullifier
  case treeLeaf =>
    grind [RowFollows.sameWitness, ComparesDigests.treeLeaf]
  case nodes =>
    intro level levelWithin
    rw [here.sameWitness]
    exact digestAtPhase (nodePhase_lt levelWithin (by decide))
      (nodePhase_lt levelWithin (by decide)) (compares.nodes level levelWithin)

/-- The row of a witness at a place of the trace. -/
def rowOf (air : Poseidon2P24OwnershipAir) (witness : OwnershipWitness) (row : Nat) :
    OwnershipRow where
  state := rowState air witness row
  selectors := {
    round := oneHot (ownershipSchedule.position row).round
    phase := oneHot (ownershipSchedule.position row).phase
    done := if (ownershipSchedule.position row).done then 1 else 0 }
  witness := witness

theorem rowFollows_rowOf (row : Nat) : RowFollows air witness row (rowOf air witness row) :=
  ⟨rfl, ⟨fun _ _ => rfl, fun _ _ => rfl, rfl⟩, rfl⟩

end
end Noxis.Privacy
