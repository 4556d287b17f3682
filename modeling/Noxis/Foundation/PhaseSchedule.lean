import Mathlib.Algebra.BigOperators.Ring.Finset
import Mathlib.Tactic.Ring

namespace Foundation

/-!
# Rounds and phases in selector columns

An execution trace in a ring can count by one-hot columns: one column for each
round of a phase, one for each phase, and a flag that stays set once every
phase is over.  The constraints between two rows move the hot columns.  On a
row that shows a position, they hold exactly when the next row shows the next
position, so a trace that starts at the first position counts through all of
them.
-/

variable {F : Type} [CommRing F]

/-- A column family that is one at a single index. -/
def oneHot (hot index : Nat) : F := if index = hot then 1 else 0

theorem oneHot_self (hot : Nat) : (oneHot hot hot : F) = 1 := if_pos rfl

variable {hot index : Nat}

theorem oneHot_of_ne (different : index ≠ hot) : (oneHot hot index : F) = 0 :=
  if_neg different

variable {count : Nat}

theorem sum_oneHot_mul (within : hot < count) (value : Nat -> F) :
    ∑ index ∈ Finset.range count, oneHot hot index * value index = value hot := by
  rw [Finset.sum_eq_single_of_mem hot (Finset.mem_range.mpr within)]
  · rw [oneHot_self, one_mul]
  · intro index _ different
    rw [oneHot_of_ne different, zero_mul]

variable {step round phase : Nat}

variable {phases rounds : Nat}

/-- A grid of hot columns selects the value at a row and a column. -/
theorem sum_grid_oneHot_mul (within : step < phases * rounds) (value : Nat -> Nat -> F) :
    ∑ phase ∈ Finset.range phases, ∑ round ∈ Finset.range rounds,
        oneHot step (phase * rounds + round) * value phase round =
      value (step / rounds) (step % rounds) := by
  have positive : 0 < rounds := Nat.pos_of_mul_pos_left (Nat.zero_lt_of_lt within)
  have isStep : step / rounds * rounds + step % rounds = step := Nat.div_add_mod' step rounds
  have phaseWithin : step / rounds < phases := (Nat.div_lt_iff_lt_mul positive).mpr within
  have roundWithin : step % rounds < rounds := Nat.mod_lt step positive
  have place {phase round : Nat} (roundBelow : round < rounds)
      (isHot : phase * rounds + round = step) : phase = step / rounds /\ round = step % rounds := by
    subst isHot
    rw [Nat.mul_comm, Nat.mul_add_div positive, Nat.div_eq_of_lt roundBelow, Nat.add_zero,
      Nat.mul_add_mod, Nat.mod_eq_of_lt roundBelow]
    exact ⟨rfl, rfl⟩
  rw [Finset.sum_eq_single_of_mem (step / rounds) (Finset.mem_range.mpr phaseWithin),
    Finset.sum_eq_single_of_mem (step % rounds) (Finset.mem_range.mpr roundWithin), isStep,
    oneHot_self, one_mul]
  · grind [oneHot_of_ne]
  grind [Finset.sum_eq_zero, oneHot_of_ne]

/-- After the last step no column of the grid is hot. -/
theorem sum_grid_oneHot_mul_of_le (late : phases * rounds <= step) (value : Nat -> Nat -> F) :
    ∑ phase ∈ Finset.range phases, ∑ round ∈ Finset.range rounds,
        oneHot step (phase * rounds + round) * value phase round = 0 := by
  apply Finset.sum_eq_zero
  intro phase phaseInside
  apply Finset.sum_eq_zero
  intro round roundInside
  have phaseBelow := Finset.mem_range.mp phaseInside
  have roundBelow := Finset.mem_range.mp roundInside
  have below : (phase + 1) * rounds <= phases * rounds := Nat.mul_le_mul_right rounds phaseBelow
  rw [Nat.succ_mul] at below
  rw [oneHot_of_ne (by omega), zero_mul]

/-- The columns of a register on the first row. -/
def StartsRegister (count : Nat) (selectors : Nat -> F) : Prop :=
  forall index, index < count -> selectors index = if index = 0 then 1 else 0

/-- The columns of a register move by one. -/
def ShiftsRegister (count : Nat) (selectors following : Nat -> F) : Prop :=
  forall index, index < count -> following index = if index = 0 then 0 else selectors (index - 1)

/-- A register that is shifted with every row is hot at the row's number, and
cold once all its columns have been hot. -/
theorem register_eq_oneHot {height : Nat} {selectors : Nat -> Nat -> F}
    (starts : StartsRegister count (selectors 0)) (shifts : forall row, row + 1 < height ->
      ShiftsRegister count (selectors row) (selectors (row + 1))) {row : Nat}
    (within : row < height) (indexWithin : index < count) :
    selectors row index = oneHot row index := by
  induction row generalizing index with
  | zero => exact starts index indexWithin
  | succ row ih =>
    rw [shifts row within index indexWithin]
    by_cases isFirst : index = 0
    · rw [if_pos isFirst, oneHot_of_ne (by omega)]
    · rw [if_neg isFirst, ih (by omega) (by omega), oneHot, oneHot]
      congr 1
      exact propext (by omega)

theorem startsRegister_oneHot (count : Nat) : StartsRegister count (oneHot 0 : Nat -> F) :=
  fun _ _ => rfl

theorem shiftsRegister_oneHot (count row : Nat) :
    ShiftsRegister count (oneHot row : Nat -> F) (oneHot (row + 1)) := by
  intro index _
  by_cases isFirst : index = 0
  · rw [if_pos isFirst, oneHot_of_ne (by omega)]
  · rw [if_neg isFirst, oneHot, oneHot]
    congr 1
    exact propext (by omega)

/-- How many rounds a phase has and how many phases there are. -/
structure PhaseSchedule where
  rounds : Nat
  phases : Nat
  severalRounds : 2 <= rounds
  severalPhases : 2 <= phases

/-- A place in the schedule. -/
structure Position where
  round : Nat
  phase : Nat
  done : Bool
deriving DecidableEq

namespace PhaseSchedule

variable (schedule : PhaseSchedule)

def steps : Nat := schedule.rounds * schedule.phases

/-- The position at a step.  After the last step the last position stays, and
the schedule is done. -/
def position (step : Nat) : Position :=
  if step < schedule.steps then ⟨step % schedule.rounds, step / schedule.rounds, false⟩
  else ⟨schedule.rounds - 1, schedule.phases - 1, true⟩

def next (position : Position) : Position :=
  if position.done then position
  else if position.round + 1 < schedule.rounds then ⟨position.round + 1, position.phase, false⟩
  else if position.phase + 1 < schedule.phases then ⟨0, position.phase + 1, false⟩
  else ⟨position.round, position.phase, true⟩

/-- A position that the schedule passes. -/
structure Within (position : Position) : Prop where
  round : position.round < schedule.rounds
  phase : position.phase < schedule.phases
  last : position.done = true ->
    position.round + 1 = schedule.rounds /\ position.phase + 1 = schedule.phases

theorem position_of_lt (early : step < schedule.steps) :
    schedule.position step = ⟨step % schedule.rounds, step / schedule.rounds, false⟩ :=
  if_pos early

theorem position_of_le (late : schedule.steps <= step) :
    schedule.position step = ⟨schedule.rounds - 1, schedule.phases - 1, true⟩ :=
  if_neg (Nat.not_lt.mpr late)

theorem step_lt_steps (roundWithin : round < schedule.rounds)
    (phaseWithin : phase < schedule.phases) : schedule.rounds * phase + round < schedule.steps := by
  have whole : schedule.rounds * (phase + 1) <= schedule.steps :=
    Nat.mul_le_mul_left _ phaseWithin
  rw [Nat.mul_add, Nat.mul_one] at whole
  omega

theorem position_step (roundWithin : round < schedule.rounds)
    (phaseWithin : phase < schedule.phases) :
    schedule.position (schedule.rounds * phase + round) = ⟨round, phase, false⟩ := by
  rw [schedule.position_of_lt (schedule.step_lt_steps roundWithin phaseWithin),
    Nat.mul_add_mod, Nat.mod_eq_of_lt roundWithin,
    Nat.mul_add_div (Nat.zero_lt_of_lt roundWithin), Nat.div_eq_of_lt roundWithin, Nat.add_zero]

theorem exists_step (early : step < schedule.steps) :
    ∃ round phase, round < schedule.rounds /\ phase < schedule.phases /\
      step = schedule.rounds * phase + round := by
  have several := schedule.severalRounds
  refine ⟨step % schedule.rounds, step / schedule.rounds, Nat.mod_lt _ (by omega), ?_,
    (Nat.div_add_mod step schedule.rounds).symm⟩
  exact Nat.div_lt_of_lt_mul early

theorem position_eq_iff (roundWithin : round < schedule.rounds)
    (phaseWithin : phase < schedule.phases) :
    schedule.position step = ⟨round, phase, false⟩ <-> step = schedule.rounds * phase + round := by
  constructor
  · intro same
    by_cases early : step < schedule.steps
    · rw [schedule.position_of_lt early, Position.mk.injEq] at same
      rw [← same.1, ← same.2.1, Nat.div_add_mod]
    · rw [schedule.position_of_le (Nat.not_lt.mp early), Position.mk.injEq] at same
      cases same.2.2
  · intro isStep
    rw [isStep, schedule.position_step roundWithin phaseWithin]

theorem position_within (step : Nat) : schedule.Within (schedule.position step) := by
  have severalRounds := schedule.severalRounds
  have severalPhases := schedule.severalPhases
  by_cases early : step < schedule.steps
  · rcases schedule.exists_step early with ⟨round, phase, roundWithin, phaseWithin, rfl⟩
    rw [schedule.position_step roundWithin phaseWithin]
    exact ⟨roundWithin, phaseWithin, nofun⟩
  rw [schedule.position_of_le (Nat.not_lt.mp early)]
  refine ⟨?_, ?_, fun _ => ⟨?_, ?_⟩⟩
  · change schedule.rounds - 1 < schedule.rounds
    omega
  · change schedule.phases - 1 < schedule.phases
    omega
  · change schedule.rounds - 1 + 1 = schedule.rounds
    omega
  · change schedule.phases - 1 + 1 = schedule.phases
    omega

theorem position_succ (step : Nat) :
    schedule.position (step + 1) = schedule.next (schedule.position step) := by
  by_cases early : step < schedule.steps
  · rcases schedule.exists_step early with ⟨round, phase, roundWithin, phaseWithin, rfl⟩
    rw [schedule.position_step roundWithin phaseWithin, next]
    by_cases roundLeft : round + 1 < schedule.rounds
    · simp only [Bool.false_eq_true, if_false, roundLeft, if_true]
      exact schedule.position_step roundLeft phaseWithin
    have lastRound : round + 1 = schedule.rounds := by omega
    have wrapped : schedule.rounds * phase + round + 1 = schedule.rounds * (phase + 1) := by
      rw [Nat.mul_add, Nat.mul_one]
      omega
    simp only [Bool.false_eq_true, if_false, roundLeft]
    rw [wrapped]
    by_cases phaseLeft : phase + 1 < schedule.phases
    · rw [if_pos phaseLeft]
      exact schedule.position_step (Nat.zero_lt_of_lt roundWithin) phaseLeft
    · have lastPhase : phase + 1 = schedule.phases := by omega
      rw [if_neg phaseLeft, lastPhase, schedule.position_of_le
        (show schedule.steps <= schedule.rounds * schedule.phases from Nat.le_refl _)]
      congr 1 <;> omega
  · rw [schedule.position_of_le (by omega), schedule.position_of_le (by omega), next, if_pos rfl]

end PhaseSchedule

/-! ## Selector columns -/

/-- The selector columns of a row. -/
structure Selectors (F : Type) where
  round : Nat -> F
  phase : Nat -> F
  done : F

namespace PhaseSchedule

variable (schedule : PhaseSchedule)

/-- The columns of a row are those of a position. -/
structure Shows (selectors : Selectors F) (position : Position) : Prop where
  round : forall index, index < schedule.rounds ->
    selectors.round index = oneHot position.round index
  phase : forall index, index < schedule.phases ->
    selectors.phase index = oneHot position.phase index
  done : selectors.done = if position.done then 1 else 0

/-- The constraints between the selector columns of two rows. -/
structure Advances (selectors following : Selectors F) : Prop where
  done : following.done = selectors.done +
    selectors.round (schedule.rounds - 1) * selectors.phase (schedule.phases - 1) *
      (1 - selectors.done)
  firstRound : following.round 0 =
    selectors.round (schedule.rounds - 1) * (1 - selectors.phase (schedule.phases - 1))
  middleRound : forall index, 1 <= index -> index < schedule.rounds - 1 ->
    following.round index = selectors.round (index - 1)
  lastRound : following.round (schedule.rounds - 1) = selectors.round (schedule.rounds - 2) +
    selectors.round (schedule.rounds - 1) * selectors.phase (schedule.phases - 1)
  earlierPhase : forall index, index < schedule.phases - 1 ->
    following.phase index = selectors.phase index + selectors.round (schedule.rounds - 1) *
      ((if index = 0 then 0 else selectors.phase (index - 1)) - selectors.phase index)
  lastPhase : following.phase (schedule.phases - 1) = selectors.phase (schedule.phases - 1) +
    selectors.round (schedule.rounds - 1) * selectors.phase (schedule.phases - 2)

/-- What the constraints ask of the next row. -/
def following (selectors : Selectors F) : Selectors F where
  done := selectors.done + selectors.round (schedule.rounds - 1) *
    selectors.phase (schedule.phases - 1) * (1 - selectors.done)
  round index :=
    if index = 0 then
      selectors.round (schedule.rounds - 1) * (1 - selectors.phase (schedule.phases - 1))
    else if index = schedule.rounds - 1 then
      selectors.round (schedule.rounds - 2) +
        selectors.round (schedule.rounds - 1) * selectors.phase (schedule.phases - 1)
    else selectors.round (index - 1)
  phase index :=
    if index = schedule.phases - 1 then
      selectors.phase index + selectors.round (schedule.rounds - 1) * selectors.phase (index - 1)
    else
      selectors.phase index + selectors.round (schedule.rounds - 1) *
        ((if index = 0 then 0 else selectors.phase (index - 1)) - selectors.phase index)

variable {schedule}

section
variable {selectors : Selectors F} {done : Bool}

/-- Before its last round, a phase moves to its next round. -/
theorem shows_following_inner (shows : schedule.Shows selectors ⟨round, phase, false⟩)
    (roundLeft : round + 1 < schedule.rounds) :
    schedule.Shows (schedule.following selectors) ⟨round + 1, phase, false⟩ := by
  have several := schedule.severalPhases
  have notLast : selectors.round (schedule.rounds - 1) = 0 := by
    rw [shows.round _ (by omega), oneHot_of_ne (by dsimp only; omega)]
  refine ⟨?_, ?_, ?_⟩
  · intro index within
    have before := shows.round (index - 1) (by omega)
    have last := shows.round (schedule.rounds - 2) (by omega)
    simp only [following, notLast, before, last, oneHot]
    grind
  · intro index within
    have here := shows.phase index within
    simp only [following, notLast, here]
    grind
  · have isDone := shows.done
    simp only [following, notLast, isDone]
    grind

/-- After its last round, a phase makes room for the next one. -/
theorem shows_following_wrap (shows : schedule.Shows selectors ⟨round, phase, false⟩)
    (lastRound : round + 1 = schedule.rounds) (phaseLeft : phase + 1 < schedule.phases) :
    schedule.Shows (schedule.following selectors) ⟨0, phase + 1, false⟩ := by
  have several := schedule.severalRounds
  have isLast : selectors.round (schedule.rounds - 1) = 1 := by
    rw [shows.round _ (by omega), show schedule.rounds - 1 = round by omega, oneHot_self]
  have notLast : selectors.phase (schedule.phases - 1) = 0 := by
    rw [shows.phase _ (by omega), oneHot_of_ne (by dsimp only; omega)]
  refine ⟨?_, ?_, ?_⟩
  · intro index within
    have before := shows.round (index - 1) (by omega)
    have last := shows.round (schedule.rounds - 2) (by omega)
    grind [following, oneHot]
  · intro index within
    have before := shows.phase (index - 1) (by omega)
    grind [following, oneHot]
  · have isDone := shows.done
    simp only [following, isLast, notLast, isDone]
    grind

/-- The last position stays. -/
theorem shows_following_last (shows : schedule.Shows selectors ⟨round, phase, done⟩)
    (lastRound : round + 1 = schedule.rounds) (lastPhase : phase + 1 = schedule.phases) :
    schedule.Shows (schedule.following selectors) ⟨round, phase, true⟩ := by
  have severalRounds := schedule.severalRounds
  have severalPhases := schedule.severalPhases
  have isLast : selectors.round (schedule.rounds - 1) = 1 := by
    rw [shows.round _ (by omega), show schedule.rounds - 1 = round by omega, oneHot_self]
  have isLastPhase : selectors.phase (schedule.phases - 1) = 1 := by
    rw [shows.phase _ (by omega), show schedule.phases - 1 = phase by omega, oneHot_self]
  refine ⟨?_, ?_, ?_⟩
  · intro index within
    have before := shows.round (index - 1) (by omega)
    have last := shows.round (schedule.rounds - 2) (by omega)
    grind [following, oneHot]
  · intro index within
    have before := shows.phase (index - 1) (by omega)
    grind [following, oneHot]
  · simp only [following, isLast, isLastPhase]
    simp

end

variable {selectors : Selectors F} {position : Position}

theorem shows_following (within : schedule.Within position)
    (shows : schedule.Shows selectors position) :
    schedule.Shows (schedule.following selectors) (schedule.next position) := by
  rcases position with ⟨round, phase, done⟩
  have roundWithin : round < schedule.rounds := within.round
  have phaseWithin : phase < schedule.phases := within.phase
  cases done with
  | true =>
    rw [next, if_pos rfl]
    exact shows_following_last shows (within.last rfl).1 (within.last rfl).2
  | false =>
    simp only [next, Bool.false_eq_true, if_false]
    by_cases roundLeft : round + 1 < schedule.rounds
    · simp [shows_following_inner, *]
    rw [if_neg roundLeft]
    by_cases phaseLeft : phase + 1 < schedule.phases
    · rw [if_pos phaseLeft]
      exact shows_following_wrap shows (by omega) phaseLeft
    · rw [if_neg phaseLeft]
      exact shows_following_last shows (by omega) (by omega)

variable {next : Selectors F}

theorem advances_iff :
    schedule.Advances selectors next <->
      next.done = (schedule.following selectors).done /\
        (forall index, index < schedule.rounds ->
          next.round index = (schedule.following selectors).round index) /\
        forall index, index < schedule.phases ->
          next.phase index = (schedule.following selectors).phase index := by
  have severalRounds := schedule.severalRounds
  have severalPhases := schedule.severalPhases
  have notFirst : schedule.rounds - 1 ≠ 0 := by omega
  constructor
  · intro advances
    refine ⟨advances.done, ?_, ?_⟩
    · intro index within
      by_cases first : index = 0
      · rw [first]
        exact advances.firstRound
      by_cases last : index = schedule.rounds - 1
      · rw [last]
        simp only [following, if_neg notFirst, if_true]
        exact advances.lastRound
      · simp only [following, if_neg first, if_neg last]
        exact advances.middleRound index (by omega) (by omega)
    · intro index within
      by_cases last : index = schedule.phases - 1
      · rw [last]
        simp only [following, if_true]
        exact advances.lastPhase
      · simp only [following, if_neg last]
        exact advances.earlierPhase index (by omega)
  · intro same
    rcases same with ⟨sameDone, sameRound, samePhase⟩
    refine ⟨sameDone, sameRound 0 (by omega), ?_, ?_, ?_, ?_⟩
    · intro index positive early
      rw [sameRound index (by omega)]
      simp only [following, if_neg (show index ≠ 0 by omega), if_neg early.ne]
    · rw [sameRound _ (by omega)]
      simp only [following, if_neg notFirst, if_true]
    · intro index early
      rw [samePhase index (by omega)]
      simp only [following, if_neg early.ne]
    · rw [samePhase _ (by omega)]
      simp only [following, if_true]
      rfl

/-- On a row that shows a position, the constraints say that the next row shows
the next one. -/
theorem advances_iff_shows (within : schedule.Within position)
    (shows : schedule.Shows selectors position) :
    schedule.Advances selectors next <-> schedule.Shows next (schedule.next position) := by
  have expected := shows_following within shows
  rw [advances_iff]
  constructor
  · intro same
    rcases same with ⟨sameDone, sameRound, samePhase⟩
    refine ⟨?_, ?_, sameDone.trans expected.done⟩
    · intro index inside
      rw [sameRound index inside, expected.round index inside]
    · intro index inside
      rw [samePhase index inside, expected.phase index inside]
  · intro shown
    refine ⟨shown.done.trans expected.done.symm, ?_, ?_⟩
    · intro index inside
      rw [shown.round index inside, expected.round index inside]
    · intro index inside
      rw [shown.phase index inside, expected.phase index inside]

namespace Shows

variable {selectors : Selectors F} {position : Position}

theorem select_round (shows : schedule.Shows selectors position)
    (within : schedule.Within position) (current : F) (target : Nat -> F) :
    current + ∑ index ∈ Finset.range schedule.rounds,
        (1 - selectors.done) * selectors.round index * (target index - current) =
      if position.done then current else target position.round := by
  have hot : ∑ index ∈ Finset.range schedule.rounds,
      (1 - selectors.done) * selectors.round index * (target index - current) =
        (1 - selectors.done) * (target position.round - current) := by
    rw [← sum_oneHot_mul within.round (fun index => target index - current), Finset.mul_sum]
    apply Finset.sum_congr rfl
    intro index inside
    rw [shows.round index (Finset.mem_range.mp inside), mul_assoc]
  grind [done]

theorem select_phase (shows : schedule.Shows selectors position)
    (within : schedule.Within position) (current : F) (target : Nat -> F) :
    current + ∑ index ∈ Finset.range schedule.phases,
        selectors.phase index * (target index - current) = target position.phase := by
  have hot : ∑ index ∈ Finset.range schedule.phases,
      selectors.phase index * (target index - current) = target position.phase - current := by
    rw [← sum_oneHot_mul within.phase (fun index => target index - current)]
    apply Finset.sum_congr rfl
    intro index inside
    rw [shows.phase index (Finset.mem_range.mp inside)]
  rw [hot, add_sub_cancel]

/-- A constraint that is multiplied by the last round of a phase is one about
the step that ends the phase. -/
theorem ends_phase_iff [Nontrivial F] (shows : schedule.Shows selectors position) {phase : Nat}
    (phaseWithin : phase < schedule.phases) {value : F} :
    (1 - selectors.done) * selectors.round (schedule.rounds - 1) * selectors.phase phase * value =
        0 <->
      (position = ⟨schedule.rounds - 1, phase, false⟩ -> value = 0) := by
  have several := schedule.severalRounds
  rw [shows.done, shows.round _ (by omega), shows.phase _ phaseWithin]
  rcases position with ⟨round, hotPhase, done⟩
  simp only [oneHot, Position.mk.injEq]
  grind

end Shows
end PhaseSchedule
end Foundation
