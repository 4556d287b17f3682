import Noxis.Privacy.ValueConservation

namespace Noxis.Privacy

open Foundation Poseidon2P24ValueConservationAir

/-!
# The check of a witness

Before a prover builds a value trace it checks the four notes, and refuses sums
that overflow 128 bits.
-/

inductive StarkExperimentError where
  | invalidNxsmSegmentByteIndex (actual : Nat)
  | zeroValueConservationInput (index : Nat)
  | unsupportedValueConservationNoteVersion (index : Nat)
  | valueConservationAssetMismatch (index : Nat)
  | valueConservationOutputCommitmentMismatch (index : Nat)
  | valueConservationInputOverflow
  | valueConservationOutputOverflow
  | valueConservationMismatch
  | pinnedResearchProofEncode
  | pinnedResearchProofDecode
  | verificationFailed
deriving DecidableEq, Repr

/-- The sum of two values, unless it needs more than 128 bits. -/
def addValues (overflow : StarkExperimentError) (left right : Bytes 178) :
    Except StarkExperimentError Nat :=
  if noteValue left + noteValue right < 2 ^ 128 then
    .ok (noteValue left + noteValue right)
  else
    .error overflow

def validateNote (assetId : Bytes 32) (notePreimages : Fin 4 -> Bytes 178) (index : Fin 4) :
    Except StarkExperimentError Unit :=
  if (notePreimages index).toList.take 2 ≠ [0, 1] then
    .error (.unsupportedValueConservationNoteVersion index.val)
  else if ((notePreimages index).toList.drop 2).take 32 ≠ assetId.toList then
    .error (.valueConservationAssetMismatch index.val)
  else if noteValue (notePreimages index) = 0 /\ index.val < 2 then
    .error (.zeroValueConservationInput index.val)
  else
    .ok ()

def validateOutput (candidate : Poseidon2P24Candidate) (notePreimages : Fin 4 -> Bytes 178)
    (outputCommitments : Fin 2 -> Digest) (outputIndex : Fin 2) :
    Except StarkExperimentError Unit :=
  if candidate.hashNote (notePreimages (Fin.natAdd 2 outputIndex)) ≠
      outputCommitments outputIndex then
    .error (.valueConservationOutputCommitmentMismatch outputIndex.val)
  else
    .ok ()

def validateWitnessValues (candidate : Poseidon2P24Candidate)
    (notePreimages : Fin 4 -> Bytes 178) (assetId : Bytes 32)
    (outputCommitments : Option (Fin 2 -> Digest)) : Except StarkExperimentError Unit := do
  (List.finRange 4).forM (validateNote assetId notePreimages)
  let inputSum ← addValues .valueConservationInputOverflow (notePreimages 0) (notePreimages 1)
  let outputSum ← addValues .valueConservationOutputOverflow (notePreimages 2) (notePreimages 3)
  if inputSum ≠ outputSum then
    .error .valueConservationMismatch
  else
    match outputCommitments with
    | some commitments =>
      (List.finRange 2).forM (validateOutput candidate notePreimages commitments)
    | none => .ok ()

theorem addValues_eq_ok {overflow left right} {sum : Nat} :
    addValues overflow left right = .ok sum <->
      noteValue left + noteValue right < 2 ^ 128 /\ noteValue left + noteValue right = sum := by
  unfold addValues
  by_cases fits : noteValue left + noteValue right < 2 ^ 128
  · rw [if_pos fits, Except.ok.injEq]
    exact (and_iff_right fits).symm
  · rw [if_neg fits]
    simp only [reduceCtorEq, fits, false_and]

variable {assetId : Bytes 32} {notePreimages : Fin 4 -> Bytes 178}

theorem validateNote_eq_ok {index} : validateNote assetId notePreimages index = .ok () <->
      (notePreimages index).toList.take 34 = [0, 1] ++ assetId.toList /\
        (index.val < 2 -> noteValue (notePreimages index) ≠ 0) := by
  have header : (notePreimages index).toList.take 34 = [0, 1] ++ assetId.toList <->
      (notePreimages index).toList.take 2 = [0, 1] /\
        ((notePreimages index).toList.drop 2).take 32 = assetId.toList := by
    have split : (notePreimages index).toList.take 34 = (notePreimages index).toList.take 2 ++
        ((notePreimages index).toList.drop 2).take 32 := @List.take_add _ _ 2 32
    have width : ((notePreimages index).toList.take 2).length = 2 := by
      rw [List.length_take, (notePreimages index).length_toList]
      rfl
    rw [split]
    exact ⟨fun same => List.append_inj same width, fun same => congrArg₂ _ same.1 same.2⟩
  rw [header, validateNote, Except.refuse_eq_ok, Except.refuse_eq_ok, Except.refuse_eq_ok]
  simp only [not_not, and_true, not_and, and_assoc]
  rw [imp_not_comm]

variable {candidate : Poseidon2P24Candidate}

theorem validateOutput_eq_ok {outputCommitments outputIndex} :
    validateOutput candidate notePreimages outputCommitments outputIndex = .ok () <->
      candidate.hashNote (notePreimages (Fin.natAdd 2 outputIndex)) =
        outputCommitments outputIndex := by
  rw [validateOutput, Except.refuse_eq_ok, not_not]
  exact and_iff_left rfl

/-- The notes that pass. -/
theorem validateWitnessValues_eq_ok {outputCommitments} :
    validateWitnessValues candidate notePreimages assetId outputCommitments = .ok () <->
      (forall index, (notePreimages index).toList.take 34 = [0, 1] ++ assetId.toList /\
        (index.val < 2 -> noteValue (notePreimages index) ≠ 0)) /\
      (noteValue (notePreimages 0) + noteValue (notePreimages 1) < 2 ^ 128 /\
        noteValue (notePreimages 2) + noteValue (notePreimages 3) < 2 ^ 128) /\
      noteValue (notePreimages 0) + noteValue (notePreimages 1) =
        noteValue (notePreimages 2) + noteValue (notePreimages 3) /\
      (forall commitments, outputCommitments = some commitments -> forall outputIndex,
        candidate.hashNote (notePreimages (Fin.natAdd 2 outputIndex)) =
          commitments outputIndex) := by
  have outputs : (match outputCommitments with
      | some commitments =>
        (List.finRange 2).forM (validateOutput candidate notePreimages commitments)
      | none => .ok ()) = .ok () <->
      forall commitments, outputCommitments = some commitments -> forall outputIndex,
        candidate.hashNote (notePreimages (Fin.natAdd 2 outputIndex)) =
          commitments outputIndex := by
    cases outputCommitments with
    | none => simp
    | some commitments =>
      simp only [Except.forM_eq_ok, List.mem_finRange, true_implies, validateOutput_eq_ok,
        Option.some.injEq, forall_eq']
  have checks : (List.finRange 4).forM (validateNote assetId notePreimages) = .ok () <->
      forall index, (notePreimages index).toList.take 34 = [0, 1] ++ assetId.toList /\
        (index.val < 2 -> noteValue (notePreimages index) ≠ 0) := by
    simp only [Except.forM_eq_ok, List.mem_finRange, true_implies, validateNote_eq_ok]
  simp only [validateWitnessValues, Except.bind_eq_ok, addValues_eq_ok, Except.refuse_eq_ok,
    not_not, outputs]
  constructor
  · intro accepted
    rcases accepted with ⟨_, checked, inputSum, ⟨inputFits, rfl⟩, outputSum, ⟨outputFits, rfl⟩,
      balance, bound⟩
    exact ⟨checks.mp checked, ⟨inputFits, outputFits⟩, balance, bound⟩
  · intro accepted
    rcases accepted with ⟨checked, ⟨inputFits, outputFits⟩, balance, bound⟩
    exact ⟨(), checks.mpr checked, _, ⟨inputFits, rfl⟩, _, ⟨outputFits, rfl⟩, balance, bound⟩

end Noxis.Privacy
