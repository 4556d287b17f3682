import Noxis.Privacy.PrivateLedger
import Noxis.Privacy.ProofBundle

namespace Noxis.Privacy

open Foundation CanonicalVector

/-!
# What an accepted bundle binds

The checks of a bundle compare identities, arrays of 32-bit numbers, canonical
vectors and positions.  Together they leave no freedom: the proof in a slot is
about the nullifier of that slot, the note root of the anchor and the input note
whose value is conserved.
-/

variable {P : Type} {backend : StarkBackend P} {privacy : Poseidon2P24PrivacyReference}

theorem verifyP24NoteOwnershipProof_eq_ok {proof result} :
    verifyP24NoteOwnershipProof backend privacy proof = .ok result <->
      backend.verifyOwnership ⟨privacy.candidate, proof.boundNoteCommitment.isSome⟩ proof.proof
        proof.publicValues = true /\ proof.publicResult = result := by
  unfold verifyP24NoteOwnershipProof
  by_cases accepted : backend.verifyOwnership
      ⟨privacy.candidate, proof.boundNoteCommitment.isSome⟩ proof.proof proof.publicValues = true
  · rw [if_pos accepted, Except.ok.injEq]
    exact (and_iff_right accepted).symm
  rw [if_neg accepted]
  constructor
  · intro impossible
    cases impossible
  · intro both
    exact absurd both.1 accepted

variable {result : Poseidon2P24IntentValueConservationExperimentResult}
  {intent : PrivateTransferIntentV2}

theorem verifyP24IntentValueConservationProof_eq_ok {proof} :
    verifyP24IntentValueConservationProof backend privacy proof intent = .ok result <->
      (proof.publicResult.values.assetId = intent.assetId.bytes /\
        proof.publicResult.intent.traceRows = intentValueTraceRows /\
        proof.publicResult.values.traceRows = intentValueTraceRows /\
        proof.publicResult.traceRows = intentValueTraceRows) /\
      backend.verifyIntentValue (intentValueAir privacy) proof.proof
        (intentValuePublicValues intent proof.publicResult) = true /\
      proof.publicResult = result := by
  simp only [verifyP24IntentValueConservationProof, Except.refuse_eq_ok, not_or, not_not]
  by_cases accepted : backend.verifyIntentValue (intentValueAir privacy) proof.proof
      (intentValuePublicValues intent proof.publicResult) = true
  · rw [if_pos accepted, Except.ok.injEq, and_iff_right accepted]
  rw [if_neg accepted]
  constructor
  · intro impossible
    cases impossible.2
  · intro both
    exact absurd both.2.1 accepted

theorem validateInputIndex_slotIndex (slot : Fin 2) :
    validateInputIndex (slotIndex slot) = .ok slot := by
  fin_cases slot
  · rfl
  · rfl

/-- The output slots of an accepted value result are those of the intent. -/
theorem validateIntentValueResult_eq_ok {statement} :
    validateIntentValueResult statement result = .ok () <->
      result.intent.intentCommitment = statement.airPublicInputs.intentCommitment /\
      result.values.assetId = statement.airPublicInputs.intent.assetId.bytes /\
      forall outputIndex, result.values.noteCommitments (Fin.natAdd 2 outputIndex) =
        (statement.airPublicInputs.intent.outputs outputIndex).commitment.elements := by
  simp only [validateIntentValueResult, Except.refuse_eq_ok, not_not, Except.forM_eq_ok,
    List.mem_finRange, true_implies, Except.bind_eq_ok, Except.mapError_eq_ok,
    fromElements_eq_ok, and_true]
  have outputs (outputIndex : Fin 2) : (∃ actual : NoteCommitmentV2,
      actual.elements = result.values.noteCommitments (Fin.natAdd 2 outputIndex) /\
        actual = (statement.airPublicInputs.intent.outputs outputIndex).commitment) <->
      result.values.noteCommitments (Fin.natAdd 2 outputIndex) =
        (statement.airPublicInputs.intent.outputs outputIndex).commitment.elements := by
    constructor
    · intro named
      rcases named with ⟨actual, isElements, same⟩
      rw [← isElements, same]
    · intro same
      exact ⟨_, same.symm, rfl⟩
  simp only [outputs]

section
variable [Sha256] {reference : NullifierSparseTreeReferenceV1}
  {statement : CandidatePrivateTransferProofPublicStatementV1}
  {tree : NullifierSparseTreeStateV1} {nxsmWitness : CandidateNxsmNullifierTransitionWitnessV1}
  {slot : Fin 2} {result : Poseidon2P24OwnershipExperimentResult}

/-- An ownership result passes in a slot when it repeats the slot's nullifier and
the note root. -/
theorem validatePublicResult_eq_ok :
    validatePublicResult reference privacy statement tree nxsmWitness (slotIndex slot) result =
        .ok () <->
      statement.revalidate reference privacy tree = .ok () /\
      nxsmWitness.revalidate reference statement.nullifierTransition = .ok () /\
      result.root = statement.anchor.noteRoot.elements /\
      result.nullifier = (statement.airPublicInputs.intent.nullifiers slot).elements := by
  simp only [validatePublicResult, validateInputIndex_slotIndex, Except.bind_eq_ok,
    Except.mapError_eq_ok, Except.refuse_eq_ok, not_not, fromElements_eq_ok,
    and_true]
  constructor
  · intro checked
    rcases checked with ⟨index, isSlot, _, revalidated, _, replayed, noteRoot, isRoot, sameRoot,
      nullifier, isNullifier, sameNullifier⟩
    cases isSlot
    rw [sameRoot] at isRoot
    rw [sameNullifier] at isNullifier
    exact ⟨revalidated, replayed, isRoot.symm, isNullifier.symm⟩
  · intro checked
    rcases checked with ⟨revalidated, replayed, isRoot, isNullifier⟩
    exact ⟨slot, rfl, (), revalidated, (), replayed, _, isRoot.symm, rfl, _, isNullifier.symm, rfl⟩

/-- A proof for the input of a slot passes when it is bound to the statement, the proof
system accepts it and its public values are those of the slot. -/
theorem verifyCandidateAnchoredOwnership_eq_ok {anchored : CandidateAnchoredOwnershipProofV1 P}
    (isSlot : anchored.inputIndex = slotIndex slot) :
    verifyCandidateAnchoredOwnership backend reference privacy anchored statement tree
        nxsmWitness = .ok result <->
      anchored.statementId = statement.statementId /\
      statement.revalidate reference privacy tree = .ok () /\
      nxsmWitness.revalidate reference statement.nullifierTransition = .ok () /\
      backend.verifyOwnership
        ⟨privacy.candidate, anchored.ownershipProof.boundNoteCommitment.isSome⟩
        anchored.ownershipProof.proof anchored.ownershipProof.publicValues = true /\
      anchored.ownershipProof.publicResult = result /\
      result.root = statement.anchor.noteRoot.elements /\
      result.nullifier = (statement.airPublicInputs.intent.nullifiers slot).elements := by
  simp only [verifyCandidateAnchoredOwnership, isSlot, validateInputIndex_slotIndex,
    Except.bind_eq_ok, Except.mapError_eq_ok, Except.refuse_eq_ok, not_not,
    verifyP24NoteOwnershipProof_eq_ok, Except.ok.injEq]
  constructor
  · intro checked
    rcases checked with ⟨sameStatement, _, _, _, revalidated, _, replayed, found,
      ⟨accepted, isFound⟩, _, valid, isResult⟩
    subst isResult
    have parts := validatePublicResult_eq_ok.mp valid
    exact ⟨sameStatement, revalidated, replayed, accepted, isFound, parts.2.2⟩
  · intro checked
    rcases checked with ⟨sameStatement, revalidated, replayed, accepted, isResult, values⟩
    exact ⟨sameStatement, slot, rfl, (), revalidated, (), replayed, result, ⟨accepted, isResult⟩, (),
      validatePublicResult_eq_ok.mpr ⟨revalidated, replayed, values⟩, rfl⟩

/-! ## Accepted bundles -/

variable {bundle : CandidatePrivateTransferProofBundleV1 P}

theorem verifyCandidatePrivateTransferProofBundle_eq_ok {results} :
    verifyCandidatePrivateTransferProofBundle backend reference privacy bundle statement tree =
        .ok results <->
      bundle.statementId = statement.statementId /\
      statement.revalidate reference privacy tree = .ok () /\
      validateReceipts bundle.receipts statement = .ok () /\
      ∃ nxsmWitness, CandidateNxsmNullifierTransitionWitnessV1.fromPreTree reference tree
          statement.airPublicInputs.intent = .ok nxsmWitness /\
        verifyP24IntentValueConservationProof backend privacy bundle.intentValue
          statement.airPublicInputs.intent = .ok results.intentValue /\
        validateIntentValueResult statement results.intentValue = .ok () /\
        (forall slot, verifyCandidateAnchoredOwnership backend reference privacy
          (bundle.inputOwnership slot) statement tree nxsmWitness =
            .ok (results.inputOwnership slot)) /\
        forall slot, requireBinding bundle results.intentValue slot = .ok () := by
  simp only [verifyCandidatePrivateTransferProofBundle, Except.bind_eq_ok, Except.mapError_eq_ok,
    Except.refuse_eq_ok, not_not, Except.ok.injEq]
  constructor
  · intro checked
    rcases checked with ⟨sameStatement, _, revalidated, _, receipts, nxsmWitness, isWitness,
      intentValue, conserved, _, valid, first, isFirst, second, isSecond, _, bound, isResults⟩
    subst isResults
    exact ⟨sameStatement, revalidated, receipts, nxsmWitness, isWitness, conserved, valid,
      Fin.forall_fin_two.mpr ⟨isFirst, isSecond⟩,
      fun slot => Except.forM_eq_ok.mp bound slot (List.mem_finRange slot)⟩
  · intro checked
    rcases checked with ⟨sameStatement, revalidated, receipts, nxsmWitness, isWitness, conserved,
      valid, owned, bound⟩
    refine ⟨sameStatement, (), revalidated, (), receipts, nxsmWitness, isWitness, _, conserved, (),
      valid, _, owned 0, _, owned 1, (), Except.forM_eq_ok.mpr (fun slot _ => bound slot), ?_⟩
    rw [show ![results.inputOwnership 0, results.inputOwnership 1] = results.inputOwnership from
      List.ofFn_injective rfl]

omit [Sha256] in
/-- A decoded ownership proof carries its index and the statement's public values. -/
theorem of_decodeOwnership_eq_ok {inputIndex bytes publicResult noteCommitment anchored}
    (decoded : decodeCandidateAnchoredOwnershipBoundNoteCommitment backend statement inputIndex bytes
      publicResult noteCommitment = .ok anchored) :
    ∃ proof, backend.fromBytes bytes = some proof /\
      anchored = ⟨⟨proof, publicResult, some noteCommitment⟩, inputIndex, statement.statementId⟩ := by
  rcases Except.bind_eq_ok.mp decoded with ⟨_, _, decoded⟩
  split at decoded
  · cases decoded
  · rename_i proof isProof
    exact ⟨proof, isProof, (Except.ok.inj decoded).symm⟩

theorem inputIndex_of_proveOwnership {inputIndex witness noteCommitment anchored}
    (proved : proveCandidateAnchoredOwnershipBoundNoteCommitment backend reference privacy statement
      tree nxsmWitness inputIndex witness noteCommitment = .ok anchored) :
    anchored.inputIndex = inputIndex := by
  rcases Except.bind_eq_ok.mp proved with ⟨_, _, proved⟩
  rcases Except.bind_eq_ok.mp proved with ⟨_, _, proved⟩
  rcases Except.bind_eq_ok.mp proved with ⟨_, _, proved⟩
  rcases Except.bind_eq_ok.mp proved with ⟨ownershipProof, _, proved⟩
  rcases Except.bind_eq_ok.mp proved with ⟨_, _, isAnchored⟩
  rw [← Except.ok.inj isAnchored]

section
variable {inputNoteCommitments : Fin 2 -> BabyBearDigest} {intentValueProofBytes : List UInt8}
  {inputOwnershipProofBytes : Fin 2 -> List UInt8}
  (decoded : decodePinnedResearchTransportParts backend statement inputNoteCommitments
  intentValueProofBytes inputOwnershipProofBytes = .ok bundle)

include decoded

/-- A decoded bundle carries the statement's public values. -/
theorem of_decode_eq_ok :
    bundle.statementId = statement.statementId /\ bundle.receipts = expectedReceipts statement /\
      (∃ proof, backend.fromBytes intentValueProofBytes = some proof /\
        bundle.intentValue = ⟨proof, statedIntentValueResult statement inputNoteCommitments⟩) /\
      forall slot, ∃ proof, backend.fromBytes (inputOwnershipProofBytes slot) = some proof /\
        bundle.inputOwnership slot =
          ⟨⟨proof, statedOwnershipResult statement slot, some (inputNoteCommitments slot)⟩,
            slotIndex slot, statement.statementId⟩ := by
  unfold decodePinnedResearchTransportParts at decoded
  dsimp only at decoded
  split at decoded
  · cases decoded
  rename_i proof isProof
  rcases Except.bind_eq_ok.mp decoded with ⟨first, isFirst, decoded⟩
  rcases Except.bind_eq_ok.mp decoded with ⟨second, isSecond, isBundle⟩
  rw [← Except.ok.inj isBundle]
  exact ⟨rfl, rfl, ⟨proof, isProof, rfl⟩, Fin.forall_fin_two.mpr
    ⟨of_decodeOwnership_eq_ok (Except.mapError_eq_ok.mp isFirst),
      of_decodeOwnership_eq_ok (Except.mapError_eq_ok.mp isSecond)⟩⟩

/-- A decoded bundle is accepted when its statement is valid for the tree and the
proof system accepts the three instances that the statement determines. -/
theorem exists_verified_of_decode
    (revalidated : statement.revalidate reference privacy tree = .ok ())
    (isWitness : CandidateNxsmNullifierTransitionWitnessV1.fromPreTree reference tree
      statement.airPublicInputs.intent = .ok nxsmWitness)
    (replayed : nxsmWitness.revalidate reference statement.nullifierTransition = .ok ())
    (conserves : forall proof, backend.fromBytes intentValueProofBytes = some proof ->
      backend.verifyIntentValue (intentValueAir privacy) proof
        (intentValuePublicValues statement.airPublicInputs.intent
          (statedIntentValueResult statement inputNoteCommitments)) = true)
    (owns : forall slot proof, backend.fromBytes (inputOwnershipProofBytes slot) = some proof ->
      backend.verifyOwnership ⟨privacy.candidate, true⟩ proof
        (Poseidon2P24OwnershipProof.publicValues
          ⟨proof, statedOwnershipResult statement slot, some (inputNoteCommitments slot)⟩) = true) :
    ∃ results, verifyCandidatePrivateTransferProofBundle backend reference privacy bundle statement
      tree = .ok results := by
  rcases of_decode_eq_ok decoded with
    ⟨sameStatement, receipts, ⟨valueProof, isValueProof, isValue⟩, slots⟩
  refine ⟨⟨statedIntentValueResult statement inputNoteCommitments, statedOwnershipResult statement⟩,
    verifyCandidatePrivateTransferProofBundle_eq_ok.mpr ⟨sameStatement, revalidated, ?_,
      nxsmWitness, isWitness, ?_, ?_, ?_, ?_⟩⟩
  · rw [receipts]
    refine Except.refuse_eq_ok.mpr ⟨not_not.mpr rfl, Except.forM_eq_ok.mpr (fun slot _ => ?_)⟩
    exact if_neg (not_not.mpr rfl)
  · apply verifyP24IntentValueConservationProof_eq_ok.mpr
    rw [isValue]
    exact ⟨⟨rfl, rfl, rfl, rfl⟩, conserves valueProof isValueProof, rfl⟩
  · apply validateIntentValueResult_eq_ok.mpr
    exact ⟨rfl, rfl, Fin.forall_fin_two.mpr ⟨rfl, rfl⟩⟩
  · intro slot
    rcases slots slot with ⟨proof, isProof, isSlot⟩
    rw [isSlot]
    exact (verifyCandidateAnchoredOwnership_eq_ok rfl).mpr
      ⟨rfl, revalidated, replayed, owns slot proof isProof, rfl, rfl, rfl⟩
  · intro slot
    rcases slots slot with ⟨proof, isProof, isSlot⟩
    apply Except.refuse_eq_ok.mpr
    rw [isSlot, not_not]
    refine ⟨?_, rfl⟩
    fin_cases slot
    · rfl
    · rfl

end

/-- The instance of a slot: the nullifier of the slot, the note root of the anchor and the
commitment that a value result names for the input of the slot. -/
def slotPublicValues (statement : CandidatePrivateTransferProofPublicStatementV1)
    (result : Poseidon2P24IntentValueConservationExperimentResult) (slot : Fin 2) :
    OwnershipPublicValues where
  nullifier := (statement.airPublicInputs.intent.nullifiers slot).digest
  root := statement.anchor.noteRoot.digest
  noteCommitment := (result.values.noteCommitments (slot.castAdd 2)).toDigest

/-- Both sources of bundles put the proof of an input into the slot of that input. -/
theorem CandidatePrivateTransferProofBundleV1.Constructed.inputIndex_eq
    (constructed : bundle.Constructed backend reference privacy) (slot : Fin 2) :
    (bundle.inputOwnership slot).inputIndex = slotIndex slot := by
  cases constructed with
  | proved proved =>
    rcases Except.bind_eq_ok.mp proved with ⟨_, _, proved⟩
    rcases Except.bind_eq_ok.mp proved with ⟨_, _, proved⟩
    rcases Except.bind_eq_ok.mp proved with ⟨_, _, proved⟩
    rcases Except.bind_eq_ok.mp proved with ⟨_, _, proved⟩
    rcases Except.bind_eq_ok.mp proved with ⟨_, _, proved⟩
    rcases Except.bind_eq_ok.mp proved with ⟨first, isFirst, proved⟩
    rcases Except.bind_eq_ok.mp proved with ⟨second, isSecond, proved⟩
    rcases Except.bind_eq_ok.mp proved with ⟨_, _, isBundle⟩
    rw [← Except.ok.inj isBundle]
    fin_cases slot
    · exact inputIndex_of_proveOwnership (Except.mapError_eq_ok.mp isFirst)
    · exact inputIndex_of_proveOwnership (Except.mapError_eq_ok.mp isSecond)
  | decoded decoded =>
    rcases (of_decode_eq_ok decoded).2.2.2 slot with ⟨_, _, isSlot⟩
    rw [isSlot]

end

def frozenParameters : TreeParametersV2 := ⟨candidateTreeParametersId⟩

/-- In an accepted bundle the proof system has accepted, in each slot, the instance with
the nullifier of the slot, the note root of the anchor and the commitment that the value
instance uses for the input of that slot.  The value instance has the intent's outputs
and asset, and the two nullifiers are different and unspent. -/
theorem accepted_bundle_binds_slots [Sha256] (backend : StarkBackend P)
    (reference : NullifierSparseTreeReferenceV1) (privacy : Poseidon2P24PrivacyReference)
    (bundle : CandidatePrivateTransferProofBundleV1 P)
    (statement : CandidatePrivateTransferProofPublicStatementV1)
    (tree : NullifierSparseTreeStateV1) (results : CandidatePrivateTransferProofBundleResultsV1)
    (constructed : bundle.Constructed backend reference privacy)
    (verified : verifyCandidatePrivateTransferProofBundle backend reference privacy bundle
      statement tree = .ok results) :
    (forall slot : Fin 2,
      backend.verifyOwnership ⟨privacy.candidate, true⟩
          (bundle.inputOwnership slot).ownershipProof.proof
          (slotPublicValues statement results.intentValue slot) = true /\
      results.inputOwnership slot = (bundle.inputOwnership slot).ownershipProof.publicResult /\
      (results.inputOwnership slot).nullifier =
        (statement.airPublicInputs.intent.nullifiers slot).elements /\
      (results.inputOwnership slot).root = statement.anchor.noteRoot.elements /\
      (bundle.inputOwnership slot).ownershipProof.boundNoteCommitment =
        some (results.intentValue.values.noteCommitments (slot.castLE (by decide)))) /\
    (backend.verifyIntentValue (intentValueAir privacy) bundle.intentValue.proof
        (intentValuePublicValues statement.airPublicInputs.intent results.intentValue) = true /\
      results.intentValue = bundle.intentValue.publicResult) /\
    (forall output : Fin 2, results.intentValue.values.noteCommitments (Fin.natAdd 2 output) =
      (statement.airPublicInputs.intent.outputs output).commitment.elements) /\
    results.intentValue.values.assetId = statement.airPublicInputs.intent.assetId.bytes /\
    statement.airPublicInputs.intent.nullifiers 0 ≠
      statement.airPublicInputs.intent.nullifiers 1 /\
    forall slot, tree.isSpent (statement.airPublicInputs.intent.nullifiers slot) = false := by
  rcases verifyCandidatePrivateTransferProofBundle_eq_ok.mp verified with
    ⟨_, revalidated, _, nxsmWitness, _, conserved, valid, owned, bound⟩
  rcases verifyP24IntentValueConservationProof_eq_ok.mp conserved with ⟨_, accepted, isResult⟩
  rcases validateIntentValueResult_eq_ok.mp valid with ⟨_, sameAsset, sameOutputs⟩
  rw [isResult] at accepted
  refine ⟨?_, ⟨accepted, isResult.symm⟩, sameOutputs, sameAsset,
    statement.airPublicInputs.intent.nullifiers_ne, unspent_of_revalidate revalidated⟩
  intro slot
  rcases (verifyCandidateAnchoredOwnership_eq_ok (constructed.inputIndex_eq slot)).mp
    (owned slot) with ⟨_, _, _, accepted, isResult, sameRoot, sameNullifier⟩
  have isBound := not_not.mp (Except.refuse_eq_ok.mp (bound slot)).1
  refine ⟨?_, isResult.symm, sameNullifier, sameRoot, isBound⟩
  have instanceOf : (bundle.inputOwnership slot).ownershipProof.publicValues =
      slotPublicValues statement results.intentValue slot := by
    rw [Poseidon2P24OwnershipProof.publicValues, isResult, sameRoot, sameNullifier, isBound,
      toDigest_elements, toDigest_elements]
    rfl
  rw [instanceOf, isBound] at accepted
  exact accepted

/-- The bytes of the public values of an ownership proof. -/
def ownershipInstance (publicValues : OwnershipPublicValues) : List UInt8 :=
  (digestBytes publicValues.nullifier).toList ++ (digestBytes publicValues.root).toList ++
    (digestBytes publicValues.noteCommitment).toList

def intentValueInstance (publicValues : IntentValuePublicValues) : List UInt8 :=
  (digestBytes publicValues.intent.intentCommitment).toList ++
    (List.finRange 4).flatMap
      (fun index => (digestBytes (publicValues.values.noteCommitments index)).toList)

/-- A proof system whose proofs repeat the public values, without a prover. -/
def echoBackend : StarkBackend (List UInt8) where
  fromBytes := some
  verifyOwnership _ proof publicValues := proof == ownershipInstance publicValues
  verifyIntentValue _ proof publicValues := proof == intentValueInstance publicValues
  proveOwnership _ _ := .error .verificationFailed
  proveIntentValue _ _ := .error .verificationFailed

section
open Fips180

/-- Decode the proofs that repeat the instances of a statement and of two commitments. -/
def decodeEcho (statement : CandidatePrivateTransferProofPublicStatementV1)
    (inputNoteCommitments : Fin 2 -> BabyBearDigest) :
    Except CandidatePrivateTransferProofBundleError
      (CandidatePrivateTransferProofBundleV1 (List UInt8)) :=
  let result := statedIntentValueResult statement inputNoteCommitments
  decodePinnedResearchTransportParts echoBackend statement inputNoteCommitments
    (intentValueInstance (intentValuePublicValues statement.airPublicInputs.intent result))
    (fun slot => ownershipInstance (slotPublicValues statement result slot))

/-- A bundle that is decoded for a transfer from the empty state is accepted, and
its slots are bound. -/
theorem decoded_bundle_binds_slots :
    ∃ anchor statement bundle results,
      CandidatePrivateTransferProofPublicStatementV1.new loadSparseCandidate loadPrivacyReference
        anchor .newCandidate (transferFrom anchor) = .ok statement /\
      decodeEcho statement ![fun _ => 7, fun _ => 8] = .ok bundle /\
      verifyCandidatePrivateTransferProofBundle echoBackend loadSparseCandidate
        loadPrivacyReference bundle statement .newCandidate = .ok results /\
      forall slot, (bundle.inputOwnership slot).ownershipProof.proof =
          ownershipInstance (slotPublicValues statement results.intentValue slot) /\
        (results.inputOwnership slot).nullifier =
          ((transferFrom anchor).nullifiers slot).elements := by
  have stores := storesSet_newCandidate loadSparseCandidate
  rcases exists_emptyAnchor frozenParameters with ⟨anchor, made⟩
  have anchored := anchorsState_of_new made
  have identities := identities_of_new made
  have unspent (index : Fin 2) : (transferFrom anchor).nullifiers index ∉ (∅ : Finset NullifierV2) :=
    Finset.notMem_empty _
  rcases @StoresSet.exists_statement _ _ loadPrivacyReference anchor _ (transferFrom anchor) _ stores
    anchored.sameRoot anchored.sameCount (nullifierTreeCandidate_of_new made)
    (by simp [PrivateStateAnchorV2.assertMatchesIntent, transferFrom])
    (congrArg TreeParametersV2.id identities.2.2) unspent with ⟨statement, stated⟩
  rcases CandidatePrivateTransferProofPublicStatementV1.revalidate_of_new stated with
    ⟨_, sameIntent, transition, revalidated⟩
  rcases stores.exists_witness unspent (by decide) transition with
    ⟨nxsmWitness, isWitness, replayed⟩
  rcases (⟨_, rfl⟩ : ∃ bundle, decodeEcho statement ![fun _ => 7, fun _ => 8] = .ok bundle) with
    ⟨bundle, decoded⟩
  have parts := decoded
  unfold decodeEcho at parts
  rw [← sameIntent] at isWitness
  have accepted : ∃ results, verifyCandidatePrivateTransferProofBundle echoBackend
      loadSparseCandidate loadPrivacyReference bundle statement .newCandidate = .ok results := by
    apply exists_verified_of_decode parts revalidated isWitness replayed
    · intro proof isProof
      rw [← Option.some.inj isProof]
      exact beq_self_eq_true _
    · intro slot proof isProof
      rw [← Option.some.inj isProof]
      simp only [echoBackend, Poseidon2P24OwnershipProof.publicValues, statedOwnershipResult,
        toDigest_elements]
      fin_cases slot
      · exact beq_self_eq_true _
      · exact beq_self_eq_true _
  rcases accepted with ⟨results, verified⟩
  refine ⟨anchor, statement, bundle, results, stated, decoded, verified, ?_⟩
  intro slot
  have bound := (accepted_bundle_binds_slots echoBackend loadSparseCandidate loadPrivacyReference
    bundle statement .newCandidate results (.decoded parts) verified).1 slot
  rw [bound.2.2.1, sameIntent]
  exact ⟨eq_of_beq bound.1, rfl⟩

end
end Noxis.Privacy
