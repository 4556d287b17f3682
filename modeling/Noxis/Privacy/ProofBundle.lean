import Noxis.Privacy.PublicStatement
import Noxis.Privacy.TraceHeight
import Noxis.Privacy.ValueOverflow

namespace Noxis.Privacy

open Foundation

/-!
# Bundles of proofs

A private transfer is authorized by three proofs: one that the intent's outputs
and two input notes conserve value, and one for each input that its note is owned
and lies under the note root.  The proofs are bound to one statement, and an
input proof is bound to the value proof by the commitment of the input note.  The
proof system itself is a parameter: what it offers is a decoder, two provers and
the check of a proof against constraints and public values.
-/

structure Poseidon2P24OwnershipExperimentResult where
  nullifier : BabyBearDigest
  root : BabyBearDigest
  traceRows : Nat

structure Poseidon2P24IntentExperimentResult where
  intentCommitment : PrivateTransferIntentCommitmentV2
  traceRows : Nat

structure Poseidon2P24ValueConservationExperimentResult where
  noteCommitments : Fin 4 -> BabyBearDigest
  assetId : Bytes 32
  traceRows : Nat

structure Poseidon2P24IntentValueConservationExperimentResult where
  intent : Poseidon2P24IntentExperimentResult
  values : Poseidon2P24ValueConservationExperimentResult
  traceRows : Nat

/-- A proof of the ownership relation over the proofs `P` of the proof system. -/
structure Poseidon2P24OwnershipProof (P : Type) where
  proof : P
  publicResult : Poseidon2P24OwnershipExperimentResult
  boundNoteCommitment : Option BabyBearDigest

structure Poseidon2P24IntentValueConservationProof (P : Type) where
  proof : P
  publicResult : Poseidon2P24IntentValueConservationExperimentResult

/-- The key, the note and its path in the note tree. -/
structure CandidateAnchoredOwnershipWitnessV1 where
  nullifierKey : Bytes 32
  notePreimage : Bytes 178
  leafPosition : UInt32
  siblings : Fin 32 -> BabyBearDigest

structure Poseidon2P24IntentAir where
  candidate : Poseidon2P24Candidate
  iv : Fin 9 -> Val

structure Poseidon2P24IntentValueConservationAir where
  intent : Poseidon2P24IntentAir
  values : Poseidon2P24ValueConservationAir

/-- The packed bytes of an intent and its commitment. -/
structure IntentPublicValues where
  intentElements : Fin 214 -> Val
  intentCommitment : Digest

structure IntentValuePublicValues where
  intent : IntentPublicValues
  values : ValuePublicValues

/-- What the proof system offers. -/
structure StarkBackend (P : Type) where
  fromBytes : List UInt8 -> Option P
  verifyOwnership : Poseidon2P24OwnershipAir -> P -> OwnershipPublicValues -> Bool
  verifyIntentValue : Poseidon2P24IntentValueConservationAir -> P -> IntentValuePublicValues -> Bool
  proveOwnership : CandidateAnchoredOwnershipWitnessV1 -> BabyBearDigest ->
    Except StarkExperimentError (Poseidon2P24OwnershipProof P)
  proveIntentValue : PrivateTransferIntentV2 -> (Fin 4 -> Bytes 178) ->
    Except StarkExperimentError (Poseidon2P24IntentValueConservationProof P)

variable {P : Type}

section
variable (backend : StarkBackend P) (privacy : Poseidon2P24PrivacyReference)

/-- The public values of an ownership proof.  Without a bound commitment the
constraints do not read the last one. -/
def Poseidon2P24OwnershipProof.publicValues (proof : Poseidon2P24OwnershipProof P) :
    OwnershipPublicValues where
  nullifier := proof.publicResult.nullifier.toDigest
  root := proof.publicResult.root.toDigest
  noteCommitment := (proof.boundNoteCommitment.getD (fun _ => 0)).toDigest

def verifyP24NoteOwnershipProof (proof : Poseidon2P24OwnershipProof P) :
    Except StarkExperimentError Poseidon2P24OwnershipExperimentResult :=
  if backend.verifyOwnership ⟨privacy.candidate, proof.boundNoteCommitment.isSome⟩ proof.proof
      proof.publicValues then
    .ok proof.publicResult
  else
    .error .verificationFailed

/-- The constraints of an intent and its notes. -/
def intentValueAir : Poseidon2P24IntentValueConservationAir where
  intent := ⟨privacy.candidate, privacy.intentIv⟩
  values := ⟨privacy.candidate, false⟩

/-- The public values for an intent and the result of a proof. -/
def intentValuePublicValues (intent : PrivateTransferIntentV2)
    (result : Poseidon2P24IntentValueConservationExperimentResult) : IntentValuePublicValues where
  intent := {
    intentElements := fun index => ((bytePack3le intent.encode).getD index.val 0 : Val)
    intentCommitment := result.intent.intentCommitment.elements.toDigest }
  values := {
    noteCommitments := fun index => (result.values.noteCommitments index).toDigest
    assetId := result.values.assetId
    outputCommitments := fun _ _ => 0 }

def intentValueTraceRows : Nat := 512

def ownershipTraceRows : Nat := 8192

def verifyP24IntentValueConservationProof (proof : Poseidon2P24IntentValueConservationProof P)
    (intent : PrivateTransferIntentV2) :
    Except StarkExperimentError Poseidon2P24IntentValueConservationExperimentResult :=
  let result := proof.publicResult
  if result.values.assetId ≠ intent.assetId.bytes ∨
      result.intent.traceRows ≠ intentValueTraceRows ∨
      result.values.traceRows ≠ intentValueTraceRows ∨
      result.traceRows ≠ intentValueTraceRows then
    .error .verificationFailed
  else if backend.verifyIntentValue (intentValueAir privacy) proof.proof
      (intentValuePublicValues intent result) then
    .ok result
  else
    .error .verificationFailed

end

inductive CandidateAnchoredOwnershipError where
  | publicStatement (reason : CandidatePrivateTransferProofPublicStatementError)
  | nxsmWitness (reason : CandidateNxsmNullifierTransitionWitnessError)
  | stark (reason : StarkExperimentError)
  | publicValue (reason : PrivacyTypesError)
  | inputIndexOutOfRange (inputIndex : UInt8)
  | missingNoteCommitmentBinding
  | statementIdMismatch
  | noteRootMismatch
  | nullifierMismatch

structure CandidateAnchoredOwnershipProofV1 (P : Type) where
  ownershipProof : Poseidon2P24OwnershipProof P
  inputIndex : UInt8
  statementId : CandidatePrivateTransferProofPublicStatementIdV1

def validateInputIndex (inputIndex : UInt8) : Except CandidateAnchoredOwnershipError (Fin 2) :=
  if within : inputIndex.toNat < 2 then .ok ⟨inputIndex.toNat, within⟩
  else .error (.inputIndexOutOfRange inputIndex)

section
variable [Sha256] (backend : StarkBackend P) (reference : NullifierSparseTreeReferenceV1)
  (privacy : Poseidon2P24PrivacyReference)

/-- The result names the note root of the anchor and the nullifier at the
index. -/
def validatePublicResult (statement : CandidatePrivateTransferProofPublicStatementV1)
    (preTree : NullifierSparseTreeStateV1)
    (nxsmWitness : CandidateNxsmNullifierTransitionWitnessV1) (inputIndex : UInt8)
    (result : Poseidon2P24OwnershipExperimentResult) :
    Except CandidateAnchoredOwnershipError Unit := do
  let index ← validateInputIndex inputIndex
  (statement.revalidate reference privacy preTree).mapError .publicStatement
  (nxsmWitness.revalidate reference statement.nullifierTransition).mapError .nxsmWitness
  let noteRoot : MerkleRootV2 ← (CanonicalVector.fromElements result.root).mapError .publicValue
  if noteRoot ≠ statement.anchor.noteRoot then
    .error .noteRootMismatch
  else do
    let nullifier : NullifierV2 ←
      (CanonicalVector.fromElements result.nullifier).mapError .publicValue
    if nullifier ≠ statement.airPublicInputs.intent.nullifiers index then
      .error .nullifierMismatch
    else
      .ok ()

def verifyCandidateAnchoredOwnership (anchored : CandidateAnchoredOwnershipProofV1 P)
    (statement : CandidatePrivateTransferProofPublicStatementV1)
    (preTree : NullifierSparseTreeStateV1)
    (nxsmWitness : CandidateNxsmNullifierTransitionWitnessV1) :
    Except CandidateAnchoredOwnershipError Poseidon2P24OwnershipExperimentResult :=
  if anchored.statementId ≠ statement.statementId then
    .error .statementIdMismatch
  else do
    let _ ← validateInputIndex anchored.inputIndex
    (statement.revalidate reference privacy preTree).mapError .publicStatement
    (nxsmWitness.revalidate reference statement.nullifierTransition).mapError .nxsmWitness
    let result ← (verifyP24NoteOwnershipProof backend privacy anchored.ownershipProof).mapError
      .stark
    validatePublicResult reference privacy statement preTree nxsmWitness anchored.inputIndex result
    .ok result

omit [Sha256] in
def decodeCandidateAnchoredOwnershipBoundNoteCommitment
    (statement : CandidatePrivateTransferProofPublicStatementV1) (inputIndex : UInt8)
    (bytes : List UInt8) (publicResult : Poseidon2P24OwnershipExperimentResult)
    (noteCommitment : BabyBearDigest) :
    Except CandidateAnchoredOwnershipError (CandidateAnchoredOwnershipProofV1 P) := do
  let _ ← validateInputIndex inputIndex
  match backend.fromBytes bytes with
  | none => .error (.stark .pinnedResearchProofDecode)
  | some proof =>
    .ok {
      ownershipProof := { proof, publicResult, boundNoteCommitment := some noteCommitment }
      inputIndex
      statementId := statement.statementId }

/-- Prove ownership of an input whose note has a given commitment, and check the proof. -/
def proveCandidateAnchoredOwnershipBoundNoteCommitment
    (statement : CandidatePrivateTransferProofPublicStatementV1)
    (preTree : NullifierSparseTreeStateV1)
    (nxsmWitness : CandidateNxsmNullifierTransitionWitnessV1) (inputIndex : UInt8)
    (ownershipWitness : CandidateAnchoredOwnershipWitnessV1)
    (inputNoteCommitment : BabyBearDigest) :
    Except CandidateAnchoredOwnershipError (CandidateAnchoredOwnershipProofV1 P) := do
  let _ ← validateInputIndex inputIndex
  (statement.revalidate reference privacy preTree).mapError .publicStatement
  (nxsmWitness.revalidate reference statement.nullifierTransition).mapError .nxsmWitness
  let ownershipProof ←
    (backend.proveOwnership ownershipWitness inputNoteCommitment).mapError .stark
  let anchored := { ownershipProof, inputIndex, statementId := statement.statementId }
  let _ ← verifyCandidateAnchoredOwnership backend reference privacy anchored statement preTree
    nxsmWitness
  .ok anchored

end

/-! ## Bundles -/

inductive CandidateInnerRelationKindV1 where
  | intentValue
  | inputOwnership
  | nullifierTransition
deriving DecidableEq, Repr

def CandidateInnerRelationKindV1.tag : CandidateInnerRelationKindV1 -> UInt8
  | .intentValue => 1
  | .inputOwnership => 2
  | .nullifierTransition => 3

abbrev CandidateInnerRelationReceiptIdV1 := PrivateIdentifier .innerRelationReceipt

def candidateInnerRelationReceiptId [Sha256]
    (statement : CandidatePrivateTransferProofPublicStatementV1)
    (kind : CandidateInnerRelationKindV1) (inputIndex : Option UInt8) :
    CandidateInnerRelationReceiptIdV1 :=
  ⟨Sha256.digest (utf8 "NOXIS/CANDIDATE-INNER-RELATION-RECEIPT-ID/V1\x00" ++
    statement.statementId.bytes.toList ++ [kind.tag] ++ [inputIndex.getD 255])⟩

structure CandidatePrivateTransferProofBundleReceiptsV1 where
  intentValue : CandidateInnerRelationReceiptIdV1
  inputOwnership : Fin 2 -> CandidateInnerRelationReceiptIdV1

inductive CandidatePrivateTransferProofBundleError where
  | publicStatement (reason : CandidatePrivateTransferProofPublicStatementError)
  | nxsmWitness (reason : CandidateNxsmNullifierTransitionWitnessError)
  | ownership (reason : CandidateAnchoredOwnershipError)
  | stark (reason : StarkExperimentError)
  | privacyTypes (reason : PrivacyTypesError)
  | statementIdMismatch
  | receiptMismatch (relation : CandidateInnerRelationKindV1) (inputIndex : Option UInt8)
  | intentCommitmentMismatch
  | assetIdMismatch
  | outputCommitmentMismatch (outputIndex : Nat)
  | inputNoteCommitmentBindingMismatch (inputIndex : Nat)

def slotIndex (slot : Fin 2) : UInt8 := UInt8.ofNat slot.val

/-- Three proofs for one statement. -/
structure CandidatePrivateTransferProofBundleV1 (P : Type) where
  statementId : CandidatePrivateTransferProofPublicStatementIdV1
  receipts : CandidatePrivateTransferProofBundleReceiptsV1
  intentValue : Poseidon2P24IntentValueConservationProof P
  inputOwnership : Fin 2 -> CandidateAnchoredOwnershipProofV1 P

structure CandidatePrivateTransferProofBundleResultsV1 where
  intentValue : Poseidon2P24IntentValueConservationExperimentResult
  inputOwnership : Fin 2 -> Poseidon2P24OwnershipExperimentResult

section
variable [Sha256] (backend : StarkBackend P) (reference : NullifierSparseTreeReferenceV1)
  (privacy : Poseidon2P24PrivacyReference)

def expectedReceipts (statement : CandidatePrivateTransferProofPublicStatementV1) :
    CandidatePrivateTransferProofBundleReceiptsV1 where
  intentValue := candidateInnerRelationReceiptId statement .intentValue none
  inputOwnership slot :=
    candidateInnerRelationReceiptId statement .inputOwnership (some (slotIndex slot))

def validateReceipts (actual : CandidatePrivateTransferProofBundleReceiptsV1)
    (statement : CandidatePrivateTransferProofPublicStatementV1) :
    Except CandidatePrivateTransferProofBundleError Unit :=
  let expected := expectedReceipts statement
  if actual.intentValue ≠ expected.intentValue then
    .error (.receiptMismatch .intentValue none)
  else
    (List.finRange 2).forM (fun slot =>
      if actual.inputOwnership slot ≠ expected.inputOwnership slot then
        .error (.receiptMismatch .inputOwnership (some (slotIndex slot)))
      else
        .ok ())

omit [Sha256] in
/-- The result names the intent's commitment, asset and outputs. -/
def validateIntentValueResult (statement : CandidatePrivateTransferProofPublicStatementV1)
    (result : Poseidon2P24IntentValueConservationExperimentResult) :
    Except CandidatePrivateTransferProofBundleError Unit :=
  let intent := statement.airPublicInputs.intent
  if result.intent.intentCommitment ≠ statement.airPublicInputs.intentCommitment then
    .error .intentCommitmentMismatch
  else if result.values.assetId ≠ intent.assetId.bytes then
    .error .assetIdMismatch
  else
    (List.finRange 2).forM (fun outputIndex => do
      let actual : NoteCommitmentV2 ← (CanonicalVector.fromElements
        (result.values.noteCommitments (Fin.natAdd 2 outputIndex))).mapError .privacyTypes
      if actual ≠ (intent.outputs outputIndex).commitment then
        .error (.outputCommitmentMismatch outputIndex.val)
      else
        .ok ())

omit [Sha256] in
/-- The proof of an input is bound to the commitment that the value proof uses for
that input. -/
def requireBinding (bundle : CandidatePrivateTransferProofBundleV1 P)
    (result : Poseidon2P24IntentValueConservationExperimentResult) (slot : Fin 2) :
    Except CandidatePrivateTransferProofBundleError Unit :=
  if (bundle.inputOwnership slot).ownershipProof.boundNoteCommitment ≠
      some (result.values.noteCommitments (slot.castLE (by decide))) then
    .error (.inputNoteCommitmentBindingMismatch slot.val)
  else
    .ok ()

def verifyCandidatePrivateTransferProofBundle (bundle : CandidatePrivateTransferProofBundleV1 P)
    (statement : CandidatePrivateTransferProofPublicStatementV1)
    (currentTree : NullifierSparseTreeStateV1) :
    Except CandidatePrivateTransferProofBundleError
      CandidatePrivateTransferProofBundleResultsV1 :=
  if bundle.statementId ≠ statement.statementId then
    .error .statementIdMismatch
  else do
    (statement.revalidate reference privacy currentTree).mapError .publicStatement
    validateReceipts bundle.receipts statement
    let nxsmWitness ← (CandidateNxsmNullifierTransitionWitnessV1.fromPreTree reference currentTree
      statement.airPublicInputs.intent).mapError .nxsmWitness
    let intentValue ← (verifyP24IntentValueConservationProof backend privacy bundle.intentValue
      statement.airPublicInputs.intent).mapError .stark
    validateIntentValueResult statement intentValue
    let first ← (verifyCandidateAnchoredOwnership backend reference privacy
      (bundle.inputOwnership 0) statement currentTree nxsmWitness).mapError .ownership
    let second ← (verifyCandidateAnchoredOwnership backend reference privacy
      (bundle.inputOwnership 1) statement currentTree nxsmWitness).mapError .ownership
    (List.finRange 2).forM (requireBinding bundle intentValue)
    .ok { intentValue, inputOwnership := ![first, second] }

/-- The result that a decoded value proof is checked against. -/
def statedIntentValueResult (statement : CandidatePrivateTransferProofPublicStatementV1)
    (inputNoteCommitments : Fin 2 -> BabyBearDigest) :
    Poseidon2P24IntentValueConservationExperimentResult where
  intent := {
    intentCommitment := statement.airPublicInputs.intentCommitment
    traceRows := intentValueTraceRows }
  values := {
    noteCommitments := ![inputNoteCommitments 0, inputNoteCommitments 1,
      (statement.airPublicInputs.intent.outputs 0).commitment.elements,
      (statement.airPublicInputs.intent.outputs 1).commitment.elements]
    assetId := statement.airPublicInputs.intent.assetId.bytes
    traceRows := intentValueTraceRows }
  traceRows := intentValueTraceRows

/-- The result that a decoded ownership proof is checked against. -/
def statedOwnershipResult (statement : CandidatePrivateTransferProofPublicStatementV1)
    (slot : Fin 2) : Poseidon2P24OwnershipExperimentResult where
  nullifier := (statement.airPublicInputs.intent.nullifiers slot).elements
  root := statement.anchor.noteRoot.elements
  traceRows := ownershipTraceRows

/-- Rebuild a bundle from proof bytes and two commitments.  All other public values
come from the statement. -/
def decodePinnedResearchTransportParts
    (statement : CandidatePrivateTransferProofPublicStatementV1)
    (inputNoteCommitments : Fin 2 -> BabyBearDigest) (intentValueProofBytes : List UInt8)
    (inputOwnershipProofBytes : Fin 2 -> List UInt8) :
    Except CandidatePrivateTransferProofBundleError
      (CandidatePrivateTransferProofBundleV1 P) := do
  let decodeOwnership := fun slot => (decodeCandidateAnchoredOwnershipBoundNoteCommitment backend
    statement (slotIndex slot) (inputOwnershipProofBytes slot) (statedOwnershipResult statement slot)
    (inputNoteCommitments slot)).mapError .ownership
  match backend.fromBytes intentValueProofBytes with
  | none => .error (.stark .pinnedResearchProofDecode)
  | some proof => do
      let first ← decodeOwnership 0
      let second ← decodeOwnership 1
      .ok {
        statementId := statement.statementId
        receipts := expectedReceipts statement
        intentValue :=
          { proof, publicResult := statedIntentValueResult statement inputNoteCommitments }
        inputOwnership := ![first, second] }

structure CandidateOutputNoteWitnessV1 where
  notePreimage : Bytes 178

/-- Prove the three relations of a statement one after the other, and check the bundle. -/
def proveCandidatePrivateTransferProofBundle
    (statement : CandidatePrivateTransferProofPublicStatementV1)
    (currentTree : NullifierSparseTreeStateV1)
    (inputWitnesses : Fin 2 -> CandidateAnchoredOwnershipWitnessV1)
    (outputWitnesses : Fin 2 -> CandidateOutputNoteWitnessV1) :
    Except CandidatePrivateTransferProofBundleError
      (CandidatePrivateTransferProofBundleV1 P) := do
  (statement.revalidate reference privacy currentTree).mapError .publicStatement
  let nxsmWitness ← (CandidateNxsmNullifierTransitionWitnessV1.fromPreTree reference currentTree
    statement.airPublicInputs.intent).mapError .nxsmWitness
  let intentValue ← (backend.proveIntentValue statement.airPublicInputs.intent
    ![(inputWitnesses 0).notePreimage, (inputWitnesses 1).notePreimage,
      (outputWitnesses 0).notePreimage, (outputWitnesses 1).notePreimage]).mapError .stark
  let valueResult ← (verifyP24IntentValueConservationProof backend privacy intentValue
    statement.airPublicInputs.intent).mapError .stark
  validateIntentValueResult statement valueResult
  let proveOwnership := fun slot : Fin 2 =>
    (proveCandidateAnchoredOwnershipBoundNoteCommitment backend reference privacy statement
      currentTree nxsmWitness (slotIndex slot) (inputWitnesses slot)
      (valueResult.values.noteCommitments (slot.castLE (by decide)))).mapError .ownership
  let first ← proveOwnership 0
  let second ← proveOwnership 1
  let bundle := {
    statementId := statement.statementId
    receipts := expectedReceipts statement
    intentValue
    inputOwnership := ![first, second] }
  let _ ← verifyCandidatePrivateTransferProofBundle backend reference privacy bundle statement
    currentTree
  .ok bundle

/-- The two sources of bundles, each for any statement: the local prover and the decoder.
A bundle has private fields, so no other code makes one. -/
inductive CandidatePrivateTransferProofBundleV1.Constructed
    (bundle : CandidatePrivateTransferProofBundleV1 P) : Prop
  | proved {statement currentTree inputWitnesses outputWitnesses}
      (proved : proveCandidatePrivateTransferProofBundle backend reference privacy statement
        currentTree inputWitnesses outputWitnesses = .ok bundle)
  | decoded {statement inputNoteCommitments intentValueProofBytes inputOwnershipProofBytes}
      (decoded : decodePinnedResearchTransportParts backend statement inputNoteCommitments
        intentValueProofBytes inputOwnershipProofBytes = .ok bundle)

end
end Noxis.Privacy
