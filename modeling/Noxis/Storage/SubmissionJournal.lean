import Noxis.Privacy.RestoredLedger
import Noxis.Storage.BlockJournal

namespace Noxis.Submission

open Foundation Privacy

/-!
# The private submission journal

A frame of this journal holds one private transfer and the record of the ledger
it leads to.  Frames carry sequence numbers and the identities of the ledgers
before and after them.  A scan reads the frames and follows these links; a
recovery also compares each ledger with the one before it, starting from a given
base.  The comparison looks at the counts, at the last two commitments and at
the spent nullifiers.
-/

variable {candidate : Poseidon2P24Candidate}

def privateSubmissionJournalVersion : UInt16 := 2

/-- The fixed fields before the record. -/
def payloadPrefixLength : Nat := 396

def maxPayloadLength : UInt32 := UInt32.ofNat (payloadPrefixLength + privateStateRecordMaxBytes)

inductive PrivateSubmissionJournalError where
  | io (operation : String)
  | record (source : CandidatePrivateStateRecordError)
  | privacy (source : PrivacyTypesError)
  | invalidMagic (offset : Nat)
  | unsupportedFrameVersion (offset : Nat) (version : UInt16)
  | frameTooLarge (offset : Nat) (actual maximum : UInt32)
  | checksumMismatch (offset : Nat) (expected actual : UInt32)
  | payloadTruncated
  | nestedRecordTooLarge (length : Nat)
  | nestedRecordLength (declared actual : Nat)
  | resultingStateMismatch (encoded rebuilt : StateId)
  | sequenceMismatch (offset : Nat) (expected actual : UInt64)
  | predecessorMismatch (sequence : UInt64) (expected actual : StateId)
  | sequenceOverflow
  | incompleteTailPresent
  | recoveryTailChanged
  | zeroEnvelopeId
  | unknownAsset (asset : AssetId)
  | nonCanonicalInputNullifierOrder
  | nonCanonicalOutputCommitmentOrder
  | outputCommitmentDeltaMismatch (previous successor : Nat)
  | outputCommitmentsMismatch
  | inputNullifierDeltaMismatch (previous successor : Nat)
  | inputNullifierAlreadySpent
  | inputNullifierMissingFromSuccessor
deriving DecidableEq

instance : ReaderErrors PrivateSubmissionJournalError where
  lengthOverflow := .payloadTruncated
  unexpectedEnd := fun _ => .payloadTruncated
  trailingBytes := fun _ => .payloadTruncated

/-- The identity of an envelope, which is not zero. -/
@[ext]
structure PrivateSubmissionMetadataV1 where
  envelopeId : Bytes 32
  nonzero : envelopeId ≠ .replicate 32 0

def PrivateSubmissionMetadataV1.new (envelopeId : Bytes 32) :
    Except PrivateSubmissionJournalError PrivateSubmissionMetadataV1 :=
  if zero : envelopeId = .replicate 32 0 then .error .zeroEnvelopeId else .ok ⟨envelopeId, zero⟩

/-- One decoded transition and the place of its frame. -/
structure StoredPrivateSubmissionV2 (candidate : Poseidon2P24Candidate) where
  offset : Nat
  sequence : UInt64
  previousStateId : StateId
  resultingStateId : StateId
  metadata : PrivateSubmissionMetadataV1
  assetId : AssetId
  inputNullifiers : Fin 2 -> NullifierV2
  outputCommitments : Fin 2 -> NoteCommitmentV2
  state : CandidatePrivateLedgerStateV1 candidate

def StoredPrivateSubmissionV2.stateId (entry : StoredPrivateSubmissionV2 candidate) : StateId :=
  entry.state.anchor.stateId

/-- The entries of a journal and the partial frame behind them. -/
structure PrivateSubmissionJournalRecoveryScan (candidate : Poseidon2P24Candidate) where
  entries : List (StoredPrivateSubmissionV2 candidate)
  incompleteTail : Option IncompleteTail

def PrivateSubmissionJournalRecoveryScan.latest
    (scan : PrivateSubmissionJournalRecoveryScan candidate) :
    Option (StoredPrivateSubmissionV2 candidate) :=
  scan.entries.getLast?

def submissionFrameFormat : FrameFormat PrivateSubmissionJournalError where
  magic := ⟨utf8 "NXPL", by decide⟩
  version := privateSubmissionJournalVersion
  maximum := maxPayloadLength
  invalidMagic := fun _ offset => .invalidMagic offset
  unsupportedVersion := .unsupportedFrameVersion
  tooLarge := fun offset actual => .frameTooLarge offset actual maxPayloadLength
  checksumMismatch := .checksumMismatch

/-- Whether a sorted list of nullifiers holds one. -/
def isSpent (snapshot : CandidatePrivateStateSnapshotV1 candidate) (nullifier : NullifierV2) : Bool :=
  decide (nullifier ∈ snapshot.spentNullifiers)

/-- An input is not spent before a transfer and spent after it. -/
def checkInput (predecessor successor : CandidatePrivateLedgerStateV1 candidate)
    (nullifier : NullifierV2) : Except PrivateSubmissionJournalError Unit :=
  if isSpent predecessor.snapshot nullifier then .error .inputNullifierAlreadySpent
  else if isSpent successor.snapshot nullifier = false then
    .error .inputNullifierMissingFromSuccessor
  else .ok ()

def validateTransition (predecessor successor : CandidatePrivateLedgerStateV1 candidate)
    (metadata : PrivateSubmissionMetadataV1) (assetId : AssetId)
    (inputNullifiers : Fin 2 -> NullifierV2) (outputCommitments : Fin 2 -> NoteCommitmentV2) :
    Except PrivateSubmissionJournalError Unit :=
  let oldCommitments := predecessor.snapshot.commitments
  let newCommitments := successor.snapshot.commitments
  let oldNullifiers := predecessor.snapshot.spentNullifiers
  let newNullifiers := successor.snapshot.spentNullifiers
  if metadata.envelopeId = .replicate 32 0 then .error .zeroEnvelopeId
  else if assetId ∉ predecessor.assets then .error (.unknownAsset assetId)
  else if (inputNullifiers 1).bytes <= (inputNullifiers 0).bytes then
    .error .nonCanonicalInputNullifierOrder
  else if (outputCommitments 1).bytes <= (outputCommitments 0).bytes then
    .error .nonCanonicalOutputCommitmentOrder
  else if newCommitments.length ≠ oldCommitments.length + 2 then
    .error (.outputCommitmentDeltaMismatch oldCommitments.length newCommitments.length)
  else if newCommitments.drop oldCommitments.length ≠
      [outputCommitments 0, outputCommitments 1] then
    .error .outputCommitmentsMismatch
  else if newNullifiers.length ≠ oldNullifiers.length + 2 then
    .error (.inputNullifierDeltaMismatch oldNullifiers.length newNullifiers.length)
  else do
    checkInput predecessor successor (inputNullifiers 0)
    checkInput predecessor successor (inputNullifiers 1)
    if newNullifiers.countP (fun nullifier => !isSpent predecessor.snapshot nullifier) ≠ 2 then
      .error (.inputNullifierDeltaMismatch oldNullifiers.length newNullifiers.length)
    else
      .ok ()

/-- The fixed fields of a payload. -/
structure PayloadPrefix where
  sequence : UInt64
  previousStateId : StateId
  resultingStateId : StateId
  metadata : PrivateSubmissionMetadataV1
  assetId : AssetId
  inputNullifiers : Fin 2 -> NullifierV2
  outputCommitments : Fin 2 -> NoteCommitmentV2
  recordLength : UInt32

def readPayloadPrefix : EStateM PrivateSubmissionJournalError Reader PayloadPrefix := do
  let sequence ← readU64
  let previousStateId ← readArray 32
  let resultingStateId ← readArray 32
  let envelopeId ← readArray 32
  let metadata ← check (PrivateSubmissionMetadataV1.new envelopeId)
  let assetId ← readArray 32
  let firstInput ← readVector .privacy
  let secondInput ← readVector .privacy
  let firstOutput ← readVector .privacy
  let secondOutput ← readVector .privacy
  let recordLength ← readU32
  return ⟨sequence, ⟨previousStateId⟩, ⟨resultingStateId⟩, metadata, ⟨assetId⟩,
    ![firstInput, secondInput], ![firstOutput, secondOutput], recordLength⟩

def prefixBytes (fields : PayloadPrefix) : List UInt8 :=
  bigEndian 8 fields.sequence.toNat ++ (fields.previousStateId.bytes.toList ++
    (fields.resultingStateId.bytes.toList ++ (fields.metadata.envelopeId.toList ++
    (fields.assetId.bytes.toList ++ ((fields.inputNullifiers 0).bytes.toList ++
    ((fields.inputNullifiers 1).bytes.toList ++ ((fields.outputCommitments 0).bytes.toList ++
    ((fields.outputCommitments 1).bytes.toList ++ bigEndian 4 fields.recordLength.toNat))))))))

section
variable [Sha256]

/-- A payload with a record.  The record is decoded again before it is used. -/
def encodePayload (candidate : Poseidon2P24Candidate) (reference : NullifierSparseTreeReferenceV1)
    (sequence : UInt64) (previousStateId resultingStateId : StateId)
    (metadata : PrivateSubmissionMetadataV1) (assetId : AssetId)
    (inputNullifiers : Fin 2 -> NullifierV2) (outputCommitments : Fin 2 -> NoteCommitmentV2)
    (nxpr : List UInt8) : Except (Fault PrivateSubmissionJournalError) (List UInt8) :=
  if 2 ^ 32 <= nxpr.length then
    .error (.error (.frameTooLarge 0 (UInt32.ofNat (2 ^ 32 - 1)) maxPayloadLength))
  else do
    let rebuilt : CandidatePrivateLedgerStateV1 candidate ←
      (decodeCandidatePrivateLedgerState reference nxpr).mapError (Fault.map .record)
    if rebuilt.anchor.stateId ≠ resultingStateId then
      .error (.error (.resultingStateMismatch resultingStateId rebuilt.anchor.stateId))
    else
      .ok (prefixBytes ⟨sequence, previousStateId, resultingStateId, metadata, assetId,
        inputNullifiers, outputCommitments, UInt32.ofNat nxpr.length⟩ ++ nxpr)

variable (reference : NullifierSparseTreeReferenceV1)

def decodePayload (payload : List UInt8) :
    Except (Fault PrivateSubmissionJournalError) (StoredPrivateSubmissionV2 candidate) :=
  if payload.length < payloadPrefixLength then
    .error (.error .payloadTruncated)
  else do
    let fields ← (parse readPayloadPrefix (payload.take payloadPrefixLength)).mapError Fault.error
    let nxpr := payload.drop payloadPrefixLength
    if privateStateRecordMaxBytes < fields.recordLength.toNat then
      .error (.error (.nestedRecordTooLarge fields.recordLength.toNat))
    else if nxpr.length ≠ fields.recordLength.toNat then
      .error (.error (.nestedRecordLength fields.recordLength.toNat nxpr.length))
    else do
      let state ← (decodeCandidatePrivateLedgerState reference nxpr).mapError (Fault.map .record)
      if state.anchor.stateId ≠ fields.resultingStateId then
        .error (.error (.resultingStateMismatch fields.resultingStateId state.anchor.stateId))
      else
        .ok {
          offset := 0
          sequence := fields.sequence
          previousStateId := fields.previousStateId
          resultingStateId := fields.resultingStateId
          metadata := fields.metadata
          assetId := fields.assetId
          inputNullifiers := fields.inputNullifiers
          outputCommitments := fields.outputCommitments
          state }

omit [Sha256] in
def encodeFrame (payload : List UInt8) :
    Except (Fault PrivateSubmissionJournalError) (List UInt8) :=
  if 2 ^ 32 <= payload.length then
    .error (.error (.frameTooLarge 0 (UInt32.ofNat (2 ^ 32 - 1)) maxPayloadLength))
  else if maxPayloadLength < UInt32.ofNat payload.length then
    .error (.error (.frameTooLarge 0 (UInt32.ofNat payload.length) maxPayloadLength))
  else
    .ok (submissionFrameFormat.encodeFrame payload)

omit [Sha256] in
/-- Compare an entry with the one before it. -/
def checkLink (previous : Option (StoredPrivateSubmissionV2 candidate))
    (entry : StoredPrivateSubmissionV2 candidate) : Except PrivateSubmissionJournalError Unit :=
  match previous with
  | some previous =>
    match checkedAdd previous.sequence 1 with
    | none => .error .sequenceOverflow
    | some expected =>
      if entry.sequence ≠ expected then
        .error (.sequenceMismatch entry.offset expected entry.sequence)
      else if entry.previousStateId ≠ previous.stateId then
        .error (.predecessorMismatch entry.sequence previous.stateId entry.previousStateId)
      else
        .ok ()
  | none =>
    if entry.sequence ≠ 1 then .error (.sequenceMismatch entry.offset 1 entry.sequence)
    else .ok ()

/-- Decode the payload of a frame and add it to the entries. -/
def visitSubmission (offset : Nat) (payload : List UInt8) :
    EStateM (Fault PrivateSubmissionJournalError) (List (StoredPrivateSubmissionV2 candidate))
      Unit := do
  let entries ← get
  let decoded ← check (decodePayload reference payload)
  let entry := { decoded with offset := offset }
  check ((checkLink entries.getLast? entry).mapError Fault.error)
  set (entries ++ [entry])

def scanFrames (file : List UInt8) :
    Except (Fault PrivateSubmissionJournalError)
      (PrivateSubmissionJournalRecoveryScan candidate) :=
  match submissionFrameFormat.streamFrames Fault.error (visitSubmission reference) file [] with
  | .ok tail entries => .ok ⟨entries, tail⟩
  | .error fault _ => .error fault

/-- Follow the entries from a ledger and compare each with the one before it. -/
def validateHistory (predecessor : CandidatePrivateLedgerStateV1 candidate) :
    List (StoredPrivateSubmissionV2 candidate) -> Except PrivateSubmissionJournalError Unit
  | [] => .ok ()
  | entry :: rest =>
    if entry.previousStateId ≠ predecessor.anchor.stateId then
      .error (.predecessorMismatch entry.sequence predecessor.anchor.stateId
        entry.previousStateId)
    else if entry.resultingStateId ≠ entry.stateId then
      .error (.resultingStateMismatch entry.resultingStateId entry.stateId)
    else do
      validateTransition predecessor entry.state entry.metadata entry.assetId
        entry.inputNullifiers entry.outputCommitments
      validateHistory entry.state rest

namespace PrivateSubmissionJournalV2

def scanRecoverableTail (file : List UInt8) :
    Except (Fault PrivateSubmissionJournalError)
      (PrivateSubmissionJournalRecoveryScan candidate) :=
  scanFrames reference file

def recoverFrom (base : CandidatePrivateLedgerStateV1 candidate) (file : List UInt8) :
    Except (Fault PrivateSubmissionJournalError)
      (PrivateSubmissionJournalRecoveryScan candidate) := do
  let scan ← scanRecoverableTail reference file
  (validateHistory base scan.entries).mapError Fault.error
  .ok scan

omit [Sha256] in
/-- The number of the frame after the latest one, which has to lead to the
predecessor. -/
def nextSequence (latest : Option (StoredPrivateSubmissionV2 candidate)) (predecessorId : StateId) :
    Except PrivateSubmissionJournalError UInt64 :=
  match latest with
  | some latest =>
    if latest.stateId ≠ predecessorId then
      .error (.predecessorMismatch ((checkedAdd latest.sequence 1).getD latest.sequence)
        latest.stateId predecessorId)
    else
      match checkedAdd latest.sequence 1 with
      | some sequence => .ok sequence
      | none => .error .sequenceOverflow
  | none => .ok 1

omit [Sha256] in
def appendFrame (outcome : Storage.WriteOutcome) (frame : List UInt8) :
    EStateM (Fault PrivateSubmissionJournalError) (List UInt8) Unit := fun file =>
  match outcome with
  | .complete => .ok () (file ++ frame)
  | .failed operation written => .error (.error (.io operation)) (file ++ frame.take written)

/-- Write one transfer and the ledger it leads to; the result is its number. -/
def appendSubmission (outcome : Storage.WriteOutcome)
    (predecessor successor : CandidatePrivateLedgerStateV1 candidate)
    (metadata : PrivateSubmissionMetadataV1) (assetId : AssetId)
    (inputNullifiers : Fin 2 -> NullifierV2) (outputCommitments : Fin 2 -> NoteCommitmentV2) :
    EStateM (Fault PrivateSubmissionJournalError) (List UInt8) UInt64 := do
  check ((validateTransition predecessor successor metadata assetId inputNullifiers
    outputCommitments).mapError Fault.error)
  let scan : PrivateSubmissionJournalRecoveryScan candidate ←
    check (scanRecoverableTail reference (← get))
  if scan.incompleteTail.isSome then
    throw (.error .incompleteTailPresent)
  else
    let sequence ← check ((nextSequence scan.latest predecessor.anchor.stateId).mapError Fault.error)
    let nxpr ← check ((encodeCandidatePrivateLedgerState successor).mapError (Fault.map .record))
    let payload ← check (encodePayload candidate reference sequence predecessor.anchor.stateId
      successor.anchor.stateId metadata assetId inputNullifiers outputCommitments nxpr)
    let frame ← check (encodeFrame payload)
    appendFrame outcome frame
    return sequence

/-- Remove exactly the partial frame an earlier scan reported. -/
def truncateVerifiedIncompleteTail (candidate : Poseidon2P24Candidate) (expected : IncompleteTail) :
    EStateM (Fault PrivateSubmissionJournalError) (List UInt8) Unit := do
  let file ← get
  let scan : PrivateSubmissionJournalRecoveryScan candidate ← check (scanFrames reference file)
  match scan.incompleteTail with
  | none => throw (.error .recoveryTailChanged)
  | some actual =>
    if actual ≠ expected then
      throw (.error .recoveryTailChanged)
    else
      set (file.take actual.validPrefixLength)

end PrivateSubmissionJournalV2
end

/-! ## What the comparison accepts -/

/-- What the journal compares: the last two commitments of a list with the right
length, and the whole set of spent nullifiers. -/
structure ValidTransition (predecessor successor : CandidatePrivateLedgerStateV1 candidate)
    (assetId : AssetId) (inputs : Fin 2 -> NullifierV2) (outputs : Fin 2 -> NoteCommitmentV2) :
    Prop where
  registered : assetId ∈ predecessor.assets
  orderedInputs : inputs 0 < inputs 1
  orderedOutputs : outputs 0 < outputs 1
  appended : ∃ kept, kept.length = predecessor.snapshot.commitments.length /\
    successor.snapshot.commitments = kept ++ [outputs 0, outputs 1]
  unspent : forall index, inputs index ∉ predecessor.snapshot.spentNullifiers
  spent : successor.snapshot.spentSet = predecessor.snapshot.spentSet ∪ {inputs 0, inputs 1}

variable {predecessor successor : CandidatePrivateLedgerStateV1 candidate} {done : Unit}

theorem checkInput_eq_ok {nullifier} :
    checkInput predecessor successor nullifier = .ok done <->
      nullifier ∉ predecessor.snapshot.spentNullifiers /\
        nullifier ∈ successor.snapshot.spentNullifiers := by
  simp [checkInput, isSpent, Except.refuse_eq_ok]

/-- The nullifiers that were not spent before are counted without repetition. -/
theorem countP_unspent (predecessor successor : CandidatePrivateStateSnapshotV1 candidate) :
    successor.spentNullifiers.countP (fun nullifier => !isSpent predecessor nullifier) =
      (successor.spentSet \ predecessor.spentSet).card := by
  have distinct : successor.spentNullifiers.Nodup :=
    successor.sorted.imp (fun before => before.ne)
  rw [List.countP_eq_length_filter, ← List.toFinset_card_of_nodup (distinct.filter _)]
  congr 1
  ext nullifier
  simp [isSpent, CandidatePrivateStateSnapshotV1.spentSet]

theorem drop_eq_iff {old : List NoteCommitmentV2} {new outputs : List NoteCommitmentV2} :
    new.length = old.length + outputs.length /\ new.drop old.length = outputs <->
      ∃ kept, kept.length = old.length /\ new = kept ++ outputs := by
  constructor
  · intro isTail
    refine ⟨new.take old.length, ?_, ?_⟩
    · rw [List.length_take, isTail.1]
      omega
    · nth_rewrite 1 [← List.take_append_drop old.length new]
      rw [isTail.2]
  · intro isTail
    rcases isTail with ⟨kept, sameLength, rfl⟩
    rw [List.length_append, sameLength, ← sameLength, List.drop_left]
    exact ⟨rfl, rfl⟩

variable {inputs : Fin 2 -> NullifierV2}

/-- The counts leave no room for another nullifier. -/
theorem spent_iff {predecessor successor : CandidatePrivateStateSnapshotV1 candidate}
    (different : inputs 0 ≠ inputs 1)
    (unspent : forall index, inputs index ∉ predecessor.spentNullifiers) :
    successor.spentSet = predecessor.spentSet ∪ {inputs 0, inputs 1} <->
      successor.spentNullifiers.length = predecessor.spentNullifiers.length + 2 /\
      (forall index, inputs index ∈ successor.spentNullifiers) /\
      (successor.spentSet \ predecessor.spentSet).card = 2 := by
  have pair : ({inputs 0, inputs 1} : Finset NullifierV2).card = 2 := Finset.card_pair different
  have apart : Disjoint predecessor.spentSet {inputs 0, inputs 1} := by
    rw [Finset.disjoint_right]
    intro nullifier isInput spent
    have listed := List.mem_toFinset.mp spent
    rcases Finset.mem_insert.mp isInput with rfl | isSecond
    · exact unspent 0 listed
    · rw [Finset.mem_singleton.mp isSecond] at listed
      exact unspent 1 listed
  rw [← predecessor.card_spentSet, ← successor.card_spentSet]
  constructor
  · intro isUnion
    refine ⟨?_, ?_, ?_⟩
    · rw [isUnion, Finset.card_union_of_disjoint apart, pair]
    · intro index
      apply List.mem_toFinset.mp
      change inputs index ∈ successor.spentSet
      rw [isUnion]
      apply Finset.mem_union_right
      fin_cases index
      · exact Finset.mem_insert_self _ _
      · exact Finset.mem_insert_of_mem (Finset.mem_singleton_self _)
    · rw [isUnion, Finset.union_sdiff_left, Finset.sdiff_eq_self_of_disjoint apart.symm, pair]
  · intro counted
    rcases counted with ⟨total, spent, new⟩
    have isNew : ({inputs 0, inputs 1} : Finset NullifierV2) =
        successor.spentSet \ predecessor.spentSet := by
      apply Finset.eq_of_subset_of_card_le
      · intro nullifier isInput
        refine Finset.mem_sdiff.mpr ⟨?_, Finset.disjoint_right.mp apart isInput⟩
        apply List.mem_toFinset.mpr
        rcases Finset.mem_insert.mp isInput with rfl | isSecond
        · exact spent 0
        · rw [Finset.mem_singleton.mp isSecond]
          exact spent 1
      · rw [new, pair]
    have kept : predecessor.spentSet ⊆ successor.spentSet := by
      have split := Finset.card_sdiff_add_card_inter successor.spentSet predecessor.spentSet
      have same : successor.spentSet ∩ predecessor.spentSet = predecessor.spentSet :=
        Finset.eq_of_subset_of_card_le Finset.inter_subset_right (by omega)
      rw [← same]
      exact Finset.inter_subset_left
    rw [isNew, Finset.union_sdiff_of_subset kept]

theorem validateTransition_eq_ok {metadata : PrivateSubmissionMetadataV1} {assetId : AssetId}
    {outputs : Fin 2 -> NoteCommitmentV2} :
    validateTransition predecessor successor metadata assetId inputs outputs = .ok done <->
      ValidTransition predecessor successor assetId inputs outputs := by
  simp only [validateTransition, Except.refuse_eq_ok, Except.bind_eq_ok, checkInput_eq_ok,
    countP_unspent, not_not, not_le, and_true]
  constructor
  · intro accepted
    rcases accepted with ⟨_, registered, orderedInputs, orderedOutputs, length, tail, total, _,
      ⟨firstUnspent, firstSpent⟩, _, ⟨secondUnspent, secondSpent⟩, new⟩
    have unspent : forall index, inputs index ∉ predecessor.snapshot.spentNullifiers :=
      Fin.forall_fin_two.mpr ⟨firstUnspent, secondUnspent⟩
    exact ⟨registered, orderedInputs, orderedOutputs, drop_eq_iff.mp ⟨length, tail⟩, unspent,
      (spent_iff (ne_of_lt orderedInputs) unspent).mpr
        ⟨total, Fin.forall_fin_two.mpr ⟨firstSpent, secondSpent⟩, new⟩⟩
  · intro isValid
    rcases drop_eq_iff.mpr isValid.appended with ⟨length, tail⟩
    rcases (spent_iff (ne_of_lt isValid.orderedInputs) isValid.unspent).mp isValid.spent with
      ⟨total, spent, new⟩
    exact ⟨metadata.nonzero, isValid.registered, isValid.orderedInputs, isValid.orderedOutputs,
      length, tail, total, (), ⟨isValid.unspent 0, spent 0⟩, (), ⟨isValid.unspent 1, spent 1⟩, new⟩

end Noxis.Submission
