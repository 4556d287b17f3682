import Noxis.Foundation.EntryLog
import Noxis.Storage.SubmissionJournal

namespace Noxis.Submission

open Foundation Privacy PrivateSubmissionJournalV2

/-!
# What a scan of the submission journal finds

An entry is storable if its ledger can be restored from a record.  A payload is
decoded exactly to the storable entry it belongs to.  A scan succeeds exactly on
the frames of storable entries that are linked to each other, with or without a
partial frame behind them, and a recovery succeeds if the entries also follow
from the base.
-/

variable {candidate : Poseidon2P24Candidate}

theorem PrivateSubmissionMetadataV1.new_eq_ok {envelopeId metadata} :
    PrivateSubmissionMetadataV1.new envelopeId = .ok metadata <->
      envelopeId = metadata.envelopeId := by
  unfold PrivateSubmissionMetadataV1.new
  constructor
  · intro made
    split at made
    · cases made
    · rw [← Except.ok.inj made]
  · intro same
    subst same
    rw [dif_neg metadata.nonzero]

theorem reads_readPayloadPrefix : Reads readPayloadPrefix (fun _ => True) prefixBytes := by
  have array := @Reads.array PrivateSubmissionJournalError _ 32
  have metadata : Reads (readArray 32 >>= fun envelopeId =>
      (check (PrivateSubmissionMetadataV1.new envelopeId) :
        EStateM PrivateSubmissionJournalError Reader PrivateSubmissionMetadataV1))
      (fun _ => True) (fun metadata => metadata.envelopeId.toList) := by
    refine array.decoded PrivateSubmissionMetadataV1.envelopeId (fun _ => trivial) ?_
    intro envelopeId metadata start final
    rw [check_eq_ok, PrivateSubmissionMetadataV1.new_eq_ok]
  have input := @reads_readVector .nullifier _ _ PrivateSubmissionJournalError.privacy
  have output := @reads_readVector .noteCommitment _ _ PrivateSubmissionJournalError.privacy
  have vectors := input.pair (input.pair (output.pair (output.pair Reads.u32)))
  have built := (Reads.u64.pair (array.pair (array.pair (metadata.pair (array.pair vectors))))).map
    (fun (sequence, previousStateId, resultingStateId, metadata, assetId, firstInput, secondInput,
        firstOutput, secondOutput, recordLength) =>
      PayloadPrefix.mk sequence ⟨previousStateId⟩ ⟨resultingStateId⟩ metadata ⟨assetId⟩
        ![firstInput, secondInput] ![firstOutput, secondOutput] recordLength)
    (fun fields => (fields.sequence, fields.previousStateId.bytes, fields.resultingStateId.bytes,
      fields.metadata, fields.assetId.bytes, fields.inputNullifiers 0, fields.inputNullifiers 1,
      fields.outputCommitments 0, fields.outputCommitments 1, fields.recordLength))
    (fun _ _ => rfl) (by
      intro fields _
      have inputs : ![fields.inputNullifiers 0, fields.inputNullifiers 1] =
          fields.inputNullifiers := by
        funext index
        fin_cases index <;> rfl
      have outputs : ![fields.outputCommitments 0, fields.outputCommitments 1] =
          fields.outputCommitments := by
        funext index
        fin_cases index <;> rfl
      simp only [inputs, outputs])
  simp only [readPair, bind_assoc, pure_bind] at built
  refine built.congr ?_ (fun _ _ => rfl)
  intro fields
  simp only [and_self]

theorem length_prefixBytes (fields : PayloadPrefix) :
    (prefixBytes fields).length = payloadPrefixLength := by
  simp only [prefixBytes, List.length_append, length_bigEndian, Bytes.length_toList,
    payloadPrefixLength]

theorem parse_prefixBytes (fields : PayloadPrefix) :
    parse readPayloadPrefix (prefixBytes fields) = .ok fields :=
  reads_readPayloadPrefix.parse_encode trivial (by
    rw [length_prefixBytes]
    decide)

section
variable [Sha256] {reference : NullifierSparseTreeReferenceV1}
  {entry : StoredPrivateSubmissionV2 candidate}

/-- The fixed fields of an entry. -/
def prefixOf (entry : StoredPrivateSubmissionV2 candidate) : PayloadPrefix where
  sequence := entry.sequence
  previousStateId := entry.previousStateId
  resultingStateId := entry.resultingStateId
  metadata := entry.metadata
  assetId := entry.assetId
  inputNullifiers := entry.inputNullifiers
  outputCommitments := entry.outputCommitments
  recordLength := UInt32.ofNat (recordOf entry.state).length

def payloadOf (entry : StoredPrivateSubmissionV2 candidate) : List UInt8 :=
  prefixBytes (prefixOf entry) ++ recordOf entry.state

/-- An entry that names the identity of its ledger, whose ledger is restorable
and fits into a record. -/
structure Storable (reference : NullifierSparseTreeReferenceV1)
    (entry : StoredPrivateSubmissionV2 candidate) : Prop where
  restorable : Restorable reference entry.state
  fits : FitsRecord entry.state
  resulting : entry.resultingStateId = entry.stateId

theorem Storable.toNat_recordLength (storable : Storable reference entry) :
    (UInt32.ofNat (recordOf entry.state).length).toNat = (recordOf entry.state).length :=
  UInt32.toNat_ofNat_of_lt' (Nat.lt_of_le_of_lt
    (storable.restorable.length_recordOf_le storable.fits) (by decide))

theorem Storable.length_payloadOf_le (storable : Storable reference entry) :
    (payloadOf entry).length <= maxPayloadLength.toNat := by
  have size := storable.restorable.length_recordOf_le storable.fits
  have maximum : maxPayloadLength.toNat = payloadPrefixLength + privateStateRecordMaxBytes := by
    decide
  rw [payloadOf, List.length_append, length_prefixBytes, maximum]
  exact Nat.add_le_add_left size _

/-- Decoding accepts exactly the payloads of storable entries. -/
theorem decodePayload_eq_ok {payload} :
    decodePayload reference payload = .ok entry <->
      Storable reference entry /\ entry.offset = 0 /\ payload = payloadOf entry := by
  unfold decodePayload
  simp only [Except.refuse_eq_ok, Except.bind_eq_ok, Except.mapError_eq_ok, Except.ok.injEq,
    not_not, decodeCandidatePrivateLedgerState_eq_ok]
  constructor
  · intro decoded
    rcases decoded with ⟨_, fields, parsed, _, length, state, ⟨restorable, fits, isRecord⟩,
      resulting, rfl⟩
    refine ⟨⟨restorable, fits, resulting.symm⟩, rfl, ?_⟩
    have isPrefix := (reads_readPayloadPrefix.of_parse parsed).2
    rw [isRecord] at length
    have same : prefixOf (StoredPrivateSubmissionV2.mk 0 fields.sequence fields.previousStateId
        fields.resultingStateId fields.metadata fields.assetId fields.inputNullifiers
        fields.outputCommitments state) = fields := by
      rw [prefixOf]
      dsimp only
      rw [length, UInt32.ofNat_toNat]
    rw [payloadOf, same, ← isPrefix, ← isRecord, List.take_append_drop]
  · intro isEntry
    rcases isEntry with ⟨storable, isFirst, rfl⟩
    have isPrefix : (payloadOf entry).take payloadPrefixLength = prefixBytes (prefixOf entry) :=
      List.take_left' (length_prefixBytes _)
    have isRecord : (payloadOf entry).drop payloadPrefixLength = recordOf entry.state :=
      List.drop_left' (length_prefixBytes _)
    have recordLength : (prefixOf entry).recordLength.toNat = (recordOf entry.state).length :=
      storable.toNat_recordLength
    rw [isPrefix, isRecord]
    refine ⟨?_, prefixOf entry, parse_prefixBytes _, ?_, recordLength.symm, entry.state,
      ⟨storable.restorable, storable.fits, rfl⟩, storable.resulting.symm, ?_⟩
    · rw [payloadOf, List.length_append, length_prefixBytes]
      omega
    · rw [recordLength]
      exact Nat.not_lt.mpr (storable.restorable.length_recordOf_le storable.fits)
    · rw [← isFirst]
      rfl

omit [Sha256] in
/-- The entry has the next number and names the ledger of the one before it. -/
def Links : Option (StoredPrivateSubmissionV2 candidate) ->
    StoredPrivateSubmissionV2 candidate -> Prop
  | none, entry => entry.sequence = 1
  | some previous, entry =>
    checkedAdd previous.sequence 1 = some entry.sequence /\
      entry.previousStateId = previous.stateId

omit [Sha256] in
/-- Every entry is linked to the one before it. -/
def Linked (previous : Option (StoredPrivateSubmissionV2 candidate))
    (entries : List (StoredPrivateSubmissionV2 candidate)) : Prop :=
  ValidTracking Links (fun _ => some) previous entries

omit [Sha256] in
/-- The numbers and identities that the links of the journal use. -/
def submissionNumbering : Numbering (StoredPrivateSubmissionV2 candidate) StateId :=
  ⟨StoredPrivateSubmissionV2.offset, StoredPrivateSubmissionV2.sequence,
    StoredPrivateSubmissionV2.previousStateId, StoredPrivateSubmissionV2.stateId⟩

omit [Sha256] in
def submissionNumberingErrors : NumberingErrors PrivateSubmissionJournalError StateId :=
  ⟨.sequenceOverflow, .sequenceMismatch, .predecessorMismatch⟩

variable {previous : Option (StoredPrivateSubmissionV2 candidate)}

omit [Sha256] in
theorem links_iff : Links previous entry <-> submissionNumbering.Links previous entry := by
  cases previous with
  | none => exact Iff.rfl
  | some previous => exact Iff.rfl

variable {done : Unit}

omit [Sha256] in
theorem checkLink_eq_ok : checkLink previous entry = .ok done <-> Links previous entry := by
  have same : checkLink previous entry =
      submissionNumbering.checkLink submissionNumberingErrors previous entry := by
    cases previous with
    | none => rfl
    | some previous => rfl
  rw [same, Numbering.checkLink_eq_ok, links_iff]

/-- Entries with the offsets of their frames. -/
def placed (offset : Nat) : List (StoredPrivateSubmissionV2 candidate) ->
    List (StoredPrivateSubmissionV2 candidate)
  | [] => []
  | entry :: rest =>
    { entry with offset := offset } :: placed (offset + frameLength (payloadOf entry)) rest

/-- What the frames of a journal hold: storable entries at their places. -/
structure Holds (reference : NullifierSparseTreeReferenceV1) (offset : Nat)
    (entries : List (StoredPrivateSubmissionV2 candidate)) : Prop where
  storable : forall entry, entry ∈ entries -> Storable reference entry
  places : placed offset entries = entries

variable {offset : Nat}

theorem holds_cons {rest} :
    Holds reference offset (entry :: rest) <->
      Storable reference entry /\ entry.offset = offset /\
        Holds reference (offset + frameLength (payloadOf entry)) rest := by
  constructor
  · intro holds
    have parts := List.forall_mem_cons.mp holds.storable
    have places := holds.places
    rw [placed, List.cons.injEq] at places
    exact ⟨parts.1, congrArg StoredPrivateSubmissionV2.offset places.1.symm, parts.2, places.2⟩
  · intro holds
    rcases holds with ⟨storable, rfl, later⟩
    refine ⟨List.forall_mem_cons.mpr ⟨storable, later.storable⟩, ?_⟩
    rw [placed, later.places]

def submissionLog (candidate : Poseidon2P24Candidate) (reference : NullifierSparseTreeReferenceV1) :
    EntryLog PrivateSubmissionJournalError (StoredPrivateSubmissionV2 candidate) where
  format := submissionFrameFormat
  decode := fun _ => decodePayload reference
  place := fun offset entry => { entry with offset := offset }
  checkLink := checkLink

theorem exact_submissionLog :
    (submissionLog candidate reference).Exact (Storable reference) payloadOf Links := by
  constructor
  case decode_eq_ok =>
    intro _ payload decoded
    have isPlaced : { decoded with offset := 0 } = decoded <-> decoded.offset = 0 :=
      ⟨fun same => congrArg StoredPrivateSubmissionV2.offset same.symm, fun same => by rw [← same]⟩
    exact decodePayload_eq_ok.trans (and_congr_right
      (fun _ => and_congr_left (fun _ => isPlaced.symm)))
  case checkLink_eq_ok => exact checkLink_eq_ok
  case storable_place =>
    intro offset next
    exact ⟨fun storable => ⟨storable.restorable, storable.fits, storable.resulting⟩,
      fun storable => ⟨storable.restorable, storable.fits, storable.resulting⟩⟩
  case payloadOf_place => exact rfl
  case place_place => exact rfl
  case within => exact Storable.length_payloadOf_le

variable {entries : List (StoredPrivateSubmissionV2 candidate)}

theorem holds_iff :
    Holds reference offset entries <->
      (submissionLog candidate reference).Holds (Storable reference) payloadOf offset entries := by
  induction entries generalizing offset with
  | nil => exact iff_of_true ⟨nofun, rfl⟩ trivial
  | cons entry rest ih =>
    rw [holds_cons, EntryLog.Holds, ih]
    refine and_congr_right (fun _ => and_congr_left (fun _ => ?_))
    exact ⟨fun same => by rw [← same]; rfl,
      fun same => congrArg StoredPrivateSubmissionV2.offset same.symm⟩

theorem scanFrames_eq (file : List UInt8) :
    scanFrames reference file = ((submissionLog candidate reference).scan file).map (fun found =>
      (⟨found.1, found.2⟩ : PrivateSubmissionJournalRecoveryScan candidate)) := by
  unfold scanFrames EntryLog.scan
  have visits : visitSubmission reference = (submissionLog candidate reference).visit := rfl
  have formats : submissionFrameFormat = (submissionLog candidate reference).format := rfl
  rw [visits, formats]
  cases (submissionLog candidate reference).format.streamFrames Fault.error
    (submissionLog candidate reference).visit file [] with
  | ok tail entries => rfl
  | error fault entries => rfl

variable {file : List UInt8} {scan : PrivateSubmissionJournalRecoveryScan candidate}

/-- A scan succeeds exactly on the frames of linked entries, with or without a
partial frame behind them. -/
theorem scanRecoverableTail_eq_ok :
    scanRecoverableTail reference file = .ok scan <->
      submissionFrameFormat.Scans 0 file (scan.entries.map payloadOf) (.ok scan.incompleteTail) /\
        Holds reference 0 scan.entries /\ Linked none scan.entries := by
  rw [scanRecoverableTail, scanFrames_eq, holds_iff, Linked]
  change Except.map _ _ = _ <-> (submissionLog candidate reference).format.Scans _ _ _ _ /\ _
  rw [← exact_submissionLog.scan_eq_ok]
  cases (submissionLog candidate reference).scan file with
  | error fault => simp [Except.map]
  | ok found =>
    rw [Except.map, Except.ok.injEq, Except.ok.injEq]
    exact ⟨fun same => by rw [← same], fun same => by rw [same]⟩

/-- The file that holds entries. -/
def journalOf (entries : List (StoredPrivateSubmissionV2 candidate)) : List UInt8 :=
  submissionFrameFormat.encodeFrames (entries.map payloadOf)

variable {rest : List UInt8}

/-- The frames of storable entries are found in front of whatever follows them. -/
theorem scans_journalOf_append
    (storable : forall entry, entry ∈ entries -> Storable reference entry) {others outcome}
    (later : submissionFrameFormat.Scans (journalOf entries).length rest others outcome) :
    submissionFrameFormat.Scans 0 (journalOf entries ++ rest) (entries.map payloadOf ++ others)
      outcome :=
  exact_submissionLog.scans_fileOf_append storable later

theorem scanRecoverableTail_journalOf (holds : Holds reference 0 entries)
    (linked : Linked none entries) {tail}
    (later : submissionFrameFormat.Scans (journalOf entries).length rest [] (.ok tail)) :
    scanRecoverableTail reference (journalOf entries ++ rest) = .ok ⟨entries, tail⟩ := by
  have scans := scans_journalOf_append holds.storable later
  rw [List.append_nil] at scans
  exact scanRecoverableTail_eq_ok.mpr ⟨scans, holds, linked⟩

/-- Storable entries with one payload differ in their places only. -/
theorem Storable.eq_of_payloadOf {other} (storable : Storable reference entry)
    (otherStorable : Storable reference other) (same : payloadOf entry = payloadOf other) :
    { entry with offset := 0 } = { other with offset := 0 } := by
  have decoded : decodePayload reference (payloadOf entry) = .ok { entry with offset := 0 } :=
    decodePayload_eq_ok.mpr ⟨⟨storable.restorable, storable.fits, storable.resulting⟩, rfl, rfl⟩
  have otherDecoded : decodePayload reference (payloadOf entry) =
      .ok { other with offset := 0 } :=
    decodePayload_eq_ok.mpr
      ⟨⟨otherStorable.restorable, otherStorable.fits, otherStorable.resulting⟩, rfl, same⟩
  exact Except.ok.inj (decoded.symm.trans otherDecoded)

/-! ## Histories -/

omit [Sha256] in
/-- The entry names the identities of two ledgers that the journal can compare. -/
structure FollowsFrom (predecessor : CandidatePrivateLedgerStateV1 candidate)
    (entry : StoredPrivateSubmissionV2 candidate) : Prop where
  previous : entry.previousStateId = predecessor.anchor.stateId
  resulting : entry.resultingStateId = entry.stateId
  isValid : ValidTransition predecessor entry.state entry.assetId entry.inputNullifiers
    entry.outputCommitments

omit [Sha256] in
/-- A relation holds between each entry and the ledger before it. -/
def Along (relates : CandidatePrivateLedgerStateV1 candidate ->
      StoredPrivateSubmissionV2 candidate -> Prop)
    (base : CandidatePrivateLedgerStateV1 candidate)
    (entries : List (StoredPrivateSubmissionV2 candidate)) : Prop :=
  ValidTracking relates (fun _ entry => entry.state) base entries

variable {base : CandidatePrivateLedgerStateV1 candidate}

omit [Sha256] in
theorem validateHistory_eq_ok :
    validateHistory base entries = .ok done <-> Along FollowsFrom base entries := by
  induction entries generalizing base with
  | nil => exact iff_of_true rfl trivial
  | cons entry rest ih =>
    rw [validateHistory, Along, ValidTracking, ← Along, ← ih]
    simp only [Except.refuse_eq_ok, Except.bind_eq_ok, not_not, validateTransition_eq_ok]
    constructor
    · intro accepted
      rcases accepted with ⟨previous, resulting, _, isValid, later⟩
      exact ⟨⟨previous, resulting, isValid⟩, later⟩
    · intro accepted
      exact ⟨accepted.1.previous, accepted.1.resulting, (), accepted.1.isValid, accepted.2⟩

theorem recoverFrom_eq_ok :
    recoverFrom reference base file = .ok scan <->
      scanRecoverableTail reference file = .ok scan /\
        Along FollowsFrom base scan.entries := by
  unfold recoverFrom
  simp only [Except.bind_eq_ok, Except.mapError_eq_ok, validateHistory_eq_ok, Except.ok.injEq]
  constructor
  · intro recovered
    rcases recovered with ⟨found, scanned, _, follows, rfl⟩
    exact ⟨scanned, follows⟩
  · intro recovered
    exact ⟨scan, recovered.1, (), recovered.2, rfl⟩

end
end Noxis.Submission
