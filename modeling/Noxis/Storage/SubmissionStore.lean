import Noxis.Storage.PrivateStoreRuns
import Noxis.Storage.RecordLog
import Noxis.Storage.SubmissionHistory

namespace Noxis.Submission

open Foundation Privacy Stores PrivateSubmissionJournalV2
open Storage (WriteOutcome)

/-!
# The private submission store

The submission store keeps a private ledger with the journal of submissions.  The
journal is lawful, so every run of the store keeps one chain of transfers from the
immutable base, with at most one partial frame behind it.
-/

variable {candidate : Poseidon2P24Candidate} {A : Type}

section
variable [Sha256]

abbrev PrivateSubmissionStoreError : Type := PrivateStoreError PrivateSubmissionJournalError

/-- What the store uses of its journal.  The receipt of a transfer repeats the asset
and the notes of its intent. -/
def submissionJournal (candidate : Poseidon2P24Candidate)
    (reference : NullifierSparseTreeReferenceV1) :
    PrivateJournal candidate PrivateSubmissionJournalError (StoredPrivateSubmissionV2 candidate)
      PrivateSubmissionMetadataV1 where
  state := StoredPrivateSubmissionV2.state
  scanRecoverableTail := fun file =>
    (PrivateSubmissionJournalV2.scanRecoverableTail reference file).map
      (fun scan => (scan.entries, scan.incompleteTail))
  recoverFrom := fun base file =>
    (PrivateSubmissionJournalV2.recoverFrom reference base file).map
      (fun scan => (scan.entries, scan.incompleteTail))
  append := fun outcome predecessor successor intent metadata =>
    PrivateSubmissionJournalV2.appendSubmission reference outcome predecessor successor metadata
      intent.assetId intent.nullifiers (fun index => (intent.outputs index).commitment)
  truncateVerifiedIncompleteTail :=
    PrivateSubmissionJournalV2.truncateVerifiedIncompleteTail reference candidate
  inspect := "inspect private-submission state"
  staysNonempty := "nonempty submission journal remains nonempty"
  needsCache := "empty submission journal requires a valid cache"

namespace PrivateSubmissionStoreV2

variable (reference : NullifierSparseTreeReferenceV1)

def initializeStore (outcome : PublishOutcome) (state : CandidatePrivateLedgerStateV1 candidate) :
    EStateM (Fault PrivateSubmissionStoreError) StoreFiles
      (CandidatePrivateLedgerStateV1 candidate) :=
  Stores.initializeStore reference (submissionJournal candidate reference) outcome state

def initializeWithAuthenticatedBase (outcome baseOutcome : PublishOutcome)
    (state : CandidatePrivateLedgerStateV1 candidate) :
    EStateM (Fault PrivateSubmissionStoreError) StoreFiles
      (CandidatePrivateLedgerStateV1 candidate) :=
  Stores.initializeWithAuthenticatedBase reference (submissionJournal candidate reference) outcome
    baseOutcome state

def openStore (candidate : Poseidon2P24Candidate) (outcome : PublishOutcome) :
    EStateM (Fault PrivateSubmissionStoreError) StoreFiles
      (CandidatePrivateLedgerStateV1 candidate) :=
  Stores.openStore reference (submissionJournal candidate reference) outcome

def applyTransfer (transfer : StoreTransfer A PrivateSubmissionMetadataV1) :
    EStateM (Fault PrivateSubmissionStoreError) (PrivateStore candidate)
      CandidatePrivateTransferAdmissionReceiptV1 :=
  Stores.applyTransfer reference (submissionJournal candidate reference) transfer

def submissions (candidate : Poseidon2P24Candidate) (files : StoreFiles) :
    Except (Fault PrivateSubmissionStoreError) (List (StoredPrivateSubmissionV2 candidate)) :=
  entriesOf reference (submissionJournal candidate reference) files

end PrivateSubmissionStoreV2

/-! ## The journal is lawful -/

section
variable {reference : NullifierSparseTreeReferenceV1}
  {base : CandidatePrivateLedgerStateV1 candidate}
  {entries : List (StoredPrivateSubmissionV2 candidate)}

/-- One chain of transfers from a base, as the frames of a journal hold it. -/
structure Chain (reference : NullifierSparseTreeReferenceV1)
    (base : CandidatePrivateLedgerStateV1 candidate)
    (entries : List (StoredPrivateSubmissionV2 candidate)) : Prop where
  holds : Holds reference 0 entries
  linked : Linked none entries
  follows : Along FollowsFrom base entries
  transfers : Along (TransfersTo reference) base entries

def PartOfFrame (reference : NullifierSparseTreeReferenceV1) (candidate : Poseidon2P24Candidate)
    (rest : List UInt8) : Prop :=
  ∃ (entry : StoredPrivateSubmissionV2 candidate) (count : Nat), Storable reference entry /\
    0 < count /\ count < frameLength (payloadOf entry) /\
    rest = (submissionFrameFormat.encodeFrame (payloadOf entry)).take count

omit [Sha256] in
theorem nextSequence_eq (latest : Option (StoredPrivateSubmissionV2 candidate))
    (predecessor : StateId) :
    nextSequence latest predecessor =
      submissionNumbering.nextSequence submissionNumberingErrors latest predecessor := by
  cases latest with
  | none => rfl
  | some latest => rfl

/-- An entry that follows the latest one continues the chain. -/
theorem Chain.append {added} (chain : Chain reference base entries)
    (storable : Storable reference added) (isPlaced : added.offset = (journalOf entries).length)
    (numbered : nextSequence entries.getLast? added.previousStateId = .ok added.sequence)
    (follows : FollowsFrom (latestState (submissionJournal candidate reference) base entries) added)
    (transfers : TransfersTo reference
      (latestState (submissionJournal candidate reference) base entries) added) :
    Chain reference base (entries ++ [added]) := by
  constructor
  case holds =>
    rw [holds_iff, EntryLog.holds_append]
    refine ⟨holds_iff.mp chain.holds, storable, ?_, trivial⟩
    change { added with offset := 0 + (journalOf entries).length } = added
    rw [Nat.zero_add, ← isPlaced]
  case linked =>
    rw [Linked, validTracking_append, foldl_some]
    rw [nextSequence_eq] at numbered
    exact ⟨chain.linked, links_iff.mpr (Numbering.links_of_nextSequence numbered), trivial⟩
  case follows => exact validTracking_append.mpr ⟨chain.follows, follows, trivial⟩
  case transfers => exact validTracking_append.mpr ⟨chain.transfers, transfers, trivial⟩

/-- The payload and the frame of a storable entry are encoded. -/
theorem encodePayload_of_storable {entry : StoredPrivateSubmissionV2 candidate}
    (storable : Storable reference entry) :
    encodePayload candidate reference entry.sequence entry.previousStateId entry.resultingStateId
        entry.metadata entry.assetId entry.inputNullifiers entry.outputCommitments
        (recordOf entry.state) = .ok (payloadOf entry) := by
  have size := storable.restorable.length_recordOf_le storable.fits
  have limit : privateStateRecordMaxBytes < 2 ^ 32 := by decide
  apply Except.refuse_eq_ok.mpr ⟨by omega, ?_⟩
  apply Except.bind_eq_ok.mpr ⟨entry.state, Except.mapError_eq_ok.mpr ?_, ?_⟩
  · exact decodeCandidatePrivateLedgerState_eq_ok.mpr ⟨storable.restorable, storable.fits, rfl⟩
  · exact Except.refuse_eq_ok.mpr ⟨not_not.mpr storable.resulting.symm, rfl⟩

theorem encodeFrame_of_storable {entry : StoredPrivateSubmissionV2 candidate}
    (storable : Storable reference entry) :
    encodeFrame (payloadOf entry) = .ok (submissionFrameFormat.encodeFrame (payloadOf entry)) := by
  have encoded := (@FrameFormat.tryEncodeFrame_eq_ok _ submissionFrameFormat (payloadOf entry)
    _).mpr ⟨storable.length_payloadOf_le, rfl⟩
  unfold FrameFormat.tryEncodeFrame at encoded
  rcases Except.refuse_eq_ok.mp encoded with ⟨small, encoded⟩
  rcases Except.refuse_eq_ok.mp encoded with ⟨within, _⟩
  exact Except.refuse_eq_ok.mpr ⟨small, Except.refuse_eq_ok.mpr ⟨within, rfl⟩⟩

/-- Appending a transfer fails with nothing written, or it writes the frame of one
entry that continues the chain. -/
theorem appendSubmission_cases {successor : CandidatePrivateLedgerStateV1 candidate}
    {intent : PrivateTransferIntentV2} (outcome : WriteOutcome)
    (metadata : PrivateSubmissionMetadataV1) (chain : Chain reference base entries)
    (restorable : Restorable reference
      (latestState (submissionJournal candidate reference) base entries))
    (transfers : Transfers reference
      (latestState (submissionJournal candidate reference) base entries) successor intent) :
    let latest := latestState (submissionJournal candidate reference) base entries
    let append := appendSubmission reference outcome latest successor
      metadata intent.assetId intent.nullifiers (fun index => (intent.outputs index).commitment)
    (∃ fault, append (journalOf entries) = .error fault (journalOf entries)) ∨
      ∃ added, Chain reference base (entries ++ [added]) /\ added.state = successor /\
        FitsRecord successor /\ WritesFrame outcome (journalOf entries)
          (submissionFrameFormat.encodeFrame (payloadOf added)) (append (journalOf entries)) := by
  intro latest append
  have scanned := scanRecoverableTail_journalOf chain.holds chain.linked (FrameFormat.Scans.done _)
  rw [List.append_nil] at scanned
  rcases transfers with ⟨receipt, accepted⟩
  have next := restorable.continues_of_applyTransfer accepted
  change (∃ fault, appendSubmission _ _ _ _ _ _ _ _ _ = _) ∨
    ∃ added, _ /\ _ /\ _ /\ WritesFrame _ _ _ (appendSubmission _ _ _ _ _ _ _ _ _)
  unfold appendSubmission
  rcases check_bind_cases _ _ _ with ⟨reason, _, failed⟩ | ⟨_, validated, continued⟩
  · exact Or.inl ⟨reason, failed⟩
  rw [continued, get_bind, scanned]
  change (∃ fault, (check ((nextSequence entries.getLast?
    latest.anchor.stateId).mapError Fault.error) >>= _ : EStateM _ _ _) _ = _) ∨
    ∃ added, _ /\ _ /\ _ /\ WritesFrame _ _ _ ((check ((nextSequence
      entries.getLast? latest.anchor.stateId).mapError Fault.error) >>= _ : EStateM _ _ _) _)
  rcases check_bind_cases _ _ _ with ⟨reason, _, failed⟩ | ⟨sequence, numbered, continued⟩
  · exact Or.inl ⟨reason, failed⟩
  rw [continued]
  rcases check_bind_cases _ _ _ with ⟨reason, _, failed⟩ | ⟨nxpr, isEncoded, continued⟩
  · exact Or.inl ⟨reason, failed⟩
  rw [continued]
  rcases encodeCandidatePrivateLedgerState_eq_ok.mp (Except.mapError_eq_ok.mp isEncoded) with
    ⟨fits, _, rfl⟩
  have isValid := validateTransition_eq_ok.mp (Except.mapError_eq_ok.mp validated)
  let added : StoredPrivateSubmissionV2 candidate := {
    offset := (journalOf entries).length
    sequence
    previousStateId := latest.anchor.stateId
    resultingStateId := successor.anchor.stateId
    metadata
    assetId := intent.assetId
    inputNullifiers := intent.nullifiers
    outputCommitments := fun index => (intent.outputs index).commitment
    state := successor }
  have storable : Storable reference added := ⟨next.1, fits, rfl⟩
  have chained : Chain reference base (entries ++ [added]) :=
    chain.append storable rfl (Except.mapError_eq_ok.mp numbered) ⟨rfl, rfl, isValid⟩
      ⟨intent, receipt, rfl, rfl, rfl, accepted⟩
  refine Or.inr ⟨added, chained, rfl, fits, ?_⟩
  have payload := encodePayload_of_storable storable
  dsimp only [added] at payload
  rw [payload]
  change WritesFrame _ _ _ ((check (encodeFrame (payloadOf added)) >>= _ : EStateM _ _ _) _)
  rw [encodeFrame_of_storable storable]
  constructor
  case complete =>
    intro isComplete
    rw [isComplete]
    exact ⟨sequence, rfl⟩
  case failed =>
    intro operation count isFailed
    rw [isFailed]
    exact ⟨_, rfl⟩

theorem scanRecoverableTail_eq_scan (file : List UInt8) :
    (submissionJournal candidate reference).scanRecoverableTail file =
      (submissionLog candidate reference).scan file := by
  change Except.map _ (scanFrames reference file) = _
  rw [scanFrames_eq]
  cases (submissionLog candidate reference).scan file with
  | error fault => rfl
  | ok found => rfl

theorem truncateVerifiedIncompleteTail_eq_truncate (tail : IncompleteTail) :
    (submissionJournal candidate reference).truncateVerifiedIncompleteTail tail =
      (submissionLog candidate reference).truncate .recoveryTailChanged tail := by
  funext file
  change PrivateSubmissionJournalV2.truncateVerifiedIncompleteTail reference candidate tail file = _
  rw [PrivateSubmissionJournalV2.truncateVerifiedIncompleteTail, EntryLog.truncate, get_bind,
    get_bind, scanFrames_eq]
  cases (submissionLog candidate reference).scan file with
  | error fault => rfl
  | ok found => rfl

def lawfulSubmissionJournal (candidate : Poseidon2P24Candidate)
    (reference : NullifierSparseTreeReferenceV1) :
    LawfulJournal reference (submissionJournal candidate reference) where
  fileOf := journalOf
  Valid := Chain reference
  Cut := PartOfFrame reference candidate
  fileOf_nil := rfl
  valid_nil := fun _ => ⟨⟨nofun, rfl⟩, trivial, trivial, trivial⟩
  scanned := by
    intro base entries chain
    have scanned := exact_submissionLog.scan_fileOf (holds_iff.mp chain.holds) chain.linked
      (FrameFormat.Scans.done _)
    rw [List.append_nil] at scanned
    exact (scanRecoverableTail_eq_scan _).trans scanned
  scannedCut := by
    intro base entries rest chain part
    rcases part with ⟨entry, count, storable, some, short, rfl⟩
    rw [scanRecoverableTail_eq_scan]
    rcases exact_submissionLog.scan_cut (holds_iff.mp chain.holds) chain.linked storable some short
      .recoveryTailChanged with ⟨tail, scanned, truncated⟩
    refine ⟨tail, scanned, ?_⟩
    rw [truncateVerifiedIncompleteTail_eq_truncate]
    exact truncated
  recovered := by
    intro base entries file tail chain scanned
    have found : PrivateSubmissionJournalV2.scanRecoverableTail reference file =
        .ok ⟨entries, tail⟩ := by
      rw [scanRecoverableTail_eq_scan] at scanned
      rw [PrivateSubmissionJournalV2.scanRecoverableTail, scanFrames_eq, scanned]
      rfl
    change Except.map _ (PrivateSubmissionJournalV2.recoverFrom reference base file) = _
    rw [recoverFrom_eq_ok.mpr ⟨found, chain.follows⟩]
    rfl
  appended := by
    intro base entries successor intent outcome metadata chain restorable transfers
    rcases appendSubmission_cases outcome metadata chain restorable transfers with
      refused | ⟨added, chained, isState, fits, writes⟩
    · exact Or.inl refused
    have storable := (holds_iff.mp chained.holds).all_storable added
      (List.mem_append_right _ (List.mem_singleton_self _))
    refine Or.inr ⟨added, _, chained, isState, fits, ?_, ?_, writes⟩
    · change (submissionLog candidate reference).fileOf payloadOf (entries ++ [added]) = _
      rw [EntryLog.fileOf_append, EntryLog.fileOf_singleton]
      rfl
    · intro count some short
      rw [FrameFormat.length_encodeFrame] at short
      exact ⟨added, count, storable, some, short, rfl⟩

end
end

open LedgerLog in
/-- The record log and the submission journal survive a crash at any byte. -/
theorem logs_survive_cuts [Sha256] (candidate : Poseidon2P24Candidate)
    (reference : NullifierSparseTreeReferenceV1) :
    EntryLog.SurvivesCuts (fun file => (StateRecordLog.scanRecoverableTail file).map
        (fun scan => (scan.records, scan.incompleteTail)))
      StateRecordLog.truncateVerifiedIncompleteTail logOf /\
    EntryLog.SurvivesCuts (submissionJournal candidate reference).scanRecoverableTail
      (submissionJournal candidate reference).truncateVerifiedIncompleteTail journalOf := by
  constructor
  · have scans (file : List UInt8) : (StateRecordLog.scanRecoverableTail file).map
        (fun scan => (scan.records, scan.incompleteTail)) = recordLog.scan file := by
      rw [StateRecordLog.scanRecoverableTail]
      cases recordLog.scan file <;> rfl
    rw [funext scans]
    intro records file count scanned short
    rcases exact_recordLog.survivesCuts .recoveryTailChanged records file count scanned short with
      ⟨complete, tail, bounded, inside, found, ends, _⟩
    refine ⟨complete, tail, bounded, inside, found, ends, ?_⟩
    rintro tail rfl
    exact StateRecordLog.truncate_of_scan found
  · rw [funext scanRecoverableTail_eq_scan, funext truncateVerifiedIncompleteTail_eq_truncate]
    exact exact_submissionLog.survivesCuts _

theorem scan_of_recoverFrom [Sha256] {candidate : Poseidon2P24Candidate} {reference base file}
    {entries : List (StoredPrivateSubmissionV2 candidate)}
    (recovered : recoverFrom reference base file = .ok ⟨entries, none⟩) :
    (submissionJournal candidate reference).scanRecoverableTail file = .ok (entries, none) := by
  change Except.map _ (scanRecoverableTail reference file) = _
  rw [(recoverFrom_eq_ok.mp recovered).1]
  rfl

section
open Fips180

/-- A journal of one transfer that is cut inside its frame loses that transfer only. -/
theorem cut_journal_is_truncated :
    ∃ (entry : StoredPrivateSubmissionV2 loadCandidate) (file : List UInt8) (tail : IncompleteTail),
      let journal := submissionJournal loadCandidate loadSparseCandidate
      journal.scanRecoverableTail file = .ok ([entry], none) /\
      journal.scanRecoverableTail (file.take 3) = .ok ([], some tail) /\
      journal.truncateVerifiedIncompleteTail tail (file.take 3) = .ok () [] := by
  rcases exists_recovered_entry loadCandidate loadSparseCandidate (.replicate 1) (.replicate 2)
    zeroParameters (by decide +kernel : [(constantVector 1 : NoteCommitmentV2),
      constantVector 12, constantVector 13].Nodup) List.Pairwise.nil nofun (Nat.zero_le _) with
    ⟨base, successor, _, recovered, _⟩
  have scanned := scan_of_recoverFrom recovered
  have whole : 3 < (journalOf [firstEntry base successor]).length := by
    change 3 < ((submissionLog loadCandidate loadSparseCandidate).fileOf payloadOf _).length
    rw [EntryLog.fileOf_singleton, FrameFormat.length_encodeFrame, frameLength,
      frameHeaderLength]
    omega
  rcases (logs_survive_cuts loadCandidate loadSparseCandidate).2 _ _ 3 scanned whole.le with
    ⟨complete, tail, _, inside, found, ends, truncated⟩
  have outside := (inside 1 le_rfl).not.mp (Nat.not_le.mpr whole)
  obtain rfl : complete = 0 := by omega
  cases tail with
  | none => cases ends.mp rfl
  | some tail => exact ⟨_, _, tail, scanned, found, truncated tail rfl⟩

end

/-- In every run of a store that was created for a ledger, unless the first tree of
the ledger collides with the tree of its snapshot or the identities of two ledgers
collide in a situation the run passes: the journal holds one chain of transfers
from the immutable base and at most one partial frame behind it; a transfer that
fails after it has written to the journal makes all later transfers fail and leave
the store as it is; and opening the store gives the ledger of the last complete
frame, or the initial one, and returns exactly the complete entries. -/
theorem submission_store_keeps_one_chain [Sha256] {B : Type}
    (reference : NullifierSparseTreeReferenceV1) (genesisId : GenesisId)
    (validationContextId : ValidationContextId) (noteTreeParameters : TreeParametersV2)
    (snapshot : CandidatePrivateStateSnapshotV1 candidate) (marked : List NullifierV2)
    (ledger : CandidatePrivateLedgerStateV1 candidate)
    (created : CandidatePrivateLedgerStateV1.new reference genesisId validationContextId
      noteTreeParameters snapshot (markEach reference .newCandidate marked) = .ok ledger)
    (ledgerCalls : List (PrivateLedgerCall B)) (initial : CandidatePrivateLedgerStateV1 candidate)
    (isInitial : initial = (run (privateStep reference) ledger ledgerCalls).1)
    (outcome baseOutcome : PublishOutcome) (start files : StoreFiles)
    (opened : CandidatePrivateLedgerStateV1 candidate)
    (initialized :
      PrivateSubmissionStoreV2.initializeStore reference outcome initial start = .ok opened files ∨
        PrivateSubmissionStoreV2.initializeWithAuthenticatedBase reference outcome baseOutcome
          initial start = .ok opened files)
    (calls : List (StoreCall A PrivateSubmissionMetadataV1)) :
    let journal := submissionJournal candidate reference
    let lawful := lawfulSubmissionJournal candidate reference
    let reached := run (recordedStep reference journal) ⟨files, some opened⟩ calls
    (TreesCollide reference (markEach reference .newCandidate marked)
        (markEach reference .newCandidate snapshot.spentNullifiers) ∨
      TreesCollide reference (markEach reference .newCandidate snapshot.spentNullifiers)
        (markEach reference .newCandidate marked)) ∨
    (∃ visited, visited ∈ reached.2 /\ MemoryCollides lawful initial visited) ∨
    ∃ entries rest, Chain reference initial entries /\
      reached.1.files.journal = some (journalOf entries ++ rest) /\
      (rest = [] ∨ PartOfFrame reference candidate rest) /\
      (reached.1.files.base = some (recordOf initial) ∨
        reached.1.files.base = none /\ entries = [] /\ rest = []) /\
      (forall state (transfer : StoreTransfer A PrivateSubmissionMetadataV1) fault after,
        reached.1.memory = some state ->
        PrivateSubmissionStoreV2.applyTransfer reference transfer ⟨reached.1.files, state⟩ =
          .error fault after ->
        after.files.journal ≠ reached.1.files.journal ->
        MemoryCollides lawful initial ⟨after.files, some after.state⟩ ∨
          forall transfers : List (StoreTransfer A PrivateSubmissionMetadataV1),
            run (attempt reference journal) after transfers =
              (after, transfers.map (fun _ => false))) /\
      ∃ reopened,
        PrivateSubmissionStoreV2.openStore reference candidate .complete reached.1.files =
          .ok (latestState journal initial entries) reopened /\
        reopened.journal = some (journalOf entries) /\
        PrivateSubmissionStoreV2.submissions reference candidate reopened = .ok entries := by
  intro journal lawful reached
  subst isInitial
  rcases coherent_of_run created ledgerCalls with coherent | collide
  · right
    have begins : opened = (run (privateStep reference) ledger ledgerCalls).1 /\
        Restorable reference (run (privateStep reference) ledger ledgerCalls).1 /\
        FitsRecord (run (privateStep reference) ledger ledgerCalls).1 /\
        Stored lawful (run (privateStep reference) ledger ledgerCalls).1 files [] [] := by
      rcases initialized with initialized | initialized
      · exact stored_of_initializeStore coherent initialized
      · exact stored_of_initializeWithAuthenticatedBase coherent initialized
    rcases begins with ⟨rfl, restorable, fits, stored⟩
    have stands : Stands lawful (run (privateStep reference) ledger ledgerCalls).1
        ⟨files, some (run (privateStep reference) ledger ledgerCalls).1⟩ :=
      ⟨[], [], stored, fun state same => Or.inl ⟨rfl, (Option.some.inj same).symm⟩⟩
    rcases stands.run restorable fits calls with collides | later
    · exact Or.inl collides
    right
    rcases later with ⟨entries, rest, isStored, memory⟩
    refine ⟨entries, rest, isStored.valid, isStored.journalFile, isStored.tail,
      isStored.baseFile, ?_, ?_⟩
    · intro state transfer fault after isOpen failed changed
      have current : Stands lawful _ ⟨reached.1.files, some state⟩ :=
        ⟨entries, rest, isStored, fun other same => memory other (isOpen.trans same)⟩
      exact current.fails_after_writing restorable fits failed changed
    · rcases isStored.openStore_cases restorable fits .complete with
        ⟨reopened, reopenedStored, succeeded | ⟨incomplete, _⟩⟩
      · have isJournal := reopenedStored.journalFile
        rw [List.append_nil] at isJournal
        exact ⟨reopened, succeeded, isJournal, reopenedStored.entriesOf_eq restorable fits⟩
      · exact absurd rfl incomplete
  · exact Or.inl collide

section
open Fips180

/-- A store of the empty ledger with one asset can be opened again after a whole
transfer and any second one that is interrupted after three bytes. -/
theorem interrupted_store_is_reopened :
    ∃ ledger initial files, CandidatePrivateLedgerStateV1.new loadSparseCandidate (.replicate 1)
        (.replicate 2) zeroParameters emptySnapshot (markEach loadSparseCandidate .newCandidate []) =
      .ok ledger /\
      initial = (run (privateStep loadSparseCandidate) ledger
        [(.registerAsset noxAsset : PrivateLedgerCall Unit)]).1 /\
      PrivateSubmissionStoreV2.initializeStore loadSparseCandidate .complete initial
        ⟨none, none, none⟩ = .ok initial files /\
      forall second,
      let transfer (intent : PrivateTransferIntentV2) (outcome : WriteOutcome) :
          StoreCall Unit PrivateSubmissionMetadataV1 :=
        .applyTransfer ⟨⟨intent, ()⟩, fun _ _ _ _ => .ok (), ⟨.replicate 32 1, by decide⟩,
          .complete, outcome, .complete⟩
      let reached := run (recordedStep loadSparseCandidate
        (submissionJournal loadCandidate loadSparseCandidate)) ⟨files, some initial⟩
        [transfer (transferFrom initial.anchor) .complete,
          transfer second (.failed "append private-submission journal frame" 3)]
      TreesCollide loadSparseCandidate .newCandidate .newCandidate ∨
        (∃ visited, visited ∈ reached.2 /\
          MemoryCollides (lawfulSubmissionJournal loadCandidate loadSparseCandidate) initial visited) ∨
        ∃ state entries reopened, Chain loadSparseCandidate initial entries /\
          PrivateSubmissionStoreV2.openStore loadSparseCandidate loadCandidate .complete
            reached.1.files = .ok state reopened /\
          PrivateSubmissionStoreV2.submissions loadSparseCandidate loadCandidate reopened =
            .ok entries := by
  rcases exists_emptyAnchor zeroParameters with ⟨anchor, made⟩
  have isInitial : assetLedger anchor = (run (privateStep loadSparseCandidate)
      (emptyLedger anchor) [(.registerAsset noxAsset : PrivateLedgerCall Unit)]).1 := by
    rw [run_cons_of_step (privateStep_registerAsset anchor)]
    rfl
  have initialized : PrivateSubmissionStoreV2.initializeStore loadSparseCandidate .complete
      (assetLedger anchor) ⟨none, none, none⟩ =
        .ok (assetLedger anchor) ⟨some (recordOf (assetLedger anchor)), none, some []⟩ :=
    initializeStore_of_restorable (restorable_assetLedger made) ⟨Nat.zero_le _, by
      rw [length_assetList rfl]
      decide⟩
  refine ⟨_, _, _, new_emptyLedger made, isInitial, initialized, ?_⟩
  intro second transfer reached
  rcases submission_store_keeps_one_chain loadSparseCandidate _ _ _ _ _ _ (new_emptyLedger made) _
    _ isInitial .complete .complete _ _ _ (Or.inl initialized) [transfer _ _, transfer _ _] with
    (collide | collide) | collides | ⟨entries, rest, chain, _, _, _, _, reopens⟩
  · exact Or.inl collide
  · exact Or.inl collide
  · exact Or.inr (Or.inl collides)
  · rcases reopens with ⟨reopened, succeeded, _, listed⟩
    exact Or.inr (Or.inr ⟨_, entries, reopened, chain, succeeded, listed⟩)

end
end Noxis.Submission
