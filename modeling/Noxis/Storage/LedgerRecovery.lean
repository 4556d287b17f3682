import Noxis.Storage.PersistentLedger

namespace Noxis.LedgerLog

open Foundation Codec Crypto Ledger RecordChain Checkpoints LedgerState

/-!
# Checkpoints do not change what a log means

A replay with checkpoints validates the same records as one without.  Where a
checkpoint takes the place of the ledger, the two have the same snapshot; a ledger
is determined by its snapshot, so nothing changes for the records behind it.  The
directory of checkpoints is seen only in two refusals of its own.
-/

section
variable [Sha256]

/-- Two checkpoints of one record are the same. -/
def Agree (left right : Checkpoint) : Prop := left.sequence = right.sequence -> left = right

theorem Agree.symm {left right} (agree : Agree left right) : Agree right left :=
  fun same => (agree same.symm).symm

/-- All candidates are entered exactly when they agree with each other and with
what was entered before. -/
theorem foldlM_enterCandidate {candidates : List CheckpointReceipt}
    {entered : Table UInt64 CheckpointReceipt} :
    (∃ result, candidates.foldlM enterCandidate entered = .ok result) <->
      (forall candidate, candidate ∈ candidates -> forall earlier,
        entered.lookup candidate.checkpoint.sequence = some earlier ->
          earlier.checkpoint = candidate.checkpoint) /\
      (candidates.map CheckpointReceipt.checkpoint).Pairwise Agree := by
  induction candidates generalizing entered with
  | nil => exact iff_of_true ⟨entered, rfl⟩ ⟨nofun, List.Pairwise.nil⟩
  | cons candidate rest ih =>
    rw [List.foldlM_cons, List.forall_mem_cons, List.map_cons, List.pairwise_cons,
      List.forall_mem_map]
    cases found : entered.lookup candidate.checkpoint.sequence with
    | none =>
      have step : enterCandidate entered candidate =
          .ok (entered.insert candidate.checkpoint.sequence candidate) := by
        rw [enterCandidate, found]
      rw [step]
      refine ih.trans ?_
      constructor
      · intro accepted
        refine ⟨⟨nofun, ?_⟩, ?_, accepted.2⟩
        · intro other listed earlier isEntered
          refine accepted.1 other listed earlier ?_
          rw [Finmap.lookup_insert_of_ne _ ?_]
          · exact isEntered
          · intro same
            rw [same, found] at isEntered
            cases isEntered
        · intro other listed same
          refine accepted.1 other listed candidate ?_
          rw [← same, Finmap.lookup_insert]
      · intro accepted
        rcases accepted with ⟨⟨_, before⟩, here, later⟩
        refine ⟨?_, later⟩
        intro other listed earlier isEntered
        by_cases same : candidate.checkpoint.sequence = other.checkpoint.sequence
        · rw [← same, Finmap.lookup_insert] at isEntered
          cases isEntered
          exact here other listed same
        · rw [Finmap.lookup_insert_of_ne _ (Ne.symm same)] at isEntered
          exact before other listed earlier isEntered
    | some earlier =>
      by_cases equal : earlier.checkpoint = candidate.checkpoint
      · have step : enterCandidate entered candidate = .ok entered := by
          rw [enterCandidate, found]
          exact if_pos equal
        rw [step]
        refine ih.trans ?_
        constructor
        · intro accepted
          refine ⟨⟨?_, accepted.1⟩, ?_, accepted.2⟩
          · intro other same
            cases same
            exact equal
          · intro other listed same
            exact equal.symm.trans (accepted.1 other listed earlier (same ▸ found))
        · intro accepted
          exact ⟨accepted.1.2, accepted.2.2⟩
      · have step : enterCandidate entered candidate = .error (.ambiguousCheckpoints
            candidate.checkpoint.sequence earlier.name candidate.name) := by
          rw [enterCandidate, found]
          exact if_neg equal
        rw [step]
        refine iff_of_false ?_ ?_
        · intro impossible
          rcases impossible with ⟨_, impossible⟩
          cases impossible
        · intro accepted
          exact equal (accepted.1.1 earlier rfl)

/-- The checkpoints of a directory are loaded unless there are too many of them or
two of one record differ. -/
theorem exists_loadCheckpoints {directory : Option (List DirectoryEntry)} :
    (∃ bySequence, loadCheckpoints (some directory) = .ok bySequence) <->
      ¬maxDiscoveredCheckpoints < (checkpointsIn directory).length /\
        (checkpointsIn directory).Pairwise Agree := by
  rcases loadCandidates_cases directory with ⟨many, refused⟩ | ⟨few, candidates, loaded, perm⟩
  · refine iff_of_false ?_ (fun accepted => accepted.1 many)
    intro impossible
    rcases impossible with ⟨_, impossible⟩
    rw [loadCheckpoints, refused] at impossible
    cases impossible
  · rw [and_iff_right few, ← List.Perm.pairwise_iff Agree.symm perm, loadCheckpoints, loaded]
    change (∃ bySequence, Except.mapError _ (checkpointCandidatesBySequence candidates) = _) <-> _
    simp only [Except.mapError_eq_ok]
    refine foldlM_enterCandidate.trans ?_
    refine and_iff_right ?_
    intro candidate _ earlier isEntered
    rw [Finmap.lookup_empty] at isEntered
    cases isEntered

/-- The ledger of a checkpoint is restored without an abort, and it is well formed. -/
theorem restoreState_cases (checkpoint : Checkpoint) (anchor : ChainAnchor) :
    (∃ reason, checkpoint.restoreState anchor = .error (.error reason)) ∨
      ∃ state, checkpoint.restoreState anchor = .ok state /\ state.WellFormed := by
  unfold Checkpoint.restoreState
  by_cases foreign : checkpoint.genesisId ≠ anchor.genesisId ∨
      checkpoint.validationContextId ≠ anchor.validationContextId
  · rw [if_pos foreign]
    exact Or.inl ⟨_, rfl⟩
  rw [if_neg foreign]
  rw [not_or, not_not, not_not] at foreign
  rcases checkpoint.restorable with ⟨state, restored, identified⟩
  rw [foreign.1] at identified
  refine Or.inr ⟨state, ?_, ?_⟩
  · rw [restored]
    change ((state.stateId anchor.genesisId).mapError Fault.panic >>= _) = _
    rw [identified]
    exact if_neg (not_not_intro rfl)
  · rcases restoredFrom_of_fromSnapshot restored with ⟨canonical, facts⟩
    exact wellFormed_of_restoredFrom canonical facts

/-- A checkpoint that is accepted at a record holds the very ledger that was
reached there. -/
theorem restoreVerified_of_wellFormed (checkpoint : Checkpoint) (record : TransactionRecord)
    {replayed} (wellFormed : replayed.WellFormed) (anchor : ChainAnchor) :
    ∃ found, restoreVerifiedCheckpointAtRecord checkpoint record replayed anchor = .ok found /\
      forall restored, found = some restored -> restored = replayed := by
  unfold restoreVerifiedCheckpointAtRecord
  split_ifs with unrelated
  · exact ⟨none, rfl, nofun⟩
  · rcases restoreState_cases checkpoint anchor with ⟨reason, refused⟩ | ⟨state, restored, formed⟩
    · rw [refused]
      exact ⟨none, rfl, nofun⟩
    rw [restored]
    refine ⟨if state.listing = replayed.listing then some state else none, ?_, ?_⟩
    · change (state.snapshot >>= _) = _
      rw [(snapshot_of_wellFormed formed).1, (snapshot_of_wellFormed wellFormed).1]
      rfl
    · intro other isFound
      split_ifs at isFound with same
      cases isFound
      exact eq_of_listing_eq formed wellFormed same

section
variable {anchor : ChainAnchor} {validationContext : ValidationContext}
  {verifier : ProofVerifier} {mintPolicy : MintPolicy}

/-- A transaction that takes a history to the next one and leaves this record. -/
structure Advances (anchor : ChainAnchor) (validationContext : ValidationContext)
    (verifier : ProofVerifier) (mintPolicy : MintPolicy) (history : LedgerHistory)
    (transaction : Transaction) (record : TransactionRecord) (next : LedgerHistory) : Prop where
  encoded : encodeTransaction transaction = .ok record.transactionBytes
  suite : transaction.suite = validationContext.cryptoSuite
  identified : transactionIntentId transaction = .ok record.transactionIntentId
  applied : LedgerState.apply transaction verifier mintPolicy
    ⟨anchor.genesisId, anchor.validationContextId, record.transactionIntentId,
      history.chain.currentStateId⟩ history.state = .ok () next.state
  state : next.state.stateId anchor.genesisId = .ok record.resultingStateId
  made : TransactionRecord.new history.chain.nextSequence history.chain.currentStateId
    record.transactionBytes record.resultingStateId = .ok record
  linked : Chain.apply record history.chain = .ok () next.chain
  terminal : next.terminalRecordHash = some record.recordHash

omit [Sha256] in
theorem ensureTransactionSuite_eq_ok {suite done} :
    ensureTransactionSuite validationContext suite = .ok done <->
      suite = validationContext.cryptoSuite := by
  unfold ensureTransactionSuite
  split_ifs with same
  · exact iff_of_true rfl same
  · refine iff_of_false ?_ same
    intro impossible
    cases impossible

variable {history next : LedgerHistory} {record : TransactionRecord}

/-- A replay accepts a record exactly when its transaction leaves this record. -/
theorem validateRecord_eq_ok (made : record.Made) :
    validateRecord anchor validationContext verifier mintPolicy history record = .ok next <->
      ∃ transaction,
        Advances anchor validationContext verifier mintPolicy history transaction record next := by
  unfold validateRecord
  simp only [Except.bind_eq_ok, Except.mapError_eq_ok, onCopy_eq_ok, decodeTransaction_eq_ok,
    ensureTransactionSuite_eq_ok, Except.refuse_eq_ok, not_not, Except.ok.injEq]
  constructor
  · intro validated
    rcases validated with ⟨chain, linked, transaction, encoded, _, suite, state, applied, _,
      identified, rfl, rfl⟩
    rcases Chain.apply_eq_ok.mp linked with ⟨extended, _⟩
    rcases TransactionRecord.new_eq_ok.mp made with ⟨other, intentId, isEncoded, isIdentified, same⟩
    have sameTransaction : other = transaction := by
      have decoded := decodeTransaction_eq_ok.mpr isEncoded
      rw [decodeTransaction_eq_ok.mpr encoded] at decoded
      exact (Except.ok.inj decoded).symm
    have sameIntent : record.transactionIntentId = intentId :=
      congrArg TransactionRecord.transactionIntentId same
    refine ⟨transaction, encoded, suite, ?_, ?_, identified, ?_, linked, rfl⟩
    · rw [sameIntent, ← sameTransaction]
      exact isIdentified
    · rw [← extended.previous]
      exact applied
    · rw [← extended.sequence, ← extended.previous]
      exact made
  · intro advanced
    rcases advanced with ⟨transaction, advances⟩
    rcases Chain.apply_eq_ok.mp advances.linked with ⟨extended, _⟩
    have applied := advances.applied
    rw [← extended.previous] at applied
    refine ⟨next.chain, advances.linked, transaction, advances.encoded, (), advances.suite,
      next.state, applied, _, advances.state, rfl, ?_⟩
    rw [← advances.terminal]

theorem wellFormed_of_validateRecord (wellFormed : history.state.WellFormed)
    (validated : validateRecord anchor validationContext verifier mintPolicy history record =
      .ok next) : next.state.WellFormed := by
  unfold validateRecord at validated
  simp only [Except.bind_eq_ok, Except.mapError_eq_ok, onCopy_eq_ok, Except.refuse_eq_ok,
    Except.ok.injEq] at validated
  rcases validated with ⟨_, _, _, _, _, _, state, applied, _, _, _, rfl⟩
  exact wellFormed_of_accepts wellFormed (apply_eq_ok applied)

variable {recovery : Recovery}

/-- Looking for a checkpoint does not change what a record leads to. -/
theorem map_replayRecord {stored} (wellFormed : recovery.state.WellFormed) :
    (replayRecord anchor validationContext verifier mintPolicy recovery stored).map
        Recovery.toLedgerHistory =
      validateRecord anchor validationContext verifier mintPolicy recovery.toLedgerHistory
        stored.record := by
  unfold replayRecord
  cases validated : validateRecord anchor validationContext verifier mintPolicy
      recovery.toLedgerHistory stored.record with
  | error fault => rfl
  | ok history =>
    have formed := wellFormed_of_validateRecord wellFormed validated
    cases found : recovery.checkpointCandidates.lookup stored.record.sequence with
    | none => rfl
    | some receipt =>
      rcases restoreVerified_of_wellFormed receipt.checkpoint stored.record formed anchor with
        ⟨outcome, isOutcome, same⟩
      change Except.map _ (Except.mapError _ (restoreVerifiedCheckpointAtRecord
        receipt.checkpoint stored.record history.state anchor) >>= _) = _
      rw [isOutcome]
      cases outcome with
      | none => rfl
      | some restored =>
        have isReached := same restored rfl
        rw [isReached]
        rfl

variable {records : List StoredRecord}

/-- Checkpoints are invisible in the history a replay leads to. -/
theorem map_foldlM_replayRecord (wellFormed : recovery.state.WellFormed) :
    (records.foldlM (replayRecord anchor validationContext verifier mintPolicy) recovery).map
        Recovery.toLedgerHistory =
      records.foldlM (fun history stored =>
        validateRecord anchor validationContext verifier mintPolicy history stored.record)
        recovery.toLedgerHistory :=
  @Except.map_foldlM _ _ _ _ _ _ _ _ _ (fun history => history.state.WellFormed)
    wellFormed_of_validateRecord map_replayRecord wellFormed

/-! ## Opening a log -/

variable {initialState : LedgerState} {file final : List UInt8} {ledger : PersistentLedger}

theorem openInternal_eq_ok {checkpointStore} :
    openInternal anchor validationContext verifier mintPolicy initialState checkpointStore file =
        .ok ledger final <->
      validateDeployment anchor validationContext verifier mintPolicy initialState = .ok () /\
        ∃ scan, StateRecordLog.scanRecoverableTail file = .ok scan /\
        ∃ bySequence, loadCheckpoints checkpointStore = .ok bySequence /\
        ∃ recovery, scan.records.foldlM (replayRecord anchor validationContext verifier mintPolicy)
            ⟨genesisHistory anchor initialState, bySequence, none⟩ = .ok recovery /\
          truncateTail scan.incompleteTail file = .ok () final /\
          ledger = ⟨recovery.toLedgerHistory, anchor, validationContext, final,
            recovery.recoveredCheckpointSequence, true⟩ := by
  unfold openInternal
  simp only [bind_eq_ok, check_eq_ok, get_bind, Except.mapError_eq_ok]
  constructor
  · intro opened
    rcases opened with ⟨_, _, ⟨valid, rfl⟩, scan, _, ⟨scanned, rfl⟩, bySequence, _, ⟨loaded, rfl⟩,
      recovery, _, ⟨replayed, rfl⟩, _, _, truncated, returned⟩
    cases returned
    exact ⟨valid, scan, scanned, bySequence, loaded, recovery, replayed, truncated, rfl⟩
  · intro opened
    rcases opened with ⟨valid, scan, scanned, bySequence, loaded, recovery, replayed, truncated,
      rfl⟩
    exact ⟨(), file, ⟨valid, rfl⟩, scan, file, ⟨scanned, rfl⟩, bySequence, file, ⟨loaded, rfl⟩,
      recovery, file, ⟨replayed, rfl⟩, (), final, truncated, rfl⟩

/-- A replay succeeds with checkpoints exactly when it succeeds without, and both
end in the same history. -/
theorem replay_without_checkpoints (wellFormed : history.state.WellFormed)
    (bySequence others : Table UInt64 CheckpointReceipt)
    (replayed : records.foldlM (replayRecord anchor validationContext verifier mintPolicy)
      ⟨history, bySequence, none⟩ = .ok recovery) :
    ∃ other, records.foldlM (replayRecord anchor validationContext verifier mintPolicy)
        ⟨history, others, none⟩ = .ok other /\
      other.toLedgerHistory = recovery.toLedgerHistory := by
  have projected := @map_foldlM_replayRecord _ anchor validationContext verifier mintPolicy
    ⟨history, bySequence, none⟩ records wellFormed
  rw [replayed] at projected
  have again := @map_foldlM_replayRecord _ anchor validationContext verifier mintPolicy
    ⟨history, others, none⟩ records wellFormed
  rw [← projected] at again
  cases outcome : records.foldlM (replayRecord anchor validationContext verifier mintPolicy)
      ⟨history, others, none⟩ with
  | error fault =>
    rw [outcome] at again
    cases again
  | ok other =>
    rw [outcome] at again
    exact ⟨other, rfl, Except.ok.inj again⟩

/-- An open that succeeds also does so with every other directory that can be
loaded. -/
theorem openInternal_of_loadCheckpoints (wellFormed : initialState.WellFormed)
    {store other bySequence}
    (opened : openInternal anchor validationContext verifier mintPolicy initialState store file =
      .ok ledger final) (loaded : loadCheckpoints other = .ok bySequence) :
    ∃ result, openInternal anchor validationContext verifier mintPolicy initialState other file =
        .ok result final /\
      ledger = { result with recoveredCheckpointSequence := ledger.recoveredCheckpointSequence } := by
  rcases openInternal_eq_ok.mp opened with ⟨valid, scan, scanned, before, _, recovery, replayed,
    truncated, rfl⟩
  rcases replay_without_checkpoints wellFormed before bySequence replayed with
    ⟨again, isAgain, same⟩
  refine ⟨_, openInternal_eq_ok.mpr ⟨valid, scan, scanned, bySequence, loaded, again, isAgain,
    truncated, rfl⟩, ?_⟩
  rw [same]

end

theorem pairwise_agree {checkpoints : List Checkpoint} :
    checkpoints.Pairwise Agree <-> ¬∃ left, left ∈ checkpoints /\ ∃ right, right ∈ checkpoints /\
      left ≠ right /\ left.sequence = right.sequence := by
  have symmetric : Std.Symm Agree := ⟨fun _ _ => Agree.symm⟩
  constructor
  · intro agree found
    rcases found with ⟨left, isLeft, right, isRight, distinct, same⟩
    exact distinct (agree.forall_of_forall (fun _ _ _ => rfl) isLeft isRight same)
  · intro none
    apply List.pairwise_of_forall_mem_list
    intro left isLeft right isRight same
    by_contra distinct
    exact none ⟨left, isLeft, right, isRight, distinct, same⟩

end

section
open Fips180 Execution

/-- The snapshot of a ledger with one accepted transaction. -/
def testSnapshot : LedgerSnapshot := ⟨1, [testAsset], [], [], [], [.replicate 7]⟩

theorem canonical_testSnapshot : testSnapshot.Canonical := by
  have accepted : LedgerSnapshot.fromCanonicalParts testSnapshot.treeDepth testSnapshot.assets
      testSnapshot.commitments testSnapshot.spentNullifiers testSnapshot.issuedSupply
      testSnapshot.acceptedTransactions = .ok testSnapshot := by decide +kernel
  exact (LedgerSnapshot.fromCanonicalParts_eq_ok.mp accepted).2

theorem bounded_testSnapshot : Bounded testSnapshot := by
  constructor <;> decide

/-- A checkpoint of the first record that ends in a given hash. -/
theorem exists_checkpoint (terminalRecordHash : RecordHash) : ∃ checkpoint : Checkpoint,
    checkpoint.sequence = 1 /\ checkpoint.terminalRecordHash = terminalRecordHash /\
      Checkpoint.decode checkpoint.bytes = .ok checkpoint := by
  rcases fromSnapshot_of_canonical canonical_testSnapshot with ⟨state, restored, _⟩
  rcases exists_stateId_of_bounded bounded_testSnapshot restored testChainAnchor.genesisId with
    ⟨stateId, identified⟩
  refine ⟨⟨testChainAnchor.genesisId, testChainAnchor.validationContextId, 1, stateId,
    terminalRecordHash, testSnapshot, state, restored, identified⟩, rfl, rfl, ?_⟩
  have high : (1 : UInt64) ≠ 0 := by decide
  exact Checkpoint.decode_eq_ok.mpr ⟨bounded_testSnapshot, high, rfl, rfl⟩

theorem wellFormed_testLedger : testLedger.WellFormed := by
  have represented := represents_of_run new_testStart [.registerAsset testAsset]
  refine wellFormed_of_represents represented
    (soundAssets_of_run new_testStart [.registerAsset testAsset] ?_)
  intro asset listed
  cases List.mem_singleton.mp listed
  exact canonical_testSnapshot.assetsBuilt testAsset List.mem_cons_self

theorem validateDeployment_testLedger : validateDeployment testChainAnchor
    testExecutionContext.validationContext testVerifier testMintPolicy testLedger = .ok () := by
  have valid : (validateDeployment testChainAnchor testExecutionContext.validationContext
      testVerifier testMintPolicy testLedger).isOk = true := by decide +kernel
  rcases Except.ok_or_error (validateDeployment testChainAnchor
    testExecutionContext.validationContext testVerifier testMintPolicy testLedger) with
    ⟨done, isValid⟩ | ⟨fault, failed⟩
  · exact isValid
  · rw [failed] at valid
    cases valid

/-- The ledger of an empty log. -/
def testOpened : PersistentLedger :=
  ⟨genesisHistory testChainAnchor testLedger, testChainAnchor,
    testExecutionContext.validationContext, [], none, true⟩

theorem openLedger_nil : openLedger testChainAnchor testExecutionContext.validationContext
    testVerifier testMintPolicy testLedger [] = .ok testOpened [] := by
  have scanned : StateRecordLog.scanRecoverableTail [] = .ok ⟨[], none⟩ := rfl
  exact openInternal_eq_ok.mpr ⟨validateDeployment_testLedger, _, scanned, ∅, rfl, _, rfl, rfl, rfl⟩

def testFilename (digit : UInt8) : List UInt8 :=
  utf8 "checkpoint-00000000000000000001-" ++ List.replicate 64 digit ++ utf8 ".nxcp"

end

section
variable [Sha256]

/-- For every log and every directory, opening with checkpoints fails exactly when
opening without them fails, when more than 1,024 regular files with the name of a
checkpoint decode, or when two different checkpoints among these are of one record.
When it succeeds, ledger, record chain, terminal hash and log are those of opening
without checkpoints. -/
theorem checkpoints_are_invisible (anchor : ChainAnchor) (validationContext : ValidationContext)
    (verifier : ProofVerifier) (mintPolicy : MintPolicy) {initialState : LedgerState}
    (wellFormed : initialState.WellFormed) (file : List UInt8)
    (directory : Option (List DirectoryEntry)) :
    ((∃ fault final, openWithCheckpoints anchor validationContext verifier mintPolicy initialState
        directory file = .error fault final) <->
      (∃ fault final, openLedger anchor validationContext verifier mintPolicy initialState file =
          .error fault final) ∨
        maxDiscoveredCheckpoints < (checkpointsIn directory).length ∨
        ∃ left, left ∈ checkpointsIn directory /\ ∃ right, right ∈ checkpointsIn directory /\
          left ≠ right /\ left.sequence = right.sequence) /\
    forall ledger final, openWithCheckpoints anchor validationContext verifier mintPolicy
        initialState directory file = .ok ledger final ->
      ∃ plain, openLedger anchor validationContext verifier mintPolicy initialState file =
          .ok plain final /\
        ledger.state = plain.state /\ ledger.status.sequence = plain.status.sequence /\
        ledger.status.stateId = plain.status.stateId /\
        ledger.terminalRecordHash = plain.terminalRecordHash /\
        ledger = { plain with
          recoveredCheckpointSequence := ledger.recoveredCheckpointSequence } := by
  have plainly : forall {ledger final}, openWithCheckpoints anchor validationContext verifier
      mintPolicy initialState directory file = .ok ledger final ->
      ∃ plain, openLedger anchor validationContext verifier mintPolicy initialState file =
          .ok plain final /\
        ledger = { plain with
          recoveredCheckpointSequence := ledger.recoveredCheckpointSequence } :=
    fun opened => openInternal_of_loadCheckpoints wellFormed opened rfl
  constructor
  · have loads := @exists_loadCheckpoints _ directory
    rw [pairwise_agree, ← not_or] at loads
    constructor
    · intro failed
      rcases failed with ⟨fault, final, failed⟩
      cases plain : openLedger anchor validationContext verifier mintPolicy initialState file with
      | error reason left => exact Or.inl ⟨reason, left, rfl⟩
      | ok ledger left =>
        refine Or.inr ?_
        by_contra accepted
        rcases loads.mpr accepted with ⟨bySequence, loaded⟩
        rcases openInternal_of_loadCheckpoints wellFormed plain loaded with ⟨result, opened, _⟩
        rw [openWithCheckpoints, opened] at failed
        cases failed
    · intro refused
      cases checked : openWithCheckpoints anchor validationContext verifier mintPolicy initialState
          directory file with
      | error fault final => exact ⟨fault, final, rfl⟩
      | ok ledger final =>
        rcases refused with ⟨fault, left, failed⟩ | refused
        · rcases plainly checked with ⟨plain, isPlain, _⟩
          rw [isPlain] at failed
          cases failed
        · rcases openInternal_eq_ok.mp checked with ⟨_, _, _, bySequence, loaded, _⟩
          exact absurd refused (loads.mp ⟨bySequence, loaded⟩)
  · intro ledger final opened
    rcases plainly opened with ⟨plain, isPlain, same⟩
    refine ⟨plain, isPlain, ?_, ?_, ?_, ?_, same⟩ <;> rw [same] <;> rfl

end

section
open Fips180 Execution

/-- Two different checkpoints of one record lie in the directory under names that
are not those of checkpoints, and opening succeeds. -/
theorem misnamed_checkpoints_are_ignored : ∃ left right : Checkpoint, ∃ ledger final,
    Checkpoint.decode left.bytes = .ok left /\ Checkpoint.decode right.bytes = .ok right /\
      left ≠ right /\ left.sequence = right.sequence /\
      openWithCheckpoints testChainAnchor testExecutionContext.validationContext testVerifier
          testMintPolicy testLedger
          (some [⟨utf8 "first.nxcp", true, left.bytes⟩, ⟨utf8 "second.nxcp", true, right.bytes⟩])
          [] = .ok ledger final := by
  rcases exists_checkpoint ⟨.replicate 32 0⟩ with ⟨left, leftFirst, leftHash, isLeft⟩
  rcases exists_checkpoint ⟨.replicate 32 1⟩ with ⟨right, rightFirst, rightHash, isRight⟩
  have misnamed : isCandidateFilename (utf8 "first.nxcp") = false /\
      isCandidateFilename (utf8 "second.nxcp") = false := by decide +kernel
  have empty : checkpointsIn (some [⟨utf8 "first.nxcp", true, left.bytes⟩,
      ⟨utf8 "second.nxcp", true, right.bytes⟩]) = [] := by
    simp [checkpointsIn, checkpointOf, misnamed]
  have few : ¬maxDiscoveredCheckpoints < ([] : List Checkpoint).length := Nat.not_lt_zero _
  rw [← empty] at few
  rcases exists_loadCheckpoints.mpr ⟨few, empty ▸ List.Pairwise.nil⟩ with ⟨bySequence, loaded⟩
  rcases openInternal_of_loadCheckpoints wellFormed_testLedger openLedger_nil loaded with
    ⟨ledger, opened, _⟩
  refine ⟨left, right, ledger, [], isLeft, isRight, ?_, leftFirst.trans rightFirst.symm, opened⟩
  intro same
  rw [same, rightHash] at leftHash
  revert leftHash
  decide

/-- A checkpoint of a record that the log does not hold, and a file of garbage. -/
theorem testFilename_is_invisible : testLedger.WellFormed /\ ∃ checkpoint : Checkpoint,
    let directory := some [⟨testFilename 97, true, checkpoint.bytes⟩,
      ⟨testFilename 98, true, [1, 2, 3]⟩]
    checkpointsIn directory = [checkpoint] /\ ∃ ledger plain final,
      openWithCheckpoints testChainAnchor testExecutionContext.validationContext testVerifier
          testMintPolicy testLedger directory [] = .ok ledger final /\
        openLedger testChainAnchor testExecutionContext.validationContext testVerifier
          testMintPolicy testLedger [] = .ok plain final /\
        ledger.state = plain.state := by
  rcases exists_checkpoint ⟨.replicate 32 0⟩ with ⟨checkpoint, _, _, decoded⟩
  have named : isCandidateFilename (testFilename 97) = true /\
      isCandidateFilename (testFilename 98) = true := by decide +kernel
  have found : checkpointsIn (some [⟨testFilename 97, true, checkpoint.bytes⟩,
      ⟨testFilename 98, true, [1, 2, 3]⟩]) = [checkpoint] := by
    have real : checkpointOf ⟨testFilename 97, true, checkpoint.bytes⟩ = some checkpoint := by
      rw [checkpointOf, if_pos ⟨named.1, rfl⟩, decoded]
      rfl
    have garbage : checkpointOf ⟨testFilename 98, true, [1, 2, 3]⟩ = none := by
      rw [checkpointOf, if_pos ⟨named.2, rfl⟩]
      rfl
    rw [checkpointsIn, Option.getD_some, List.filterMap_cons_some real,
      List.filterMap_cons_none garbage, List.filterMap_nil]
  have invisible := checkpoints_are_invisible testChainAnchor
    testExecutionContext.validationContext testVerifier testMintPolicy wellFormed_testLedger []
    (some [⟨testFilename 97, true, checkpoint.bytes⟩, ⟨testFilename 98, true, [1, 2, 3]⟩])
  refine ⟨wellFormed_testLedger, checkpoint, found, ?_⟩
  cases opened : openWithCheckpoints testChainAnchor testExecutionContext.validationContext
      testVerifier testMintPolicy testLedger (some [⟨testFilename 97, true, checkpoint.bytes⟩,
        ⟨testFilename 98, true, [1, 2, 3]⟩]) [] with
  | ok ledger final =>
    rcases invisible.2 ledger final opened with ⟨plain, isPlain, same, _⟩
    exact ⟨ledger, plain, final, rfl, isPlain, same⟩
  | error fault final =>
    rcases invisible.1.mp ⟨fault, final, opened⟩ with ⟨_, _, failed⟩ | many | ambiguous
    · rw [openLedger_nil] at failed
      cases failed
    · rw [found] at many
      exact absurd (Nat.lt_of_succ_lt_succ many) (Nat.not_lt_zero _)
    · rw [found] at ambiguous
      rcases ambiguous with ⟨left, isLeft, right, isRight, distinct, _⟩
      rw [List.mem_singleton] at isLeft isRight
      exact absurd (isLeft.trans isRight.symm) distinct

end
end Noxis.LedgerLog
