import Noxis.Storage.CheckpointStore
import Noxis.Storage.RecordLog

namespace Noxis.LedgerLog

open Foundation Codec Crypto Ledger RecordChain Checkpoints
open Storage (WriteOutcome)

/-!
# The persistent ledger

A transaction is applied to a copy of the ledger, its record is appended to the
log, and only then is the copy published.  Opening a log validates and applies
every record again, from genesis on.  A checkpoint can take the place of the
ledger that was reached at its record, but only one that agrees with the record
and holds the same snapshot; no record is skipped on its account.
-/

inductive PersistentLedgerError where
  | recordLog (source : RecordLogError)
  | recordChain (source : RecordError)
  | codec (source : CodecError)
  | ledger (source : LedgerError)
  | checkpointStore (source : CheckpointStoreError)
  | invalidValidationContext (source : ValidationContextError)
  | ambiguousCheckpoints (sequence : UInt64) (first second : List UInt8)
  | invalidChainAnchor (configured computed : StateId)
  | invalidChainAnchorContext (anchor supplied : ValidationContextId)
  | validationContextMismatch (expected : ValidationContextId)
      (expectedProofVerifier actualProofVerifier : ProofVerifierId)
      (expectedMintPolicy actualMintPolicy : MintPolicyId)
  | transactionCryptoSuiteMismatch (expected actual : CryptoSuite)
  | resultingStateIdMismatch (record computed : StateId)
  | writeUnavailable

/-- The ledger after the records of a log. -/
structure LedgerHistory where
  state : LedgerState
  chain : Chain
  terminalRecordHash : Option RecordHash

structure PersistentLedger extends LedgerHistory where
  anchor : ChainAnchor
  validationContext : ValidationContext
  recordLog : List UInt8
  recoveredCheckpointSequence : Option UInt64
  writesAvailable : Bool

/-- What a ledger reports about itself. -/
structure PersistentLedgerStatus where
  genesisId : GenesisId
  validationContextId : ValidationContextId
  sequence : UInt64
  recoveredCheckpointSequence : Option UInt64
  stateId : StateId
deriving DecidableEq

def PersistentLedger.status (ledger : PersistentLedger) : PersistentLedgerStatus where
  genesisId := ledger.anchor.genesisId
  validationContextId := ledger.anchor.validationContextId
  sequence := ledger.chain.currentSequence
  recoveredCheckpointSequence := ledger.recoveredCheckpointSequence
  stateId := ledger.chain.currentStateId

/-- A durable fact established by one append. -/
structure PersistentCommitReceipt where
  sequence : UInt64
  transactionIntentId : TransactionIntentId
  recordHash : RecordHash
  stateId : StateId
  logOffset : Nat

def ensureValidationComponents (anchor : ChainAnchor) (verifier : ProofVerifier)
    (mintPolicy : MintPolicy) : Except PersistentLedgerError Unit :=
  if verifier.proofVerifierId ≠ anchor.proofVerifierId ∨
      mintPolicy.mintPolicyId ≠ anchor.mintPolicyId then
    .error (.validationContextMismatch anchor.validationContextId anchor.proofVerifierId
      verifier.proofVerifierId anchor.mintPolicyId mintPolicy.mintPolicyId)
  else
    .ok ()

def ensureTransactionSuite (validationContext : ValidationContext) (suite : CryptoSuite) :
    Except PersistentLedgerError Unit :=
  if suite = validationContext.cryptoSuite then .ok ()
  else .error (.transactionCryptoSuiteMismatch validationContext.cryptoSuite suite)

section
variable [Sha256]

/-- Enter a checkpoint under its record; a different one there is refused. -/
def enterCandidate (bySequence : Table UInt64 CheckpointReceipt) (candidate : CheckpointReceipt) :
    Except PersistentLedgerError (Table UInt64 CheckpointReceipt) :=
  match bySequence.lookup candidate.checkpoint.sequence with
  | none => .ok (bySequence.insert candidate.checkpoint.sequence candidate)
  | some entered =>
    if entered.checkpoint = candidate.checkpoint then
      .ok bySequence
    else
      .error (.ambiguousCheckpoints candidate.checkpoint.sequence entered.name candidate.name)

def checkpointCandidatesBySequence (candidates : List CheckpointReceipt) :
    Except PersistentLedgerError (Table UInt64 CheckpointReceipt) :=
  candidates.foldlM enterCandidate ∅

/-- The checkpoints of a directory by record; without a directory there are none. -/
def loadCheckpoints : Option (Option (List DirectoryEntry)) ->
    Except (Fault PersistentLedgerError) (Table UInt64 CheckpointReceipt)
  | none => (checkpointCandidatesBySequence []).mapError .error
  | some directory => do
      let candidates ← (loadCandidates directory).mapError (Fault.map .checkpointStore)
      (checkpointCandidatesBySequence candidates).mapError .error

/-- The ledger of a checkpoint that agrees with a record and with the ledger that
was reached there. -/
def restoreVerifiedCheckpointAtRecord (checkpoint : Checkpoint) (record : TransactionRecord)
    (replayedState : LedgerState) (anchor : ChainAnchor) : Except Panic (Option LedgerState) :=
  if checkpoint.sequence ≠ record.sequence ∨ checkpoint.terminalRecordHash ≠ record.recordHash ∨
      checkpoint.stateId ≠ record.resultingStateId then
    .ok none
  else
    match checkpoint.restoreState anchor with
    | .error (.panic cause) => .error cause
    | .error (.error _) => .ok none
    | .ok restoredState => do
        let restored ← restoredState.snapshot
        let replayed ← replayedState.snapshot
        return if restored = replayed then some restoredState else none

variable (anchor : ChainAnchor) (validationContext : ValidationContext)
  (verifier : ProofVerifier) (mintPolicy : MintPolicy)

/-- Validate a record and apply its transaction to a copy of the ledger. -/
def validateRecord (history : LedgerHistory) (record : TransactionRecord) :
    Except (Fault PersistentLedgerError) LedgerHistory := do
  let chain ← (onCopy (Chain.apply record) history.chain).mapError
    (fun source => .error (.recordChain source))
  let transaction ← (decodeTransaction record.transactionBytes).mapError
    (fun source => .error (.codec source))
  (ensureTransactionSuite validationContext transaction.suite).mapError .error
  let nextState ← (onCopy (LedgerState.apply transaction verifier mintPolicy {
    genesisId := anchor.genesisId
    validationContextId := anchor.validationContextId
    transactionIntentId := record.transactionIntentId
    stateId := record.previousStateId }) history.state).mapError (Fault.map .ledger)
  let computedStateId ← (nextState.stateId anchor.genesisId).mapError .panic
  if record.resultingStateId ≠ computedStateId then
    .error (.error (.resultingStateIdMismatch record.resultingStateId computedStateId))
  else
    .ok ⟨nextState, chain, some record.recordHash⟩

/-- A replay between two records. -/
structure Recovery extends LedgerHistory where
  checkpointCandidates : Table UInt64 CheckpointReceipt
  recoveredCheckpointSequence : Option UInt64

/-- Validate a record and look for a checkpoint of it. -/
def replayRecord (recovery : Recovery) (stored : StoredRecord) :
    Except (Fault PersistentLedgerError) Recovery := do
  let history ← validateRecord anchor validationContext verifier mintPolicy
    recovery.toLedgerHistory stored.record
  match recovery.checkpointCandidates.lookup stored.record.sequence with
  | none => .ok { recovery with toLedgerHistory := history }
  | some receipt => do
      let checkpointCandidates := recovery.checkpointCandidates.erase stored.record.sequence
      match ← (restoreVerifiedCheckpointAtRecord receipt.checkpoint stored.record history.state
        anchor).mapError .panic with
      | some restored =>
        .ok ⟨{ history with state := restored }, checkpointCandidates,
          some stored.record.sequence⟩
      | none => .ok ⟨history, checkpointCandidates, recovery.recoveredCheckpointSequence⟩

/-- The checks of the deployment in front of a replay. -/
def validateDeployment (initialState : LedgerState) : Except (Fault PersistentLedgerError) Unit := do
  validationContext.validate.mapError (fun source => .error (.invalidValidationContext source))
  if validationContext.id ≠ anchor.validationContextId ∨
      validationContext.proofVerifierId ≠ anchor.proofVerifierId ∨
      validationContext.mintPolicyId ≠ anchor.mintPolicyId then
    .error (.error (.invalidChainAnchorContext anchor.validationContextId validationContext.id))
  else
    (ensureValidationComponents anchor verifier mintPolicy).mapError .error
    let computedGenesisStateId ← (initialState.stateId anchor.genesisId).mapError .panic
    if computedGenesisStateId ≠ anchor.genesisStateId then
      .error (.error (.invalidChainAnchor anchor.genesisStateId computedGenesisStateId))
    else
      .ok ()

/-- Remove the incomplete tail a scan reported, if it reported one. -/
def truncateTail : Option IncompleteTail ->
    EStateM (Fault PersistentLedgerError) (List UInt8) Unit
  | none => pure ()
  | some tail => mapFailure (Fault.map .recordLog)
      (StateRecordLog.truncateVerifiedIncompleteTail tail)

def genesisHistory (initialState : LedgerState) : LedgerHistory :=
  ⟨initialState, Chain.new anchor.genesisStateId, none⟩

/-- Open a log and replay it, with the checkpoints of a directory if one is given. -/
def openInternal (initialState : LedgerState)
    (checkpointStore : Option (Option (List DirectoryEntry))) :
    EStateM (Fault PersistentLedgerError) (List UInt8) PersistentLedger := do
  check (validateDeployment anchor validationContext verifier mintPolicy initialState)
  let scan ← check ((StateRecordLog.scanRecoverableTail (← get)).mapError (Fault.map .recordLog))
  let checkpointCandidates ← check (loadCheckpoints checkpointStore)
  let recovery ← check (scan.records.foldlM
    (replayRecord anchor validationContext verifier mintPolicy)
    ⟨genesisHistory anchor initialState, checkpointCandidates, none⟩)
  truncateTail scan.incompleteTail
  return {
    toLedgerHistory := recovery.toLedgerHistory
    anchor
    validationContext
    recordLog := ← get
    recoveredCheckpointSequence := recovery.recoveredCheckpointSequence
    writesAvailable := true }

def openLedger (initialState : LedgerState) :
    EStateM (Fault PersistentLedgerError) (List UInt8) PersistentLedger :=
  openInternal anchor validationContext verifier mintPolicy initialState none

def openWithCheckpoints (initialState : LedgerState) (directory : Option (List DirectoryEntry)) :
    EStateM (Fault PersistentLedgerError) (List UInt8) PersistentLedger :=
  openInternal anchor validationContext verifier mintPolicy initialState (some directory)

/-- Apply a transaction to copies of ledger and record chain, and make its record. -/
def extend (history : LedgerHistory) (transaction : Transaction) :
    Except (Fault PersistentLedgerError) (TransactionRecord × LedgerHistory) := do
  let transactionBytes ← (encodeTransaction transaction).mapError
    (fun source => .error (.codec source))
  let intentId ← (transactionIntentId transaction).mapError (fun source => .error (.codec source))
  let candidate ← (onCopy (LedgerState.apply transaction verifier mintPolicy {
    genesisId := anchor.genesisId
    validationContextId := anchor.validationContextId
    transactionIntentId := intentId
    stateId := history.chain.currentStateId }) history.state).mapError (Fault.map .ledger)
  let stateId ← (candidate.stateId anchor.genesisId).mapError .panic
  let record ← (TransactionRecord.new history.chain.nextSequence history.chain.currentStateId
    transactionBytes stateId).mapError (fun source => .error (.recordChain source))
  let candidateChain ← (onCopy (Chain.apply record) history.chain).mapError
    (fun source => .error (.recordChain source))
  return (record, ⟨candidate, candidateChain, some record.recordHash⟩)

namespace PersistentLedger

/-- Append a record; a failure makes further writes unavailable. -/
def appendDurably (outcome : WriteOutcome) (record : TransactionRecord) :
    EStateM (Fault PersistentLedgerError) PersistentLedger Nat := fun ledger =>
  match StateRecordLog.appendRecord outcome record ledger.recordLog with
  | .ok offset recordLog => .ok offset { ledger with recordLog := recordLog }
  | .error source recordLog =>
    .error (.error (.recordLog source))
      { ledger with recordLog := recordLog, writesAvailable := false }

/-- Validate, record and publish exactly one transition. -/
def apply (outcome : WriteOutcome) (transaction : Transaction) :
    EStateM (Fault PersistentLedgerError) PersistentLedger PersistentCommitReceipt := do
  let ledger ← get
  if ledger.writesAvailable = false then
    throw (.error .writeUnavailable)
  else
    check ((ensureValidationComponents ledger.anchor verifier mintPolicy).mapError .error)
    check ((ensureTransactionSuite ledger.validationContext transaction.suite).mapError .error)
    let (record, next) ← check (extend ledger.anchor verifier mintPolicy ledger.toLedgerHistory
      transaction)
    let offset ← appendDurably outcome record
    modify (fun ledger => { ledger with toLedgerHistory := next })
    return ⟨record.sequence, record.transactionIntentId, record.recordHash,
      record.resultingStateId, offset⟩

end PersistentLedger
end
end Noxis.LedgerLog
