import Noxis.Execution.Context

namespace Noxis.Execution

open Foundation Codec Ledger RecordChain Consensus

/-!
# Execution of transactions and blocks

One function applies a transaction: it decodes the bytes, applies the
transaction to the ledger, makes a record of it and extends the record chain.
A block applies its transactions in order to a copy of the committed state and
seals the records in a header; a simulation applies one transaction to a
candidate.

Computing a state identifier may abort, so execution reports a `Fault`.
-/

/-- Per-transaction facts of an execution. -/
structure ExecutionReceipt where
  transactionIntentId : TransactionIntentId
  recordHash : RecordHash
  resultingStateId : StateId
deriving DecidableEq

def ExecutionReceipt.ofRecord (record : TransactionRecord) : ExecutionReceipt where
  transactionIntentId := record.transactionIntentId
  recordHash := record.recordHash
  resultingStateId := record.resultingStateId

/-- An ordered proposal of a consensus engine. -/
structure BlockProposal where
  height : UInt64
  cometDecision : CometBftDecision
  transactions : List (List UInt8)

/-- Add the length of a transaction in 64 bits. -/
def addLength (maximum : UInt32) (total : Nat) (bytes : List UInt8) :
    Except (Fault ExecutionError) Nat :=
  if 2 ^ 64 <= total + bytes.length then
    .error (.error (.proposalBytesExceeded (2 ^ 64 - 1) maximum))
  else
    .ok (total + bytes.length)

/-- The number of proposed bytes. -/
def proposalBytes (maximum : UInt32) (transactions : List (List UInt8)) :
    Except (Fault ExecutionError) Nat :=
  transactions.foldlM (addLength maximum) 0

def onLedger {ε α : Type} (method : EStateM ε LedgerState α) :
    EStateM ε CandidateExecutionState α :=
  onPart CandidateExecutionState.ledgerState
    (fun candidate ledgerState => { candidate with ledgerState := ledgerState }) method

def onRecordChain {ε α : Type} (method : EStateM ε Chain α) :
    EStateM ε CandidateExecutionState α :=
  onPart CandidateExecutionState.recordChain
    (fun candidate recordChain => { candidate with recordChain := recordChain }) method

section
variable [Sha256]

/-- The output of a block execution. -/
structure ExecutedBlock where
  header : BlockHeader
  cometDecision : CometBftDecision
  records : List TransactionRecord
  receipts : List ExecutionReceipt
  resultingState : LedgerState
  resultingRecordChain : Chain
  terminalRecordHash : Option RecordHash
  appHash : AppHash

def ExecutedBlock.intoCommittedState (block : ExecutedBlock) : CommittedExecutionState :=
  .fromExecutedParts block.resultingState block.resultingRecordChain block.header.input.height
    block.header.id block.terminalRecordHash

variable (context : ExecutionContext)

/-- Decode the bytes of a transaction, check that they are canonical and that
the transaction uses the network's suite, and compute its intent. -/
def admitTransaction (bytes : List UInt8) (index : Nat) :
    Except ExecutionError (Transaction × TransactionIntentId) :=
  if maxRecordTransactionBytes.toNat < bytes.length then
    .error (.transactionBytesExceeded index bytes.length maxRecordTransactionBytes)
  else do
    let transaction ← (decodeTransaction bytes).mapError (.transactionCodec index)
    let canonical ← (encodeTransaction transaction).mapError (.transactionCodec index)
    if canonical ≠ bytes then
      .error (.nonCanonicalTransaction index)
    else if transaction.suite ≠ context.validationContext.cryptoSuite then
      .error (.transactionCryptoSuiteMismatch index context.validationContext.cryptoSuite
        transaction.suite)
    else
      let intentId ← (transactionIntentId transaction).mapError (.transactionCodec index)
      return (transaction, intentId)

/-- Apply one canonical transaction.  The record holds the canonical bytes,
which the admission found equal to the given ones. -/
def applyTransaction (bytes : List UInt8) (index : Nat) :
    EStateM (Fault ExecutionError) CandidateExecutionState
      (TransactionRecord × ExecutionReceipt) := do
  let (transaction, intentId) ← check ((admitTransaction context bytes index).mapError .error)
  let recordChain := (← get).recordChain
  onLedger (mapFailure (Fault.map (.ledger index))
    (LedgerState.apply transaction context.verifier context.mintPolicy {
      genesisId := context.chainAnchor.genesisId
      validationContextId := context.chainAnchor.validationContextId
      transactionIntentId := intentId
      stateId := recordChain.currentStateId }))
  let stateId ← check (((← get).ledgerState.stateId context.chainAnchor.genesisId).mapError .panic)
  let record ← check ((TransactionRecord.new recordChain.nextSequence recordChain.currentStateId
    bytes stateId).mapError (fun source => .error (.record index source)))
  onRecordChain (mapFailure (fun source => .error (.recordChain index source)) (Chain.apply record))
  return (record, .ofRecord record)

/-- Apply transactions in order; the first one has the given index. -/
def applyTransactions : List (List UInt8) -> Nat ->
    EStateM (Fault ExecutionError) CandidateExecutionState
      (List (TransactionRecord × ExecutionReceipt))
  | [], _ => pure []
  | bytes :: rest, index => do
      let result ← applyTransaction context bytes index
      let results ← applyTransactions rest (index + 1)
      return result :: results

def simulateTransaction (bytes : List UInt8) :
    EStateM (Fault ExecutionError) CandidateExecutionState ExecutionReceipt := do
  let (_, receipt) ← applyTransaction context bytes 0
  return receipt

/-- The commitment to the application's position after a block. -/
def applicationHash (header : BlockHeader) (cometDecision : CometBftDecision)
    (recordSequence : UInt64) (terminalRecordHash : Option RecordHash) : AppHash :=
  ⟨Sha256.digest (utf8 "NOXIS/APP-HASH/V1\x00" ++
    (context.chainAnchor.genesisId.bytes.toList ++
      (context.chainAnchor.validationContextId.bytes.toList ++
        (context.consensusConfig.id.bytes.toList ++ (cometDecision.networkId.toList ++
          (bigEndian 8 cometDecision.height.toNat ++ (cometDecision.blockHash.toList ++
            (cometDecision.nextValidatorsHash.toList ++ (writeU64 header.input.height ++
              (header.id.bytes.toList ++ (writeU64 recordSequence ++
                ((match terminalRecordHash with
                  | some recordHash => 1 :: recordHash.bytes.toList
                  | none => [0]) ++
                  header.input.resultingStateId.bytes.toList))))))))))))⟩

/-- The checks a proposal has to pass before its transactions are read. -/
def admitProposal (committed : CommittedExecutionState) (proposal : BlockProposal) :
    Except (Fault ExecutionError) UInt32 :=
  match checkedAdd committed.height 1 with
  | none => .error (.error .heightOverflow)
  | some expectedHeight =>
    if proposal.height ≠ expectedHeight then
      .error (.error (.unexpectedHeight expectedHeight proposal.height))
    else do
      (proposal.cometDecision.validateFor context.cometBftGenesis proposal.height).mapError
        (fun error => .error (.engineIdentity error))
      let computedStateId ←
        (committed.ledgerState.stateId context.chainAnchor.genesisId).mapError .panic
      if computedStateId ≠ committed.recordChain.currentStateId then
        .error (.error (.committedStateIdMismatch computedStateId
          committed.recordChain.currentStateId))
      else if context.consensusConfig.maximumBlockRecords.toNat <
          proposal.transactions.length then
        .error (.error (.tooManyTransactions proposal.transactions.length
          context.consensusConfig.maximumBlockRecords))
      else
        let bytes ← proposalBytes context.consensusConfig.maximumBlockTransactionBytes
          proposal.transactions
        if context.consensusConfig.maximumBlockTransactionBytes.toNat < bytes then
          .error (.error (.proposalBytesExceeded bytes
            context.consensusConfig.maximumBlockTransactionBytes))
        else if 2 ^ 32 <= proposal.transactions.length then
          .error (.error .transactionCountOverflow)
        else
          .ok (UInt32.ofNat proposal.transactions.length)

/-- The fields of the header that seals the executed transactions. -/
def headerInput (committed : CommittedExecutionState) (proposal : BlockProposal)
    (recordCount : UInt32) (recordsCommitment : RecordCommitment)
    (candidate : CandidateExecutionState) : BlockHeaderInput where
  protocolVersion := context.consensusConfig.protocolVersion
  genesisId := context.chainAnchor.genesisId
  validationContextId := context.chainAnchor.validationContextId
  consensusConfigId := context.consensusConfig.id
  validatorSetId := context.consensusConfig.validatorSet.id
  height := proposal.height
  epoch := 0
  round := 0
  parentBlockId := committed.blockId
  previousStateId := committed.recordChain.currentStateId
  resultingStateId := candidate.recordChain.currentStateId
  firstRecordSequence := committed.recordChain.nextSequence
  recordCount := recordCount
  recordsCommitment := recordsCommitment

/-- Seal the executed transactions in a header and check the header. -/
def sealHeader (committed : CommittedExecutionState) (proposal : BlockProposal)
    (recordCount : UInt32) (records : List TransactionRecord)
    (candidate : CandidateExecutionState) : Except ConsensusError BlockHeader := do
  let recordHashes := records.map TransactionRecord.recordHash
  let recordsCommitment ← RecordCommitment.fromRecordHashes recordHashes
  let header ← BlockHeader.new
    (headerInput context committed proposal recordCount recordsCommitment candidate)
  context.consensusAnchor.validateHeader header context.consensusConfig
  header.validateRecordHashes recordHashes
  return header

/-- Execute every proposed transaction in its order. -/
def executeBlock (committed : CommittedExecutionState) (proposal : BlockProposal) :
    Except (Fault ExecutionError) ExecutedBlock := do
  let recordCount ← admitProposal context committed proposal
  match applyTransactions context proposal.transactions 0 (.fromCommitted committed) with
  | .error fault _ => .error fault
  | .ok results candidate =>
    let records := results.map Prod.fst
    let header ← (sealHeader context committed proposal recordCount records candidate).mapError
      (fun error => .error (.consensus error))
    let terminalRecordHash :=
      (records.getLast?.map TransactionRecord.recordHash).or committed.terminalRecordHash
    return {
      header
      cometDecision := proposal.cometDecision
      records
      receipts := results.map Prod.snd
      resultingState := candidate.ledgerState
      resultingRecordChain := candidate.recordChain
      terminalRecordHash
      appHash := applicationHash context header proposal.cometDecision
        candidate.recordChain.currentSequence terminalRecordHash }

end
end Noxis.Execution
