import Noxis.Storage.Durability

namespace Noxis.Comet

open Foundation RecordChain Consensus Execution Storage

/-!
# The application behind a consensus engine

The core owns the durable execution of a node and answers the calls of the
engine.  Proposals are prepared and judged on discardable states.  A block is
finalized in memory, and a commit makes that one block durable.  Before the
first block the engine has to announce the network with an `InitChain` that
matches genesis.
-/

inductive HeightMappingError where
  | engineHeightBeforeGenesis (initial actual : Int)
  | heightOverflow
  | engine (source : EngineIdentityError)
deriving DecidableEq

inductive ServiceCryptoEligibilityError where
  | authorizationContextMismatch
deriving DecidableEq

/-- A lifecycle violation or a failed execution. -/
inductive CometAbciError where
  | cryptoEligibility (error : ServiceCryptoEligibilityError)
  | height (error : HeightMappingError)
  | engineIdentity (error : EngineIdentityError)
  | storage (error : PersistentExecutionError)
  | initChainMismatch
  | initChainAfterCommit
  | consensusBeforeInitChain
  | mempoolLimitExceeded
  | negativeMaximumTransactionBytes (value : Int)
  | unexpectedEngineHeight (expected actual : Int)
  | unexpectedNextValidatorsHash
  | finalizeConflict (engineHeight : Int)
  | missingFinalizedBlock

/-- Permission to run a settlement service in one validation context. -/
structure SettlementServiceAuthorization where
  validationContextId : ValidationContextId

inductive ProposalStatus where
  | accept
  | reject
deriving DecidableEq

structure CheckTxResult where
  accepted : Bool
  code : UInt32
deriving DecidableEq

/-- The outcome of one transaction of a finalized block. -/
structure TxResult where
  code : UInt32
  transactionIntentId : TransactionIntentId
  recordHash : RecordHash
  resultingStateId : StateId
deriving DecidableEq

def txResult (receipt : ExecutionReceipt) : TxResult where
  code := 0
  transactionIntentId := receipt.transactionIntentId
  recordHash := receipt.recordHash
  resultingStateId := receipt.resultingStateId

structure FinalizeBlockResult where
  appHash : AppHash
  transactionResults : List TxResult
deriving DecidableEq

structure AppInfo where
  lastBlockHeight : Int
  appHash : Option AppHash
deriving DecidableEq

inductive Lifecycle where
  | genesisUnverified
  | running
deriving DecidableEq

def maxPendingTransactions : Nat := 10000

def maxPendingTransactionBytes : Nat := 64 * 1024 * 1024

/-- Transactions admitted on top of a candidate, to reject conflicts. -/
structure MempoolOverlay where
  candidate : CandidateExecutionState
  transactions : List (List UInt8)
  totalBytes : Nat

def MempoolOverlay.new (candidate : CandidateExecutionState) : MempoolOverlay :=
  ⟨candidate, [], 0⟩

section
variable [Sha256]

/-- What the engine announces before the first block. -/
structure InitChainRequest where
  chainId : String
  initialHeight : Int
  parametersSha256 : Bytes 32
  validators : List CometBftValidator

/-- A finalized block that waits for its commit. -/
structure PendingFinalization where
  engineDecision : CometBftDecision
  transactions : List (List UInt8)
  executed : ExecutedBlock
  result : FinalizeBlockResult

/-- The lifecycle of an application.  Its identity is the genesis of the
engine in the execution context. -/
structure NoxisCometCore where
  execution : PersistentExecution
  mempool : MempoolOverlay
  pending : Option PendingFinalization
  lifecycle : Lifecycle

variable (context : ExecutionContext)

def simulateOn (transaction : List UInt8) (candidate : CandidateExecutionState) :
    Except (Fault CometAbciError) CandidateExecutionState :=
  match simulateTransaction context transaction candidate with
  | .ok _ next => .ok next
  | .error fault _ => .error (fault.map (fun source => .storage (.execution source)))

/-- Admit a transaction after all those admitted before. -/
def MempoolOverlay.admit (transaction : List UInt8) :
    EStateM (Fault CometAbciError) MempoolOverlay Unit := do
  let mempool ← get
  if mempool.transactions.length = maxPendingTransactions then
    throw (.error .mempoolLimitExceeded)
  else if 2 ^ 64 <= mempool.totalBytes + transaction.length ∨
      maxPendingTransactionBytes < mempool.totalBytes + transaction.length then
    throw (.error .mempoolLimitExceeded)
  else
    let next ← check (simulateOn context transaction mempool.candidate)
    set (⟨next, mempool.transactions ++ [transaction], mempool.totalBytes + transaction.length⟩ :
      MempoolOverlay)

namespace NoxisCometCore

/-! ## The core -/

/-- A core around a journal that was opened. -/
def tryNew (execution : PersistentExecution) (authorization : SettlementServiceAuthorization) :
    Except CometAbciError NoxisCometCore :=
  if authorization.validationContextId ≠ context.validationContext.id then
    .error (.cryptoEligibility .authorizationContextMismatch)
  else
    .ok {
      execution
      mempool := .new (.fromCommitted execution.committed)
      pending := none
      lifecycle := if execution.committed.height = 0 then .genesisUnverified else .running }

def engineHeight (noxisHeight : UInt64) : Except HeightMappingError Int :=
  (context.cometBftGenesis.identity.engineHeightFor noxisHeight).mapError .engine

/-- The height and the hash that are durable. -/
def info (core : NoxisCometCore) : Except CometAbciError AppInfo := do
  let durableHeight := core.execution.committed.height
  let lastBlockHeight ← if durableHeight = 0 then .ok 0
    else (engineHeight context durableHeight).mapError .height
  return ⟨lastBlockHeight, core.execution.appHash⟩

/-- Compare the announced network with genesis. -/
def initChain (request : InitChainRequest) : EStateM CometAbciError NoxisCometCore Unit := do
  let core ← get
  if core.execution.committed.height ≠ 0 then
    throw .initChainAfterCommit
  else if request.chainId ≠ context.cometBftGenesis.identity.chainId ∨
      request.initialHeight ≠ context.cometBftGenesis.identity.initialHeight ∨
      request.parametersSha256 ≠ context.cometBftGenesis.identity.parametersSha256 ∨
      request.validators ≠ context.cometBftGenesis.validators.validators then
    throw .initChainMismatch
  else
    set { core with lifecycle := .running }

/-- Admit a transaction to the local mempool.  A refusal has one code, whatever
its reason. -/
def checkTx (transaction : List UInt8) : EStateM Panic NoxisCometCore CheckTxResult := fun core =>
  if core.lifecycle ≠ .running then
    .ok ⟨false, 1⟩ core
  else
    match MempoolOverlay.admit context transaction core.mempool with
    | .ok _ mempool => .ok ⟨true, 0⟩ { core with mempool := mempool }
    | .error (.error _) mempool => .ok ⟨false, 1⟩ { core with mempool := mempool }
    | .error (.panic cause) mempool => .error cause { core with mempool := mempool }

def ensureInitialized (core : NoxisCometCore) : Except CometAbciError Unit :=
  if core.lifecycle = .running then .ok () else .error .consensusBeforeInitChain

def expectedNextNoxisHeight (core : NoxisCometCore) : Except CometAbciError UInt64 :=
  match checkedAdd core.execution.committed.height 1 with
  | some height => .ok height
  | none => .error (.height .heightOverflow)

def ensureNextEngineHeight (core : NoxisCometCore) (height : Int) :
    Except CometAbciError UInt64 := do
  let expectedNoxisHeight ← core.expectedNextNoxisHeight
  let expectedEngineHeight ← (engineHeight context expectedNoxisHeight).mapError .height
  if height ≠ expectedEngineHeight then
    .error (.unexpectedEngineHeight expectedEngineHeight height)
  else
    .ok expectedNoxisHeight

/-- Keep the transactions that can follow those selected so far. -/
def selectTransactions (byteLimit recordLimit : Nat) :
    List (List UInt8) -> CandidateExecutionState -> Nat -> List (List UInt8) ->
      Except (Fault CometAbciError) (List (List UInt8))
  | [], _, _, selected => .ok selected
  | transaction :: rest, candidate, totalBytes, selected =>
    if selected.length = recordLimit then
      .ok selected
    else if 2 ^ 64 <= totalBytes + transaction.length then
      selectTransactions byteLimit recordLimit rest candidate totalBytes selected
    else if byteLimit < totalBytes + transaction.length then
      selectTransactions byteLimit recordLimit rest candidate totalBytes selected
    else
      match simulateOn context transaction candidate with
      | .error (.panic cause) => .error (.panic cause)
      | .error (.error _) =>
        selectTransactions byteLimit recordLimit rest candidate totalBytes selected
      | .ok next =>
        selectTransactions byteLimit recordLimit rest next (totalBytes + transaction.length)
          (selected ++ [transaction])

/-- Select a proposal within the limits of the engine and of the network. -/
def prepareProposal (core : NoxisCometCore) (height engineMaximumTransactionBytes : Int)
    (nextValidatorsHash : Bytes 32) (transactions : List (List UInt8)) :
    Except (Fault CometAbciError) (List (List UInt8)) := do
  core.ensureInitialized.mapError .error
  let _ ← (core.ensureNextEngineHeight context height).mapError .error
  if nextValidatorsHash ≠ context.cometBftGenesis.validators.hash then
    .error (.error .unexpectedNextValidatorsHash)
  else if engineMaximumTransactionBytes < 0 then
    .error (.error (.negativeMaximumTransactionBytes engineMaximumTransactionBytes))
  else
    selectTransactions context
      (min engineMaximumTransactionBytes.toNat
        context.consensusConfig.maximumBlockTransactionBytes.toNat)
      context.consensusConfig.maximumBlockRecords.toNat transactions
      (.fromCommitted core.execution.committed) 0 []

def executeForEngineDecision (core : NoxisCometCore) (decision : CometBftDecision)
    (transactions : List (List UInt8)) : Except (Fault CometAbciError) ExecutedBlock := do
  let noxisHeight ← (core.ensureNextEngineHeight context decision.height).mapError .error
  (core.execution.execute context ⟨noxisHeight, decision, transactions⟩).mapError
    (Fault.map .storage)

/-- The decision belongs to the network and to the next height. -/
def validateDecision (core : NoxisCometCore) (decision : CometBftDecision) :
    Except CometAbciError Unit := do
  let noxisHeight ← core.expectedNextNoxisHeight
  (decision.validateFor context.cometBftGenesis noxisHeight).mapError .engineIdentity

/-- Execute a received proposal without keeping it. -/
def processProposal (core : NoxisCometCore) (decision : CometBftDecision)
    (transactions : List (List UInt8)) : Except (Fault CometAbciError) ProposalStatus := do
  core.ensureInitialized.mapError .error
  (core.validateDecision context decision).mapError .error
  match core.executeForEngineDecision context decision transactions with
  | .ok _ => .ok .accept
  | .error (.error (.storage (.execution _))) => .ok .reject
  | .error fault => .error fault

/-- Execute a decided proposal and keep it for the commit. -/
def finalizeBlock (decision : CometBftDecision) (transactions : List (List UInt8)) :
    EStateM (Fault CometAbciError) NoxisCometCore FinalizeBlockResult := do
  let core ← get
  check (core.ensureInitialized.mapError .error)
  match core.pending with
  | some pending =>
    if pending.engineDecision = decision /\ pending.transactions = transactions then
      return pending.result
    else
      throw (.error (.finalizeConflict decision.height))
  | none =>
    check ((core.validateDecision context decision).mapError .error)
    let executed ← check (core.executeForEngineDecision context decision transactions)
    let result : FinalizeBlockResult := ⟨executed.appHash, executed.receipts.map txResult⟩
    set { core with pending := some ⟨decision, transactions, executed, result⟩ }
    return result

/-- Make the finalized block durable and start over with an empty mempool. -/
def commit (outcome : WriteOutcome) :
    EStateM (Fault CometAbciError) NoxisCometCore DurableBlockReceipt := do
  let core ← get
  check (core.ensureInitialized.mapError .error)
  match core.pending with
  | none => throw (.error .missingFinalizedBlock)
  | some pending =>
    let receipt ← onPart NoxisCometCore.execution
      (fun core execution => { core with execution := execution })
      (mapFailure (Fault.map .storage)
        (PersistentExecution.commit context outcome pending.executed))
    modify (fun core => { core with
      pending := none
      mempool := .new (.fromCommitted core.execution.committed) })
    return receipt

end NoxisCometCore
end
end Noxis.Comet
