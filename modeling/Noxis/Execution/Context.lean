import Noxis.Consensus.Engine
import Noxis.Ledger.Mutation

namespace Noxis.Execution

open Foundation Codec Crypto Ledger RecordChain Consensus

/-!
# What a block is executed in

An execution context holds the immutable dependencies of execution and the
facts that they belong to one genesis.  A committed state is a ledger, its
record chain and the block they end at.  A candidate is a discardable overlay
of a committed state, used to try transactions out.
-/

inductive ExecutionError where
  | invalidValidationContext (error : ValidationContextError)
  | validationContextAnchorMismatch
  | consensusAnchorMismatch
  | proofVerifierMismatch (expected actual : ProofVerifierId)
  | mintPolicyMismatch (expected actual : MintPolicyId)
  | committedStateIdMismatch (expected actual : StateId)
  | invalidGenesisExecutionState
  | missingCommittedBlockId
  | heightOverflow
  | unexpectedHeight (expected actual : UInt64)
  | tooManyTransactions (actual : Nat) (maximum : UInt32)
  | proposalBytesExceeded (actual : Nat) (maximum : UInt32)
  | transactionBytesExceeded (index actual : Nat) (maximum : UInt32)
  | transactionCountOverflow
  | transactionCodec (index : Nat) (source : CodecError)
  | nonCanonicalTransaction (index : Nat)
  | transactionCryptoSuiteMismatch (index : Nat) (expected actual : CryptoSuite)
  | ledger (index : Nat) (source : LedgerError)
  | record (index : Nat) (source : RecordError)
  | recordChain (index : Nat) (source : RecordError)
  | consensus (error : ConsensusError)
  | engineIdentity (error : EngineIdentityError)
deriving DecidableEq

/-- State known to be committed before the next block is executed. -/
structure CommittedExecutionState where
  ledgerState : LedgerState
  recordChain : Chain
  height : UInt64
  blockId : Option BlockId
  terminalRecordHash : Option RecordHash

def CommittedExecutionState.fromExecutedParts (ledgerState : LedgerState) (recordChain : Chain)
    (height : UInt64) (blockId : BlockId) (terminalRecordHash : Option RecordHash) :
    CommittedExecutionState :=
  ⟨ledgerState, recordChain, height, some blockId, terminalRecordHash⟩

/-- A discardable overlay of a committed state. -/
structure CandidateExecutionState where
  ledgerState : LedgerState
  recordChain : Chain

def CandidateExecutionState.fromCommitted (committed : CommittedExecutionState) :
    CandidateExecutionState :=
  ⟨committed.ledgerState, committed.recordChain⟩

section
variable [Sha256]

/-- Immutable dependencies required to execute one block. -/
structure ExecutionContext where
  chainAnchor : ChainAnchor
  validationContext : ValidationContext
  consensusAnchor : ConsensusAnchor
  consensusConfig : ConsensusConfig
  cometBftGenesis : CometBftGenesis
  verifier : ProofVerifier
  mintPolicy : MintPolicy
  validated : validationContext.validate = .ok ()
  sameContext : validationContext.id = chainAnchor.validationContextId /\
    validationContext.proofVerifierId = chainAnchor.proofVerifierId /\
    validationContext.mintPolicyId = chainAnchor.mintPolicyId
  sameNetwork : consensusAnchor.genesisId = chainAnchor.genesisId /\
    consensusAnchor.validationContextId = chainAnchor.validationContextId /\
    consensusAnchor.genesisStateId = chainAnchor.genesisStateId /\
    consensusAnchor.consensusConfigId = consensusConfig.id /\
    consensusAnchor.engineNetworkId = cometBftGenesis.id
  sameVerifier : verifier.proofVerifierId = chainAnchor.proofVerifierId
  samePolicy : mintPolicy.mintPolicyId = chainAnchor.mintPolicyId

def ExecutionContext.new (chainAnchor : ChainAnchor) (validationContext : ValidationContext)
    (consensusAnchor : ConsensusAnchor) (consensusConfig : ConsensusConfig)
    (cometBftGenesis : CometBftGenesis) (verifier : ProofVerifier) (mintPolicy : MintPolicy) :
    Except ExecutionError ExecutionContext :=
  match validated : validationContext.validate with
  | .error reason => .error (.invalidValidationContext reason)
  | .ok () =>
    if sameContext : validationContext.id = chainAnchor.validationContextId /\
        validationContext.proofVerifierId = chainAnchor.proofVerifierId /\
        validationContext.mintPolicyId = chainAnchor.mintPolicyId then
      if sameNetwork : consensusAnchor.genesisId = chainAnchor.genesisId /\
          consensusAnchor.validationContextId = chainAnchor.validationContextId /\
          consensusAnchor.genesisStateId = chainAnchor.genesisStateId /\
          consensusAnchor.consensusConfigId = consensusConfig.id /\
          consensusAnchor.engineNetworkId = cometBftGenesis.id then
        if sameVerifier : verifier.proofVerifierId = chainAnchor.proofVerifierId then
          if samePolicy : mintPolicy.mintPolicyId = chainAnchor.mintPolicyId then
            .ok {
              chainAnchor
              validationContext
              consensusAnchor
              consensusConfig
              cometBftGenesis
              verifier
              mintPolicy
              validated
              sameContext
              sameNetwork
              sameVerifier
              samePolicy }
          else
            .error (.mintPolicyMismatch chainAnchor.mintPolicyId mintPolicy.mintPolicyId)
        else
          .error (.proofVerifierMismatch chainAnchor.proofVerifierId verifier.proofVerifierId)
      else
        .error .consensusAnchorMismatch
    else
      .error .validationContextAnchorMismatch

namespace CommittedExecutionState

def fromParts (ledgerState : LedgerState) (recordChain : Chain) (height : UInt64)
    (blockId : Option BlockId) (terminalRecordHash : Option RecordHash) (anchor : ChainAnchor) :
    Except (Fault ExecutionError) CommittedExecutionState := do
  let computedStateId ← (ledgerState.stateId anchor.genesisId).mapError .panic
  if computedStateId ≠ recordChain.currentStateId then
    .error (.error (.committedStateIdMismatch computedStateId recordChain.currentStateId))
  else if height = 0 /\ (blockId.isSome ∨ terminalRecordHash.isSome) then
    .error (.error .invalidGenesisExecutionState)
  else if 0 < height /\ blockId.isNone then
    .error (.error .missingCommittedBlockId)
  else
    .ok ⟨ledgerState, recordChain, height, blockId, terminalRecordHash⟩

/-- The state before the first block. -/
def genesis (ledgerState : LedgerState) (anchor : ChainAnchor) :
    Except (Fault ExecutionError) CommittedExecutionState :=
  fromParts ledgerState (Chain.new anchor.genesisStateId) 0 none none anchor

theorem genesis_eq_ok {ledgerState : LedgerState} {anchor : ChainAnchor}
    {committed : CommittedExecutionState} :
    genesis ledgerState anchor = .ok committed <->
      ledgerState.stateId anchor.genesisId = .ok anchor.genesisStateId /\
        committed = ⟨ledgerState, Chain.new anchor.genesisStateId, 0, none, none⟩ := by
  unfold genesis fromParts
  rw [Except.bind_eq_ok]
  constructor
  · rintro ⟨computed, identified, rest⟩
    rw [Except.refuse_eq_ok, not_not] at rest
    rcases rest with ⟨rfl, rest⟩
    refine ⟨Except.mapError_eq_ok.mp identified, ?_⟩
    simp only [Except.refuse_eq_ok] at rest
    exact (Except.ok.inj rest.2.2).symm
  · rintro ⟨identified, rfl⟩
    refine ⟨_, Except.mapError_eq_ok.mpr identified, ?_⟩
    simp [Chain.new]

end CommittedExecutionState
end
end Noxis.Execution
