import Noxis.Comet.Lifecycle
import Noxis.Comet.Wire

namespace Noxis.Comet

open Foundation Consensus Execution Storage

/-!
# The server of the engine

One core serves every connection of the engine behind a lock.  A request is
answered by one method of the core.  The announcement of a network names its
validators by key and power; the server looks them up in genesis and hands
them to the core in the engine's order.
-/

/-- A validator as the engine announces it. -/
structure InitValidatorUpdate where
  publicKey : Bytes 32
  votingPower : Int64
deriving DecidableEq

inductive Request where
  | echo (message : String)
  | flush
  | info
  | initChain (chainId : String) (consensusParameters : List UInt8)
      (validators : List InitValidatorUpdate) (initialHeight : Int64)
  | query
  | checkTx (transaction : List UInt8)
  | commit
  | listSnapshots
  | offerSnapshot
  | loadSnapshotChunk
  | applySnapshotChunk
  | prepareProposal (maximumTransactionBytes : Int64) (transactions : List (List UInt8))
      (height : Int64) (nextValidatorsHash : Bytes 32)
  | processProposal (transactions : List (List UInt8)) (blockHash : Bytes 32) (height : Int64)
      (nextValidatorsHash : Bytes 32)
  | extendVote
  | verifyVoteExtension
  | finalizeBlock (transactions : List (List UInt8)) (blockHash : Bytes 32) (height : Int64)
      (nextValidatorsHash : Bytes 32)
deriving DecidableEq

inductive Response where
  | echo (message : String)
  | flush
  | info (info : AppInfo)
  | initChain
  | queryUnavailable
  | checkTx (result : CheckTxResult)
  | commit
  | listSnapshots
  | offerSnapshotAbort
  | loadSnapshotChunk
  | applySnapshotChunkAbort
  | prepareProposal (transactions : List (List UInt8))
  | processProposal (status : ProposalStatus)
  | extendVote
  | verifyVoteExtensionAccept
  | finalizeBlock (result : FinalizeBlockResult)
deriving DecidableEq

inductive CometAbciServerError where
  | wire (error : WireError)
  | core (error : CometAbciError)
  | corePoisoned
  | unknownInitValidator
  | initValidatorPowerMismatch

section
variable [Sha256] (context : ExecutionContext)

/-- The validator of genesis with the announced key, made again. -/
def mapInitValidator (expected : List CometBftValidator) (update : InitValidatorUpdate) :
    Except CometAbciServerError CometBftValidator :=
  match expected.find? (fun validator => validator.publicKey = update.publicKey) with
  | none => .error .unknownInitValidator
  | some validator =>
    if validator.votingPower ≠ update.votingPower.toInt then
      .error .initValidatorPowerMismatch
    else
      (CometBftValidator.fromCometEd25519 validator.noxisValidatorId update.publicKey
        update.votingPower.toInt).mapError (fun error => .core (.engineIdentity error))

def mapInitValidators (updates : List InitValidatorUpdate) :
    Except CometAbciServerError (List CometBftValidator) := do
  let mapped ← updates.mapM (mapInitValidator context.cometBftGenesis.validators.validators)
  return sortByKey CometBftValidator.order mapped

def decisionFor (height : Int64) (blockHash nextValidatorsHash : Bytes 32) :
    Except CometAbciError CometBftDecision :=
  (CometBftDecision.new context.cometBftGenesis height.toInt height.toInt_lt blockHash
    nextValidatorsHash).mapError .engineIdentity

/-- Announce the network to the core. -/
def dispatchInitChain (chainId : String) (consensusParameters : List UInt8)
    (updates : List InitValidatorUpdate) (initialHeight : Int64) :
    EStateM CometAbciServerError NoxisCometCore Response := do
  let _ ← check ((decodeConsensusParameters consensusParameters).mapError .wire)
  let validators ← check (mapInitValidators context updates)
  mapFailure .core (NoxisCometCore.initChain context
    ⟨chainId, initialHeight.toInt, Sha256.digest consensusParameters, validators⟩)
  return .initChain

/-- Judge a proposal.  Whatever fails is a rejection. -/
def dispatchProcessProposal (core : NoxisCometCore) (transactions : List (List UInt8))
    (blockHash : Bytes 32) (height : Int64) (nextValidatorsHash : Bytes 32) :
    Except Panic ProposalStatus :=
  match decisionFor context height blockHash nextValidatorsHash with
  | .error _ => .ok .reject
  | .ok decision =>
    match core.processProposal context decision transactions with
    | .ok status => .ok status
    | .error (.error _) => .ok .reject
    | .error (.panic cause) => .error cause

/-- Answer a request on the locked core.  The outcome is that of the write a
commit may make. -/
def answer (outcome : WriteOutcome) :
    Request -> EStateM (Fault CometAbciServerError) NoxisCometCore Response
  | .echo message => return .echo message
  | .flush => return .flush
  | .info => do
      let core ← get
      let info ← check ((core.info context).mapError (fun error => .error (.core error)))
      return .info info
  | .initChain chainId consensusParameters validators initialHeight =>
    mapFailure .error
      (dispatchInitChain context chainId consensusParameters validators initialHeight)
  | .query => return .queryUnavailable
  | .checkTx transaction => do
      let result ← mapFailure .panic (NoxisCometCore.checkTx context transaction)
      return .checkTx result
  | .commit => do
      let _ ← mapFailure (Fault.map .core) (NoxisCometCore.commit context outcome)
      return .commit
  | .listSnapshots => return .listSnapshots
  | .offerSnapshot => return .offerSnapshotAbort
  | .loadSnapshotChunk => return .loadSnapshotChunk
  | .applySnapshotChunk => return .applySnapshotChunkAbort
  | .prepareProposal maximumTransactionBytes transactions height nextValidatorsHash => do
      let core ← get
      let selected ← check ((core.prepareProposal context height.toInt
        maximumTransactionBytes.toInt nextValidatorsHash transactions).mapError (Fault.map .core))
      return .prepareProposal selected
  | .processProposal transactions blockHash height nextValidatorsHash => do
      let core ← get
      let status ← check ((dispatchProcessProposal context core transactions blockHash height
        nextValidatorsHash).mapError .panic)
      return .processProposal status
  | .extendVote => return .extendVote
  | .verifyVoteExtension => return .verifyVoteExtensionAccept
  | .finalizeBlock transactions blockHash height nextValidatorsHash => do
      let decision ← check ((decisionFor context height blockHash nextValidatorsHash).mapError
        (fun error => .error (.core error)))
      let result ← mapFailure (Fault.map .core)
        (NoxisCometCore.finalizeBlock context decision transactions)
      return .finalizeBlock result

/-- A core behind its lock.  The lock is poisoned once a holder aborted. -/
structure SharedCore where
  core : NoxisCometCore
  poisoned : Bool

/-- A core that nobody aborted on. -/
def SharedCore.new (core : NoxisCometCore) : SharedCore := ⟨core, false⟩

def dispatch (outcome : WriteOutcome) (request : Request) :
    EStateM (Fault CometAbciServerError) SharedCore Response := fun shared =>
  if shared.poisoned then
    .error (.error .corePoisoned) shared
  else
    match answer context outcome request shared.core with
    | .ok response core => .ok response ⟨core, false⟩
    | .error (.error reason) core => .error (.error reason) ⟨core, false⟩
    | .error (.panic cause) core => .error (.panic cause) ⟨core, true⟩

end
end Noxis.Comet
