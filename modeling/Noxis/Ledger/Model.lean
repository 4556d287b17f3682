import Noxis.Crypto
import Noxis.Merkle.Tree

namespace Noxis.Ledger

open Foundation Crypto Merkle

/-!
# Transactions and the policy boundary

A transaction describes a requested transition and changes nothing by itself.
Transfers consume nullifiers and create commitments under a proof; mints
create commitments and issue supply under an authorization that the ledger
passes on without reading it.
-/

structure Transfer where
  assetId : AssetId
  inputNullifiers : List Nullifier
  outputCommitments : List Commitment
  proof : Proof
deriving DecidableEq

structure Mint where
  assetId : AssetId
  amount : Amount
  outputCommitments : List Commitment
  authorization : List UInt8
deriving DecidableEq

inductive Operation where
  | transfer (transfer : Transfer)
  | mint (mint : Mint)
deriving DecidableEq

structure Transaction where
  id : TransactionId
  suite : CryptoSuite
  operation : Operation
deriving DecidableEq

/-- Bindings supplied by the caller when a transition is evaluated. -/
structure TransactionValidationContext where
  genesisId : GenesisId
  validationContextId : ValidationContextId
  transactionIntentId : TransactionIntentId
  stateId : StateId
deriving DecidableEq

/-- The complete public issuance request a mint policy must authorize. -/
structure MintStatement where
  genesisId : GenesisId
  validationContextId : ValidationContextId
  transactionIntentId : TransactionIntentId
  stateId : StateId
  assetId : AssetId
  amount : Amount
  outputCommitments : List Commitment
  stateAnchor : StateAnchor
  issuedSupplyBefore : Option Amount
deriving DecidableEq

inductive MintAuthorizationError where
  | denied
deriving DecidableEq

/-- A pluggable issuance policy. -/
structure MintPolicy where
  mintPolicyId : MintPolicyId
  authorize : MintStatement -> List UInt8 -> Except MintAuthorizationError Unit

/-- The policy that authorizes nothing. -/
def denyAllMints : MintPolicy where
  mintPolicyId := Identifier.replicate 0
  authorize := fun _ _ => .error .denied

inductive LedgerError where
  | assetAlreadyRegistered (assetId : AssetId)
  | unknownAsset (assetId : AssetId)
  | duplicateTransaction (id : TransactionId)
  | nullifierAlreadySpent (nullifier : Nullifier)
  | commitmentAlreadyExists (commitment : Commitment)
  | emptyField (label : String)
  | supplyOverflow (assetId : AssetId)
  | validationStateIdMismatch (expected supplied : StateId)
  | merkle (error : MerkleError)
  | mintAuthorization (error : MintAuthorizationError)
  | proof (error : VerificationError)
deriving DecidableEq

/-- Reasons a purported snapshot is not canonical. -/
inductive LedgerSnapshotError where
  | merkle (error : MerkleError)
  | ledger (error : LedgerError)
  | assetsNotStrictlySorted (index : Nat)
  | invalidAsset (index : Nat) (source : AssetError)
  | duplicateCommitment (commitment : Commitment)
  | nullifiersNotStrictlySorted
  | supplyNotStrictlySorted (index : Nat)
  | supplyForUnknownAsset (assetId : AssetId)
  | transactionsNotStrictlySorted
deriving DecidableEq

namespace Transaction

/-- The nullifiers a transaction consumes; a mint consumes none. -/
def inputs (transaction : Transaction) : List Nullifier :=
  match transaction.operation with
  | .transfer transfer => transfer.inputNullifiers
  | .mint _ => []

def outputs (transaction : Transaction) : List Commitment :=
  match transaction.operation with
  | .transfer transfer => transfer.outputCommitments
  | .mint mint => mint.outputCommitments

/-- The amount a transaction issues of an asset, if it issues any. -/
def mintedOf (asset : AssetId) (transaction : Transaction) : Option Nat :=
  match transaction.operation with
  | .transfer _ => none
  | .mint mint => if mint.assetId = asset then some mint.amount.units else none

end Transaction

def testAsset : AssetDefinition where
  id := Identifier.replicate 2
  ticker := "USDX"
  kind := .synthetic

def testTransfer (id nullifier commitment : UInt8) : Transaction where
  id := Identifier.replicate id
  suite := CryptoSuite.researchV1
  operation := .transfer {
    assetId := testAsset.id
    inputNullifiers := [Identifier.replicate nullifier]
    outputCommitments := [Identifier.replicate commitment]
    proof := ⟨1, [1]⟩ }

def testMint (id commitment : UInt8) (amount : Amount) : Transaction where
  id := Identifier.replicate id
  suite := CryptoSuite.researchV1
  operation := .mint {
    assetId := testAsset.id
    amount
    outputCommitments := [Identifier.replicate commitment]
    authorization := utf8 "test-authorized" }

end Noxis.Ledger
