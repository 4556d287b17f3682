import Noxis.Foundation.Hashing
import Noxis.Types

namespace Noxis.Crypto

open Foundation

/-!
# Cryptographic contracts

Algorithm labels, suites and the boundary to proof verification.  A suite is
valid when each of its labels is legal for the role it is used in; validity
says nothing about an implementation.  A proof verifier is an arbitrary
function with a public identity.
-/

inductive AlgorithmId where
  | sha256
  | sha3_256
  | x25519
  | mlKem768
  | ed25519
  | mlDsa65
  | pluggableProofSystem
deriving DecidableEq

/-- The tag of an algorithm in a validation context.  The transaction wire
format numbers the algorithms differently. -/
def AlgorithmId.protocolTag : AlgorithmId -> UInt8
  | .sha256 => 1
  | .sha3_256 => 2
  | .x25519 => 3
  | .mlKem768 => 4
  | .ed25519 => 5
  | .mlDsa65 => 6
  | .pluggableProofSystem => 7

structure CryptoSuite where
  version : UInt16
  hash : AlgorithmId
  transportKem : AlgorithmId
  identitySignature : AlgorithmId
  proofSystem : AlgorithmId
deriving DecidableEq

inductive CryptoSuiteField where
  | hash
  | transportKem
  | identitySignature
  | proofSystem
deriving DecidableEq

inductive CryptoSuiteError where
  | zeroVersion
  | algorithmRoleMismatch (field : CryptoSuiteField) (algorithm : AlgorithmId)
deriving DecidableEq

namespace CryptoSuite

def researchV1 : CryptoSuite where
  version := 1
  hash := .sha256
  transportKem := .mlKem768
  identitySignature := .mlDsa65
  proofSystem := .pluggableProofSystem

/-- Each label is legal for its role; the first illegal one is reported. -/
def validate (suite : CryptoSuite) : Except CryptoSuiteError Unit :=
  if suite.version = 0 then
    .error .zeroVersion
  else if ¬ (suite.hash = .sha256 ∨ suite.hash = .sha3_256) then
    .error (.algorithmRoleMismatch .hash suite.hash)
  else if ¬ (suite.transportKem = .x25519 ∨ suite.transportKem = .mlKem768) then
    .error (.algorithmRoleMismatch .transportKem suite.transportKem)
  else if ¬ (suite.identitySignature = .ed25519 ∨ suite.identitySignature = .mlDsa65) then
    .error (.algorithmRoleMismatch .identitySignature suite.identitySignature)
  else if suite.proofSystem ≠ .pluggableProofSystem then
    .error (.algorithmRoleMismatch .proofSystem suite.proofSystem)
  else
    .ok ()

end CryptoSuite

structure Proof where
  suiteVersion : UInt16
  bytes : List UInt8
deriving DecidableEq

/-- The public commitment-tree state a transfer proof is checked against. -/
structure StateAnchor where
  root : Bytes 32
  treeDepth : UInt8
deriving DecidableEq

structure TransferStatement where
  genesisId : GenesisId
  validationContextId : ValidationContextId
  transactionIntentId : TransactionIntentId
  stateId : StateId
  assetId : AssetId
  inputNullifiers : List Nullifier
  outputCommitments : List Commitment
  stateAnchor : StateAnchor
deriving DecidableEq

inductive VerificationError where
  | unsupportedSuite
  | invalidProof
deriving DecidableEq

/-- A pluggable verifier of transfer proofs. -/
structure ProofVerifier where
  proofVerifierId : ProofVerifierId
  verifyTransfer : TransferStatement -> Proof -> Except VerificationError Unit

/-- All components that decide transaction validity. -/
structure ValidationContext where
  cryptoSuite : CryptoSuite
  proofVerifierId : ProofVerifierId
  mintPolicyId : MintPolicyId
deriving DecidableEq

inductive ValidationContextError where
  | invalidLength (actual expected : Nat)
  | unknownAlgorithm (tag : UInt8)
  | invalidCryptoSuite (error : CryptoSuiteError)
deriving DecidableEq

namespace ValidationContext

def validate (context : ValidationContext) : Except ValidationContextError Unit :=
  context.cryptoSuite.validate.mapError .invalidCryptoSuite

def encode (context : ValidationContext) : List UInt8 :=
  bigEndian 2 context.cryptoSuite.version.toNat ++
    [context.cryptoSuite.hash.protocolTag,
      context.cryptoSuite.transportKem.protocolTag,
      context.cryptoSuite.identitySignature.protocolTag,
      context.cryptoSuite.proofSystem.protocolTag] ++
    context.proofVerifierId.bytes.toList ++
    context.mintPolicyId.bytes.toList

def idInput (context : ValidationContext) : List UInt8 :=
  utf8 "NOXIS/VALIDATION-CONTEXT/V1\x00" ++ context.encode

def id [Sha256] (context : ValidationContext) : ValidationContextId :=
  ⟨Sha256.digest context.idInput⟩

end ValidationContext
end Noxis.Crypto
