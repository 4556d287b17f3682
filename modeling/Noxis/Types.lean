import Noxis.Foundation.Bytes

namespace Noxis

open Foundation

/-!
# Domain primitives

The protocol's identifiers are distinct types of one shape, 32 bytes with the
order of those bytes.  They are one family here, indexed by what is being
identified, so that an identifier of one kind cannot be passed for another.

An `Amount` is a nonzero unsigned 128-bit number.  Both facts are fields: the
only ways to obtain an amount are `Amount.new`, which refuses zero, and
`Amount.checkedAdd`, which refuses a sum that does not fit.
-/

/-- What a fixed-width protocol identifier names. -/
inductive IdentifierKind where
  | asset
  | commitment
  | nullifier
  | transaction
  | transactionIntent
  | state
  | genesis
  | proofVerifier
  | mintPolicy
  | validationContext
  | consensusConfig
  | validatorSet
  | validator
  | block
  | finalityCertificate
  | app
deriving DecidableEq

/-- A fixed-width protocol identifier. -/
@[ext]
structure Identifier (kind : IdentifierKind) where
  bytes : Bytes 32

namespace Identifier

variable {kind : IdentifierKind}

theorem bytes_injective : Function.Injective (@bytes kind) :=
  fun _ _ same => Identifier.ext same

instance : LinearOrder (Identifier kind) :=
  LinearOrder.lift' bytes bytes_injective

def replicate (byte : UInt8) : Identifier kind :=
  ⟨Bytes.replicate 32 byte⟩

end Identifier

abbrev AssetId := Identifier .asset
abbrev Commitment := Identifier .commitment
abbrev Nullifier := Identifier .nullifier
abbrev TransactionId := Identifier .transaction
abbrev TransactionIntentId := Identifier .transactionIntent
abbrev StateId := Identifier .state
abbrev GenesisId := Identifier .genesis
abbrev ProofVerifierId := Identifier .proofVerifier
abbrev MintPolicyId := Identifier .mintPolicy
abbrev ValidationContextId := Identifier .validationContext
abbrev ConsensusConfigId := Identifier .consensusConfig
abbrev ValidatorSetId := Identifier .validatorSet
abbrev ValidatorId := Identifier .validator
abbrev BlockId := Identifier .block
abbrev FinalityCertificateId := Identifier .finalityCertificate
abbrev AppHash := Identifier .app

/-- Immutable identity binding a local record chain to one genesis. -/
structure ChainAnchor where
  genesisId : GenesisId
  validationContextId : ValidationContextId
  proofVerifierId : ProofVerifierId
  mintPolicyId : MintPolicyId
  genesisStateId : StateId
deriving DecidableEq

/-- A nonzero unsigned 128-bit quantity. -/
@[ext]
structure Amount where
  units : Nat
  positive : 0 < units
  bounded : units < 2 ^ 128
deriving DecidableEq

namespace Amount

def new (units : Fin (2 ^ 128)) : Option Amount :=
  if positive : 0 < units.val then some ⟨units.val, positive, units.isLt⟩ else none

/-- Addition that fails instead of wrapping. -/
def checkedAdd (amount other : Amount) : Option Amount :=
  if fits : amount.units + other.units < 2 ^ 128 then
    some ⟨amount.units + other.units, Nat.add_pos_left amount.positive _, fits⟩
  else none

/-- A successful addition is the exact integer sum. -/
theorem units_of_checkedAdd {amount other sum : Amount}
    (added : amount.checkedAdd other = some sum) : sum.units = amount.units + other.units := by
  unfold checkedAdd at added
  by_cases fits : amount.units + other.units < 2 ^ 128
  · rw [dif_pos fits] at added
    rw [← Option.some.inj added]
  · rw [dif_neg fits] at added
    cases added

end Amount

inductive AssetKind where
  | nativeBacked
  | synthetic
deriving DecidableEq

/-- A registered asset.  The fields are public in the source, so a value need
not have passed the ticker check of `AssetDefinition.new`. -/
@[ext]
structure AssetDefinition where
  id : AssetId
  ticker : String
  kind : AssetKind
deriving DecidableEq

inductive AssetError where
  | invalidTicker
deriving DecidableEq

/-- Whether a byte is one of `A` to `Z`. -/
def isAsciiUppercase (byte : UInt8) : Bool :=
  decide (65 <= byte) && decide (byte <= 90)

namespace AssetDefinition

def new (id : AssetId) (ticker : String) (kind : AssetKind) : Except AssetError AssetDefinition :=
  if (utf8 ticker).isEmpty || decide (16 < (utf8 ticker).length) ||
      !(utf8 ticker).all isAsciiUppercase then
    .error .invalidTicker
  else
    .ok ⟨id, ticker, kind⟩

/-- The asset is one that `AssetDefinition.new` returns. -/
def Built (asset : AssetDefinition) : Prop :=
  new asset.id asset.ticker asset.kind = .ok asset

variable {id : AssetId} {ticker : String} {kind : AssetKind} {asset : AssetDefinition}

theorem eq_of_new (made : new id ticker kind = .ok asset) : asset = ⟨id, ticker, kind⟩ := by
  unfold new at made
  split at made
  · cases made
  · exact (Except.ok.inj made).symm

theorem built_of_new (made : new id ticker kind = .ok asset) : asset.Built := by
  have copied := eq_of_new made
  subst copied
  exact made

/-- An asset is determined by the fields that encodings write. -/
theorem fields_injective {tag : AssetKind -> UInt8} (injective : Function.Injective tag) :
    Function.Injective (fun asset : AssetDefinition =>
      (asset.id.bytes, tag asset.kind, utf8 asset.ticker)) := by
  intro left right same
  simp only [Prod.mk.injEq] at same
  exact AssetDefinition.ext (Identifier.bytes_injective same.1) (utf8_injective same.2.2)
    (injective same.2.1)

end AssetDefinition
end Noxis
