import Noxis.Codec.Transaction
import Noxis.Foundation.Sha256

namespace Noxis.Codec

open Foundation Crypto
open Ledger (Transfer Mint Operation Transaction testTransfer)

/-!
# Transaction intents

An intent names what a transaction does and leaves out how it is authorized:
the identifier, the proof and the mint authorization are not part of it, since
a proof or a signature may itself refer to the intent.  `OperationIntent` is
that semantic part.  The encoded intent determines it, together with the suite,
and depends on nothing else.
-/

/-- The part of an operation that its intent identifies. -/
inductive OperationIntent where
  | transfer (assetId : AssetId) (inputNullifiers : List Nullifier)
      (outputCommitments : List Commitment)
  | mint (assetId : AssetId) (amount : Amount) (outputCommitments : List Commitment)
deriving DecidableEq

def operationIntent : Operation -> OperationIntent
  | .transfer transfer =>
    .transfer transfer.assetId transfer.inputNullifiers transfer.outputCommitments
  | .mint mint => .mint mint.assetId mint.amount mint.outputCommitments

/-- The transactions agree on the suite and on every semantic field. -/
def SameIntent (left right : Transaction) : Prop :=
  left.suite = right.suite /\ operationIntent left.operation = operationIntent right.operation

def writeIntentOperation : Operation -> Except CodecError (List UInt8)
  | .transfer transfer => do
      let inputs ← writeIdentifiers transfer.inputNullifiers
      let outputs ← writeIdentifiers transfer.outputCommitments
      return [operationTransfer] ++ (transfer.assetId.bytes.toList ++ (inputs ++ outputs))
  | .mint mint => do
      let outputs ← writeIdentifiers mint.outputCommitments
      return [operationMint] ++ (mint.assetId.bytes.toList ++
        (bigEndian 16 mint.amount.units ++ outputs))

def encodeTransactionIntent (transaction : Transaction) : Except CodecError (List UInt8) := do
  validateTransactionShape transaction
  let operation ← writeIntentOperation transaction.operation
  return utf8 "NXTI" ++ (writeU16 1 ++ (writeSuite transaction.suite ++ operation))

/-- The byte string hashed into an intent identifier. -/
def intentIdInput (intent : List UInt8) : List UInt8 :=
  utf8 "NOXIS/TX-INTENT-ID/V1\x00" ++ (bigEndian 4 intent.length ++ intent)

def transactionIntentId [Sha256] (transaction : Transaction) :
    Except CodecError TransactionIntentId := do
  let intent ← encodeTransactionIntent transaction
  if 2 ^ 32 <= intent.length then
    .error .lengthOverflow
  else
    .ok ⟨Sha256.digest (intentIdInput intent)⟩

def intentTag : OperationIntent -> UInt8
  | .transfer _ _ _ => operationTransfer
  | .mint _ _ _ => operationMint

def intentBody : OperationIntent -> List UInt8
  | .transfer assetId inputs outputs =>
    assetId.bytes.toList ++ (identifiersBytes inputs ++ identifiersBytes outputs)
  | .mint assetId amount outputs =>
    assetId.bytes.toList ++ (bigEndian 16 amount.units ++ identifiersBytes outputs)

def intentBytes (suite : CryptoSuite) (intent : OperationIntent) : List UInt8 :=
  utf8 "NXTI" ++ (writeU16 1 ++ (writeSuite suite ++ ([intentTag intent] ++ intentBody intent)))

/-- The lists of an intent are within the wire limits. -/
def IntentLimits : OperationIntent -> Prop
  | .transfer _ inputs outputs =>
    inputs.length <= maxCollectionItems.toNat /\ outputs.length <= maxCollectionItems.toNat
  | .mint _ _ outputs => outputs.length <= maxCollectionItems.toNat

variable {operation : Operation}

theorem intentLimits_of_limits (limits : OperationLimits operation) :
    IntentLimits (operationIntent operation) := by
  cases operation with
  | transfer transfer => exact ⟨limits.inputs, limits.outputs⟩
  | mint mint => exact limits.outputs

theorem writeIntentOperation_of_limits (limits : OperationLimits operation) :
    writeIntentOperation operation =
      .ok ([intentTag (operationIntent operation)] ++ intentBody (operationIntent operation)) := by
  cases operation with
  | transfer transfer =>
    refine Except.bind_eq_ok.mpr ⟨_, writeIdentifiers_eq_ok.mpr ⟨limits.inputs, rfl⟩, ?_⟩
    exact Except.bind_eq_ok.mpr ⟨_, writeIdentifiers_eq_ok.mpr ⟨limits.outputs, rfl⟩, rfl⟩
  | mint mint =>
    exact Except.bind_eq_ok.mpr ⟨_, writeIdentifiers_eq_ok.mpr ⟨limits.outputs, rfl⟩, rfl⟩

variable {transaction : Transaction}

/-- The intent of a transaction of the right shape is always encoded. -/
theorem encodeTransactionIntent_of_shape (shaped : validateTransactionShape transaction = .ok ()) :
    encodeTransactionIntent transaction =
      .ok (intentBytes transaction.suite (operationIntent transaction.operation)) := by
  unfold encodeTransactionIntent
  rw [shaped, writeIntentOperation_of_limits (limits_of_shape shaped)]
  rfl

theorem length_intentBytes_lt (suite : CryptoSuite) {intent : OperationIntent}
    (limits : IntentLimits intent) : (intentBytes suite intent).length < 2 ^ 32 := by
  have items : maxCollectionItems.toNat = 65536 := rfl
  have magic : (utf8 "NXTI").length = 4 := by decide
  cases intent with
  | transfer assetId inputs outputs =>
    have inputsFit := limits.1
    have outputsFit := limits.2
    simp only [intentBytes, intentBody, writeU16, writeSuite, List.length_append,
      Bytes.length_toList, length_identifiersBytes, length_bigEndian, List.length_singleton]
    omega
  | mint assetId amount outputs =>
    have outputsFit : outputs.length <= maxCollectionItems.toNat := limits
    simp only [intentBytes, intentBody, writeU16, writeSuite, List.length_append,
      Bytes.length_toList, length_identifiersBytes, length_bigEndian, List.length_singleton]
    omega

theorem transactionIntentId_of_shape [Sha256]
    (shaped : validateTransactionShape transaction = .ok ()) :
    transactionIntentId transaction = .ok ⟨Sha256.digest (intentIdInput
      (intentBytes transaction.suite (operationIntent transaction.operation)))⟩ := by
  have short := length_intentBytes_lt transaction.suite
    (intentLimits_of_limits (limits_of_shape shaped))
  unfold transactionIntentId
  rw [encodeTransactionIntent_of_shape shaped]
  exact if_neg (Nat.not_le_of_lt short)

theorem encodeAlgorithm_injective : Function.Injective encodeAlgorithm := by
  intro left right same
  have decoded := decodeAlgorithm_eq_ok.mpr same
  rw [decodeAlgorithm_eq_ok.mpr rfl] at decoded
  exact Except.ok.inj decoded

theorem delimited_writeSuite : Delimited (fun _ : CryptoSuite => True) writeSuite := by
  have algorithm : Delimited (fun _ : AlgorithmId => True)
      (fun value => [encodeAlgorithm value]) := Delimited.byte.comap encodeAlgorithm_injective
  have version : Delimited (fun _ : UInt16 => True) writeU16 :=
    ((Delimited.bigEndian 2).comap (fun _ _ same => UInt16.toNat_inj.mp same)).weaken
      (fun value _ => value.toNat_lt)
  have parts : Function.Injective (fun suite : CryptoSuite =>
      (suite.version, suite.hash, suite.transportKem, suite.identitySignature,
        suite.proofSystem)) := by
    rintro ⟨_, _, _, _, _⟩ ⟨_, _, _, _, _⟩ same
    simp only [Prod.mk.injEq] at same
    rcases same with ⟨rfl, rfl, rfl, rfl, rfl⟩
    rfl
  have fields := version.pair (algorithm.pair (algorithm.pair (algorithm.pair algorithm)))
  exact (fields.comap parts).weaken (fun _ _ => ⟨trivial, trivial, trivial, trivial, trivial⟩)

theorem delimited_identifiersBytes {kind : IdentifierKind} :
    Delimited (fun values : List (Identifier kind) => values.length <= maxCollectionItems.toNat)
      identifiersBytes := by
  have element : Delimited (fun _ : Identifier kind => True) (fun value => value.bytes.toList) :=
    (Delimited.bytes 32).comap Identifier.bytes_injective
  refine (element.counted 4).weaken ?_
  intro values within
  have items : maxCollectionItems.toNat = 65536 := rfl
  exact ⟨by omega, fun _ _ => trivial⟩

theorem delimited_assetId : Delimited (fun _ : AssetId => True) (fun id => id.bytes.toList) :=
  (Delimited.bytes 32).comap Identifier.bytes_injective

variable {left right : OperationIntent}

theorem intent_eq_of_body_eq (leftLimits : IntentLimits left) (rightLimits : IntentLimits right)
    (same : [intentTag left] ++ intentBody left = [intentTag right] ++ intentBody right) :
    left = right := by
  have sameTag := (List.cons.inj same).1
  have sameBody := (List.cons.inj same).2
  cases left with
  | transfer assetId inputs outputs =>
    cases right with
    | transfer otherAsset otherInputs otherOutputs =>
      have fields := delimited_assetId.pair
        ((@delimited_identifiersBytes .nullifier).pair (@delimited_identifiersBytes .commitment))
      have equal := @Delimited.injective _ _ _ fields (assetId, inputs, outputs)
        (otherAsset, otherInputs, otherOutputs) ⟨trivial, leftLimits⟩ ⟨trivial, rightLimits⟩
        sameBody
      cases equal
      rfl
    | mint _ _ _ => exact absurd sameTag operationTransfer_ne_operationMint
  | mint assetId amount outputs =>
    cases right with
    | transfer _ _ _ => exact absurd sameTag.symm operationTransfer_ne_operationMint
    | mint otherAsset otherAmount otherOutputs =>
      have units : Delimited (fun _ : Amount => True) (fun value => bigEndian 16 value.units) :=
        ((Delimited.bigEndian 16).comap (fun _ _ equal => Amount.ext equal)).weaken
          (fun value _ => value.bounded)
      have fields := delimited_assetId.pair (units.pair (@delimited_identifiersBytes .commitment))
      have equal := @Delimited.injective _ _ _ fields (assetId, amount, outputs)
        (otherAsset, otherAmount, otherOutputs) ⟨trivial, trivial, leftLimits⟩
        ⟨trivial, trivial, rightLimits⟩ sameBody
      cases equal
      rfl

theorem intentBytes_inj {leftSuite rightSuite : CryptoSuite} (leftLimits : IntentLimits left)
    (rightLimits : IntentLimits right)
    (same : intentBytes leftSuite left = intentBytes rightSuite right) :
    leftSuite = rightSuite /\ left = right := by
  have afterHeader := List.append_cancel_left (List.append_cancel_left same)
  have suites := delimited_writeSuite _ _ _ _ trivial trivial afterHeader
  exact ⟨suites.1, intent_eq_of_body_eq leftLimits rightLimits suites.2⟩

/-- Encoded intents of transactions of the right shape are equal exactly when
the transactions agree on the suite and on the kind, asset, amount, ordered
nullifiers and ordered commitments of the operation.  Equal identifiers
therefore name one intent, or the two hashed byte strings are a collision. -/
theorem transactionIntent_binds_semantics [Sha256] {left right : Transaction}
    (leftShaped : validateTransactionShape left = .ok ())
    (rightShaped : validateTransactionShape right = .ok ()) :
    (encodeTransactionIntent left = encodeTransactionIntent right <-> SameIntent left right) /\
      ∃ leftIntent rightIntent, encodeTransactionIntent left = .ok leftIntent /\
        encodeTransactionIntent right = .ok rightIntent /\
        (transactionIntentId left = transactionIntentId right ->
          SameIntent left right ∨
            Collides Sha256.digest (intentIdInput leftIntent) (intentIdInput rightIntent)) := by
  have leftLimits := intentLimits_of_limits (limits_of_shape leftShaped)
  have rightLimits := intentLimits_of_limits (limits_of_shape rightShaped)
  have leftEncoded := encodeTransactionIntent_of_shape leftShaped
  have rightEncoded := encodeTransactionIntent_of_shape rightShaped
  refine ⟨?_, _, _, leftEncoded, rightEncoded, ?_⟩
  · rw [leftEncoded, rightEncoded]
    constructor
    · intro same
      exact intentBytes_inj leftLimits rightLimits (Except.ok.inj same)
    · rintro ⟨sameSuite, sameOperation⟩
      rw [sameSuite, sameOperation]
  · rw [transactionIntentId_of_shape leftShaped, transactionIntentId_of_shape rightShaped]
    intro sameId
    have sameDigest := congrArg Identifier.bytes (Except.ok.inj sameId)
    rcases eq_or_collides Sha256.digest sameDigest with sameInput | collides
    · have afterDomain := List.append_cancel_left sameInput
      have sameIntent := (Delimited.prefixed 4).injective
        (length_intentBytes_lt left.suite leftLimits) (length_intentBytes_lt right.suite rightLimits)
        afterDomain
      exact Or.inl (intentBytes_inj leftLimits rightLimits sameIntent)
    · exact Or.inr collides

open Fips180 in
theorem testTransfer_intent_ignores_id :
    validateTransactionShape (testTransfer 1 9 5) = .ok () /\
      validateTransactionShape (testTransfer 2 9 5) = .ok () /\
      encodeTransactionIntent (testTransfer 1 9 5) =
        encodeTransactionIntent (testTransfer 2 9 5) :=
  ⟨rfl, rfl, (transactionIntent_binds_semantics rfl rfl).1.mpr ⟨rfl, rfl⟩⟩

end Noxis.Codec
