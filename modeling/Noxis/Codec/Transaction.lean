import Noxis.Foundation.Delimited
import Noxis.Foundation.Reader
import Noxis.Ledger.Model
import Noxis.Privacy.Identifiers

namespace Noxis.Codec

open Foundation Crypto
open Ledger (Transfer Mint Operation Transaction)

/-!
# The transaction wire format

One transaction is one message: a magic, a version, the identifier, the suite,
an operation tag and the operation.  Integers are big-endian and collections
are behind four-byte counts.  The encoder checks the shape of a transaction
first and then repeats the limits while it writes; the decoder checks limits
while it reads, rejects left-over input, and checks the shape last.  An encoder
failure and a decoder failure can therefore report different errors for one
value, but both accept exactly the same ones.
-/

def transactionMagic : List UInt8 := utf8 "NOXT"

def transactionFormatVersion : UInt16 := 1

def maxCollectionItems : UInt32 := 65536

def maxOpaqueBytes : UInt32 := 16 * 1024 * 1024

def operationTransfer : UInt8 := 1

def operationMint : UInt8 := 2

theorem operationTransfer_ne_operationMint : operationTransfer ≠ operationMint := by decide

inductive CodecError where
  | invalidMagic
  | unsupportedFormatVersion (version : UInt16)
  | invalidPrivateTransferMagic
  | unsupportedPrivateTransferFormatVersion (version : UInt16)
  | invalidPrivateTransferIntent (error : Privacy.PrivacyTypesError)
  | unknownOperation (tag : UInt8)
  | unknownAlgorithm (tag : UInt8)
  | invalidCryptoSuite (error : CryptoSuiteError)
  | unexpectedEnd (offset : Nat)
  | trailingBytes (count : Nat)
  | lengthOverflow
  | collectionTooLarge (actual : Nat) (maximum : UInt32)
  | opaqueDataTooLarge (actual : Nat) (maximum : UInt32)
  | privateEnvelopeTooLarge (actual : Nat) (maximum : UInt16)
  | privateProofTooLarge (actual : Nat) (maximum : UInt32)
  | emptyRequiredField (field : String)
  | zeroMintAmount
  | proofSuiteVersionMismatch (transaction proof : UInt16)
deriving DecidableEq

instance : ReaderErrors CodecError where
  lengthOverflow := .lengthOverflow
  unexpectedEnd := .unexpectedEnd
  trailingBytes := .trailingBytes

def ensureNonEmpty (length : Nat) (field : String) : Except CodecError Unit :=
  if length = 0 then .error (.emptyRequiredField field) else .ok ()

def ensureCollectionLimit (length : Nat) : Except CodecError Unit :=
  if maxCollectionItems.toNat < length then .error (.collectionTooLarge length maxCollectionItems)
  else .ok ()

def ensureOpaqueLimit (length : Nat) : Except CodecError Unit :=
  if maxOpaqueBytes.toNat < length then .error (.opaqueDataTooLarge length maxOpaqueBytes)
  else .ok ()

def validateOperationShape (suite : CryptoSuite) : Operation -> Except CodecError Unit
  | .transfer transfer => do
      ensureNonEmpty transfer.inputNullifiers.length "transfer input nullifiers"
      ensureNonEmpty transfer.outputCommitments.length "transfer output commitments"
      ensureCollectionLimit transfer.inputNullifiers.length
      ensureCollectionLimit transfer.outputCommitments.length
      ensureOpaqueLimit transfer.proof.bytes.length
      if suite.version ≠ transfer.proof.suiteVersion then
        .error (.proofSuiteVersionMismatch suite.version transfer.proof.suiteVersion)
      else .ok ()
  | .mint mint => do
      ensureNonEmpty mint.outputCommitments.length "mint output commitments"
      ensureCollectionLimit mint.outputCommitments.length
      ensureOpaqueLimit mint.authorization.length

def validateTransactionShape (transaction : Transaction) : Except CodecError Unit := do
  transaction.suite.validate.mapError .invalidCryptoSuite
  validateOperationShape transaction.suite transaction.operation

def encodeAlgorithm : AlgorithmId -> UInt8
  | .sha3_256 => 1
  | .x25519 => 2
  | .mlKem768 => 3
  | .ed25519 => 4
  | .mlDsa65 => 5
  | .pluggableProofSystem => 6
  | .sha256 => 7

def decodeAlgorithm (code : UInt8) : Except CodecError AlgorithmId :=
  match code with
  | 1 => .ok .sha3_256
  | 2 => .ok .x25519
  | 3 => .ok .mlKem768
  | 4 => .ok .ed25519
  | 5 => .ok .mlDsa65
  | 6 => .ok .pluggableProofSystem
  | 7 => .ok .sha256
  | value => .error (.unknownAlgorithm value)

def writeU16 (value : UInt16) : List UInt8 := bigEndian 2 value.toNat

def writeU32 (value : UInt32) : List UInt8 := bigEndian 4 value.toNat

def writeSuite (suite : CryptoSuite) : List UInt8 :=
  writeU16 suite.version ++ ([encodeAlgorithm suite.hash] ++ ([encodeAlgorithm suite.transportKem] ++
    ([encodeAlgorithm suite.identitySignature] ++ [encodeAlgorithm suite.proofSystem])))

def writeIdentifiers {kind : IdentifierKind} (values : List (Identifier kind)) :
    Except CodecError (List UInt8) := do
  ensureCollectionLimit values.length
  if 2 ^ 32 <= values.length then
    .error (.collectionTooLarge values.length maxCollectionItems)
  else
    .ok (writeU32 (UInt32.ofNat values.length) ++ values.flatMap (fun value => value.bytes.toList))

def writeBytes (bytes : List UInt8) : Except CodecError (List UInt8) := do
  ensureOpaqueLimit bytes.length
  if 2 ^ 32 <= bytes.length then
    .error (.opaqueDataTooLarge bytes.length maxOpaqueBytes)
  else
    .ok (writeU32 (UInt32.ofNat bytes.length) ++ bytes)

/-- The operation tag and the operation with its proof or authorization. -/
def writeOperation : Operation -> Except CodecError (List UInt8)
  | .transfer transfer => do
      let inputs ← writeIdentifiers transfer.inputNullifiers
      let outputs ← writeIdentifiers transfer.outputCommitments
      let proof ← writeBytes transfer.proof.bytes
      return [operationTransfer] ++ (transfer.assetId.bytes.toList ++ (inputs ++ (outputs ++
        (writeU16 transfer.proof.suiteVersion ++ proof))))
  | .mint mint => do
      let outputs ← writeIdentifiers mint.outputCommitments
      let authorization ← writeBytes mint.authorization
      return [operationMint] ++ (mint.assetId.bytes.toList ++ (bigEndian 16 mint.amount.units ++
        (outputs ++ authorization)))

/-- The sole canonical wire representation of a transaction. -/
def encodeTransaction (transaction : Transaction) : Except CodecError (List UInt8) := do
  validateTransactionShape transaction
  let operation ← writeOperation transaction.operation
  return transactionMagic ++ (writeU16 transactionFormatVersion ++ (transaction.id.bytes.toList ++
    (writeSuite transaction.suite ++ operation)))

section
def readIdentifier {kind : IdentifierKind} : EStateM CodecError Reader (Identifier kind) := do
  let bytes ← readArray 32
  return ⟨bytes⟩

/-- A count of identifiers, with enough input behind it for all of them. -/
def readCollectionLength : EStateM CodecError Reader Nat := do
  let length ← readU32
  if maxCollectionItems < length then
    throw (.collectionTooLarge length.toNat maxCollectionItems)
  else if 2 ^ 64 <= length.toNat * 32 then
    throw .lengthOverflow
  else
    ensureRemaining (length.toNat * 32)
    return length.toNat

def readIdentifiers {kind : IdentifierKind} :
    EStateM CodecError Reader (List (Identifier kind)) := do
  let length ← readCollectionLength
  readMany readIdentifier length

def readBytes : EStateM CodecError Reader (List UInt8) := do
  let length ← readU32
  if maxOpaqueBytes < length then
    throw (.opaqueDataTooLarge length.toNat maxOpaqueBytes)
  else readExact length.toNat

def readAlgorithm : EStateM CodecError Reader AlgorithmId := do
  let code ← readU8
  check (decodeAlgorithm code)

def readSuite : EStateM CodecError Reader CryptoSuite := do
  let version ← readU16
  let hash ← readAlgorithm
  let transportKem ← readAlgorithm
  let identitySignature ← readAlgorithm
  let proofSystem ← readAlgorithm
  return ⟨version, hash, transportKem, identitySignature, proofSystem⟩

def readTransfer : EStateM CodecError Reader Transfer := do
  let assetId ← readIdentifier
  let inputNullifiers ← readIdentifiers
  let outputCommitments ← readIdentifiers
  let suiteVersion ← readU16
  let bytes ← readBytes
  return ⟨assetId, inputNullifiers, outputCommitments, ⟨suiteVersion, bytes⟩⟩

/-- Sixteen bytes are below the bound of an amount. -/
theorem ofBigEndian_lt_amount (array : Bytes 16) : ofBigEndian array.toList < 2 ^ 128 := by
  grind [ofBigEndian_lt, Bytes.length_toList]

def readAmount : EStateM CodecError Reader Amount := do
  let array ← readArray 16
  match Amount.new ⟨ofBigEndian array.toList, ofBigEndian_lt_amount array⟩ with
  | some amount => return amount
  | none => throw .zeroMintAmount

def readMint : EStateM CodecError Reader Mint := do
  let assetId ← readIdentifier
  let amount ← readAmount
  let outputCommitments ← readIdentifiers
  let authorization ← readBytes
  return ⟨assetId, amount, outputCommitments, authorization⟩

def readOperation : EStateM CodecError Reader Operation := do
  let tag ← readU8
  if tag = operationTransfer then
    let transfer ← readTransfer
    return .transfer transfer
  else if tag = operationMint then
    let mint ← readMint
    return .mint mint
  else throw (.unknownOperation tag)

def readTransaction : EStateM CodecError Reader Transaction := do
  let magic ← readArray 4
  if magic.toList ≠ transactionMagic then
    throw .invalidMagic
  else
    let version ← readU16
    if version ≠ transactionFormatVersion then
      throw (.unsupportedFormatVersion version)
    else
      let id ← readIdentifier
      let suite ← readSuite
      let operation ← readOperation
      return ⟨id, suite, operation⟩

/-- Decode exactly one canonical message. -/
def decodeTransaction (bytes : List UInt8) : Except CodecError Transaction := do
  let transaction ← parse readTransaction bytes
  validateTransactionShape transaction
  return transaction

end

/-! ## What the encoder writes -/

def identifiersBytes {kind : IdentifierKind} (values : List (Identifier kind)) : List UInt8 :=
  bigEndian 4 values.length ++ values.flatMap (fun value => value.bytes.toList)

def opaqueBytes (bytes : List UInt8) : List UInt8 := bigEndian 4 bytes.length ++ bytes

def transferBytes (transfer : Transfer) : List UInt8 :=
  transfer.assetId.bytes.toList ++ (identifiersBytes transfer.inputNullifiers ++
    (identifiersBytes transfer.outputCommitments ++ (writeU16 transfer.proof.suiteVersion ++
      opaqueBytes transfer.proof.bytes)))

def mintBytes (mint : Mint) : List UInt8 :=
  mint.assetId.bytes.toList ++ (bigEndian 16 mint.amount.units ++
    (identifiersBytes mint.outputCommitments ++ opaqueBytes mint.authorization))

def operationTag : Operation -> UInt8
  | .transfer _ => operationTransfer
  | .mint _ => operationMint

def operationBytes : Operation -> List UInt8
  | .transfer transfer => transferBytes transfer
  | .mint mint => mintBytes mint

def transactionBytes (transaction : Transaction) : List UInt8 :=
  transactionMagic ++ (writeU16 transactionFormatVersion ++ (transaction.id.bytes.toList ++
    (writeSuite transaction.suite ++ ([operationTag transaction.operation] ++
      operationBytes transaction.operation))))

/-- The lists of a transfer are within the wire limits. -/
structure TransferLimits (transfer : Transfer) : Prop where
  inputs : transfer.inputNullifiers.length <= maxCollectionItems.toNat
  outputs : transfer.outputCommitments.length <= maxCollectionItems.toNat
  proof : transfer.proof.bytes.length <= maxOpaqueBytes.toNat

structure MintLimits (mint : Mint) : Prop where
  outputs : mint.outputCommitments.length <= maxCollectionItems.toNat
  authorization : mint.authorization.length <= maxOpaqueBytes.toNat

def OperationLimits : Operation -> Prop
  | .transfer transfer => TransferLimits transfer
  | .mint mint => MintLimits mint

variable {length : Nat}

theorem ensureCollectionLimit_eq_ok :
    ensureCollectionLimit length = .ok () <-> length <= maxCollectionItems.toNat := by
  simp [ensureCollectionLimit]

theorem ensureOpaqueLimit_eq_ok :
    ensureOpaqueLimit length = .ok () <-> length <= maxOpaqueBytes.toNat := by
  simp [ensureOpaqueLimit]

variable {output : List UInt8}

/-- What follows its length in 32 bits is written exactly when the length is
within the limit; the later check that the length has 32 bits always passes. -/
private theorem writeLimited_eq_ok {ensured : Except CodecError Unit} {tooLarge : CodecError}
    {limit : UInt32} {body : List UInt8} (meaning : ensured = .ok () <-> length <= limit.toNat) :
    (ensured >>= fun _ =>
        if 2 ^ 32 <= length then .error tooLarge
        else .ok (writeU32 (UInt32.ofNat length) ++ body)) = .ok output <->
      length <= limit.toNat /\ output = bigEndian 4 length ++ body := by
  have written (within : length <= limit.toNat) :
      (if 2 ^ 32 <= length then Except.error tooLarge
        else .ok (writeU32 (UInt32.ofNat length) ++ body)) =
      .ok (bigEndian 4 length ++ body) := by
    have bound := limit.toNat_lt
    rw [if_neg (by omega), writeU32, Reads.toNat_ofNat_of_le within]
  grind [Except.bind_eq_ok]

variable {kind : IdentifierKind}

theorem writeIdentifiers_eq_ok {values : List (Identifier kind)} :
    writeIdentifiers values = .ok output <->
      values.length <= maxCollectionItems.toNat /\ output = identifiersBytes values :=
  writeLimited_eq_ok ensureCollectionLimit_eq_ok

variable {bytes : List UInt8}

theorem writeBytes_eq_ok :
    writeBytes bytes = .ok output <->
      bytes.length <= maxOpaqueBytes.toNat /\ output = opaqueBytes bytes :=
  writeLimited_eq_ok ensureOpaqueLimit_eq_ok

variable {operation : Operation}

theorem writeOperation_eq_ok :
    writeOperation operation = .ok output <->
      OperationLimits operation /\ output = [operationTag operation] ++ operationBytes operation := by
  cases operation with
  | transfer transfer =>
    refine (Except.bind_written writeIdentifiers_eq_ok).trans ?_
    rw [Except.bind_written writeIdentifiers_eq_ok, Except.bind_written writeBytes_eq_ok]
    constructor
    · rintro ⟨inputs, outputs, proof, same⟩
      exact ⟨⟨inputs, outputs, proof⟩, (Except.ok.inj same).symm⟩
    · rintro ⟨limits, rfl⟩
      exact ⟨limits.inputs, limits.outputs, limits.proof, rfl⟩
  | mint mint =>
    refine (Except.bind_written writeIdentifiers_eq_ok).trans ?_
    rw [Except.bind_written writeBytes_eq_ok]
    constructor
    · rintro ⟨outputs, authorization, same⟩
      exact ⟨⟨outputs, authorization⟩, (Except.ok.inj same).symm⟩
    · rintro ⟨limits, rfl⟩
      exact ⟨limits.outputs, limits.authorization, rfl⟩

variable {transaction : Transaction}

/-- A transaction of the right shape is within the limits, so the encoder
never fails after the shape check. -/
theorem limits_of_shape (shaped : validateTransactionShape transaction = .ok ()) :
    OperationLimits transaction.operation := by
  rcases Except.bind_eq_ok.mp shaped with ⟨_, _, shaped⟩
  cases isOperation : transaction.operation with
  | transfer transfer =>
    rw [isOperation] at shaped
    rcases Except.bind_eq_ok.mp shaped with ⟨_, _, shaped⟩
    rcases Except.bind_eq_ok.mp shaped with ⟨_, _, shaped⟩
    rcases Except.bind_eq_ok.mp shaped with ⟨_, inputs, shaped⟩
    rcases Except.bind_eq_ok.mp shaped with ⟨_, outputs, shaped⟩
    rcases Except.bind_eq_ok.mp shaped with ⟨_, proof, _⟩
    exact ⟨ensureCollectionLimit_eq_ok.mp inputs, ensureCollectionLimit_eq_ok.mp outputs,
      ensureOpaqueLimit_eq_ok.mp proof⟩
  | mint mint =>
    rw [isOperation] at shaped
    rcases Except.bind_eq_ok.mp shaped with ⟨_, _, shaped⟩
    rcases Except.bind_eq_ok.mp shaped with ⟨_, outputs, authorization⟩
    exact ⟨ensureCollectionLimit_eq_ok.mp outputs, ensureOpaqueLimit_eq_ok.mp authorization⟩

theorem encodeTransaction_eq_ok :
    encodeTransaction transaction = .ok bytes <->
      validateTransactionShape transaction = .ok () /\ bytes = transactionBytes transaction := by
  unfold encodeTransaction
  rw [Except.bind_eq_ok]
  constructor
  · rintro ⟨_, shaped, written⟩
    rcases (Except.bind_written writeOperation_eq_ok).mp written with ⟨_, same⟩
    exact ⟨shaped, (Except.ok.inj same).symm⟩
  · rintro ⟨shaped, rfl⟩
    exact ⟨(), shaped,
      (Except.bind_written writeOperation_eq_ok).mpr ⟨limits_of_shape shaped, rfl⟩⟩

theorem reads_identifier :
    Reads (readIdentifier : EStateM CodecError Reader (Identifier kind)) (fun _ => True)
      (fun value => value.bytes.toList) :=
  (Reads.array 32).map Identifier.mk Identifier.bytes (fun _ _ => rfl) (fun _ _ => rfl)

theorem length_flatMap_identifiers (values : List (Identifier kind)) :
    (values.flatMap (fun value => value.bytes.toList)).length = values.length * 32 := by
  simp [Bytes.length_toList]

theorem readIdentifiers_eq :
    (readIdentifiers : EStateM CodecError Reader (List (Identifier kind))) =
      (readU32 >>= fun length =>
        if maxCollectionItems < length then
          throw (.collectionTooLarge length.toNat maxCollectionItems)
        else if 2 ^ 64 <= length.toNat * 32 then throw .lengthOverflow
        else ensureRemaining (length.toNat * 32) >>= fun _ =>
          readMany readIdentifier length.toNat) := by
  unfold readIdentifiers readCollectionLength
  rw [bind_assoc]
  congr 1
  funext length
  split
  · rfl
  · split
    · rfl
    · rw [bind_assoc]
      rfl

theorem reads_identifiers :
    Reads (readIdentifiers : EStateM CodecError Reader (List (Identifier kind)))
      (fun values => values.length <= maxCollectionItems.toNat) identifiersBytes := by
  rw [readIdentifiers_eq]
  refine Reads.limited maxCollectionItems
    (fun length => CodecError.collectionTooLarge length.toNat maxCollectionItems) List.length ?_
  intro length _
  have elements := ((@reads_identifier kind).many length.toNat).ensuringRemaining
    (fun values sized => Nat.le_of_eq (by rw [length_flatMap_identifiers, sized.1]))
  have inMemory : ¬ 2 ^ 64 <= length.toNat * 32 := by
    have bounded := length.toNat_lt
    omega
  refine (Reads.guarded CodecError.lengthOverflow (fun _ => elements)).congr ?_ (fun _ _ => rfl)
  intro values
  exact ⟨fun all => all.2.1, fun sized => ⟨inMemory, sized, fun _ _ => trivial⟩⟩

theorem reads_bytes :
    Reads (readBytes : EStateM CodecError Reader (List UInt8))
      (fun bytes => bytes.length <= maxOpaqueBytes.toNat) opaqueBytes :=
  Reads.limited maxOpaqueBytes
    (fun length => CodecError.opaqueDataTooLarge length.toNat maxOpaqueBytes) List.length
    (fun length _ => Reads.exact length.toNat)

theorem decodeAlgorithm_eq_ok {code algorithm} :
    decodeAlgorithm code = .ok algorithm <-> code = encodeAlgorithm algorithm := by
  constructor
  · intro decoded
    unfold decodeAlgorithm at decoded
    split at decoded <;> first | cases decoded; rfl | cases decoded
  · rintro rfl
    cases algorithm <;> rfl

theorem reads_algorithm :
    Reads readAlgorithm (fun _ => True) (fun algorithm => [encodeAlgorithm algorithm]) := by
  refine Reads.u8.decoded encodeAlgorithm (fun _ => trivial) ?_
  simp [check_eq_ok, decodeAlgorithm_eq_ok]

theorem reads_suite : Reads readSuite (fun _ => True) writeSuite := by
  have fields := Reads.u16.pair (reads_algorithm.pair (reads_algorithm.pair
    (reads_algorithm.pair reads_algorithm)))
  have built := fields.map
    (fun parts => CryptoSuite.mk parts.1 parts.2.1 parts.2.2.1 parts.2.2.2.1 parts.2.2.2.2)
    (fun suite => (suite.version, suite.hash, suite.transportKem, suite.identitySignature,
      suite.proofSystem)) (fun _ _ => rfl) (fun _ _ => rfl)
  simp only [readPair, bind_assoc, pure_bind] at built
  refine built.congr ?_ (fun _ _ => rfl)
  intro suite
  simp only [and_self]

theorem reads_transfer : Reads readTransfer TransferLimits transferBytes := by
  have fields := (@reads_identifier .asset).pair ((@reads_identifiers .nullifier).pair
    ((@reads_identifiers .commitment).pair (Reads.u16.pair reads_bytes)))
  have built := fields.map
    (fun parts => Transfer.mk parts.1 parts.2.1 parts.2.2.1 ⟨parts.2.2.2.1, parts.2.2.2.2⟩)
    (fun transfer => (transfer.assetId, transfer.inputNullifiers, transfer.outputCommitments,
      transfer.proof.suiteVersion, transfer.proof.bytes)) (fun _ _ => rfl) (fun _ _ => rfl)
  simp only [readPair, bind_assoc, pure_bind] at built
  refine built.congr ?_ (fun _ _ => rfl)
  intro transfer
  constructor
  · rintro ⟨_, inputs, outputs, _, proof⟩
    exact ⟨inputs, outputs, proof⟩
  · rintro ⟨inputs, outputs, proof⟩
    exact ⟨trivial, inputs, outputs, trivial, proof⟩

theorem amount_new_eq_some {array amount} :
    Amount.new ⟨ofBigEndian array.toList, ofBigEndian_lt_amount array⟩ = some amount <->
      array.toList = bigEndian 16 amount.units := by
  have decoded : bigEndian 16 (ofBigEndian array.toList) = array.toList := by
    grind [bigEndian_ofBigEndian, Bytes.length_toList]
  unfold Amount.new
  constructor
  · grind
  · intro same
    have value : ofBigEndian array.toList = amount.units := by
      rw [same]
      exact ofBigEndian_bigEndian amount.bounded
    have positive : 0 < ofBigEndian array.toList := value ▸ amount.positive
    rw [dif_pos positive]
    exact congrArg some (Amount.ext value)

/-- An amount in any format that refuses zero. -/
theorem reads_amount_or {ε : Type} [ReaderErrors ε] (zero : ε) :
    Reads (readArray 16 >>= fun array =>
        (match Amount.new ⟨ofBigEndian array.toList, ofBigEndian_lt_amount array⟩ with
          | some amount => pure amount
          | none => throw zero : EStateM ε Reader Amount))
      (fun _ => True) (fun amount : Amount => bigEndian 16 amount.units) := by
  refine (Reads.array 16).decoded
    (fun amount : Amount => ⟨bigEndian 16 amount.units, length_bigEndian 16 _⟩)
    (fun _ => trivial) ?_
  intro array amount start final
  have meaning : array = ⟨bigEndian 16 amount.units, length_bigEndian 16 _⟩ <->
      Amount.new ⟨ofBigEndian array.toList, ofBigEndian_lt_amount array⟩ = some amount := by
    rw [amount_new_eq_some]
    exact ⟨fun same => congrArg Bytes.toList same, fun same => Bytes.toList_injective same⟩
  rw [meaning]
  cases Amount.new ⟨ofBigEndian array.toList, ofBigEndian_lt_amount array⟩ with
  | none =>
    constructor
    · intro impossible
      cases impossible
    · intro impossible
      cases impossible.1
  | some found =>
    constructor
    · intro returned
      cases returned
      exact ⟨rfl, rfl⟩
    · rintro ⟨same, rfl⟩
      rw [Option.some.inj same]
      rfl

theorem reads_amount : Reads readAmount (fun _ => True) (fun amount => bigEndian 16 amount.units) :=
  reads_amount_or CodecError.zeroMintAmount

theorem reads_mint : Reads readMint MintLimits mintBytes := by
  have fields := (@reads_identifier .asset).pair (reads_amount.pair
    ((@reads_identifiers .commitment).pair reads_bytes))
  have built := fields.map
    (fun parts => Mint.mk parts.1 parts.2.1 parts.2.2.1 parts.2.2.2)
    (fun mint => (mint.assetId, mint.amount, mint.outputCommitments, mint.authorization))
    (fun _ _ => rfl) (fun _ _ => rfl)
  simp only [readPair, bind_assoc, pure_bind] at built
  refine built.congr ?_ (fun _ _ => rfl)
  intro mint
  constructor
  · rintro ⟨_, _, outputs, authorization⟩
    exact ⟨outputs, authorization⟩
  · rintro ⟨outputs, authorization⟩
    exact ⟨trivial, trivial, outputs, authorization⟩

theorem reads_operation_after (tag : UInt8) :
    Reads (if tag = operationTransfer then
        readTransfer >>= fun transfer => pure (Operation.transfer transfer)
      else if tag = operationMint then readMint >>= fun mint => pure (Operation.mint mint)
      else throw (CodecError.unknownOperation tag))
      (fun operation => operationTag operation = tag /\ OperationLimits operation)
      operationBytes := by
  by_cases isTransfer : tag = operationTransfer
  · rw [if_pos isTransfer]
    refine reads_transfer.inject Operation.transfer ?_ (fun _ => rfl)
    intro operation
    cases operation with
    | transfer transfer => simp [isTransfer, operationTag, OperationLimits]
    | mint mint => simp [isTransfer, operationTag, operationTransfer_ne_operationMint.symm]
  · rw [if_neg isTransfer]
    by_cases isMint : tag = operationMint
    · rw [if_pos isMint]
      refine reads_mint.inject Operation.mint ?_ (fun _ => rfl)
      intro operation
      cases operation with
      | transfer transfer => simp [isMint, operationTag, operationTransfer_ne_operationMint]
      | mint mint => simp [isMint, operationTag, OperationLimits]
    · rw [if_neg isMint]
      refine (Reads.throw _ operationBytes).congr ?_ (fun _ _ => rfl)
      intro operation
      cases operation with
      | transfer transfer => simp [operationTag, Ne.symm isTransfer]
      | mint mint => simp [operationTag, Ne.symm isMint]

theorem reads_operation :
    Reads readOperation OperationLimits
      (fun operation => [operationTag operation] ++ operationBytes operation) := by
  refine (Reads.u8.bind operationTag (fun tag _ => reads_operation_after tag)
    (fun _ _ tagged => tagged.1)).congr ?_ (fun _ _ => rfl)
  simp

theorem reads_transaction :
    Reads readTransaction (fun transaction => OperationLimits transaction.operation)
      transactionBytes := by
  have fields := (@reads_identifier .transaction).pair (reads_suite.pair reads_operation)
  have built := fields.map (fun parts => Transaction.mk parts.1 parts.2.1 parts.2.2)
    (fun transaction => (transaction.id, transaction.suite, transaction.operation))
    (fun _ _ => rfl) (fun _ _ => rfl)
  simp only [readPair, bind_assoc, pure_bind] at built
  have framed := Reads.framed (by decide : transactionMagic.length = 4) transactionFormatVersion
    CodecError.invalidMagic CodecError.unsupportedFormatVersion built
  refine framed.congr ?_ (fun _ _ => rfl)
  intro transaction
  simp only [true_and]

/-! ## One representation -/

theorem length_identifiersBytes (values : List (Identifier kind)) :
    (identifiersBytes values).length = 4 + values.length * 32 := by
  rw [identifiersBytes, List.length_append, length_bigEndian, length_flatMap_identifiers]

theorem length_opaqueBytes (bytes : List UInt8) : (opaqueBytes bytes).length = 4 + bytes.length := by
  rw [opaqueBytes, List.length_append, length_bigEndian]

/-- A message is bounded by the limits of its parts. -/
theorem length_operationBytes_le (limits : OperationLimits operation) :
    45 + (operationBytes operation).length <= 2 ^ 25 := by
  have items : maxCollectionItems.toNat = 65536 := rfl
  have opaqueLimit : maxOpaqueBytes.toNat = 16777216 := rfl
  cases operation with
  | transfer transfer =>
    have inputs := limits.inputs
    have outputs := limits.outputs
    have proof := limits.proof
    simp only [operationBytes, transferBytes, writeU16, List.length_append, Bytes.length_toList,
      length_identifiersBytes, length_opaqueBytes, length_bigEndian]
    omega
  | mint mint =>
    have outputs := limits.outputs
    have authorization := limits.authorization
    simp only [operationBytes, mintBytes, List.length_append, Bytes.length_toList,
      length_identifiersBytes, length_opaqueBytes, length_bigEndian]
    omega

theorem length_transactionBytes (transaction : Transaction) :
    (transactionBytes transaction).length = 45 + (operationBytes transaction.operation).length := by
  simp only [transactionBytes, writeU16, writeSuite, List.length_append, Bytes.length_toList,
    length_bigEndian, List.length_singleton]
  have magic : transactionMagic.length = 4 := by decide
  omega

theorem length_transactionBytes_le (limits : OperationLimits transaction.operation) :
    (transactionBytes transaction).length <= 2 ^ 25 := by
  rw [length_transactionBytes]
  exact length_operationBytes_le limits

/-- A message is decoded to a transaction exactly when the transaction is
encoded to that message. -/
theorem decodeTransaction_eq_ok :
    decodeTransaction bytes = .ok transaction <-> encodeTransaction transaction = .ok bytes := by
  rw [encodeTransaction_eq_ok]
  unfold decodeTransaction
  rw [Except.bind_eq_ok]
  constructor
  · rintro ⟨found, parsed, checked⟩
    rcases Except.bind_eq_ok.mp checked with ⟨_, shaped, same⟩
    rw [← Except.ok.inj same]
    exact ⟨shaped, (reads_transaction.of_parse parsed).2⟩
  · rintro ⟨shaped, rfl⟩
    have limits := limits_of_shape shaped
    have bounded : (transactionBytes transaction).length < 2 ^ 64 :=
      Nat.lt_of_le_of_lt (length_transactionBytes_le limits) (by decide)
    refine ⟨transaction, reads_transaction.parse_encode limits bounded, ?_⟩
    exact Except.bind_eq_ok.mpr ⟨(), shaped, rfl⟩

end Noxis.Codec
