import Noxis.Codec.AssetFields
import Noxis.Ledger.Binding
import Noxis.RecordChain

namespace Noxis.Checkpoints

open Foundation Codec Ledger RecordChain

/-!
# Checkpoint files

A checkpoint holds the snapshot of a ledger at one record.  Two hashes detect
accidental damage, but anyone can make a file whose hashes are right.  Decoding
therefore reconstructs the ledger, computes its identifier and encodes the result
once more.  Encoding aborts when the limits of a snapshot are exceeded; after
decoding it never does, so no file makes the reader abort.
-/

def checkpointMagic : List UInt8 := utf8 "NXCP"

def checkpointFormatVersion : UInt16 := 1

def snapshotFormatVersion : UInt16 := 1

def maxSnapshotBytes : UInt32 := 128 * 1024 * 1024

def headerBytes : Nat := 180

def checkpointHashBytes : Nat := 32

def maxCheckpointBytes : Nat := headerBytes + maxSnapshotBytes.toNat + checkpointHashBytes

def maxSnapshotAssets : UInt32 := 4096

def maxSnapshotIdentifiers : UInt32 := UInt32.ofNat Merkle.maxCommitments

def maxTickerBytes : Nat := 16

def snapshotHashDomain : List UInt8 := utf8 "NOXIS/CHECKPOINT/V1/SNAPSHOT\x00"

def checkpointHashDomain : List UInt8 := utf8 "NOXIS/CHECKPOINT/V1\x00"

/-- Reasons a snapshot payload is refused. -/
inductive SnapshotError where
  | unexpectedEnd (offset : Nat)
  | trailingBytes (count : Nat)
  | collectionTooLarge (actual maximum : UInt32)
  | unknownAssetKind (tag : UInt8)
  | tickerTooLong (index actual : Nat)
  | invalidTickerEncoding (index : Nat)
  | invalidAsset (index : Nat) (source : AssetError)
  | zeroSupply
deriving DecidableEq

/-- Reasons a checkpoint is refused. -/
inductive CheckpointError where
  | invalidMagic
  | unsupportedFormatVersion (version : UInt16)
  | unsupportedSnapshotVersion (version : UInt16)
  | unexpectedEnd (offset : Nat)
  | trailingBytes (count : Nat)
  | lengthOverflow
  | snapshotTooLarge (actual : Nat) (maximum : UInt32)
  | collectionTooLarge (actual : Nat) (maximum : UInt32)
  | snapshotHashMismatch
  | checkpointHashMismatch
  | genesisCheckpointUnsupported
  | snapshotSequenceMismatch (sequence : UInt64) (acceptedTransactions : Nat)
  | invalidSnapshot (source : LedgerSnapshotError)
  | snapshot (source : SnapshotError)
  | stateIdMismatch (encoded computed : StateId)
  | anchorMismatch (checkpointGenesis configuredGenesis : GenesisId)
      (checkpointContext configuredContext : ValidationContextId)
  | nonCanonicalEncoding

instance : ReaderErrors CheckpointError where
  lengthOverflow := .lengthOverflow
  unexpectedEnd := .unexpectedEnd
  trailingBytes := .trailingBytes

inductive SnapshotReadError where
  | lengthOverflow
  | snapshot (source : SnapshotError)

def SnapshotReadError.toCheckpointError : SnapshotReadError -> CheckpointError
  | .lengthOverflow => .lengthOverflow
  | .snapshot source => .snapshot source

instance : ReaderErrors SnapshotReadError where
  lengthOverflow := .lengthOverflow
  unexpectedEnd := fun offset => .snapshot (.unexpectedEnd offset)
  trailingBytes := fun count => .snapshot (.trailingBytes count)

def encodeAssetKind : AssetKind -> UInt8
  | .nativeBacked => 1
  | .synthetic => 2

def decodeAssetKind (tag : UInt8) : Except SnapshotReadError AssetKind :=
  if tag = 1 then .ok .nativeBacked
  else if tag = 2 then .ok .synthetic
  else .error (.snapshot (.unknownAssetKind tag))

def ensureCount (actual : Nat) (maximum : UInt32) : Except CheckpointError Unit :=
  if maximum.toNat < actual then .error (.collectionTooLarge actual maximum) else .ok ()

def validateSnapshotBounds (snapshot : LedgerSnapshot) : Except CheckpointError Unit := do
  ensureCount snapshot.assets.length maxSnapshotAssets
  ensureCount snapshot.commitments.length maxSnapshotIdentifiers
  ensureCount snapshot.spentNullifiers.length maxSnapshotIdentifiers
  ensureCount snapshot.issuedSupply.length maxSnapshotAssets
  ensureCount snapshot.acceptedTransactions.length maxSnapshotIdentifiers

def writeCount (count : Nat) : Except CheckpointError (List UInt8) :=
  if count < 2 ^ 32 then .ok (bigEndian 4 count)
  else .error (.collectionTooLarge count (UInt32.ofNat (2 ^ 32 - 1)))

/-- The bytes of an asset; the length of its ticker is cast to one byte. -/
def assetBytes (asset : AssetDefinition) : List UInt8 :=
  asset.id.bytes.toList ++ ([encodeAssetKind asset.kind] ++
    ([UInt8.ofNat (utf8 asset.ticker).length] ++ utf8 asset.ticker))

def supplyBytes (entry : AssetId × Amount) : List UInt8 :=
  entry.1.bytes.toList ++ bigEndian 16 entry.2.units

def encodeSnapshot (snapshot : LedgerSnapshot) : Except CheckpointError (List UInt8) := do
  validateSnapshotBounds snapshot
  let assetCount ← writeCount snapshot.assets.length
  let commitmentCount ← writeCount snapshot.commitments.length
  let nullifierCount ← writeCount snapshot.spentNullifiers.length
  let supplyCount ← writeCount snapshot.issuedSupply.length
  let transactionCount ← writeCount snapshot.acceptedTransactions.length
  let bytes := [snapshot.treeDepth] ++ (assetCount ++ (snapshot.assets.flatMap assetBytes ++
    (commitmentCount ++ (snapshot.commitments.flatMap (fun id => id.bytes.toList) ++
      (nullifierCount ++ (snapshot.spentNullifiers.flatMap (fun id => id.bytes.toList) ++
        (supplyCount ++ (snapshot.issuedSupply.flatMap supplyBytes ++
          (transactionCount ++
            snapshot.acceptedTransactions.flatMap (fun id => id.bytes.toList))))))))))
  if maxSnapshotBytes.toNat < bytes.length then
    .error (.snapshotTooLarge bytes.length maxSnapshotBytes)
  else
    .ok bytes

def readCount (maximum : UInt32) : EStateM SnapshotReadError Reader UInt32 := do
  let count ← readU32
  if maximum < count then throw (.snapshot (.collectionTooLarge count maximum))
  else return count

def readAsset (index : Nat) : EStateM SnapshotReadError Reader AssetDefinition := do
  let id ← readArray 32
  let tag ← readU8
  let kind ← check (decodeAssetKind tag)
  let tickerLength ← readU8
  if maxTickerBytes < tickerLength.toNat then
    throw (.snapshot (.tickerTooLong index tickerLength.toNat))
  else
    readTicker (.snapshot (.invalidTickerEncoding index))
      (fun source => .snapshot (.invalidAsset index source)) ⟨id⟩ kind tickerLength.toNat

def readIdentifiers (kind : IdentifierKind) :
    EStateM SnapshotReadError Reader (List (Identifier kind)) := do
  let count ← readCount maxSnapshotIdentifiers
  readMany (do let bytes ← readArray 32; return ⟨bytes⟩) count.toNat

def readSupply : EStateM SnapshotReadError Reader (AssetId × Amount) := do
  let assetId ← readArray 32
  let array ← readArray 16
  match Amount.new ⟨ofBigEndian array.toList, ofBigEndian_lt_amount array⟩ with
  | some amount => return (⟨assetId⟩, amount)
  | none => throw (.snapshot .zeroSupply)

/-- The parts of a snapshot before they are compared with each other. -/
def readSnapshot : EStateM SnapshotReadError Reader LedgerSnapshot := do
  let treeDepth ← readU8
  let assetCount ← readCount maxSnapshotAssets
  let assets ← readIndexed readAsset 0 assetCount.toNat
  let commitments ← readIdentifiers .commitment
  let spentNullifiers ← readIdentifiers .nullifier
  let supplyCount ← readCount maxSnapshotAssets
  let issuedSupply ← readMany readSupply supplyCount.toNat
  let acceptedTransactions ← readIdentifiers .transaction
  return ⟨treeDepth, assets, commitments, spentNullifiers, issuedSupply, acceptedTransactions⟩

def decodeSnapshot (bytes : List UInt8) : Except CheckpointError LedgerSnapshot := do
  let parts ← (parse readSnapshot bytes).mapError SnapshotReadError.toCheckpointError
  (LedgerSnapshot.fromCanonicalParts parts.treeDepth parts.assets parts.commitments
    parts.spentNullifiers parts.issuedSupply parts.acceptedTransactions).mapError .invalidSnapshot

section
variable [Sha256]

def hashSnapshot (bytes : List UInt8) : Bytes 32 := Sha256.digest (snapshotHashDomain ++ bytes)

def hashCheckpoint (bytes : List UInt8) : Bytes 32 := Sha256.digest (checkpointHashDomain ++ bytes)

/-! ## Checkpoints -/

/-- A complete state at one record.  Its snapshot can be reconstructed and leads
to the identifier that the checkpoint names. -/
structure Checkpoint where
  genesisId : GenesisId
  validationContextId : ValidationContextId
  sequence : UInt64
  stateId : StateId
  terminalRecordHash : RecordHash
  snapshot : LedgerSnapshot
  restorable : ∃ state, LedgerState.fromSnapshot snapshot = .ok state /\
    state.stateId genesisId = .ok stateId
deriving DecidableEq

/-- Everything in front of the hash of a checkpoint. -/
def bodyBytes (genesisId : GenesisId) (validationContextId : ValidationContextId)
    (sequence : UInt64) (stateId : StateId) (terminalRecordHash : RecordHash)
    (snapshotBytes : List UInt8) : List UInt8 :=
  checkpointMagic ++ (writeU16 checkpointFormatVersion ++ (writeU16 snapshotFormatVersion ++
    (genesisId.bytes.toList ++ (validationContextId.bytes.toList ++ (writeU64 sequence ++
      (stateId.bytes.toList ++ (terminalRecordHash.bytes.toList ++
        (writeU32 (UInt32.ofNat snapshotBytes.length) ++ ((hashSnapshot snapshotBytes).toList ++
          snapshotBytes)))))))))

namespace Checkpoint

/-- The one representation of a checkpoint. -/
def encode (checkpoint : Checkpoint) : Except Panic (List UInt8) := do
  let snapshotBytes ← (encodeSnapshot checkpoint.snapshot).mapError
    (fun _ => ⟨"checkpoint construction validates all snapshot limits"⟩)
  let body := bodyBytes checkpoint.genesisId checkpoint.validationContextId checkpoint.sequence
    checkpoint.stateId checkpoint.terminalRecordHash snapshotBytes
  return body ++ (hashCheckpoint body).toList

end Checkpoint

/-- The fields of a checkpoint around the bytes of its snapshot. -/
structure CheckpointFields where
  genesisId : GenesisId
  validationContextId : ValidationContextId
  sequence : UInt64
  stateId : StateId
  terminalRecordHash : RecordHash
  snapshotBytes : List UInt8

def readCheckpointFields : EStateM CheckpointError Reader CheckpointFields := do
  let magic ← readArray 4
  if magic.toList ≠ checkpointMagic then
    throw .invalidMagic
  else
    let formatVersion ← readU16
    if formatVersion ≠ checkpointFormatVersion then
      throw (.unsupportedFormatVersion formatVersion)
    else
      let snapshotVersion ← readU16
      if snapshotVersion ≠ snapshotFormatVersion then
        throw (.unsupportedSnapshotVersion snapshotVersion)
      else
        let genesisId ← readArray 32
        let validationContextId ← readArray 32
        let sequence ← readU64
        if sequence = 0 then
          throw .genesisCheckpointUnsupported
        else
          let stateId ← readArray 32
          let terminalRecordHash ← readArray 32
          let snapshotLength ← readU32
          if maxSnapshotBytes < snapshotLength then
            throw (.snapshotTooLarge snapshotLength.toNat maxSnapshotBytes)
          else
            let encodedSnapshotHash ← readArray 32
            let snapshotBytes ← readExact snapshotLength.toNat
            if encodedSnapshotHash ≠ hashSnapshot snapshotBytes then
              throw .snapshotHashMismatch
            else
              return ⟨⟨genesisId⟩, ⟨validationContextId⟩, sequence, ⟨stateId⟩,
                ⟨terminalRecordHash⟩, snapshotBytes⟩

namespace Checkpoint

/-- Capture a ledger after its last record. -/
def fromSnapshot (anchor : ChainAnchor) (sequence : UInt64) (terminalRecordHash : RecordHash)
    (snapshot : LedgerSnapshot) : Except (Fault CheckpointError) Checkpoint :=
  if sequence = 0 then
    .error (.error .genesisCheckpointUnsupported)
  else if snapshot.acceptedTransactions.length ≠ sequence.toNat then
    .error (.error (.snapshotSequenceMismatch sequence snapshot.acceptedTransactions.length))
  else do
    (validateSnapshotBounds snapshot).mapError .error
    match restored : LedgerState.fromSnapshot snapshot with
    | .error source => .error (.error (.invalidSnapshot source))
    | .ok state =>
      match identified : state.stateId anchor.genesisId with
      | .error cause => .error (.panic cause)
      | .ok stateId =>
        .ok ⟨anchor.genesisId, anchor.validationContextId, sequence, stateId, terminalRecordHash,
          snapshot, state, restored, identified⟩

/-- Reconstruct the ledger of a decoded snapshot and compare its identifier. -/
def ofFields (fields : CheckpointFields) (snapshot : LedgerSnapshot) :
    Except (Fault CheckpointError) Checkpoint :=
  match restored : LedgerState.fromSnapshot snapshot with
  | .error source => .error (.error (.invalidSnapshot source))
  | .ok state =>
    match identified : state.stateId fields.genesisId with
    | .error cause => .error (.panic cause)
    | .ok computed =>
      if same : computed = fields.stateId then
        .ok ⟨fields.genesisId, fields.validationContextId, fields.sequence, fields.stateId,
          fields.terminalRecordHash, snapshot, state, restored, same ▸ identified⟩
      else
        .error (.error (.stateIdMismatch fields.stateId computed))

/-- Decode a checkpoint and reconstruct its ledger. -/
def decode (bytes : List UInt8) : Except (Fault CheckpointError) Checkpoint :=
  if bytes.length < headerBytes + checkpointHashBytes then
    .error (.error (.unexpectedEnd bytes.length))
  else
    let withoutHash := bytes.take (bytes.length - checkpointHashBytes)
    let encodedHash := bytes.drop (bytes.length - checkpointHashBytes)
    if encodedHash ≠ (hashCheckpoint withoutHash).toList then
      .error (.error .checkpointHashMismatch)
    else do
      let fields ← (parse readCheckpointFields withoutHash).mapError .error
      let snapshot ← (decodeSnapshot fields.snapshotBytes).mapError .error
      if snapshot.acceptedTransactions.length ≠ fields.sequence.toNat then
        .error (.error (.snapshotSequenceMismatch fields.sequence
          snapshot.acceptedTransactions.length))
      else
        let checkpoint ← ofFields fields snapshot
        let encoded ← checkpoint.encode.mapError .panic
        if encoded ≠ bytes then .error (.error .nonCanonicalEncoding) else .ok checkpoint

/-- Restore the ledger after the checks of the deployment and of its identifier. -/
def restoreState (checkpoint : Checkpoint) (anchor : ChainAnchor) :
    Except (Fault CheckpointError) LedgerState :=
  if checkpoint.genesisId ≠ anchor.genesisId ∨
      checkpoint.validationContextId ≠ anchor.validationContextId then
    .error (.error (.anchorMismatch checkpoint.genesisId anchor.genesisId
      checkpoint.validationContextId anchor.validationContextId))
  else do
    let state ← (LedgerState.fromSnapshot checkpoint.snapshot).mapError
      (fun source => .error (.invalidSnapshot source))
    let computed ← (state.stateId anchor.genesisId).mapError .panic
    if computed ≠ checkpoint.stateId then
      .error (.error (.stateIdMismatch checkpoint.stateId computed))
    else
      .ok state

end Checkpoint
end
end Noxis.Checkpoints
