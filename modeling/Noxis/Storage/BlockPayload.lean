import Noxis.Consensus.Engine
import Noxis.Consensus.HeaderCodec
import Noxis.Foundation.FrameLog

namespace Noxis.Storage

open Foundation Codec RecordChain Consensus

/-!
# Stored blocks and their payloads

A stored block is a header, its records, the engine's decision and the
application hash.  Its payload is checked field by field when it is written
and again when it is read: the header and every record must be canonical, the
records must follow each other from the state before the block to the state
after it, and the header must commit to them.  Each accepted payload is the
payload of exactly one block.
-/

def blockPayloadMagic : List UInt8 := utf8 "NXBP"

def blockPayloadVersion : UInt16 := 2

def blockHeaderMaximumLength : UInt32 := 4 * 1024

def recordEnvelopeOverhead : UInt32 := 4 + 2 + 8 + 32 + 4 + 32 + 32 + 32

def maxEncodedRecordLength : UInt32 := maxRecordTransactionBytes + recordEnvelopeOverhead

def cometDecisionEncodedBytes : Nat := 32 + 8 + 32 + 32

def blockPayloadFixedBytes : Nat := 4 + 2 + 4 + 32 + cometDecisionEncodedBytes + 4

/-- Largest accepted payload. -/
def maxBlockFramePayloadLength : UInt32 :=
  64 * 1024 * 1024 + UInt32.ofNat maxBlockRecords * (recordEnvelopeOverhead + 4) +
    UInt32.ofNat blockPayloadFixedBytes + blockHeaderMaximumLength

mutual

/-- Reasons a payload is invalid inside an intact frame. -/
inductive PayloadError where
  | invalidPayloadMagic
  | unsupportedPayloadVersion (version : UInt16)
  | headerTooLarge (actual maximum : UInt32)
  | tooManyRecords (actual maximum : Nat)
  | recordTooLarge (index : Nat) (actual maximum : UInt32)
  | unexpectedEnd (offset : Nat)
  | lengthOverflow
  | trailingBytes (count : Nat)
  | consensus (source : ConsensusError)
  | engineIdentity (source : EngineIdentityError)
  | nonCanonicalHeader
  | record (index : Nat) (source : RecordError)
  | nonCanonicalRecord (index : Nat)
  | block (source : BlockJournalError)

/-- Reasons a block journal cannot be opened or written. -/
inductive BlockJournalError where
  | io (operation : String)
  | invalidMagic (offset : Nat)
  | unsupportedFrameVersion (offset : Nat) (version : UInt16)
  | frameTooLarge (offset : Nat) (actual maximum : UInt32)
  | truncatedFrame (offset : Nat) (cut : FrameSection)
  | checksumMismatch (offset : Nat) (expected actual : UInt32)
  | payload (offset : Nat) (source : PayloadError)
  | consensus (source : ConsensusError)
  | recordCountMismatch (header : UInt32) (payload : Nat)
  | firstRecordSequenceMismatch (header record : UInt64)
  | recordSequenceMismatch (recordIndex : Nat) (expected actual : UInt64)
  | recordSequenceOverflow
  | previousStateMismatch (recordIndex : Nat) (expected actual : StateId)
  | resultingStateMismatch (expected actual : StateId)
  | emptyBlockStateMismatch (previous resulting : StateId)
  | payloadLengthOverflow
  | recoveryTailChanged

end

instance : ReaderErrors PayloadError where
  lengthOverflow := .lengthOverflow
  unexpectedEnd := .unexpectedEnd
  trailingBytes := .trailingBytes

/-- Each record has the next sequence number and starts where the one before
ended; the first pair has the given index. -/
def validateLinks : Nat -> List TransactionRecord -> Except BlockJournalError Unit
  | index, previous :: current :: rest =>
    match checkedAdd previous.sequence 1 with
    | none => .error .recordSequenceOverflow
    | some expectedSequence =>
      if current.sequence ≠ expectedSequence then
        .error (.recordSequenceMismatch (index + 1) expectedSequence current.sequence)
      else if current.previousStateId ≠ previous.resultingStateId then
        .error (.previousStateMismatch (index + 1) previous.resultingStateId
          current.previousStateId)
      else
        validateLinks (index + 1) (current :: rest)
  | _, _ => .ok ()

/-- One record comes directly after another. -/
structure Follows (previous current : TransactionRecord) : Prop where
  sequence : current.sequence.toNat = previous.sequence.toNat + 1
  state : current.previousStateId = previous.resultingStateId

theorem validateLinks_eq_ok {index : Nat} {records} :
    validateLinks index records = .ok () <-> records.IsChain Follows := by
  induction records generalizing index with
  | nil => exact iff_of_true rfl List.isChain_nil
  | cons previous rest ih =>
    cases rest with
    | nil => exact iff_of_true rfl (List.isChain_singleton previous)
    | cons current rest =>
      rw [List.isChain_cons_cons, validateLinks]
      cases isExpected : checkedAdd previous.sequence 1 with
      | none =>
        refine iff_of_false nofun ?_
        rintro ⟨follows, _⟩
        rw [checkedAdd_eq_some.mpr follows.sequence] at isExpected
        cases isExpected
      | some expectedSequence =>
        have isNext := checkedAdd_eq_some.mp isExpected
        simp only [Except.refuse_eq_ok, not_not, ih]
        constructor
        · rintro ⟨rfl, sameState, linked⟩
          exact ⟨⟨isNext, sameState⟩, linked⟩
        · rintro ⟨follows, linked⟩
          exact ⟨UInt64.toNat_inj.mp (follows.sequence.trans isNext.symm), follows.state, linked⟩

section
variable [Sha256]

def validateBlock (header : BlockHeader) (records : List TransactionRecord) :
    Except BlockJournalError Unit :=
  if records.length ≠ header.input.recordCount.toNat then
    .error (.recordCountMismatch header.input.recordCount records.length)
  else do
    (header.validateRecordHashes (records.map TransactionRecord.recordHash)).mapError .consensus
    match records with
    | first :: rest =>
      if first.sequence ≠ header.input.firstRecordSequence then
        .error (.firstRecordSequenceMismatch header.input.firstRecordSequence first.sequence)
      else if first.previousStateId ≠ header.input.previousStateId then
        .error (.previousStateMismatch 0 header.input.previousStateId first.previousStateId)
      else
        validateLinks 0 (first :: rest)
        let last := (first :: rest).getLast (List.cons_ne_nil first rest)
        if last.resultingStateId ≠ header.input.resultingStateId then
          .error (.resultingStateMismatch header.input.resultingStateId last.resultingStateId)
        else
          .ok ()
    | [] =>
      if header.input.previousStateId ≠ header.input.resultingStateId then
        .error (.emptyBlockStateMismatch header.input.previousStateId
          header.input.resultingStateId)
      else
        .ok ()

/-- What the check of a block establishes: the records lead from the state
before the block to the state after it, and the header commits to them. -/
structure BlockShape (header : BlockHeader) (records : List TransactionRecord) : Prop where
  count : records.length = header.input.recordCount.toNat
  committed : header.validateRecordHashes (records.map TransactionRecord.recordHash) = .ok ()
  first : forall record, records.head? = some record ->
    record.sequence = header.input.firstRecordSequence /\
      record.previousStateId = header.input.previousStateId
  linked : records.IsChain Follows
  last : (records.getLast?.map TransactionRecord.resultingStateId).getD
    header.input.previousStateId = header.input.resultingStateId

variable {header : BlockHeader} {records : List TransactionRecord}

theorem validateBlock_eq_ok :
    validateBlock header records = .ok () <-> BlockShape header records := by
  unfold validateBlock
  simp only [Except.refuse_eq_ok, Except.bind_eq_ok, Except.mapError_eq_ok, not_not]
  cases records with
  | nil =>
    simp only [Except.refuse_eq_ok, not_not, and_true]
    constructor
    · rintro ⟨count, _, committed, sameState⟩
      exact ⟨count, committed, nofun, List.isChain_nil, sameState⟩
    · intro shape
      exact ⟨shape.count, (), shape.committed, shape.last⟩
  | cons first rest =>
    have isLast : (first :: rest).getLast? =
        some ((first :: rest).getLast (List.cons_ne_nil first rest)) :=
      List.getLast?_eq_some_getLast _
    simp only [Except.refuse_eq_ok, Except.bind_eq_ok, not_not, and_true]
    constructor
    · rintro ⟨count, _, committed, sequence, state, _, links, sameState⟩
      refine ⟨count, committed, ?_, validateLinks_eq_ok.mp links, ?_⟩
      · intro record isFirst
        cases isFirst
        exact ⟨sequence, state⟩
      · rw [isLast]
        exact sameState
    · intro shape
      have firstFacts := shape.first first rfl
      have sameState := shape.last
      rw [isLast] at sameState
      exact ⟨shape.count, (), shape.committed, firstFacts.1, firstFacts.2, (),
        validateLinks_eq_ok.mpr shape.linked, sameState⟩

/-- One complete block at a byte offset. -/
structure StoredBlock where
  offset : Nat
  header : BlockHeader
  appHash : AppHash
  cometDecision : CometBftDecision
  records : List TransactionRecord

namespace StoredBlock

/-- A block for an append, which assigns the offset. -/
def new (header : BlockHeader) (appHash : AppHash) (cometDecision : CometBftDecision)
    (records : List TransactionRecord) : Except BlockJournalError StoredBlock := do
  validateBlock header records
  return ⟨0, header, appHash, cometDecision, records⟩

end StoredBlock

/-- Add lengths in 64 bits. -/
def addLengths (left right : Nat) : Except BlockJournalError Nat :=
  if 2 ^ 64 <= left + right then .error .payloadLengthOverflow else .ok (left + right)

def addRecordLength (total : Nat) (record : TransactionRecord) : Except BlockJournalError Nat := do
  let value ← addLengths total 4
  addLengths value record.encode.length

def encodeRecord (record : TransactionRecord) : List UInt8 :=
  writeU32 (UInt32.ofNat record.encode.length) ++ record.encode

def payloadBytes (header : BlockHeader) (appHash : AppHash) (cometDecision : CometBftDecision)
    (records : List TransactionRecord) : List UInt8 :=
  blockPayloadMagic ++ (writeU16 blockPayloadVersion ++
    (writeU32 (UInt32.ofNat (encodeBlockHeader header).length) ++ (encodeBlockHeader header ++
      (appHash.bytes.toList ++ (cometDecision.networkId.toList ++
        (bigEndian 8 cometDecision.height.toNat ++ (cometDecision.blockHash.toList ++
          (cometDecision.nextValidatorsHash.toList ++
            (writeU32 (UInt32.ofNat records.length) ++ records.flatMap encodeRecord)))))))))

def encodePayload (header : BlockHeader) (appHash : AppHash) (cometDecision : CometBftDecision)
    (records : List TransactionRecord) : Except BlockJournalError (List UInt8) := do
  validateBlock header records
  let totalRecordBytes ← records.foldlM addRecordLength 0
  let withHeader ← addLengths blockPayloadFixedBytes (encodeBlockHeader header).length
  let _capacity ← addLengths withHeader totalRecordBytes
  let bytes := payloadBytes header appHash cometDecision records
  if maxBlockFramePayloadLength.toNat < bytes.length then
    .error (.frameTooLarge 0
      (if bytes.length < 2 ^ 32 then UInt32.ofNat bytes.length else UInt32.ofNat (2 ^ 32 - 1))
      maxBlockFramePayloadLength)
  else
    .ok bytes

/-- The fields of a payload before they are checked against each other. -/
structure PayloadFields where
  header : BlockHeader
  appHash : AppHash
  networkId : Bytes 32
  decisionHeight : Int64
  blockHash : Bytes 32
  nextValidatorsHash : Bytes 32
  records : List TransactionRecord

def readHeader : EStateM PayloadError Reader BlockHeader := do
  let headerLength ← readU32
  if blockHeaderMaximumLength < headerLength then
    throw (.headerTooLarge headerLength blockHeaderMaximumLength)
  else
    let headerBytes ← readExact headerLength.toNat
    let header ← check ((decodeBlockHeader headerBytes).mapError .consensus)
    if encodeBlockHeader header ≠ headerBytes then
      throw .nonCanonicalHeader
    else
      return header

def readRecord (index : Nat) : EStateM PayloadError Reader TransactionRecord := do
  let recordLength ← readU32
  if maxEncodedRecordLength < recordLength then
    throw (.recordTooLarge index recordLength maxEncodedRecordLength)
  else
    let recordBytes ← readExact recordLength.toNat
    let record ← check ((TransactionRecord.decode recordBytes).mapError (.record index))
    if record.encode ≠ recordBytes then
      throw (.nonCanonicalRecord index)
    else
      return record

def readRecords : EStateM PayloadError Reader (List TransactionRecord) := do
  let recordCount ← readU32
  if maxBlockRecords < recordCount.toNat then
    throw (.tooManyRecords recordCount.toNat maxBlockRecords)
  else
    readIndexed readRecord 0 recordCount.toNat

def readPayloadFields : EStateM PayloadError Reader PayloadFields := do
  let magic ← readArray 4
  if magic.toList ≠ blockPayloadMagic then
    throw .invalidPayloadMagic
  else
    let version ← readU16
    if version ≠ blockPayloadVersion then
      throw (.unsupportedPayloadVersion version)
    else
      let header ← readHeader
      let appHash ← readArray 32
      let networkId ← readArray 32
      let decisionHeight ← readI64
      let blockHash ← readArray 32
      let nextValidatorsHash ← readArray 32
      let records ← readRecords
      return ⟨header, ⟨appHash⟩, networkId, decisionHeight, blockHash, nextValidatorsHash, records⟩

def decodePayload (bytes : List UInt8) : Except PayloadError StoredBlock := do
  let fields ← parse readPayloadFields bytes
  (validateBlock fields.header fields.records).mapError .block
  let cometDecision ← (CometBftDecision.fromPersisted fields.networkId fields.decisionHeight.toInt
    fields.decisionHeight.toInt_lt fields.blockHash fields.nextValidatorsHash).mapError
      .engineIdentity
  return ⟨0, fields.header, fields.appHash, cometDecision, fields.records⟩

/-! ## The format is exact -/

theorem reads_readHeader :
    Reads readHeader (fun _ => True)
      (fun header => bigEndian 4 (encodeBlockHeader header).length ++ encodeBlockHeader header) := by
  have decodes : forall bytes header, decodeBlockHeader bytes = .ok header <->
      bytes = encodeBlockHeader header /\ True := by
    intro bytes header
    rw [decodeBlockHeader_eq_ok, and_true]
  refine (Reads.canonical decodes blockHeaderMaximumLength
    (fun length => PayloadError.headerTooLarge length blockHeaderMaximumLength) .consensus
    .nonCanonicalHeader).congr ?_ (fun _ _ => rfl)
  intro header
  have sized : (encodeBlockHeader header).length = 297 := length_encodeHeaderInput header.input
  refine iff_of_true ⟨?_, trivial⟩ trivial
  rw [sized]
  decide

omit [Sha256] in
theorem length_encode (record : TransactionRecord) :
    record.encode.length = recordEnvelopeOverhead.toNat + record.transactionBytes.length := by
  have magic : recordMagic.length = 4 := by decide
  have overhead : recordEnvelopeOverhead.toNat = 146 := rfl
  simp only [TransactionRecord.encode, writeU16, writeU32, writeU64, List.length_append,
    Bytes.length_toList, length_bigEndian, magic, overhead]
  omega

theorem length_encode_le {record : TransactionRecord} (made : record.Made) :
    record.encode.length <= maxEncodedRecordLength.toNat := by
  have bounded := made.length_le
  have total : maxEncodedRecordLength.toNat =
      recordEnvelopeOverhead.toNat + maxRecordTransactionBytes.toNat := by decide
  rw [length_encode, total]
  exact Nat.add_le_add_left bounded _

theorem reads_readRecord (index : Nat) :
    Reads (readRecord index) TransactionRecord.Made encodeRecord := by
  refine (Reads.canonical (fun _ _ => TransactionRecord.decode_eq_ok) maxEncodedRecordLength
    (fun length => PayloadError.recordTooLarge index length maxEncodedRecordLength)
    (.record index) (.nonCanonicalRecord index)).congr ?_ ?_
  · intro record
    exact ⟨fun both => both.2, fun made => ⟨length_encode_le made, made⟩⟩
  · intro record made
    rw [encodeRecord, writeU32, Reads.toNat_ofNat_of_le (length_encode_le made)]

theorem reads_readRecords :
    Reads readRecords
      (fun records => records.length <= maxBlockRecords /\
        forall record, record ∈ records -> record.Made)
      (fun records => writeU32 (UInt32.ofNat records.length) ++ records.flatMap encodeRecord) := by
  have checked (count : UInt32) (_ : True) := Reads.guarded
    (PayloadError.tooManyRecords count.toNat maxBlockRecords)
    (fun _ : ¬maxBlockRecords < count.toNat => Reads.indexed reads_readRecord 0 count.toNat)
  refine (Reads.u32.bind (fun records => UInt32.ofNat records.length) checked ?_).congr ?_
    (fun _ _ => rfl)
  · intro count records found
    rw [found.2.1, UInt32.ofNat_toNat]
  · intro records
    have small : maxBlockRecords < 2 ^ 32 := by decide
    constructor
    · intro found
      rcases found with ⟨_, bounded, counted, made⟩
      rw [counted]
      exact ⟨Nat.not_lt.mp bounded, made⟩
    · intro found
      have exactCount : (UInt32.ofNat records.length).toNat = records.length :=
        UInt32.toNat_ofNat_of_lt' (Nat.lt_of_le_of_lt found.1 small)
      rw [exactCount]
      exact ⟨trivial, Nat.not_lt.mpr found.1, rfl, found.2⟩

def encodeFields (fields : PayloadFields) : List UInt8 :=
  blockPayloadMagic ++ (writeU16 blockPayloadVersion ++
    ((bigEndian 4 (encodeBlockHeader fields.header).length ++ encodeBlockHeader fields.header) ++
      (fields.appHash.bytes.toList ++ (fields.networkId.toList ++
        (bigEndian 8 fields.decisionHeight.toUInt64.toNat ++ (fields.blockHash.toList ++
          (fields.nextValidatorsHash.toList ++
            (writeU32 (UInt32.ofNat fields.records.length) ++
              fields.records.flatMap encodeRecord))))))))

theorem reads_readPayloadFields :
    Reads readPayloadFields
      (fun fields => fields.records.length <= maxBlockRecords /\
        forall record, record ∈ fields.records -> record.Made) encodeFields := by
  have array := @Reads.array PayloadError _ 32
  have fields := reads_readHeader.pair (array.pair (array.pair (Reads.i64.pair (array.pair
    (array.pair reads_readRecords)))))
  have built := fields.map
    (fun (header, appHash, networkId, decisionHeight, blockHash, nextValidatorsHash, records) =>
      PayloadFields.mk header ⟨appHash⟩ networkId decisionHeight blockHash nextValidatorsHash records)
    (fun fields => (fields.header, fields.appHash.bytes, fields.networkId, fields.decisionHeight,
      fields.blockHash, fields.nextValidatorsHash, fields.records))
    (fun _ _ => rfl) (fun _ _ => rfl)
  simp only [readPair, bind_assoc, pure_bind] at built
  have framed := Reads.framed (by decide : blockPayloadMagic.length = 4) blockPayloadVersion
    PayloadError.invalidPayloadMagic PayloadError.unsupportedPayloadVersion built
  refine framed.congr ?_ (fun _ _ => rfl)
  intro fields
  simp only [true_and]

def StoredBlock.payload (block : StoredBlock) : List UInt8 :=
  payloadBytes block.header block.appHash block.cometDecision block.records

/-- What every block in a journal satisfies. -/
structure Storable (block : StoredBlock) : Prop where
  shape : BlockShape block.header block.records
  made : forall record, record ∈ block.records -> record.Made
  network : block.cometDecision.networkId ≠ .replicate 32 0

omit [Sha256] in
theorem toNat_toUInt64 {value : Int64} (positive : 0 < value.toInt) :
    value.toUInt64.toNat = value.toInt.toNat := by
  have signed := BitVec.toInt_eq_toNat_cond value.toBitVec
  have bounded := value.toBitVec.isLt
  change value.toInt = _ at signed
  change value.toBitVec.toNat = _
  split at signed <;> omega

def StoredBlock.fields (block : StoredBlock) : PayloadFields :=
  ⟨block.header, block.appHash, block.cometDecision.networkId,
    Int64.ofInt block.cometDecision.height, block.cometDecision.blockHash,
    block.cometDecision.nextValidatorsHash, block.records⟩

theorem toInt_decisionHeight (block : StoredBlock) :
    block.fields.decisionHeight.toInt = block.cometDecision.height := by
  have high := block.cometDecision.high
  exact Int64.toInt_ofInt_of_le (by omega) block.cometDecision.representable

theorem encodeFields_fields (block : StoredBlock) : encodeFields block.fields = block.payload := by
  have small : (encodeBlockHeader block.header).length <= blockHeaderMaximumLength.toNat := by
    rw [show (encodeBlockHeader block.header).length = 297 from
      length_encodeHeaderInput block.header.input]
    decide
  have written : writeU32 (UInt32.ofNat (encodeBlockHeader block.header).length) =
      bigEndian 4 (encodeBlockHeader block.header).length := by
    rw [writeU32, Reads.toNat_ofNat_of_le small]
  have height := toInt_decisionHeight block
  have sameHeight : block.fields.decisionHeight.toUInt64.toNat = block.cometDecision.height.toNat := by
    rw [toNat_toUInt64 (height ▸ block.cometDecision.high), height]
  unfold encodeFields StoredBlock.payload payloadBytes
  rw [sameHeight, written, List.append_assoc]
  rfl

theorem BlockShape.length_le (shape : BlockShape header records) :
    records.length <= maxBlockRecords := by
  rw [shape.count]
  exact (validateHeaderInput_eq_ok.mp header.valid).bounded

/-- A payload is as long as its records require. -/
theorem length_payload (block : StoredBlock) :
    block.payload.length = 447 +
      (block.records.map (fun record => 150 + record.transactionBytes.length)).sum := by
  have magic : blockPayloadMagic.length = 4 := by decide
  have header : (encodeBlockHeader block.header).length = 297 :=
    length_encodeHeaderInput block.header.input
  have each : forall record, (encodeRecord record).length =
      150 + record.transactionBytes.length := by
    intro record
    rw [encodeRecord, writeU32, List.length_append, length_bigEndian, length_encode,
      show recordEnvelopeOverhead.toNat = 146 from rfl, ← Nat.add_assoc]
  simp only [StoredBlock.payload, payloadBytes, writeU16, writeU32, List.length_append,
    Bytes.length_toList, length_bigEndian, magic, header, List.length_flatMap, each]
  omega

variable {block : StoredBlock}

theorem length_payload_lt (storable : Storable block) : block.payload.length < 2 ^ 64 := by
  have counted := storable.shape.length_le
  have each : forall length, length ∈ block.records.map (fun record =>
      150 + record.transactionBytes.length) -> length <= 150 + 2 ^ 25 := by
    intro length member
    rcases List.mem_map.mp member with ⟨record, listed, rfl⟩
    exact Nat.add_le_add_left (storable.made record listed).length_le _
  have total := List.sum_le_card_nsmul _ _ each
  rw [List.length_map, Nat.nsmul_eq_mul] at total
  have most : block.records.length * (150 + 2 ^ 25) <= 1000000 * (150 + 2 ^ 25) :=
    Nat.mul_le_mul_right _ counted
  rw [length_payload]
  omega

variable {bytes : List UInt8}

/-- Decoding accepts exactly the payloads of storable blocks. -/
theorem decodePayload_eq_ok :
    decodePayload bytes = .ok block <->
      bytes = block.payload /\ Storable block /\ block.offset = 0 := by
  unfold decodePayload
  simp only [Except.bind_eq_ok, Except.mapError_eq_ok, CometBftDecision.fromPersisted_eq_ok]
  constructor
  · rintro ⟨fields, parsed, _, validated, decision, ⟨network, sameNetwork, height, sameHash, sameNext⟩,
      returned⟩
    rcases reads_readPayloadFields.of_parse parsed with ⟨⟨_, made⟩, isEncoded⟩
    cases returned
    refine ⟨?_, ⟨validateBlock_eq_ok.mp validated, made, sameNetwork ▸ network⟩, rfl⟩
    rw [isEncoded, ← encodeFields_fields]
    congr 1
    simp only [StoredBlock.fields, sameNetwork, height, sameHash, sameNext, Int64.ofInt_toInt]
  · rintro ⟨rfl, storable, isZero⟩
    have bounded : (encodeFields block.fields).length < 2 ^ 64 := by
      rw [encodeFields_fields]
      exact length_payload_lt storable
    have parsed := reads_readPayloadFields.parse_encode
      ⟨storable.shape.length_le, storable.made⟩ bounded
    rw [encodeFields_fields] at parsed
    refine ⟨block.fields, parsed, (), validateBlock_eq_ok.mpr storable.shape, block.cometDecision,
      ⟨storable.network, rfl, (toInt_decisionHeight block).symm, rfl, rfl⟩, ?_⟩
    rw [← isZero]
    rfl

variable {left right : StoredBlock}

/-- No payload starts with another. -/
theorem payload_eq_of_initial (leftStorable : Storable left) (rightStorable : Storable right)
    (starts : left.payload <+: right.payload) : left.payload = right.payload := by
  rw [← encodeFields_fields, ← encodeFields_fields] at starts
  have bounded : (encodeFields right.fields).length < 2 ^ 64 := by
    rw [encodeFields_fields]
    exact length_payload_lt rightStorable
  have sameFields := reads_readPayloadFields.eq_of_initial
    ⟨leftStorable.shape.length_le, leftStorable.made⟩
    ⟨rightStorable.shape.length_le, rightStorable.made⟩ bounded starts
  rw [← encodeFields_fields, ← encodeFields_fields, sameFields]

omit [Sha256] in
theorem foldlM_addRecordLength_eq_ok {start total : Nat} (bounded : start < 2 ^ 64) :
    records.foldlM addRecordLength start = .ok total <->
      total = start + (records.map (fun record => 4 + record.encode.length)).sum /\
        total < 2 ^ 64 := by
  induction records generalizing start with
  | nil =>
    change Except.ok start = Except.ok total <-> _
    rw [Except.ok.injEq, List.map_nil, List.sum_nil]
    omega
  | cons record rest ih =>
    rw [List.foldlM_cons, Except.bind_eq_ok, List.map_cons, List.sum_cons]
    simp only [addRecordLength, addLengths, Except.bind_eq_ok, Except.refuse_eq_ok, Except.ok.injEq]
    constructor
    · rintro ⟨_, ⟨_, ⟨_, rfl⟩, fits, rfl⟩, summed⟩
      have later := (ih (Nat.not_le.mp fits)).mp summed
      omega
    · rintro ⟨isTotal, inBounds⟩
      refine ⟨_, ⟨_, ⟨by omega, rfl⟩, by omega, rfl⟩, (ih (by omega)).mpr ⟨by omega, inBounds⟩⟩

omit [Sha256] in
theorem delimited_encodeRecord :
    Delimited (fun record => record.encode.length < 2 ^ 32) encodeRecord := by
  intro left right afterLeft afterRight leftFits rightFits same
  unfold encodeRecord at same
  rw [writeU32, writeU32, UInt32.toNat_ofNat_of_lt' leftFits,
    UInt32.toNat_ofNat_of_lt' rightFits] at same
  rcases Delimited.prefixed 4 _ _ _ _ leftFits rightFits same with ⟨sameEncoding, sameAfter⟩
  rw [length_encode] at leftFits rightFits
  exact ⟨TransactionRecord.delimited_encode.injective (Nat.lt_of_le_of_lt (Nat.le_add_left _ _)
    leftFits) (Nat.lt_of_le_of_lt (Nat.le_add_left _ _) rightFits) sameEncoding, sameAfter⟩

theorem delimited_encodeHeader :
    Delimited (fun _ : BlockHeader => True)
      (fun header => writeU32 (UInt32.ofNat (encodeBlockHeader header).length) ++
        encodeBlockHeader header) := by
  have sized : forall header : BlockHeader, (encodeBlockHeader header).length = 297 :=
    fun header => length_encodeHeaderInput header.input
  apply Delimited.ofWidth 301
  · intro header _
    rw [List.length_append, writeU32, length_bigEndian, sized]
  · intro left right _ _ same
    rw [sized, sized] at same
    have sameDecoded := decodeBlockHeader_eq_ok.mpr (List.append_cancel_left same)
    exact Except.ok.inj ((decodeBlockHeader_eq_ok.mpr rfl).symm.trans sameDecoded)

/-- Blocks with small records and one payload differ at most in their offsets. -/
theorem eq_of_payload_eq (leftSmall : left.records.length < 2 ^ 32 /\
      forall record, record ∈ left.records -> record.encode.length < 2 ^ 32)
    (rightSmall : right.records.length < 2 ^ 32 /\
      forall record, record ∈ right.records -> record.encode.length < 2 ^ 32)
    (same : left.payload = right.payload) : { left with offset := right.offset } = right := by
  have fits : forall decision : CometBftDecision, decision.height.toNat < 256 ^ 8 := by
    intro decision
    have representable := decision.representable
    omega
  have fields := delimited_encodeHeader.pair ((@delimited_identifier .app).pair
    ((Delimited.bytes 32).pair ((Delimited.bigEndian 8).pair ((Delimited.bytes 32).pair
      ((Delimited.bytes 32).pair (delimited_encodeRecord.counted 4))))))
  have written : forall {size : Nat}, size < 2 ^ 32 ->
      writeU32 (UInt32.ofNat size) = bigEndian 4 size := by
    intro size small
    rw [writeU32, UInt32.toNat_ofNat_of_lt' small]
  unfold StoredBlock.payload payloadBytes at same
  rw [written leftSmall.1, written rightSmall.1] at same
  simp only [List.append_cancel_left_eq] at same
  have equal := @Delimited.injective _ _ _ fields
    (left.header, left.appHash, left.cometDecision.networkId, left.cometDecision.height.toNat,
      left.cometDecision.blockHash, left.cometDecision.nextValidatorsHash, left.records)
    (right.header, right.appHash, right.cometDecision.networkId, right.cometDecision.height.toNat,
      right.cometDecision.blockHash, right.cometDecision.nextValidatorsHash, right.records)
    ⟨trivial, trivial, trivial, fits _, trivial, trivial, leftSmall⟩
    ⟨trivial, trivial, trivial, fits _, trivial, trivial, rightSmall⟩
    (by simpa only [List.append_assoc] using same)
  simp only [Prod.mk.injEq] at equal
  rcases equal with ⟨header, appHash, network, height, blockHash, next, records⟩
  have decision := CometBftDecision.eq_of_fields_eq network height blockHash next
  rcases left with ⟨_, _, _, _, _⟩
  rcases right with ⟨_, _, _, _, _⟩
  simp only at header appHash decision records
  rw [header, appHash, decision, records]

theorem encodePayload_eq_ok :
    encodePayload block.header block.appHash block.cometDecision block.records = .ok bytes <->
      BlockShape block.header block.records /\ bytes = block.payload /\
        block.payload.length <= maxBlockFramePayloadLength.toNat := by
  have length := length_payload block
  have maximum : maxBlockFramePayloadLength.toNat = 217113110 := rfl
  have sameLengths : block.records.map (fun record => 4 + record.encode.length) =
      block.records.map (fun record => 150 + record.transactionBytes.length) := by
    apply List.map_congr_left
    intro record _
    rw [length_encode, show recordEnvelopeOverhead.toNat = 146 from rfl, ← Nat.add_assoc]
  have header : (encodeBlockHeader block.header).length = 297 :=
    length_encodeHeaderInput block.header.input
  unfold encodePayload
  simp only [Except.bind_eq_ok, addLengths, Except.refuse_eq_ok, Except.ok.injEq, header]
  constructor
  · rintro ⟨_, validated, total, _, _, _, _, _, inBounds, rfl⟩
    exact ⟨validateBlock_eq_ok.mp validated, rfl, Nat.not_lt.mp inBounds⟩
  · rintro ⟨shape, rfl, inBounds⟩
    refine ⟨(), validateBlock_eq_ok.mpr shape, _,
      (foldlM_addRecordLength_eq_ok (by decide)).mpr ⟨rfl, ?_⟩, _, ⟨by decide, rfl⟩, _, ⟨?_, rfl⟩,
      Nat.not_lt.mpr inBounds, rfl⟩
    · rw [sameLengths]
      omega
    · rw [sameLengths, show blockPayloadFixedBytes = 150 from rfl]
      omega

end
end Noxis.Storage
