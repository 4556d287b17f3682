import Noxis.Codec.Intent

namespace Noxis.RecordChain

open Foundation Codec Ledger

/-!
# Transaction records linked through state identifiers

A record holds one canonical transaction and the state transition it claims.
A record chain checks that records follow each other by sequence number and
by state identifier; it does not interpret transactions.

Making a record decodes the transaction bytes and encodes the result again.
The comparison with the original bytes cannot fail, because the wire format
has one representation per transaction.
-/

def recordMagic : List UInt8 := utf8 "NXRC"

def recordFormatVersion : UInt16 := 1

def maxRecordTransactionBytes : UInt32 := 32 * 1024 * 1024

def recordHashDomain : List UInt8 := utf8 "NOXIS/RECORD-CHAIN/V1/RECORD"

@[ext]
structure RecordHash where
  bytes : Bytes 32
deriving DecidableEq

inductive RecordError where
  | invalidMagic
  | unsupportedFormatVersion (version : UInt16)
  | unexpectedEnd (offset : Nat)
  | trailingBytes (count : Nat)
  | lengthOverflow
  | transactionBytesTooLarge (actual : Nat) (maximum : UInt32)
  | transaction (error : CodecError)
  | nonCanonicalTransaction
  | transactionIntentIdMismatch (record transaction : TransactionIntentId)
  | recordHashMismatch
  | unexpectedSequence (expected actual : UInt64)
  | previousStateMismatch (expected actual : StateId)
  | sequenceOverflow
deriving DecidableEq

instance : ReaderErrors RecordError where
  lengthOverflow := .lengthOverflow
  unexpectedEnd := .unexpectedEnd
  trailingBytes := .trailingBytes

structure TransactionRecord where
  sequence : UInt64
  previousStateId : StateId
  transactionBytes : List UInt8
  transactionIntentId : TransactionIntentId
  resultingStateId : StateId
  recordHash : RecordHash
deriving DecidableEq

def writeU64 (value : UInt64) : List UInt8 := bigEndian 8 value.toNat

theorem delimited_writeU64 : Delimited (fun _ : UInt64 => True) writeU64 :=
  ((Delimited.bigEndian 8).comap (fun _ _ same => UInt64.toNat_inj.mp same)).weaken
    (fun value _ => value.toNat_lt)

theorem delimited_identifier {kind} :
    Delimited (fun _ : Identifier kind => True) (fun id => id.bytes.toList) :=
  (Delimited.bytes 32).comap Identifier.bytes_injective

/-- The byte string hashed into a record hash.  The length is cast to 32 bits. -/
def recordHashInput (sequence : UInt64) (previousStateId : StateId)
    (transactionBytes : List UInt8) (transactionIntentId : TransactionIntentId)
    (resultingStateId : StateId) : List UInt8 :=
  recordHashDomain ++ (writeU16 recordFormatVersion ++ (writeU64 sequence ++
    (previousStateId.bytes.toList ++ (writeU32 (UInt32.ofNat transactionBytes.length) ++
      (transactionBytes ++ (transactionIntentId.bytes.toList ++
        resultingStateId.bytes.toList))))))

def validateTransactionBytes (bytes : List UInt8) : Except RecordError Unit :=
  if maxRecordTransactionBytes.toNat < bytes.length then
    .error (.transactionBytesTooLarge bytes.length maxRecordTransactionBytes)
  else do
    let transaction ← (decodeTransaction bytes).mapError .transaction
    let canonical ← (encodeTransaction transaction).mapError .transaction
    if canonical ≠ bytes then .error .nonCanonicalTransaction else .ok ()

variable {bytes : List UInt8} {record : TransactionRecord}

variable {transaction : Transaction}

theorem length_le_of_encodeTransaction (encoded : encodeTransaction transaction = .ok bytes) :
    bytes.length <= maxRecordTransactionBytes.toNat := by
  rcases encodeTransaction_eq_ok.mp encoded with ⟨shaped, rfl⟩
  exact length_transactionBytes_le (limits_of_shape shaped)

theorem validateTransactionBytes_of_encoded (encoded : encodeTransaction transaction = .ok bytes) :
    validateTransactionBytes bytes = .ok () := by
  unfold validateTransactionBytes
  rw [if_neg (Nat.not_lt.mpr (length_le_of_encodeTransaction encoded)),
    decodeTransaction_eq_ok.mpr encoded]
  change ((encodeTransaction transaction).mapError RecordError.transaction >>= _) = _
  rw [encoded]
  exact if_neg (not_not_intro rfl)

/-- Bytes that do not decode are refused for their size or by the decoder. -/
theorem validateTransactionBytes_of_undecodable {reason}
    (undecodable : decodeTransaction bytes = .error reason) :
    validateTransactionBytes bytes =
        .error (.transactionBytesTooLarge bytes.length maxRecordTransactionBytes) ∨
      validateTransactionBytes bytes = .error (.transaction reason) := by
  unfold validateTransactionBytes
  by_cases tooLarge : maxRecordTransactionBytes.toNat < bytes.length
  · rw [if_pos tooLarge]
    exact Or.inl rfl
  · rw [if_neg tooLarge, undecodable]
    exact Or.inr rfl

theorem validateTransactionBytes_eq_ok :
    validateTransactionBytes bytes = .ok () <->
      ∃ transaction, encodeTransaction transaction = .ok bytes := by
  constructor
  · intro validated
    rcases Except.ok_or_error (decodeTransaction bytes) with
      ⟨transaction, decoded⟩ | ⟨reason, undecodable⟩
    · exact ⟨transaction, decodeTransaction_eq_ok.mp decoded⟩
    · rcases validateTransactionBytes_of_undecodable undecodable with refused | refused <;>
        rw [refused] at validated <;> cases validated
  grind [validateTransactionBytes_of_encoded]

theorem validateTransactionBytes_ne_nonCanonical (bytes : List UInt8) :
    validateTransactionBytes bytes ≠ .error .nonCanonicalTransaction := by
  intro refusedAsNonCanonical
  rcases Except.ok_or_error (decodeTransaction bytes) with
    ⟨transaction, decoded⟩ | ⟨reason, undecodable⟩
  · grind [validateTransactionBytes_of_encoded, decodeTransaction_eq_ok]
  · rcases validateTransactionBytes_of_undecodable undecodable with refused | refused <;>
      rw [refused] at refusedAsNonCanonical <;> cases refusedAsNonCanonical

theorem readerError_ne_nonCanonical (reason : RecordError) (isReaderError : IsReaderError reason) :
    reason ≠ .nonCanonicalTransaction := by
  cases isReaderError <;> exact nofun

theorem mapError_transaction_ne_nonCanonical {α : Type} (computation : Except CodecError α) :
    computation.mapError RecordError.transaction ≠ .error .nonCanonicalTransaction := by
  grind [Except.mapError_eq_error]

namespace TransactionRecord

/-- The fields of a record as they stand on the wire. -/
def readFields : EStateM RecordError Reader TransactionRecord := do
  let magic ← readArray 4
  if magic.toList ≠ recordMagic then
    throw .invalidMagic
  else
    let version ← readU16
    if version ≠ recordFormatVersion then
      throw (.unsupportedFormatVersion version)
    else
      let sequence ← readU64
      let previousStateId ← readArray 32
      let transactionLength ← readU32
      if maxRecordTransactionBytes < transactionLength then
        throw (.transactionBytesTooLarge transactionLength.toNat maxRecordTransactionBytes)
      else
        let transactionBytes ← readExact transactionLength.toNat
        let intentId ← readArray 32
        let resultingStateId ← readArray 32
        let recordHash ← readArray 32
        return ⟨sequence, ⟨previousStateId⟩, transactionBytes, ⟨intentId⟩, ⟨resultingStateId⟩,
          ⟨recordHash⟩⟩

def encode (record : TransactionRecord) : List UInt8 :=
  recordMagic ++ (writeU16 recordFormatVersion ++ (writeU64 record.sequence ++
    (record.previousStateId.bytes.toList ++
      (writeU32 (UInt32.ofNat record.transactionBytes.length) ++ (record.transactionBytes ++
        (record.transactionIntentId.bytes.toList ++ (record.resultingStateId.bytes.toList ++
          record.recordHash.bytes.toList)))))))

/-- Reading the fields undoes `encode` on records whose transaction is not too
large. -/
theorem reads_readFields :
    Reads readFields
      (fun record => record.transactionBytes.length <= maxRecordTransactionBytes.toNat) encode := by
  have hashes := (@Reads.array RecordError _ 32).pair ((Reads.array 32).pair (Reads.array 32))
  have body := Reads.limited maxRecordTransactionBytes
    (fun length => RecordError.transactionBytesTooLarge length.toNat maxRecordTransactionBytes)
    (fun parts => parts.1.length) (fun length _ => ((Reads.exact length.toNat).pair hashes).congr
      (fun parts => ⟨fun all => all.1, fun sized => ⟨sized, trivial, trivial, trivial⟩⟩)
      (fun _ _ => rfl))
  have built := (Reads.u64.pair ((Reads.array 32).pair body)).map
    (fun (sequence, previousStateId, transactionBytes, intentId, resultingStateId, recordHash) =>
      TransactionRecord.mk sequence ⟨previousStateId⟩ transactionBytes ⟨intentId⟩
        ⟨resultingStateId⟩ ⟨recordHash⟩)
    (fun record => (record.sequence, record.previousStateId.bytes, record.transactionBytes,
      record.transactionIntentId.bytes, record.resultingStateId.bytes, record.recordHash.bytes))
    (fun _ _ => rfl) (fun _ _ => rfl)
  simp only [readPair, bind_assoc, pure_bind, refuse_bind] at built
  have framed := Reads.framed (by decide : recordMagic.length = 4) recordFormatVersion
    RecordError.invalidMagic RecordError.unsupportedFormatVersion built
  refine framed.congr ?_ ?_
  · intro record
    simp only [true_and]
  · intro record within
    unfold encode
    rw [writeU32, Reads.toNat_ofNat_of_le within]
    rfl

/-- Records can be told apart by their encodings unless the cast of a length
hides something. -/
theorem delimited_encode :
    Delimited (fun record => record.transactionBytes.length < 2 ^ 32) encode := by
  intro left right afterLeft afterRight leftFits rightFits same
  have hash : Delimited (fun _ : RecordHash => True) (fun recordHash => recordHash.bytes.toList) :=
    (Delimited.bytes 32).comap (fun _ _ equal => RecordHash.ext equal)
  have fields := delimited_writeU64.pair ((@delimited_identifier .state).pair
    ((Delimited.prefixed 4).pair ((@delimited_identifier .transactionIntent).pair
      ((@delimited_identifier .state).pair hash))))
  have written : forall record : TransactionRecord, record.transactionBytes.length < 2 ^ 32 ->
      writeU32 (UInt32.ofNat record.transactionBytes.length) =
        bigEndian 4 record.transactionBytes.length := by
    intro record fits
    rw [writeU32, UInt32.toNat_ofNat_of_lt' fits]
  unfold encode at same
  rw [written left leftFits, written right rightFits] at same
  simp only [List.append_assoc, List.append_cancel_left_eq] at same
  have equal := fields
    (left.sequence, left.previousStateId, left.transactionBytes, left.transactionIntentId,
      left.resultingStateId, left.recordHash)
    (right.sequence, right.previousStateId, right.transactionBytes, right.transactionIntentId,
      right.resultingStateId, right.recordHash) afterLeft afterRight
    ⟨trivial, trivial, leftFits, trivial, trivial, trivial⟩
    ⟨trivial, trivial, rightFits, trivial, trivial, trivial⟩
    (by simpa only [List.append_assoc] using same)
  rcases left with ⟨sequence, previous, bytes, intent, resulting, recordHash⟩
  rcases right with ⟨sequence', previous', bytes', intent', resulting', recordHash'⟩
  grind

theorem length_encode_lt {record : TransactionRecord}
    (within : record.transactionBytes.length <= maxRecordTransactionBytes.toNat) :
    record.encode.length < 2 ^ 64 := by
  have magic : recordMagic.length = 4 := by decide
  have limit : maxRecordTransactionBytes.toNat = 33554432 := rfl
  simp only [encode, writeU16, writeU32, writeU64, List.length_append, Bytes.length_toList,
    length_bigEndian]
  omega

/-- Reading the fields never reports a transaction as non canonical. -/
theorem readFields_failsWith : FailsWith (· ≠ RecordError.nonCanonicalTransaction) readFields := by
  have array := fun width => readArray_failsWith readerError_ne_nonCanonical width
  have converted : forall (width : Nat) {α : Type} (convert : Bytes width -> α),
      FailsWith (· ≠ RecordError.nonCanonicalTransaction)
        (readArray width >>= fun value => pure (convert value)) :=
    fun width _ convert => (array width).bind (fun value => FailsWith.pure (convert value))
  refine (array 4).bind (fun magic => FailsWith.ite (FailsWith.throw nofun) ?_)
  refine (converted 2 _).bind (fun version => FailsWith.ite (FailsWith.throw nofun) ?_)
  refine (converted 8 _).bind (fun sequence => (array 32).bind (fun previousStateId => ?_))
  refine (converted 4 _).bind (fun length => FailsWith.ite (FailsWith.throw nofun) ?_)
  refine (readExact_failsWith readerError_ne_nonCanonical _).bind (fun transactionBytes => ?_)
  exact (array 32).bind (fun _ => (array 32).bind (fun _ => (array 32).bind (fun _ =>
    FailsWith.pure _)))

end TransactionRecord

section
variable [Sha256]

def hashRecord (sequence : UInt64) (previousStateId : StateId) (transactionBytes : List UInt8)
    (transactionIntentId : TransactionIntentId) (resultingStateId : StateId) : RecordHash :=
  ⟨Sha256.digest (recordHashInput sequence previousStateId transactionBytes transactionIntentId
    resultingStateId)⟩

namespace TransactionRecord

def new (sequence : UInt64) (previousStateId : StateId) (transactionBytes : List UInt8)
    (resultingStateId : StateId) : Except RecordError TransactionRecord := do
  validateTransactionBytes transactionBytes
  let transaction ← (decodeTransaction transactionBytes).mapError .transaction
  let intentId ← (Codec.transactionIntentId transaction).mapError .transaction
  return {
    sequence
    previousStateId
    transactionBytes
    transactionIntentId := intentId
    resultingStateId
    recordHash := hashRecord sequence previousStateId transactionBytes intentId resultingStateId }

/-- Decode one record and verify its transaction, intent and hash. -/
def decode (bytes : List UInt8) : Except RecordError TransactionRecord := do
  let record ← parse readFields bytes
  validateTransactionBytes record.transactionBytes
  let transaction ← (decodeTransaction record.transactionBytes).mapError .transaction
  let calculatedIntentId ← (Codec.transactionIntentId transaction).mapError .transaction
  if calculatedIntentId ≠ record.transactionIntentId then
    .error (.transactionIntentIdMismatch record.transactionIntentId calculatedIntentId)
  else
    let expectedHash := hashRecord record.sequence record.previousStateId record.transactionBytes
      record.transactionIntentId record.resultingStateId
    if record.recordHash ≠ expectedHash then .error .recordHashMismatch else .ok record

theorem new_of_encoded (sequence : UInt64) (previousStateId : StateId) {transaction intentId}
    (resultingStateId : StateId) (encoded : encodeTransaction transaction = .ok bytes)
    (identified : Codec.transactionIntentId transaction = .ok intentId) :
    new sequence previousStateId bytes resultingStateId =
      .ok ⟨sequence, previousStateId, bytes, intentId, resultingStateId,
        hashRecord sequence previousStateId bytes intentId resultingStateId⟩ := by
  unfold new
  rw [validateTransactionBytes_of_encoded encoded, decodeTransaction_eq_ok.mpr encoded]
  change ((Codec.transactionIntentId transaction).mapError RecordError.transaction >>= _) = _
  rw [identified]
  rfl

variable {sequence : UInt64} {previousStateId resultingStateId : StateId}

theorem new_eq_ok :
    new sequence previousStateId bytes resultingStateId = .ok record <->
      ∃ transaction intentId, encodeTransaction transaction = .ok bytes /\
        Codec.transactionIntentId transaction = .ok intentId /\
        record = ⟨sequence, previousStateId, bytes, intentId, resultingStateId,
          hashRecord sequence previousStateId bytes intentId resultingStateId⟩ := by
  constructor
  · intro made
    rcases Except.bind_eq_ok.mp made with ⟨_, validated, _⟩
    rcases validateTransactionBytes_eq_ok.mp validated with ⟨transaction, encoded⟩
    have identified := transactionIntentId_of_shape (encodeTransaction_eq_ok.mp encoded).1
    grind [new_of_encoded]
  grind [new_of_encoded]

/-- The constructor makes this record from its own fields. -/
def Made (record : TransactionRecord) : Prop :=
  new record.sequence record.previousStateId record.transactionBytes record.resultingStateId =
    .ok record

theorem made_of_new (isNew : new sequence previousStateId bytes resultingStateId = .ok record) :
    record.Made /\ record.sequence = sequence /\ record.previousStateId = previousStateId /\
      record.transactionBytes = bytes /\ record.resultingStateId = resultingStateId := by
  rcases new_eq_ok.mp isNew with ⟨transaction, intentId, encoded, identified, rfl⟩
  exact ⟨isNew, rfl, rfl, rfl, rfl⟩

theorem Made.length_le (made : record.Made) :
    record.transactionBytes.length <= maxRecordTransactionBytes.toNat := by
  rcases new_eq_ok.mp made with ⟨transaction, _, encoded, _, _⟩
  exact length_le_of_encodeTransaction encoded

theorem Made.recordHash_eq (made : record.Made) :
    record.recordHash = hashRecord record.sequence record.previousStateId record.transactionBytes
      record.transactionIntentId record.resultingStateId := by
  rcases new_eq_ok.mp made with ⟨_, intentId, _, _, isRecord⟩
  grind

/-- Decoding accepts exactly the encodings of the records that can be made. -/
theorem decode_eq_ok :
    decode bytes = .ok record <->
      bytes = record.encode /\
        new record.sequence record.previousStateId record.transactionBytes
          record.resultingStateId = .ok record := by
  unfold decode
  simp only [Except.bind_eq_ok, Except.refuse_eq_ok, not_not]
  constructor
  · rintro ⟨found, parsed, _, validated, transaction, decoded, intentId, identified, sameIntent,
      sameHash, same⟩
    cases same
    refine ⟨(reads_readFields.of_parse parsed).2, new_eq_ok.mpr ⟨transaction, intentId,
      decodeTransaction_eq_ok.mp (Except.mapError_eq_ok.mp decoded),
      Except.mapError_eq_ok.mp identified, ?_⟩⟩
    rw [sameIntent, ← sameHash]
  · rintro ⟨rfl, made⟩
    rcases new_eq_ok.mp made with ⟨transaction, intentId, encoded, identified, isRecord⟩
    refine ⟨record, reads_readFields.parse_encode (length_le_of_encodeTransaction encoded)
        (length_encode_lt (length_le_of_encodeTransaction encoded)),
      (), validateTransactionBytes_of_encoded encoded,
      transaction, Except.mapError_eq_ok.mpr (decodeTransaction_eq_ok.mpr encoded),
      intentId, Except.mapError_eq_ok.mpr identified, ?_, ?_, rfl⟩
    · rw [isRecord]
    · rw [isRecord]

theorem new_ne_nonCanonical (sequence : UInt64) (previousStateId : StateId) (bytes : List UInt8)
    (resultingStateId : StateId) :
    new sequence previousStateId bytes resultingStateId ≠ .error .nonCanonicalTransaction := by
  intro failed
  rcases Except.bind_eq_error.mp failed with invalid | ⟨_, _, failed⟩
  · exact validateTransactionBytes_ne_nonCanonical bytes invalid
  rcases Except.bind_eq_error.mp failed with undecodable | ⟨_, _, failed⟩
  · exact mapError_transaction_ne_nonCanonical _ undecodable
  · rcases Except.bind_eq_error.mp failed with unidentified | ⟨_, _, impossible⟩
    · exact mapError_transaction_ne_nonCanonical _ unidentified
    · cases impossible

theorem decode_ne_nonCanonical (bytes : List UInt8) :
    decode bytes ≠ .error .nonCanonicalTransaction := by
  intro failed
  rcases Except.bind_eq_error.mp failed with unread | ⟨record, _, failed⟩
  · exact parse_failsWith readerError_ne_nonCanonical readFields_failsWith unread rfl
  rcases Except.bind_eq_error.mp failed with invalid | ⟨_, _, failed⟩
  · exact validateTransactionBytes_ne_nonCanonical _ invalid
  rcases Except.bind_eq_error.mp failed with undecodable | ⟨_, _, failed⟩
  · exact mapError_transaction_ne_nonCanonical _ undecodable
  rcases Except.bind_eq_error.mp failed with unidentified | ⟨intentId, _, failed⟩
  · exact mapError_transaction_ne_nonCanonical _ unidentified
  by_cases sameIntent : intentId = record.transactionIntentId
  · rw [if_neg (not_not_intro sameIntent)] at failed
    dsimp only at failed
    split at failed <;> cases failed
  · rw [if_pos sameIntent] at failed
    cases failed

end TransactionRecord
end

/-! ## The chain -/

/-- The next sequence number and the state it extends. -/
structure Chain where
  nextSequence : UInt64
  currentStateId : StateId
deriving DecidableEq

namespace Chain

def new (genesisStateId : StateId) : Chain := ⟨1, genesisStateId⟩

/-- The sequence number of the current state; genesis is zero. -/
def currentSequence (chain : Chain) : UInt64 := chain.nextSequence - 1

/-- Validate one link and advance. -/
def apply (record : TransactionRecord) : EStateM RecordError Chain Unit := do
  let chain ← get
  if record.sequence ≠ chain.nextSequence then
    throw (.unexpectedSequence chain.nextSequence record.sequence)
  else if record.previousStateId ≠ chain.currentStateId then
    throw (.previousStateMismatch chain.currentStateId record.previousStateId)
  else if chain.nextSequence.toNat + 1 < 2 ^ 64 then
    set (⟨chain.nextSequence + 1, record.resultingStateId⟩ : Chain)
  else throw .sequenceOverflow

/-- A record extends a chain when it has the next sequence number, starts at
the current state and leaves room for a successor. -/
structure Extends (chain : Chain) (record : TransactionRecord) : Prop where
  sequence : record.sequence = chain.nextSequence
  previous : record.previousStateId = chain.currentStateId
  room : chain.nextSequence.toNat + 1 < 2 ^ 64

variable {chain : Chain}

theorem apply_of_extends (linked : chain.Extends record) :
    apply record chain = .ok () ⟨chain.nextSequence + 1, record.resultingStateId⟩ := by
  unfold apply
  rw [get_bind,
    if_neg (not_not_intro linked.sequence), if_neg (not_not_intro linked.previous),
    if_pos linked.room]
  rfl

theorem apply_eq_ok {next} :
    apply record chain = .ok () next <->
      chain.Extends record /\ next = ⟨chain.nextSequence + 1, record.resultingStateId⟩ := by
  constructor
  · intro applied
    have linked : chain.Extends record := by
      unfold apply at applied
      rw [get_bind] at applied
      by_cases sequence : record.sequence = chain.nextSequence
      · rw [if_neg (not_not_intro sequence)] at applied
        by_cases previous : record.previousStateId = chain.currentStateId
        · rw [if_neg (not_not_intro previous)] at applied
          by_cases room : chain.nextSequence.toNat + 1 < 2 ^ 64
          · exact ⟨sequence, previous, room⟩
          · rw [if_neg room] at applied
            cases applied
        · rw [if_pos previous] at applied
          cases applied
      · rw [if_pos sequence] at applied
        cases applied
    grind [apply_of_extends]
  · rintro ⟨linked, rfl⟩
    exact apply_of_extends linked

theorem apply_failsWith (record : TransactionRecord) :
    FailsWith (· ≠ RecordError.nonCanonicalTransaction) (apply record) := by
  refine FailsWith.get.bind (fun chain => FailsWith.ite (FailsWith.throw nofun) ?_)
  refine FailsWith.ite (FailsWith.throw nofun) (FailsWith.ite ?_ (FailsWith.throw nofun))
  intro start reason finish failed
  cases failed

end Chain
end Noxis.RecordChain
