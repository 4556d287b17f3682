import Noxis.Execution.HistoryBinding
import Noxis.Foundation.EntryLog
import Noxis.Storage.BlockJournal

namespace Noxis.LedgerLog

open Foundation Codec RecordChain
open Storage (WriteOutcome)

/-!
# The log of state records

Every frame of the log holds one record, and nothing else is checked: whether the
records follow each other is left to the replay of the ledger.  The magic of the
older transaction log is recognised and refused with an error of its own.
-/

def recordFrameVersion : UInt16 := 1

def maxRecordFramePayloadLength : UInt32 := maxRecordTransactionBytes + 146

/-- Reasons a record log cannot be opened or written. -/
inductive RecordLogError where
  | io (operation : String)
  | invalidMagic (offset : Nat)
  | legacyTransactionLog (offset : Nat)
  | unsupportedFrameVersion (offset : Nat) (version : UInt16)
  | frameTooLarge (offset : Nat) (actual maximum : UInt32)
  | truncatedFrame (offset : Nat) (cut : FrameSection)
  | checksumMismatch (offset : Nat) (expected actual : UInt32)
  | record (offset : Nat) (source : RecordError)
  | recoveryTailChanged

def recordFrameFormat : FrameFormat RecordLogError where
  magic := ⟨utf8 "NXRF", by decide⟩
  version := recordFrameVersion
  maximum := maxRecordFramePayloadLength
  invalidMagic := fun found offset =>
    if found = utf8 "NXLG" then .legacyTransactionLog offset else .invalidMagic offset
  unsupportedVersion := .unsupportedFrameVersion
  tooLarge := fun offset actual => .frameTooLarge offset actual maxRecordFramePayloadLength
  checksumMismatch := .checksumMismatch

def encodeFrame (payload : List UInt8) : Except RecordLogError (List UInt8) :=
  recordFrameFormat.tryEncodeFrame payload

/-- A record at the offset of its frame. -/
structure StoredRecord where
  offset : Nat
  record : TransactionRecord

/-- What a scan finds. -/
structure RecordRecoveryScan where
  records : List StoredRecord
  incompleteTail : Option IncompleteTail

/-- Write at the end of the log; the result is the offset of what was written. -/
def appendFrame (outcome : WriteOutcome) (frame : List UInt8) :
    EStateM RecordLogError (List UInt8) Nat := fun file =>
  match outcome with
  | .complete => .ok file.length (file ++ frame)
  | .failed operation written => .error (.io operation) (file ++ frame.take written)

section
variable [Sha256]

/-- The frames of the log as entries.  They are not compared with each other. -/
def recordLog : EntryLog RecordLogError StoredRecord where
  format := recordFrameFormat
  decode := fun offset payload =>
    ((TransactionRecord.decode payload).map (StoredRecord.mk 0)).mapError
      (fun source => .error (.record offset source))
  place := fun offset stored => { stored with offset := offset }
  checkLink := fun _ _ => .ok ()

namespace StateRecordLog

/-- Append a record, which is decoded again before it is written. -/
def appendRecord (outcome : WriteOutcome) (record : TransactionRecord) :
    EStateM RecordLogError (List UInt8) Nat := do
  let payload := record.encode
  let _ ← check ((TransactionRecord.decode payload).mapError (.record 0))
  let frame ← check (encodeFrame payload)
  appendFrame outcome frame

/-- Scan all complete frames.  The file is not changed. -/
def scanRecoverableTail (file : List UInt8) : Except (Fault RecordLogError) RecordRecoveryScan :=
  (recordLog.scan file).map (fun found => ⟨found.1, found.2⟩)

def validateFile (file : List UInt8) : Except (Fault RecordLogError) Unit := do
  let scan ← scanRecoverableTail file
  match scan.incompleteTail with
  | none => .ok ()
  | some tail => .error (.error (.truncatedFrame tail.validPrefixLength tail.cut))

/-- Remove exactly the partial frame an earlier scan reported, and scan the rest
once more. -/
def truncateVerifiedIncompleteTail (expected : IncompleteTail) :
    EStateM (Fault RecordLogError) (List UInt8) Unit := do
  recordLog.truncate .recoveryTailChanged expected
  let file ← get
  check (validateFile file)

end StateRecordLog

def recordPayload (stored : StoredRecord) : List UInt8 := stored.record.encode

/-- Decoding accepts exactly the records that can be made. -/
theorem exact_recordLog :
    recordLog.Exact (fun stored => stored.record.Made) recordPayload (fun _ _ => True) := by
  constructor
  case decode_eq_ok =>
    intro offset payload decoded
    change Except.mapError _ (Except.map _ (TransactionRecord.decode payload)) = _ <-> _
    rw [Except.mapError_eq_ok]
    constructor
    · intro isDecoded
      cases found : TransactionRecord.decode payload with
      | error reason =>
        rw [found] at isDecoded
        cases isDecoded
      | ok record =>
        rw [found] at isDecoded
        cases isDecoded
        rcases TransactionRecord.decode_eq_ok.mp found with ⟨isPayload, made⟩
        exact ⟨made, rfl, isPayload⟩
    · intro isStored
      rcases isStored with ⟨made, isPlaced, isPayload⟩
      rw [TransactionRecord.decode_eq_ok.mpr ⟨isPayload, made⟩]
      exact congrArg Except.ok isPlaced
  case checkLink_eq_ok =>
    intro previous next done
    exact iff_of_true rfl trivial
  case storable_place => exact Iff.rfl
  case payloadOf_place => exact rfl
  case place_place => exact rfl
  case within =>
    intro stored made
    exact Storage.length_encode_le made

/-- The log that holds these records. -/
def logOf (records : List StoredRecord) : List UInt8 := recordLog.fileOf recordPayload records

/-- Records that can be made and know their offsets. -/
def Stored (records : List StoredRecord) : Prop :=
  recordLog.Holds (fun stored => stored.record.Made) recordPayload 0 records

namespace StateRecordLog

variable {file : List UInt8} {records : List StoredRecord} {tail : Option IncompleteTail}

theorem scanRecoverableTail_eq_ok :
    scanRecoverableTail file = .ok ⟨records, tail⟩ <-> recordLog.scan file = .ok (records, tail) := by
  unfold scanRecoverableTail
  cases recordLog.scan file with
  | error fault =>
    constructor <;> intro impossible <;> cases impossible
  | ok found =>
    constructor <;> intro same <;> cases same <;> rfl

theorem scan_logOf (stored : Stored records) :
    recordLog.scan (logOf records) = .ok (records, none) := by
  have scanned := exact_recordLog.scan_fileOf stored
    (validTracking_const.mpr (fun _ _ => trivial)) (FrameFormat.Scans.done _)
  rw [List.append_nil] at scanned
  exact scanned

theorem stored_of_scan (scanned : recordLog.scan file = .ok (records, tail)) : Stored records :=
  (exact_recordLog.scan_eq_ok.mp scanned).2.1

/-- The partial frame a scan reported is removed, and nothing else. -/
theorem truncate_of_scan {tail : IncompleteTail}
    (scanned : recordLog.scan file = .ok (records, some tail)) :
    truncateVerifiedIncompleteTail tail file = .ok () (logOf records) := by
  have validated : validateFile (logOf records) = .ok () := by
    unfold validateFile
    rw [scanRecoverableTail_eq_ok.mpr (scan_logOf (stored_of_scan scanned))]
    rfl
  unfold truncateVerifiedIncompleteTail
  rw [bind_of_ok (exact_recordLog.truncate_of_scan scanned _), get_bind]
  exact check_eq_ok.mpr ⟨validated, rfl⟩

end StateRecordLog
end

/-- Records that can be made and the bytes that are decoded correspond.  Every
transaction that can be encoded has a record within the limit of a frame.  Records with
one hash are the same, or what was hashed collides. -/
theorem records_and_bytes_correspond [Sha256] :
    (forall sequence previousStateId bytes resultingStateId record,
      TransactionRecord.new sequence previousStateId bytes resultingStateId = .ok record ->
        TransactionRecord.decode record.encode = .ok record) /\
    (forall bytes record, TransactionRecord.decode bytes = .ok record -> record.encode = bytes) /\
    (forall transaction bytes, encodeTransaction transaction = .ok bytes ->
      bytes.length <= maxRecordTransactionBytes.toNat /\
        forall sequence previousStateId resultingStateId, ∃ record frame,
          TransactionRecord.new sequence previousStateId bytes resultingStateId = .ok record /\
            encodeFrame record.encode = .ok frame) /\
    (forall left right : TransactionRecord, left.Made -> right.Made ->
      left.recordHash = right.recordHash ->
        left = right ∨
          Collides Sha256.digest (Execution.recordInput left) (Execution.recordInput right)) := by
  refine ⟨?_, ?_, ?_, ?_⟩
  · intro sequence previousStateId bytes resultingStateId record isNew
    exact TransactionRecord.decode_eq_ok.mpr ⟨rfl, (TransactionRecord.made_of_new isNew).1⟩
  · intro bytes record decoded
    exact (TransactionRecord.decode_eq_ok.mp decoded).1.symm
  · intro transaction bytes encoded
    refine ⟨length_le_of_encodeTransaction encoded, ?_⟩
    intro sequence previousStateId resultingStateId
    have identified := transactionIntentId_of_shape (encodeTransaction_eq_ok.mp encoded).1
    have isNew := TransactionRecord.new_of_encoded sequence previousStateId resultingStateId encoded
      identified
    have within := Storage.length_encode_le (TransactionRecord.made_of_new isNew).1
    exact ⟨_, _, isNew, FrameFormat.tryEncodeFrame_eq_ok.mpr ⟨within, rfl⟩⟩
  · intro left right leftMade rightMade sameHash
    have sameDigest := leftMade.recordHash_eq.symm.trans (sameHash.trans rightMade.recordHash_eq)
    rcases eq_or_collides Sha256.digest (RecordHash.mk.inj sameDigest) with sameInput | collides
    · exact Or.inl (Execution.record_eq_of_input_eq leftMade.length_le rightMade.length_le sameHash
        sameInput)
    · exact Or.inr collides

/-- The checksum of a frame tells payloads of one length apart that differ within 32
bits, and it is affine. -/
theorem crc32_detects_bursts :
    (forall left right : List UInt8, left.length = right.length -> left ≠ right ->
      forall start, (forall index, (bitsOf left)[index]? ≠ (bitsOf right)[index]? ->
        start <= index /\ index < start + 32) -> crc32 left ≠ crc32 right) /\
    (forall first second third : List UInt8, first.length = second.length ->
      second.length = third.length ->
        crc32 first ^^^ crc32 second ^^^ crc32 third =
          crc32 (List.zipWith (· ^^^ ·) (List.zipWith (· ^^^ ·) first second) third)) := by
  constructor
  · intro left right sameLength differ start burst same
    have registers := UInt32.not_inj.mp same
    rw [← foldl_crcBit_bitsOf, ← foldl_crcBit_bitsOf] at registers
    exact differ (bitsOf_injective (eq_of_burst (by simp [bitsOf, sameLength]) burst registers))
  · intro first second third sameLength sameLengths
    exact crc32_xor sameLength sameLengths

end Noxis.LedgerLog
