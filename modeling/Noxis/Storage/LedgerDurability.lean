import Noxis.Storage.LedgerRecovery

namespace Noxis.LedgerLog

open Foundation Crypto Ledger RecordChain Checkpoints
open StateRecordLog TransactionRecord PersistentLedger
open Storage (WriteOutcome)

/-!
# Interrupted appends

A call either leaves the ledger as it is, or publishes the history of one more
record whose frame is in the log, or fails while the frame is written.  In the last
case the ledger keeps its history and writes nothing more; what the log then means
depends only on whether the whole frame has arrived.
-/

variable {record : TransactionRecord} {next : LedgerHistory} {transaction : Transaction}
  {records : List StoredRecord} {ledger : PersistentLedger}

section
variable [Sha256]

def recordFrame (record : TransactionRecord) : List UInt8 :=
  recordFrameFormat.encodeFrame record.encode

/-- A record that can be made is appended without being refused. -/
theorem appendRecord_of_made (made : record.Made) (outcome : WriteOutcome) (file : List UInt8) :
    appendRecord outcome record file = appendFrame outcome (recordFrame record) file := by
  have decoded : TransactionRecord.decode record.encode = .ok record :=
    decode_eq_ok.mpr ⟨rfl, made⟩
  have framed : encodeFrame record.encode = .ok (recordFrame record) :=
    FrameFormat.tryEncodeFrame_eq_ok.mpr ⟨Storage.length_encode_le made, rfl⟩
  unfold appendRecord
  rw [decoded, framed]
  rfl

theorem appendDurably_complete (made : record.Made) (ledger : PersistentLedger) :
    appendDurably .complete record ledger = .ok ledger.recordLog.length
      { ledger with recordLog := ledger.recordLog ++ recordFrame record } := by
  unfold appendDurably
  rw [appendRecord_of_made made]
  simp only [appendFrame]

theorem appendDurably_failed (made : record.Made) (ledger : PersistentLedger) (operation : String)
    (written : Nat) :
    appendDurably (.failed operation written) record ledger =
      .error (.error (.recordLog (.io operation))) { ledger with
        recordLog := ledger.recordLog ++ (recordFrame record).take written
        writesAvailable := false } := by
  unfold appendDurably
  rw [appendRecord_of_made made]
  simp only [appendFrame]

section
variable {verifier : ProofVerifier} {mintPolicy : MintPolicy} {anchor : ChainAnchor}
  {validationContext : ValidationContext} {history : LedgerHistory}

theorem extend_eq_ok (suite : transaction.suite = validationContext.cryptoSuite) :
    extend anchor verifier mintPolicy history transaction = .ok (record, next) <->
      Advances anchor validationContext verifier mintPolicy history transaction record next := by
  unfold extend
  simp only [Except.bind_eq_ok, Except.mapError_eq_ok, onCopy_eq_ok]
  constructor
  · intro extended
    rcases extended with ⟨bytes, encoded, intentId, identified, state, applied, stateId, isState,
      made, isMade, chain, linked, same⟩
    cases same
    rw [new_of_encoded _ _ _ encoded identified] at isMade
    cases isMade
    exact ⟨encoded, suite, identified, applied, isState,
      new_of_encoded _ _ _ encoded identified, linked, rfl⟩
  · intro advances
    refine ⟨_, advances.encoded, _, advances.identified, _, advances.applied, _, advances.state,
      _, advances.made, _, advances.linked, ?_⟩
    rw [← advances.terminal]
    rfl

theorem Advances.isMade
    (advances : Advances anchor validationContext verifier mintPolicy history transaction record
      next) : record.Made :=
  (made_of_new advances.made).1

/-- What a call can do: nothing, publish the next history behind its frame, or fail
while the frame is written. -/
theorem apply_cases (verifier : ProofVerifier) (mintPolicy : MintPolicy) (outcome : WriteOutcome)
    (transaction : Transaction) (ledger : PersistentLedger) :
    (∃ fault, PersistentLedger.apply verifier mintPolicy outcome transaction ledger =
        .error fault ledger) ∨
      ledger.writesAvailable = true /\ ∃ record next,
        Advances ledger.anchor ledger.validationContext verifier mintPolicy
          ledger.toLedgerHistory transaction record next /\
        ((outcome = .complete /\ ∃ receipt,
            PersistentLedger.apply verifier mintPolicy outcome transaction ledger =
              .ok receipt { ledger with
                toLedgerHistory := next
                recordLog := ledger.recordLog ++ recordFrame record }) ∨
          ∃ operation written, outcome = .failed operation written /\
            PersistentLedger.apply verifier mintPolicy outcome transaction ledger =
              .error (.error (.recordLog (.io operation))) { ledger with
                recordLog := ledger.recordLog ++ (recordFrame record).take written
                writesAvailable := false }) := by
  unfold PersistentLedger.apply
  rw [get_bind]
  by_cases unavailable : ledger.writesAvailable = false
  · rw [if_pos unavailable]
    exact Or.inl ⟨_, rfl⟩
  rw [if_neg unavailable]
  rcases check_bind_cases ((ensureValidationComponents ledger.anchor verifier mintPolicy).mapError
    Fault.error) _ ledger with ⟨_, _, refused⟩ | ⟨_, _, continued⟩
  · exact Or.inl ⟨_, refused⟩
  rw [continued]
  rcases check_bind_cases ((ensureTransactionSuite ledger.validationContext
    transaction.suite).mapError Fault.error) _ ledger with ⟨_, _, refused⟩ | ⟨_, suited, continued⟩
  · exact Or.inl ⟨_, refused⟩
  rw [continued]
  rcases check_bind_cases (extend ledger.anchor verifier mintPolicy ledger.toLedgerHistory
    transaction) _ ledger with ⟨_, _, refused⟩ | ⟨⟨record, next⟩, extended, continued⟩
  · exact Or.inl ⟨_, refused⟩
  rw [continued]
  have suite := ensureTransactionSuite_eq_ok.mp (Except.mapError_eq_ok.mp suited)
  have advances := (extend_eq_ok suite).mp extended
  refine Or.inr ⟨eq_true_of_ne_false unavailable, record, next, advances, ?_⟩
  dsimp only
  cases outcome with
  | complete =>
    rw [bind_of_ok (appendDurably_complete advances.isMade ledger)]
    exact Or.inl ⟨rfl, _, rfl⟩
  | failed operation count =>
    rw [bind_of_error (appendDurably_failed advances.isMade ledger operation count)]
    exact Or.inr ⟨operation, count, rfl, rfl⟩

end

section
variable (anchor : ChainAnchor) (validationContext : ValidationContext)
  (verifier : ProofVerifier) (mintPolicy : MintPolicy) (initialState : LedgerState)

def historyOf (records : List StoredRecord) : Except (Fault PersistentLedgerError) LedgerHistory :=
  records.foldlM (fun history stored =>
    validateRecord anchor validationContext verifier mintPolicy history stored.record)
    (genesisHistory anchor initialState)

variable {anchor validationContext verifier mintPolicy initialState} {file : List UInt8}
  {tail : Option IncompleteTail}

theorem truncateTail_of_scan (scanned : recordLog.scan file = .ok (records, tail)) :
    truncateTail tail file = .ok () (logOf records) := by
  cases tail with
  | none =>
    have isLog : file = logOf records := exact_recordLog.eq_fileOf scanned
    rw [← isLog]
    rfl
  | some tail => exact mapFailure_eq_ok.mpr (truncate_of_scan scanned)

/-- Without checkpoints a replay is the history of the records. -/
theorem foldlM_replayRecord_empty {recovery} :
    records.foldlM (replayRecord anchor validationContext verifier mintPolicy)
        ⟨genesisHistory anchor initialState, ∅, none⟩ = .ok recovery <->
      historyOf anchor validationContext verifier mintPolicy initialState records =
          .ok recovery.toLedgerHistory /\
        recovery.checkpointCandidates = ∅ /\ recovery.recoveredCheckpointSequence = none := by
  have mapped : (historyOf anchor validationContext verifier mintPolicy initialState records).map
      (fun history => Recovery.mk history ∅ none) =
      records.foldlM (replayRecord anchor validationContext verifier mintPolicy)
        ⟨genesisHistory anchor initialState, ∅, none⟩ := by
    refine @Except.map_foldlM _ _ _ _ _ _ _ _ (fun history => Recovery.mk history ∅ none)
      (fun _ => True) (fun _ _ => trivial) ?_ trivial
    intro history stored _
    unfold replayRecord
    cases validateRecord anchor validationContext verifier mintPolicy history stored.record with
    | error fault => rfl
    | ok next => rfl
  rw [← mapped]
  cases historyOf anchor validationContext verifier mintPolicy initialState records with
  | error fault =>
    refine iff_of_false ?_ (fun impossible => ?_)
    · intro impossible
      cases impossible
    · cases impossible.1
  | ok history =>
    constructor
    · intro same
      cases same
      exact ⟨rfl, rfl, rfl⟩
    · intro same
      rcases recovery with ⟨_, _, _⟩
      rcases same with ⟨same, rfl, rfl⟩
      cases same
      rfl

/-- Opening a log scans it, follows its records and keeps their frames. -/
theorem openLedger_of_scan {history}
    (valid : validateDeployment anchor validationContext verifier mintPolicy initialState = .ok ())
    (scanned : recordLog.scan file = .ok (records, tail))
    (replayed : historyOf anchor validationContext verifier mintPolicy initialState records =
      .ok history) :
    openLedger anchor validationContext verifier mintPolicy initialState file =
      .ok ⟨history, anchor, validationContext, logOf records, none, true⟩ (logOf records) := by
  refine openInternal_eq_ok.mpr ⟨valid, ⟨records, tail⟩,
    scanRecoverableTail_eq_ok.mpr scanned, ∅, rfl, ⟨history, ∅, none⟩, ?_,
    truncateTail_of_scan scanned, rfl⟩
  exact foldlM_replayRecord_empty.mpr ⟨replayed, rfl, rfl⟩

/-- A ledger whose log holds exactly the records of its history. -/
structure Standing (anchor : ChainAnchor) (validationContext : ValidationContext)
    (verifier : ProofVerifier) (mintPolicy : MintPolicy) (initialState : LedgerState)
    (ledger : PersistentLedger) (records : List StoredRecord) : Prop where
  stored : Stored records
  replayed : historyOf anchor validationContext verifier mintPolicy initialState records =
    .ok ledger.toLedgerHistory
  anchored : ledger.anchor = anchor
  context : ledger.validationContext = validationContext
  log : ledger.recordLog = logOf records
  available : ledger.writesAvailable = true

namespace Standing

variable
  (standing : Standing anchor validationContext verifier mintPolicy initialState ledger
  records)

include standing

theorem reopens
    (valid : validateDeployment anchor validationContext verifier mintPolicy initialState = .ok ()) :
    openLedger anchor validationContext verifier mintPolicy initialState ledger.recordLog =
      .ok ⟨ledger.toLedgerHistory, anchor, validationContext, ledger.recordLog, none, true⟩
        ledger.recordLog := by
  rw [standing.log]
  exact openLedger_of_scan valid (scan_logOf standing.stored) standing.replayed

/-- One more record and its complete frame. -/
theorem append
    (advances : Advances anchor validationContext verifier mintPolicy ledger.toLedgerHistory
      transaction record next) :
    Standing anchor validationContext verifier mintPolicy initialState
      { ledger with
        toLedgerHistory := next
        recordLog := ledger.recordLog ++ recordFrame record }
      (records ++ [⟨(logOf records).length, record⟩]) := by
  constructor
  case stored =>
    refine EntryLog.holds_append.mpr ⟨standing.stored, advances.isMade, ?_, trivial⟩
    rw [Nat.zero_add]
    rfl
  case replayed =>
    have validated := (validateRecord_eq_ok advances.isMade).mpr ⟨transaction, advances⟩
    rw [historyOf, List.foldlM_append]
    change (historyOf anchor validationContext verifier mintPolicy initialState records >>= _) = _
    rw [standing.replayed]
    change (validateRecord anchor validationContext verifier mintPolicy ledger.toLedgerHistory
      record >>= pure) = _
    rw [bind_pure, validated]
  case anchored => exact standing.anchored
  case context => exact standing.context
  case log =>
    change ledger.recordLog ++ recordFrame record = _
    rw [standing.log, logOf, logOf, EntryLog.fileOf_append, EntryLog.fileOf_singleton]
    rfl
  case available => exact standing.available

end Standing
end

/-! ## Sequences of calls -/

/-- A call, with what becomes of its write to the log. -/
structure ApplyCall where
  outcome : WriteOutcome
  transaction : Transaction

/-- The ledger after calls, whatever they answered. -/
def afterCalls (verifier : ProofVerifier) (mintPolicy : MintPolicy) (ledger : PersistentLedger)
    (calls : List ApplyCall) : PersistentLedger :=
  calls.foldl (fun ledger call =>
    finalState (PersistentLedger.apply verifier mintPolicy call.outcome call.transaction ledger))
    ledger

section
variable {anchor : ChainAnchor} {validationContext : ValidationContext} {verifier : ProofVerifier}
  {mintPolicy : MintPolicy} {initialState : LedgerState}

/-- Without available writes nothing changes any more. -/
theorem afterCalls_of_unavailable (unavailable : ledger.writesAvailable = false)
    (calls : List ApplyCall) : afterCalls verifier mintPolicy ledger calls = ledger := by
  induction calls with
  | nil => rfl
  | cons call rest ih =>
    have refused : PersistentLedger.apply verifier mintPolicy call.outcome call.transaction
        ledger = .error (.error .writeUnavailable) ledger := by
      rw [PersistentLedger.apply, get_bind, if_pos unavailable]
      rfl
    rw [afterCalls, List.foldl_cons, refused]
    exact ih

/-- The frame of a record was being written when a call failed. -/
structure Interrupted (verifier : ProofVerifier) (mintPolicy : MintPolicy)
    (before after : PersistentLedger) (call : ApplyCall) (record : TransactionRecord)
    (next : LedgerHistory) (written : Nat) : Prop where
  failed : ∃ operation, call.outcome = .failed operation written
  advances : Advances before.anchor before.validationContext verifier mintPolicy
    before.toLedgerHistory call.transaction record next
  left : after = { before with
    recordLog := before.recordLog ++ (recordFrame record).take written
    writesAvailable := false }

theorem Standing.call
    (standing : Standing anchor validationContext verifier mintPolicy initialState ledger records)
    (call : ApplyCall) {after}
    (isAfter : finalState (PersistentLedger.apply verifier mintPolicy call.outcome
      call.transaction ledger) = after) :
    (∃ more, Standing anchor validationContext verifier mintPolicy initialState after more /\
        after.recoveredCheckpointSequence = ledger.recoveredCheckpointSequence) ∨
      ∃ record next written,
        Interrupted verifier mintPolicy ledger after call record next written := by
  rcases apply_cases verifier mintPolicy call.outcome call.transaction ledger with
    ⟨fault, refused⟩ | ⟨_, record, next, advances, ⟨_, receipt, accepted⟩ |
      ⟨operation, written, failed, interrupted⟩⟩
  · rw [refused] at isAfter
    cases isAfter
    exact Or.inl ⟨records, standing, rfl⟩
  · rw [accepted] at isAfter
    cases isAfter
    rw [standing.anchored, standing.context] at advances
    exact Or.inl ⟨_, standing.append advances, rfl⟩
  · rw [interrupted] at isAfter
    exact Or.inr ⟨record, next, written, ⟨operation, failed⟩, advances, isAfter.symm⟩

/-- Calls keep a ledger standing until one of them is interrupted, and the ones
behind it change nothing. -/
theorem Standing.calls
    (standing : Standing anchor validationContext verifier mintPolicy initialState ledger records)
    (calls : List ApplyCall) :
    (∃ more, Standing anchor validationContext verifier mintPolicy initialState
        (afterCalls verifier mintPolicy ledger calls) more /\
        (afterCalls verifier mintPolicy ledger calls).recoveredCheckpointSequence =
          ledger.recoveredCheckpointSequence) ∨
      ∃ before call after more record next written, calls = before ++ call :: after /\
        Standing anchor validationContext verifier mintPolicy initialState
          (afterCalls verifier mintPolicy ledger before) more /\
        Interrupted verifier mintPolicy (afterCalls verifier mintPolicy ledger before)
          (afterCalls verifier mintPolicy ledger calls) call record next written /\
        (afterCalls verifier mintPolicy ledger before).recoveredCheckpointSequence =
          ledger.recoveredCheckpointSequence := by
  induction calls generalizing ledger records with
  | nil => exact Or.inl ⟨records, standing, rfl⟩
  | cons call rest ih =>
    have step : afterCalls verifier mintPolicy ledger (call :: rest) =
        afterCalls verifier mintPolicy (finalState (PersistentLedger.apply verifier mintPolicy
          call.outcome call.transaction ledger)) rest := rfl
    generalize isMiddle : finalState (PersistentLedger.apply verifier mintPolicy call.outcome
      call.transaction ledger) = middle at step
    rcases standing.call call isMiddle with ⟨more, stands, kept⟩ |
      ⟨record, next, written, interrupted⟩
    · rcases ih stands with ⟨others, later, same⟩ |
        ⟨before, last, after, others, record, next, written, isSplit, later, interrupted, same⟩
      · rw [step]
        exact Or.inl ⟨others, later, same.trans kept⟩
      have earlier : afterCalls verifier mintPolicy ledger (call :: before) =
          afterCalls verifier mintPolicy middle before := by
        rw [← isMiddle]
        rfl
      refine Or.inr ⟨call :: before, last, after, others, record, next, written, ?_, ?_⟩
      · rw [isSplit, List.cons_append]
      · rw [earlier, step]
        exact ⟨later, interrupted, same.trans kept⟩
    · have unavailable : middle.writesAvailable = false := by
        rw [interrupted.left]
      refine Or.inr ⟨[], call, rest, records, record, next, written, rfl, standing, ?_, rfl⟩
      rw [step, afterCalls_of_unavailable unavailable]
      exact interrupted

end
end

end Noxis.LedgerLog
