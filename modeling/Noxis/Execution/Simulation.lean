import Noxis.Execution.Executor

namespace Noxis.Execution

open Foundation Codec Ledger RecordChain

/-!
# Runs of single transactions

What one transaction does to a candidate is a relation that mentions neither
its index nor the errors it might have raised.  Executing the transactions of
a block and simulating them one after another both follow runs of that
relation, so they agree on everything but the error indices.
-/

section
variable [Sha256] {context : ExecutionContext}

variable {bytes : List UInt8} {index : Nat} {transaction : Transaction}

theorem admitTransaction_eq_ok {intentId} :
    admitTransaction context bytes index = .ok (transaction, intentId) <->
      encodeTransaction transaction = .ok bytes /\
        transaction.suite = context.validationContext.cryptoSuite /\
        transactionIntentId transaction = .ok intentId := by
  unfold admitTransaction
  simp only [Except.refuse_eq_ok, Except.bind_eq_ok, Except.mapError_eq_ok, not_not]
  constructor
  · rintro ⟨_, found, _, canonical, encoded, rfl, sameSuite, intent, identified, same⟩
    cases same
    exact ⟨encoded, sameSuite, identified⟩
  · rintro ⟨encoded, sameSuite, identified⟩
    exact ⟨Nat.not_lt.mpr (length_le_of_encodeTransaction encoded), transaction,
      decodeTransaction_eq_ok.mpr encoded, bytes, encoded, rfl, sameSuite, intentId, identified,
      rfl⟩

/-- The bytes are those of a transaction that takes the candidate to the next
one and leaves this record. -/
structure Applies (context : ExecutionContext) (candidate : CandidateExecutionState)
    (bytes : List UInt8) (transaction : Transaction) (record : TransactionRecord)
    (next : CandidateExecutionState) : Prop where
  encoded : encodeTransaction transaction = .ok bytes
  suite : transaction.suite = context.validationContext.cryptoSuite
  identified : transactionIntentId transaction = .ok record.transactionIntentId
  applied : LedgerState.apply transaction context.verifier context.mintPolicy
    ⟨context.chainAnchor.genesisId, context.chainAnchor.validationContextId,
      record.transactionIntentId, candidate.recordChain.currentStateId⟩ candidate.ledgerState =
        .ok () next.ledgerState
  state : next.ledgerState.stateId context.chainAnchor.genesisId = .ok record.resultingStateId
  made : TransactionRecord.new candidate.recordChain.nextSequence
    candidate.recordChain.currentStateId bytes record.resultingStateId = .ok record
  linked : Chain.apply record candidate.recordChain = .ok () next.recordChain

variable {candidate next : CandidateExecutionState} {record : TransactionRecord}

theorem applyTransaction_eq_ok {receipt} :
    applyTransaction context bytes index candidate = .ok (record, receipt) next <->
      (∃ transaction, Applies context candidate bytes transaction record next) /\
        receipt = .ofRecord record := by
  unfold applyTransaction onLedger onRecordChain
  simp only [bind_eq_ok, check_eq_ok, Except.mapError_eq_ok, get_bind, onPart_eq_ok,
    mapFailure_eq_ok]
  constructor
  · rintro ⟨⟨transaction, intentId⟩, _, ⟨admitted, rfl⟩, _, afterLedger,
      ⟨ledgerState, applied, rfl⟩, stateId, _, ⟨state, rfl⟩, made, _, ⟨isMade, rfl⟩,
      _, afterChain, ⟨recordChain, linked, rfl⟩, same⟩
    cases same
    rcases admitTransaction_eq_ok.mp admitted with ⟨encoded, suite, identified⟩
    rw [TransactionRecord.new_of_encoded _ _ _ encoded identified] at isMade
    cases isMade
    exact ⟨⟨transaction, encoded, suite, identified, applied, state,
      TransactionRecord.new_of_encoded _ _ _ encoded identified, linked⟩, rfl⟩
  · rintro ⟨⟨transaction, applies⟩, rfl⟩
    have admitted : admitTransaction context bytes index =
        .ok (transaction, record.transactionIntentId) :=
      admitTransaction_eq_ok.mpr ⟨applies.encoded, applies.suite, applies.identified⟩
    exact ⟨_, _, ⟨admitted, rfl⟩, _, _, ⟨_, applies.applied, rfl⟩, _, _, ⟨applies.state, rfl⟩,
      _, _, ⟨applies.made, rfl⟩, _, _, ⟨_, applies.linked, rfl⟩, rfl⟩

theorem Applies.nextSequence (applies : Applies context candidate bytes transaction record next) :
    next.recordChain.nextSequence.toNat = candidate.recordChain.nextSequence.toNat + 1 := by
  rcases Chain.apply_eq_ok.mp applies.linked with ⟨linked, isNext⟩
  have room := linked.room
  have one : (1 : UInt64).toNat = 1 := rfl
  rw [isNext, UInt64.toNat_add, one, Nat.mod_eq_of_lt room]

/-- The transactions take the first candidate to the last one and leave these
records, in order. -/
inductive Runs (context : ExecutionContext) : CandidateExecutionState -> List (List UInt8) ->
    List TransactionRecord -> CandidateExecutionState -> Prop where
  | nil (candidate : CandidateExecutionState) : Runs context candidate [] [] candidate
  | cons {candidate middle next : CandidateExecutionState} {bytes : List UInt8}
      {transaction : Transaction} {record : TransactionRecord} {rest : List (List UInt8)}
      {records : List TransactionRecord}
      (applies : Applies context candidate bytes transaction record middle)
      (runs : Runs context middle rest records next) :
      Runs context candidate (bytes :: rest) (record :: records) next

variable {transactions : List (List UInt8)}

theorem applyTransactions_eq_ok {results} :
    applyTransactions context transactions index candidate = .ok results next <->
      ∃ records, Runs context candidate transactions records next /\
        results = records.map (fun record => (record, .ofRecord record)) := by
  induction transactions generalizing candidate next index results with
  | nil =>
    constructor
    · intro finished
      cases finished
      exact ⟨[], Runs.nil _, rfl⟩
    · rintro ⟨records, runs, rfl⟩
      cases runs
      rfl
  | cons bytes rest ih =>
    unfold applyTransactions
    simp only [bind_eq_ok, ih]
    constructor
    · rintro ⟨⟨record, receipt⟩, middle, stepped, later, final, ⟨records, runs, rfl⟩, same⟩
      rcases applyTransaction_eq_ok.mp stepped with ⟨⟨transaction, applies⟩, rfl⟩
      cases same
      exact ⟨record :: records, Runs.cons applies runs, rfl⟩
    · rintro ⟨_, runs, rfl⟩
      cases runs with
      | cons applies runs =>
        exact ⟨_, _, applyTransaction_eq_ok.mpr ⟨⟨_, applies⟩, rfl⟩, _, _, ⟨_, runs, rfl⟩, rfl⟩

def simulateTransactions (context : ExecutionContext) :
    List (List UInt8) -> EStateM (Fault ExecutionError) CandidateExecutionState
      (List ExecutionReceipt)
  | [] => pure []
  | bytes :: rest => do
      let receipt ← simulateTransaction context bytes
      let receipts ← simulateTransactions context rest
      return receipt :: receipts

theorem simulateTransactions_eq_ok {receipts} :
    simulateTransactions context transactions candidate = .ok receipts next <->
      ∃ records, Runs context candidate transactions records next /\
        receipts = records.map .ofRecord := by
  induction transactions generalizing candidate next receipts with
  | nil =>
    constructor
    · intro finished
      cases finished
      exact ⟨[], Runs.nil _, rfl⟩
    · rintro ⟨records, runs, rfl⟩
      cases runs
      rfl
  | cons bytes rest ih =>
    unfold simulateTransactions simulateTransaction
    simp only [bind_eq_ok, ih]
    constructor
    · rintro ⟨receipt, middle, ⟨⟨record, _⟩, _, stepped, same⟩, later, final,
        ⟨records, runs, rfl⟩, finished⟩
      rcases applyTransaction_eq_ok.mp stepped with ⟨⟨transaction, applies⟩, rfl⟩
      cases same
      cases finished
      exact ⟨record :: records, Runs.cons applies runs, rfl⟩
    · rintro ⟨_, runs, rfl⟩
      cases runs with
      | cons applies runs =>
        exact ⟨_, _, ⟨_, _, applyTransaction_eq_ok.mpr ⟨⟨_, applies⟩, rfl⟩, rfl⟩, _, _,
          ⟨_, runs, rfl⟩, rfl⟩

variable {records : List TransactionRecord}

theorem Runs.nextSequence (runs : Runs context candidate transactions records next) :
    next.recordChain.nextSequence.toNat =
      candidate.recordChain.nextSequence.toNat + records.length := by
  induction runs with
  | nil candidate => rfl
  | cons applies runs ih =>
    rw [ih, applies.nextSequence, List.length_cons]
    omega

theorem Runs.length_records (runs : Runs context candidate transactions records next) :
    records.length = transactions.length := by
  induction runs with
  | nil candidate => rfl
  | cons applies runs ih =>
    rw [List.length_cons, List.length_cons, ih]

/-- The record chain stands at the identifier of the ledger state. -/
def CandidateExecutionState.Consistent (context : ExecutionContext)
    (candidate : CandidateExecutionState) : Prop :=
  candidate.ledgerState.stateId context.chainAnchor.genesisId =
    .ok candidate.recordChain.currentStateId

theorem Applies.consistent (applies : Applies context candidate bytes transaction record next) :
    next.Consistent context := by
  rw [CandidateExecutionState.Consistent, (Chain.apply_eq_ok.mp applies.linked).2]
  exact applies.state

theorem Runs.consistent (runs : Runs context candidate transactions records next)
    (start : candidate.Consistent context) : next.Consistent context := by
  induction runs with
  | nil candidate => exact start
  | cons applies runs ih => exact ih applies.consistent

end
end Noxis.Execution
