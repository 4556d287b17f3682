import Noxis.Execution.Executor

namespace Noxis.Execution

open Foundation Codec Crypto RecordChain Consensus

/-!
# One representation per transaction

Records and execution decode a transaction, encode it again and compare the
bytes.  The wire format has one representation per transaction, so none of
these comparisons ever fails.
-/

/-- A transaction is reported as non canonical, by execution itself or by the
record it makes. -/
def ReportsNonCanonical : Fault ExecutionError -> Prop
  | .error (.nonCanonicalTransaction _) => True
  | .error (.record _ .nonCanonicalTransaction) => True
  | .error (.recordChain _ .nonCanonicalTransaction) => True
  | _ => False

/-- How a transaction is refused before it reaches the ledger. -/
inductive RefusedTransaction (index : Nat) : ExecutionError -> Prop
  | tooLarge (actual : Nat) (maximum : UInt32) :
      RefusedTransaction index (.transactionBytesExceeded index actual maximum)
  | codec (source : CodecError) : RefusedTransaction index (.transactionCodec index source)
  | suite (expected actual : CryptoSuite) :
      RefusedTransaction index (.transactionCryptoSuiteMismatch index expected actual)

/-- How a proposal is refused before its transactions are read, for any reason
but a committed state out of step with its record chain. -/
inductive RefusedProposal : Fault ExecutionError -> Prop
  | heightOverflow : RefusedProposal (.error .heightOverflow)
  | height (expected actual : UInt64) : RefusedProposal (.error (.unexpectedHeight expected actual))
  | decision (error : EngineIdentityError) : RefusedProposal (.error (.engineIdentity error))
  | abort (cause : Panic) : RefusedProposal (.panic cause)
  | count (actual : Nat) (maximum : UInt32) :
      RefusedProposal (.error (.tooManyTransactions actual maximum))
  | bytes (actual : Nat) (maximum : UInt32) :
      RefusedProposal (.error (.proposalBytesExceeded actual maximum))
  | countOverflow : RefusedProposal (.error .transactionCountOverflow)

theorem foldlM_addLength_error {maximum : UInt32} {transactions : List (List UInt8)} {start : Nat}
    {fault : Fault ExecutionError}
    (failed : transactions.foldlM (addLength maximum) start = .error fault) :
    RefusedProposal fault := by
  induction transactions generalizing start with
  | nil => cases failed
  | cons bytes rest ih =>
    rw [List.foldlM_cons] at failed
    rcases Except.bind_eq_error.mp failed with overflow | ⟨next, _, later⟩
    · unfold addLength at overflow
      split at overflow
      · cases overflow
        exact .bytes _ _
      · cases overflow
    · exact ih later

section
variable [Sha256] (context : ExecutionContext)

theorem admitTransaction_error {bytes} {index : Nat} {reason}
    (failed : admitTransaction context bytes index = .error reason) :
    RefusedTransaction index reason := by
  unfold admitTransaction at failed
  split at failed
  · cases failed
    exact .tooLarge _ _
  rcases Except.bind_eq_error.mp failed with undecodable | ⟨transaction, decoded, failed⟩
  · rcases Except.mapError_eq_error.mp undecodable with ⟨source, _, rfl⟩
    exact .codec source
  have encoded := decodeTransaction_eq_ok.mp (Except.mapError_eq_ok.mp decoded)
  rw [encoded] at failed
  change (if bytes ≠ bytes then _ else _) = _ at failed
  rw [if_neg (not_not_intro rfl)] at failed
  split at failed
  · cases failed
    exact .suite _ _
  · rcases Except.bind_eq_error.mp failed with unidentified | ⟨_, _, impossible⟩
    · rcases Except.mapError_eq_error.mp unidentified with ⟨source, _, rfl⟩
      exact .codec source
    · cases impossible

theorem applyTransaction_failsWith (bytes : List UInt8) (index : Nat) :
    FailsWith (fun fault => ¬ReportsNonCanonical fault) (applyTransaction context bytes index) := by
  refine (FailsWith.check ?_).bind (fun admitted => FailsWith.get.bind (fun candidate => ?_))
  · intro reason failed
    rcases Except.mapError_eq_error.mp failed with ⟨_, refused, rfl⟩
    cases admitTransaction_error context refused <;> exact id
  · refine (FailsWith.onPart (FailsWith.mapFailure ?_)).bind (fun _ => FailsWith.get.bind
      (fun applied => (FailsWith.check ?_).bind (fun stateId => (FailsWith.check ?_).bind
        (fun record => (FailsWith.onPart (FailsWith.mapFailure ?_)).bind
          (fun _ => FailsWith.pure _)))))
    · intro start fault finish _
      cases fault <;> exact id
    · intro reason failed
      rcases Except.mapError_eq_error.mp failed with ⟨_, _, rfl⟩
      exact id
    · intro reason failed
      rcases Except.mapError_eq_error.mp failed with ⟨source, unmade, rfl⟩
      intro reported
      cases source with
      | nonCanonicalTransaction => exact TransactionRecord.new_ne_nonCanonical _ _ _ _ unmade
      | _ => exact reported
    · intro start source finish failed reported
      cases source with
      | nonCanonicalTransaction => exact Chain.apply_failsWith record _ _ _ failed rfl
      | _ => exact reported

theorem applyTransactions_failsWith (transactions : List (List UInt8)) (index : Nat) :
    FailsWith (fun fault => ¬ReportsNonCanonical fault)
      (applyTransactions context transactions index) := by
  induction transactions generalizing index with
  | nil => exact FailsWith.pure []
  | cons bytes rest ih =>
    exact (applyTransaction_failsWith context bytes index).bind (fun result =>
      (ih (index + 1)).bind (fun results => FailsWith.pure _))

variable {committed : CommittedExecutionState} {proposal : BlockProposal}
  {fault : Fault ExecutionError}

theorem admitProposal_error (failed : admitProposal context committed proposal = .error fault) :
    RefusedProposal fault ∨
      ∃ computed, committed.ledgerState.stateId context.chainAnchor.genesisId = .ok computed /\
        computed ≠ committed.recordChain.currentStateId /\
        fault = .error (.committedStateIdMismatch computed
          committed.recordChain.currentStateId) := by
  unfold admitProposal at failed
  split at failed
  · cases failed
    exact Or.inl .heightOverflow
  split at failed
  · cases failed
    exact Or.inl (.height _ _)
  rcases Except.bind_eq_error.mp failed with undecided | ⟨_, _, failed⟩
  · rcases Except.mapError_eq_error.mp undecided with ⟨error, _, rfl⟩
    exact Or.inl (.decision error)
  rcases Except.bind_eq_error.mp failed with aborted | ⟨computed, isComputed, failed⟩
  · rcases Except.mapError_eq_error.mp aborted with ⟨cause, _, rfl⟩
    exact Or.inl (.abort cause)
  split at failed
  · next differs =>
      cases failed
      exact Or.inr ⟨computed, Except.mapError_eq_ok.mp isComputed, differs, rfl⟩
  left
  split at failed
  · cases failed
    exact .count _ _
  rcases Except.bind_eq_error.mp failed with overflow | ⟨_, _, failed⟩
  · exact foldlM_addLength_error overflow
  split at failed
  · cases failed
    exact .bytes _ _
  · split at failed
    · cases failed
      exact .countOverflow
    · cases failed

theorem executeBlock_error (failed : executeBlock context committed proposal = .error fault) :
    ¬ReportsNonCanonical fault := by
  rcases Except.bind_eq_error.mp failed with refused | ⟨recordCount, _, failed⟩
  · rcases admitProposal_error context refused with isRefused | ⟨_, _, _, rfl⟩
    · cases isRefused <;> exact id
    · exact id
  cases outcome : applyTransactions context proposal.transactions 0 (.fromCommitted committed) with
  | error reason candidate =>
    rw [outcome] at failed
    cases failed
    exact applyTransactions_failsWith context _ _ _ _ _ outcome
  | ok results candidate =>
    rw [outcome] at failed
    rcases Except.bind_eq_error.mp failed with unsealed | ⟨_, _, impossible⟩
    · rcases Except.mapError_eq_error.mp unsealed with ⟨_, _, rfl⟩
      exact id
    · cases impossible

theorem simulateTransaction_failsWith (bytes : List UInt8) :
    FailsWith (fun fault => ¬ReportsNonCanonical fault) (simulateTransaction context bytes) :=
  (applyTransaction_failsWith context bytes 0).bind (fun _ => FailsWith.pure _)

end

/-- A transaction is encoded exactly when its shape is accepted, and then it is
decoded again; whatever is decoded is encoded to the same bytes, so no message
has a second representation.  Neither making nor decoding a record, nor
executing a block or simulating a transaction, ever reports a transaction as
non canonical. -/
theorem transactions_have_one_representation [Sha256] :
    (forall transaction, (∃ bytes, encodeTransaction transaction = .ok bytes) <->
        validateTransactionShape transaction = .ok ()) /\
      (forall transaction bytes, encodeTransaction transaction = .ok bytes ->
        decodeTransaction bytes = .ok transaction) /\
      (forall bytes transaction, decodeTransaction bytes = .ok transaction ->
        encodeTransaction transaction = .ok bytes) /\
      (forall left right transaction, decodeTransaction left = .ok transaction ->
        decodeTransaction right = .ok transaction -> left = right) /\
      (forall sequence previousStateId bytes resultingStateId,
        TransactionRecord.new sequence previousStateId bytes resultingStateId ≠
          .error .nonCanonicalTransaction) /\
      (forall bytes, TransactionRecord.decode bytes ≠ .error .nonCanonicalTransaction) /\
      (forall (context : ExecutionContext) committed proposal fault,
        executeBlock context committed proposal = .error fault -> ¬ReportsNonCanonical fault) /\
      (forall (context : ExecutionContext) bytes candidate fault next,
        simulateTransaction context bytes candidate = .error fault next ->
          ¬ReportsNonCanonical fault) := by
  refine ⟨?_, ?_, ?_, ?_, TransactionRecord.new_ne_nonCanonical,
    TransactionRecord.decode_ne_nonCanonical, ?_, ?_⟩
  · intro transaction
    simp only [encodeTransaction_eq_ok]
    constructor
    · rintro ⟨_, shaped, _⟩
      exact shaped
    · intro shaped
      exact ⟨_, shaped, rfl⟩
  · intro transaction bytes encoded
    exact decodeTransaction_eq_ok.mpr encoded
  · intro bytes transaction decoded
    exact decodeTransaction_eq_ok.mp decoded
  · intro left right transaction leftDecoded rightDecoded
    have leftEncoded := decodeTransaction_eq_ok.mp leftDecoded
    rw [decodeTransaction_eq_ok.mp rightDecoded] at leftEncoded
    exact (Except.ok.inj leftEncoded).symm
  · intro context committed proposal fault failed
    exact executeBlock_error context failed
  · intro context bytes candidate fault next failed
    exact simulateTransaction_failsWith context bytes candidate fault next failed

end Noxis.Execution
