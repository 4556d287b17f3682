import Noxis.Execution.Canonical
import Noxis.Execution.Chains

namespace Noxis.Execution

open Foundation Codec Ledger RecordChain Consensus CommittedExecutionState

/-!
# Chains from genesis

Along the blocks of a network the record chain stands at the identifier of the
ledger state and counts the accepted transactions, and every header continues
the one before it.  Every accepted transaction creates a commitment, and the
commitment tree is bounded, so the sequence numbers cannot run out.  Hence the
errors that report a chain out of step with itself are dead code: they are
kept apart from the errors a bad proposal can cause.
-/

/-- The error reports a committed state, a record or a header that does not
continue the chain. -/
def ReportsDiscontinuity : Fault ExecutionError -> Prop
  | .error (.committedStateIdMismatch _ _) => True
  | .error (.record _ .sequenceOverflow) => True
  | .error (.recordChain _ _) => True
  | .error (.consensus _) => True
  | _ => False

/-- There are no more records than commitments. -/
def CandidateExecutionState.Counted (candidate : CandidateExecutionState) : Prop :=
  candidate.recordChain.nextSequence.toNat <= candidate.ledgerState.commitmentTree.len + 1

/-- An accepted transaction finds a sequence number with a successor. -/
theorem CandidateExecutionState.Counted.room {candidate : CandidateExecutionState}
    (counted : candidate.Counted) {transaction : Transaction} {next : LedgerState}
    (accepts : candidate.ledgerState.Accepts transaction next) :
    candidate.recordChain.nextSequence.toNat + 1 < 2 ^ 64 := by
  have room := accepts.outputs.room
  have bounded : candidate.ledgerState.commitmentTree.capacity < 2 ^ 32 :=
    Merkle.maximumLeafCount_lt_index _
  unfold CandidateExecutionState.Counted at counted
  omega

variable {committed : CommittedExecutionState}

section
variable [Sha256] {context : ExecutionContext}

/-- One header continues the range and the result of another. -/
structure Continues (previous header : BlockHeader) : Prop where
  height : header.input.height.toNat = previous.input.height.toNat + 1
  parent : header.input.parentBlockId = some previous.id
  sequence : header.input.firstRecordSequence.toNat =
    previous.input.firstRecordSequence.toNat + previous.input.recordCount.toNat
  state : header.input.previousStateId = previous.input.resultingStateId

structure Begins (context : ExecutionContext) (header : BlockHeader) : Prop where
  height : header.input.height = 1
  parent : header.input.parentBlockId = none
  sequence : header.input.firstRecordSequence = 1
  state : header.input.previousStateId = context.chainAnchor.genesisStateId

/-- The header of a block in terms of the state the block was executed on. -/
structure HeaderOf (committed : CommittedExecutionState) (block : ExecutedBlock) : Prop where
  height : block.header.input.height.toNat = committed.height.toNat + 1
  parent : block.header.input.parentBlockId = committed.blockId
  sequence : block.header.input.firstRecordSequence = committed.recordChain.nextSequence
  count : block.header.input.recordCount.toNat = block.records.length
  previous : block.header.input.previousStateId = committed.recordChain.currentStateId
  result : block.header.input.resultingStateId = block.resultingRecordChain.currentStateId

namespace Executes

variable {proposal : BlockProposal} {block : ExecutedBlock}

theorem headerOf (executes : Executes context committed proposal block) :
    HeaderOf committed block := by
  rcases input_of_sealHeader executes.isSealed with ⟨commitment, isInput⟩
  constructor
  · exact executes.height
  · rw [isInput]
    rfl
  · rw [isInput]
    rfl
  · rw [isInput, executes.runs.length_records]
    exact executes.limits.toNat_recordCount
  · rw [isInput]
    rfl
  · rw [isInput]
    rfl

theorem continues (executes : Executes context committed proposal block) {nextProposal next}
    (nextExecutes : Executes context block.intoCommittedState nextProposal next) :
    Continues block.header next.header := by
  have here := executes.headerOf
  have later := nextExecutes.headerOf
  constructor
  · exact later.height
  · exact later.parent
  · rw [later.sequence, here.sequence, here.count]
    exact executes.runs.nextSequence
  · rw [later.previous, here.result]
    rfl

theorem begins {ledgerState}
    (made : CommittedExecutionState.genesis ledgerState context.chainAnchor = .ok committed)
    (executes : Executes context committed proposal block) : Begins context block.header := by
  have here := executes.headerOf
  rcases genesis_eq_ok.mp made with ⟨_, rfl⟩
  constructor
  · apply UInt64.toNat_inj.mp
    exact here.height
  · exact here.parent
  · exact here.sequence
  · exact here.previous

end Executes

namespace Executions

variable {proposals : List BlockProposal} {blocks : List ExecutedBlock}

theorem isChain (executions : Executions context committed proposals blocks) :
    (blocks.map ExecutedBlock.header).IsChain Continues := by
  induction executions with
  | nil committed => exact List.isChain_nil
  | cons executes rest ih =>
    cases rest with
    | nil _ => exact List.isChain_singleton _
    | cons nextExecutes later =>
      rw [List.map_cons, List.map_cons, List.isChain_cons_cons]
      exact ⟨executes.continues nextExecutes, ih⟩

theorem height (executions : Executions context committed proposals blocks) :
    (tipAfter committed blocks).height.toNat = committed.height.toNat + blocks.length := by
  induction executions with
  | nil committed => rfl
  | cons executes rest ih =>
    rw [tipAfter, ih, executes.height, List.length_cons]
    omega

theorem blockId (executions : Executions context committed proposals blocks) :
    (tipAfter committed blocks).blockId =
      (blocks.getLast?.map (fun block => block.header.id)).or committed.blockId := by
  induction executions with
  | nil committed => rfl
  | cons executes rest ih =>
    rw [tipAfter, ih]
    cases rest with
    | nil _ => rfl
    | cons nextExecutes later =>
      grind

end Executions

variable {candidate next : CandidateExecutionState} {bytes : List UInt8}
  {transaction : Transaction} {record : TransactionRecord}

theorem Applies.accepts (applies : Applies context candidate bytes transaction record next) :
    candidate.ledgerState.Accepts transaction next.ledgerState :=
  LedgerState.apply_eq_ok applies.applied

theorem Applies.counted (applies : Applies context candidate bytes transaction record next)
    (counted : candidate.Counted) : next.Counted := by
  have created := List.length_pos_iff.mpr applies.accepts.outputs.nonempty
  have leaves : next.ledgerState.commitmentTree.len =
      candidate.ledgerState.commitmentTree.len + transaction.outputs.length := by
    change next.ledgerState.commitmentTree.commitments.length = _
    rw [applies.accepts.appended.leaves, List.length_append]
    rfl
  grind [CandidateExecutionState.Counted, nextSequence]

variable {transactions : List (List UInt8)}

theorem Runs.counted {records} (runs : Runs context candidate transactions records next)
    (counted : candidate.Counted) : next.Counted := by
  induction runs with
  | nil candidate => exact counted
  | cons applies runs ih => exact ih (applies.counted counted)

/-- The ledger after a run has the history before it and the transactions of the records. -/
theorem Runs.represents {records history} (runs : Runs context candidate transactions records next)
    (represented : candidate.ledgerState.Represents history) :
    ∃ accepted, accepted.map encodeTransaction =
        records.map (fun record => .ok record.transactionBytes) /\
      next.ledgerState.Represents (history ++ accepted) := by
  induction runs generalizing history with
  | nil candidate => exact ⟨[], rfl, by rwa [List.append_nil]⟩
  | cons applies runs ih =>
    rcases ih (LedgerState.represents_of_accepts represented applies.accepts) with
      ⟨accepted, encoded, reached⟩
    rw [List.append_assoc] at reached
    refine ⟨_, ?_, reached⟩
    rw [List.singleton_append, List.map_cons, List.map_cons, encoded, applies.encoded,
      (TransactionRecord.made_of_new applies.made).2.2.2.1]

theorem counted_of_reachable (reachable : Reachable context committed) :
    (CandidateExecutionState.fromCommitted committed).Counted := by
  induction reachable with
  | genesis made =>
    rcases genesis_eq_ok.mp made with ⟨_, rfl⟩
    change 1 <= _ + 1
    omega
  | block reachable executed ih =>
    have executes := (executeBlock_eq_ok (sound_of_reachable reachable)).mp executed
    exact executes.runs.counted ih

/-! ## Errors that never occur -/

variable {index : Nat} {fault : Fault ExecutionError}

/-- A failure never reports a discontinuity, and what is returned with an error is the
candidate as it was: nothing after the step of the ledger can be refused. -/
theorem applyTransaction_error (counted : candidate.Counted)
    (failed : applyTransaction context bytes index candidate = .error fault next) :
    ¬ReportsDiscontinuity fault /\ (forall reason, fault = .error reason -> next = candidate) := by
  unfold applyTransaction onLedger onRecordChain at failed
  simp only [bind_eq_error, check_eq_error, check_eq_ok, Except.mapError_eq_error,
    Except.mapError_eq_ok, get_bind, onPart_eq_error, onPart_eq_ok, mapFailure_eq_error,
    mapFailure_eq_ok] at failed
  rcases failed with ⟨⟨reason, refused, rfl⟩, same⟩ |
    ⟨⟨transaction, intentId⟩, _, ⟨admitted, rfl⟩, failed⟩
  · refine ⟨?_, fun _ _ => same⟩
    cases admitTransaction_error context refused <;> exact id
  rcases failed with ⟨_, ⟨cause, rejected, rfl⟩, same⟩ | ⟨_, _, ⟨ledgerState, applied, rfl⟩, failed⟩
  · refine ⟨by cases cause <;> exact id, fun _ _ => ?_⟩
    rw [same, (LedgerState.apply_eq_error rejected).2]
  rcases failed with ⟨⟨cause, _, rfl⟩, _⟩ | ⟨stateId, _, ⟨_, rfl⟩, failed⟩
  · refine ⟨id, ?_⟩
    intro reason impossible
    cases impossible
  rcases admitTransaction_eq_ok.mp admitted with ⟨encoded, _, hasIntent⟩
  rw [TransactionRecord.new_of_encoded _ _ _ encoded hasIntent] at failed
  rcases failed with ⟨⟨_, unmade, _⟩, _⟩ | ⟨record, _, ⟨isMade, rfl⟩, failed⟩
  · cases unmade
  rcases failed with ⟨_, ⟨source, unlinked, _⟩, _⟩ | ⟨_, _, _, impossible⟩
  · cases isMade
    rw [Chain.apply_of_extends ⟨rfl, rfl, counted.room (LedgerState.apply_eq_ok applied)⟩]
      at unlinked
    cases unlinked
  · cases impossible

theorem applyTransactions_error (counted : candidate.Counted)
    (failed : applyTransactions context transactions index candidate = .error fault next) :
    ¬ReportsDiscontinuity fault := by
  induction transactions generalizing candidate index with
  | nil => cases failed
  | cons bytes rest ih =>
    rcases bind_eq_error.mp failed with here | ⟨⟨record, receipt⟩, middle, applied, failed⟩
    · exact (applyTransaction_error counted here).1
    · rcases applyTransaction_eq_ok.mp applied with ⟨⟨transaction, applies⟩, _⟩
      rcases bind_eq_error.mp failed with later | ⟨_, _, _, impossible⟩
      · exact ih (applies.counted counted) later
      · cases impossible

theorem executeBlock_continues (reachable : Reachable context committed) {proposal}
    (failed : executeBlock context committed proposal = .error fault) :
    ¬ReportsDiscontinuity fault := by
  have sound := sound_of_reachable reachable
  rcases Except.bind_eq_error.mp failed with refused | ⟨recordCount, admitted, failed⟩
  · rcases admitProposal_error context refused with isRefused | ⟨computed, isComputed, differs, _⟩
    · cases isRefused <;> exact id
    · have isCurrent : Except.ok committed.recordChain.currentStateId = .ok computed :=
        sound.consistent.symm.trans isComputed
      exact absurd (Except.ok.inj isCurrent).symm differs
  · cases outcome : applyTransactions context proposal.transactions 0
        (.fromCommitted committed) with
    | error reason candidate =>
      grind [applyTransactions_error, counted_of_reachable]
    | ok results candidate =>
      rw [outcome] at failed
      rcases (admitProposal_eq_ok sound.consistent).mp admitted with ⟨limits, rfl⟩
      rcases applyTransactions_eq_ok.mp outcome with ⟨records, runs, rfl⟩
      rcases sealHeader_of_runs sound limits runs with ⟨header, isSealed⟩
      rcases Except.bind_eq_error.mp failed with unsealed | ⟨_, _, impossible⟩
      · rw [List.map_map] at unsealed
        have sameRecords : records.map (Prod.fst ∘ fun record =>
            (record, ExecutionReceipt.ofRecord record)) = records := List.map_id records
        rw [sameRecords, isSealed] at unsealed
        cases unsealed
      · cases impossible

theorem executeBlocks_continues (reachable : Reachable context committed) {proposals}
    (failed : executeBlocks context committed proposals = .error fault) :
    ¬ReportsDiscontinuity fault := by
  induction proposals generalizing committed with
  | nil => cases failed
  | cons proposal rest ih =>
    rcases Except.bind_eq_error.mp failed with here | ⟨block, executed, failed⟩
    · exact executeBlock_continues reachable here
    · rcases Except.bind_eq_error.mp failed with later | ⟨_, _, impossible⟩
      · exact ih (Reachable.block reachable executed) later
      · cases impossible

/-- The candidates a caller holds who simulates transactions on a committed state and
keeps the candidate after every outcome that is returned. -/
inductive Simulated (context : ExecutionContext) (committed : CommittedExecutionState) :
    CandidateExecutionState -> Prop where
  | start : Simulated context committed (.fromCommitted committed)
  | accepted {candidate next : CandidateExecutionState} {bytes : List UInt8}
      {receipt : ExecutionReceipt} (simulated : Simulated context committed candidate)
      (finished : simulateTransaction context bytes candidate = .ok receipt next) :
      Simulated context committed next
  | rejected {candidate next : CandidateExecutionState} {bytes : List UInt8}
      {reason : ExecutionError} (simulated : Simulated context committed candidate)
      (failed : simulateTransaction context bytes candidate = .error (.error reason) next) :
      Simulated context committed next

theorem simulateTransaction_error (counted : candidate.Counted) {reason}
    (failed : simulateTransaction context bytes candidate = .error (.error reason) next) :
    next = candidate := by
  rcases bind_eq_error.mp failed with here | ⟨_, _, _, impossible⟩
  · exact (applyTransaction_error counted here).2 reason rfl
  · cases impossible

theorem Simulated.runs (reachable : Reachable context committed)
    (simulated : Simulated context committed candidate) : ∃ transactions records,
      Runs context (.fromCommitted committed) transactions records candidate := by
  induction simulated with
  | start => exact ⟨[], [], Runs.nil _⟩
  | accepted simulated finished ih =>
    rcases ih with ⟨transactions, records, runs⟩
    rcases bind_eq_ok.mp finished with ⟨⟨record, receipt⟩, _, applied, same⟩
    rcases applyTransaction_eq_ok.mp applied with ⟨⟨transaction, applies⟩, _⟩
    cases same
    exact ⟨_, _, runs.append (.cons applies (.nil _))⟩
  | rejected simulated failed ih =>
    rcases ih with ⟨transactions, records, runs⟩
    rw [simulateTransaction_error (runs.counted (counted_of_reachable reachable)) failed]
    exact ⟨transactions, records, runs⟩

/-- Over any mix of accepted and rejected transactions a candidate is what the accepted
ones alone lead to, and a rejected one leaves it exactly as it was. -/
theorem rejected_simulations_change_nothing (context : ExecutionContext) :
    (forall committed candidate, Reachable context committed ->
      Simulated context committed candidate -> ∃ transactions records,
        Runs context (.fromCommitted committed) transactions records candidate) /\
    (forall committed candidate, Reachable context committed ->
      Simulated context committed candidate -> forall bytes reason next,
        simulateTransaction context bytes candidate = .error (.error reason) next ->
          next = candidate) := by
  constructor
  · intro committed candidate reachable simulated
    exact simulated.runs reachable
  · intro committed candidate reachable simulated bytes reason next failed
    rcases simulated.runs reachable with ⟨transactions, records, runs⟩
    exact simulateTransaction_error (runs.counted (counted_of_reachable reachable)) failed

/-- Every chain of blocks executed from genesis is in step with itself: its
record chain stands at the identifier of its ledger state and counts the
accepted transactions, heights count the blocks, every header continues the
one before it, and the terminal hash is that of the last record.  Executing
proposals from genesis therefore never fails for a discontinuity. -/
theorem chains_from_genesis_continue {ledgerState : LedgerState}
    {genesis : CommittedExecutionState}
    (made : CommittedExecutionState.genesis ledgerState context.chainAnchor = .ok genesis) :
    (forall proposals blocks, executeBlocks context genesis proposals = .ok blocks ->
      (tipAfter genesis blocks).ledgerState.stateId context.chainAnchor.genesisId =
          .ok (tipAfter genesis blocks).recordChain.currentStateId /\
        (tipAfter genesis blocks).recordChain.currentSequence.toNat =
          (proposals.flatMap BlockProposal.transactions).length /\
        (tipAfter genesis blocks).height.toNat = blocks.length /\
        (tipAfter genesis blocks).blockId =
          blocks.getLast?.map (fun block => block.header.id) /\
        (forall block, blocks.head? = some block -> Begins context block.header) /\
        (blocks.map ExecutedBlock.header).IsChain Continues /\
        (tipAfter genesis blocks).terminalRecordHash =
          (blocks.flatMap ExecutedBlock.records).getLast?.map TransactionRecord.recordHash) /\
      forall proposals fault, executeBlocks context genesis proposals = .error fault ->
        ¬ReportsDiscontinuity fault := by
  have reachable : Reachable context genesis := Reachable.genesis made
  have sound := sound_of_reachable reachable
  refine ⟨?_, fun proposals fault failed => executeBlocks_continues reachable failed⟩
  intro proposals blocks executed
  have executions := (executeBlocks_eq_ok sound).mp executed
  have counting := executions.runs.nextSequence
  rcases genesis_eq_ok.mp made with ⟨_, isGenesis⟩
  have fresh : genesis.terminalRecordHash = none /\ genesis.blockId = none /\
      genesis.height = 0 /\ genesis.recordChain.nextSequence = 1 := by
    rw [isGenesis]
    exact ⟨rfl, rfl, rfl, rfl⟩
  refine ⟨(executions.sound sound).consistent, ?_, ?_, ?_, ?_, executions.isChain, ?_⟩
  · change _ = genesis.recordChain.nextSequence.toNat + _ at counting
    rw [fresh.2.2.2, executions.runs.length_records] at counting
    change (tipAfter genesis blocks).recordChain.nextSequence.toNat = 1 + _ at counting
    have atLeastOne : (1 : UInt64) <= (tipAfter genesis blocks).recordChain.nextSequence :=
      UInt64.le_iff_toNat_le.mpr (by rw [counting]; exact Nat.le_add_right 1 _)
    rw [Chain.currentSequence, UInt64.toNat_sub_of_le _ _ atLeastOne, counting]
    exact Nat.add_sub_cancel_left 1 _
  · rw [executions.height, fresh.2.2.1]
    exact Nat.zero_add _
  · rw [executions.blockId, fresh.2.1, Option.or_none]
  · intro block isFirst
    cases executions with
    | nil _ => cases isFirst
    | cons executes rest =>
      cases isFirst
      exact executes.begins made
  · rw [executions.terminal, fresh.1, Option.or_none]

end

open Fips180 in
theorem testPartition_continues : ∃ blocks,
    executeBlocks testExecutionContext testCommitted testPartition = .ok blocks /\
      (tipAfter testCommitted blocks).recordChain.currentSequence.toNat = 2 /\
      (tipAfter testCommitted blocks).height.toNat = blocks.length /\
      (blocks.map ExecutedBlock.header).IsChain Continues := by
  rcases exists_executeBlocks_testPartition with ⟨blocks, executed⟩
  have facts := (chains_from_genesis_continue genesis_testCommitted).1 _ _ executed
  exact ⟨blocks, executed, facts.2.1, facts.2.2.1, facts.2.2.2.2.2.1⟩

end Noxis.Execution
