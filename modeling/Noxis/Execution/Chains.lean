import Noxis.Execution.Blocks

namespace Noxis.Execution

open Foundation RecordChain Consensus

/-!
# Chains of blocks

Proposals are executed one after another, each on the state that the block
before it left.  A chain of executed blocks is one run of all its
transactions, so how the transactions are cut into blocks does not matter to
ledger, record chain and records.  The headers of a chain from genesis link up,
and the errors that would reveal a chain out of step with itself never occur.
-/

variable {committed : CommittedExecutionState} {proposals : List BlockProposal}

section
variable [Sha256]

/-- Execute proposals in order, each on the state the one before left. -/
def executeBlocks (context : ExecutionContext) : CommittedExecutionState -> List BlockProposal ->
    Except (Fault ExecutionError) (List ExecutedBlock)
  | _, [] => .ok []
  | committed, proposal :: rest => do
      let block ← executeBlock context committed proposal
      let blocks ← executeBlocks context block.intoCommittedState rest
      return block :: blocks

def tipAfter (committed : CommittedExecutionState) : List ExecutedBlock -> CommittedExecutionState
  | [] => committed
  | block :: rest => tipAfter block.intoCommittedState rest

variable {context : ExecutionContext}

namespace Runs

variable {candidate middle next : CandidateExecutionState} {first second : List (List UInt8)}

theorem append {firstRecords secondRecords}
    (before : Runs context candidate first firstRecords middle)
    (after : Runs context middle second secondRecords next) :
    Runs context candidate (first ++ second) (firstRecords ++ secondRecords) next := by
  induction before with
  | nil candidate => exact after
  | cons applies runs ih => exact Runs.cons applies (ih after)

variable {records : List TransactionRecord}

theorem split (runs : Runs context candidate (first ++ second) records next) :
    ∃ firstRecords middle secondRecords, Runs context candidate first firstRecords middle /\
      Runs context middle second secondRecords next := by
  induction first generalizing candidate records with
  | nil => exact ⟨[], candidate, records, Runs.nil candidate, runs⟩
  | cons bytes rest ih =>
    cases runs with
    | cons applies runs =>
      rcases ih runs with ⟨firstRecords, middle, secondRecords, before, after⟩
      exact ⟨_, middle, secondRecords, Runs.cons applies before, after⟩

theorem unique {transactions other otherRecords}
    (runs : Runs context candidate transactions records next)
    (otherRuns : Runs context candidate transactions otherRecords other) :
    records = otherRecords /\ next = other := by
  have computed : applyTransactions context transactions 0 candidate = .ok _ next :=
    applyTransactions_eq_ok.mpr ⟨records, runs, rfl⟩
  rw [applyTransactions_eq_ok.mpr ⟨otherRecords, otherRuns, rfl⟩] at computed
  injection computed with sameResults sameState
  have paired : Function.Injective
      (fun record : TransactionRecord => (record, ExecutionReceipt.ofRecord record)) :=
    fun _ _ same => (Prod.mk.inj same).1
  grind [List.map_injective_iff]

end Runs

/-! ## Chains of executed blocks -/

/-- Each block was executed on the state the one before left. -/
inductive Executions (context : ExecutionContext) : CommittedExecutionState ->
    List BlockProposal -> List ExecutedBlock -> Prop where
  | nil (committed : CommittedExecutionState) : Executions context committed [] []
  | cons {committed : CommittedExecutionState} {proposal : BlockProposal} {block : ExecutedBlock}
      {proposals : List BlockProposal} {blocks : List ExecutedBlock}
      (executes : Executes context committed proposal block)
      (rest : Executions context block.intoCommittedState proposals blocks) :
      Executions context committed (proposal :: proposals) (block :: blocks)

theorem executeBlocks_eq_ok {blocks} (sound : committed.Sound context) :
    executeBlocks context committed proposals = .ok blocks <->
      Executions context committed proposals blocks := by
  induction proposals generalizing committed blocks with
  | nil =>
    constructor
    · intro finished
      cases finished
      exact Executions.nil committed
    · intro executions
      cases executions
      rfl
  | cons proposal rest ih =>
    simp only [executeBlocks, Except.bind_eq_ok]
    constructor
    · intro finished
      rcases finished with ⟨block, executed, blocks, later, same⟩
      cases same
      have executes := (executeBlock_eq_ok sound).mp executed
      exact Executions.cons executes ((ih (executes.sound sound)).mp later)
    · intro executions
      cases executions with
      | cons executes later =>
        exact ⟨_, (executeBlock_eq_ok sound).mpr executes, _,
          (ih (executes.sound sound)).mpr later, rfl⟩

namespace Executions

variable {blocks : List ExecutedBlock}
  (executions : Executions context committed proposals blocks)

include executions

theorem sound (start : committed.Sound context) : (tipAfter committed blocks).Sound context := by
  induction executions with
  | nil committed => exact start
  | cons executes rest ih => exact ih (executes.sound start)

/-- The blocks of a chain hold one run of all their transactions. -/
theorem runs :
    Runs context (.fromCommitted committed) (proposals.flatMap BlockProposal.transactions)
      (blocks.flatMap ExecutedBlock.records) (.fromCommitted (tipAfter committed blocks)) := by
  induction executions with
  | nil committed => exact Runs.nil _
  | cons executes rest ih =>
    rw [List.flatMap_cons, List.flatMap_cons]
    exact executes.runs.append ih

theorem receipts :
    blocks.flatMap ExecutedBlock.receipts =
      (blocks.flatMap ExecutedBlock.records).map ExecutionReceipt.ofRecord := by
  induction executions with
  | nil committed => rfl
  | cons executes rest ih =>
    grind [Executes.receipts]

theorem terminal :
    (tipAfter committed blocks).terminalRecordHash =
      ((blocks.flatMap ExecutedBlock.records).getLast?.map TransactionRecord.recordHash).or
        committed.terminalRecordHash := by
  induction executions with
  | nil committed => rfl
  | cons executes rest ih =>
    rw [tipAfter, ih, List.flatMap_cons, List.getLast?_append, Option.map_or, Option.or_assoc]
    exact congrArg _ executes.terminal

end Executions

/-- Proposals for consecutive heights, each within the limits and with a valid
decision.  Neither the ledger nor the contents of transactions matter here. -/
inductive Scheduled (context : ExecutionContext) : Nat -> List BlockProposal -> Prop where
  | nil (height : Nat) : Scheduled context height []
  | cons {height : Nat} {proposal : BlockProposal} {proposals : List BlockProposal}
      (isNext : proposal.height.toNat = height + 1)
      (decision : proposal.cometDecision.validateFor context.cometBftGenesis proposal.height =
        .ok ())
      (records : proposal.transactions.length <=
        context.consensusConfig.maximumBlockRecords.toNat)
      (bytes : (proposal.transactions.map List.length).sum <=
        context.consensusConfig.maximumBlockTransactionBytes.toNat)
      (rest : Scheduled context (height + 1) proposals) :
      Scheduled context height (proposal :: proposals)

theorem Executes.height {proposal block} (executes : Executes context committed proposal block) :
    block.intoCommittedState.height.toNat = committed.height.toNat + 1 := by
  rw [executes.height_eq, executes.limits.height]

/-- Scheduled proposals whose transactions run are all executed. -/
theorem Scheduled.executions {height : Nat} (scheduled : Scheduled context height proposals)
    (sound : committed.Sound context) (atHeight : committed.height.toNat = height) {records next}
    (runs : Runs context (.fromCommitted committed)
      (proposals.flatMap BlockProposal.transactions) records next) :
    ∃ blocks, Executions context committed proposals blocks := by
  induction scheduled generalizing committed records with
  | nil height => exact ⟨[], Executions.nil committed⟩
  | cons isNext decision inRecords inBytes rest ih =>
    rw [List.flatMap_cons] at runs
    rcases runs.split with ⟨firstRecords, middle, laterRecords, before, after⟩
    have limits : WithinLimits context committed _ :=
      ⟨by rw [isNext, atHeight], decision, inRecords, inBytes⟩
    rcases exists_executes_of_runs sound limits before with ⟨block, executes⟩
    have sameMiddle := (before.unique executes.runs).2
    rw [sameMiddle] at after
    have later := ih (executes.sound sound) (by rw [executes.height, atHeight]) after
    rcases later with ⟨blocks, executions⟩
    exact ⟨block :: blocks, Executions.cons executes executions⟩

end

section
open Fips180

/-- The transactions of the test proposal in two blocks around an empty one. -/
def testPartition : List BlockProposal := [
  { testProposal with transactions := testProposal.transactions.take 1 },
  { height := 2
    cometDecision := { testProposal.cometDecision with
      height := 2
      high := by decide
      representable := by decide }
    transactions := [] },
  { height := 3
    cometDecision := { testProposal.cometDecision with
      height := 3
      high := by decide
      representable := by decide }
    transactions := testProposal.transactions.drop 1 }]

theorem scheduled_testProposal :
    Scheduled testExecutionContext testCommitted.height.toNat [testProposal] :=
  .cons rfl limits_testProposal.decision limits_testProposal.records limits_testProposal.bytes
    (.nil _)

theorem scheduled_testPartition :
    Scheduled testExecutionContext testCommitted.height.toNat testPartition := by
  have decision := CometBftDecision.validateFor_eq_ok.mp limits_testProposal.decision
  refine .cons rfl limits_testProposal.decision (by decide +kernel) (by decide +kernel) ?_
  refine .cons rfl ?_ (by decide +kernel) (by decide +kernel) ?_
  · exact CometBftDecision.validateFor_eq_ok.mpr
      ⟨decision.1, rfl, by simpa only [testProposal] using decision.2.2⟩
  refine .cons rfl ?_ (by decide +kernel) (by decide +kernel) (.nil _)
  exact CometBftDecision.validateFor_eq_ok.mpr
      ⟨decision.1, rfl, by simpa only [testProposal] using decision.2.2⟩

theorem exists_executeBlocks_testPartition : ∃ blocks,
    executeBlocks testExecutionContext testCommitted testPartition = .ok blocks := by
  have sound := sound_of_reachable reachable_testCommitted
  rcases exists_simulation_testProposal with ⟨receipts, candidate, simulated⟩
  rcases simulateTransactions_eq_ok.mp simulated with ⟨records, runs, _⟩
  rcases scheduled_testPartition.executions sound rfl runs with ⟨blocks, executions⟩
  exact ⟨blocks, (executeBlocks_eq_ok sound).mpr executions⟩

theorem exists_executes_testProposal : ∃ block,
    Executes testExecutionContext testCommitted testProposal block := by
  have sound := sound_of_reachable reachable_testCommitted
  rcases exists_simulation_testProposal with ⟨receipts, candidate, simulated⟩
  rcases simulateTransactions_eq_ok.mp simulated with ⟨records, runs, _⟩
  rcases scheduled_testProposal.executions sound rfl runs with ⟨blocks, executions⟩
  cases executions with
  | cons executes _ => exact ⟨_, executes⟩

end

section
variable [Sha256] {context : ExecutionContext}

/-- However a list of transactions is cut into scheduled blocks, empty ones
included, from a reachable state one cut is executed exactly when another is,
and both leave the same records, ledger state, record chain and terminal
record hash. -/
theorem executeBlocks_independent_of_partition {committed : CommittedExecutionState}
    (reachable : Reachable context committed) {left right : List BlockProposal}
    (leftScheduled : Scheduled context committed.height.toNat left)
    (rightScheduled : Scheduled context committed.height.toNat right)
    (sameTransactions : left.flatMap BlockProposal.transactions =
      right.flatMap BlockProposal.transactions) :
    ((∃ blocks, executeBlocks context committed left = .ok blocks) <->
        ∃ blocks, executeBlocks context committed right = .ok blocks) /\
      forall leftBlocks rightBlocks, executeBlocks context committed left = .ok leftBlocks ->
        executeBlocks context committed right = .ok rightBlocks ->
        leftBlocks.flatMap ExecutedBlock.records = rightBlocks.flatMap ExecutedBlock.records /\
          (tipAfter committed leftBlocks).ledgerState =
            (tipAfter committed rightBlocks).ledgerState /\
          (tipAfter committed leftBlocks).recordChain =
            (tipAfter committed rightBlocks).recordChain /\
          (tipAfter committed leftBlocks).terminalRecordHash =
            (tipAfter committed rightBlocks).terminalRecordHash := by
  have sound := sound_of_reachable reachable
  refine ⟨⟨?_, ?_⟩, ?_⟩
  · intro accepted
    rcases accepted with ⟨blocks, executed⟩
    have runs := ((executeBlocks_eq_ok sound).mp executed).runs
    rw [sameTransactions] at runs
    rcases rightScheduled.executions sound rfl runs with ⟨others, executions⟩
    exact ⟨others, (executeBlocks_eq_ok sound).mpr executions⟩
  · intro accepted
    rcases accepted with ⟨blocks, executed⟩
    have runs := ((executeBlocks_eq_ok sound).mp executed).runs
    rw [← sameTransactions] at runs
    rcases leftScheduled.executions sound rfl runs with ⟨others, executions⟩
    exact ⟨others, (executeBlocks_eq_ok sound).mpr executions⟩
  · intro leftBlocks rightBlocks leftExecuted rightExecuted
    have leftExecutions := (executeBlocks_eq_ok sound).mp leftExecuted
    have rightExecutions := (executeBlocks_eq_ok sound).mp rightExecuted
    have leftRuns := leftExecutions.runs
    rw [sameTransactions] at leftRuns
    rcases leftRuns.unique rightExecutions.runs with ⟨sameRecords, sameState⟩
    refine ⟨sameRecords, congrArg CandidateExecutionState.ledgerState sameState,
      congrArg CandidateExecutionState.recordChain sameState, ?_⟩
    rw [leftExecutions.terminal, rightExecutions.terminal, sameRecords]

end

open Fips180 in
theorem testPartition_executes_as_testProposal :
    Reachable testExecutionContext testCommitted /\
      Scheduled testExecutionContext testCommitted.height.toNat [testProposal] /\
      Scheduled testExecutionContext testCommitted.height.toNat testPartition /\
      ∃ one several, executeBlocks testExecutionContext testCommitted [testProposal] = .ok one /\
        executeBlocks testExecutionContext testCommitted testPartition = .ok several /\
        one.flatMap ExecutedBlock.records = several.flatMap ExecutedBlock.records := by
  have facts := executeBlocks_independent_of_partition reachable_testCommitted
    scheduled_testProposal scheduled_testPartition rfl
  rcases exists_executeBlocks_testPartition with ⟨several, executed⟩
  rcases facts.1.mpr ⟨several, executed⟩ with ⟨one, alsoExecuted⟩
  exact ⟨reachable_testCommitted, scheduled_testProposal, scheduled_testPartition, one, several,
    alsoExecuted, executed, (facts.2 one several alsoExecuted executed).1⟩

end Noxis.Execution
