import Noxis.Storage.LedgerDurability

namespace Noxis.LedgerLog

open Foundation Codec Crypto Ledger RecordChain Execution CandidateExecutionState

/-!
# One ledger, two pipelines

The persistent ledger takes transactions one by one and as values; blocks take them
together and as bytes.  Both extend the same history in the same way, so they accept
the same transactions and leave the same records, however the transactions are cut
into blocks.
-/

section
variable [Sha256] {context : ExecutionContext}

def LedgerHistory.candidate (history : LedgerHistory) : CandidateExecutionState :=
  ⟨history.state, history.chain⟩

variable {history next : LedgerHistory} {transaction : Transaction} {record : TransactionRecord}

theorem applies_of_advances
    (advances : Advances context.chainAnchor context.validationContext context.verifier
      context.mintPolicy history transaction record next) :
    Applies context history.candidate record.transactionBytes transaction record next.candidate :=
  ⟨advances.encoded, advances.suite, advances.identified, advances.applied, advances.state,
    advances.made, advances.linked⟩

theorem advances_of_applies {bytes middle}
    (applies : Applies context history.candidate bytes transaction record middle) :
    bytes = record.transactionBytes /\
      Advances context.chainAnchor context.validationContext context.verifier context.mintPolicy
        history transaction record ⟨middle.ledgerState, middle.recordChain,
          some record.recordHash⟩ := by
  have sameBytes := (TransactionRecord.made_of_new applies.made).2.2.2.1
  refine ⟨sameBytes.symm, ?_⟩
  rw [← sameBytes] at applies
  exact ⟨applies.encoded, applies.suite, applies.identified, applies.applied, applies.state,
    applies.made, applies.linked, rfl⟩

/-- A ledger of the deployment a context describes, ready to write. -/
structure Serves (context : ExecutionContext) (ledger : PersistentLedger) : Prop where
  anchored : ledger.anchor = context.chainAnchor
  validation : ledger.validationContext = context.validationContext
  available : ledger.writesAvailable = true

def PersistentLedger.extended (ledger : PersistentLedger) (record : TransactionRecord)
    (next : LedgerHistory) : PersistentLedger :=
  { ledger with toLedgerHistory := next, recordLog := ledger.recordLog ++ recordFrame record }

def commitReceipt (record : TransactionRecord) (offset : Nat) : PersistentCommitReceipt :=
  ⟨record.sequence, record.transactionIntentId, record.recordHash, record.resultingStateId, offset⟩

theorem ensureValidationComponents_of_context (context : ExecutionContext) :
    ensureValidationComponents context.chainAnchor context.verifier context.mintPolicy = .ok () :=
  if_neg (not_or.mpr ⟨not_not_intro context.sameVerifier, not_not_intro context.samePolicy⟩)

variable {ledger : PersistentLedger} (serves : Serves context ledger)
  (advances : Advances context.chainAnchor context.validationContext context.verifier
    context.mintPolicy ledger.toLedgerHistory transaction record next)

include serves advances in
theorem apply_of_advances :
    PersistentLedger.apply context.verifier context.mintPolicy .complete transaction ledger =
      .ok (commitReceipt record ledger.recordLog.length) (ledger.extended record next) := by
  have components := ensureValidationComponents_of_context context
  rw [← serves.anchored] at components
  have suite : ensureTransactionSuite ledger.validationContext transaction.suite = .ok () := by
    rw [serves.validation]
    exact ensureTransactionSuite_eq_ok.mpr advances.suite
  have extended := (extend_eq_ok advances.suite).mpr advances
  rw [← serves.anchored] at extended
  have available : ¬ledger.writesAvailable = false := by
    rw [serves.available]
    exact nofun
  unfold PersistentLedger.apply
  rw [get_bind, if_neg available,
    bind_of_ok (check_eq_ok.mpr ⟨Except.mapError_eq_ok.mpr components, rfl⟩),
    bind_of_ok (check_eq_ok.mpr ⟨Except.mapError_eq_ok.mpr suite, rfl⟩),
    bind_of_ok (check_eq_ok.mpr ⟨extended, rfl⟩)]
  dsimp only
  rw [bind_of_ok (appendDurably_complete advances.isMade ledger)]
  rfl

/-- A call is refused exactly where no transaction advances the history. -/
theorem apply_complete_cases (serves : Serves context ledger) (transaction : Transaction) :
    (∃ record next, Advances context.chainAnchor context.validationContext context.verifier
        context.mintPolicy ledger.toLedgerHistory transaction record next /\
      PersistentLedger.apply context.verifier context.mintPolicy .complete transaction ledger =
        .ok (commitReceipt record ledger.recordLog.length) (ledger.extended record next)) ∨
      (¬(∃ record next, Advances context.chainAnchor context.validationContext context.verifier
          context.mintPolicy ledger.toLedgerHistory transaction record next) /\
        ∃ fault, PersistentLedger.apply context.verifier context.mintPolicy .complete transaction
          ledger = .error fault ledger) := by
  rcases apply_cases context.verifier context.mintPolicy .complete transaction ledger with
    ⟨fault, refused⟩ | ⟨_, record, next, advances, _⟩
  · refine Or.inr ⟨?_, fault, refused⟩
    intro accepted
    rcases accepted with ⟨record, next, advances⟩
    rw [apply_of_advances serves advances] at refused
    cases refused
  · rw [serves.anchored, serves.validation] at advances
    exact Or.inl ⟨record, next, advances, apply_of_advances serves advances⟩

/-- What the ledger says about an accepted transaction, in the terms of blocks. -/
def PersistentCommitReceipt.execution (receipt : PersistentCommitReceipt) : ExecutionReceipt :=
  ⟨receipt.transactionIntentId, receipt.recordHash, receipt.stateId⟩

/-- One call; a refused transaction leaves no receipt. -/
def applyStep (verifier : ProofVerifier) (mintPolicy : MintPolicy) (ledger : PersistentLedger)
    (transaction : Transaction) :
    PersistentLedger × List (Transaction × PersistentCommitReceipt) :=
  match PersistentLedger.apply verifier mintPolicy .complete transaction ledger with
  | .ok receipt next => (next, [(transaction, receipt)])
  | .error _ next => (next, [])

include serves advances in
theorem applyStep_of_advances :
    applyStep context.verifier context.mintPolicy ledger transaction =
      (ledger.extended record next,
        [(transaction, commitReceipt record ledger.recordLog.length)]) := by
  rw [applyStep, apply_of_advances serves advances]

variable {verifier : ProofVerifier} {mintPolicy : MintPolicy}

theorem applyStep_of_refused {fault}
    (refused : PersistentLedger.apply verifier mintPolicy .complete transaction ledger =
      .error fault ledger) : applyStep verifier mintPolicy ledger transaction = (ledger, []) := by
  rw [applyStep, refused]

/-- The accepted transactions of a run are a run of blocks and left these records. -/
structure AppliedAs (context : ExecutionContext) (ledger final : PersistentLedger)
    (accepted : List (Transaction × PersistentCommitReceipt)) (records : List TransactionRecord) :
    Prop where
  serves : Serves context final
  runs : Runs context ledger.candidate (records.map TransactionRecord.transactionBytes) records
    final.candidate
  log : final.recordLog = ledger.recordLog ++ records.flatMap recordFrame
  terminal : final.terminalRecordHash =
    (records.getLast?.map TransactionRecord.recordHash).or ledger.terminalRecordHash
  transactions : accepted.map (fun entry => encodeTransaction entry.1) =
    records.map (fun record => .ok record.transactionBytes)
  receipts : accepted.map (fun entry => entry.2.execution) =
    records.map ExecutionReceipt.ofRecord

include advances in
theorem AppliedAs.cons {final accepted records} (offset : Nat)
    (later : AppliedAs context (ledger.extended record next) final accepted records) :
    AppliedAs context ledger final ((transaction, commitReceipt record offset) :: accepted)
      (record :: records) := by
  constructor
  case serves => exact later.serves
  case runs => exact Runs.cons (applies_of_advances advances) later.runs
  case log =>
    rw [later.log, List.flatMap_cons, ← List.append_assoc]
    rfl
  case terminal =>
    have first : (ledger.extended record next).terminalRecordHash = some record.recordHash :=
      advances.terminal
    rw [later.terminal, first]
    cases records with
    | nil => rfl
    | cons head rest =>
      rw [List.getLast?_cons_cons]
      simp only [List.getLast?_cons, Option.map_some, Option.some_or]
  case transactions =>
    rw [List.map_cons, List.map_cons, later.transactions, advances.encoded]
  case receipts =>
    rw [List.map_cons, List.map_cons, later.receipts]
    rfl

theorem run_applyStep (serves : Serves context ledger) (transactions : List Transaction) :
    ∃ records, AppliedAs context ledger
      (run (applyStep context.verifier context.mintPolicy) ledger transactions).1
      (run (applyStep context.verifier context.mintPolicy) ledger transactions).2 records := by
  induction transactions generalizing ledger with
  | nil =>
    refine ⟨[], serves, Runs.nil _, ?_, ?_, rfl, rfl⟩
    · exact (List.append_nil _).symm
    · rfl
  | cons transaction rest ih =>
    rcases apply_complete_cases serves transaction with
      ⟨record, next, advances, _⟩ | ⟨_, fault, refused⟩
    · have stepped := applyStep_of_advances serves advances
      have after : Serves context (ledger.extended record next) :=
        ⟨serves.anchored, serves.validation, serves.available⟩
      rcases ih after with ⟨records, later⟩
      rw [run_cons_of_step stepped]
      exact ⟨record :: records, AppliedAs.cons advances _ later⟩
    · rw [run_cons_of_step (applyStep_of_refused refused)]
      exact ih serves

theorem length_run_applyStep_le (transactions : List Transaction) :
    (run (applyStep verifier mintPolicy) ledger transactions).2.length <= transactions.length := by
  induction transactions generalizing ledger with
  | nil => exact Nat.le_refl 0
  | cons transaction rest ih =>
    have one : (applyStep verifier mintPolicy ledger transaction).2.length <= 1 := by
      unfold applyStep
      split
      · exact Nat.le_refl 1
      · exact Nat.zero_le 1
    have later := @ih (applyStep verifier mintPolicy ledger transaction).1
    rw [run, List.length_append, List.length_cons]
    omega

/-- All transactions are accepted one by one exactly when their bytes run in a
block. -/
theorem accepts_all_iff (serves : Serves context ledger) {transactions bytes}
    (encoded : transactions.mapM encodeTransaction = .ok bytes) :
    (run (applyStep context.verifier context.mintPolicy) ledger transactions).2.length =
        transactions.length <->
      ∃ records next, Runs context ledger.candidate bytes records next := by
  induction transactions generalizing ledger bytes with
  | nil =>
    cases encoded
    exact iff_of_true rfl ⟨[], _, Runs.nil _⟩
  | cons transaction rest ih =>
    rw [List.mapM_cons] at encoded
    simp only [Except.bind_eq_ok] at encoded
    rcases encoded with ⟨first, isFirst, others, areOthers, same⟩
    cases same
    have advanced {record : TransactionRecord} {other : Transaction}
        {middle : CandidateExecutionState}
        (applies : Applies context ledger.candidate first other record middle) :
        Advances context.chainAnchor context.validationContext context.verifier
          context.mintPolicy ledger.toLedgerHistory transaction record
          ⟨middle.ledgerState, middle.recordChain, some record.recordHash⟩ := by
      have decoded := decodeTransaction_eq_ok.mpr applies.encoded
      rw [decodeTransaction_eq_ok.mpr isFirst] at decoded
      cases decoded
      exact (advances_of_applies applies).2
    rcases apply_complete_cases serves transaction with
      ⟨record, next, advances, _⟩ | ⟨impossible, fault, refused⟩
    · have after : Serves context (ledger.extended record next) :=
        ⟨serves.anchored, serves.validation, serves.available⟩
      have sameBytes : record.transactionBytes = first := by
        have again := advances.encoded
        rw [isFirst] at again
        exact (Except.ok.inj again).symm
      have applies := applies_of_advances advances
      rw [sameBytes] at applies
      rw [run_cons_of_step (applyStep_of_advances serves advances), List.length_append,
        List.length_singleton, List.length_cons, Nat.add_comm 1, Nat.add_right_cancel_iff,
        ih after areOthers]
      constructor
      · intro later
        rcases later with ⟨records, final, runs⟩
        exact ⟨record :: records, final, Runs.cons applies runs⟩
      · intro whole
        rcases whole with ⟨records, final, runs⟩
        cases runs with
        | cons other runs =>
          have sameNext := ((Runs.cons applies (Runs.nil _)).unique
            (Runs.cons other (Runs.nil _))).2
          rw [← sameNext] at runs
          exact ⟨_, final, runs⟩
    · rw [run_cons_of_step (applyStep_of_refused refused), List.nil_append, List.length_cons]
      refine iff_of_false ?_ ?_
      · exact Nat.ne_of_lt (Nat.lt_succ_of_le (length_run_applyStep_le rest))
      · intro whole
        rcases whole with ⟨records, final, runs⟩
        cases runs with
        | cons applies _ => exact impossible ⟨_, _, advanced applies⟩

/-! ## Both pipelines -/

/-- A genesis that blocks can start from is one a ledger can be opened at. -/
theorem openLedger_of_genesis {genesisState committed}
    (genesis : CommittedExecutionState.genesis genesisState context.chainAnchor = .ok committed) :
    openLedger context.chainAnchor context.validationContext context.verifier context.mintPolicy
        genesisState [] =
      .ok ⟨genesisHistory context.chainAnchor genesisState, context.chainAnchor,
        context.validationContext, [], none, true⟩ [] := by
  rcases CommittedExecutionState.genesis_eq_ok.mp genesis with ⟨identified, _⟩
  have valid : validateDeployment context.chainAnchor context.validationContext context.verifier
      context.mintPolicy genesisState = .ok () := by
    unfold validateDeployment
    simp only [Except.bind_eq_ok, Except.mapError_eq_ok, Except.refuse_eq_ok, not_or, not_not]
    exact ⟨(), context.validated, context.sameContext, (), ensureValidationComponents_of_context context,
      _, identified, rfl, trivial⟩
  have scanned : recordLog.scan [] = .ok ([], none) := rfl
  exact openLedger_of_scan valid scanned rfl

/-- Transactions applied one by one and executed in blocks.  From every genesis, and
for every list of transactions, the blocks of every schedule that holds the accepted
transactions are executed; they leave the records whose frames are in the log, the
same receipts and the same ledger, record chain and terminal hash.  On the state they
leave, a further block within the limits is executed exactly when the ledger accepts
every one of its transactions. -/
theorem apply_agrees_with_blocks {genesisState : LedgerState}
    {committed : CommittedExecutionState}
    (genesis : CommittedExecutionState.genesis genesisState context.chainAnchor = .ok committed) :
    ∃ start, openLedger context.chainAnchor context.validationContext context.verifier
        context.mintPolicy genesisState [] = .ok start [] /\
      forall transactions : List Transaction,
        let applied := run (applyStep context.verifier context.mintPolicy) start transactions
        ∃ records : List TransactionRecord,
          applied.2.map (fun entry => encodeTransaction entry.1) =
            records.map (fun record => .ok record.transactionBytes) /\
          applied.1.recordLog = records.flatMap recordFrame /\
          forall proposals, Scheduled context 0 proposals ->
            proposals.flatMap BlockProposal.transactions =
              records.map TransactionRecord.transactionBytes ->
            ∃ blocks, executeBlocks context committed proposals = .ok blocks /\
              blocks.flatMap ExecutedBlock.records = records /\
              blocks.flatMap ExecutedBlock.receipts =
                applied.2.map (fun entry => entry.2.execution) /\
              (tipAfter committed blocks).ledgerState = applied.1.state /\
              (tipAfter committed blocks).recordChain = applied.1.chain /\
              (tipAfter committed blocks).terminalRecordHash = applied.1.terminalRecordHash /\
              forall (more : List Transaction) (proposal : BlockProposal),
                WithinLimits context (tipAfter committed blocks) proposal ->
                more.mapM encodeTransaction = .ok proposal.transactions ->
                ((∃ block, executeBlock context (tipAfter committed blocks) proposal = .ok block) <->
                  (run (applyStep context.verifier context.mintPolicy) applied.1 more).2.length =
                    more.length) := by
  refine ⟨_, openLedger_of_genesis genesis, ?_⟩
  intro transactions
  have sound := sound_of_genesis genesis
  rcases CommittedExecutionState.genesis_eq_ok.mp genesis with ⟨_, isGenesis⟩
  have serves : Serves context ⟨genesisHistory context.chainAnchor genesisState,
    context.chainAnchor, context.validationContext, [], none, true⟩ := ⟨rfl, rfl, rfl⟩
  rcases run_applyStep serves transactions with ⟨records, applied⟩
  refine ⟨records, applied.transactions, applied.log, ?_⟩
  intro proposals scheduled sameBytes
  have started : fromCommitted committed =
      (genesisHistory context.chainAnchor genesisState).candidate := by
    rw [isGenesis]
    rfl
  have runs := applied.runs
  rw [← sameBytes] at runs
  change Runs context (genesisHistory context.chainAnchor genesisState).candidate _ _ _ at runs
  rw [← started] at runs
  rcases scheduled.executions sound (by rw [isGenesis]; rfl) runs with ⟨blocks, executions⟩
  rcases runs.unique executions.runs with ⟨sameRecords, sameTip⟩
  have tipSound := executions.sound sound
  refine ⟨blocks, (executeBlocks_eq_ok sound).mpr executions, sameRecords.symm, ?_,
    (congrArg ledgerState sameTip).symm,
    (congrArg recordChain sameTip).symm, ?_, ?_⟩
  · rw [executions.receipts, ← sameRecords, applied.receipts]
  · rw [executions.terminal, ← sameRecords, applied.terminal, isGenesis]
    rfl
  · intro more proposal limits encoded
    rw [accepts_all_iff applied.serves encoded, sameTip]
    constructor
    · intro executed
      rcases executed with ⟨block, executed⟩
      exact ⟨_, _, ((executeBlock_eq_ok tipSound).mp executed).runs⟩
    · intro accepted
      rcases accepted with ⟨_, _, runs⟩
      rcases exists_executes_of_runs tipSound limits runs with ⟨block, executes⟩
      exact ⟨block, (executeBlock_eq_ok tipSound).mpr executes⟩

end

open Fips180 in
/-- A mint and a transfer, one by one and in one block. -/
theorem testProposal_agrees_with_apply :
    CommittedExecutionState.genesis testLedger testExecutionContext.chainAnchor =
        .ok testCommitted /\
      (∃ block, executeBlock testExecutionContext testCommitted testProposal = .ok block) /\
      (run (applyStep testExecutionContext.verifier testExecutionContext.mintPolicy) testOpened
        [testMint 4 4 ⟨100, by decide, by decide⟩, testTransfer 1 9 5]).2.length = 2 := by
  have sound := sound_of_reachable reachable_testCommitted
  rcases exists_executes_testProposal with ⟨block, executes⟩
  have executed := (executeBlock_eq_ok sound).mpr executes
  refine ⟨genesis_testCommitted, ⟨block, executed⟩, ?_⟩
  rcases apply_agrees_with_blocks genesis_testCommitted with ⟨start, opened, agrees⟩
  have isOpened : start = testOpened := by
    have again : openLedger testExecutionContext.chainAnchor testExecutionContext.validationContext
      testExecutionContext.verifier testExecutionContext.mintPolicy testLedger [] =
        .ok testOpened [] := openLedger_nil
    rw [opened] at again
    cases again
    rfl
  rcases agrees [] with ⟨records, accepted, _, blocksAgree⟩
  have isEmpty : records = [] := List.map_eq_nil_iff.mp accepted.symm
  rcases blocksAgree [] (Scheduled.nil 0) (by rw [isEmpty]; rfl) with
    ⟨blocks, isNone, _, _, _, _, _, further⟩
  cases isNone
  have encoded : [testMint 4 4 ⟨100, by decide, by decide⟩, testTransfer 1 9 5].mapM
      encodeTransaction = .ok testProposal.transactions := by decide +kernel
  rw [isOpened] at further
  exact (further _ testProposal limits_testProposal encoded).mp ⟨block, executed⟩

end Noxis.LedgerLog
