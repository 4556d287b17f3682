import Noxis.Comet.Proposals

namespace Noxis.Comet

open Foundation Codec Ledger RecordChain Consensus Execution Storage

/-!
# The mempool of a running core

The overlay caches the state that the admitted transactions lead to.  Nothing
ever recomputes that state, so the cache has to stay in step with the list of
admitted transactions over every order of calls.  A commit that succeeds moves
the committed tip and empties the overlay in one call; a commit that fails, at
whatever point of its write, moves neither.  The admitted transactions run one
after another from the tip, and the ledger refuses a transaction that conflicts
with one that it accepted before.
-/

/-- Two transactions of which a ledger accepts at most one. -/
def Conflict (first second : Transaction) : Prop :=
  first.id = second.id ∨ ∃ nullifier, nullifier ∈ first.inputs /\ nullifier ∈ second.inputs

section
variable [Sha256] {context : ExecutionContext} {candidate next : CandidateExecutionState}

/-- The ledger has neither accepted the transaction nor spent its inputs. -/
def Unused (state : LedgerState) (transaction : Transaction) : Prop :=
  transaction.id ∉ state.acceptedTransactions /\
    forall nullifier, nullifier ∈ transaction.inputs -> nullifier ∉ state.spentNullifiers

omit [Sha256] in
/-- A transaction that is unused after another one was unused before it and
does not conflict with it. -/
theorem Unused.before {state after first second} (unused : Unused after second)
    (accepts : state.Accepts first after) : Unused state second /\ ¬Conflict first second := by
  rcases unused with ⟨newId, newInputs⟩
  rw [accepts.accepted, Finset.mem_insert, not_or] at newId
  have separate : forall nullifier, nullifier ∈ second.inputs ->
      nullifier ∉ state.spentNullifiers /\ nullifier ∉ first.inputs := by
    intro nullifier member
    have unspent := newInputs nullifier member
    rw [accepts.spent, Finset.mem_union, List.mem_toFinset, not_or] at unspent
    exact unspent
  refine ⟨⟨newId.2, fun nullifier member => (separate nullifier member).1⟩, ?_⟩
  intro conflict
  rcases conflict with same | ⟨nullifier, spentFirst, spentSecond⟩
  · exact newId.1 same.symm
  · exact (separate nullifier spentSecond).2 spentFirst

theorem decoded_of_applies {bytes transaction other record}
    (applies : Applies context candidate bytes transaction record next)
    (decoded : decodeTransaction bytes = .ok other) : other = transaction := by
  have again := decodeTransaction_eq_ok.mpr applies.encoded
  rw [decoded] at again
  exact Except.ok.inj again

variable {transactions : List (List UInt8)} {records : List TransactionRecord}

theorem unused_of_runs (runs : Runs context candidate transactions records next)
    (bytes : List UInt8) (member : bytes ∈ transactions) (transaction : Transaction)
    (decoded : decodeTransaction bytes = .ok transaction) :
    Unused candidate.ledgerState transaction := by
  induction runs with
  | nil candidate => cases member
  | cons applies later ih =>
    have accepts := LedgerState.apply_eq_ok applies.applied
    rcases List.mem_cons.mp member with isFirst | isLater
    · rw [isFirst] at decoded
      rw [decoded_of_applies applies decoded]
      exact ⟨accepts.newTransaction, accepts.inputsUnspent⟩
    · exact (Unused.before (ih isLater) accepts).1

/-- No two transactions of a run conflict. -/
theorem pairwise_of_runs (runs : Runs context candidate transactions records next) :
    transactions.Pairwise (fun first second => forall earlier later,
      decodeTransaction first = .ok earlier -> decodeTransaction second = .ok later ->
        ¬Conflict earlier later) := by
  induction runs with
  | nil candidate => exact List.Pairwise.nil
  | cons applies rest ih =>
    refine List.Pairwise.cons ?_ ih
    intro second member earlier later decodedFirst decodedSecond
    rw [decoded_of_applies applies decodedFirst]
    exact (Unused.before (unused_of_runs rest second member later decodedSecond)
      (LedgerState.apply_eq_ok applies.applied)).2

end

section
variable [Sha256] {context : ExecutionContext} {core next : NoxisCometCore}

/-- What a call does to the mempool. -/
inductive MempoolEvent where
  | admitted (transaction : List UInt8)
  | emptied

/-- One call, with its effect on the mempool.  The write of a commit may end in
any way. -/
def NoxisCometCore.mempoolStep (context : ExecutionContext) (core : NoxisCometCore) :
    CoreCall × WriteOutcome -> NoxisCometCore × List MempoolEvent
  | (.checkTx transaction, _) =>
    match NoxisCometCore.checkTx context transaction core with
    | .ok result next => (next, if result.accepted then [.admitted transaction] else [])
    | .error _ next => (next, [])
  | (.commit, outcome) =>
    match NoxisCometCore.commit context outcome core with
    | .ok _ next => (next, [.emptied])
    | .error _ next => (next, [])
  | (call, _) => ((core.step context call).1, [])

/-- The transactions that were admitted since the last commit, in order. -/
def admittedSinceCommit (events : List MempoolEvent) : List (List UInt8) :=
  events.foldl (fun admitted event =>
    match event with
    | .admitted transaction => admitted ++ [transaction]
    | .emptied => []) []

omit [Sha256] in
theorem admittedSinceCommit_admitted (events : List MempoolEvent) (transaction : List UInt8) :
    admittedSinceCommit (events ++ [.admitted transaction]) =
      admittedSinceCommit events ++ [transaction] := by
  rw [admittedSinceCommit, List.foldl_append]
  rfl

omit [Sha256] in
theorem admittedSinceCommit_emptied (events : List MempoolEvent) :
    admittedSinceCommit (events ++ [.emptied]) = [] := by
  rw [admittedSinceCommit, List.foldl_append]
  rfl

omit [Sha256] in
theorem admittedSinceCommit_map (transactions : List (List UInt8)) :
    admittedSinceCommit (transactions.map .admitted) = transactions := by
  induction transactions using List.reverseRecOn with
  | nil => rfl
  | append_singleton before last ih =>
    rw [List.map_append, List.map_singleton, admittedSinceCommit_admitted, ih]

/-- The overlay holds what the admitted transactions lead to from the committed
tip, and stays within its limits. -/
structure Overlays (context : ExecutionContext) (core : NoxisCometCore)
    (admitted : List (List UInt8)) : Prop where
  runs : ∃ records, Runs context (.fromCommitted core.execution.committed) admitted records
    core.mempool.candidate
  transactions : core.mempool.transactions = admitted
  bytes : core.mempool.totalBytes = (admitted.map List.length).sum
  countLimit : admitted.length <= maxPendingTransactions
  byteLimit : core.mempool.totalBytes <= maxPendingTransactionBytes

theorem overlays_new (isNew : core.mempool = .new (.fromCommitted core.execution.committed)) :
    Overlays context core [] := by
  constructor
  case runs =>
    rw [isNew]
    exact ⟨[], Runs.nil _⟩
  case transactions => rw [isNew]; rfl
  case bytes => rw [isNew]; rfl
  case countLimit => exact Nat.zero_le _
  case byteLimit =>
    rw [isNew]
    exact Nat.zero_le _

variable {admitted : List (List UInt8)}

theorem Overlays.congr (overlays : Overlays context core admitted)
    (sameTip : next.execution.committed = core.execution.committed)
    (sameMempool : next.mempool = core.mempool) : Overlays context next admitted := by
  rcases overlays with ⟨runs, transactions, bytes, countLimit, byteLimit⟩
  rw [← sameTip, ← sameMempool] at runs
  rw [← sameMempool] at transactions bytes byteLimit
  exact ⟨runs, transactions, bytes, countLimit, byteLimit⟩

theorem admit_keepsOnFailure (transaction : List UInt8) :
    KeepsOnFailure ( MempoolOverlay.admit context transaction) := by
  refine .get_bind (fun mempool => .ite (.throw _) (.ite (.throw _) (.check_bind ?_)))
  intro candidate _
  exact .of_total (fun _ => ⟨_, _, rfl⟩)

variable {transaction : List UInt8} {mempool : MempoolOverlay}

theorem admit_eq_ok {after}
    (admitted : MempoolOverlay.admit context transaction mempool = .ok () after) :
    mempool.transactions.length ≠ maxPendingTransactions /\
      mempool.totalBytes + transaction.length <= maxPendingTransactionBytes /\
      simulateOn context transaction mempool.candidate = .ok after.candidate /\
      after.transactions = mempool.transactions ++ [transaction] /\
      after.totalBytes = mempool.totalBytes + transaction.length := by
  unfold MempoolOverlay.admit at admitted
  rw [get_bind] at admitted
  by_cases full : mempool.transactions.length = maxPendingTransactions
  · rw [if_pos full] at admitted
    cases admitted
  rw [if_neg full] at admitted
  by_cases large : 2 ^ 64 <= mempool.totalBytes + transaction.length ∨
      maxPendingTransactionBytes < mempool.totalBytes + transaction.length
  · rw [if_pos large] at admitted
    cases admitted
  rw [if_neg large] at admitted
  rcases bind_eq_ok.mp admitted with ⟨candidate, _, simulated, isSet⟩
  rcases check_eq_ok.mp simulated with ⟨isCandidate, rfl⟩
  cases isSet
  exact ⟨full, Nat.not_lt.mp (not_or.mp large).2, isCandidate, rfl, rfl⟩

theorem checkTx_cases (transaction : List UInt8) (core : NoxisCometCore) :
    (∃ mempool, MempoolOverlay.admit context transaction core.mempool = .ok () mempool /\
        NoxisCometCore.checkTx context transaction core =
          .ok ⟨true, 0⟩ { core with mempool := mempool }) ∨
      NoxisCometCore.checkTx context transaction core = .ok ⟨false, 1⟩ core ∨
      ∃ cause, NoxisCometCore.checkTx context transaction core = .error cause core := by
  unfold NoxisCometCore.checkTx
  by_cases stopped : core.lifecycle ≠ .running
  · rw [if_pos stopped]
    exact Or.inr (Or.inl rfl)
  rw [if_neg stopped]
  cases admitted : MempoolOverlay.admit context transaction core.mempool with
  | ok value mempool => exact Or.inl ⟨mempool, rfl, rfl⟩
  | error fault mempool =>
    rw [admit_keepsOnFailure transaction _ _ _ admitted]
    cases fault with
    | error reason => exact Or.inr (Or.inl rfl)
    | panic cause => exact Or.inr (Or.inr ⟨cause, rfl⟩)

theorem Overlays.admission (overlays : Overlays context core admitted)
    (isAdmitted : MempoolOverlay.admit context transaction core.mempool = .ok () mempool) :
    Overlays context { core with mempool := mempool } (admitted ++ [transaction]) := by
  rcases admit_eq_ok isAdmitted with ⟨room, small, simulated, isList, isTotal⟩
  rcases simulateOn_eq_ok.mp simulated with ⟨_, record, applies⟩
  rcases overlays.runs with ⟨records, runs⟩
  rw [overlays.transactions] at room isList
  have fewer := overlays.countLimit
  refine ⟨⟨records ++ [record], runs.append (Runs.cons applies (Runs.nil _))⟩, isList, ?_, ?_, ?_⟩
  · change mempool.totalBytes = _
    rw [isTotal, overlays.bytes, List.map_append, List.sum_append, List.map_singleton,
      List.sum_singleton]
  · rw [List.length_append, List.length_singleton]
    omega
  · change mempool.totalBytes <= _
    rw [isTotal]
    exact small

theorem finalizeBlock_frame (decision : CometBftDecision) (transactions : List (List UInt8))
    (core : NoxisCometCore) :
    (finalState (NoxisCometCore.finalizeBlock context decision transactions core)).execution =
        core.execution /\
      (finalState (NoxisCometCore.finalizeBlock context decision transactions core)).mempool =
        core.mempool := by
  unfold NoxisCometCore.finalizeBlock
  rw [get_bind]
  rcases check_bind_cases (core.ensureInitialized.mapError Fault.error) _ core with
    ⟨_, _, ends⟩ | ⟨_, _, ends⟩
  · rw [ends]
    exact ⟨rfl, rfl⟩
  rw [ends]
  cases core.pending with
  | some pending =>
    dsimp only
    split <;> exact ⟨rfl, rfl⟩
  | none =>
    dsimp only
    rcases check_bind_cases ((core.validateDecision context decision).mapError Fault.error) _
      core with ⟨_, _, stops⟩ | ⟨_, _, stops⟩
    · rw [stops]
      exact ⟨rfl, rfl⟩
    rw [stops]
    rcases check_bind_cases (core.executeForEngineDecision context decision transactions) _
      core with ⟨_, _, executed⟩ | ⟨_, _, executed⟩ <;>
    · rw [executed]
      exact ⟨rfl, rfl⟩

/-- A commit of the coordinator that fails leaves its tip, however much of the
block it wrote. -/
theorem commit_error_committed {outcome block execution after fault}
    (failed : PersistentExecution.commit context outcome block execution = .error fault after) :
    after.committed = execution.committed := by
  unfold PersistentExecution.commit at failed
  rw [get_bind] at failed
  split at failed
  · cases failed
    rfl
  split at failed
  · rw [(check_eq_error.mp failed).2]
  rcases Option.eq_none_or_eq_some (checkedAdd execution.committed.height 1) with
    isNext | ⟨height, isNext⟩ <;> rw [isNext] at failed
  · cases failed
    rfl
  dsimp only at failed
  split at failed
  · cases failed
    rfl
  rcases bind_eq_error.mp failed with failed | ⟨stored, _, isStored, failed⟩
  · rw [(check_eq_error.mp failed).2]
  rw [(check_eq_ok.mp isStored).2] at failed
  rcases bind_eq_error.mp failed with failed | ⟨executed, _, isExecuted, failed⟩
  · rw [(check_eq_error.mp failed).2]
  rw [(check_eq_ok.mp isExecuted).2] at failed
  rcases bind_eq_error.mp failed with failed | ⟨offset, _, _, failed⟩
  · unfold PersistentExecution.appendDurably at failed
    split at failed
    · cases failed
    · cases failed
      rfl
  · cases failed

/-- A commit starts over from the new tip, or keeps the tip and the mempool. -/
theorem commit_frame (outcome : WriteOutcome) (core : NoxisCometCore) :
    (∃ receipt next, NoxisCometCore.commit context outcome core = .ok receipt next /\
        next.mempool = .new (.fromCommitted next.execution.committed)) ∨
      ∃ fault next, NoxisCometCore.commit context outcome core = .error fault next /\
        next.execution.committed = core.execution.committed /\ next.mempool = core.mempool := by
  by_cases running : core.lifecycle = .running
  swap
  · rcases @commit_refused _ context core outcome (Or.inl running) with ⟨fault, refused⟩
    exact Or.inr ⟨fault, core, refused, rfl, rfl⟩
  rcases Option.eq_none_or_eq_some core.pending with isPending | ⟨pending, isPending⟩
  · rcases @commit_refused _ context core outcome (Or.inr isPending) with ⟨fault, refused⟩
    exact Or.inr ⟨fault, core, refused, rfl, rfl⟩
  have commits := @commit_of_pending _ context core outcome running pending isPending
  cases committed : PersistentExecution.commit context outcome pending.executed core.execution with
  | ok receipt execution =>
    rw [committed] at commits
    exact Or.inl ⟨_, _, commits, rfl⟩
  | error fault execution =>
    rw [committed] at commits
    exact Or.inr ⟨_, _, commits, commit_error_committed committed, rfl⟩

theorem Overlays.mempoolStep {events}
    (overlays : Overlays context core (admittedSinceCommit events))
    (call : CoreCall × WriteOutcome) :
    Overlays context (core.mempoolStep context call).1
      (admittedSinceCommit (events ++ (core.mempoolStep context call).2)) := by
  have unchanged : forall after : NoxisCometCore,
      after.execution.committed = core.execution.committed -> after.mempool = core.mempool ->
        Overlays context after (admittedSinceCommit (events ++ [])) := by
    intro after sameTip sameMempool
    rw [List.append_nil]
    exact overlays.congr sameTip sameMempool
  rcases call with ⟨call, outcome⟩
  cases call with
  | info => exact unchanged core rfl rfl
  | initChain request =>
    apply unchanged
    · exact congrArg (fun execution => execution.committed) (initChain_frame request core).1
    · exact (initChain_frame request core).2.2
  | checkTx transaction =>
    rcases @checkTx_cases _ context transaction core with
      ⟨mempool, isAdmitted, checked⟩ | checked | ⟨cause, checked⟩
    · simp only [NoxisCometCore.mempoolStep, checked, if_true]
      rw [admittedSinceCommit_admitted]
      exact overlays.admission isAdmitted
    · simp only [NoxisCometCore.mempoolStep, checked]
      exact unchanged core rfl rfl
    · simp only [NoxisCometCore.mempoolStep, checked]
      exact unchanged core rfl rfl
  | prepareProposal height maximum hash transactions => exact unchanged core rfl rfl
  | processProposal decision transactions => exact unchanged core rfl rfl
  | finalizeBlock decision transactions =>
    rcases @finalizeBlock_frame _ context decision transactions core with
      ⟨sameExecution, sameMempool⟩
    have isNext : (core.step context (.finalizeBlock decision transactions)).1 =
        finalState (NoxisCometCore.finalizeBlock context decision transactions core) := by
      rw [NoxisCometCore.step]
      cases NoxisCometCore.finalizeBlock context decision transactions core with
      | ok result next => rfl
      | error fault next => rfl
    apply unchanged
    · change (core.step context (.finalizeBlock decision transactions)).1.execution.committed = _
      rw [isNext, sameExecution]
    · change (core.step context (.finalizeBlock decision transactions)).1.mempool = _
      rw [isNext, sameMempool]
  | commit =>
    rcases @commit_frame _ context outcome core with
      ⟨receipt, next, committed, isNew⟩ | ⟨fault, next, failed, sameTip, sameMempool⟩
    · simp only [NoxisCometCore.mempoolStep, committed]
      rw [admittedSinceCommit_emptied]
      exact overlays_new isNew
    · simp only [NoxisCometCore.mempoolStep, failed]
      exact unchanged next sameTip sameMempool

variable {candidate : CandidateExecutionState}

/-- A transaction that can follow the admitted ones is admitted while there is
room for it. -/
theorem checkTx_of_applies {bytes transaction record} (running : core.lifecycle = .running)
    (room : core.mempool.transactions.length < maxPendingTransactions)
    (small : core.mempool.totalBytes + bytes.length <= maxPendingTransactionBytes)
    (applies : Applies context core.mempool.candidate bytes transaction record candidate) :
    NoxisCometCore.checkTx context bytes core = .ok ⟨true, 0⟩ { core with
      mempool := ⟨candidate, core.mempool.transactions ++ [bytes],
        core.mempool.totalBytes + bytes.length⟩ } := by
  have simulated := simulateOn_eq_ok.mpr ⟨transaction, record, applies⟩
  have limit : maxPendingTransactionBytes < 2 ^ 64 := by decide
  have admitted : MempoolOverlay.admit context bytes core.mempool = .ok ()
      ⟨candidate, core.mempool.transactions ++ [bytes],
        core.mempool.totalBytes + bytes.length⟩ := by
    unfold MempoolOverlay.admit
    rw [get_bind, if_neg (Nat.ne_of_lt room), if_neg (by omega),
      bind_of_ok (check_eq_ok.mpr ⟨simulated, rfl⟩)]
    rfl
  unfold NoxisCometCore.checkTx
  rw [if_neg (not_not_intro running), admitted]

/-- Transactions that run from the overlay are all admitted while there is room
for them. -/
theorem run_checkTx_of_runs {last transactions records}
    (runs : Runs context candidate transactions records last) (outcome : WriteOutcome)
    (running : core.lifecycle = .running) (isStart : core.mempool.candidate = candidate)
    (room : core.mempool.transactions.length + transactions.length <= maxPendingTransactions)
    (small : core.mempool.totalBytes + (transactions.map List.length).sum <=
      maxPendingTransactionBytes) :
    (run (NoxisCometCore.mempoolStep context) core
      (transactions.map (fun bytes => (.checkTx bytes, outcome)))).2 =
        transactions.map .admitted := by
  induction runs generalizing core with
  | nil candidate => rfl
  | @cons candidate middle final bytes transaction record rest records applies later
      ih =>
      rw [List.length_cons] at room
      rw [List.map_cons, List.sum_cons] at small
      rw [← isStart] at applies
      have checked := checkTx_of_applies running (by omega) (by omega) applies
      have stepped : core.mempoolStep context (.checkTx bytes, outcome) = ({ core with
          mempool := ⟨middle, core.mempool.transactions ++ [bytes],
            core.mempool.totalBytes + bytes.length⟩ }, [.admitted bytes]) := by
        simp only [NoxisCometCore.mempoolStep, checked, if_true]
      rw [List.map_cons, run_cons_of_step stepped]
      apply congrArg (List.cons (MempoolEvent.admitted bytes))
      apply ih
      · exact running
      · rfl
      · rw [List.length_append, List.length_singleton]
        omega
      · change core.mempool.totalBytes + bytes.length + _ <= _
        omega

/-! ## Every run -/

/-- Over every run of calls on an opened core, whatever becomes of the writes of
its commits, the overlay is the fold of the simulation over the transactions
that were admitted since the last commit.  Its limits hold, no two of these
transactions conflict, and a check that is refused changes nothing. -/
theorem mempool_overlay_follows_admissions {execution : PersistentExecution}
    {authorization : SettlementServiceAuthorization} {opened : NoxisCometCore}
    (made : NoxisCometCore.tryNew context execution authorization = .ok opened)
    (calls : List (CoreCall × WriteOutcome)) :
    let reached := run (NoxisCometCore.mempoolStep context) opened calls
    let core := reached.1
    let admitted := admittedSinceCommit reached.2
    (∃ receipts, simulateTransactions context admitted
        (.fromCommitted core.execution.committed) = .ok receipts core.mempool.candidate) /\
      core.mempool.transactions = admitted /\
      core.mempool.totalBytes = (admitted.map List.length).sum /\
      admitted.length <= 10000 /\
      core.mempool.totalBytes <= 64 * 1024 * 1024 /\
      admitted.Pairwise (fun first second => forall earlier later,
        decodeTransaction first = .ok earlier -> decodeTransaction second = .ok later ->
          earlier.id ≠ later.id /\
            forall nullifier, nullifier ∈ earlier.inputs -> nullifier ∉ later.inputs) /\
      forall transaction result next,
        NoxisCometCore.checkTx context transaction core = .ok result next ->
          result.accepted = false -> next = core := by
  intro reached core admitted
  rcases tryNew_eq_ok.mp made with ⟨_, isOpened⟩
  have initial : Overlays context opened (admittedSinceCommit []) := by
    apply overlays_new
    rw [isOpened]
  have overlays : Overlays context core admitted :=
    run_invariant (NoxisCometCore.mempoolStep context)
      (fun core events => Overlays context core (admittedSinceCommit events)) initial calls
      (fun _ _ call _ holds => holds.mempoolStep call)
  rcases overlays.runs with ⟨records, runs⟩
  refine ⟨⟨_, simulateTransactions_eq_ok.mpr ⟨records, runs, rfl⟩⟩, overlays.transactions,
    overlays.bytes, overlays.countLimit, overlays.byteLimit, ?_, ?_⟩
  · refine (pairwise_of_runs runs).imp ?_
    intro first second separate earlier later decodedFirst decodedSecond
    have noConflict := separate earlier later decodedFirst decodedSecond
    refine ⟨fun same => noConflict (Or.inl same), ?_⟩
    intro nullifier spentFirst spentSecond
    exact noConflict (Or.inr ⟨nullifier, spentFirst, spentSecond⟩)
  · intro transaction result next checked refused
    rcases @checkTx_cases _ context transaction core with
      ⟨mempool, _, accepted⟩ | unchanged | ⟨cause, failed⟩
    · rw [accepted] at checked
      cases checked
      cases refused
    · rw [unchanged] at checked
      cases checked
      rfl
    · rw [failed] at checked
      cases checked

end

section
open Fips180

/-- A mint and a transfer are admitted to the mempool of a fresh core. -/
theorem testProposal_is_admitted : ∃ opened events receipts,
    let transactions := testProposal.transactions
    let calls := (CoreCall.initChain (announcement testExecutionContext), WriteOutcome.complete) ::
      transactions.map (fun bytes => (CoreCall.checkTx bytes, WriteOutcome.complete))
    NoxisCometCore.tryNew testExecutionContext (coordinator testCommitted [])
        ⟨testExecutionContext.validationContext.id⟩ = .ok opened /\
      (run (NoxisCometCore.mempoolStep testExecutionContext) opened calls).2 = events /\
      admittedSinceCommit events = transactions /\
      simulateTransactions testExecutionContext transactions
        (.fromCommitted (run (NoxisCometCore.mempoolStep testExecutionContext) opened
          calls).1.execution.committed) =
        .ok receipts (run (NoxisCometCore.mempoolStep testExecutionContext) opened
          calls).1.mempool.candidate := by
  rcases exists_executes_testProposal with ⟨block, executes⟩
  rcases @exists_tryNew _ testExecutionContext (coordinator testCommitted []) with ⟨opened, made⟩
  have announced : opened.mempoolStep testExecutionContext
      (.initChain (announcement testExecutionContext), .complete) =
        (freshCore testCommitted, []) :=
    congrArg (fun result => (result.1, []))
      (step_initChain_fresh genesis_testCommitted made
        (announcesGenesis_announcement testExecutionContext))
  have room : (freshCore testCommitted).mempool.transactions.length +
      testProposal.transactions.length <= maxPendingTransactions := by decide +kernel
  have small : (freshCore testCommitted).mempool.totalBytes +
      (testProposal.transactions.map List.length).sum <= maxPendingTransactionBytes := by
    decide +kernel
  have admitted := run_checkTx_of_runs executes.runs .complete
    (rfl : (freshCore testCommitted).lifecycle = .running) rfl room small
  have recorded : (run (NoxisCometCore.mempoolStep testExecutionContext) opened
      ((CoreCall.initChain (announcement testExecutionContext), WriteOutcome.complete) ::
        testProposal.transactions.map (fun bytes => (CoreCall.checkTx bytes, .complete)))).2 =
      testProposal.transactions.map .admitted := by
    rw [run_cons_of_step announced, List.nil_append, admitted]
  rcases (mempool_overlay_follows_admissions made
    ((CoreCall.initChain (announcement testExecutionContext), WriteOutcome.complete) ::
      testProposal.transactions.map (fun bytes => (CoreCall.checkTx bytes, .complete)))).1 with
    ⟨receipts, simulated⟩
  rw [recorded, admittedSinceCommit_map] at simulated
  exact ⟨opened, _, receipts, made, recorded, admittedSinceCommit_map _, simulated⟩

end
end Noxis.Comet
