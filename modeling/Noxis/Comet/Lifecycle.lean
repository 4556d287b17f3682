import Noxis.Comet.Core

namespace Noxis.Comet

open Foundation Codec Ledger Consensus Execution Storage NoxisCometCore

/-!
# What becomes durable

The engine may call the core in any order.  Seen from outside, a core keeps a
promise and has kept one: the block it finalized last, which waits for a
commit, and the block its last commit made durable.  Every run of calls keeps
the core in step with that history, and only a commit touches the journal.
-/

section
variable [Sha256] {context : ExecutionContext} {core next : NoxisCometCore}
  {decision : CometBftDecision} {transactions : List (List UInt8)}

theorem ensureInitialized_eq_ok :
    core.ensureInitialized = .ok () <-> core.lifecycle = .running := by
  unfold ensureInitialized
  by_cases running : core.lifecycle = .running
  · simp [running]
  · simp [running]

variable {height : UInt64}

theorem expectedNextNoxisHeight_eq_ok :
    core.expectedNextNoxisHeight = .ok height <->
      height.toNat = core.execution.committed.height.toNat + 1 := by
  unfold expectedNextNoxisHeight
  cases isNext : checkedAdd core.execution.committed.height 1 with
  | none =>
    refine iff_of_false nofun ?_
    intro isHeight
    rw [checkedAdd_eq_some.mpr isHeight] at isNext
    cases isNext
  | some expected =>
    have isExpected := checkedAdd_eq_some.mp isNext
    change Except.ok expected = Except.ok height <-> height.toNat = _ + (1 : UInt64).toNat
    rw [← isExpected, Except.ok.injEq, eq_comm, UInt64.toNat_inj]

theorem ensureNextEngineHeight_eq_ok {engineHeight : Int} :
    core.ensureNextEngineHeight context engineHeight = .ok height <->
      height.toNat = core.execution.committed.height.toNat + 1 /\
        context.cometBftGenesis.identity.engineHeightFor height = .ok engineHeight := by
  unfold ensureNextEngineHeight NoxisCometCore.engineHeight
  simp only [Except.bind_eq_ok, Except.mapError_eq_ok, Except.refuse_eq_ok, not_not,
    expectedNextNoxisHeight_eq_ok, Except.ok.injEq]
  constructor
  · rintro ⟨_, isNext, _, mapped, rfl, rfl⟩
    exact ⟨isNext, mapped⟩
  · rintro ⟨isNext, mapped⟩
    exact ⟨height, isNext, engineHeight, mapped, rfl, rfl⟩

theorem validateDecision_eq_ok :
    core.validateDecision context decision = .ok () <->
      ∃ height : UInt64, height.toNat = core.execution.committed.height.toNat + 1 /\
        decision.validateFor context.cometBftGenesis height = .ok () := by
  unfold validateDecision
  simp only [Except.bind_eq_ok, Except.mapError_eq_ok, expectedNextNoxisHeight_eq_ok]

/-- The block that a core makes of a decision and its transactions. -/
def Finalizes (context : ExecutionContext) (core : NoxisCometCore) (decision : CometBftDecision)
    (transactions : List (List UInt8)) (block : ExecutedBlock) : Prop :=
  ∃ height, Executes context core.execution.committed ⟨height, decision, transactions⟩ block

variable {block : ExecutedBlock}

theorem Finalizes.validateDecision
    (finalizes : Finalizes context core decision transactions block) :
    core.validateDecision context decision = .ok () := by
  rcases finalizes with ⟨height, executes⟩
  exact validateDecision_eq_ok.mpr ⟨height, executes.limits.height, executes.limits.decision⟩

theorem executeForEngineDecision_eq_ok (sound : core.execution.committed.Sound context) :
    core.executeForEngineDecision context decision transactions = .ok block <->
      Finalizes context core decision transactions block := by
  unfold executeForEngineDecision PersistentExecution.execute
  simp only [Except.bind_eq_ok, Except.mapError_eq_ok, ensureNextEngineHeight_eq_ok,
    executeBlock_eq_ok sound]
  constructor
  · rintro ⟨height, _, executes⟩
    exact ⟨height, executes⟩
  · rintro ⟨height, executes⟩
    have decided := CometBftDecision.validateFor_eq_ok.mp executes.limits.decision
    exact ⟨height, ⟨executes.limits.height, decided.2.1⟩, executes⟩

/-! ## Finalizing and committing -/

def resultOf (block : ExecutedBlock) : FinalizeBlockResult :=
  ⟨block.appHash, block.receipts.map txResult⟩

theorem finalizeBlock_eq_ok (sound : core.execution.committed.Sound context) {result} :
    NoxisCometCore.finalizeBlock context decision transactions core = .ok result next <->
      core.lifecycle = .running /\
        ((∃ pending, core.pending = some pending /\ pending.engineDecision = decision /\
            pending.transactions = transactions /\ result = pending.result /\ next = core) ∨
          (core.pending = none /\ ∃ block, Finalizes context core decision transactions block /\
            result = resultOf block /\
            next = { core with pending := some ⟨decision, transactions, block, result⟩ })) := by
  unfold NoxisCometCore.finalizeBlock
  rw [get_bind]
  simp only [bind_eq_ok, check_eq_ok, Except.mapError_eq_ok]
  cases isPending : core.pending with
  | some pending =>
    constructor
    · rintro ⟨_, _, ⟨running, rfl⟩, answered⟩
      dsimp only at answered
      split at answered
      · next same =>
          cases answered
          exact ⟨ensureInitialized_eq_ok.mp running, Or.inl ⟨pending, rfl, same.1, same.2, rfl, rfl⟩⟩
      · cases answered
    · rintro ⟨running, ⟨_, isSome, rfl, rfl, rfl, rfl⟩ | ⟨isNone, _⟩⟩
      · cases isSome
        refine ⟨(), next, ⟨ensureInitialized_eq_ok.mpr running, rfl⟩, ?_⟩
        dsimp only
        rw [if_pos ⟨rfl, rfl⟩]
        rfl
      · cases isNone
  | none =>
    dsimp only
    simp only [bind_eq_ok, check_eq_ok, Except.mapError_eq_ok, executeForEngineDecision_eq_ok sound]
    constructor
    · rintro ⟨_, _, ⟨running, rfl⟩, _, _, ⟨_, rfl⟩, block, _, ⟨finalizes, rfl⟩, _, _, isSet, same⟩
      cases isSet
      cases same
      exact ⟨ensureInitialized_eq_ok.mp running, Or.inr ⟨trivial, block, finalizes, rfl, rfl⟩⟩
    · rintro ⟨running, ⟨_, isSome, _⟩ | ⟨_, block, finalizes, rfl, rfl⟩⟩
      · cases isSome
      · exact ⟨(), core, ⟨ensureInitialized_eq_ok.mpr running, rfl⟩, (), core,
          ⟨finalizes.validateDecision, rfl⟩, block, core, ⟨finalizes, rfl⟩, ⟨⟩, _, rfl, rfl⟩

theorem finalizeBlock_keepsOnFailure (decision : CometBftDecision)
    (transactions : List (List UInt8)) :
    KeepsOnFailure (NoxisCometCore.finalizeBlock context decision transactions) := by
  refine .get_bind (fun core => .check_bind (fun _ _ => ?_))
  cases core.pending with
  | some pending =>
    exact .ite (.of_total fun start => ⟨_, _, rfl⟩) (.throw _)
  | none =>
    exact .check_bind (fun _ _ => .check_bind (fun block _ =>
      .of_total fun start => ⟨_, _, rfl⟩))

theorem initChain_keepsOnFailure (request : InitChainRequest) :
    KeepsOnFailure (NoxisCometCore.initChain context request) := by
  refine .get_bind (fun core => .ite (.throw _)
    (.ite (.throw _) (.of_total fun start => ⟨_, _, rfl⟩)))

/-- The announcement that a fresh core accepts. -/
structure AnnouncesGenesis (context : ExecutionContext) (request : InitChainRequest) : Prop where
  chainId : request.chainId = context.cometBftGenesis.identity.chainId
  initialHeight : request.initialHeight = context.cometBftGenesis.identity.initialHeight
  parametersSha256 : request.parametersSha256 = context.cometBftGenesis.identity.parametersSha256
  validators : request.validators = context.cometBftGenesis.validators.validators

/-- The announcement of a network by its genesis. -/
def announcement (context : ExecutionContext) : InitChainRequest where
  chainId := context.cometBftGenesis.identity.chainId
  initialHeight := context.cometBftGenesis.identity.initialHeight
  parametersSha256 := context.cometBftGenesis.identity.parametersSha256
  validators := context.cometBftGenesis.validators.validators

theorem announcesGenesis_announcement (context : ExecutionContext) :
    AnnouncesGenesis context (announcement context) :=
  ⟨rfl, rfl, rfl, rfl⟩

theorem initChain_eq_ok {request} :
    NoxisCometCore.initChain context request core = .ok () next <->
      core.execution.committed.height = 0 /\ AnnouncesGenesis context request /\
        next = { core with lifecycle := .running } := by
  unfold NoxisCometCore.initChain
  rw [get_bind]
  by_cases fresh : core.execution.committed.height = 0
  · rw [if_neg (not_not_intro fresh)]
    by_cases matching : AnnouncesGenesis context request
    · rw [if_neg (by simp [matching.chainId, matching.initialHeight, matching.parametersSha256,
        matching.validators])]
      constructor
      · intro accepted
        cases accepted
        exact ⟨fresh, matching, rfl⟩
      · rintro ⟨_, _, rfl⟩
        rfl
    · rw [if_pos]
      · refine iff_of_false nofun ?_
        rintro ⟨_, matches', _⟩
        exact matching matches'
      · by_contra equal
        simp only [not_or, not_not] at equal
        exact matching ⟨equal.1, equal.2.1, equal.2.2.1, equal.2.2.2⟩
  · rw [if_pos fresh]
    refine iff_of_false nofun ?_
    rintro ⟨isFresh, _⟩
    exact fresh isFresh

/-- An announcement changes nothing but the lifecycle. -/
theorem initChain_frame (request : InitChainRequest) (core : NoxisCometCore) :
    let after := finalState (NoxisCometCore.initChain context request core)
    after.execution = core.execution /\ after.pending = core.pending /\
      after.mempool = core.mempool := by
  unfold NoxisCometCore.initChain
  rw [get_bind]
  split
  · exact ⟨rfl, rfl, rfl⟩
  · split <;> exact ⟨rfl, rfl, rfl⟩

theorem checkTx_execution (transaction : List UInt8) (core : NoxisCometCore) :
    (finalState (NoxisCometCore.checkTx context transaction core)).execution = core.execution /\
      (finalState (NoxisCometCore.checkTx context transaction core)).pending = core.pending /\
      (finalState (NoxisCometCore.checkTx context transaction core)).lifecycle =
        core.lifecycle := by
  unfold NoxisCometCore.checkTx
  by_cases stopped : core.lifecycle ≠ .running
  · rw [if_pos stopped]
    exact ⟨rfl, rfl, rfl⟩
  · rw [if_neg stopped]
    cases MempoolOverlay.admit context transaction core.mempool with
    | ok _ mempool => exact ⟨rfl, rfl, rfl⟩
    | error fault mempool => cases fault <;> exact ⟨rfl, rfl, rfl⟩

/-- A running core commits the finalized block as the coordinator does. -/
theorem commit_of_pending (outcome : WriteOutcome) (running : core.lifecycle = .running) {pending}
    (isPending : core.pending = some pending) :
    NoxisCometCore.commit context outcome core =
      match PersistentExecution.commit context outcome pending.executed core.execution with
      | .ok receipt execution => .ok receipt { core with
          execution
          pending := none
          mempool := .new (.fromCommitted execution.committed) }
      | .error fault execution => .error (fault.map .storage)
          { core with execution := execution } := by
  unfold NoxisCometCore.commit
  rw [get_bind, ensureInitialized_eq_ok.mpr running, isPending]
  change (onPart NoxisCometCore.execution _ (mapFailure _ _) >>= _) core = _
  cases committed : PersistentExecution.commit context outcome pending.executed core.execution with
  | ok receipt execution =>
    rw [bind_of_ok (onPart_eq_ok.mpr ⟨execution, mapFailure_eq_ok.mpr committed, rfl⟩)]
    rfl
  | error fault execution =>
    rw [bind_of_error (onPart_eq_error.mpr ⟨execution,
      mapFailure_eq_error.mpr ⟨fault, committed, rfl⟩, rfl⟩), isPending]

theorem commit_refused (outcome : WriteOutcome)
    (unready : core.lifecycle ≠ .running ∨ core.pending = none) :
    ∃ fault, NoxisCometCore.commit context outcome core = .error fault core := by
  unfold NoxisCometCore.commit
  rw [get_bind]
  by_cases running : core.lifecycle = .running
  · rw [ensureInitialized_eq_ok.mpr running, unready.resolve_left (not_not_intro running)]
    exact ⟨_, rfl⟩
  · unfold ensureInitialized
    rw [if_neg running]
    exact ⟨_, rfl⟩

/-- The calls of an engine. -/
inductive CoreCall where
  | info
  | initChain (request : InitChainRequest)
  | checkTx (transaction : List UInt8)
  | prepareProposal (height engineMaximumTransactionBytes : Int) (nextValidatorsHash : Bytes 32)
      (transactions : List (List UInt8))
  | processProposal (decision : CometBftDecision) (transactions : List (List UInt8))
  | finalizeBlock (decision : CometBftDecision) (transactions : List (List UInt8))
  | commit

/-- A block that a core promised to commit. -/
structure FinalizedPromise where
  decision : CometBftDecision
  transactions : List (List UInt8)
  result : FinalizeBlockResult

/-- The answers that bind a core. -/
inductive CoreEvent where
  | finalized (promise : FinalizedPromise)
  | committed (receipt : DurableBlockReceipt)

/-- One call, with the binding answer it got.  The queries and the judgements
of proposals borrow the core. -/
def NoxisCometCore.step (context : ExecutionContext) (core : NoxisCometCore) :
    CoreCall -> NoxisCometCore × List CoreEvent
  | .info => (core, [])
  | .initChain request => (finalState (NoxisCometCore.initChain context request core), [])
  | .checkTx transaction => (finalState (NoxisCometCore.checkTx context transaction core), [])
  | .prepareProposal _ _ _ _ => (core, [])
  | .processProposal _ _ => (core, [])
  | .finalizeBlock decision transactions =>
    match NoxisCometCore.finalizeBlock context decision transactions core with
    | .ok result next => (next, [.finalized ⟨decision, transactions, result⟩])
    | .error _ next => (next, [])
  | .commit =>
    match NoxisCometCore.commit context .complete core with
    | .ok receipt next => (next, [.committed receipt])
    | .error _ next => (next, [])

/-- The promise that is open and the one that was kept last. -/
structure PromiseHistory where
  pending : Option FinalizedPromise
  durable : Option FinalizedPromise

/-- A finalization opens a promise, and a commit keeps the open one. -/
def PromiseHistory.record (history : PromiseHistory) : CoreEvent -> PromiseHistory
  | .finalized promise => { history with pending := some promise }
  | .committed _ => ⟨none, history.pending⟩

def historyOf (log : List CoreEvent) : PromiseHistory :=
  log.foldl PromiseHistory.record ⟨none, none⟩

omit [Sha256] in
theorem historyOf_append (log : List CoreEvent) (event : CoreEvent) :
    historyOf (log ++ [event]) = (historyOf log).record event := by
  rw [historyOf, List.foldl_append]
  rfl

/-! ## Every run keeps its promises -/

/-- The journal of the core holds a chain, and a finalized block is what the
core makes of its decision on the tip of that chain. -/
structure CoreStanding (context : ExecutionContext) (genesis : CommittedExecutionState)
    (core : NoxisCometCore) (blocks : List ExecutedBlock) : Prop where
  standing : Standing context genesis core.execution blocks
  pending : forall pending, core.pending = some pending ->
    Finalizes context core pending.engineDecision pending.transactions pending.executed /\
      pending.result = resultOf pending.executed

def PendingFinalization.promise (pending : PendingFinalization) : FinalizedPromise :=
  ⟨pending.engineDecision, pending.transactions, pending.result⟩

/-- The core has the open promise of its history and reports the kept one. -/
structure Agrees (context : ExecutionContext) (opened core : NoxisCometCore)
    (history : PromiseHistory) : Prop where
  pending : core.pending.map PendingFinalization.promise = history.pending
  untouched : history.durable = none -> core.execution.toDurableTip =
    opened.execution.toDurableTip /\ core.execution.journal = opened.execution.journal
  reported : forall promise, history.durable = some promise ->
    core.info context = .ok ⟨promise.decision.height, some promise.result.appHash⟩

section
variable {genesisState : LedgerState} {genesis : CommittedExecutionState}
  {opened : NoxisCometCore} {blocks : List ExecutedBlock} {history : PromiseHistory}

theorem CoreStanding.congr (coreStanding : CoreStanding context genesis core blocks)
    (standing : Standing context genesis next.execution blocks)
    (samePending : next.pending = core.pending) : CoreStanding context genesis next blocks := by
  refine ⟨standing, ?_⟩
  intro pending isPending
  rw [samePending] at isPending
  have promised := coreStanding.pending pending isPending
  unfold Finalizes at promised ⊢
  rw [standing.tip, ← coreStanding.standing.tip]
  exact promised

theorem Agrees.congr (agrees : Agrees context opened core history)
    (sameTip : next.execution.toDurableTip = core.execution.toDurableTip)
    (sameJournal : next.execution.journal = core.execution.journal)
    (samePending : next.pending = core.pending) : Agrees context opened next history := by
  refine ⟨?_, ?_, ?_⟩
  · rw [samePending]
    exact agrees.pending
  · intro none
    rw [sameTip, sameJournal]
    exact agrees.untouched none
  · intro promise isDurable
    rw [← agrees.reported promise isDurable]
    unfold NoxisCometCore.info
    rw [sameTip]

/-- A core reports the block at its tip under the height of its decision. -/
theorem info_of_tip {committed height} {offset : Nat} {block}
    (isTip : core.execution.toDurableTip = tipOf block offset)
    (executes : Executes context committed ⟨height, decision, transactions⟩ block) :
    core.info context = .ok ⟨decision.height, some block.appHash⟩ := by
  have isHeight : block.header.input.height = height := executes.height_eq
  have decided := CometBftDecision.validateFor_eq_ok.mp executes.limits.decision
  have high : height ≠ 0 := by
    intro zero
    have isNext := executes.limits.height
    rw [zero] at isNext
    exact absurd isNext (Nat.zero_ne_add_one _)
  have isTipHeight : core.execution.committed.height = height := by
    rw [isTip]
    exact isHeight
  have isTipHash : core.execution.appHash = some block.appHash := by
    rw [isTip]
    rfl
  have mapped : context.cometBftGenesis.identity.engineHeightFor height = .ok decision.height :=
    decided.2.1
  simp only [NoxisCometCore.info, NoxisCometCore.engineHeight, isTipHeight, isTipHash, if_neg high,
    mapped]
  rfl

/-- A commit is refused without a trace in the journal, or appends the
finalized block. -/
theorem CoreStanding.commit (coreStanding : CoreStanding context genesis core blocks)
    (made : CommittedExecutionState.genesis genesisState context.chainAnchor = .ok genesis) :
    (∃ fault next, NoxisCometCore.commit context .complete core = .error fault next /\
        Standing context genesis next.execution blocks /\ next.pending = core.pending) ∨
      ∃ pending, core.pending = some pending /\
        Journalled context genesis (blocks ++ [pending.executed]) /\
        NoxisCometCore.commit context .complete core =
          .ok (receiptOf pending.executed core.execution.journal.length) { core with
            execution := coordinator genesis (blocks ++ [pending.executed])
            pending := none
            mempool := .new (.fromCommitted pending.executed.intoCommittedState) } := by
  have standing := coreStanding.standing
  by_cases running : core.lifecycle = .running
  swap
  · rcases @commit_refused _ context core .complete (Or.inl running) with ⟨fault, refused⟩
    exact Or.inl ⟨fault, core, refused, standing, rfl⟩
  rcases Option.eq_none_or_eq_some core.pending with isPending | ⟨pending, isPending⟩
  · rcases @commit_refused _ context core .complete (Or.inr isPending) with ⟨fault, refused⟩
    exact Or.inl ⟨fault, core, refused, standing, rfl⟩
  have commits := @commit_of_pending _ context core .complete running pending isPending
  rcases (coreStanding.pending pending isPending).1 with ⟨height, executes⟩
  have child := reexecutes_of_executes executes
  by_cases network : context.cometBftGenesis.id = .replicate 32 0
  · rcases standing.commit_without_network made network .complete child with ⟨fault, failed⟩
    rw [failed] at commits
    exact Or.inl ⟨_, _, commits,
      ⟨standing.journalled, standing.tip, standing.journal, Or.inr network⟩, rfl⟩
  · rcases standing.commit_of_child made network child with ⟨committed, journalled⟩
    refine Or.inr ⟨pending, isPending, journalled, ?_⟩
    rw [commits, committed, standing.journal]
    dsimp only
    rw [coordinator_append]
    rfl

theorem step_finalizeBlock_of_ok {result}
    (finalized : NoxisCometCore.finalizeBlock context decision transactions core =
      .ok result next) :
    core.step context (.finalizeBlock decision transactions) =
      (next, [.finalized ⟨decision, transactions, result⟩]) := by
  simp only [NoxisCometCore.step, finalized]

variable {fault : Fault CometAbciError}

theorem step_finalizeBlock_of_error
    (refused : NoxisCometCore.finalizeBlock context decision transactions core =
      .error fault next) :
    core.step context (.finalizeBlock decision transactions) = (core, []) := by
  rw [finalizeBlock_keepsOnFailure decision transactions _ _ _ refused] at refused
  simp only [NoxisCometCore.step, refused]

theorem step_commit_of_ok {receipt}
    (committed : NoxisCometCore.commit context .complete core = .ok receipt next) :
    core.step context .commit = (next, [.committed receipt]) := by
  simp only [NoxisCometCore.step, committed]

theorem step_commit_of_error
    (refused : NoxisCometCore.commit context .complete core = .error fault next) :
    core.step context .commit = (next, []) := by
  simp only [NoxisCometCore.step, refused]

/-- What a single call can do: it leaves the journal, the tip and the open
promise; or it makes a promise; or it keeps the open one. -/
inductive StepOutcome (context : ExecutionContext) (genesis : CommittedExecutionState)
    (core : NoxisCometCore) (blocks : List ExecutedBlock) :
    CoreCall -> NoxisCometCore × List CoreEvent -> Prop where
  | kept {call : CoreCall} {next : NoxisCometCore}
      (standing : Standing context genesis next.execution blocks)
      (samePending : next.pending = core.pending) :
      StepOutcome context genesis core blocks call (next, [])
  | promised {decision : CometBftDecision} {transactions : List (List UInt8)}
      {block : ExecutedBlock} {next : NoxisCometCore}
      (sameExecution : next.execution = core.execution)
      (isPending : next.pending = some ⟨decision, transactions, block, resultOf block⟩)
      (finalizes : Finalizes context core decision transactions block) :
      StepOutcome context genesis core blocks (.finalizeBlock decision transactions)
        (next, [.finalized ⟨decision, transactions, resultOf block⟩])
  | committed {pending : PendingFinalization} {next : NoxisCometCore}
      (isPending : core.pending = some pending)
      (journalled : Journalled context genesis (blocks ++ [pending.executed]))
      (isNext : next.execution = coordinator genesis (blocks ++ [pending.executed]))
      (noPending : next.pending = none) :
      StepOutcome context genesis core blocks .commit
        (next, [.committed (receiptOf pending.executed core.execution.journal.length)])

theorem CoreStanding.step (coreStanding : CoreStanding context genesis core blocks)
    (made : CommittedExecutionState.genesis genesisState context.chainAnchor = .ok genesis)
    (call : CoreCall) : StepOutcome context genesis core blocks call (core.step context call) := by
  have standing := coreStanding.standing
  cases call with
  | info => exact .kept standing rfl
  | initChain request =>
    have sameParts := @initChain_frame _ context request core
    refine .kept ?_ sameParts.2.1
    rw [sameParts.1]
    exact standing
  | checkTx transaction =>
    have sameParts := @checkTx_execution _ context transaction core
    refine .kept ?_ sameParts.2.1
    rw [sameParts.1]
    exact standing
  | prepareProposal _ _ _ _ => exact .kept standing rfl
  | processProposal _ _ => exact .kept standing rfl
  | finalizeBlock decision transactions =>
    cases finalized : NoxisCometCore.finalizeBlock context decision transactions core with
    | error fault next =>
      rw [step_finalizeBlock_of_error finalized]
      exact .kept standing rfl
    | ok result next =>
      rw [step_finalizeBlock_of_ok finalized]
      rcases (finalizeBlock_eq_ok (standing.sound made)).mp finalized with
        ⟨_, ⟨pending, isPending, rfl, rfl, rfl, rfl⟩ | ⟨_, block, finalizes, rfl, rfl⟩⟩
      · rcases coreStanding.pending pending isPending with ⟨finalizes, isResult⟩
        rw [isResult]
        refine .promised rfl ?_ finalizes
        rw [isPending, ← isResult]
      · exact .promised rfl rfl finalizes
  | commit =>
    rcases coreStanding.commit made with
      ⟨fault, next, refused, nextStanding, samePending⟩ |
      ⟨pending, isPending, journalled, committed⟩
    · rw [step_commit_of_error refused]
      exact .kept nextStanding samePending
    · rw [step_commit_of_ok committed]
      exact .committed isPending journalled rfl rfl

variable {result : NoxisCometCore × List CoreEvent} {call : CoreCall}

theorem StepOutcome.coreStanding (outcome : StepOutcome context genesis core blocks call result)
    (coreStanding : CoreStanding context genesis core blocks) :
    ∃ later, CoreStanding context genesis result.1 later := by
  cases outcome with
  | kept standing samePending => exact ⟨blocks, coreStanding.congr standing samePending⟩
  | promised sameExecution isPending finalizes =>
    refine ⟨blocks, ?_, ?_⟩
    · rw [sameExecution]
      exact coreStanding.standing
    · intro pending isOther
      rw [isPending] at isOther
      cases isOther
      unfold Finalizes
      rw [sameExecution]
      exact ⟨finalizes, rfl⟩
  | @committed pending next isPending journalled isNext noPending =>
    refine ⟨blocks ++ [pending.executed], ?_, ?_⟩
    · rw [isNext]
      exact standing_coordinator journalled
    · intro other isOther
      rw [noPending] at isOther
      cases isOther

theorem tip_of_committed {pending : PendingFinalization}
    (standing : Standing context genesis core.execution blocks)
    (isNext : next.execution = coordinator genesis (blocks ++ [pending.executed])) :
    next.execution.toDurableTip = tipOf pending.executed core.execution.journal.length := by
  rw [isNext, coordinator_append, standing.journal]

theorem StepOutcome.agrees {log : List CoreEvent}
    (outcome : StepOutcome context genesis core blocks call result)
    (coreStanding : CoreStanding context genesis core blocks)
    (agrees : Agrees context opened core (historyOf log)) :
    Agrees context opened result.1 (historyOf (log ++ result.2)) := by
  cases outcome with
  | kept standing samePending =>
    rw [List.append_nil]
    exact agrees.congr (standing.tip.trans coreStanding.standing.tip.symm)
      (standing.journal.trans coreStanding.standing.journal.symm) samePending
  | promised sameExecution isPending finalizes =>
    rw [historyOf_append]
    refine ⟨by rw [isPending]; rfl, ?_, ?_⟩
    · intro none
      rw [sameExecution]
      exact agrees.untouched none
    · intro promise isDurable
      rw [← agrees.reported promise isDurable]
      unfold NoxisCometCore.info
      rw [sameExecution]
  | @committed pending next isPending journalled isNext noPending =>
    have promised := agrees.pending
    rw [isPending] at promised
    rw [historyOf_append]
    refine ⟨by rw [noPending]; rfl, ?_, ?_⟩
    · intro none
      change (historyOf log).pending = _ at none
      rw [← promised] at none
      cases none
    · intro promise isDurable
      change (historyOf log).pending = _ at isDurable
      rw [← promised] at isDurable
      cases isDurable
      rcases coreStanding.pending pending isPending with ⟨⟨height, executes⟩, isResult⟩
      rw [info_of_tip (tip_of_committed coreStanding.standing isNext) executes,
        PendingFinalization.promise, isResult]
      rfl

end

section
variable {genesisState : LedgerState} {file final : List UInt8} {execution : PersistentExecution}
  {authorization : SettlementServiceAuthorization} {opened : NoxisCometCore}

theorem tryNew_eq_ok :
    tryNew context execution authorization = .ok core <->
      authorization.validationContextId = context.validationContext.id /\
        core = {
          execution
          mempool := .new (.fromCommitted execution.committed)
          pending := none
          lifecycle := if execution.committed.height = 0 then .genesisUnverified
            else .running } := by
  unfold tryNew
  rw [Except.refuse_eq_ok, not_not, Except.ok.injEq, eq_comm (a := core)]

theorem exists_tryNew (execution : PersistentExecution) : ∃ core,
    tryNew context execution ⟨context.validationContext.id⟩ = .ok core :=
  ⟨_, tryNew_eq_ok.mpr ⟨rfl, rfl⟩⟩

/-- A core that was opened stays in step with the history of its calls. -/
theorem run_coreStanding
    (opens : PersistentExecution.openJournal context genesisState file = .ok execution final)
    (made : tryNew context execution authorization = .ok opened) (calls : List CoreCall) :
    ∃ genesis blocks,
      CommittedExecutionState.genesis genesisState context.chainAnchor = .ok genesis /\
      CoreStanding context genesis (run (NoxisCometCore.step context) opened calls).1 blocks /\
      Agrees context opened (run (NoxisCometCore.step context) opened calls).1
        (historyOf (run (NoxisCometCore.step context) opened calls).2) := by
  rcases tryNew_eq_ok.mp made with ⟨_, isOpened⟩
  rcases standing_of_openJournal opens with ⟨genesis, first, standing, isGenesis⟩
  have initial : CoreStanding context genesis opened first := by
    rw [isOpened]
    refine ⟨standing, ?_⟩
    intro pending isPending
    cases isPending
  have agrees : Agrees context opened opened (historyOf []) := by
    refine ⟨?_, fun _ => ⟨rfl, rfl⟩, ?_⟩
    · rw [isOpened]
      rfl
    · intro promise isDurable
      cases isDurable
  have invariant := run_invariant (NoxisCometCore.step context)
    (fun core log => ∃ blocks, CoreStanding context genesis core blocks /\
      Agrees context opened core (historyOf log)) ⟨first, initial, agrees⟩ calls ?_
  · rcases invariant with ⟨blocks, reached, agreed⟩
    exact ⟨genesis, blocks, isGenesis, reached, agreed⟩
  · intro core log call _ holds
    rcases holds with ⟨blocks, coreStanding, agreed⟩
    have outcome := coreStanding.step isGenesis call
    rcases outcome.coreStanding coreStanding with ⟨later, reached⟩
    exact ⟨later, reached, outcome.agrees coreStanding agreed⟩

/-- A core that runs on an empty journal. -/
def freshCore (genesis : CommittedExecutionState) : NoxisCometCore :=
  ⟨coordinator genesis [], .new (.fromCommitted genesis), none, .running⟩

variable {genesis : CommittedExecutionState} {request : InitChainRequest}

/-- A fresh core runs once it heard the right announcement. -/
theorem step_initChain_fresh
    (isGenesis : CommittedExecutionState.genesis genesisState context.chainAnchor = .ok genesis)
    (made : tryNew context (coordinator genesis []) authorization = .ok opened)
    (announces : AnnouncesGenesis context request) :
    opened.step context (.initChain request) = (freshCore genesis, []) := by
  rcases tryNew_eq_ok.mp made with ⟨_, isOpened⟩
  have zero : genesis.height = 0 := by
    rcases CommittedExecutionState.genesis_eq_ok.mp isGenesis with ⟨_, rfl⟩
    rfl
  have isFresh : opened.execution.committed.height = 0 := by
    rw [isOpened]
    exact zero
  have announced : NoxisCometCore.initChain context request opened =
      .ok () (freshCore genesis) := by
    refine initChain_eq_ok.mpr ⟨isFresh, announces, ?_⟩
    rw [isOpened]
    rfl
  simp only [NoxisCometCore.step, announced]
  rfl

theorem run_of_first_commit
    (isGenesis : CommittedExecutionState.genesis genesisState context.chainAnchor = .ok genesis)
    (network : context.cometBftGenesis.id ≠ .replicate 32 0)
    (made : tryNew context (coordinator genesis []) authorization = .ok opened)
    (announces : AnnouncesGenesis context request) {proposal block}
    (executes : Executes context genesis proposal block) :
    ∃ core, run (NoxisCometCore.step context) opened [.initChain request,
      .finalizeBlock proposal.cometDecision proposal.transactions, .commit] =
        (core, [.finalized ⟨proposal.cometDecision, proposal.transactions, resultOf block⟩,
          .committed (receiptOf block 0)]) /\ core.execution = coordinator genesis [block] := by
  have finalizes : Finalizes context (freshCore genesis) proposal.cometDecision
      proposal.transactions block := ⟨proposal.height, executes⟩
  have finalized := (finalizeBlock_eq_ok (sound_of_genesis isGenesis)).mpr
    ⟨rfl, Or.inr ⟨rfl, block, finalizes, rfl, rfl⟩⟩
  have committed : PersistentExecution.commit context .complete block
      (freshCore genesis).execution = _ :=
    ((standing_coordinator (journalled_nil context genesis)).commit_of_child
      isGenesis network (reexecutes_of_executes executes)).1
  have commits := @commit_of_pending _ context { freshCore genesis with
    pending := some ⟨proposal.cometDecision, proposal.transactions, block, resultOf block⟩ }
    .complete rfl _ rfl
  dsimp only at commits
  rw [committed] at commits
  rw [run_cons_of_step (step_initChain_fresh isGenesis made announces),
    run_cons_of_step (step_finalizeBlock_of_ok finalized), run_cons_of_step (step_commit_of_ok commits)]
  exact ⟨_, rfl, rfl⟩

/-- In every run of calls, the core reports the height and the hash of the
promise that was kept last.  A call that does not commit leaves the journal and
the tip.  A call that commits is a commit, and it appends exactly the block of
the open promise: the one that executing its decision and transactions on the
tip gives, with the result that was promised. -/
theorem commit_keeps_open_promise
    (opens : PersistentExecution.openJournal context genesisState file = .ok execution final)
    (made : NoxisCometCore.tryNew context execution authorization = .ok opened)
    (calls : List CoreCall) :
    let reached := run (NoxisCometCore.step context) opened calls
    let history := historyOf reached.2
    (match history.durable with
      | none => reached.1.execution.toDurableTip = opened.execution.toDurableTip /\
          reached.1.execution.journal = opened.execution.journal
      | some promise => reached.1.info context =
          .ok ⟨promise.decision.height, some promise.result.appHash⟩) /\
      forall call,
        let next := reached.1.step context call
        ((forall receipt, CoreEvent.committed receipt ∉ next.2) ->
          next.1.execution.toDurableTip = reached.1.execution.toDurableTip /\
            next.1.execution.journal = reached.1.execution.journal) /\
        forall receipt, CoreEvent.committed receipt ∈ next.2 ->
          call = .commit /\ ∃ promise height block, history.pending = some promise /\
            Executes context reached.1.execution.committed
              ⟨height, promise.decision, promise.transactions⟩ block /\
            promise.result = resultOf block /\
            receipt = receiptOf block reached.1.execution.journal.length /\
            next.1.execution.toDurableTip = tipOf block reached.1.execution.journal.length /\
            next.1.execution.journal = reached.1.execution.journal ++
              blockFrameFormat.encodeFrame (StoredBlock.ofExecuted block).payload /\
            next.1.info context =
              .ok ⟨promise.decision.height, some promise.result.appHash⟩ := by
  intro reached history
  rcases run_coreStanding opens made calls with ⟨genesis, blocks, isGenesis, coreStanding, agrees⟩
  constructor
  · cases isDurable : history.durable with
    | none => exact agrees.untouched isDurable
    | some promise => exact agrees.reported promise isDurable
  intro call next
  have standing := coreStanding.standing
  have outcome := coreStanding.step isGenesis call
  change StepOutcome context genesis reached.1 blocks call next at outcome
  generalize next = result at outcome
  cases outcome with
  | kept nextStanding samePending =>
    refine ⟨fun _ => ⟨nextStanding.tip.trans standing.tip.symm,
      nextStanding.journal.trans standing.journal.symm⟩, ?_⟩
    intro receipt member
    cases member
  | promised sameExecution isPending finalizes =>
    refine ⟨fun _ => by rw [sameExecution]; exact ⟨rfl, rfl⟩, ?_⟩
    intro receipt member
    cases List.mem_singleton.mp member
  | @committed pending next isPending journalled isNext noPending =>
    refine ⟨fun silent => absurd List.mem_cons_self (silent _), ?_⟩
    intro receipt member
    cases List.mem_singleton.mp member
    rcases coreStanding.pending pending isPending with ⟨⟨height, executes⟩, isResult⟩
    have promised : reached.1.pending.map PendingFinalization.promise = history.pending :=
      agrees.pending
    rw [isPending] at promised
    have isTip := tip_of_committed standing isNext
    refine ⟨rfl, pending.promise, height, pending.executed, promised.symm, executes, isResult, rfl,
      isTip, ?_, ?_⟩
    · rw [isNext, standing.journal]
      exact chainJournal_append blocks pending.executed
    · rw [info_of_tip isTip executes, PendingFinalization.promise, isResult]
      rfl

/-- Whatever the journal held and whichever calls follow, the journal holds
blocks whose transactions account for the whole ledger: they consume each
nullifier once, create each commitment once and make up every supply. -/
theorem journal_accounts_for_ledger
    (opens : PersistentExecution.openJournal context genesisState file = .ok execution final)
    (made : tryNew context execution authorization = .ok opened) {history}
    (represented : genesisState.Represents history) (calls : List CoreCall) :
    let reached := (run (NoxisCometCore.step context) opened calls).1.execution
    ∃ blocks accepted, reached.journal = chainJournal blocks /\
      accepted.map encodeTransaction = (blocks.flatMap ExecutedBlock.records).map
        (fun record => .ok record.transactionBytes) /\
      reached.committed.ledgerState.Represents (history ++ accepted) := by
  intro reached
  rcases run_coreStanding opens made calls with ⟨genesis, blocks, isGenesis, ⟨standing, _⟩, _⟩
  rcases standing.journalled.chain with ⟨proposals, executions⟩
  have initial : genesis.ledgerState.Represents history := by
    rcases CommittedExecutionState.genesis_eq_ok.mp isGenesis with ⟨_, rfl⟩
    exact represented
  rcases executions.runs.represents initial with ⟨accepted, encoded, represents⟩
  refine ⟨blocks, accepted, standing.journal, encoded, ?_⟩
  rw [standing.tip, coordinator, recovered_committed]
  exact represents

end
end

section
open Fips180

/-- A block is finalized and committed on a fresh core. -/
theorem testProposal_promise_kept : ∃ opened block receipt,
    PersistentExecution.openJournal testExecutionContext testLedger [] =
        .ok (coordinator testCommitted []) [] /\
      NoxisCometCore.tryNew testExecutionContext (coordinator testCommitted [])
        ⟨testExecutionContext.validationContext.id⟩ = .ok opened /\
      (run (NoxisCometCore.step testExecutionContext) opened
        [.initChain (announcement testExecutionContext),
          .finalizeBlock testProposal.cometDecision testProposal.transactions, .commit]).2 =
        [.finalized ⟨testProposal.cometDecision, testProposal.transactions, resultOf block⟩,
          .committed receipt] /\
      (run (NoxisCometCore.step testExecutionContext) opened
        [.initChain (announcement testExecutionContext),
          .finalizeBlock testProposal.cometDecision testProposal.transactions,
          .commit]).1.info testExecutionContext =
        .ok ⟨testProposal.cometDecision.height, some block.appHash⟩ := by
  rcases exists_executes_testProposal with ⟨block, executes⟩
  have opens := openJournal_nil genesis_testCommitted
  rcases @exists_tryNew _ testExecutionContext (coordinator testCommitted []) with ⟨opened, made⟩
  rcases run_of_first_commit genesis_testCommitted network_testExecutionContext made
    (announcesGenesis_announcement testExecutionContext) executes with ⟨core, ran, _⟩
  rcases commit_keeps_open_promise opens made [.initChain (announcement testExecutionContext),
    .finalizeBlock testProposal.cometDecision testProposal.transactions, .commit] with ⟨kept, _⟩
  refine ⟨opened, block, _, opens, made, congrArg Prod.snd ran, ?_⟩
  rw [ran] at kept ⊢
  exact kept

theorem testLedger_accounted_for : ∃ opened accepted,
    NoxisCometCore.tryNew testExecutionContext (coordinator testCommitted [])
        ⟨testExecutionContext.validationContext.id⟩ = .ok opened /\
      (run (NoxisCometCore.step testExecutionContext) opened [.initChain
        (announcement testExecutionContext), .finalizeBlock testProposal.cometDecision
          testProposal.transactions, .commit]).1.execution.committed.ledgerState.Represents
            accepted /\ accepted ≠ [] := by
  rcases exists_executes_testProposal with ⟨block, executes⟩
  rcases @exists_tryNew _ testExecutionContext (coordinator testCommitted []) with ⟨opened, made⟩
  rcases run_of_first_commit genesis_testCommitted network_testExecutionContext made
    (announcesGenesis_announcement testExecutionContext) executes with ⟨core, ran, isCore⟩
  have represented : testLedger.Represents [] :=
    LedgerState.represents_of_registerAsset (LedgerState.represents_of_new new_testStart) rfl
  rcases journal_accounts_for_ledger (openJournal_nil genesis_testCommitted) made represented _
    with ⟨_, accepted, _, _, represents⟩
  refine ⟨opened, accepted, made, represents, ?_⟩
  rintro rfl
  rw [ran, isCore] at represents
  rcases executes.runs.represents represented with ⟨others, encoded, alsoRepresents⟩
  have same := represents.transactions.elements.symm.trans alsoRepresents.transactions.elements
  have none : others = [] := by simpa using same.symm
  have length := congrArg List.length encoded
  rw [none, List.length_map, List.length_map, executes.runs.length_records] at length
  cases length

end
end Noxis.Comet
