import Noxis.Comet.Lifecycle

namespace Noxis.Comet

open Foundation Ledger Consensus Execution Storage NoxisCometCore

/-!
# Proposals that are prepared, processed and finalized

A proposal is prepared by trying the candidates one after another and keeping
those that fit.  What is kept runs as a whole, because each transaction was
tried on the state that the kept ones before it leave.  A prepared proposal is
therefore accepted when it is processed and succeeds when it is finalized.
Processing and finalizing execute a proposal the same way, so they agree on
every proposal.
-/

section
variable [Sha256] {context : ExecutionContext}

theorem simulateOn_eq_ok {bytes candidate next} :
    simulateOn context bytes candidate = .ok next <->
      ∃ transaction record, Applies context candidate bytes transaction record next := by
  unfold simulateOn
  cases simulated : simulateTransaction context bytes candidate with
  | ok receipt final =>
    rcases bind_eq_ok.mp simulated with ⟨⟨record, _⟩, _, applied, returned⟩
    cases returned
    rw [Except.ok.injEq]
    constructor
    · rintro rfl
      rcases applyTransaction_eq_ok.mp applied with ⟨⟨transaction, applies⟩, _⟩
      exact ⟨transaction, record, applies⟩
    · rintro ⟨transaction, other, applies⟩
      have again := (@applyTransaction_eq_ok _ context bytes 0 candidate next other _).mpr
        ⟨⟨transaction, applies⟩, rfl⟩
      rw [again] at applied
      cases applied
      rfl
  | error fault final =>
    refine iff_of_false nofun ?_
    rintro ⟨transaction, record, applies⟩
    have finished : simulateTransaction context bytes candidate = .ok (.ofRecord record) next :=
      bind_of_ok (applyTransaction_eq_ok.mpr ⟨⟨transaction, applies⟩, rfl⟩)
    rw [finished] at simulated
    cases simulated

/-- Transactions that run from a state within limits. -/
structure Selection (context : ExecutionContext) (start : CandidateExecutionState)
    (byteLimit recordLimit : Nat) (selected : List (List UInt8))
    (candidate : CandidateExecutionState) : Prop where
  runs : ∃ records, Runs context start selected records candidate
  bytes : (selected.map List.length).sum <= byteLimit
  records : selected.length <= recordLimit

variable {start candidate next : CandidateExecutionState} {byteLimit recordLimit : Nat}
  {selected transactions : List (List UInt8)} {bytes : List UInt8}

omit [Sha256] in
theorem sum_length_concat : (selected.map List.length).sum + bytes.length =
    ((selected ++ [bytes]).map List.length).sum := by
  rw [List.map_append, List.sum_append]
  simp

theorem Selection.append (selection : Selection context start byteLimit recordLimit selected candidate)
    (room : selected.length ≠ recordLimit)
    (fits : (selected.map List.length).sum + bytes.length <= byteLimit)
    (simulated : simulateOn context bytes candidate = .ok next) :
    Selection context start byteLimit recordLimit (selected ++ [bytes]) next := by
  rcases selection.runs with ⟨records, runs⟩
  rcases simulateOn_eq_ok.mp simulated with ⟨transaction, record, applies⟩
  have fewer := selection.records
  refine ⟨⟨records ++ [record], runs.append (Runs.cons applies (Runs.nil next))⟩, ?_, ?_⟩
  · rw [← sum_length_concat]
    exact fits
  · rw [List.length_append, List.length_singleton]
    omega

/-- The loop keeps a selection and adds to it, in order, some of the
transactions it has not tried yet. -/
theorem selectTransactions_eq_ok {result}
    (selection : Selection context start byteLimit recordLimit selected candidate)
    (finished : selectTransactions context byteLimit recordLimit transactions
      candidate (selected.map List.length).sum selected = .ok result) :
    (∃ added, added.Sublist transactions /\ result = selected ++ added) /\
      ∃ final, Selection context start byteLimit recordLimit result final := by
  induction transactions generalizing candidate selected with
  | nil =>
    cases finished
    exact ⟨⟨[], List.Sublist.slnil, (List.append_nil _).symm⟩, candidate, selection⟩
  | cons bytes rest ih =>
    have skipped : selectTransactions context byteLimit recordLimit rest
        candidate (selected.map List.length).sum selected = .ok result ->
        (∃ added, added.Sublist (bytes :: rest) /\ result = selected ++ added) /\
          ∃ final, Selection context start byteLimit recordLimit result final := by
      intro later
      rcases ih selection later with ⟨⟨added, sublist, isResult⟩, final⟩
      exact ⟨⟨added, sublist.cons bytes, isResult⟩, final⟩
    rw [selectTransactions] at finished
    by_cases full : selected.length = recordLimit
    · rw [if_pos full] at finished
      cases finished
      exact ⟨⟨[], List.nil_sublist _, (List.append_nil _).symm⟩, candidate, selection⟩
    rw [if_neg full] at finished
    by_cases overflow : 2 ^ 64 <= (selected.map List.length).sum + bytes.length
    · rw [if_pos overflow] at finished
      exact skipped finished
    rw [if_neg overflow] at finished
    by_cases tooLong : byteLimit < (selected.map List.length).sum + bytes.length
    · rw [if_pos tooLong] at finished
      exact skipped finished
    rw [if_neg tooLong] at finished
    cases simulated : simulateOn context bytes candidate with
    | error fault =>
      rw [simulated] at finished
      cases fault with
      | error reason => exact skipped finished
      | panic cause => cases finished
    | ok next =>
      rw [simulated] at finished
      dsimp only at finished
      rw [sum_length_concat] at finished
      have extended := selection.append full (Nat.not_lt.mp tooLong) simulated
      rcases ih extended finished with ⟨⟨added, sublist, isResult⟩, final⟩
      refine ⟨⟨bytes :: added, sublist.cons_cons bytes, ?_⟩, final⟩
      rw [isResult, List.append_assoc]
      rfl

/-- Only a panic of the simulation ends the loop early. -/
theorem selectTransactions_error {total : Nat} {fault}
    (failed : selectTransactions context byteLimit recordLimit transactions
      candidate total selected = .error fault) : ∃ cause, fault = .panic cause := by
  induction transactions generalizing candidate total selected with
  | nil => cases failed
  | cons bytes rest ih =>
    rw [selectTransactions] at failed
    split at failed
    · cases failed
    split at failed
    · exact ih failed
    split at failed
    · exact ih failed
    split at failed
    · cases failed
      exact ⟨_, rfl⟩
    · exact ih failed
    · exact ih failed

/-- Transactions that run one after another within the limits are all kept. -/
theorem selectTransactions_of_runs {records}
    (runs : Runs context candidate transactions records next)
    (few : selected.length + transactions.length <= recordLimit)
    (short : (selected.map List.length).sum + (transactions.map List.length).sum <= byteLimit)
    (bounded : byteLimit < 2 ^ 64) :
    selectTransactions context byteLimit recordLimit transactions candidate
      (selected.map List.length).sum selected = .ok (selected ++ transactions) := by
  induction runs generalizing selected with
  | nil candidate =>
    rw [selectTransactions, List.append_nil]
  | @cons candidate middle next bytes transaction record rest records applies runs
      ih =>
      rw [List.length_cons] at few
      rw [List.map_cons, List.sum_cons] at short
      rw [selectTransactions, if_neg (by omega), if_neg (by omega),
        if_neg (by omega), simulateOn_eq_ok.mpr ⟨transaction, record, applies⟩]
      dsimp only
      rw [sum_length_concat, ih, List.append_assoc]
      · rfl
      · rw [List.length_append, List.length_singleton]
        omega
      · rw [← sum_length_concat]
        omega

/-! ## Preparing, processing and finalizing -/

variable {core : NoxisCometCore} {decision : CometBftDecision}

theorem processProposal_eq_accept (sound : core.execution.committed.Sound context) :
    core.processProposal context decision transactions = .ok .accept <->
      core.lifecycle = .running /\ ∃ block, Finalizes context core decision transactions block := by
  unfold processProposal
  constructor
  · intro accepted
    rcases Except.bind_eq_ok.mp accepted with ⟨_, running, accepted⟩
    rcases Except.bind_eq_ok.mp accepted with ⟨_, _, accepted⟩
    refine ⟨ensureInitialized_eq_ok.mp (Except.mapError_eq_ok.mp running), ?_⟩
    split at accepted
    · next block executed =>
        exact ⟨block, (executeForEngineDecision_eq_ok sound).mp executed⟩
    · cases accepted
    · cases accepted
  · rintro ⟨running, block, finalizes⟩
    rw [ensureInitialized_eq_ok.mpr running, finalizes.validateDecision,
      (executeForEngineDecision_eq_ok sound).mpr finalizes]
    rfl

/-- A core without a finalized block finalizes exactly what it would accept. -/
theorem finalizeBlock_iff_processProposal (sound : core.execution.committed.Sound context)
    (nothing : core.pending = none) :
    (∃ result next, finalizeBlock context decision transactions core = .ok result next) <->
      core.processProposal context decision transactions = .ok .accept := by
  rw [processProposal_eq_accept sound]
  simp only [finalizeBlock_eq_ok sound]
  constructor
  · rintro ⟨result, next, running, ⟨pending, isPending, _⟩ | ⟨_, block, finalizes, _⟩⟩
    · rw [nothing] at isPending
      cases isPending
    · exact ⟨running, block, finalizes⟩
  · rintro ⟨running, block, finalizes⟩
    exact ⟨_, _, running, Or.inr ⟨nothing, block, finalizes, rfl, rfl⟩⟩

theorem length_results_of_finalizeBlock (sound : core.execution.committed.Sound context)
    (nothing : core.pending = none) {result next}
    (finalized : finalizeBlock context decision transactions core =
      .ok result next) : result.transactionResults.length = transactions.length := by
  rcases (finalizeBlock_eq_ok sound).mp finalized with
    ⟨_, ⟨pending, isPending, _⟩ | ⟨_, block, ⟨height, executes⟩, rfl, _⟩⟩
  · rw [nothing] at isPending
    cases isPending
  · change (block.receipts.map txResult).length = _
    rw [executes.receipts, List.length_map, List.length_map]
    exact executes.runs.length_records

/-- What preparing a proposal requires of the engine. -/
structure Preparable (context : ExecutionContext) (core : NoxisCometCore)
    (height maximumBytes : Int) (nextValidatorsHash : Bytes 32) : Prop where
  running : core.lifecycle = .running
  height : ∃ noxisHeight, core.ensureNextEngineHeight context height = .ok noxisHeight
  hash : nextValidatorsHash = context.cometBftGenesis.validators.hash
  positive : 0 <= maximumBytes

variable {height maximumBytes : Int} {nextValidatorsHash : Bytes 32}

theorem prepareProposal_of_preparable
    (preparable : Preparable context core height maximumBytes nextValidatorsHash) :
    core.prepareProposal context height maximumBytes nextValidatorsHash transactions =
      selectTransactions context
        (min maximumBytes.toNat context.consensusConfig.maximumBlockTransactionBytes.toNat)
        context.consensusConfig.maximumBlockRecords.toNat transactions
        (.fromCommitted core.execution.committed) 0 [] := by
  rcases preparable.height with ⟨noxisHeight, isNext⟩
  unfold prepareProposal
  rw [ensureInitialized_eq_ok.mpr preparable.running, isNext]
  change (if _ then _ else if _ then _ else _) = _
  rw [if_neg (not_not_intro preparable.hash), if_neg (Int.not_lt.mpr preparable.positive)]

theorem preparable_of_prepareProposal {result}
    (prepared : core.prepareProposal context height maximumBytes nextValidatorsHash transactions =
      .ok result) : Preparable context core height maximumBytes nextValidatorsHash := by
  unfold prepareProposal at prepared
  rcases Except.bind_eq_ok.mp prepared with ⟨_, running, prepared⟩
  rcases Except.bind_eq_ok.mp prepared with ⟨noxisHeight, isNext, prepared⟩
  rcases Except.refuse_eq_ok.mp prepared with ⟨sameHash, prepared⟩
  rcases Except.refuse_eq_ok.mp prepared with ⟨positive, _⟩
  exact ⟨ensureInitialized_eq_ok.mp (Except.mapError_eq_ok.mp running),
    ⟨noxisHeight, Except.mapError_eq_ok.mp isNext⟩, not_not.mp sameHash, Int.not_lt.mp positive⟩

/-- A prepared proposal selects candidates that run within both limits. -/
theorem selection_of_prepareProposal {result}
    (prepared : core.prepareProposal context height maximumBytes nextValidatorsHash transactions =
      .ok result) :
    result.Sublist transactions /\ ∃ final,
      Selection context (.fromCommitted core.execution.committed)
        (min maximumBytes.toNat context.consensusConfig.maximumBlockTransactionBytes.toNat)
        context.consensusConfig.maximumBlockRecords.toNat result final := by
  rw [prepareProposal_of_preparable (preparable_of_prepareProposal prepared)] at prepared
  have empty : Selection context (.fromCommitted core.execution.committed)
      (min maximumBytes.toNat context.consensusConfig.maximumBlockTransactionBytes.toNat)
      context.consensusConfig.maximumBlockRecords.toNat [] (.fromCommitted core.execution.committed) :=
    ⟨⟨[], Runs.nil _⟩, Nat.zero_le _, Nat.zero_le _⟩
  rcases selectTransactions_eq_ok empty prepared with ⟨⟨added, sublist, rfl⟩, selection⟩
  exact ⟨sublist, selection⟩

/-- A selection is a block of every decision that is valid at the next height. -/
theorem Selection.finalizes (sound : core.execution.committed.Sound context) {engineLimit : Nat}
    {final} (selection : Selection context (.fromCommitted core.execution.committed)
      (min engineLimit context.consensusConfig.maximumBlockTransactionBytes.toNat)
      context.consensusConfig.maximumBlockRecords.toNat selected final) {noxisHeight}
    (isNext : noxisHeight.toNat = core.execution.committed.height.toNat + 1)
    (valid : decision.validateFor context.cometBftGenesis noxisHeight = .ok ()) :
    ∃ block, Finalizes context core decision selected block := by
  rcases selection.runs with ⟨records, runs⟩
  have limits : WithinLimits context core.execution.committed ⟨noxisHeight, decision, selected⟩ :=
    ⟨isNext, valid, selection.records, selection.bytes.trans (Nat.min_le_right _ _)⟩
  rcases exists_executes_of_runs sound limits runs with ⟨block, executes⟩
  exact ⟨block, noxisHeight, executes⟩

/-- Transactions that make a block are prepared unchanged. -/
theorem prepareProposal_of_finalizes (running : core.lifecycle = .running) {block}
    (finalizes : Finalizes context core decision transactions block)
    (large : ((transactions.map List.length).sum : Int) <= maximumBytes) :
    core.prepareProposal context decision.height maximumBytes
      context.cometBftGenesis.validators.hash transactions = .ok transactions := by
  rcases finalizes with ⟨noxisHeight, executes⟩
  have decided := CometBftDecision.validateFor_eq_ok.mp executes.limits.decision
  have bytes := executes.limits.bytes
  have bounded := context.consensusConfig.maximumBlockTransactionBytes.toNat_lt
  rw [prepareProposal_of_preparable ⟨running,
    ⟨noxisHeight, ensureNextEngineHeight_eq_ok.mpr ⟨executes.limits.height, decided.2.1⟩⟩, rfl,
    by omega⟩]
  refine @selectTransactions_of_runs _ context _ _ _ _ [] transactions _ executes.runs ?_ ?_ ?_
  · rw [List.length_nil, Nat.zero_add]
    exact executes.limits.records
  · rw [List.map_nil, List.sum_nil, Nat.zero_add]
    dsimp only at bytes
    omega
  · omega

/-- In every reached state, preparing a proposal fails only where the engine
asked for the wrong height, hash or limit, or the simulation panics.  What it
returns is a sublist of the candidates within both byte limits and the record
limit.  Every decision that is valid at the next height makes an acceptable
proposal of it, which is finalized with one result for each transaction if
nothing is pending.  On every proposal, finalizing without a pending block
succeeds exactly when processing accepts. -/
theorem prepared_proposals_are_finalized {genesisState : LedgerState} {file final : List UInt8}
    {execution : PersistentExecution} {authorization : SettlementServiceAuthorization}
    {opened : NoxisCometCore}
    (opens : PersistentExecution.openJournal context genesisState file = .ok execution final)
    (made : NoxisCometCore.tryNew context execution authorization = .ok opened)
    (calls : List CoreCall) :
    let core := (run (NoxisCometCore.step context) opened calls).1
    (forall height maximumBytes nextValidatorsHash transactions,
      Preparable context core height maximumBytes nextValidatorsHash ->
        (∃ selected, core.prepareProposal context height maximumBytes nextValidatorsHash
            transactions = .ok selected) ∨
          ∃ cause, core.prepareProposal context height maximumBytes nextValidatorsHash
            transactions = .error (.panic cause)) /\
      (forall height maximumBytes nextValidatorsHash transactions selected,
        core.prepareProposal context height maximumBytes nextValidatorsHash transactions =
          .ok selected ->
        selected.Sublist transactions /\
          ((selected.map List.length).sum : Int) <= maximumBytes /\
          (selected.map List.length).sum <=
            context.consensusConfig.maximumBlockTransactionBytes.toNat /\
          selected.length <= context.consensusConfig.maximumBlockRecords.toNat /\
          forall decision (noxisHeight : UInt64),
            noxisHeight.toNat = core.execution.committed.height.toNat + 1 ->
            decision.validateFor context.cometBftGenesis noxisHeight = .ok () ->
            core.processProposal context decision selected = .ok .accept /\
              (core.pending = none -> ∃ result next,
                NoxisCometCore.finalizeBlock context decision selected core = .ok result next /\
                  result.transactionResults.length = selected.length)) /\
      (core.pending = none -> forall decision transactions,
        (∃ result next, NoxisCometCore.finalizeBlock context decision transactions core =
            .ok result next) <->
          core.processProposal context decision transactions = .ok .accept) := by
  intro core
  rcases run_coreStanding opens made calls with ⟨genesis, blocks, isGenesis, coreStanding, _⟩
  have sound : core.execution.committed.Sound context := coreStanding.standing.sound isGenesis
  refine ⟨?_, ?_, fun nothing _ _ => finalizeBlock_iff_processProposal sound nothing⟩
  · intro height maximumBytes nextValidatorsHash transactions preparable
    cases prepared : core.prepareProposal context height maximumBytes nextValidatorsHash
        transactions with
    | ok selected => exact Or.inl ⟨selected, rfl⟩
    | error fault =>
      rw [prepareProposal_of_preparable preparable] at prepared
      rcases selectTransactions_error prepared with ⟨cause, rfl⟩
      exact Or.inr ⟨cause, rfl⟩
  · intro height maximumBytes nextValidatorsHash transactions selected prepared
    rcases selection_of_prepareProposal prepared with ⟨sublist, final, selection⟩
    have positive := (preparable_of_prepareProposal prepared).positive
    have bytes := selection.bytes
    refine ⟨sublist, by omega, by omega, selection.records, ?_⟩
    intro decision noxisHeight isNext valid
    have accepted : core.processProposal context decision selected = .ok .accept :=
      (processProposal_eq_accept sound).mpr
        ⟨(preparable_of_prepareProposal prepared).running, selection.finalizes sound isNext valid⟩
    refine ⟨accepted, ?_⟩
    intro nothing
    rcases (finalizeBlock_iff_processProposal sound nothing).mpr accepted with
      ⟨result, next, finalized⟩
    exact ⟨result, next, finalized, length_results_of_finalizeBlock sound nothing finalized⟩

end

section
open Fips180

/-- A fresh core prepares, accepts and finalizes a mint and a transfer. -/
theorem testProposal_prepared : ∃ opened core result next,
    PersistentExecution.openJournal testExecutionContext testLedger [] =
        .ok (coordinator testCommitted []) [] /\
      NoxisCometCore.tryNew testExecutionContext (coordinator testCommitted [])
        ⟨testExecutionContext.validationContext.id⟩ = .ok opened /\
      (run (NoxisCometCore.step testExecutionContext) opened
        [.initChain (announcement testExecutionContext)]).1 = core /\
      core.prepareProposal testExecutionContext testProposal.cometDecision.height
          (testProposal.transactions.map List.length).sum
          testExecutionContext.cometBftGenesis.validators.hash testProposal.transactions =
        .ok testProposal.transactions /\
      core.processProposal testExecutionContext testProposal.cometDecision
          testProposal.transactions = .ok .accept /\
      NoxisCometCore.finalizeBlock testExecutionContext testProposal.cometDecision
          testProposal.transactions core = .ok result next /\
      result.transactionResults.length = testProposal.transactions.length := by
  rcases exists_executes_testProposal with ⟨block, executes⟩
  have opens := openJournal_nil genesis_testCommitted
  rcases @exists_tryNew _ testExecutionContext (coordinator testCommitted []) with ⟨opened, made⟩
  have reached : (run (NoxisCometCore.step testExecutionContext) opened
      [.initChain (announcement testExecutionContext)]).1 = freshCore testCommitted := by
    rw [run_cons_of_step (step_initChain_fresh genesis_testCommitted made
      (announcesGenesis_announcement testExecutionContext))]
    rfl
  have prepared := prepareProposal_of_finalizes (rfl : (freshCore testCommitted).lifecycle = _)
    ⟨testProposal.height, executes⟩ (Int.le_refl _)
  rcases prepared_proposals_are_finalized opens made
    [.initChain (announcement testExecutionContext)] with ⟨_, finalizes, _⟩
  rw [reached] at finalizes
  rcases (finalizes _ _ _ _ _ prepared).2.2.2.2 testProposal.cometDecision testProposal.height
    executes.limits.height executes.limits.decision with ⟨accepted, finalized⟩
  rcases finalized rfl with ⟨result, next, finalized, counted⟩
  exact ⟨opened, _, result, next, opens, made, reached, prepared, accepted, finalized, counted⟩

end
end Noxis.Comet
