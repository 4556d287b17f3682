import Noxis.Execution.Simulation
import Noxis.Ledger.History

namespace Noxis.Execution

open Foundation Codec Crypto Ledger RecordChain Consensus

/-!
# Blocks as runs

A block is executed exactly when the proposal is within the limits and its
transactions run.  After they have run nothing in the sealing of the block can
fail: the record chain counted the records without overflow, the header
repeats the context's own identifiers, and along the blocks from genesis the
record chain always stands at the identifier of the ledger state.
-/

variable {maximum : UInt32} {transactions : List (List UInt8)} {total : Nat}

theorem foldlM_addLength_eq_ok {start : Nat} (bounded : start < 2 ^ 64) :
    transactions.foldlM (addLength maximum) start = .ok total <->
      total = start + (transactions.map List.length).sum /\ total < 2 ^ 64 := by
  induction transactions generalizing start with
  | nil =>
    change Except.ok start = Except.ok total <-> _
    rw [Except.ok.injEq, List.map_nil, List.sum_nil]
    omega
  | cons bytes rest ih =>
    rw [List.foldlM_cons, Except.bind_eq_ok, List.map_cons, List.sum_cons]
    simp only [addLength, Except.refuse_eq_ok, Except.ok.injEq]
    constructor
    · rintro ⟨_, ⟨fits, rfl⟩, summed⟩
      have later := (ih (Nat.not_le.mp fits)).mp summed
      omega
    · rintro ⟨isTotal, inBounds⟩
      refine ⟨_, ⟨by omega, rfl⟩, (ih (by omega)).mpr ⟨by omega, inBounds⟩⟩

theorem proposalBytes_eq_ok :
    proposalBytes maximum transactions = .ok total <->
      total = (transactions.map List.length).sum /\ total < 2 ^ 64 := by
  rw [proposalBytes, foldlM_addLength_eq_ok (by decide), Nat.zero_add]

variable {committed : CommittedExecutionState} {proposal : BlockProposal}

section
variable [Sha256] {context : ExecutionContext}

/-- What a proposal has to satisfy besides its transactions. -/
structure WithinLimits (context : ExecutionContext) (committed : CommittedExecutionState)
    (proposal : BlockProposal) : Prop where
  height : proposal.height.toNat = committed.height.toNat + 1
  decision : proposal.cometDecision.validateFor context.cometBftGenesis proposal.height = .ok ()
  records : proposal.transactions.length <= context.consensusConfig.maximumBlockRecords.toNat
  bytes : (proposal.transactions.map List.length).sum <=
    context.consensusConfig.maximumBlockTransactionBytes.toNat

theorem admitProposal_eq_ok {recordCount}
    (consistent : (CandidateExecutionState.fromCommitted committed).Consistent context) :
    admitProposal context committed proposal = .ok recordCount <->
      WithinLimits context committed proposal /\
        recordCount = UInt32.ofNat proposal.transactions.length := by
  have identified : committed.ledgerState.stateId context.chainAnchor.genesisId =
      .ok committed.recordChain.currentStateId := consistent
  have recordsBounded : context.consensusConfig.maximumBlockRecords.toNat < 2 ^ 32 :=
    context.consensusConfig.maximumBlockRecords.toNat_lt
  have bytesBounded : context.consensusConfig.maximumBlockTransactionBytes.toNat < 2 ^ 32 :=
    context.consensusConfig.maximumBlockTransactionBytes.toNat_lt
  unfold admitProposal
  rw [identified]
  cases isExpected : checkedAdd committed.height 1 with
  | none =>
    constructor
    · intro impossible
      cases impossible
    · rintro ⟨limits, _⟩
      rw [checkedAdd_eq_some.mpr limits.height] at isExpected
      cases isExpected
  | some expectedHeight =>
    have isNext := checkedAdd_eq_some.mp isExpected
    simp only [Except.refuse_eq_ok, Except.bind_eq_ok, Except.mapError_eq_ok, not_not,
      proposalBytes_eq_ok, Except.ok.injEq]
    constructor
    · rintro ⟨rfl, _, decision, _, rfl, _, records, bytes, ⟨rfl, _⟩, inBounds, _, rfl⟩
      exact ⟨⟨isNext, decision, Nat.not_lt.mp records, Nat.not_lt.mp inBounds⟩, rfl⟩
    · rintro ⟨limits, rfl⟩
      have records := limits.records
      have bytes := limits.bytes
      refine ⟨UInt64.toNat_inj.mp (limits.height.trans isNext.symm), (), limits.decision, _, rfl,
        rfl, by omega, _, ⟨rfl, by omega⟩, by omega, by omega, rfl⟩

namespace WithinLimits

theorem length_le (limits : WithinLimits context committed proposal) :
    proposal.transactions.length <= maxBlockRecords :=
  limits.records.trans context.consensusConfig.recordsBounded

theorem toNat_recordCount (limits : WithinLimits context committed proposal) :
    (UInt32.ofNat proposal.transactions.length).toNat = proposal.transactions.length :=
  UInt32.toNat_ofNat_of_lt' (Nat.lt_of_le_of_lt limits.length_le (by decide))

/-- The first block is proposed on the genesis state. -/
theorem height_eq_zero (limits : WithinLimits context committed proposal)
    (first : proposal.height = 1) : committed.height = 0 := by
  have isNext := limits.height
  have isOne : proposal.height.toNat = 1 := congrArg UInt64.toNat first
  apply UInt64.toNat_inj.mp
  rw [UInt64.toNat_zero]
  omega

end WithinLimits

/-- What holds of every committed state of a network. -/
structure CommittedExecutionState.Sound (context : ExecutionContext)
    (committed : CommittedExecutionState) : Prop where
  consistent : (CandidateExecutionState.fromCommitted committed).Consistent context
  sequenced : committed.recordChain.nextSequence ≠ 0
  atGenesis : committed.height = 0 -> committed.blockId = none /\
    committed.recordChain.currentStateId = context.chainAnchor.genesisStateId
  afterGenesis : committed.height ≠ 0 -> committed.blockId ≠ none

section
variable {records : List TransactionRecord} {next : CandidateExecutionState}

theorem headerShape_of_runs (sound : committed.Sound context)
    (limits : WithinLimits context committed proposal)
    (runs : Runs context (.fromCommitted committed) proposal.transactions records next)
    (commitment : RecordCommitment) :
    HeaderShape (headerInput context committed proposal
      (UInt32.ofNat proposal.transactions.length) commitment next) := by
  have height := limits.height
  constructor
  · exact context.consensusConfig.versioned
  · intro zero
    have isZero : proposal.height.toNat = 0 := congrArg UInt64.toNat zero
    omega
  · intro first
    exact (sound.atGenesis (limits.height_eq_zero first)).1
  · intro later
    have aboveOne : 1 < proposal.height.toNat := UInt64.lt_iff_toNat_lt.mp later
    refine sound.afterGenesis (fun zero => ?_)
    rw [zero, UInt64.toNat_zero] at height
    omega
  · exact sound.sequenced
  · change (UInt32.ofNat proposal.transactions.length).toNat <= maxBlockRecords
    rw [limits.toNat_recordCount]
    exact limits.length_le
  · change committed.recordChain.nextSequence.toNat +
      ((UInt32.ofNat proposal.transactions.length).toNat - 1) < 2 ^ 64
    have counting := runs.nextSequence
    have within := next.recordChain.nextSequence.toNat_lt
    rw [runs.length_records] at counting
    change next.recordChain.nextSequence.toNat = committed.recordChain.nextSequence.toNat + _
      at counting
    rw [limits.toNat_recordCount]
    omega

/-- Once the transactions have run, the header is made and accepted. -/
theorem sealHeader_of_runs (sound : committed.Sound context)
    (limits : WithinLimits context committed proposal)
    (runs : Runs context (.fromCommitted committed) proposal.transactions records next) :
    ∃ header, sealHeader context committed proposal
      (UInt32.ofNat proposal.transactions.length) records next = .ok header := by
  have sameLength : (records.map TransactionRecord.recordHash).length =
      proposal.transactions.length := by
    rw [List.length_map, runs.length_records]
  have committedTo : ∃ commitment, RecordCommitment.fromRecordHashes
      (records.map TransactionRecord.recordHash) = .ok commitment :=
    ⟨_, if_neg (by rw [sameLength]; exact Nat.not_lt.mpr limits.length_le)⟩
  rcases committedTo with ⟨commitment, isCommitment⟩
  have shape := headerShape_of_runs sound limits runs commitment
  have made := BlockHeader.new_eq_ok.mpr
    (show (⟨_, _, validateHeaderInput_eq_ok.mpr shape, rfl⟩ : BlockHeader).input = _ from rfl)
  refine ⟨_, Except.bind_eq_ok.mpr ⟨commitment, isCommitment, Except.bind_eq_ok.mpr
    ⟨_, made, Except.bind_eq_ok.mpr ⟨(), ?_, Except.bind_eq_ok.mpr ⟨(), ?_, rfl⟩⟩⟩⟩⟩
  · refine ConsensusAnchor.validateHeader_eq_ok.mpr
      ⟨BlockHeader.validateAgainstConfig_eq_ok.mpr ⟨rfl, rfl, rfl, ?_⟩,
        context.sameNetwork.1.symm, context.sameNetwork.2.1.symm,
        context.sameNetwork.2.2.2.1.symm, ?_⟩
    · rw [UInt32.le_iff_toNat_le]
      exact le_of_eq_of_le limits.toNat_recordCount limits.records
    · intro first
      rw [context.sameNetwork.2.2.1]
      exact (sound.atGenesis (limits.height_eq_zero first)).2
  · exact BlockHeader.validateRecordHashes_eq_ok.mpr
      ⟨sameLength.trans limits.toNat_recordCount.symm, isCommitment⟩

theorem input_of_sealHeader {recordCount header}
    (isSealed : sealHeader context committed proposal recordCount records next = .ok header) :
    ∃ commitment, header.input =
      headerInput context committed proposal recordCount commitment next := by
  rcases Except.bind_eq_ok.mp isSealed with ⟨commitment, _, rest⟩
  rcases Except.bind_eq_ok.mp rest with ⟨made, isMade, rest⟩
  rcases Except.bind_eq_ok.mp rest with ⟨_, _, rest⟩
  rcases Except.bind_eq_ok.mp rest with ⟨_, _, same⟩
  cases same
  exact ⟨commitment, BlockHeader.new_eq_ok.mp isMade⟩

/-- A block that was executed is within the limits and holds the outcome of a
run of its transactions. -/
structure Executes (context : ExecutionContext) (committed : CommittedExecutionState)
    (proposal : BlockProposal) (block : ExecutedBlock) : Prop where
  limits : WithinLimits context committed proposal
  runs : Runs context (.fromCommitted committed) proposal.transactions block.records
    ⟨block.resultingState, block.resultingRecordChain⟩
  receipts : block.receipts = block.records.map .ofRecord
  isSealed : sealHeader context committed proposal (UInt32.ofNat proposal.transactions.length)
    block.records ⟨block.resultingState, block.resultingRecordChain⟩ = .ok block.header
  decision : block.cometDecision = proposal.cometDecision
  terminal : block.terminalRecordHash =
    (block.records.getLast?.map TransactionRecord.recordHash).or committed.terminalRecordHash
  hashed : block.appHash = applicationHash context block.header proposal.cometDecision
    block.resultingRecordChain.currentSequence block.terminalRecordHash

theorem executeBlock_eq_ok {block} (sound : committed.Sound context) :
    executeBlock context committed proposal = .ok block <->
      Executes context committed proposal block := by
  have pairs : forall records : List TransactionRecord,
      ((records.map (fun record => (record, ExecutionReceipt.ofRecord record))).map Prod.fst =
        records) /\
      (records.map (fun record => (record, ExecutionReceipt.ofRecord record))).map Prod.snd =
        records.map .ofRecord := by
    intro records
    simp [Function.comp_def]
  constructor
  · intro executed
    rcases Except.bind_eq_ok.mp executed with ⟨recordCount, admitted, executed⟩
    rcases (admitProposal_eq_ok sound.consistent).mp admitted with ⟨limits, rfl⟩
    cases outcome : applyTransactions context proposal.transactions 0
        (.fromCommitted committed) with
    | error fault candidate =>
      rw [outcome] at executed
      cases executed
    | ok results candidate =>
      rw [outcome] at executed
      rcases applyTransactions_eq_ok.mp outcome with ⟨records, runs, rfl⟩
      rcases Except.bind_eq_ok.mp executed with ⟨header, isSealed, same⟩
      rw [(pairs records).1] at isSealed same
      rw [(pairs records).2] at same
      cases same
      exact ⟨limits, runs, rfl, Except.mapError_eq_ok.mp isSealed, rfl, rfl, rfl⟩
  · intro executes
    have admitted := (admitProposal_eq_ok sound.consistent).mpr ⟨executes.limits, rfl⟩
    have outcome : applyTransactions context proposal.transactions 0 (.fromCommitted committed) =
        .ok _ _ := applyTransactions_eq_ok.mpr ⟨_, executes.runs, rfl⟩
    refine Except.bind_eq_ok.mpr ⟨_, admitted, ?_⟩
    rw [outcome]
    refine Except.bind_eq_ok.mpr ⟨block.header, ?_, ?_⟩
    · rw [(pairs block.records).1]
      exact Except.mapError_eq_ok.mpr executes.isSealed
    · rcases block with ⟨header, cometDecision, records, receipts, state, chain, terminal, appHash⟩
      rcases executes with ⟨_, _, isReceipts, _, isDecision, isTerminal, isHash⟩
      dsimp only at isReceipts isDecision isTerminal isHash
      subst isReceipts isDecision isHash isTerminal
      rw [(pairs records).1, (pairs records).2]
      rfl

theorem exists_executes_of_runs (sound : committed.Sound context)
    (limits : WithinLimits context committed proposal)
    (runs : Runs context (.fromCommitted committed) proposal.transactions records next) :
    ∃ block, Executes context committed proposal block := by
  rcases sealHeader_of_runs sound limits runs with ⟨header, isSealed⟩
  let terminalRecordHash :=
    (records.getLast?.map TransactionRecord.recordHash).or committed.terminalRecordHash
  exact ⟨{
    header
    cometDecision := proposal.cometDecision
    records
    receipts := records.map .ofRecord
    resultingState := next.ledgerState
    resultingRecordChain := next.recordChain
    terminalRecordHash
    appHash := applicationHash context header proposal.cometDecision
      next.recordChain.currentSequence terminalRecordHash },
    ⟨limits, runs, rfl, isSealed, rfl, rfl, rfl⟩⟩

end

/-! ## Reachable states -/

/-- The committed states of a network: the genesis state and what follows it
block by block. -/
inductive Reachable (context : ExecutionContext) : CommittedExecutionState -> Prop where
  | genesis {ledgerState : LedgerState} {committed : CommittedExecutionState}
      (made : CommittedExecutionState.genesis ledgerState context.chainAnchor = .ok committed) :
      Reachable context committed
  | block {committed : CommittedExecutionState} {proposal : BlockProposal} {block : ExecutedBlock}
      (reachable : Reachable context committed)
      (executed : executeBlock context committed proposal = .ok block) :
      Reachable context block.intoCommittedState

theorem sound_of_genesis {ledgerState}
    (made : CommittedExecutionState.genesis ledgerState context.chainAnchor = .ok committed) :
    committed.Sound context := by
  rcases CommittedExecutionState.genesis_eq_ok.mp made with ⟨identified, rfl⟩
  refine ⟨identified, ?_, fun _ => ⟨rfl, rfl⟩, fun high => absurd rfl high⟩
  change (1 : UInt64) ≠ 0
  decide

theorem Executes.height_eq {block} (executes : Executes context committed proposal block) :
    block.intoCommittedState.height = proposal.height := by
  rcases input_of_sealHeader executes.isSealed with ⟨commitment, isInput⟩
  exact congrArg BlockHeaderInput.height isInput

theorem Executes.sound {block} (executes : Executes context committed proposal block)
    (sound : committed.Sound context) : block.intoCommittedState.Sound context := by
  have isHeight := executes.height_eq
  have height := executes.limits.height
  have counting := executes.runs.nextSequence
  refine ⟨executes.runs.consistent sound.consistent, ?_, ?_, fun _ => nofun⟩
  · intro zero
    have isZero : block.resultingRecordChain.nextSequence.toNat = 0 := congrArg UInt64.toNat zero
    have positive : committed.recordChain.nextSequence.toNat ≠ 0 := fun none =>
      sound.sequenced (UInt64.toNat_inj.mp none)
    change block.resultingRecordChain.nextSequence.toNat =
      committed.recordChain.nextSequence.toNat + _ at counting
    omega
  · intro low
    rw [isHeight] at low
    rw [low, UInt64.toNat_zero] at height
    omega

theorem sound_of_reachable (reachable : Reachable context committed) : committed.Sound context := by
  induction reachable with
  | genesis made => exact sound_of_genesis made
  | block reachable executed ih =>
    exact ((executeBlock_eq_ok ih).mp executed).sound ih

end

/-! ## A network at genesis

The validators of the consensus fixtures, and a ledger with one asset.
-/

section
open Fips180

def testEngineValidators : CometBftValidatorSet :=
  (CometBftValidatorSet.fromNoxisValidatorSet testSet).toOption.getD ⟨[], .replicate 32 0⟩

def testEngineGenesis : CometBftGenesis where
  identity := testIdentity
  validators := testEngineValidators
  id := _
  compatible := rfl
  identified := rfl

def testLedger : LedgerState := finalState (LedgerState.registerAsset testAsset testStart)

def testChainAnchor : ChainAnchor where
  genesisId := .replicate 1
  validationContextId :=
    (⟨.researchV1, testVerifier.proofVerifierId, testMintPolicy.mintPolicyId⟩ :
      ValidationContext).id
  proofVerifierId := testVerifier.proofVerifierId
  mintPolicyId := testMintPolicy.mintPolicyId
  genesisStateId := (testLedger.stateId (.replicate 1)).toOption.getD (.replicate 0)

def testExecutionContext : ExecutionContext where
  chainAnchor := testChainAnchor
  validationContext := ⟨.researchV1, testVerifier.proofVerifierId, testMintPolicy.mintPolicyId⟩
  consensusAnchor := {
    genesisId := testChainAnchor.genesisId
    validationContextId := testChainAnchor.validationContextId
    consensusConfigId := testConfig.id
    genesisStateId := testChainAnchor.genesisStateId
    engineNetworkId := testEngineGenesis.id }
  consensusConfig := testConfig
  cometBftGenesis := testEngineGenesis
  verifier := testVerifier
  mintPolicy := testMintPolicy
  validated := rfl
  sameContext := ⟨rfl, rfl, rfl⟩
  sameNetwork := ⟨rfl, rfl, rfl, rfl, rfl⟩
  sameVerifier := rfl
  samePolicy := rfl

def testCommitted : CommittedExecutionState :=
  ⟨testLedger, Chain.new testChainAnchor.genesisStateId, 0, none, none⟩

/-- A mint and a transfer in one block. -/
def testProposal : BlockProposal where
  height := 1
  cometDecision := {
    networkId := testEngineGenesis.id
    height := 1
    blockHash := .replicate 32 9
    nextValidatorsHash := testEngineValidators.hash
    high := Int.one_pos
    representable := one_representable
    hashed := by decide
    scheduled := by decide +kernel }
  transactions := [transactionBytes (testMint 4 4 testAmount),
    transactionBytes (testTransfer 1 9 5)]

theorem genesis_testCommitted :
    CommittedExecutionState.genesis testLedger testExecutionContext.chainAnchor =
      .ok testCommitted := by
  have computed : testLedger.stateId testChainAnchor.genesisId =
      .ok testChainAnchor.genesisStateId := by decide +kernel
  exact CommittedExecutionState.genesis_eq_ok.mpr ⟨computed, rfl⟩

theorem reachable_testCommitted : Reachable testExecutionContext testCommitted :=
  Reachable.genesis genesis_testCommitted

theorem limits_testProposal : WithinLimits testExecutionContext testCommitted testProposal :=
  ⟨rfl, CometBftDecision.validateFor_eq_ok.mpr ⟨rfl, rfl, by decide +kernel⟩, by decide +kernel,
    by decide +kernel⟩

theorem exists_simulation_testProposal : ∃ receipts candidate,
    simulateTransactions testExecutionContext testProposal.transactions
      (.fromCommitted testCommitted) = .ok receipts candidate := by
  have finished : (match simulateTransactions testExecutionContext testProposal.transactions
      (.fromCommitted testCommitted) with
    | .ok _ _ => true
    | .error _ _ => false) = true := by decide +kernel
  cases outcome : simulateTransactions testExecutionContext testProposal.transactions
      (.fromCommitted testCommitted) with
  | error fault candidate =>
    rw [outcome] at finished
    cases finished
  | ok receipts candidate => exact ⟨receipts, candidate, rfl⟩

end

section
variable [Sha256] {context : ExecutionContext}

/-- From every reachable state a block is executed exactly when the proposal
is within the limits and its transactions can be simulated one after another
on a fresh candidate; ledger state, record chain and receipts are then those
of the simulation. -/
theorem executeBlock_eq_simulation {committed : CommittedExecutionState}
    (reachable : Reachable context committed) (proposal : BlockProposal) :
    ((∃ block, executeBlock context committed proposal = .ok block) <->
        WithinLimits context committed proposal /\
          ∃ receipts candidate, simulateTransactions context proposal.transactions
            (.fromCommitted committed) = .ok receipts candidate) /\
      forall block, executeBlock context committed proposal = .ok block ->
        simulateTransactions context proposal.transactions (.fromCommitted committed) =
          .ok block.receipts ⟨block.resultingState, block.resultingRecordChain⟩ := by
  have sound := sound_of_reachable reachable
  have simulated : forall block, executeBlock context committed proposal = .ok block ->
      simulateTransactions context proposal.transactions (.fromCommitted committed) =
        .ok block.receipts ⟨block.resultingState, block.resultingRecordChain⟩ := by
    intro block executed
    have executes := (executeBlock_eq_ok sound).mp executed
    exact simulateTransactions_eq_ok.mpr ⟨_, executes.runs, executes.receipts⟩
  refine ⟨⟨?_, ?_⟩, simulated⟩
  · rintro ⟨block, executed⟩
    exact ⟨((executeBlock_eq_ok sound).mp executed).limits, _, _, simulated block executed⟩
  · rintro ⟨limits, receipts, candidate, finished⟩
    rcases simulateTransactions_eq_ok.mp finished with ⟨records, runs, _⟩
    rcases exists_executes_of_runs sound limits runs with ⟨block, executes⟩
    exact ⟨block, (executeBlock_eq_ok sound).mpr executes⟩

end

open Fips180 in
theorem testProposal_executes_as_simulated :
    Reachable testExecutionContext testCommitted /\
      WithinLimits testExecutionContext testCommitted testProposal /\
      ∃ block, executeBlock testExecutionContext testCommitted testProposal = .ok block /\
        simulateTransactions testExecutionContext testProposal.transactions
            (.fromCommitted testCommitted) =
          .ok block.receipts ⟨block.resultingState, block.resultingRecordChain⟩ := by
  have facts := executeBlock_eq_simulation reachable_testCommitted testProposal
  rcases exists_simulation_testProposal with ⟨receipts, candidate, simulated⟩
  rcases facts.1.mpr ⟨limits_testProposal, receipts, candidate, simulated⟩ with ⟨block, executed⟩
  exact ⟨reachable_testCommitted, limits_testProposal, block, executed, facts.2 block executed⟩

end Noxis.Execution
