import Noxis.Storage.PersistentExecution

namespace Noxis.Storage

open Foundation Ledger RecordChain Consensus Execution PersistentExecution
open StoredBlock CometBftDecision

/-!
# What a journal guarantees

An executed block can always be stored: its records link up, its header
commits to them, and the limits of a proposal keep its payload below the
limit of a frame.  Only a network whose identifier is zero could not store
any block, because a stored decision may not name it.

The journal of a coordinator therefore always holds the chain of executed
blocks that ends in its tip, whatever sequence of executions, commits and
reopenings led there.
-/

section
variable [Sha256] {context : ExecutionContext}

section
variable {candidate next : CandidateExecutionState} {transactions : List (List UInt8)}
  {records : List TransactionRecord}

theorem runs_head (runs : Runs context candidate transactions records next) {record}
    (isFirst : records.head? = some record) :
    record.sequence = candidate.recordChain.nextSequence /\
      record.previousStateId = candidate.recordChain.currentStateId := by
  cases runs with
  | nil _ => cases isFirst
  | cons applies _ =>
    cases isFirst
    have made := TransactionRecord.made_of_new applies.made
    exact ⟨made.2.1, made.2.2.1⟩

theorem runs_last (runs : Runs context candidate transactions records next) :
    (records.getLast?.map TransactionRecord.resultingStateId).getD
      candidate.recordChain.currentStateId = next.recordChain.currentStateId := by
  induction runs with
  | nil candidate => rfl
  | @cons candidate middle next bytes transaction record rest records applies runs
      ih =>
      rw [← ih, (Chain.apply_eq_ok.mp applies.linked).2]
      cases records with
      | nil => rfl
      | cons second others =>
        rw [List.getLast?_cons_cons, List.getLast?_eq_some_getLast (List.cons_ne_nil _ _)]
        rfl

theorem runs_follows (runs : Runs context candidate transactions records next) :
    records.IsChain Follows := by
  induction runs with
  | nil candidate => exact List.isChain_nil
  | @cons candidate middle next bytes transaction record rest records applies runs
      ih =>
      cases records with
      | nil => exact List.isChain_singleton record
      | cons second others =>
        have here := TransactionRecord.made_of_new applies.made
        have later := runs_head runs rfl
        refine List.isChain_cons_cons.mpr ⟨⟨?_, ?_⟩, ih⟩
        · rw [later.1, here.2.1, applies.nextSequence]
        · rw [later.2, (Chain.apply_eq_ok.mp applies.linked).2]

end

section
variable {committed : CommittedExecutionState} {proposal : BlockProposal} {block : ExecutedBlock}

theorem blockShape_of_executes (executes : Executes context committed proposal block) :
    BlockShape block.header block.records := by
  have header := executes.headerOf
  constructor
  · exact header.count.symm
  · refine BlockHeader.validateRecordHashes_eq_ok.mpr ⟨?_, executes.commits.records⟩
    rw [List.length_map, header.count]
  · intro record isFirst
    rw [header.sequence, header.previous]
    exact runs_head executes.runs isFirst
  · exact runs_follows executes.runs
  · rw [header.previous, header.result]
    exact runs_last executes.runs

theorem length_payload_of_executes (executes : Executes context committed proposal block) :
    (ofExecuted block).payload.length = 447 + (150 * block.records.length +
      (proposal.transactions.map List.length).sum) := by
  rw [length_payload, ← executes.runs.made.2, List.map_map]
  change 447 + (block.records.map _).sum = _
  congr 1
  induction block.records with
  | nil => rfl
  | cons record rest ih =>
    rw [List.map_cons, List.map_cons, List.sum_cons, List.sum_cons, List.length_cons, ih]
    simp only [Function.comp_apply]
    omega

theorem length_payload_le_of_executes (executes : Executes context committed proposal block) :
    (ofExecuted block).payload.length <= maxBlockFramePayloadLength.toNat := by
  have counted : block.records.length <= 1000000 := (blockShape_of_executes executes).length_le
  have bytes := executes.limits.bytes
  have configured : context.consensusConfig.maximumBlockTransactionBytes.toNat <= 67108864 :=
    UInt32.le_iff_toNat_le.mp context.consensusConfig.bytesBounded
  have maximum : maxBlockFramePayloadLength.toNat = 217113110 := rfl
  rw [length_payload_of_executes executes]
  omega

/-- A network whose identifier is not zero can store every block it executes. -/
theorem appended_of_executes (network : context.cometBftGenesis.id ≠ .replicate 32 0)
    (executes : Executes context committed proposal block) : Appended (ofExecuted block) := by
  have decision := validateFor_eq_ok.mp executes.limits.decision
  refine ⟨⟨blockShape_of_executes executes, executes.runs.made.1, ?_⟩,
    length_payload_le_of_executes executes⟩
  change block.cometDecision.networkId ≠ _
  rw [executes.decision, decision.1]
  exact network

end

/-! ## Coordinators -/

/-- The journal of a coordinator holds the chain that ends in its tip.  Writes
are available unless no block can ever be stored. -/
structure Standing (context : ExecutionContext) (genesis : CommittedExecutionState)
    (execution : PersistentExecution) (blocks : List ExecutedBlock) : Prop where
  journalled : Journalled context genesis blocks
  tip : execution.toDurableTip = (coordinator genesis blocks).toDurableTip
  journal : execution.journal = chainJournal blocks
  available : execution.writesAvailable = true ∨
    context.cometBftGenesis.id = .replicate 32 0

section
variable {genesisState : LedgerState} {genesis : CommittedExecutionState}
  {execution : PersistentExecution} {blocks : List ExecutedBlock} {block : ExecutedBlock}
  {before : List ExecutedBlock} {last : ExecutedBlock}

theorem network_of_journalled (journalled : Journalled context genesis (before ++ [last])) :
    context.cometBftGenesis.id ≠ .replicate 32 0 := by
  rcases journalled.chain with ⟨proposals, executions⟩
  rcases executions.of_append with ⟨_, _, _, _, executes⟩
  have decision := validateFor_eq_ok.mp executes.limits.decision
  have stored : last.cometDecision.networkId ≠ .replicate 32 0 :=
    (journalled.appended last (by simp)).1.network
  rw [executes.decision, decision.1] at stored
  exact stored

/-- A coordinator with a block is the one its journal opens to. -/
theorem Standing.eq_coordinator (standing : Standing context genesis execution (before ++ [last])) :
    execution = coordinator genesis (before ++ [last]) := by
  have available := standing.available.resolve_right (network_of_journalled standing.journalled)
  rcases execution with ⟨tip, journal, writesAvailable⟩
  rw [coordinator, ← standing.journal]
  exact congrArg₂ (fun tip available => PersistentExecution.mk tip journal available)
    standing.tip available

variable
  (made : CommittedExecutionState.genesis genesisState context.chainAnchor = .ok genesis)
  (standing : Standing context genesis execution blocks)

include standing made in
theorem Standing.sound : execution.committed.Sound context := by
  rcases standing.journalled.chain with ⟨proposals, executions⟩
  rw [standing.tip, coordinator, recovered_committed]
  exact executions.sound (sound_of_genesis made)

include standing made in
/-- Opening the journal of a coordinator restores its tip and leaves the file
alone. -/
theorem Standing.reopens :
    openJournal context genesisState execution.journal =
      .ok (coordinator genesis blocks) execution.journal := by
  rw [standing.journal]
  exact openJournal_eq_ok.mpr ⟨genesis, blocks, none, made, standing.journalled,
    scans_journalOf standing.journalled.appended_map, rfl, rfl⟩

theorem standing_coordinator (journalled : Journalled context genesis blocks) :
    Standing context genesis (coordinator genesis blocks) blocks :=
  ⟨journalled, rfl, rfl, Or.inl rfl⟩

theorem journalled_nil (context : ExecutionContext) (genesis : CommittedExecutionState) :
    Journalled context genesis [] := by
  refine ⟨⟨[], Executions.nil genesis⟩, ?_⟩
  intro block member
  cases member

include made in
theorem openJournal_nil :
    openJournal context genesisState [] = .ok (coordinator genesis []) [] :=
  (standing_coordinator (journalled_nil context genesis)).reopens made

/-- The tip of a chain, with its receipt. -/
theorem coordinator_append (genesis : CommittedExecutionState) (before : List ExecutedBlock)
    (last : ExecutedBlock) :
    (coordinator genesis (before ++ [last])).toDurableTip =
      tipOf last (chainJournal before).length := by
  rw [coordinator, recovered_append, Nat.zero_add]
  rfl

/-- The tip is committed again without a change. -/
theorem Standing.commit_of_isTip (standing : Standing context genesis execution (before ++ [last]))
    (isTip : IsTip execution block) (outcome : WriteOutcome) :
    PersistentExecution.commit context outcome block execution =
      .ok (receiptOf last (chainJournal before).length) execution := by
  have available := standing.available.resolve_right (network_of_journalled standing.journalled)
  have tip := standing.tip
  rw [coordinator_append] at tip
  rcases isTip with ⟨high, height, sameId, sameHash⟩
  rw [commit_at_tip outcome available height]
  have receipt : execution.idempotentReceipt block =
      .ok (receiptOf last (chainJournal before).length) := by
    rcases standing.journalled.chain with ⟨proposals, executions⟩
    rcases executions.of_append with ⟨_, _, _, _, executes⟩
    refine idempotentReceipt_eq_ok.mpr ⟨high, sameId, sameHash,
      (chainJournal before).length, by rw [tip]; rfl, ?_⟩
    rw [tip] at sameId sameHash ⊢
    have isId : last.header.id = block.header.id := Option.some.inj sameId
    have isHash : last.appHash = block.appHash := Option.some.inj sameHash
    rw [receiptOf, isId, isHash, executes.headerOf.result]
    rfl
  rw [receipt]
  rfl

variable {stored : StoredBlock}

theorem appendBlock_of_appended (appended : Appended stored) (file : List UInt8) :
    appendBlock .complete stored file =
      .ok file.length (file ++ blockFrameFormat.encodeFrame stored.payload) := by
  unfold appendBlock
  rw [blockFrame_eq_ok.mpr ⟨appended.1, appended.2, rfl⟩]
  rfl

theorem appendBlock_of_not_appended (refused : ¬Appended stored) (outcome : WriteOutcome)
    (file : List UInt8) : ∃ error, appendBlock outcome stored file = .error error file := by
  unfold appendBlock
  cases framed : blockFrame stored with
  | error error => exact ⟨error, rfl⟩
  | ok frame =>
    have accepted := blockFrame_eq_ok.mp framed
    exact absurd ⟨accepted.1, accepted.2.1⟩ refused

theorem chainJournal_append (blocks : List ExecutedBlock) (block : ExecutedBlock) :
    chainJournal (blocks ++ [block]) =
      chainJournal blocks ++ blockFrameFormat.encodeFrame (ofExecuted block).payload := by
  rw [chainJournal, List.map_append, journalOf_append]
  exact congrArg (chainJournal blocks ++ ·) (List.append_nil _)

include standing in
theorem Standing.append {proposal} (executes : Executes context execution.committed proposal block)
    (appended : Appended (ofExecuted block)) : Journalled context genesis (blocks ++ [block]) := by
  rcases standing.journalled.chain with ⟨proposals, executions⟩
  rw [standing.tip, coordinator, recovered_committed] at executes
  refine ⟨⟨proposals ++ [proposal], executions.append executes⟩, ?_⟩
  intro member listed
  rcases List.mem_append.mp listed with earlier | isLast
  · exact standing.journalled.appended member earlier
  · rw [List.mem_singleton.mp isLast]
    exact appended

variable {executed : ExecutedBlock}

theorem Reexecutes.blockShape {committed} (child : Reexecutes context committed block executed) :
    BlockShape block.header block.records := by
  have sameHeader : block.header = executed.header := congrArg StoredBlock.header child.2
  have sameRecords : block.records = executed.records := congrArg StoredBlock.records child.2
  rw [sameHeader, sameRecords]
  exact blockShape_of_executes child.1

include standing made in
/-- A block that executes again on the tip is appended to the chain. -/
theorem Standing.commit_of_child (network : context.cometBftGenesis.id ≠ .replicate 32 0)
    (child : Reexecutes context execution.committed block executed) :
    PersistentExecution.commit context .complete block execution =
        .ok (receiptOf executed (chainJournal blocks).length)
          (coordinator genesis (blocks ++ [executed])) /\
      Journalled context genesis (blocks ++ [executed]) := by
  have available := standing.available.resolve_right network
  have appended := appended_of_executes network child.1
  have shape := child.blockShape
  refine ⟨?_, standing.append child.1 appended⟩
  rw [commit_of_reexecutes (standing.sound made) .complete available shape child,
    child.2, appendBlock_of_appended appended, standing.journal, ← chainJournal_append]
  dsimp only
  rw [← coordinator_append genesis]
  rfl

include standing made in
theorem Standing.commit_without_network (network : context.cometBftGenesis.id = .replicate 32 0)
    (outcome : WriteOutcome) (child : Reexecutes context execution.committed block executed) :
    ∃ fault, PersistentExecution.commit context outcome block execution =
      .error fault { execution with writesAvailable := false } := by
  cases available : execution.writesAvailable with
  | false =>
    rw [← available]
    exact ⟨_, commit_of_unavailable outcome available⟩
  | true =>
    have shape := child.blockShape
    have decision := validateFor_eq_ok.mp child.1.limits.decision
    have refused : ¬Appended (ofExecuted block) := by
      intro appended
      exact appended.1.network (decision.1.trans network)
    rcases appendBlock_of_not_appended refused outcome execution.journal with ⟨error, written⟩
    rw [commit_of_reexecutes (standing.sound made) outcome available shape child, written]
    exact ⟨_, rfl⟩

include standing made in
/-- A block that is neither the tip nor a child of it is refused. -/
theorem Standing.commit_of_stranger (outcome : WriteOutcome) (notTip : ¬IsTip execution block)
    (notChild : forall executed, ¬Reexecutes context execution.committed block executed) :
    ∃ fault, PersistentExecution.commit context outcome block execution =
      .error fault execution := by
  cases available : execution.writesAvailable with
  | false => exact ⟨_, commit_of_unavailable outcome available⟩
  | true =>
    by_cases height : block.header.input.height = execution.committed.height
    · rw [commit_at_tip outcome available height]
      cases repeated : execution.idempotentReceipt block with
      | error fault => exact ⟨fault, rfl⟩
      | ok receipt =>
        rcases idempotentReceipt_eq_ok.mp repeated with
          ⟨high, sameId, sameHash, _⟩
        exact absurd ⟨high, height, sameId, sameHash⟩ notTip
    · exact commit_of_other (standing.sound made) outcome available height notChild

include standing made in
/-- Only a coordinator with a block has a tip. -/
theorem Standing.exists_last (isTip : IsTip execution block) :
    ∃ before last, blocks = before ++ [last] := by
  rcases List.eq_nil_or_concat blocks with isEmpty | ⟨before, last, isAppend⟩
  · have high := isTip.1
    rw [standing.tip, isEmpty] at high
    have zero : genesis.height = 0 := by
      rcases CommittedExecutionState.genesis_eq_ok.mp made with ⟨_, _, rfl⟩
      rfl
    change 0 < genesis.height at high
    rw [zero] at high
    exact absurd high (by decide)
  · exact ⟨before, last, by rw [isAppend, List.concat_eq_append]⟩

/-- Executed blocks that have the identifier and the hash of the tip are stored
the same way, or their preimages collide. -/
theorem ofExecuted_eq_of_isTip
    {leftContext rightContext leftCommitted rightCommitted leftProposal rightProposal left right}
    (leftExecutes : Executes leftContext leftCommitted leftProposal left)
    (rightExecutes : Executes rightContext rightCommitted rightProposal right)
    (leftTip : IsTip execution left) (rightTip : IsTip execution right) :
    ofExecuted left = ofExecuted right ∨
      CollisionBetween Sha256.digest (applicationInput leftContext left :: blockInputs left)
        (applicationInput rightContext right :: blockInputs right) := by
  have sameId : left.header.id = right.header.id :=
    Option.some.inj (leftTip.2.2.1.symm.trans rightTip.2.2.1)
  have sameHash : left.appHash = right.appHash :=
    Option.some.inj (leftTip.2.2.2.symm.trans rightTip.2.2.2)
  rcases positionFields_eq_of_appHash_eq leftExecutes rightExecutes sameHash with
    samePosition | collides
  swap
  · exact Or.inr (CollisionBetween.of_collides collides List.mem_cons_self List.mem_cons_self)
  rcases block_eq_of_id_eq leftExecutes.commits rightExecutes.commits sameId with
    ⟨sameHeader, sameRecords⟩ | collision
  swap
  · exact Or.inr (collision.mono (fun _ => List.mem_cons_of_mem _)
      (fun _ => List.mem_cons_of_mem _))
  have sameDecision : left.cometDecision = right.cometDecision := by
    simp only [positionFields, Prod.mk.injEq] at samePosition
    exact eq_of_fields_eq samePosition.2.2.2.1 samePosition.2.2.2.2.1
      samePosition.2.2.2.2.2.1 samePosition.2.2.2.2.2.2.1
  left
  rw [ofExecuted, ofExecuted, sameHeader, sameRecords, sameDecision, sameHash]

end

/-- What the owner of a coordinator can do with it. -/
inductive ExecutionCall where
  | execute (proposal : BlockProposal)
  | commit (block : ExecutedBlock)
  | reopen

/-- A successful commit, with the tip it left. -/
structure CommitEntry where
  block : ExecutedBlock
  receipt : DurableBlockReceipt
  tip : DurableTip

/-- One call, together with the commits it completed.  An execution borrows the
coordinator; reopening discards it and opens its journal again. -/
def PersistentExecution.step (context : ExecutionContext) (genesisState : LedgerState)
    (execution : PersistentExecution) :
    ExecutionCall -> PersistentExecution × List CommitEntry
  | .execute _ => (execution, [])
  | .commit block =>
    match PersistentExecution.commit context .complete block execution with
    | .ok receipt next => (next, [⟨block, receipt, next.toDurableTip⟩])
    | .error _ next => (next, [])
  | .reopen =>
    match PersistentExecution.openJournal context genesisState execution.journal with
    | .ok next _ => (next, [])
    | .error _ file => ({ execution with journal := file }, [])

/-- An entry stands for the tip: it left it, and a repetition of its commit is
answered by its receipt. -/
structure AnsweredBy (execution : PersistentExecution) (blocks : List ExecutedBlock)
    (entry : CommitEntry) : Prop where
  tip : execution.toDurableTip = entry.tip
  isTip : IsTip execution entry.block
  receipt : ∃ before last, blocks = before ++ [last] /\
    entry.receipt = receiptOf last (chainJournal before).length

/-- The tip is that of the last commit, or the opened one if there was none. -/
def TipOfLast (opened execution : PersistentExecution) (blocks : List ExecutedBlock)
    (log : List CommitEntry) : Prop :=
  match log.getLast? with
  | none => execution.toDurableTip = opened.toDurableTip /\ execution.journal = opened.journal
  | some entry => AnsweredBy execution blocks entry

section
variable {genesisState : LedgerState} {genesis : CommittedExecutionState}
  {opened execution next : PersistentExecution} {blocks : List ExecutedBlock}
  {block : ExecutedBlock} {log : List CommitEntry}

theorem TipOfLast.congr (tipOfLast : TipOfLast opened execution blocks log)
    (sameTip : next.toDurableTip = execution.toDurableTip)
    (sameJournal : next.journal = execution.journal) : TipOfLast opened next blocks log := by
  unfold TipOfLast at tipOfLast ⊢
  cases last : log.getLast? with
  | none =>
    rw [last] at tipOfLast
    exact ⟨sameTip.trans tipOfLast.1, sameJournal.trans tipOfLast.2⟩
  | some entry =>
    rw [last] at tipOfLast
    refine ⟨sameTip.trans tipOfLast.tip, ?_, tipOfLast.receipt⟩
    unfold IsTip
    rw [sameTip]
    exact tipOfLast.isTip

theorem tipOfLast_append {entry} (answered : AnsweredBy next blocks entry) :
    TipOfLast opened next blocks (log ++ [entry]) := by
  unfold TipOfLast
  rw [List.getLast?_concat]
  exact answered

theorem step_of_committed {receipt}
    (committed : PersistentExecution.commit context .complete block execution = .ok receipt next) :
    execution.step context genesisState (.commit block) =
      (next, [⟨block, receipt, next.toDurableTip⟩]) := by
  simp only [PersistentExecution.step, committed]

theorem step_of_refused {fault}
    (refused : PersistentExecution.commit context .complete block execution = .error fault next) :
    execution.step context genesisState (.commit block) = (next, []) := by
  simp only [PersistentExecution.step, refused]

/-- A commit keeps the journal and the tip together. -/
theorem Standing.step_commit (standing : Standing context genesis execution blocks)
    (made : CommittedExecutionState.genesis genesisState context.chainAnchor = .ok genesis)
    (tipOfLast : TipOfLast opened execution blocks log) (block : ExecutedBlock) :
    ∃ later, Standing context genesis
        (execution.step context genesisState (.commit block)).1 later /\
      TipOfLast opened (execution.step context genesisState (.commit block)).1 later
        (log ++ (execution.step context genesisState (.commit block)).2) := by
  by_cases isTip : IsTip execution block
  · rcases standing.exists_last made isTip with ⟨before, last, rfl⟩
    rw [step_of_committed (standing.commit_of_isTip isTip .complete)]
    exact ⟨_, standing, tipOfLast_append ⟨rfl, isTip, before, last, rfl, rfl⟩⟩
  by_cases isChild : ∃ executed, Reexecutes context execution.committed block executed
  · rcases isChild with ⟨executed, child⟩
    by_cases network : context.cometBftGenesis.id = .replicate 32 0
    · rcases standing.commit_without_network made network .complete child with ⟨fault, failed⟩
      rw [step_of_refused failed, List.append_nil]
      exact ⟨blocks, ⟨standing.journalled, standing.tip, standing.journal, Or.inr network⟩,
        tipOfLast.congr rfl rfl⟩
    · rcases standing.commit_of_child made network child with ⟨committed, journalled⟩
      rw [step_of_committed committed]
      refine ⟨_, standing_coordinator journalled,
        tipOfLast_append ⟨rfl, ?_, blocks, executed, rfl, rfl⟩⟩
      have sameHeader : block.header = executed.header := congrArg StoredBlock.header child.2
      have sameHash : block.appHash = executed.appHash := congrArg StoredBlock.appHash child.2
      unfold IsTip
      rw [coordinator_append, sameHeader, sameHash]
      have height := child.height
      rw [sameHeader] at height
      refine ⟨UInt64.lt_iff_toNat_lt.mpr ?_, rfl, rfl, rfl⟩
      change 0 < executed.header.input.height.toNat
      omega
  · rcases standing.commit_of_stranger made .complete isTip (not_exists.mp isChild) with
      ⟨fault, failed⟩
    rw [step_of_refused failed, List.append_nil]
    exact ⟨blocks, standing, tipOfLast⟩

/-- Every call keeps the journal and the tip together. -/
theorem Standing.step (standing : Standing context genesis execution blocks)
    (made : CommittedExecutionState.genesis genesisState context.chainAnchor = .ok genesis)
    (tipOfLast : TipOfLast opened execution blocks log) (call : ExecutionCall) :
    ∃ later, Standing context genesis (execution.step context genesisState call).1 later /\
      TipOfLast opened (execution.step context genesisState call).1 later
        (log ++ (execution.step context genesisState call).2) := by
  cases call with
  | execute proposal =>
    refine ⟨blocks, standing, ?_⟩
    change TipOfLast opened execution blocks (log ++ [])
    rw [List.append_nil]
    exact tipOfLast
  | commit block => exact standing.step_commit made tipOfLast block
  | reopen =>
    have reopened : execution.step context genesisState .reopen =
        (coordinator genesis blocks, []) := by
      simp only [PersistentExecution.step, standing.reopens made]
    rw [reopened, List.append_nil]
    exact ⟨blocks, standing_coordinator standing.journalled,
      tipOfLast.congr standing.tip.symm standing.journal.symm⟩

theorem standing_of_openJournal {file final}
    (opens : openJournal context genesisState file = .ok opened final) :
    ∃ genesis blocks, Standing context genesis opened blocks /\
      CommittedExecutionState.genesis genesisState context.chainAnchor = .ok genesis := by
  rcases openJournal_eq_ok.mp opens with ⟨genesis, blocks, tail, made, journalled, _, rfl, _⟩
  exact ⟨genesis, blocks, standing_coordinator journalled, made⟩

variable {proposal : BlockProposal}

theorem reexecutes_of_executes {committed} (executes : Executes context committed proposal block) :
    Reexecutes context committed block block := by
  refine ⟨?_, rfl⟩
  rw [proposal_ofExecuted executes]
  exact executes

/-- The first block of a chain is committed once it has been executed. -/
theorem run_of_first_block
    (made : CommittedExecutionState.genesis genesisState context.chainAnchor = .ok genesis)
    (network : context.cometBftGenesis.id ≠ .replicate 32 0)
    (executes : Executes context genesis proposal block) :
    (coordinator genesis []).execute context proposal = .ok block /\
      (run (PersistentExecution.step context genesisState) (coordinator genesis [])
        [.execute proposal, .commit block, .reopen]).2 =
          [⟨block, receiptOf block 0, tipOf block 0⟩] := by
  have standing := standing_coordinator (journalled_nil context genesis)
  rcases standing.commit_of_child made network (reexecutes_of_executes executes) with
    ⟨committed, journalled⟩
  have restart : PersistentExecution.step context genesisState
      (coordinator genesis ([] ++ [block])) .reopen = (coordinator genesis ([] ++ [block]), []) := by
    simp only [PersistentExecution.step, (standing_coordinator journalled).reopens made]
  have first : PersistentExecution.step context genesisState (coordinator genesis [])
      (.execute proposal) = (coordinator genesis [], []) := rfl
  constructor
  · exact Except.mapError_eq_ok.mpr ((executeBlock_eq_ok (sound_of_genesis made)).mpr executes)
  · rw [run_cons_of_step first, run_cons_of_step (step_of_committed committed),
      run_cons_of_step restart, coordinator_append]
    rfl

/-- Whatever calls are made on an opened journal, opening it again restores the
tip that the last successful commit left.  Committing that block again returns
its receipt and changes nothing, and so does committing any other block with
the identifier and the hash of the tip, which only a collision tells apart.  A
block that is neither the tip nor a child of it is refused without a change. -/
theorem durable_across_calls {file final : List UInt8}
    (opens : PersistentExecution.openJournal context genesisState file = .ok opened final)
    (calls : List ExecutionCall) :
    let reached := run (PersistentExecution.step context genesisState) opened calls
    ∃ reopened,
      PersistentExecution.openJournal context genesisState reached.1.journal =
          .ok reopened reached.1.journal /\
        reopened.toDurableTip = reached.1.toDurableTip /\
        (match reached.2.getLast? with
          | none => reached.1.toDurableTip = opened.toDurableTip /\ reached.1.journal = opened.journal
          | some entry => reached.1.toDurableTip = entry.tip /\ IsTip reached.1 entry.block /\
              forall outcome,
                PersistentExecution.commit context outcome entry.block reached.1 =
                    .ok entry.receipt reached.1 /\
                  PersistentExecution.commit context outcome entry.block reopened =
                    .ok entry.receipt reopened) /\
        (forall outcome block, IsTip reached.1 block ->
          ∃ receipt, PersistentExecution.commit context outcome block reached.1 =
            .ok receipt reached.1) /\
        (forall leftContext leftCommitted leftProposal left rightContext rightCommitted
            rightProposal right,
          Executes leftContext leftCommitted leftProposal left ->
          Executes rightContext rightCommitted rightProposal right ->
          IsTip reached.1 left -> IsTip reached.1 right ->
          StoredBlock.ofExecuted left = StoredBlock.ofExecuted right ∨
            CollisionBetween Sha256.digest (applicationInput leftContext left :: blockInputs left)
              (applicationInput rightContext right :: blockInputs right)) /\
        (forall outcome block, ¬IsTip reached.1 block ->
          (forall executed, ¬Reexecutes context reached.1.committed block executed) ->
          ∃ fault, PersistentExecution.commit context outcome block reached.1 =
            .error fault reached.1) := by
  intro reached
  rcases standing_of_openJournal opens with ⟨genesis, first, initial, made⟩
  have invariant : ∃ blocks, Standing context genesis reached.1 blocks /\
      TipOfLast opened reached.1 blocks reached.2 := by
    refine run_invariant (PersistentExecution.step context genesisState)
      (fun execution log => ∃ blocks, Standing context genesis execution blocks /\
        TipOfLast opened execution blocks log) ⟨first, initial, rfl, rfl⟩ calls ?_
    intro execution log call _ holds
    rcases holds with ⟨blocks, standing, tipOfLast⟩
    exact standing.step made tipOfLast call
  rcases invariant with ⟨blocks, standing, tipOfLast⟩
  refine ⟨coordinator genesis blocks, standing.reopens made, standing.tip.symm, ?_, ?_, ?_, ?_⟩
  · unfold TipOfLast at tipOfLast
    cases last : reached.2.getLast? with
    | none =>
      rw [last] at tipOfLast
      exact tipOfLast
    | some entry =>
      rw [last] at tipOfLast
      rcases tipOfLast.receipt with ⟨before, tip, rfl, receipt⟩
      refine ⟨tipOfLast.tip, tipOfLast.isTip, ?_⟩
      intro outcome
      rw [← standing.eq_coordinator, receipt]
      exact ⟨standing.commit_of_isTip tipOfLast.isTip outcome,
        standing.commit_of_isTip tipOfLast.isTip outcome⟩
  · intro outcome block isTip
    rcases standing.exists_last made isTip with ⟨before, last, rfl⟩
    exact ⟨_, standing.commit_of_isTip isTip outcome⟩
  · intro _ _ _ _ _ _ _ _ leftExecutes rightExecutes leftTip rightTip
    exact ofExecuted_eq_of_isTip leftExecutes rightExecutes leftTip rightTip
  · intro outcome block notTip notChild
    exact standing.commit_of_stranger made outcome notTip notChild

end

/-! ## Executed blocks become durable -/

end

section
open Fips180

theorem network_testExecutionContext :
    testExecutionContext.cometBftGenesis.id ≠ .replicate 32 0 := by
  decide +kernel

/-- A block is executed and committed on an empty journal, and found again. -/
theorem testProposal_durable : ∃ opened block receipt tip,
    PersistentExecution.openJournal testExecutionContext testLedger [] = .ok opened [] /\
      opened.execute testExecutionContext testProposal = .ok block /\
      (run (PersistentExecution.step testExecutionContext testLedger) opened
        [.execute testProposal, .commit block, .reopen]).2 = [⟨block, receipt, tip⟩] /\
      ∃ reopened,
        PersistentExecution.openJournal testExecutionContext testLedger
            (run (PersistentExecution.step testExecutionContext testLedger) opened
              [.execute testProposal, .commit block, .reopen]).1.journal =
          .ok reopened (run (PersistentExecution.step testExecutionContext testLedger) opened
              [.execute testProposal, .commit block, .reopen]).1.journal /\
        reopened.toDurableTip = tip /\
        PersistentExecution.commit testExecutionContext .complete block reopened =
          .ok receipt reopened := by
  rcases exists_executes_testProposal with ⟨block, executes⟩
  have opens := openJournal_nil genesis_testCommitted
  rcases run_of_first_block genesis_testCommitted network_testExecutionContext executes with
    ⟨executed, logged⟩
  rcases durable_across_calls opens [.execute testProposal, .commit block, .reopen] with
    ⟨reopened, again, sameTip, last, _⟩
  rw [logged] at last
  exact ⟨_, block, _, _, opens, executed, logged, reopened, again, sameTip.trans last.1,
    (last.2.2 .complete).2⟩

end
end Noxis.Storage
