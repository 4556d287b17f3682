import Noxis.Execution.HistoryBinding
import Noxis.Storage.BlockJournal

namespace Noxis.Storage

open Foundation Ledger RecordChain Execution StoredBlock

/-!
# Durable execution

A block is durable once its frame is in the journal.  Opening a journal
executes every stored block again, starting from genesis, and compares the
outcome with what was stored; the last one is the tip.  A commit executes the
candidate again on the tip before it appends anything, and answers a repeated
commit of the tip with the receipt of the first one.  After a failed append
nothing is written until the journal is opened again.
-/

inductive PersistentExecutionError where
  | journal (source : BlockJournalError)
  | execution (source : ExecutionError)
  | heightOverflow
  | unexpectedCommitHeight (expected actual : UInt64)
  | conflictingCommitAtHeight (height : UInt64)
  | replayMismatch (height : UInt64)
  | writeUnavailable

/-- A durable fact established by one append. -/
structure DurableBlockReceipt where
  height : UInt64
  blockId : BlockId
  appHash : AppHash
  stateId : StateId
  logOffset : Nat
deriving DecidableEq

/-- The last durable block: the state it left, its hash and the place of its
frame. -/
structure DurableTip where
  committed : CommittedExecutionState
  appHash : Option AppHash
  tipOffset : Option Nat

/-- A single-writer coordinator of a journal. -/
structure PersistentExecution extends DurableTip where
  journal : List UInt8
  writesAvailable : Bool

section
variable [Sha256]

/-- The proposal whose execution a stored block claims to be. -/
def StoredBlock.proposal (stored : StoredBlock) : BlockProposal where
  height := stored.header.input.height
  cometDecision := stored.cometDecision
  transactions := stored.records.map TransactionRecord.transactionBytes

def StoredBlock.ofExecuted (block : ExecutedBlock) : StoredBlock :=
  ⟨0, block.header, block.appHash, block.cometDecision, block.records⟩

variable (context : ExecutionContext)

def reexecuteStored (committed : CommittedExecutionState) (stored : StoredBlock) :
    Except (Fault PersistentExecutionError) ExecutedBlock := do
  let executed ← (executeBlock context committed stored.proposal).mapError (Fault.map .execution)
  if executed.header ≠ stored.header ∨ executed.cometDecision ≠ stored.cometDecision ∨
      executed.records ≠ stored.records ∨ executed.appHash ≠ stored.appHash then
    .error (.error (.replayMismatch stored.header.input.height))
  else
    .ok executed

def recoverBlock (stored : StoredBlock) :
    EStateM (Fault PersistentExecutionError) DurableTip Unit := do
  let tip ← get
  let executed ← check (reexecuteStored context tip.committed stored)
  set (⟨executed.intoCommittedState, some stored.appHash, some stored.offset⟩ : DurableTip)

/-- Remove the incomplete tail a replay reported, if it reported one. -/
def truncateTail : Option IncompleteTail ->
    EStateM (Fault PersistentExecutionError) (List UInt8) Unit
  | none => pure ()
  | some tail => mapFailure (fun source => .error (.journal source))
      (truncateVerifiedIncompleteTail tail)

namespace PersistentExecution

/-- Open a journal and reconstruct its tip.  An incomplete final frame is
removed after everything before it has been executed again. -/
def openJournal (genesisState : LedgerState) :
    EStateM (Fault PersistentExecutionError) (List UInt8) PersistentExecution := do
  let genesis ← check ((CommittedExecutionState.genesis genesisState
    context.chainAnchor).mapError (Fault.map .execution))
  match replayRecoverableTail (recoverBlock context) (← get) ⟨genesis, none, none⟩ with
  | .error (.journal source) _ => throw (.error (.journal source))
  | .error (.visitor fault) _ => throw fault
  | .ok tail tip =>
    truncateTail tail
    return { toDurableTip := tip, journal := ← get, writesAvailable := true }

/-- Execute a proposal on the tip without writing anything. -/
def execute (execution : PersistentExecution) (proposal : BlockProposal) :
    Except (Fault PersistentExecutionError) ExecutedBlock :=
  (executeBlock context execution.committed proposal).mapError (Fault.map .execution)

def idempotentReceipt (execution : PersistentExecution) (block : ExecutedBlock) :
    Except (Fault PersistentExecutionError) DurableBlockReceipt :=
  if 0 < execution.committed.height /\ execution.committed.blockId = some block.header.id /\
      execution.appHash = some block.appHash then
    match execution.tipOffset with
    | some offset =>
      .ok ⟨execution.committed.height, block.header.id, block.appHash,
        execution.committed.recordChain.currentStateId, offset⟩
    | none => .error (.panic ⟨"non-genesis durable tip has an offset"⟩)
  else
    .error (.error (.conflictingCommitAtHeight execution.committed.height))

/-- Append a block; a failure makes further writes unavailable. -/
def appendDurably (outcome : WriteOutcome) (stored : StoredBlock) :
    EStateM (Fault PersistentExecutionError) PersistentExecution Nat := fun execution =>
  match appendBlock outcome stored execution.journal with
  | .ok offset journal => .ok offset { execution with journal := journal }
  | .error source journal =>
    .error (.error (.journal source))
      { execution with journal := journal, writesAvailable := false }

/-- Make one executed block durable, or recognise a repeated commit. -/
def commit (outcome : WriteOutcome) (block : ExecutedBlock) :
    EStateM (Fault PersistentExecutionError) PersistentExecution DurableBlockReceipt := do
  let execution ← get
  if execution.writesAvailable = false then
    throw (.error .writeUnavailable)
  else if block.header.input.height = execution.committed.height then
    check (execution.idempotentReceipt block)
  else
    match checkedAdd execution.committed.height 1 with
    | none => throw (.error .heightOverflow)
    | some expectedHeight =>
      if block.header.input.height ≠ expectedHeight then
        throw (.error (.unexpectedCommitHeight expectedHeight block.header.input.height))
      else
        let stored ← check ((StoredBlock.new block.header block.appHash block.cometDecision
          block.records).mapError (fun source => .error (.journal source)))
        let executed ← check (reexecuteStored context execution.committed stored)
        let offset ← appendDurably outcome stored
        modify (fun execution => { execution with
          appHash := some executed.appHash
          tipOffset := some offset
          committed := executed.intoCommittedState })
        return ⟨executed.header.input.height, executed.header.id, executed.appHash,
          executed.header.input.resultingStateId, offset⟩

end PersistentExecution

section
variable {context} {committed : CommittedExecutionState}

/-! ## Executing stored blocks again -/

variable {stored : StoredBlock} {executed : ExecutedBlock}

theorem reexecuteStored_eq_ok (sound : committed.Sound context) :
    reexecuteStored context committed stored = .ok executed <->
      Executes context committed stored.proposal executed /\
        { stored with offset := 0 } = ofExecuted executed := by
  unfold reexecuteStored
  simp only [Except.bind_eq_ok, Except.mapError_eq_ok, executeBlock_eq_ok sound,
    Except.refuse_eq_ok, not_or, not_not, Except.ok.injEq]
  constructor
  · rintro ⟨block, executes, ⟨header, decision, records, appHash⟩, rfl⟩
    refine ⟨executes, ?_⟩
    rw [ofExecuted, header, decision, records, appHash]
  · rintro ⟨executes, same⟩
    injection same with _ header appHash decision records
    exact ⟨executed, executes, ⟨header.symm, decision.symm, records.symm, appHash.symm⟩, rfl⟩

/-- A stored block claims to be the execution of the proposal it came from. -/
theorem proposal_ofExecuted {proposal block}
    (executes : Executes context committed proposal block) :
    (ofExecuted block).proposal = proposal := by
  have height : block.header.input.height = proposal.height := executes.height_eq
  have transactions := executes.runs.made.2
  have decision := executes.decision
  rcases proposal with ⟨_, _, _⟩
  simp only [StoredBlock.proposal, ofExecuted, height, decision, transactions]

/-- The tip after blocks whose frames follow one another. -/
def recovered (tip : DurableTip) (offset : Nat) : List ExecutedBlock -> DurableTip
  | [] => tip
  | block :: rest =>
    recovered ⟨block.intoCommittedState, some block.appHash, some offset⟩
      (offset + frameLength (StoredBlock.ofExecuted block).payload) rest

theorem recovered_committed (tip : DurableTip) (offset : Nat) (blocks : List ExecutedBlock) :
    (recovered tip offset blocks).committed = tipAfter tip.committed blocks := by
  induction blocks generalizing tip offset with
  | nil => rfl
  | cons block rest ih => exact ih _ _

theorem recovered_append (tip : DurableTip) (offset : Nat) (blocks : List ExecutedBlock)
    (block : ExecutedBlock) :
    recovered tip offset (blocks ++ [block]) = ⟨block.intoCommittedState, some block.appHash,
      some (offset + (journalOf (blocks.map ofExecuted)).length)⟩ := by
  induction blocks generalizing tip offset with
  | nil => rfl
  | cons first rest ih =>
    rw [List.cons_append, recovered, ih, List.map_cons, journalOf_cons,
      List.length_append, FrameFormat.length_encodeFrame, Nat.add_assoc]

variable {tip : DurableTip}

theorem recoverBlock_eq_ok {next} (sound : tip.committed.Sound context) :
    recoverBlock context stored tip = .ok () next <->
      ∃ executed, Executes context tip.committed stored.proposal executed /\
        { stored with offset := 0 } = ofExecuted executed /\
        next = ⟨executed.intoCommittedState, some executed.appHash, some stored.offset⟩ := by
  unfold recoverBlock
  rw [get_bind]
  simp only [bind_eq_ok, check_eq_ok, reexecuteStored_eq_ok sound]
  constructor
  · rintro ⟨executed, _, ⟨⟨executes, same⟩, rfl⟩, isSet⟩
    cases isSet
    have sameHash : stored.appHash = executed.appHash := congrArg StoredBlock.appHash same
    refine ⟨executed, executes, same, ?_⟩
    rw [sameHash]
  · rintro ⟨executed, executes, same, rfl⟩
    refine ⟨executed, tip, ⟨⟨executes, same⟩, rfl⟩, ?_⟩
    have sameHash : stored.appHash = executed.appHash := congrArg StoredBlock.appHash same
    rw [← sameHash]
    rfl

/-- Recovering stored blocks succeeds exactly when they are a chain. -/
theorem forM_recoverBlock_eq_ok {stored} {offset : Nat} {final}
    (sound : tip.committed.Sound context) :
    (placed offset stored).forM (recoverBlock context) tip = .ok () final <->
      ∃ proposals blocks, Executions context tip.committed proposals blocks /\
        stored.map (fun block => { block with offset := 0 }) =
          blocks.map ofExecuted /\
        final = recovered tip offset blocks := by
  induction stored generalizing offset tip with
  | nil =>
    constructor
    · intro finished
      cases finished
      exact ⟨[], [], Executions.nil _, rfl, rfl⟩
    · rintro ⟨proposals, blocks, executions, same, rfl⟩
      rw [List.map_nil] at same
      rw [List.map_eq_nil_iff.mp same.symm]
      rfl
  | cons first rest ih =>
    have samePayload : forall executed, { first with offset := 0 } =
        ofExecuted executed ->
        frameLength first.payload = frameLength (ofExecuted executed).payload := by
      intro executed same
      rw [← same]
      rfl
    change (recoverBlock context { first with offset := offset } >>= fun _ =>
      (placed (offset + frameLength first.payload) rest).forM (recoverBlock context)) tip = _ <-> _
    simp only [bind_eq_ok, recoverBlock_eq_ok sound]
    constructor
    · rintro ⟨_, next, ⟨executed, executes, same, rfl⟩, later⟩
      rcases (ih (executes.sound sound)).mp later with
        ⟨proposals, blocks, executions, sameRest, rfl⟩
      refine ⟨_ :: proposals, executed :: blocks, Executions.cons executes executions, ?_, ?_⟩
      · rw [List.map_cons, List.map_cons, sameRest, ← same]
      · rw [recovered, samePayload executed same]
    · rintro ⟨proposals, blocks, executions, same, rfl⟩
      cases executions with
      | nil _ => cases same
      | @cons _ proposal executed proposals blocks executes executions =>
        rw [List.map_cons, List.map_cons] at same
        injection same with sameFirst sameRest
        have isProposal : first.proposal = proposal := by
          rw [← proposal_ofExecuted executes, ← sameFirst]
          rfl
        refine ⟨(), _, ⟨executed, isProposal ▸ executes, sameFirst, rfl⟩, ?_⟩
        rw [recovered, samePayload executed sameFirst]
        exact (ih (executes.sound sound)).mpr ⟨proposals, blocks, executions, sameRest, rfl⟩

variable {file : List UInt8} {tail : Option IncompleteTail}

omit context in
theorem truncateTail_of_scans {blocks} (appended : forall block, block ∈ blocks -> Appended block)
    (scans : blockFrameFormat.Scans 0 file (blocks.map StoredBlock.payload) (.ok tail)) :
    truncateTail tail file = .ok () (journalOf blocks) := by
  cases tail with
  | none =>
    rw [scans.eq_encodeFrames]
    rfl
  | some tail => exact mapFailure_eq_ok.mpr (truncate_of_scans appended scans)

/-- The file that holds executed blocks. -/
def chainJournal (blocks : List ExecutedBlock) : List UInt8 :=
  journalOf (blocks.map StoredBlock.ofExecuted)

def chainPayloads (blocks : List ExecutedBlock) : List (List UInt8) :=
  (blocks.map StoredBlock.ofExecuted).map StoredBlock.payload

/-- Blocks that a journal can hold: a chain of executed blocks that were
appended. -/
structure Journalled (context : ExecutionContext) (genesis : CommittedExecutionState)
    (blocks : List ExecutedBlock) : Prop where
  chain : ∃ proposals, Executions context genesis proposals blocks
  appended : forall block, block ∈ blocks -> Appended (StoredBlock.ofExecuted block)

def coordinator (genesis : CommittedExecutionState) (blocks : List ExecutedBlock) :
    PersistentExecution where
  toDurableTip := recovered ⟨genesis, none, none⟩ 0 blocks
  journal := chainJournal blocks
  writesAvailable := true

variable {genesis : CommittedExecutionState}

theorem Journalled.appended_map {blocks} (journalled : Journalled context genesis blocks) :
    forall block, block ∈ blocks.map ofExecuted -> Appended block := by
  intro block member
  rcases List.mem_map.mp member with ⟨executed, listed, rfl⟩
  exact journalled.appended executed listed

/-- A journal is replayed exactly when its frames hold a chain. -/
theorem replay_recoverBlock_eq_ok (sound : genesis.Sound context) :
    replayRecoverableTail (recoverBlock context) file ⟨genesis, none, none⟩ = .ok tail tip <->
      ∃ blocks, Journalled context genesis blocks /\
        blockFrameFormat.Scans 0 file (chainPayloads blocks) (.ok tail) /\
        tip = recovered ⟨genesis, none, none⟩ 0 blocks := by
  constructor
  · intro replayed
    rcases FrameFormat.streamFrames_eq_ok.mp replayed with ⟨payloads, scans, visited⟩
    rcases visitAll_eq_ok visited with ⟨stored, storable, rfl, recovers⟩
    rcases (forM_recoverBlock_eq_ok sound).mp recovers with
      ⟨proposals, blocks, executions, same, rfl⟩
    have isStored : stored = blocks.map ofExecuted := by
      rw [← same]
      refine (List.map_id stored).symm.trans (List.map_congr_left ?_)
      intro block member
      rw [← (storable block member).2]
      rfl
    have appended : forall block, block ∈ stored -> Appended block := by
      intro block member
      exact ⟨(storable block member).1, scans.contents.1 _ (List.mem_map_of_mem member)⟩
    subst isStored
    exact ⟨blocks, ⟨⟨proposals, executions⟩,
      fun block member => appended _ (List.mem_map_of_mem member)⟩, scans, rfl⟩
  · intro holds
    rcases holds with ⟨blocks, journalled, scans, rfl⟩
    rcases journalled.chain with ⟨proposals, executions⟩
    have recovers : (placed 0 (blocks.map ofExecuted)).forM (recoverBlock context)
        ⟨genesis, none, none⟩ = .ok () (recovered ⟨genesis, none, none⟩ 0 blocks) := by
      refine (forM_recoverBlock_eq_ok sound).mpr ⟨proposals, blocks, executions, ?_, rfl⟩
      rw [List.map_map]
      rfl
    rw [replay_of_scans (fun block member => (journalled.appended_map block member).1) scans,
      bind_of_ok (mapFailure_eq_ok.mpr recovers)]
    rfl

variable {final : List UInt8} {genesisState : LedgerState}

/-- Opening succeeds exactly on the files that hold a chain of executed blocks
and possibly an incomplete tail, and leaves the chain. -/
theorem openJournal_eq_ok {execution} :
    PersistentExecution.openJournal context genesisState file = .ok execution final <->
      ∃ genesis blocks tail,
        CommittedExecutionState.genesis genesisState context.chainAnchor = .ok genesis /\
        Journalled context genesis blocks /\
        blockFrameFormat.Scans 0 file (chainPayloads blocks) (.ok tail) /\
        execution = coordinator genesis blocks /\ final = chainJournal blocks := by
  unfold PersistentExecution.openJournal
  simp only [bind_eq_ok, check_eq_ok, Except.mapError_eq_ok]
  constructor
  · rintro ⟨genesis, start, ⟨made, rfl⟩, current, _, isCurrent, opened⟩
    cases isCurrent
    cases replayed : replayRecoverableTail (recoverBlock context) start ⟨genesis, none, none⟩ with
    | error failure tip =>
      rw [replayed] at opened
      cases failure <;> cases opened
    | ok tail tip =>
      rw [replayed] at opened
      rcases (replay_recoverBlock_eq_ok (sound_of_genesis made)).mp replayed with
        ⟨blocks, journalled, scans, rfl⟩
      rcases bind_eq_ok.mp opened with ⟨_, middle, truncated, opened⟩
      rw [truncateTail_of_scans journalled.appended_map scans] at truncated
      cases truncated
      cases opened
      exact ⟨genesis, blocks, tail, made, journalled, scans, rfl, rfl⟩
  · rintro ⟨genesis, blocks, tail, made, journalled, scans, rfl, rfl⟩
    have replayed := (replay_recoverBlock_eq_ok (sound_of_genesis made)).mpr
      ⟨blocks, journalled, scans, rfl⟩
    refine ⟨genesis, file, ⟨made, rfl⟩, file, file, rfl, ?_⟩
    rw [replayed]
    exact (bind_of_ok (truncateTail_of_scans journalled.appended_map scans)).trans rfl

/-- A journal that cannot be opened is left as it is. -/
theorem openJournal_failed {fault}
    (failed : PersistentExecution.openJournal context genesisState file = .error fault final) :
    final = file := by
  unfold PersistentExecution.openJournal at failed
  rcases bind_eq_error.mp failed with noGenesis | ⟨genesis, start, checked, later⟩
  · exact (check_eq_error.mp noGenesis).2
  rcases check_eq_ok.mp checked with ⟨isMade, rfl⟩
  rw [get_bind] at later
  cases replayed : replayRecoverableTail (recoverBlock context) start ⟨genesis, none, none⟩ with
  | error failure tip =>
    rw [replayed] at later
    cases failure <;> cases later <;> rfl
  | ok tail tip =>
    rw [replayed] at later
    rcases (replay_recoverBlock_eq_ok (sound_of_genesis (Except.mapError_eq_ok.mp isMade))).mp
      replayed with ⟨blocks, journalled, scans, rfl⟩
    rcases bind_eq_error.mp later with truncated | ⟨_, _, _, returned⟩
    · rw [truncateTail_of_scans journalled.appended_map scans] at truncated
      cases truncated
    · cases returned

variable {execution : PersistentExecution} {block : ExecutedBlock}

/-- The block has the height, the identifier and the hash of the tip. -/
def IsTip (execution : PersistentExecution) (block : ExecutedBlock) : Prop :=
  0 < execution.committed.height /\ block.header.input.height = execution.committed.height /\
    execution.committed.blockId = some block.header.id /\ execution.appHash = some block.appHash

/-- Executing the transactions of a block again gives what the block claims. -/
def Reexecutes (context : ExecutionContext) (committed : CommittedExecutionState)
    (block executed : ExecutedBlock) : Prop :=
  Executes context committed (StoredBlock.ofExecuted block).proposal executed /\
    StoredBlock.ofExecuted block = StoredBlock.ofExecuted executed

theorem Reexecutes.height (reexecutes : Reexecutes context committed block executed) :
    block.header.input.height.toNat = committed.height.toNat + 1 :=
  reexecutes.1.limits.height

def tipOf (executed : ExecutedBlock) (offset : Nat) : DurableTip :=
  ⟨executed.intoCommittedState, some executed.appHash, some offset⟩

def receiptOf (executed : ExecutedBlock) (offset : Nat) : DurableBlockReceipt :=
  ⟨executed.header.input.height, executed.header.id, executed.appHash,
    executed.header.input.resultingStateId, offset⟩

namespace PersistentExecution

theorem commit_of_unavailable (outcome : WriteOutcome)
    (unavailable : execution.writesAvailable = false) :
    commit context outcome block execution = .error (.error .writeUnavailable) execution := by
  unfold commit
  rw [get_bind, if_pos unavailable]
  rfl

theorem commit_at_tip (outcome : WriteOutcome) (available : execution.writesAvailable = true)
    (atTip : block.header.input.height = execution.committed.height) :
    commit context outcome block execution = check (execution.idempotentReceipt block) execution := by
  unfold commit
  rw [get_bind, if_neg (by rw [available]; decide), if_pos atTip]

theorem idempotentReceipt_eq_ok {receipt} :
    execution.idempotentReceipt block = .ok receipt <->
      0 < execution.committed.height /\ execution.committed.blockId = some block.header.id /\
        execution.appHash = some block.appHash /\
        ∃ offset, execution.tipOffset = some offset /\
          receipt = ⟨execution.committed.height, block.header.id, block.appHash,
            execution.committed.recordChain.currentStateId, offset⟩ := by
  unfold idempotentReceipt
  by_cases isTip : 0 < execution.committed.height /\
      execution.committed.blockId = some block.header.id /\ execution.appHash = some block.appHash
  · rw [if_pos isTip]
    cases execution.tipOffset with
    | none => simp
    | some offset => simp [isTip, eq_comm]
  · rw [if_neg isTip]
    refine iff_of_false nofun ?_
    rintro ⟨high, sameId, sameHash, _⟩
    exact isTip ⟨high, sameId, sameHash⟩

/-- A block that can be executed again is appended, if the write succeeds. -/
theorem commit_of_reexecutes (sound : execution.committed.Sound context) (outcome : WriteOutcome)
    (available : execution.writesAvailable = true) {executed}
    (shape : BlockShape block.header block.records)
    (reexecutes : Reexecutes context execution.committed block executed) :
    commit context outcome block execution =
      match appendBlock outcome (ofExecuted block) execution.journal with
      | .ok offset journal => .ok (receiptOf executed offset)
          { toDurableTip := tipOf executed offset, journal := journal, writesAvailable := true }
      | .error source journal => .error (.error (.journal source))
          { execution with journal := journal, writesAvailable := false } := by
  have height := reexecutes.height
  have notSame : block.header.input.height ≠ execution.committed.height := by
    intro same
    rw [same] at height
    omega
  have isNext : checkedAdd execution.committed.height 1 = some block.header.input.height :=
    checkedAdd_eq_some.mpr height
  have stored : StoredBlock.new block.header block.appHash block.cometDecision block.records =
      .ok (ofExecuted block) := by
    unfold StoredBlock.new
    rw [validateBlock_eq_ok.mpr shape]
    rfl
  have again : reexecuteStored context execution.committed (ofExecuted block) =
      .ok executed := (reexecuteStored_eq_ok sound).mpr reexecutes
  unfold commit
  rw [get_bind, if_neg (by rw [available]; decide), if_neg notSame, isNext]
  dsimp only
  rw [if_neg (not_not_intro rfl), stored]
  change (check (reexecuteStored context execution.committed (ofExecuted block)) >>= _)
    execution = _
  rw [again]
  change (appendDurably outcome (ofExecuted block) >>= _) execution = _
  cases written : appendBlock outcome (ofExecuted block) execution.journal with
  | ok offset journal =>
    have appended : appendDurably outcome (ofExecuted block) execution =
        .ok offset { execution with journal := journal } := by
      unfold appendDurably
      rw [written]
    rw [bind_of_ok appended, ← available]
    rfl
  | error source journal =>
    have failed : appendDurably outcome (ofExecuted block) execution =
        .error (.error (.journal source))
          { execution with journal := journal, writesAvailable := false } := by
      unfold appendDurably
      rw [written]
    rw [bind_of_error failed]

/-- Anything else at another height is refused before anything is written. -/
theorem commit_of_other (sound : execution.committed.Sound context) (outcome : WriteOutcome)
    (available : execution.writesAvailable = true)
    (notTip : block.header.input.height ≠ execution.committed.height)
    (notChild : forall executed, ¬Reexecutes context execution.committed block executed) :
    ∃ fault, commit context outcome block execution = .error fault execution := by
  unfold commit
  rw [get_bind, if_neg (by rw [available]; decide), if_neg notTip]
  cases isNext : checkedAdd execution.committed.height 1 with
  | none => exact ⟨_, rfl⟩
  | some expectedHeight =>
    dsimp only
    by_cases expected : block.header.input.height = expectedHeight
    · rw [if_neg (not_not_intro expected)]
      cases made : StoredBlock.new block.header block.appHash block.cometDecision block.records with
      | error source => exact ⟨_, rfl⟩
      | ok stored =>
        rcases Except.bind_eq_ok.mp made with ⟨_, _, isStored⟩
        cases isStored
        cases again : reexecuteStored context execution.committed
            ⟨0, block.header, block.appHash, block.cometDecision, block.records⟩ with
        | error fault =>
          refine ⟨fault, ?_⟩
          change (check (reexecuteStored context execution.committed
            ⟨0, block.header, block.appHash, block.cometDecision, block.records⟩) >>= _)
            execution = _
          rw [again]
          rfl
        | ok executed => exact absurd ((reexecuteStored_eq_ok sound).mp again) (notChild executed)
    · rw [if_pos expected]
      exact ⟨_, rfl⟩

end PersistentExecution
end
end
end Noxis.Storage
