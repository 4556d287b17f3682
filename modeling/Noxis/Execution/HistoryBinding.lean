import Noxis.Consensus.HeaderCodec
import Noxis.Execution.Continuity
import Noxis.Ledger.Binding

namespace Noxis.Execution

open Foundation Codec Ledger RecordChain Consensus

/-!
# Application hashes bind the history

An application hash covers the header of the last block.  A header covers its
parent's identifier and the commitment to its records, the commitment covers
the record hashes in order, and a record hash covers the transaction bytes.
None of the preimages has separators, but each is a composition of
self-delimiting fields.  Reading the preimages back from the tip to genesis,
two chains with one application hash agree block by block, or two of the byte
strings they hashed collide.
-/

/-- The byte string hashed into a block identifier. -/
def blockIdInput (input : BlockHeaderInput) : List UInt8 :=
  blockIdDomain ++ (writeU16 consensusFormatVersion ++ encodeBlockHeaderFields input)

/-- The byte string hashed into a commitment to records. -/
def recordCommitmentInput (recordHashes : List RecordHash) : List UInt8 :=
  recordCommitmentDomain ++ (writeU16 consensusFormatVersion ++
    (writeU32 (UInt32.ofNat recordHashes.length) ++
      recordHashes.flatMap (fun recordHash => recordHash.bytes.toList)))

/-- The byte string hashed into the hash of a record. -/
def recordInput (record : TransactionRecord) : List UInt8 :=
  recordHashInput record.sequence record.previousStateId record.transactionBytes
    record.transactionIntentId record.resultingStateId

theorem blockIdInput_injective : Function.Injective blockIdInput := by
  intro left right same
  exact encodeBlockHeaderFields_injective (List.append_cancel_left (List.append_cancel_left same))

theorem recordHashes_eq_of_input_eq {left right} (leftBounded : left.length <= maxBlockRecords)
    (rightBounded : right.length <= maxBlockRecords)
    (same : recordCommitmentInput left = recordCommitmentInput right) : left = right := by
  have fits : forall hashes : List RecordHash, hashes.length <= maxBlockRecords ->
      (UInt32.ofNat hashes.length).toNat = hashes.length :=
    fun hashes bounded => UInt32.toNat_ofNat_of_lt' (Nat.lt_of_le_of_lt bounded (by decide))
  have delimited := ((Delimited.bytes 32).comap
    (fun (left right : RecordHash) equal => RecordHash.ext equal)).counted 4
  apply delimited.injective
  · exact ⟨Nat.lt_of_le_of_lt leftBounded (by decide), fun _ _ => trivial⟩
  · exact ⟨Nat.lt_of_le_of_lt rightBounded (by decide), fun _ _ => trivial⟩
  · have fields := List.append_cancel_left (List.append_cancel_left same)
    grind [writeU32]

/-- The hash of a record covers everything else in it. -/
theorem record_eq_of_input_eq {left right}
    (leftBounded : left.transactionBytes.length <= maxRecordTransactionBytes.toNat)
    (rightBounded : right.transactionBytes.length <= maxRecordTransactionBytes.toNat)
    (sameHash : left.recordHash = right.recordHash) (same : recordInput left = recordInput right) :
    left = right := by
  have small : maxRecordTransactionBytes.toNat < 2 ^ 32 := by decide
  apply TransactionRecord.delimited_encode.injective (Nat.lt_of_le_of_lt leftBounded small)
    (Nat.lt_of_le_of_lt rightBounded small)
  -- an encoding is the input behind another label, followed by the hash
  have fields := congrArg (· ++ right.recordHash.bytes.toList) (List.append_cancel_left same)
  simp only [TransactionRecord.encode, sameHash, List.append_assoc] at fields ⊢
  rw [fields]

/-- The terminal record hash of a position, with a flag for its presence. -/
def encodeTerminal : Option RecordHash -> List UInt8
  | some recordHash => 1 :: recordHash.bytes.toList
  | none => [0]

theorem delimited_encodeTerminal :
    Delimited (fun _ : Option RecordHash => True) encodeTerminal := by
  intro left right afterLeft afterRight _ _ same
  cases left with
  | none =>
    cases right with
    | none => exact ⟨rfl, (List.cons.inj same).2⟩
    | some recordHash => cases (List.cons.inj same).1
  | some recordHash =>
    cases right with
    | none => cases (List.cons.inj same).1
    | some other =>
      have parts := Delimited.bytes 32 _ _ _ _ trivial trivial (List.cons.inj same).2
      exact ⟨congrArg some (RecordHash.ext parts.1), parts.2⟩

/-- Everything an application hash covers, in order. -/
abbrev PositionFields : Type :=
  GenesisId × ValidationContextId × ConsensusConfigId × Bytes 32 × Nat × Bytes 32 × Bytes 32 ×
    UInt64 × BlockId × UInt64 × Option RecordHash × StateId

def encodePosition (fields : PositionFields) : List UInt8 :=
  fields.1.bytes.toList ++ (fields.2.1.bytes.toList ++ (fields.2.2.1.bytes.toList ++
    (fields.2.2.2.1.toList ++ (bigEndian 8 fields.2.2.2.2.1 ++ (fields.2.2.2.2.2.1.toList ++
      (fields.2.2.2.2.2.2.1.toList ++ (writeU64 fields.2.2.2.2.2.2.2.1 ++
        (fields.2.2.2.2.2.2.2.2.1.bytes.toList ++ (writeU64 fields.2.2.2.2.2.2.2.2.2.1 ++
          (encodeTerminal fields.2.2.2.2.2.2.2.2.2.2.1 ++
            fields.2.2.2.2.2.2.2.2.2.2.2.bytes.toList))))))))))

theorem delimited_encodePosition :
    Delimited (fun fields : PositionFields => fields.2.2.2.2.1 < 2 ^ 64) encodePosition := by
  have tail := delimited_writeU64.pair ((@delimited_identifier .block).pair
    (delimited_writeU64.pair (delimited_encodeTerminal.pair (@delimited_identifier .state))))
  have decision := (Delimited.bytes 32).pair ((Delimited.bigEndian 8).pair
    ((Delimited.bytes 32).pair ((Delimited.bytes 32).pair tail)))
  have fields := (@delimited_identifier .genesis).pair
    ((@delimited_identifier .validationContext).pair
      ((@delimited_identifier .consensusConfig).pair decision))
  exact fields.weaken (fun _ fits => ⟨trivial, trivial, trivial, trivial, fits, trivial, trivial,
    trivial, trivial, trivial, trivial, trivial⟩)

section
variable [Sha256]

theorem id_eq_digest (header : BlockHeader) :
    header.id.bytes = Sha256.digest (blockIdInput header.input) := by
  rw [header.identified]
  rfl

theorem commitment_eq_digest {recordHashes commitment}
    (committed : RecordCommitment.fromRecordHashes recordHashes = .ok commitment) :
    recordHashes.length <= maxBlockRecords /\
      commitment.bytes = Sha256.digest (recordCommitmentInput recordHashes) := by
  rcases Except.refuse_eq_ok.mp committed with ⟨bounded, same⟩
  rw [← Except.ok.inj same]
  exact ⟨Nat.not_lt.mp bounded, rfl⟩

/-- What the header of an executed block commits to. -/
structure Committed (block : ExecutedBlock) : Prop where
  records : RecordCommitment.fromRecordHashes (block.records.map TransactionRecord.recordHash) =
    .ok block.header.input.recordsCommitment
  made : forall record, record ∈ block.records -> record.Made

/-- The byte strings hashed into the header and the records of a block. -/
def blockInputs (block : ExecutedBlock) : List (List UInt8) :=
  blockIdInput block.header.input ::
    recordCommitmentInput (block.records.map TransactionRecord.recordHash) ::
      block.records.map recordInput

theorem header_eq_of_id_eq {left right : BlockHeader} (same : left.id = right.id) :
    left = right ∨
      Collides Sha256.digest (blockIdInput left.input) (blockIdInput right.input) := by
  have sameDigest : Sha256.digest (blockIdInput left.input) =
      Sha256.digest (blockIdInput right.input) := by
    rw [← id_eq_digest, ← id_eq_digest, same]
  rcases eq_or_collides Sha256.digest sameDigest with sameInput | collides
  · left
    rcases left with ⟨input, id, valid, identified⟩
    rcases right with ⟨input', id', valid', identified'⟩
    grind [blockIdInput_injective]
  · exact Or.inr collides

variable {left right : ExecutedBlock}

/-- Blocks with one identifier have the same header and records, or their
preimages collide. -/
theorem block_eq_of_id_eq (leftCommitted : Committed left) (rightCommitted : Committed right)
    (same : left.header.id = right.header.id) :
    (left.header = right.header /\ left.records = right.records) ∨
      CollisionBetween Sha256.digest (blockInputs left) (blockInputs right) := by
  rcases header_eq_of_id_eq same with sameHeader | collides
  swap
  · exact Or.inr (CollisionBetween.of_collides collides List.mem_cons_self List.mem_cons_self)
  rcases commitment_eq_digest leftCommitted.records with ⟨leftBounded, leftDigest⟩
  rcases commitment_eq_digest rightCommitted.records with ⟨rightBounded, rightDigest⟩
  rw [sameHeader] at leftDigest
  have second : forall (first other : List UInt8) (rest : List (List UInt8)),
      other ∈ first :: other :: rest :=
    fun first _ _ => List.mem_cons_of_mem first List.mem_cons_self
  rcases eq_or_collides Sha256.digest (leftDigest.symm.trans rightDigest) with sameInput | collides
  swap
  · exact Or.inr (CollisionBetween.of_collides collides (second _ _ _) (second _ _ _))
  have sameHashes := recordHashes_eq_of_input_eq leftBounded rightBounded sameInput
  have hashed : forall (block : ExecutedBlock), Committed block -> forall record,
      record ∈ block.records -> record.recordHash.bytes = Sha256.digest (recordInput record) := by
    intro block committed record member
    rw [(committed.made record member).recordHash_eq]
    rfl
  have determined : forall first second, first ∈ left.records -> second ∈ right.records ->
      recordInput first = recordInput second -> first = second := by
    intro first second firstMember secondMember sameRecord
    apply record_eq_of_input_eq (leftCommitted.made _ firstMember).length_le
      (rightCommitted.made _ secondMember).length_le ?_ sameRecord
    grind [RecordHash.ext]
  rcases eq_or_collision_of_map_eq Sha256.digest recordInput TransactionRecord.recordHash
    RecordHash.bytes (hashed left leftCommitted) (hashed right rightCommitted) determined sameHashes
    with sameRecords | collision
  · exact Or.inl ⟨sameHeader, sameRecords⟩
  · refine Or.inr (collision.mono ?_ ?_) <;> intro input member <;>
      exact List.mem_cons_of_mem _ (List.mem_cons_of_mem _ member)

variable {context : ExecutionContext} {candidate next : CandidateExecutionState}
  {transactions : List (List UInt8)} {records : List TransactionRecord}

theorem Runs.made (runs : Runs context candidate transactions records next) :
    (forall record, record ∈ records -> record.Made) /\
      records.map TransactionRecord.transactionBytes = transactions := by
  induction runs with
  | nil candidate => simp
  | cons applies runs ih =>
    have made := TransactionRecord.made_of_new applies.made
    rw [List.map_cons, ih.2, made.2.2.2.1]
    exact ⟨List.forall_mem_cons.mpr ⟨made.1, ih.1⟩, rfl⟩

variable {committed : CommittedExecutionState} {proposal : BlockProposal} {block : ExecutedBlock}

theorem Executes.commits (executes : Executes context committed proposal block) :
    Committed block := by
  refine ⟨?_, executes.runs.made.1⟩
  rcases Except.bind_eq_ok.mp executes.isSealed with ⟨commitment, _, rest⟩
  rcases Except.bind_eq_ok.mp rest with ⟨header, _, rest⟩
  rcases Except.bind_eq_ok.mp rest with ⟨_, _, rest⟩
  rcases Except.bind_eq_ok.mp rest with ⟨_, validated, same⟩
  cases same
  exact (BlockHeader.validateRecordHashes_eq_ok.mp validated).2

/-! ## Chains -/

/-- The byte strings hashed into the headers and records of a chain. -/
def chainInputs (blocks : List ExecutedBlock) : List (List UInt8) :=
  blocks.flatMap blockInputs

theorem tipAfter_append (committed : CommittedExecutionState) (blocks : List ExecutedBlock)
    (block : ExecutedBlock) :
    tipAfter committed (blocks ++ [block]) = block.intoCommittedState := by
  induction blocks generalizing committed with
  | nil => rfl
  | cons first rest ih => exact ih _

variable {proposals : List BlockProposal} {blocks : List ExecutedBlock}

/-- The last block of a chain was executed on the state the others left. -/
theorem Executions.of_append
    (executions : Executions context committed proposals (blocks ++ [block])) :
    ∃ earlier proposal, proposals = earlier ++ [proposal] /\
      Executions context committed earlier blocks /\
      Executes context (tipAfter committed blocks) proposal block := by
  induction blocks generalizing committed proposals with
  | nil =>
    cases executions with
    | cons executes rest =>
      cases rest
      exact ⟨[], _, rfl, Executions.nil committed, executes⟩
  | cons first rest ih =>
    cases executions with
    | cons executes later =>
      rcases ih later with ⟨earlier, proposal, rfl, before, last⟩
      exact ⟨_ :: earlier, proposal, rfl, Executions.cons executes before, last⟩

theorem Executions.append (executions : Executions context committed proposals blocks)
    (executes : Executes context (tipAfter committed blocks) proposal block) :
    Executions context committed (proposals ++ [proposal]) (blocks ++ [block]) := by
  induction executions with
  | nil committed => exact Executions.cons executes (Executions.nil _)
  | cons first _ ih =>
    exact Executions.cons first (ih executes)

theorem Executions.take (executions : Executions context committed proposals blocks)
    (number : Nat) : Executions context committed (proposals.take number) (blocks.take number) := by
  induction executions generalizing number with
  | nil committed =>
    rw [List.take_nil, List.take_nil]
    exact Executions.nil committed
  | cons executes _ ih =>
    cases number with
    | zero => exact Executions.nil _
    | succ number => exact Executions.cons executes (ih number)

theorem Executions.map_transactions (executions : Executions context committed proposals blocks) :
    (blocks.map ExecutedBlock.records).map (fun records =>
        records.map TransactionRecord.transactionBytes) =
      proposals.map BlockProposal.transactions := by
  induction executions with
  | nil committed => rfl
  | cons executes rest ih =>
    rw [List.map_cons, List.map_cons, List.map_cons, ih, executes.runs.made.2]

section
variable {leftContext rightContext : ExecutionContext}
  {leftGenesis rightGenesis : CommittedExecutionState}

/-- Chains that start without a parent and end in blocks with one identifier
have the same headers and records, or their preimages collide. -/
theorem history_eq_of_blockId_eq (leftOrphan : leftGenesis.blockId = none)
    (rightOrphan : rightGenesis.blockId = none)
    {leftProposals rightProposals leftBlocks rightBlocks}
    (leftExecutions : Executions leftContext leftGenesis leftProposals leftBlocks)
    (rightExecutions : Executions rightContext rightGenesis rightProposals rightBlocks)
    (same : (tipAfter leftGenesis leftBlocks).blockId =
      (tipAfter rightGenesis rightBlocks).blockId) :
    (leftBlocks.map ExecutedBlock.header = rightBlocks.map ExecutedBlock.header /\
        leftBlocks.map ExecutedBlock.records = rightBlocks.map ExecutedBlock.records) ∨
      CollisionBetween Sha256.digest (chainInputs leftBlocks) (chainInputs rightBlocks) := by
  induction leftBlocks using List.reverseRecOn generalizing leftProposals rightProposals
    rightBlocks with
  | nil =>
    rcases List.eq_nil_or_concat rightBlocks with rfl | ⟨others, last, rfl⟩
    · exact Or.inl ⟨rfl, rfl⟩
    · rw [List.concat_eq_append, tipAfter_append] at same
      cases leftOrphan.symm.trans same
  | append_singleton rest block ih =>
    rcases List.eq_nil_or_concat rightBlocks with rfl | ⟨others, last, rfl⟩
    · rw [tipAfter_append] at same
      cases same.trans rightOrphan
    rw [List.concat_eq_append] at rightExecutions same ⊢
    rw [tipAfter_append, tipAfter_append] at same
    rcases leftExecutions.of_append with ⟨leftEarlier, _, _, leftBefore, leftLast⟩
    rcases rightExecutions.of_append with ⟨rightEarlier, _, _, rightBefore, rightLast⟩
    have included : forall (before : List ExecutedBlock) (last : ExecutedBlock) input,
        (input ∈ chainInputs before -> input ∈ chainInputs (before ++ [last])) /\
          (input ∈ blockInputs last -> input ∈ chainInputs (before ++ [last])) := by
      grind [chainInputs]
    rcases block_eq_of_id_eq leftLast.commits rightLast.commits (Option.some.inj same) with
      ⟨sameHeader, sameRecords⟩ | collision
    · have sameParent := leftLast.headerOf.parent
      rw [sameHeader, rightLast.headerOf.parent] at sameParent
      rcases ih leftBefore rightBefore sameParent.symm with
        ⟨headers, records⟩ | collision
      · simp [*]
      · exact Or.inr (collision.mono (fun input => (included _ _ input).1)
          (fun input => (included _ _ input).1))
    · exact Or.inr (collision.mono (fun input => (included _ _ input).2)
        (fun input => (included _ _ input).2))

end

def positionFields (context : ExecutionContext) (block : ExecutedBlock) : PositionFields :=
  (context.chainAnchor.genesisId, context.chainAnchor.validationContextId,
    context.consensusConfig.id, block.cometDecision.networkId, block.cometDecision.height.toNat,
    block.cometDecision.blockHash, block.cometDecision.nextValidatorsHash,
    block.header.input.height, block.header.id, block.resultingRecordChain.currentSequence,
    block.terminalRecordHash, block.header.input.resultingStateId)

/-- The byte string hashed into the application hash of a block. -/
def applicationInput (context : ExecutionContext) (block : ExecutedBlock) : List UInt8 :=
  utf8 "NOXIS/APP-HASH/V1\x00" ++ encodePosition (positionFields context block)

theorem Executes.appHash_eq_digest (executes : Executes context committed proposal block) :
    block.appHash.bytes = Sha256.digest (applicationInput context block) := by
  rw [executes.hashed, ← executes.decision]
  unfold applicationInput positionFields
  cases block.terminalRecordHash with
  | none => rfl
  | some recordHash => rfl

theorem positionFields_eq_of_appHash_eq
    {leftContext rightContext leftCommitted rightCommitted leftProposal rightProposal}
    (leftExecutes : Executes leftContext leftCommitted leftProposal left)
    (rightExecutes : Executes rightContext rightCommitted rightProposal right)
    (same : left.appHash = right.appHash) :
    positionFields leftContext left = positionFields rightContext right ∨
      Collides Sha256.digest (applicationInput leftContext left)
        (applicationInput rightContext right) := by
  have sameDigest : Sha256.digest (applicationInput leftContext left) =
      Sha256.digest (applicationInput rightContext right) := by
    grind [Executes.appHash_eq_digest]
  have fits : forall (context : ExecutionContext) (block : ExecutedBlock),
      (positionFields context block).2.2.2.2.1 < 2 ^ 64 := by
    intro context block
    have representable := block.cometDecision.representable
    change block.cometDecision.height.toNat < 2 ^ 64
    omega
  rcases eq_or_collides Sha256.digest sameDigest with sameInput | collides
  · exact Or.inl (delimited_encodePosition.injective (fits leftContext left)
      (fits rightContext right) (List.append_cancel_left sameInput))
  · exact Or.inr collides

theorem Runs.wellFormed (runs : Runs context candidate transactions records next)
    (wellFormed : candidate.ledgerState.WellFormed) : next.ledgerState.WellFormed := by
  induction runs with
  | nil candidate => exact wellFormed
  | cons applies runs ih =>
    exact ih (LedgerState.wellFormed_of_accepts wellFormed applies.accepts)

variable {tip : ExecutedBlock}

/-- The header of the last block names the state the chain ends in. -/
theorem Executions.stateId_of_tip (sound : committed.Sound context)
    (executions : Executions context committed proposals (blocks ++ [tip])) :
    tip.resultingState.stateId context.chainAnchor.genesisId =
      .ok tip.header.input.resultingStateId := by
  rcases executions.of_append with ⟨_, _, _, _, last⟩
  have consistent := (executions.sound sound).consistent
  rw [tipAfter_append] at consistent
  rw [last.headerOf.result]
  exact consistent

theorem Executions.wellFormed_of_tip (wellFormed : committed.ledgerState.WellFormed)
    (executions : Executions context committed proposals (blocks ++ [tip])) :
    tip.resultingState.WellFormed := by
  have runs := executions.runs
  rw [tipAfter_append] at runs
  exact runs.wellFormed wellFormed

/-- Every byte string hashed on the way from genesis to an application hash. -/
def historyInputs (context : ExecutionContext) (blocks : List ExecutedBlock)
    (tip : ExecutedBlock) : List (List UInt8) :=
  applicationInput context tip :: (chainInputs (blocks ++ [tip]) ++
    tip.resultingState.stateIdInputs context.chainAnchor.genesisId)

/-- Two chains from genesis whose tips have one application hash have the same
height and decision at the tip, the same transactions, headers and records in
every block, and the same resulting state; or two of the byte strings that
were hashed collide.  The genesis of the contexts need not be assumed equal:
it is covered too.  States are compared by what they export, which determines
a state that was built by the ledger's own operations. -/
theorem appHash_binds_history {leftContext rightContext : ExecutionContext}
    {leftLedger rightLedger : LedgerState} {leftGenesis rightGenesis : CommittedExecutionState}
    (leftMade : CommittedExecutionState.genesis leftLedger leftContext.chainAnchor =
      .ok leftGenesis)
    (rightMade : CommittedExecutionState.genesis rightLedger rightContext.chainAnchor =
      .ok rightGenesis)
    {leftProposals rightProposals : List BlockProposal} {leftBlocks rightBlocks : List ExecutedBlock}
    {leftTip rightTip : ExecutedBlock}
    (leftExecuted : executeBlocks leftContext leftGenesis leftProposals =
      .ok (leftBlocks ++ [leftTip]))
    (rightExecuted : executeBlocks rightContext rightGenesis rightProposals =
      .ok (rightBlocks ++ [rightTip]))
    (sameHash : leftTip.appHash = rightTip.appHash) :
    (leftTip.header.input.height = rightTip.header.input.height /\
        leftTip.cometDecision = rightTip.cometDecision /\
        leftProposals.map BlockProposal.transactions =
          rightProposals.map BlockProposal.transactions /\
        (leftBlocks ++ [leftTip]).map ExecutedBlock.header =
          (rightBlocks ++ [rightTip]).map ExecutedBlock.header /\
        (leftBlocks ++ [leftTip]).map ExecutedBlock.records =
          (rightBlocks ++ [rightTip]).map ExecutedBlock.records /\
        leftTip.resultingState.listing = rightTip.resultingState.listing /\
        (leftLedger.WellFormed -> rightLedger.WellFormed ->
          leftTip.resultingState = rightTip.resultingState)) ∨
      CollisionBetween Sha256.digest (historyInputs leftContext leftBlocks leftTip)
        (historyInputs rightContext rightBlocks rightTip) := by
  have leftSound := sound_of_genesis leftMade
  have rightSound := sound_of_genesis rightMade
  have leftExecutions := (executeBlocks_eq_ok leftSound).mp leftExecuted
  have rightExecutions := (executeBlocks_eq_ok rightSound).mp rightExecuted
  rcases leftExecutions.of_append with ⟨_, _, _, _, leftLast⟩
  rcases rightExecutions.of_append with ⟨_, _, _, _, rightLast⟩
  rcases CommittedExecutionState.genesis_eq_ok.mp leftMade with ⟨_, isLeftGenesis⟩
  rcases CommittedExecutionState.genesis_eq_ok.mp rightMade with ⟨_, isRightGenesis⟩
  rcases positionFields_eq_of_appHash_eq leftLast rightLast sameHash with sameFields | collides
  swap
  · exact Or.inr (CollisionBetween.of_collides collides List.mem_cons_self List.mem_cons_self)
  simp only [positionFields, Prod.mk.injEq] at sameFields
  rcases sameFields with ⟨_, _, _, network, engineHeight, blockHash, next, height, id, _, _, state⟩
  have sameTip : (tipAfter leftGenesis (leftBlocks ++ [leftTip])).blockId =
      (tipAfter rightGenesis (rightBlocks ++ [rightTip])).blockId := by
    rw [tipAfter_append, tipAfter_append]
    exact congrArg some id
  rcases history_eq_of_blockId_eq (by rw [isLeftGenesis]) (by rw [isRightGenesis]) leftExecutions
    rightExecutions sameTip with ⟨headers, records⟩ | collision
  swap
  · exact Or.inr (collision.mono
      (fun _ member => List.mem_cons_of_mem _ (List.mem_append_left _ member))
      (fun _ member => List.mem_cons_of_mem _ (List.mem_append_left _ member)))
  rcases LedgerState.listing_eq_of_stateId_eq (leftExecutions.stateId_of_tip leftSound)
    (state ▸ rightExecutions.stateId_of_tip rightSound) with ⟨_, listings⟩ | collision
  swap
  · exact Or.inr (collision.mono
      (fun _ member => List.mem_cons_of_mem _ (List.mem_append_right _ member))
      (fun _ member => List.mem_cons_of_mem _ (List.mem_append_right _ member)))
  refine Or.inl ⟨height, CometBftDecision.eq_of_fields_eq network engineHeight blockHash next, ?_,
    headers, records, listings, ?_⟩
  · rw [← leftExecutions.map_transactions, ← rightExecutions.map_transactions, records]
  · intro leftFormed rightFormed
    refine LedgerState.eq_of_listing_eq (leftExecutions.wellFormed_of_tip ?_)
      (rightExecutions.wellFormed_of_tip ?_) listings
    · rw [isLeftGenesis]
      exact leftFormed
    · rw [isRightGenesis]
      exact rightFormed

end

theorem Executes.withDecision [Sha256] {context committed proposal block}
    (executes : Executes context committed proposal block) {decision : CometBftDecision}
    (valid : decision.validateFor context.cometBftGenesis proposal.height = .ok ()) :
    Executes context committed { proposal with cometDecision := decision }
      { block with
        cometDecision := decision
        appHash := applicationHash context block.header decision
          block.resultingRecordChain.currentSequence block.terminalRecordHash } :=
  ⟨⟨executes.limits.height, valid, executes.limits.records, executes.limits.bytes⟩,
    executes.runs, executes.receipts, executes.isSealed, rfl, executes.terminal, rfl⟩

section
open Fips180

def otherDecision : CometBftDecision :=
  { testProposal.cometDecision with blockHash := .replicate 32 8, hashed := by decide }

/-- Two chains that differ in what the engine decided for their first block. -/
theorem testPartition_appHash_binds : ∃ first second blocks tip,
    executeBlocks testExecutionContext testCommitted testPartition =
        .ok (first :: blocks ++ [tip]) /\
      executeBlocks testExecutionContext testCommitted ({ testProposal with
          cometDecision := otherDecision
          transactions := testProposal.transactions.take 1 } :: testPartition.tail) =
        .ok (second :: blocks ++ [tip]) /\
      (first.records = second.records ∨
        CollisionBetween Sha256.digest (historyInputs testExecutionContext (first :: blocks) tip)
          (historyInputs testExecutionContext (second :: blocks) tip)) := by
  rcases exists_executeBlocks_testPartition with ⟨all, executed⟩
  have sound := sound_of_reachable reachable_testCommitted
  rcases (executeBlocks_eq_ok sound).mp executed with _ | @⟨_, _, first, _, others, executes, rest⟩
  rcases List.eq_nil_or_concat' others with rfl | ⟨blocks, tip, rfl⟩
  · cases rest
  have decision := CometBftDecision.validateFor_eq_ok.mp limits_testProposal.decision
  have valid : otherDecision.validateFor testExecutionContext.cometBftGenesis 1 = .ok () := by
    unfold otherDecision
    exact CometBftDecision.validateFor_eq_ok.mpr
      ⟨decision.1, rfl, by simpa only [testProposal] using decision.2.2⟩
  have other := executes.withDecision valid
  have otherExecuted := (executeBlocks_eq_ok sound).mpr (Executions.cons other rest)
  refine ⟨first, _, blocks, tip, executed, otherExecuted, ?_⟩
  rcases @appHash_binds_history _ _ _ _ _ _ _ genesis_testCommitted genesis_testCommitted _ _
    (first :: blocks) (_ :: blocks) tip tip executed otherExecuted rfl with same | collision
  · exact Or.inl (List.cons.inj same.2.2.2.2.1).1
  · exact Or.inr collision

end
end Noxis.Execution
