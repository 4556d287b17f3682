import Noxis.Consensus.Config

namespace Noxis.Consensus

open Foundation Codec RecordChain

/-!
# Block headers

A header describes one batch of records: the domain it belongs to, its place
in the chain, the states before and after, and a commitment to the record
hashes in order.  A header value carries the fact that it passed the
constructor's check.

The anchor is the domain a node expects.  It ties a header to a configuration
and the first block to the genesis state.
-/

/-- Commitment to the ordered record hashes of one block. -/
@[ext]
structure RecordCommitment where
  bytes : Bytes 32
deriving DecidableEq

structure BlockHeaderInput where
  protocolVersion : UInt16
  genesisId : GenesisId
  validationContextId : ValidationContextId
  consensusConfigId : ConsensusConfigId
  validatorSetId : ValidatorSetId
  height : UInt64
  epoch : UInt64
  round : UInt32
  parentBlockId : Option BlockId
  previousStateId : StateId
  resultingStateId : StateId
  firstRecordSequence : UInt64
  recordCount : UInt32
  recordsCommitment : RecordCommitment
deriving DecidableEq

/-- The sequence number of the last record must exist. -/
def validateRecordRange (first : UInt64) (count : UInt32) : Except ConsensusError Unit :=
  if 0 < count then
    match checkedAdd first (count.toUInt64 - 1) with
    | some _ => .ok ()
    | none => .error .recordSequenceOverflow
  else
    .ok ()

def validateHeaderInput (input : BlockHeaderInput) : Except ConsensusError Unit :=
  if input.protocolVersion = 0 then
    .error .invalidProtocolVersion
  else if input.height = 0 then
    .error .invalidBlockHeight
  else if input.height = 1 /\ input.parentBlockId.isSome then
    .error .unexpectedParentBlock
  else if 1 < input.height /\ input.parentBlockId.isNone then
    .error .missingParentBlock
  else if input.firstRecordSequence = 0 then
    .error .invalidFirstRecordSequence
  else if maxBlockRecords < input.recordCount.toNat then
    .error (.tooManyCommittedRecords input.recordCount.toNat maxBlockRecords)
  else
    validateRecordRange input.firstRecordSequence input.recordCount

/-- What the check of a header establishes. -/
structure HeaderShape (input : BlockHeaderInput) : Prop where
  versioned : input.protocolVersion ≠ 0
  high : input.height ≠ 0
  orphan : input.height = 1 -> input.parentBlockId = none
  parented : 1 < input.height -> input.parentBlockId ≠ none
  sequenced : input.firstRecordSequence ≠ 0
  bounded : input.recordCount.toNat <= maxBlockRecords
  fits : input.firstRecordSequence.toNat + (input.recordCount.toNat - 1) < 2 ^ 64

theorem validateRecordRange_eq_ok {first count} :
    validateRecordRange first count = .ok () <-> first.toNat + (count.toNat - 1) < 2 ^ 64 := by
  unfold validateRecordRange
  by_cases positive : 0 < count
  · have nonzero : 0 < count.toNat := UInt32.lt_iff_toNat_lt.mp positive
    have offset : (count.toUInt64 - 1).toNat = count.toNat - 1 := by
      have atLeastOne : (1 : UInt64) <= count.toUInt64 := UInt64.le_iff_toNat_le.mpr nonzero
      rw [UInt64.toNat_sub_of_le _ _ atLeastOne]
      rfl
    rw [if_pos positive, checkedAdd, offset]
    by_cases fits : first.toNat + (count.toNat - 1) < 2 ^ 64
    · rw [if_pos fits]
      exact iff_of_true rfl fits
    · rw [if_neg fits]
      exact iff_of_false nofun fits
  · have none : count.toNat = 0 := Nat.eq_zero_of_not_pos (UInt32.lt_iff_toNat_lt.not.mp positive)
    have bounded := first.toNat_lt
    rw [if_neg positive, none]
    simpa using bounded

theorem validateHeaderInput_eq_ok {input} :
    validateHeaderInput input = .ok () <-> HeaderShape input := by
  unfold validateHeaderInput
  simp only [Except.refuse_eq_ok, validateRecordRange_eq_ok]
  constructor
  · rintro ⟨versioned, high, orphan, parented, sequenced, bounded, fits⟩
    refine ⟨versioned, high, ?_, ?_, sequenced, Nat.not_lt.mp bounded, fits⟩
    · grind [Option.not_isSome_iff_eq_none]
    grind
  · rintro ⟨versioned, high, orphan, parented, sequenced, bounded, fits⟩
    grind [Option.isNone_iff_eq_none]

def encodeParent : Option BlockId -> List UInt8
  | some parentBlockId => 1 :: parentBlockId.bytes.toList
  | none => 0 :: List.replicate 32 0

def encodeBlockHeaderFields (input : BlockHeaderInput) : List UInt8 :=
  writeU16 input.protocolVersion ++ (input.genesisId.bytes.toList ++
    (input.validationContextId.bytes.toList ++ (input.consensusConfigId.bytes.toList ++
      (input.validatorSetId.bytes.toList ++ (writeU64 input.height ++ (writeU64 input.epoch ++
        (writeU32 input.round ++ (encodeParent input.parentBlockId ++
          (input.previousStateId.bytes.toList ++ (input.resultingStateId.bytes.toList ++
            (writeU64 input.firstRecordSequence ++ (writeU32 input.recordCount ++
              input.recordsCommitment.bytes.toList))))))))))))

section
variable [Sha256]

/-- Commit to records in their proposed order. -/
def RecordCommitment.fromRecordHashes (recordHashes : List RecordHash) :
    Except ConsensusError RecordCommitment :=
  if maxBlockRecords < recordHashes.length then
    .error (.tooManyCommittedRecords recordHashes.length maxBlockRecords)
  else
    .ok ⟨hash recordCommitmentDomain (writeU32 (UInt32.ofNat recordHashes.length) ++
      recordHashes.flatMap (fun recordHash => recordHash.bytes.toList))⟩

def blockId (bytes : List UInt8) : BlockId := ⟨hash blockIdDomain bytes⟩

/-- Canonical description of one proposed batch. -/
structure BlockHeader where
  input : BlockHeaderInput
  id : BlockId
  valid : validateHeaderInput input = .ok ()
  identified : id = blockId (encodeBlockHeaderFields input)
deriving DecidableEq

namespace BlockHeader

def new (input : BlockHeaderInput) : Except ConsensusError BlockHeader := do
  let ⟨(), valid⟩ ← witnessed (validateHeaderInput input)
  return {
    input
    id := blockId (encodeBlockHeaderFields input)
    valid
    identified := rfl }

def validateRecordHashes (header : BlockHeader) (recordHashes : List RecordHash) :
    Except ConsensusError Unit :=
  if recordHashes.length ≠ header.input.recordCount.toNat then
    .error (.recordCountMismatch header.input.recordCount recordHashes.length)
  else do
    let commitment ← RecordCommitment.fromRecordHashes recordHashes
    if commitment ≠ header.input.recordsCommitment then .error .recordCommitmentMismatch
    else .ok ()

def validateAgainstConfig (header : BlockHeader) (config : ConsensusConfig) :
    Except ConsensusError Unit :=
  if header.input.protocolVersion ≠ config.protocolVersion then
    .error .blockFormatMismatch
  else if header.input.consensusConfigId ≠ config.id then
    .error .consensusConfigMismatch
  else if header.input.validatorSetId ≠ config.validatorSet.id then
    .error .validatorSetMismatch
  else if config.maximumBlockRecords < header.input.recordCount then
    .error (.recordCountExceedsConfiguredMaximum header.input.recordCount
      config.maximumBlockRecords)
  else
    .ok ()

/-- The constructor returns every header, and for given input the only one
there is. -/
theorem new_eq_ok {input header} : new input = .ok header <-> header.input = input := by
  unfold new
  constructor
  · intro made
    rcases Except.bind_eq_ok.mp made with ⟨⟨_, valid⟩, _, made⟩
    rw [← Except.ok.inj made]
  · rintro rfl
    rw [witnessed_of_ok header.valid]
    rcases header with ⟨input, id, valid, identified⟩
    subst identified
    rfl

theorem validateAgainstConfig_eq_ok {header : BlockHeader} {config : ConsensusConfig} :
    header.validateAgainstConfig config = .ok () <->
      header.input.protocolVersion = config.protocolVersion /\
        header.input.consensusConfigId = config.id /\
        header.input.validatorSetId = config.validatorSet.id /\
        header.input.recordCount <= config.maximumBlockRecords := by
  unfold validateAgainstConfig
  simp only [Except.refuse_eq_ok, not_not, UInt32.not_lt, and_true]

theorem validateRecordHashes_eq_ok {header : BlockHeader} {recordHashes : List RecordHash} :
    header.validateRecordHashes recordHashes = .ok () <->
      recordHashes.length = header.input.recordCount.toNat /\
        RecordCommitment.fromRecordHashes recordHashes = .ok header.input.recordsCommitment := by
  unfold validateRecordHashes
  simp only [Except.refuse_eq_ok, Except.bind_eq_ok, not_not, and_true]
  grind

end BlockHeader

/-- The network domain a client or validator expects. -/
structure ConsensusAnchor where
  genesisId : GenesisId
  validationContextId : ValidationContextId
  consensusConfigId : ConsensusConfigId
  genesisStateId : StateId
  engineNetworkId : Bytes 32
deriving DecidableEq

def ConsensusAnchor.validateHeader (anchor : ConsensusAnchor) (header : BlockHeader)
    (config : ConsensusConfig) : Except ConsensusError Unit := do
  header.validateAgainstConfig config
  if header.input.genesisId ≠ anchor.genesisId then
    .error .genesisMismatch
  else if header.input.validationContextId ≠ anchor.validationContextId then
    .error .validationContextMismatch
  else if config.id ≠ anchor.consensusConfigId then
    .error .consensusConfigMismatch
  else if header.input.height = 1 /\ header.input.previousStateId ≠ anchor.genesisStateId then
    .error .genesisStateMismatch
  else
    .ok ()

theorem ConsensusAnchor.validateHeader_eq_ok {anchor : ConsensusAnchor} {header : BlockHeader}
    {config : ConsensusConfig} :
    anchor.validateHeader header config = .ok () <->
      header.validateAgainstConfig config = .ok () /\
        header.input.genesisId = anchor.genesisId /\
        header.input.validationContextId = anchor.validationContextId /\
        config.id = anchor.consensusConfigId /\
        (header.input.height = 1 -> header.input.previousStateId = anchor.genesisStateId) := by
  unfold ConsensusAnchor.validateHeader
  simp only [Except.refuse_eq_ok, Except.bind_eq_ok, not_not, not_and, and_true]
  grind

end
end Noxis.Consensus
