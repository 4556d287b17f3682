import Noxis.Storage.BlockPayload

namespace Noxis.Storage

open Foundation Codec RecordChain Consensus FrameFormat

/-!
# The block journal

A journal is a file of block frames.  Blocks are only ever appended.  Reading
a journal visits its complete blocks in order; when the last write was
interrupted, the incomplete tail is reported and can then be removed, after a
second scan has confirmed it.
-/

def blockFrameVersion : UInt16 := 2

def blockFrameFormat : FrameFormat BlockJournalError where
  magic := ⟨utf8 "NXCB", by decide⟩
  version := blockFrameVersion
  maximum := maxBlockFramePayloadLength
  invalidMagic := fun _ offset => .invalidMagic offset
  unsupportedVersion := .unsupportedFrameVersion
  tooLarge := fun offset actual => .frameTooLarge offset actual maxBlockFramePayloadLength
  checksumMismatch := .checksumMismatch

def encodeFrame (payload : List UInt8) : Except BlockJournalError (List UInt8) :=
  if 2 ^ 32 <= payload.length then
    .error (.frameTooLarge 0 (UInt32.ofNat (2 ^ 32 - 1)) maxBlockFramePayloadLength)
  else if maxBlockFramePayloadLength < UInt32.ofNat payload.length then
    .error (.frameTooLarge 0 (UInt32.ofNat payload.length) maxBlockFramePayloadLength)
  else
    .ok (blockFrameFormat.encodeFrame payload)

/-- Failure while a journal is replayed frame by frame. -/
inductive BlockJournalReplayError (ε : Type) where
  | journal (source : BlockJournalError)
  | visitor (source : ε)

/-- How a write to a file ends: completely, or after some bytes with a failed
operation. -/
inductive WriteOutcome where
  | complete
  | failed (operation : String) (written : Nat)

theorem WriteOutcome.complete_or_failed (outcome : WriteOutcome) :
    outcome = .complete ∨ ∃ operation written, outcome = .failed operation written := by
  cases outcome with
  | complete => exact Or.inl rfl
  | failed operation written => exact Or.inr ⟨operation, written, rfl⟩

/-- Write at the end of a file; the result is the offset of what was written. -/
def appendBytes (outcome : WriteOutcome) (bytes : List UInt8) :
    EStateM BlockJournalError (List UInt8) Nat := fun file =>
  match outcome with
  | .complete => .ok file.length (file ++ bytes)
  | .failed operation written => .error (.io operation) (file ++ bytes.take written)

section
variable [Sha256]

/-- The frame of a block.  The payload is decoded again before it is written. -/
def blockFrame (block : StoredBlock) : Except BlockJournalError (List UInt8) := do
  validateBlock block.header block.records
  let payload ← encodePayload block.header block.appHash block.cometDecision block.records
  let _decoded ← (decodePayload payload).mapError (.payload 0)
  encodeFrame payload

/-- Write one block; the result is the offset of its frame. -/
def appendBlock (outcome : WriteOutcome) (block : StoredBlock) :
    EStateM BlockJournalError (List UInt8) Nat := do
  let frame ← check (blockFrame block)
  appendBytes outcome frame

def visitFrame {ε σ : Type} (visitor : StoredBlock -> EStateM ε σ Unit) (offset : Nat)
    (payload : List UInt8) : EStateM (BlockJournalReplayError ε) σ Unit := do
  let block ← check ((decodePayload payload).mapError
    (fun source => .journal (.payload offset source)))
  mapFailure .visitor (visitor { block with offset := offset })

def streamFrames {ε σ : Type} (visitor : StoredBlock -> EStateM ε σ Unit) (file : List UInt8) :
    EStateM (BlockJournalReplayError ε) σ (Option IncompleteTail) :=
  blockFrameFormat.streamFrames .journal (visitFrame visitor) file

/-- Replay each complete frame.  The file is not changed. -/
def replayRecoverableTail {ε σ : Type} (visitor : StoredBlock -> EStateM ε σ Unit)
    (file : List UInt8) : EStateM (BlockJournalReplayError ε) σ (Option IncompleteTail) :=
  streamFrames visitor file

/-- Scan a file with a visitor that accepts everything. -/
def scanTail (file : List UInt8) : Except BlockJournalError (Option IncompleteTail) :=
  match streamFrames (fun _ => (pure () : EStateM Empty Unit Unit)) file () with
  | .ok tail _ => .ok tail
  | .error (.journal source) _ => .error source

def validateCompleteFileStreaming (file : List UInt8) : Except BlockJournalError Unit := do
  match ← scanTail file with
  | none => .ok ()
  | some tail => .error (.truncatedFrame tail.validPrefixLength tail.cut)

/-- Remove exactly the partial tail an earlier scan reported. -/
def truncateVerifiedIncompleteTail (expected : IncompleteTail) :
    EStateM BlockJournalError (List UInt8) Unit := do
  let file ← get
  match ← check (scanTail file) with
  | none => throw .recoveryTailChanged
  | some actual =>
    if actual ≠ expected then
      throw .recoveryTailChanged
    else
      set (file.take actual.validPrefixLength)
      check (validateCompleteFileStreaming (file.take actual.validPrefixLength))

variable {frame : List UInt8}

omit [Sha256] in
theorem encodeFrame_eq_ok {payload} :
    encodeFrame payload = .ok frame <->
      payload.length <= maxBlockFramePayloadLength.toNat /\
        frame = blockFrameFormat.encodeFrame payload :=
  @FrameFormat.tryEncodeFrame_eq_ok _ blockFrameFormat payload frame

variable {block : StoredBlock}

theorem small_of_length_payload_le (shape : BlockShape block.header block.records)
    (within : block.payload.length <= maxBlockFramePayloadLength.toNat) :
    block.records.length < 2 ^ 32 /\
      forall record, record ∈ block.records -> record.encode.length < 2 ^ 32 := by
  refine ⟨Nat.lt_of_le_of_lt shape.length_le (by decide), ?_⟩
  intro record member
  have part : 150 + record.transactionBytes.length <= _ :=
    List.le_sum_of_mem (List.mem_map_of_mem
      (f := fun record : TransactionRecord => 150 + record.transactionBytes.length) member)
  have maximum : maxBlockFramePayloadLength.toNat < 2 ^ 32 := maxBlockFramePayloadLength.toNat_lt
  have overhead : recordEnvelopeOverhead.toNat = 146 := rfl
  rw [length_payload] at within
  rw [length_encode]
  omega

theorem blockFrame_eq_ok :
    blockFrame block = .ok frame <->
      Storable block /\ block.payload.length <= maxBlockFramePayloadLength.toNat /\
        frame = blockFrameFormat.encodeFrame block.payload := by
  unfold blockFrame
  simp only [Except.bind_eq_ok, Except.mapError_eq_ok, encodePayload_eq_ok, decodePayload_eq_ok,
    encodeFrame_eq_ok]
  constructor
  · rintro ⟨_, _, _, ⟨shape, rfl, within⟩, decoded, ⟨same, storable, _⟩, _, isFrame⟩
    have equal := eq_of_payload_eq (small_of_length_payload_le shape within)
      (small_of_length_payload_le storable.shape (same ▸ within)) same
    rw [← equal] at storable
    exact ⟨⟨storable.shape, storable.made, storable.network⟩, within, isFrame⟩
  · rintro ⟨storable, within, rfl⟩
    exact ⟨(), validateBlock_eq_ok.mpr storable.shape, _, ⟨storable.shape, rfl, within⟩,
      { block with offset := 0 },
      ⟨rfl, ⟨storable.shape, storable.made, storable.network⟩, rfl⟩, within, rfl⟩

/-- Blocks with the offsets of their frames. -/
def placed (offset : Nat) : List StoredBlock -> List StoredBlock
  | [] => []
  | block :: rest =>
    { block with offset := offset } :: placed (offset + frameLength block.payload) rest

/-- The file that holds blocks. -/
def journalOf (blocks : List StoredBlock) : List UInt8 :=
  blockFrameFormat.encodeFrames (blocks.map StoredBlock.payload)

theorem journalOf_cons (block : StoredBlock) (blocks : List StoredBlock) :
    journalOf (block :: blocks) = blockFrameFormat.encodeFrame block.payload ++ journalOf blocks :=
  rfl

theorem journalOf_append (left right : List StoredBlock) :
    journalOf (left ++ right) = journalOf left ++ journalOf right := by
  simp only [journalOf, encodeFrames, List.map_append, List.flatMap_append]

/-- What an append establishes of each block. -/
def Appended (block : StoredBlock) : Prop :=
  Storable block /\ block.payload.length <= maxBlockFramePayloadLength.toNat

section
variable {ε σ : Type} {visitor : StoredBlock -> EStateM ε σ Unit}

theorem visitFrame_payload {block} (storable : Storable block) (offset : Nat) :
    visitFrame visitor offset block.payload =
      mapFailure .visitor (visitor { block with offset := offset }) := by
  have decoded : decodePayload block.payload = .ok { block with offset := 0 } :=
    decodePayload_eq_ok.mpr ⟨rfl, ⟨storable.shape, storable.made, storable.network⟩, rfl⟩
  unfold visitFrame
  rw [decoded]
  rfl

variable {blocks : List StoredBlock}

theorem visitAll_payloads (storable : forall block, block ∈ blocks -> Storable block)
    (offset : Nat) :
    visitAll (visitFrame visitor) offset (blocks.map StoredBlock.payload) =
      mapFailure .visitor ((placed offset blocks).forM visitor) := by
  induction blocks generalizing offset with
  | nil => rfl
  | cons block rest ih =>
    have parts := List.forall_mem_cons.mp storable
    rw [List.map_cons, visitAll, visitFrame_payload parts.1, ih parts.2]
    exact (mapFailure_bind _ _ _).symm

variable {offset : Nat} {start final : σ}

theorem visitFrame_eq_ok {payload} :
    visitFrame visitor offset payload start = .ok () final <->
      ∃ block, Storable block /\ block.offset = 0 /\ payload = block.payload /\
        visitor { block with offset := offset } start = .ok () final := by
  constructor
  · intro visited
    rcases bind_eq_ok.mp visited with ⟨block, middle, decoded, handed⟩
    rcases check_eq_ok.mp decoded with ⟨isBlock, rfl⟩
    rcases decodePayload_eq_ok.mp (Except.mapError_eq_ok.mp isBlock) with
      ⟨isPayload, storable, isZero⟩
    exact ⟨block, storable, isZero, isPayload, mapFailure_eq_ok.mp handed⟩
  · intro found
    rcases found with ⟨block, storable, _, rfl, visited⟩
    rw [visitFrame_payload storable]
    exact mapFailure_eq_ok.mpr visited

theorem visitAll_eq_ok {payloads}
    (visited : visitAll (visitFrame visitor) offset payloads start = .ok () final) :
    ∃ blocks, (forall block, block ∈ blocks -> Storable block /\ block.offset = 0) /\
      payloads = blocks.map StoredBlock.payload /\
      (placed offset blocks).forM visitor start = .ok () final := by
  induction payloads generalizing offset start with
  | nil =>
    cases visited
    exact ⟨[], by simp, rfl, rfl⟩
  | cons payload rest ih =>
    rcases bind_eq_ok.mp visited with ⟨_, middle, here, later⟩
    rcases visitFrame_eq_ok.mp here with ⟨block, storable, isZero, rfl, visitedBlock⟩
    rcases ih later with ⟨blocks, allStorable, rfl, visitedRest⟩
    exact ⟨block :: blocks, List.forall_mem_cons.mpr ⟨⟨storable, isZero⟩, allStorable⟩, rfl,
      (bind_of_ok visitedBlock).trans visitedRest⟩

theorem replay_of_scans {file outcome} (storable : forall block, block ∈ blocks -> Storable block)
    (scans : blockFrameFormat.Scans 0 file (blocks.map StoredBlock.payload) outcome) :
    replayRecoverableTail visitor file = (do
      mapFailure .visitor ((placed 0 blocks).forM visitor)
      check (outcome.mapError .journal)) := by
  unfold replayRecoverableTail streamFrames
  rw [scans.streamFrames, visitAll_payloads storable]

end

theorem forM_accept (blocks : List StoredBlock) :
    blocks.forM (fun _ => (pure () : EStateM Empty Unit Unit)) = pure () := by
  induction blocks with
  | nil => rfl
  | cons block rest ih => exact ih

variable {file : List UInt8} {blocks : List StoredBlock}

theorem scanTail_of_scans {outcome} (storable : forall block, block ∈ blocks -> Storable block)
    (scans : blockFrameFormat.Scans 0 file (blocks.map StoredBlock.payload) outcome) :
    scanTail file = outcome := by
  have replayed := @replay_of_scans _ Empty Unit (fun _ => pure ()) _ _ _ storable scans
  unfold replayRecoverableTail at replayed
  unfold scanTail
  rw [replayed, forM_accept]
  cases outcome with
  | ok tail => rfl
  | error source => rfl

theorem payloads_within (appended : forall block, block ∈ blocks -> Appended block) :
    forall payload, payload ∈ blocks.map StoredBlock.payload ->
      payload.length <= blockFrameFormat.maximum.toNat := by
  intro payload member
  rcases List.mem_map.mp member with ⟨block, listed, rfl⟩
  exact (appended block listed).2

theorem scans_journalOf (appended : forall block, block ∈ blocks -> Appended block) :
    blockFrameFormat.Scans 0 (journalOf blocks) (blocks.map StoredBlock.payload) (.ok none) := by
  have scans := FrameFormat.Scans.append (payloads_within appended) (FrameFormat.Scans.done (0 + _))
  rw [List.append_nil, List.append_nil] at scans
  exact scans

/-- Behind the blocks of a journal a confirmed tail is removed and nothing else. -/
theorem truncate_of_scans {tail} (appended : forall block, block ∈ blocks -> Appended block)
    (scans : blockFrameFormat.Scans 0 file (blocks.map StoredBlock.payload) (.ok (some tail))) :
    truncateVerifiedIncompleteTail tail file = .ok () (journalOf blocks) := by
  have storable := fun block listed => (appended block listed).1
  have behind : file.take tail.validPrefixLength = journalOf blocks := by
    rcases scans.contents with ⟨_, rest, isFile, _⟩
    rw [scans.validPrefixLength, Nat.zero_add, isFile, List.take_left]
    rfl
  unfold truncateVerifiedIncompleteTail
  rw [get_bind, scanTail_of_scans storable scans]
  change (if tail ≠ tail then _ else _ : EStateM BlockJournalError (List UInt8) Unit) file = _
  rw [if_neg (not_not_intro rfl), behind]
  change (check (validateCompleteFileStreaming (journalOf blocks)) :
    EStateM BlockJournalError (List UInt8) Unit) (journalOf blocks) = _
  unfold validateCompleteFileStreaming
  rw [scanTail_of_scans storable (scans_journalOf appended)]
  rfl

/-! ## Interrupted writes -/

theorem mapM_blockFrame {frames} (framed : blocks.mapM blockFrame = .ok frames) :
    (forall block, block ∈ blocks -> Appended block) /\
      frames = blocks.map (fun block => blockFrameFormat.encodeFrame block.payload) := by
  constructor
  · intro block member
    rcases Except.exists_mapM_eq_ok.mp ⟨frames, framed⟩ block member with ⟨frame, isFrame⟩
    rcases blockFrame_eq_ok.mp isFrame with ⟨storable, within, _⟩
    exact ⟨storable, within⟩
  · have each : frames.map id = _ := Except.map_of_mapM_eq_ok
      (fun _ _ isFrame => (blockFrame_eq_ok.mp isFrame).2.2) framed
    rw [List.map_id] at each
    exact each

theorem flatten_frames (blocks : List StoredBlock) :
    (blocks.map (fun block => blockFrameFormat.encodeFrame block.payload)).flatten =
      journalOf blocks := by
  rw [journalOf, encodeFrames, List.flatMap_map, List.flatMap_def]

theorem placed_take (offset number : Nat) (blocks : List StoredBlock) :
    placed offset (blocks.take number) = (placed offset blocks).take number := by
  induction blocks generalizing offset number with
  | nil => simp only [List.take_nil, placed]
  | cons block rest ih =>
    cases number with
    | zero => rfl
    | succ number =>
      rw [List.take_succ_cons, placed, placed, List.take_succ_cons, ih]

theorem placed_eq_mapIdx (offset : Nat) (blocks : List StoredBlock) :
    placed offset blocks = blocks.mapIdx (fun index block =>
      { block with offset := offset + (journalOf (blocks.take index)).length }) := by
  induction blocks generalizing offset with
  | nil => rfl
  | cons block rest ih =>
    rw [placed, List.mapIdx_cons, ih]
    congr 1
    apply List.mapIdx_eq_mapIdx_iff.mpr
    intro index _
    congr 1
    rw [List.take_succ_cons, journalOf_cons, List.length_append, length_encodeFrame, Nat.add_assoc]

/-- An empty block on the genesis state of the consensus fixtures. -/
def testStoredBlock : StoredBlock where
  offset := 0
  header := {
    input := { (testHeader 5).input with
      recordsCommitment := ⟨hash recordCommitmentDomain (writeU32 0 ++ [])⟩ }
    id := _
    valid := rfl
    identified := rfl }
  appHash := .replicate 8
  cometDecision := {
    networkId := .replicate 32 1
    height := 1
    blockHash := .replicate 32 2
    nextValidatorsHash := .replicate 32 3
    high := Int.one_pos
    representable := one_representable
    hashed := by decide
    scheduled := by decide }
  records := []

theorem blockFrame_testStoredBlock :
    ∃ frame, blockFrame testStoredBlock = .ok frame /\ frame.length = 461 := by
  have shape : BlockShape testStoredBlock.header testStoredBlock.records :=
    ⟨rfl, BlockHeader.validateRecordHashes_eq_ok.mpr ⟨rfl, rfl⟩, nofun, List.isChain_nil, rfl⟩
  have length := length_payload testStoredBlock
  have network : (Bytes.replicate 32 1) ≠ .replicate 32 0 := by decide
  refine ⟨_, blockFrame_eq_ok.mpr ⟨⟨shape, nofun, network⟩, ?_, rfl⟩, ?_⟩
  · rw [length]
    exact (by decide : 447 <= maxBlockFramePayloadLength.toNat)
  · rw [length_encodeFrame, frameLength, length]
    rfl

/-- A journal of blocks that was cut anywhere.  The complete blocks are those
whose frames lie inside what is left.  Whatever a visitor does, a replay hands
it exactly those, in order and each with the place of its frame in the journal;
it then reports an incomplete tail, unless what is left ends with a frame.
Removing the reported tail leaves exactly the frames of the complete blocks. -/
theorem replay_of_cut_journal {blocks : List StoredBlock} {frames : List (List UInt8)}
    (framed : blocks.mapM blockFrame = .ok frames) {left : List UInt8}
    (isCut : left <+: frames.flatten) :
    ∃ complete tail, complete <= blocks.length /\
      (forall number, number <= blocks.length ->
        ((frames.take number).flatten.length <= left.length <-> number <= complete)) /\
      (forall {ε σ : Type} (visitor : StoredBlock -> EStateM ε σ Unit),
        replayRecoverableTail visitor left = (do
          mapFailure .visitor (((blocks.mapIdx (fun index block =>
            { block with offset := (frames.take index).flatten.length })).take complete).forM visitor)
          pure tail)) /\
      (tail = none <-> ∃ number, number <= blocks.length /\
        left.length = (frames.take number).flatten.length) /\
      forall found, tail = some found ->
        truncateVerifiedIncompleteTail found left = .ok () (frames.take complete).flatten := by
  rcases mapM_blockFrame framed with ⟨appended, rfl⟩
  have takes : forall number, ((blocks.map (fun block =>
      blockFrameFormat.encodeFrame block.payload)).take number).flatten =
      journalOf (blocks.take number) := by
    intro number
    rw [← List.map_take, flatten_frames]
  rw [flatten_frames] at isCut
  have isTake : left = (journalOf blocks).take left.length := List.prefix_iff_eq_take.mp isCut
  rcases exists_scans_take (payloads_within appended) 0 isCut.length_le with
    ⟨complete, tail, cutAt, scans, ends⟩
  have bounded : complete <= blocks.length := by
    have inPayloads := cutAt.bounded
    rwa [List.length_map] at inPayloads
  have sizes : forall number, number <= blocks.length ->
      ((journalOf (blocks.take number)).length <= left.length <-> number <= complete) := by
    intro number few
    rw [journalOf, List.map_take]
    exact cutAt.inside_iff (by rwa [List.length_map])
  have appendedBefore : forall block, block ∈ blocks.take complete -> Appended block :=
    fun block member => appended block (List.mem_of_mem_take member)
  rw [← List.map_take, ← journalOf] at ends
  rw [← List.map_take, ← journalOf, ← isTake] at scans
  simp only [takes]
  refine ⟨complete, tail, bounded, sizes, ?_, ?_, ?_⟩
  · intro ε σ visitor
    rw [replay_of_scans (fun block member => (appendedBefore block member).1) scans, placed_take,
      placed_eq_mapIdx]
    simp only [Nat.zero_add]
    rfl
  · rw [ends]
    constructor
    · intro atEnd
      exact ⟨complete, bounded, atEnd⟩
    · intro boundary
      rcases boundary with ⟨number, few, atEnd⟩
      have fewer := (sizes number few).mp (Nat.le_of_eq atEnd.symm)
      have smaller := @FrameFormat.length_encodeFrames_take_le _ blockFrameFormat
        (blocks.map StoredBlock.payload) _ _ fewer
      have inside := (sizes complete bounded).mpr (Nat.le_refl complete)
      rw [← List.map_take, ← List.map_take, ← journalOf, ← journalOf] at smaller
      omega
  · intro found isFound
    subst isFound
    exact truncate_of_scans appendedBefore scans

end

open Fips180 in
theorem testStoredBlock_cut_in_second_frame :
    ∃ frame tail, [testStoredBlock, testStoredBlock].mapM blockFrame = .ok [frame, frame] /\
      (frame ++ frame).take 500 <+: [frame, frame].flatten /\ tail ≠ none /\
      (forall {ε σ : Type} (visitor : StoredBlock -> EStateM ε σ Unit),
        replayRecoverableTail visitor ((frame ++ frame).take 500) = (do
          mapFailure .visitor ([testStoredBlock].forM visitor)
          pure tail)) /\
      forall found, tail = some found ->
        truncateVerifiedIncompleteTail found ((frame ++ frame).take 500) = .ok () frame := by
  rcases blockFrame_testStoredBlock with ⟨frame, framed, length⟩
  have framedTwice : [testStoredBlock, testStoredBlock].mapM blockFrame = .ok [frame, frame] := by
    simp only [List.mapM_cons, List.mapM_nil, framed]
    rfl
  have isCut : (frame ++ frame).take 500 <+: [frame, frame].flatten := by
    simpa using List.take_prefix 500 (frame ++ frame)
  have leftLength : ((frame ++ frame).take 500).length = 500 := by
    rw [List.length_take, List.length_append, length]
    rfl
  rcases replay_of_cut_journal framedTwice isCut with
    ⟨complete, tail, bounded, sizes, replayed, ends, truncated⟩
  have one := (sizes 1 (by decide)).mp (by simp [leftLength, length])
  have notTwo : ¬2 <= complete := fun two => by
    have tooMuch := (sizes 2 (by decide)).mpr two
    simp [length] at tooMuch
  have exact : complete = 1 := by omega
  subst exact
  refine ⟨frame, tail, framedTwice, isCut, ?_, ?_, ?_⟩
  · intro isNone
    rcases ends.mp isNone with ⟨number, few, atEnd⟩
    rw [leftLength] at atEnd
    rcases number with _ | _ | number <;> simp [length] at atEnd
  · intro ε σ visitor
    exact replayed visitor
  · intro found isFound
    simpa using truncated found isFound

end Noxis.Storage
