import Noxis.Consensus.Block

namespace Noxis.Consensus

open Foundation Codec RecordChain

/-!
# The wire format of block headers

A header is stored as its fields after a magic and a version.  The parent is
written in a fixed width, so its absence has one representation only because
the decoder insists on zeros.  Decoding a header makes it again: a decoded
header is one the constructor would have accepted, with the identifier of its
fields.
-/

def headerMagic : List UInt8 := utf8 "NXBH"

instance : ReaderErrors ConsensusError where
  lengthOverflow := .lengthOverflow
  unexpectedEnd := .unexpectedEnd
  trailingBytes := .trailingBytes

def decodeParent (isPresent : UInt8) (bytes : Bytes 32) :
    Except ConsensusError (Option BlockId) :=
  if isPresent = 0 then
    if bytes ≠ .replicate 32 0 then .error .unexpectedParentBlock else .ok none
  else if isPresent = 1 then
    .ok (some ⟨bytes⟩)
  else
    .error .invalidMagic

/-- The fields of a header as they stand on the wire. -/
def readHeaderInput : EStateM ConsensusError Reader BlockHeaderInput := do
  let magic ← readArray 4
  if magic.toList ≠ headerMagic then
    throw .invalidMagic
  else
    let version ← readU16
    if version ≠ consensusFormatVersion then
      throw (.unsupportedFormatVersion version)
    else
      let protocolVersion ← readU16
      let genesisId ← readArray 32
      let validationContextId ← readArray 32
      let consensusConfigId ← readArray 32
      let validatorSetId ← readArray 32
      let height ← readU64
      let epoch ← readU64
      let round ← readU32
      let parentIsPresent ← readU8
      let parentBytes ← readArray 32
      let parentBlockId ← check (decodeParent parentIsPresent parentBytes)
      let previousStateId ← readArray 32
      let resultingStateId ← readArray 32
      let firstRecordSequence ← readU64
      let recordCount ← readU32
      let recordsCommitment ← readArray 32
      return ⟨protocolVersion, ⟨genesisId⟩, ⟨validationContextId⟩, ⟨consensusConfigId⟩,
        ⟨validatorSetId⟩, height, epoch, round, parentBlockId, ⟨previousStateId⟩,
        ⟨resultingStateId⟩, firstRecordSequence, recordCount, ⟨recordsCommitment⟩⟩

def encodeHeaderInput (input : BlockHeaderInput) : List UInt8 :=
  headerMagic ++ (writeU16 consensusFormatVersion ++ encodeBlockHeaderFields input)

/-- The flag and the bytes that stand for a parent. -/
def parentFields : Option BlockId -> UInt8 × Bytes 32
  | some parentBlockId => (1, parentBlockId.bytes)
  | none => (0, .replicate 32 0)

theorem decodeParent_eq_ok {fields parent} :
    decodeParent fields.1 fields.2 = .ok parent <-> fields = parentFields parent := by
  rcases fields with ⟨isPresent, bytes⟩
  unfold decodeParent
  by_cases absent : isPresent = 0
  · subst absent
    rw [if_pos rfl, Except.refuse_eq_ok, not_not, Except.ok.injEq]
    cases parent with
    | none => simp [parentFields]
    | some parentBlockId => simp [parentFields]
  · rw [if_neg absent]
    by_cases present : isPresent = 1
    · subst present
      rw [if_pos rfl, Except.ok.injEq]
      cases parent with
      | none => simp [parentFields]
      | some parentBlockId =>
        simp only [parentFields, Option.some.injEq, Prod.mk.injEq, true_and]
        exact Identifier.ext_iff
    · rw [if_neg present]
      cases parent with
      | none => simp [parentFields, absent]
      | some parentBlockId => simp [parentFields, present]

theorem encodeParent_eq (parent : Option BlockId) :
    encodeParent parent = [(parentFields parent).1] ++ (parentFields parent).2.toList := by
  cases parent with
  | none => rfl
  | some parentBlockId => rfl

theorem reads_parent :
    Reads (readPair readU8 (readArray 32) >>= fun fields =>
        (check (decodeParent fields.1 fields.2) : EStateM ConsensusError Reader (Option BlockId)))
      (fun _ => True) encodeParent := by
  have fields := (@Reads.u8 ConsensusError _).pair (Reads.array 32)
  refine (fields.decoded parentFields (fun _ => ⟨trivial, trivial⟩) ?_).congr (fun _ => Iff.rfl) ?_
  · intro value parent start final
    rw [check_eq_ok, decodeParent_eq_ok]
  · intro parent _
    exact (encodeParent_eq parent).symm

theorem reads_readHeaderInput : Reads readHeaderInput (fun _ => True) encodeHeaderInput := by
  have array := @Reads.array ConsensusError _ 32
  have states := array.pair (array.pair (Reads.u64.pair (Reads.u32.pair array)))
  have place := Reads.u64.pair (Reads.u64.pair (Reads.u32.pair (reads_parent.pair states)))
  have fields := Reads.u16.pair (array.pair (array.pair (array.pair (array.pair place))))
  have built := fields.map
    (fun (protocolVersion, genesisId, validationContextId, consensusConfigId, validatorSetId,
        height, epoch, round, parentBlockId, previousStateId, resultingStateId,
        firstRecordSequence, recordCount, recordsCommitment) =>
      BlockHeaderInput.mk protocolVersion ⟨genesisId⟩ ⟨validationContextId⟩ ⟨consensusConfigId⟩
        ⟨validatorSetId⟩ height epoch round parentBlockId ⟨previousStateId⟩ ⟨resultingStateId⟩
        firstRecordSequence recordCount ⟨recordsCommitment⟩)
    (fun input => (input.protocolVersion, input.genesisId.bytes, input.validationContextId.bytes,
      input.consensusConfigId.bytes, input.validatorSetId.bytes, input.height, input.epoch,
      input.round, input.parentBlockId, input.previousStateId.bytes, input.resultingStateId.bytes,
      input.firstRecordSequence, input.recordCount, input.recordsCommitment.bytes))
    (fun _ _ => rfl) (fun _ _ => rfl)
  simp only [readPair, bind_assoc, pure_bind] at built
  have framed := Reads.framed (by decide : headerMagic.length = 4) consensusFormatVersion
    ConsensusError.invalidMagic ConsensusError.unsupportedFormatVersion built
  refine framed.congr ?_ (fun _ _ => rfl)
  intro input
  simp only [true_and]

theorem length_encodeHeaderInput (input : BlockHeaderInput) :
    (encodeHeaderInput input).length = 297 := by
  have magic : headerMagic.length = 4 := by decide
  have parent : (encodeParent input.parentBlockId).length = 33 := by
    rw [encodeParent_eq, List.length_append, Bytes.length_toList]
    rfl
  simp only [encodeHeaderInput, encodeBlockHeaderFields, writeU16, writeU32, writeU64,
    List.length_append, Bytes.length_toList, length_bigEndian, magic, parent]

theorem encodeBlockHeaderFields_injective : Function.Injective encodeBlockHeaderFields := by
  intro left right same
  have parsed (input : BlockHeaderInput) :
      parse readHeaderInput (encodeHeaderInput input) = .ok input :=
    reads_readHeaderInput.parse_encode trivial (by rw [length_encodeHeaderInput]; decide)
  have sameParsed := parsed left
  rw [encodeHeaderInput, same] at sameParsed
  exact Except.ok.inj (sameParsed.symm.trans (parsed right))

section
variable [Sha256]

def encodeBlockHeader (header : BlockHeader) : List UInt8 := encodeHeaderInput header.input

def decodeBlockHeader (bytes : List UInt8) : Except ConsensusError BlockHeader := do
  let input ← parse readHeaderInput bytes
  BlockHeader.new input

theorem decodeBlockHeader_eq_ok {bytes header} :
    decodeBlockHeader bytes = .ok header <-> bytes = encodeBlockHeader header := by
  unfold decodeBlockHeader
  simp only [Except.bind_eq_ok, BlockHeader.new_eq_ok]
  constructor
  · rintro ⟨input, parsed, rfl⟩
    exact (reads_readHeaderInput.of_parse parsed).2
  · rintro rfl
    refine ⟨header.input, reads_readHeaderInput.parse_encode trivial ?_, rfl⟩
    rw [length_encodeHeaderInput]
    decide

end
end Noxis.Consensus
