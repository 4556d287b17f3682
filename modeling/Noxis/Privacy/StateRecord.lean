import Noxis.Codec.AssetFields
import Noxis.Foundation.Delimited
import Noxis.Privacy.PrivateLedger

namespace Noxis.Privacy

open Foundation
open Codec (ticker_of_built reads_kind_and_ticker)

/-!
# Records of the private ledger

A record is a byte string that holds everything a private ledger is made from:
the identities, the commitments in order, the spent nullifiers, the assets and a
checksum.  Trees and anchors are not stored.  Decoding makes them again, compares
the state identity and encodes the result once more, so an accepted record is
the record of the ledger it is decoded to, and of no other.
-/

variable {candidate : Poseidon2P24Candidate}

def privateStateRecordMagic : List UInt8 := utf8 "NXPR"

def privateStateRecordVersion : UInt16 := 1

def privateStateRecordChecksumDomain : List UInt8 := utf8 "NOXIS/PRIVATE-STATE-RECORD/V1\x00"

def privateStateRecordMaxAssets : Nat := 4096

def privateStateRecordMaxNullifiers : Nat := 2048

def recordHeaderLength : Nat := 4 + 2 + 2 + 32 + 32 + 32 + 32 + 4 + 4 + 2

def recordChecksumLength : Nat := 32

/-- Largest complete record under the limits. -/
def privateStateRecordMaxBytes : Nat :=
  recordHeaderLength + candidatePrivateStateMaxNotes * 64 + privateStateRecordMaxNullifiers * 64 +
    privateStateRecordMaxAssets * (32 + 1 + 1 + 16) + recordChecksumLength

inductive CandidatePrivateStateRecordError where
  | truncated
  | magic
  | version
  | reserved
  | checksumMismatch
  | trailingBytes
  | nonCanonical
  | lengthOverflow
  | tooManyAssets (count : Nat)
  | tooManyNullifiers (count : Nat)
  | count (field : String) (value maximum : Nat)
  | assetOrder
  | assetKind (tag : UInt8)
  | tickerLength (length : Nat)
  | tickerUtf8
  | privacy (source : PrivacyTypesError)
  | asset (source : AssetError)
  | tree (source : NullifierSparseTreeStateError)
  | snapshot (source : CandidatePrivateStateError)
  | ledger (source : CandidatePrivateLedgerError)
  | stateIdMismatch (encoded rebuilt : StateId)
deriving DecidableEq

instance : ReaderErrors CandidatePrivateStateRecordError where
  lengthOverflow := .truncated
  unexpectedEnd := fun _ => .truncated
  trailingBytes := fun _ => .trailingBytes

def putU32 (value : Nat) : Except (Fault CandidatePrivateStateRecordError) (List UInt8) :=
  if 2 ^ 32 <= value then .error (.error .lengthOverflow) else .ok (bigEndian 4 value)

def putU16 (value : Nat) : Except (Fault CandidatePrivateStateRecordError) (List UInt8) :=
  if 2 ^ 16 <= value then .error (.error .lengthOverflow) else .ok (bigEndian 2 value)

def assetKindTag : AssetKind -> UInt8
  | .nativeBacked => 1
  | .synthetic => 2

def decodeAssetKind (tag : UInt8) : Except CandidatePrivateStateRecordError AssetKind :=
  if tag = 1 then .ok .nativeBacked
  else if tag = 2 then .ok .synthetic
  else .error (.assetKind tag)

/-- The bytes of an asset whose ticker has a length of one byte. -/
def assetBytes (asset : AssetDefinition) : List UInt8 :=
  asset.id.bytes.toList ++ ([assetKindTag asset.kind] ++
    ([UInt8.ofNat (utf8 asset.ticker).length] ++ utf8 asset.ticker))

def encodeAsset (asset : AssetDefinition) :
    Except (Fault CandidatePrivateStateRecordError) (List UInt8) :=
  if 256 <= (utf8 asset.ticker).length then
    .error (.panic ⟨"AssetDefinition bounds ticker length"⟩)
  else
    .ok (assetBytes asset)

/-- The assets in the order of their identifiers. -/
def CandidatePrivateLedgerStateV1.assetList (state : CandidatePrivateLedgerStateV1 candidate) :
    List AssetDefinition :=
  (sortedEntries state.assets).map Prod.snd

section
variable [Sha256]

def recordChecksum (body : List UInt8) : Bytes 32 :=
  Sha256.digest (privateStateRecordChecksumDomain ++ body)

def encodeCandidatePrivateLedgerState (state : CandidatePrivateLedgerStateV1 candidate) :
    Except (Fault CandidatePrivateStateRecordError) (List UInt8) :=
  if privateStateRecordMaxNullifiers < state.snapshot.spentNullifiers.length then
    .error (.error (.tooManyNullifiers state.snapshot.spentNullifiers.length))
  else if privateStateRecordMaxAssets < state.assetList.length then
    .error (.error (.tooManyAssets state.assetList.length))
  else do
    let commitmentCount ← putU32 state.snapshot.commitments.length
    let nullifierCount ← putU32 state.snapshot.spentNullifiers.length
    let assetCount ← putU16 state.assetList.length
    let assets ← state.assetList.mapM encodeAsset
    let body := privateStateRecordMagic ++ (bigEndian 2 privateStateRecordVersion.toNat ++
      ([0, 0] ++ (state.anchor.genesisId.bytes.toList ++
        (state.anchor.validationContextId.bytes.toList ++
        (state.anchor.noteTreeParameters.id.bytes.toList ++ (state.anchor.stateId.bytes.toList ++
        (commitmentCount ++ (nullifierCount ++ (assetCount ++
        (state.snapshot.commitments.flatMap (fun commitment => commitment.bytes.toList) ++
        (state.snapshot.spentNullifiers.flatMap (fun nullifier => nullifier.bytes.toList) ++
        assets.flatten)))))))))))
    return body ++ (recordChecksum body).toList

end

/-- The fields of a record before anything is made from them. -/
structure PrivateStateRecordFields where
  genesisId : GenesisId
  validationContextId : ValidationContextId
  treeParameters : TreeParametersV2
  stateId : StateId
  commitments : List NoteCommitmentV2
  nullifiers : List NullifierV2
  assets : List AssetDefinition

/-- A canonical vector of sixty-four bytes. -/
def readVector {ε : Type} [ReaderErrors ε] {kind : VectorKind} (wrap : PrivacyTypesError -> ε) :
    EStateM ε Reader (CanonicalVector kind) := do
  let bytes ← readArray 64
  check ((CanonicalVector.new bytes).mapError wrap)

def bounded (value maximum : Nat) (field : String) :
    Except CandidatePrivateStateRecordError Nat :=
  if maximum < value then .error (.count field value maximum) else .ok value

/-- An asset after the one that was read before it. -/
def readAsset (previous : Option AssetDefinition) :
    EStateM CandidatePrivateStateRecordError Reader AssetDefinition := do
  let id ← readArray 32
  if previous.any (fun before => decide ((⟨id⟩ : AssetId) <= before.id)) then
    throw .assetOrder
  else
    let tag ← readU8
    let kind ← check (decodeAssetKind tag)
    let tickerLength ← readU8
    if ¬(1 <= tickerLength.toNat /\ tickerLength.toNat <= 16) then
      throw (.tickerLength tickerLength.toNat)
    else
      let bytes ← readExact tickerLength.toNat
      match fromUtf8 bytes with
      | none => throw .tickerUtf8
      | some ticker => check ((AssetDefinition.new ⟨id⟩ ticker kind).mapError .asset)

def readRecordFields : EStateM CandidatePrivateStateRecordError Reader PrivateStateRecordFields := do
  let magic ← readArray 4
  if magic.toList ≠ privateStateRecordMagic then
    throw .magic
  else
    let version ← readU16
    if version ≠ privateStateRecordVersion then
      throw .version
    else
      let reserved ← readArray 2
      if reserved.toList ≠ [0, 0] then
        throw .reserved
      else
        let genesisId ← readArray 32
        let validationContextId ← readArray 32
        let treeParametersId ← readArray 32
        let stateId ← readArray 32
        let commitmentNumber ← readU32
        let commitmentCount ← check
          (bounded commitmentNumber.toNat candidatePrivateStateMaxNotes "commitments")
        let nullifierNumber ← readU32
        let nullifierCount ← check
          (bounded nullifierNumber.toNat privateStateRecordMaxNullifiers "nullifiers")
        let assetNumber ← readU16
        let assetCount ← check
          (bounded assetNumber.toNat privateStateRecordMaxAssets "assets")
        let commitments ← readMany (readVector .privacy) commitmentCount
        let nullifiers ← readMany (readVector .privacy) nullifierCount
        let assets ← readTracking readAsset (fun _ => some) none assetCount
        return ⟨⟨genesisId⟩, ⟨validationContextId⟩, ⟨⟨treeParametersId⟩⟩, ⟨stateId⟩, commitments,
          nullifiers, assets⟩

/-- Register assets in turn, and stop at the first failure. -/
def registerAll : List AssetDefinition ->
    EStateM CandidatePrivateLedgerError (CandidatePrivateLedgerStateV1 candidate) Unit
  | [] => pure ()
  | asset :: rest => do
      CandidatePrivateLedgerStateV1.registerAsset asset
      registerAll rest

section
variable [Sha256] (reference : NullifierSparseTreeReferenceV1)

def treeOfSnapshot (snapshot : CandidatePrivateStateSnapshotV1 candidate) :
    Except CandidatePrivateStateRecordError NullifierSparseTreeStateV1 :=
  match markAll reference snapshot.spentNullifiers .newCandidate with
  | .error reason _ => .error (.tree reason)
  | .ok _ tree => .ok tree

def withAssets (assets : List AssetDefinition) (state : CandidatePrivateLedgerStateV1 candidate) :
    Except CandidatePrivateStateRecordError (CandidatePrivateLedgerStateV1 candidate) :=
  match registerAll assets state with
  | .error reason _ => .error (.ledger reason)
  | .ok _ next => .ok next

def rebuildLedger (fields : PrivateStateRecordFields) :
    Except CandidatePrivateStateRecordError (CandidatePrivateLedgerStateV1 candidate) := do
  let snapshot ← (CandidatePrivateStateSnapshotV1.new fields.commitments
    fields.nullifiers).mapError .snapshot
  let tree ← treeOfSnapshot reference snapshot
  let state ← (CandidatePrivateLedgerStateV1.new reference fields.genesisId
    fields.validationContextId fields.treeParameters snapshot tree).mapError .ledger
  if state.anchor.stateId ≠ fields.stateId then
    .error (.stateIdMismatch fields.stateId state.anchor.stateId)
  else
    withAssets fields.assets state

def decodeCandidatePrivateLedgerState (bytes : List UInt8) :
    Except (Fault CandidatePrivateStateRecordError) (CandidatePrivateLedgerStateV1 candidate) :=
  if bytes.length < recordHeaderLength + recordChecksumLength then
    .error (.error .truncated)
  else
    let body := bytes.take (bytes.length - recordChecksumLength)
    if (recordChecksum body).toList ≠ bytes.drop (bytes.length - recordChecksumLength) then
      .error (.error .checksumMismatch)
    else do
      let fields ← (parse readRecordFields body).mapError Fault.error
      let state ← (rebuildLedger reference fields).mapError Fault.error
      let encoded ← encodeCandidatePrivateLedgerState state
      if encoded ≠ bytes then .error (.error .nonCanonical) else .ok state

end

/-! ## What the encoder accepts -/

/-- The bytes of a record before its checksum. -/
def fieldBytes (fields : PrivateStateRecordFields) : List UInt8 :=
  privateStateRecordMagic ++ (bigEndian 2 privateStateRecordVersion.toNat ++
    ([0, 0] ++ (fields.genesisId.bytes.toList ++ (fields.validationContextId.bytes.toList ++
      (fields.treeParameters.id.bytes.toList ++ (fields.stateId.bytes.toList ++
      (bigEndian 4 fields.commitments.length ++ (bigEndian 4 fields.nullifiers.length ++
      (bigEndian 2 fields.assets.length ++
      (fields.commitments.flatMap (fun commitment => commitment.bytes.toList) ++
      (fields.nullifiers.flatMap (fun nullifier => nullifier.bytes.toList) ++
      fields.assets.flatMap assetBytes)))))))))))

def fieldsOf (state : CandidatePrivateLedgerStateV1 candidate) : PrivateStateRecordFields where
  genesisId := state.anchor.genesisId
  validationContextId := state.anchor.validationContextId
  treeParameters := state.anchor.noteTreeParameters
  stateId := state.anchor.stateId
  commitments := state.snapshot.commitments
  nullifiers := state.snapshot.spentNullifiers
  assets := state.assetList

def recordOf [Sha256] (state : CandidatePrivateLedgerStateV1 candidate) : List UInt8 :=
  fieldBytes (fieldsOf state) ++ (recordChecksum (fieldBytes (fieldsOf state))).toList

/-- The nullifiers and assets of a ledger fit into a record. -/
structure FitsRecord (state : CandidatePrivateLedgerStateV1 candidate) : Prop where
  nullifiers : state.snapshot.spentNullifiers.length <= privateStateRecordMaxNullifiers
  assets : state.assetList.length <= privateStateRecordMaxAssets

variable {value : Nat} {bytes : List UInt8}

theorem putU32_eq_ok : putU32 value = .ok bytes <-> value < 2 ^ 32 /\ bytes = bigEndian 4 value := by
  rw [putU32, Except.refuse_eq_ok, Nat.not_le, Except.ok.injEq, eq_comm]

theorem putU16_eq_ok : putU16 value = .ok bytes <-> value < 2 ^ 16 /\ bytes = bigEndian 2 value := by
  rw [putU16, Except.refuse_eq_ok, Nat.not_le, Except.ok.injEq, eq_comm]

theorem encodeAsset_eq_ok {asset} :
    encodeAsset asset = .ok bytes <->
      (utf8 asset.ticker).length < 256 /\ bytes = assetBytes asset := by
  rw [encodeAsset, Except.refuse_eq_ok, Nat.not_le, Except.ok.injEq, eq_comm]

variable {assets : List AssetDefinition}

theorem mapM_encodeAsset_eq_ok {encoded} :
    assets.mapM encodeAsset = .ok encoded <->
      (forall asset, asset ∈ assets -> (utf8 asset.ticker).length < 256) /\
        encoded = assets.map assetBytes := by
  have mapped {encoded : List (List UInt8)} (succeeded : assets.mapM encodeAsset = .ok encoded) :
      encoded = assets.map assetBytes := by
    have same : encoded.map id = assets.map assetBytes := Except.map_of_mapM_eq_ok
      (fun _ _ isEncoded => (encodeAsset_eq_ok.mp isEncoded).2) succeeded
    rwa [List.map_id] at same
  constructor
  · intro succeeded
    refine ⟨?_, mapped succeeded⟩
    intro asset listed
    rcases Except.exists_mapM_eq_ok.mp ⟨encoded, succeeded⟩ asset listed with ⟨_, isEncoded⟩
    exact (encodeAsset_eq_ok.mp isEncoded).1
  · intro short
    rcases Except.exists_mapM_eq_ok.mpr (fun asset listed =>
      ⟨_, encodeAsset_eq_ok.mpr ⟨short.1 asset listed, rfl⟩⟩) with ⟨results, succeeded⟩
    rw [succeeded, mapped succeeded, short.2]

theorem encodeCandidatePrivateLedgerState_eq_ok [Sha256]
    {state : CandidatePrivateLedgerStateV1 candidate} :
    encodeCandidatePrivateLedgerState state = .ok bytes <->
      FitsRecord state /\
        (forall asset, asset ∈ state.assetList -> (utf8 asset.ticker).length < 256) /\
        bytes = recordOf state := by
  unfold encodeCandidatePrivateLedgerState
  simp only [Except.refuse_eq_ok, Except.bind_eq_ok, Nat.not_lt, putU32_eq_ok, putU16_eq_ok,
    mapM_encodeAsset_eq_ok]
  constructor
  · intro encoded
    rcases encoded with ⟨fewNullifiers, fewAssets, _, ⟨_, rfl⟩, _, ⟨_, rfl⟩, _, ⟨_, rfl⟩, _,
      ⟨short, rfl⟩, isRecord⟩
    refine ⟨⟨fewNullifiers, fewAssets⟩, short, ?_⟩
    rw [← List.flatMap_def] at isRecord
    exact (Except.ok.inj isRecord).symm
  · intro encoded
    rcases encoded with ⟨fits, short, rfl⟩
    have fewCommitments : state.snapshot.commitments.length < 2 ^ 32 :=
      Nat.lt_of_le_of_lt state.snapshot.bounded (by decide)
    refine ⟨fits.nullifiers, fits.assets, _, ⟨fewCommitments, rfl⟩, _,
      ⟨Nat.lt_of_le_of_lt fits.nullifiers (by decide), rfl⟩, _,
      ⟨Nat.lt_of_le_of_lt fits.assets (by decide), rfl⟩, _, ⟨short, rfl⟩, ?_⟩
    rw [← List.flatMap_def]
    rfl

variable {kind : VectorKind}

theorem reads_readVector {ε : Type} [ReaderErrors ε] (wrap : PrivacyTypesError -> ε) :
    Reads (readVector wrap : EStateM ε Reader (CanonicalVector kind)) (fun _ => True)
      (fun vector => vector.bytes.toList) := by
  refine (Reads.array 64).decoded CanonicalVector.bytes (fun _ => trivial) ?_
  intro bytes vector start final
  rw [check_eq_ok, Except.mapError_eq_ok, CanonicalVector.new_eq_ok, eq_comm]

theorem decodeAssetKind_eq_ok {tag kind} :
    decodeAssetKind tag = .ok kind <-> tag = assetKindTag kind := by
  unfold decodeAssetKind
  constructor
  · intro decoded
    split at decoded
    · rw [← Except.ok.inj decoded]
      assumption
    · split at decoded
      · rw [← Except.ok.inj decoded]
        assumption
      · cases decoded
  · intro isTag
    subst isTag
    cases kind with
    | nativeBacked => rfl
    | synthetic => rfl

theorem reads_readAsset (previous : Option AssetDefinition) :
    Reads (readAsset previous)
      (fun asset => (forall before, before ∈ previous -> before.id < asset.id) /\ asset.Built)
      assetBytes := by
  have accepts : forall length : UInt8, 1 <= length.toNat -> length.toNat <= 16 ->
      ¬¬(1 <= length.toNat /\ length.toNat <= 16) :=
    fun _ atLeast atMost => not_not_intro ⟨atLeast, atMost⟩
  have body (id : AssetId) := reads_kind_and_ticker CandidatePrivateStateRecordError.tickerUtf8
    .asset (fun _ _ => decodeAssetKind_eq_ok) (fun length => .tickerLength length.toNat) accepts id
  have whole := (Reads.array 32).bind (fun asset : AssetDefinition => asset.id.bytes)
    (fun id (_ : True) => Reads.guarded CandidatePrivateStateRecordError.assetOrder
      (fun (_ : ¬previous.any (fun before => decide ((⟨id⟩ : AssetId) <= before.id)) = true) =>
        body ⟨id⟩))
    (by
      intro id asset isValid
      rw [isValid.2.1])
  refine whole.congr ?_ (fun _ _ => rfl)
  intro asset
  simp only [Option.any_eq_true_iff_get, Option.mem_def, true_and]
  cases previous with
  | none => simp
  | some before => simp

variable {maximum : Nat}

theorem bounded_eq_ok {count : Nat} {field} :
    bounded value maximum field = .ok count <-> value <= maximum /\ value = count := by
  rw [bounded, Except.refuse_eq_ok, Nat.not_lt, Except.ok.injEq]

/-- A count in any integer type that holds its maximum. -/
theorem reads_count {β : Type} {width : Nat}
    {read : EStateM CandidatePrivateStateRecordError Reader β} {ofNat : Nat -> β} {toNat : β -> Nat}
    (integers : Reads read (fun _ => True) (fun value => bigEndian width (toNat value)))
    (toNat_ofNat : forall count, count <= maximum -> toNat (ofNat count) = count)
    (ofNat_toNat : forall value, ofNat (toNat value) = value) (field : String) :
    Reads (read >>= fun number => check (bounded (toNat number) maximum field))
      (fun count => count <= maximum) (fun count => bigEndian width count) := by
  refine (integers.decodedWhen ofNat ?_).congr (fun _ => and_iff_right trivial) ?_
  · intro number count start final
    rw [check_eq_ok, bounded_eq_ok]
    constructor
    · intro found
      rcases found with ⟨⟨few, rfl⟩, rfl⟩
      exact ⟨(ofNat_toNat number).symm, few, rfl⟩
    · intro found
      rcases found with ⟨rfl, few, rfl⟩
      rw [toNat_ofNat count few]
      exact ⟨⟨few, rfl⟩, rfl⟩
  · intro count few
    rw [toNat_ofNat count few]

theorem reads_count32 (small : maximum < 2 ^ 32) (field : String) :
    Reads (readU32 >>= fun number =>
        (check (bounded number.toNat maximum field) :
          EStateM CandidatePrivateStateRecordError Reader Nat))
      (fun count => count <= maximum) (fun count => bigEndian 4 count) :=
  reads_count Reads.u32 (fun _ few => UInt32.toNat_ofNat_of_lt' (Nat.lt_of_le_of_lt few small))
    (fun _ => UInt32.ofNat_toNat) field

theorem reads_count16 (small : maximum < 2 ^ 16) (field : String) :
    Reads (readU16 >>= fun number =>
        (check (bounded number.toNat maximum field) :
          EStateM CandidatePrivateStateRecordError Reader Nat))
      (fun count => count <= maximum) (fun count => bigEndian 2 count) :=
  reads_count Reads.u16 (fun _ few => UInt16.toNat_ofNat_of_lt' (Nat.lt_of_le_of_lt few small))
    (fun _ => UInt16.ofNat_toNat) field

/-- Fields within the limits, with assets that the constructor accepts in the
order of their identifiers. -/
structure ValidFields (fields : PrivateStateRecordFields) : Prop where
  commitments : fields.commitments.length <= candidatePrivateStateMaxNotes
  nullifiers : fields.nullifiers.length <= privateStateRecordMaxNullifiers
  assets : fields.assets.length <= privateStateRecordMaxAssets
  ordered : fields.assets.IsChain (fun left right => left.id < right.id)
  built : forall asset, asset ∈ fields.assets -> asset.Built

theorem reads_readRecordFields : Reads readRecordFields ValidFields fieldBytes := by
  have array := @Reads.array CandidatePrivateStateRecordError _ 32
  have counts := (reads_count32 (by decide : candidatePrivateStateMaxNotes < 2 ^ 32)
    "commitments").pair ((reads_count32 (by decide : privateStateRecordMaxNullifiers < 2 ^ 32)
      "nullifiers").pair (reads_count16 (by decide : privateStateRecordMaxAssets < 2 ^ 16) "assets"))
  have contents (numbers : Nat × Nat × Nat) (_ : numbers.1 <= candidatePrivateStateMaxNotes /\
      numbers.2.1 <= privateStateRecordMaxNullifiers /\ numbers.2.2 <= privateStateRecordMaxAssets) :=
    ((@reads_readVector .noteCommitment _ _ CandidatePrivateStateRecordError.privacy).many
      numbers.1).pair
        (((@reads_readVector .nullifier _ _ CandidatePrivateStateRecordError.privacy).many
          numbers.2.1).pair (Reads.chained reads_readAsset numbers.2.2))
  have lists := counts.bind
    (fun parts : List NoteCommitmentV2 × List NullifierV2 × List AssetDefinition =>
      (parts.1.length, parts.2.1.length, parts.2.2.length)) contents (by
      grind)
  have built := (array.pair (array.pair (array.pair (array.pair lists)))).map
    (fun (genesisId, validationContextId, treeParametersId, stateId, commitments, nullifiers,
        assets) => PrivateStateRecordFields.mk ⟨genesisId⟩ ⟨validationContextId⟩
          ⟨⟨treeParametersId⟩⟩ ⟨stateId⟩ commitments nullifiers assets)
    (fun fields => (fields.genesisId.bytes, fields.validationContextId.bytes,
      fields.treeParameters.id.bytes, fields.stateId.bytes, fields.commitments, fields.nullifiers,
      fields.assets))
    (fun _ _ => rfl) (fun _ _ => rfl)
  simp only [readPair, bind_assoc, pure_bind] at built
  have reserved := Reads.expecting (⟨[0, 0], rfl⟩ : Bytes 2) (fun found => found.toList ≠ [0, 0])
    (fun _ => CandidatePrivateStateRecordError.reserved) (Reads.array 2) built trivial (by
      intro found
      rw [not_ne_iff]
      exact ⟨fun same => Bytes.toList_injective same, fun same => congrArg Bytes.toList same⟩)
  have framed := Reads.framed (by decide : privateStateRecordMagic.length = 4)
    privateStateRecordVersion CandidatePrivateStateRecordError.magic
    (fun _ => CandidatePrivateStateRecordError.version) reserved
  refine framed.congr ?_ ?_
  · intro fields
    constructor
    · intro isValid
      rcases isValid with ⟨_, _, _, _, ⟨commitments, nullifiers, assets⟩, _, _, _, ordered, built⟩
      exact ⟨commitments, nullifiers, assets, ordered, built⟩
    · intro isValid
      exact ⟨trivial, trivial, trivial, trivial,
        ⟨isValid.commitments, isValid.nullifiers, isValid.assets⟩, ⟨trivial, fun _ _ => trivial⟩,
        ⟨trivial, fun _ _ => trivial⟩, trivial, isValid.ordered, isValid.built⟩
  · intro fields _
    simp only [fieldBytes, List.append_assoc]

theorem length_flatMap_vectors (vectors : List (CanonicalVector kind)) :
    (vectors.flatMap (fun vector => vector.bytes.toList)).length = vectors.length * 64 := by
  simp [Bytes.length_toList]

theorem length_assetBytes (asset : AssetDefinition) :
    (assetBytes asset).length = 34 + (utf8 asset.ticker).length := by
  grind [assetBytes, Bytes.length_toList]

theorem length_flatMap_assets_le (built : forall asset, asset ∈ assets -> asset.Built) :
    (assets.flatMap assetBytes).length <= assets.length * 50 := by
  induction assets with
  | nil => exact Nat.le_refl 0
  | cons asset rest ih =>
    have parts := List.forall_mem_cons.mp built
    grind [ticker_of_built, length_assetBytes]

theorem length_fieldBytes (fields : PrivateStateRecordFields) :
    (fieldBytes fields).length = recordHeaderLength + fields.commitments.length * 64 +
      fields.nullifiers.length * 64 + (fields.assets.flatMap assetBytes).length := by
  have magic : privateStateRecordMagic.length = 4 := by decide
  simp only [fieldBytes, List.length_append, length_flatMap_vectors, Bytes.length_toList,
    length_bigEndian, magic, List.length_cons, List.length_nil, recordHeaderLength]
  omega

variable {fields : PrivateStateRecordFields}

theorem length_fieldBytes_le (isValid : ValidFields fields) :
    (fieldBytes fields).length + recordChecksumLength <= privateStateRecordMaxBytes := by
  have commitments := isValid.commitments
  have nullifiers := isValid.nullifiers
  have assets := isValid.assets
  have size := length_flatMap_assets_le isValid.built
  rw [length_fieldBytes]
  unfold privateStateRecordMaxBytes
  omega

/-- Fields whose counts and lengths are written without loss. -/
structure FieldsFit (fields : PrivateStateRecordFields) : Prop where
  commitments : fields.commitments.length < 256 ^ 4
  nullifiers : fields.nullifiers.length < 256 ^ 4
  assets : fields.assets.length < 256 ^ 2
  tickers : forall asset, asset ∈ fields.assets -> (utf8 asset.ticker).length < 256

theorem ValidFields.fit (isValid : ValidFields fields) : FieldsFit fields where
  commitments := Nat.lt_of_le_of_lt isValid.commitments (by decide)
  nullifiers := Nat.lt_of_le_of_lt isValid.nullifiers (by decide)
  assets := Nat.lt_of_le_of_lt isValid.assets (by decide)
  tickers := fun asset listed =>
    Nat.lt_of_le_of_lt (ticker_of_built (isValid.built asset listed)).2 (by decide)

theorem delimited_vector :
    Delimited (fun _ : CanonicalVector kind => True) (fun vector => vector.bytes.toList) :=
  (Delimited.bytes 64).comap (fun _ _ same => CanonicalVector.ext same)

theorem delimited_assetBytes :
    Delimited (fun asset => (utf8 asset.ticker).length < 256) assetBytes := by
  have parts : Function.Injective assetKindTag := by
    intro left right same
    apply Except.ok.inj
    rw [← decodeAssetKind_eq_ok.mpr same, ← decodeAssetKind_eq_ok.mpr rfl]
  have fields := (Delimited.bytes 32).pair (Delimited.byte.pair (Delimited.prefixed 1))
  have single (size : Nat) : bigEndian 1 size = [UInt8.ofNat size] := by
    rw [bigEndian, bigEndian, Nat.pow_zero, Nat.div_one]
  simp only [single] at fields
  exact (fields.comap (AssetDefinition.fields_injective parts)).weaken (fun _ fits => ⟨trivial, trivial, fits⟩)

theorem fieldBytes_injective {left right} (leftFits : FieldsFit left)
    (rightFits : FieldsFit right) (same : fieldBytes left = fieldBytes right) : left = right := by
  have counts := (Delimited.bigEndian 4).pair ((Delimited.bigEndian 4).pair (Delimited.bigEndian 2))
  have lists := counts.bind
    (fun parts : List NoteCommitmentV2 × List NullifierV2 × List AssetDefinition =>
      (parts.1.length, parts.2.1.length, parts.2.2.length))
    (fun numbers _ => (delimited_vector.sized numbers.1).pair
      ((delimited_vector.sized numbers.2.1).pair (delimited_assetBytes.sized numbers.2.2)))
  have bytes := Delimited.bytes 32
  have whole := bytes.pair (bytes.pair (bytes.pair (bytes.pair lists)))
  have parts : Function.Injective (fun fields : PrivateStateRecordFields =>
      (fields.genesisId.bytes, fields.validationContextId.bytes, fields.treeParameters.id.bytes,
        fields.stateId.bytes, fields.commitments, fields.nullifiers, fields.assets)) := by
    intro left right same
    cases left
    cases right
    simp only [Prod.mk.injEq] at same
    rcases same with ⟨genesis, context, parameters, state, rfl, rfl, rfl⟩
    rw [Identifier.bytes_injective genesis, Identifier.bytes_injective context,
      Identifier.bytes_injective state]
    exact congrArg (fun id => PrivateStateRecordFields.mk _ _ ⟨id⟩ _ _ _ _)
      (PrivateIdentifier.ext parameters)
  have fitting := (whole.comap parts).weaken (fun fields (fits : FieldsFit fields) =>
    ⟨trivial, trivial, trivial, trivial, ⟨fits.commitments, fits.nullifiers, fits.assets⟩,
      ⟨rfl, fun _ _ => trivial⟩, ⟨rfl, fun _ _ => trivial⟩, rfl, fits.tickers⟩)
  unfold fieldBytes at same
  have same := List.append_cancel_left (List.append_cancel_left (List.append_cancel_left same))
  apply fitting.injective leftFits rightFits
  simp only [List.append_assoc]
  exact same

end Noxis.Privacy
