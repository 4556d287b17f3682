import Noxis.Storage.Checkpoint

namespace Noxis.Checkpoints

open Foundation Codec Ledger RecordChain LedgerState CheckpointError

/-!
# What the checkpoint decoder accepts

A file is accepted exactly when it is the encoding of a checkpoint within the
limits.  The readers never need the final comparison with the encoding, and the
limits that the encoder asserts hold for whatever was read.
-/

theorem decodeAssetKind_eq_ok {tag kind} :
    decodeAssetKind tag = .ok kind <-> tag = encodeAssetKind kind := by
  unfold decodeAssetKind
  constructor
  · intro decoded
    split at decoded
    · rw [← Except.ok.inj decoded]
      assumption
    · split at decoded
      · rw [← Except.ok.inj decoded]
        assumption
      · cases decoded
  · intro isTag
    subst isTag
    cases kind with
    | nativeBacked => rfl
    | synthetic => rfl

theorem reads_readAsset (index : Nat) :
    Reads (readAsset index) AssetDefinition.Built assetBytes := by
  have accepts : forall length : UInt8, 1 <= length.toNat -> length.toNat <= 16 ->
      ¬maxTickerBytes < length.toNat := fun _ _ atMost => Nat.not_lt.mpr atMost
  have body (id : AssetId) := reads_kind_and_ticker
    (SnapshotReadError.snapshot (.invalidTickerEncoding index))
    (fun source => .snapshot (.invalidAsset index source)) (fun _ _ => decodeAssetKind_eq_ok)
    (fun length => .snapshot (.tickerTooLong index length.toNat)) accepts id
  have whole := (Reads.array 32).bind (fun asset : AssetDefinition => asset.id.bytes)
    (fun id (_ : True) => body ⟨id⟩) (by
      intro id asset isValid
      rw [isValid.1])
  refine whole.congr ?_ (fun _ _ => rfl)
  intro asset
  exact ⟨fun isValid => isValid.2.2, fun built => ⟨trivial, rfl, built⟩⟩

variable {α : Type}

theorem reads_counted {valid : α -> Prop} {encode : α -> List UInt8} (maximum : UInt32)
    {elements : Nat -> EStateM SnapshotReadError Reader (List α)}
    (reads : forall count, Reads (elements count)
      (fun values => values.length = count /\ forall value, value ∈ values -> valid value)
      (fun values => values.flatMap encode)) :
    Reads (readCount maximum >>= fun count => elements count.toNat)
      (fun values => values.length <= maximum.toNat /\ forall value, value ∈ values -> valid value)
      (fun values => bigEndian 4 values.length ++ values.flatMap encode) := by
  have limited := Reads.limitedWhen maximum
    (fun count => SnapshotReadError.snapshot (.collectionTooLarge count maximum)) List.length
    (fun count _ => reads count.toNat)
  unfold readCount
  rw [bind_assoc]
  simp only [refuse_bind, pure_bind]
  exact limited

theorem reads_readIdentifiers (kind : IdentifierKind) :
    Reads (readIdentifiers kind) (fun ids => ids.length <= maxSnapshotIdentifiers.toNat)
      (fun ids => bigEndian 4 ids.length ++ ids.flatMap (fun id => id.bytes.toList)) := by
  have element : Reads (readArray 32 >>= fun bytes => pure (⟨bytes⟩ : Identifier kind) :
      EStateM SnapshotReadError Reader (Identifier kind)) (fun _ => True)
      (fun id => id.bytes.toList) :=
    (Reads.array 32).map Identifier.mk Identifier.bytes (fun _ _ => rfl) (fun _ _ => rfl)
  refine (reads_counted maxSnapshotIdentifiers (fun count => element.many count)).congr ?_
    (fun _ _ => rfl)
  intro ids
  exact ⟨fun isValid => isValid.1, fun within => ⟨within, fun _ _ => trivial⟩⟩

theorem reads_readSupply : Reads readSupply (fun _ => True) supplyBytes := by
  have both := ((@Reads.array SnapshotReadError _ 32).pair
    (reads_amount_or (SnapshotReadError.snapshot .zeroSupply))).map
    (fun parts => ((⟨parts.1⟩ : AssetId), parts.2)) (fun entry => (entry.1.bytes, entry.2))
    (fun _ _ => rfl) (fun _ _ => rfl)
  have whole := both.congr (fun _ => iff_of_true ⟨trivial, trivial⟩ trivial) (fun _ _ => rfl)
  refine (congrArg (fun read => Reads read (fun _ => True) supplyBytes) ?_).mp whole
  simp only [readSupply, readPair, bind_assoc, pure_bind]
  congr 1
  funext assetId
  congr 1
  funext array
  cases Amount.new ⟨ofBigEndian array.toList, ofBigEndian_lt_amount array⟩ with
  | none => rfl
  | some amount => rfl

/-- The limits of the collections of a snapshot. -/
structure Bounded (snapshot : LedgerSnapshot) : Prop where
  assets : snapshot.assets.length <= maxSnapshotAssets.toNat
  commitments : snapshot.commitments.length <= maxSnapshotIdentifiers.toNat
  spentNullifiers : snapshot.spentNullifiers.length <= maxSnapshotIdentifiers.toNat
  issuedSupply : snapshot.issuedSupply.length <= maxSnapshotAssets.toNat
  acceptedTransactions : snapshot.acceptedTransactions.length <= maxSnapshotIdentifiers.toNat

def snapshotBytes (snapshot : LedgerSnapshot) : List UInt8 :=
  [snapshot.treeDepth] ++ ((bigEndian 4 snapshot.assets.length ++
    snapshot.assets.flatMap assetBytes) ++
    ((bigEndian 4 snapshot.commitments.length ++
      snapshot.commitments.flatMap (fun id => id.bytes.toList)) ++
    ((bigEndian 4 snapshot.spentNullifiers.length ++
      snapshot.spentNullifiers.flatMap (fun id => id.bytes.toList)) ++
    ((bigEndian 4 snapshot.issuedSupply.length ++ snapshot.issuedSupply.flatMap supplyBytes) ++
    (bigEndian 4 snapshot.acceptedTransactions.length ++
      snapshot.acceptedTransactions.flatMap (fun id => id.bytes.toList))))))

theorem reads_readSnapshot :
    Reads readSnapshot (fun snapshot => Bounded snapshot /\
      forall asset, asset ∈ snapshot.assets -> asset.Built) snapshotBytes := by
  have assets := reads_counted maxSnapshotAssets (fun count => Reads.indexed reads_readAsset 0 count)
  have supply := reads_counted maxSnapshotAssets (fun count => reads_readSupply.many count)
  have fields := Reads.u8.pair (assets.pair ((reads_readIdentifiers .commitment).pair
    ((reads_readIdentifiers .nullifier).pair (supply.pair (reads_readIdentifiers .transaction)))))
  have built := fields.map
    (fun (treeDepth, assets, commitments, spentNullifiers, issuedSupply, acceptedTransactions) =>
      LedgerSnapshot.mk treeDepth assets commitments spentNullifiers issuedSupply
        acceptedTransactions)
    (fun snapshot => (snapshot.treeDepth, snapshot.assets, snapshot.commitments,
      snapshot.spentNullifiers, snapshot.issuedSupply, snapshot.acceptedTransactions))
    (fun _ _ => rfl) (fun _ _ => rfl)
  simp only [readPair, bind_assoc, pure_bind] at built
  refine built.congr ?_ (fun _ _ => rfl)
  intro snapshot
  constructor
  · intro isValid
    rcases isValid with ⟨_, assets, commitments, nullifiers, supply, transactions⟩
    exact ⟨⟨assets.1, commitments, nullifiers, supply.1, transactions⟩, assets.2⟩
  · intro isValid
    rcases isValid with ⟨bounded, isBuilt⟩
    exact ⟨trivial, ⟨bounded.assets, isBuilt⟩, bounded.commitments, bounded.spentNullifiers,
      ⟨bounded.issuedSupply, fun _ _ => trivial⟩, bounded.acceptedTransactions⟩

theorem length_assetBytes_le {asset} (built : asset.Built) : (assetBytes asset).length <= 50 := by
  have size := (ticker_of_built built).2
  simp only [assetBytes, List.length_append, Bytes.length_toList, List.length_singleton]
  omega

theorem length_supplyBytes (entry : AssetId × Amount) : (supplyBytes entry).length = 48 := by
  rw [supplyBytes, List.length_append, Bytes.length_toList, length_bigEndian]

/-- Elements of limited size. -/
theorem length_flatMap_le {encode : α -> List UInt8} {size : Nat} {values : List α}
    (sized : forall value, value ∈ values -> (encode value).length <= size) :
    (values.flatMap encode).length <= values.length * size := by
  induction values with
  | nil => exact Nat.zero_le _
  | cons head tail ih =>
    have parts := List.forall_mem_cons.mp sized
    have later := ih parts.2
    rw [List.flatMap_cons, List.length_append, List.length_cons, Nat.succ_mul]
    have here := parts.1
    omega

variable {snapshot : LedgerSnapshot}

/-- A snapshot within the limits of its collections is small enough. -/
theorem length_snapshotBytes_le (bounded : Bounded snapshot)
    (built : forall asset, asset ∈ snapshot.assets -> asset.Built) :
    (snapshotBytes snapshot).length <= maxSnapshotBytes.toNat := by
  have assets : (snapshot.assets.flatMap assetBytes).length <= snapshot.assets.length * 50 :=
    length_flatMap_le (fun asset member => length_assetBytes_le (built asset member))
  have supply : (snapshot.issuedSupply.flatMap supplyBytes).length <=
      snapshot.issuedSupply.length * 48 :=
    length_flatMap_le (fun entry _ => Nat.le_of_eq (length_supplyBytes entry))
  have assetLimit : maxSnapshotAssets.toNat = 4096 := rfl
  have identifierLimit : maxSnapshotIdentifiers.toNat = 1048576 := rfl
  have byteLimit : maxSnapshotBytes.toNat = 134217728 := rfl
  rcases bounded with ⟨assetCount, commitments, nullifiers, supplyCount, transactions⟩
  simp only [snapshotBytes, List.length_append, List.length_singleton, length_bigEndian,
    length_flatMap_identifiers]
  omega

theorem encodeSnapshot_of_bounded (bounded : Bounded snapshot)
    (built : forall asset, asset ∈ snapshot.assets -> asset.Built) :
    encodeSnapshot snapshot = .ok (snapshotBytes snapshot) := by
  have counted : forall {count : Nat} {maximum : UInt32}, count <= maximum.toNat ->
      ensureCount count maximum = .ok () /\ writeCount count = .ok (bigEndian 4 count) := by
    intro count maximum within
    exact ⟨if_neg (Nat.not_lt.mpr within), if_pos (Nat.lt_of_le_of_lt within maximum.toNat_lt)⟩
  have small := length_snapshotBytes_le bounded built
  have validated : validateSnapshotBounds snapshot = .ok () := by
    unfold validateSnapshotBounds
    rw [(counted bounded.assets).1, (counted bounded.commitments).1,
      (counted bounded.spentNullifiers).1, (counted bounded.issuedSupply).1,
      (counted bounded.acceptedTransactions).1]
    rfl
  unfold encodeSnapshot
  rw [validated, (counted bounded.assets).2, (counted bounded.commitments).2,
    (counted bounded.spentNullifiers).2, (counted bounded.issuedSupply).2,
    (counted bounded.acceptedTransactions).2]
  refine Except.refuse_eq_ok.mpr ⟨Nat.not_lt.mpr ?_, ?_⟩
  · simpa only [snapshotBytes, List.append_assoc] using small
  · simp only [snapshotBytes, List.append_assoc]

theorem decodeSnapshot_eq_ok {bytes} :
    decodeSnapshot bytes = .ok snapshot <->
      Bounded snapshot /\ snapshot.Canonical /\ bytes = snapshotBytes snapshot := by
  unfold decodeSnapshot
  simp only [Except.bind_eq_ok, Except.mapError_eq_ok, LedgerSnapshot.fromCanonicalParts_eq_ok]
  constructor
  · intro decoded
    rcases decoded with ⟨parts, parsed, rfl, canonical⟩
    rcases reads_readSnapshot.of_parse parsed with ⟨⟨bounded, _⟩, isBytes⟩
    exact ⟨bounded, canonical, isBytes⟩
  · intro isSnapshot
    rcases isSnapshot with ⟨bounded, canonical, rfl⟩
    refine ⟨snapshot, reads_readSnapshot.parse_encode ⟨bounded, canonical.assetsBuilt⟩ ?_, rfl,
      canonical⟩
    exact Nat.lt_of_le_of_lt (length_snapshotBytes_le bounded canonical.assetsBuilt) (by decide)

theorem restoredFrom_of_fromSnapshot {state}
    (restored : LedgerState.fromSnapshot snapshot = .ok state) :
    snapshot.Canonical /\ state.RestoredFrom snapshot := by
  rcases Except.bind_eq_ok.mp restored with ⟨parts, checked, _⟩
  have canonical := (LedgerSnapshot.fromCanonicalParts_eq_ok.mp checked).2
  rcases fromSnapshot_of_canonical canonical with ⟨other, again, facts⟩
  rw [restored] at again
  cases again
  exact ⟨canonical, facts⟩

section
variable [Sha256]

/-- The identifier of a ledger that was reconstructed from a small snapshot can
be computed. -/
theorem exists_stateId_of_bounded {snapshot state} (bounded : Bounded snapshot)
    (restored : LedgerState.fromSnapshot snapshot = .ok state) (genesisId : GenesisId) :
    ∃ id, state.stateId genesisId = .ok id := by
  rcases restoredFrom_of_fromSnapshot restored with ⟨canonical, facts⟩
  have listed := listing_of_restoredFrom canonical facts
  have assets : state.sortedAssets = snapshot.assets := congrArg LedgerSnapshot.assets listed
  have supply : state.sortedSupply = snapshot.issuedSupply :=
    congrArg LedgerSnapshot.issuedSupply listed
  have nullifiers : state.sortedNullifiers = snapshot.spentNullifiers :=
    congrArg LedgerSnapshot.spentNullifiers listed
  have transactions : state.sortedTransactions = snapshot.acceptedTransactions :=
    congrArg LedgerSnapshot.acceptedTransactions listed
  have small : forall {count : Nat} {maximum : UInt32}, count <= maximum.toNat -> count < 2 ^ 32 :=
    fun {_} {maximum} within => Nat.lt_of_le_of_lt within maximum.toNat_lt
  have fits : forall asset, asset ∈ snapshot.assets -> TickerFits asset := by
    intro asset member
    exact Nat.lt_of_le_of_lt (ticker_of_built (canonical.assetsBuilt asset member)).2 (by decide)
  have identifiers {kind : IdentifierKind} {ids : List (Identifier kind)}
      (within : ids.length <= maxSnapshotIdentifiers.toNat) :=
    (writeCounted_eq_ok writeIdentifier_eq_ok).mpr
      ⟨⟨small within, fun (_ : Identifier kind) (_ : _ ∈ ids) => trivial⟩, rfl⟩
  unfold LedgerState.stateId stateIdInput
  rw [assets, supply, nullifiers, transactions,
    (writeCounted_eq_ok writeAsset_eq_ok).mpr ⟨⟨small bounded.assets, fits⟩, rfl⟩,
    (writeCounted_eq_ok writeSupply_eq_ok).mpr
      ⟨⟨small bounded.issuedSupply, fun _ _ => trivial⟩, rfl⟩,
    identifiers bounded.spentNullifiers, identifiers bounded.acceptedTransactions]
  exact ⟨_, rfl⟩

/-! ## Checkpoints -/

/-- The bytes of a snapshot behind their hash. -/
theorem reads_hashedSnapshot (length : Nat) :
    Reads (readArray 32 >>= fun hash => readExact length >>= fun bytes =>
        if hash ≠ hashSnapshot bytes then throw snapshotHashMismatch
        else (pure bytes : EStateM CheckpointError Reader (List UInt8)))
      (fun bytes => bytes.length = length) (fun bytes => (hashSnapshot bytes).toList ++ bytes) := by
  have compared : forall hash : Bytes 32, True -> Reads (readExact length >>= fun bytes =>
      if hash ≠ hashSnapshot bytes then throw snapshotHashMismatch
      else (pure bytes : EStateM CheckpointError Reader (List UInt8)))
      (fun bytes => bytes.length = length /\ hashSnapshot bytes = hash) id := by
    intro hash _
    refine (Reads.exact length).decodedWhen id ?_
    intro bytes other start final
    by_cases same : hash = hashSnapshot bytes
    · rw [if_neg (not_not_intro same)]
      constructor
      · intro returned
        cases returned
        exact ⟨rfl, same.symm, rfl⟩
      · intro found
        rcases found with ⟨rfl, _, rfl⟩
        rfl
    · rw [if_pos same]
      constructor
      · intro impossible
        cases impossible
      · intro found
        rcases found with ⟨rfl, equal, _⟩
        exact absurd equal.symm same
  refine ((Reads.array 32).bind hashSnapshot compared ?_).congr ?_ (fun _ _ => rfl)
  · intro hash bytes isValid
    exact isValid.2
  · intro bytes
    exact ⟨fun isValid => isValid.2.1, fun sized => ⟨trivial, sized, rfl⟩⟩

theorem reads_readCheckpointFields :
    Reads readCheckpointFields
      (fun fields => fields.sequence ≠ 0 /\ fields.snapshotBytes.length <= maxSnapshotBytes.toNat)
      (fun fields => bodyBytes fields.genesisId fields.validationContextId fields.sequence
        fields.stateId fields.terminalRecordHash fields.snapshotBytes) := by
  have limited := Reads.limited maxSnapshotBytes
    (fun length => snapshotTooLarge length.toNat maxSnapshotBytes) List.length
    (fun length _ => reads_hashedSnapshot length.toNat)
  have inner := (Reads.array 32).pair ((Reads.array 32).pair limited)
  have bodies (sequence : UInt64) := inner.bind Prod.snd
    (fun rest _ => Reads.pure (sequence, rest)) (by
      intro rest whole same
      rw [same])
  have sequenced := Reads.u64.bind Prod.fst (fun (sequence : UInt64) (_ : True) =>
    Reads.guarded genesisCheckpointUnsupported (fun (_ : ¬sequence = 0) => bodies sequence))
    (by
      intro sequence whole isValid
      rw [isValid.2.2])
  have built := ((Reads.array 32).pair ((Reads.array 32).pair sequenced)).map
    (fun (genesisId, validationContextId, sequence, stateId, terminalRecordHash, snapshotBytes) =>
      CheckpointFields.mk ⟨genesisId⟩ ⟨validationContextId⟩ sequence ⟨stateId⟩ ⟨terminalRecordHash⟩
        snapshotBytes)
    (fun fields => (fields.genesisId.bytes, fields.validationContextId.bytes, fields.sequence,
      fields.stateId.bytes, fields.terminalRecordHash.bytes, fields.snapshotBytes))
    (fun _ _ => rfl) (fun _ _ => rfl)
  simp only [readPair, bind_assoc, pure_bind, refuse_bind] at built
  have versioned := Reads.expecting snapshotFormatVersion
    (fun number => number ≠ snapshotFormatVersion) unsupportedSnapshotVersion
    Reads.u16 built trivial (fun _ => not_ne_iff)
  have framed := Reads.framed (by decide : checkpointMagic.length = 4) checkpointFormatVersion
    invalidMagic unsupportedFormatVersion versioned
  refine framed.congr ?_ ?_
  · intro fields
    constructor
    · intro isValid
      rcases isValid with ⟨_, _, _, nonzero, ⟨_, _, small⟩, _⟩
      exact ⟨nonzero, small⟩
    · intro isValid
      exact ⟨trivial, trivial, trivial, isValid.1, ⟨trivial, trivial, isValid.2⟩, trivial⟩
  · intro fields isValid
    have small := isValid.2
    have exactSize : (UInt32.ofNat fields.snapshotBytes.length).toNat =
        fields.snapshotBytes.length := Reads.toNat_ofNat_of_le small
    simp only [bodyBytes, writeU16, writeU32, writeU64, exactSize, List.append_nil]

theorem length_bodyBytes (genesisId : GenesisId) (validationContextId : ValidationContextId)
    (sequence : UInt64) (stateId : StateId) (terminalRecordHash : RecordHash)
    (snapshotBytes : List UInt8) :
    (bodyBytes genesisId validationContextId sequence stateId terminalRecordHash
      snapshotBytes).length = headerBytes + snapshotBytes.length := by
  have magic : checkpointMagic.length = 4 := by decide
  simp only [bodyBytes, writeU16, writeU32, writeU64, List.length_append, Bytes.length_toList,
    length_bigEndian, magic, headerBytes]
  omega

namespace Checkpoint

/-- The bytes of a checkpoint within the limits. -/
def bytes (checkpoint : Checkpoint) : List UInt8 :=
  let body := bodyBytes checkpoint.genesisId checkpoint.validationContextId checkpoint.sequence
    checkpoint.stateId checkpoint.terminalRecordHash (snapshotBytes checkpoint.snapshot)
  body ++ (hashCheckpoint body).toList

theorem canonical (checkpoint : Checkpoint) : checkpoint.snapshot.Canonical := by
  rcases checkpoint.restorable with ⟨state, restored, _⟩
  exact (restoredFrom_of_fromSnapshot restored).1

variable {checkpoint : Checkpoint}

theorem encode_of_bounded (bounded : Bounded checkpoint.snapshot) :
    checkpoint.encode = .ok checkpoint.bytes := by
  unfold encode
  rw [encodeSnapshot_of_bounded bounded checkpoint.canonical.assetsBuilt]
  rfl

def fieldsOf (checkpoint : Checkpoint) : CheckpointFields :=
  ⟨checkpoint.genesisId, checkpoint.validationContextId, checkpoint.sequence, checkpoint.stateId,
    checkpoint.terminalRecordHash, snapshotBytes checkpoint.snapshot⟩

variable {fields : CheckpointFields} {snapshot : LedgerSnapshot}

theorem ofFields_eq_ok :
    ofFields fields snapshot = .ok checkpoint <->
      checkpoint.genesisId = fields.genesisId /\
        checkpoint.validationContextId = fields.validationContextId /\
        checkpoint.sequence = fields.sequence /\ checkpoint.stateId = fields.stateId /\
        checkpoint.terminalRecordHash = fields.terminalRecordHash /\
        checkpoint.snapshot = snapshot := by
  unfold ofFields
  constructor
  · intro made
    split at made
    · cases made
    split at made
    · cases made
    · split_ifs at made
      rw [← Except.ok.inj made]
      exact ⟨rfl, rfl, rfl, rfl, rfl, rfl⟩
  · intro isMade
    rcases checkpoint with ⟨genesisId, contextId, sequence, stateId, terminal, parts, restorable⟩
    rcases restorable with ⟨state, restored, identified⟩
    rcases isMade with ⟨rfl, rfl, rfl, rfl, rfl, rfl⟩
    split
    · next reason failed =>
        rw [restored] at failed
        cases failed
    next other replayed =>
      rw [restored] at replayed
      cases replayed
      split
      · next cause failed =>
          rw [identified] at failed
          cases failed
      · next computed isComputed =>
          rw [identified] at isComputed
          cases isComputed
          rw [dif_pos rfl]

theorem ofFields_ne_panic {cause} (bounded : Bounded snapshot) :
    ofFields fields snapshot ≠ .error (.panic cause) := by
  intro aborted
  unfold ofFields at aborted
  split at aborted
  · cases aborted
  next state restored =>
    rcases exists_stateId_of_bounded bounded restored fields.genesisId with ⟨id, identified⟩
    split at aborted
    · next failed =>
        rw [identified] at failed
        cases failed
    · split at aborted
      · cases aborted
      · cases aborted

/-- Decoding accepts exactly the bytes of the checkpoints within the limits. -/
theorem decode_eq_ok {encoded} :
    decode encoded = .ok checkpoint <->
      Bounded checkpoint.snapshot /\ checkpoint.sequence ≠ 0 /\
        checkpoint.snapshot.acceptedTransactions.length = checkpoint.sequence.toNat /\
        encoded = checkpoint.bytes := by
  unfold decode
  simp only [Except.refuse_eq_ok, Except.bind_eq_ok, Except.mapError_eq_ok, not_not,
    decodeSnapshot_eq_ok, ofFields_eq_ok]
  constructor
  · intro decoded
    rcases decoded with ⟨_, _, fields, parsed, snapshot, ⟨bounded, _, _⟩, counted, made, isMade,
      bytes, isEncoded, rfl, same⟩
    cases same
    rcases isMade with ⟨_, _, sameSequence, _, _, rfl⟩
    rw [encode_of_bounded bounded] at isEncoded
    rw [sameSequence]
    exact ⟨bounded, (reads_readCheckpointFields.of_parse parsed).1.1, counted,
      (Except.ok.inj isEncoded).symm⟩
  · intro isCheckpoint
    rcases isCheckpoint with ⟨bounded, nonzero, counted, rfl⟩
    have small := length_snapshotBytes_le bounded checkpoint.canonical.assetsBuilt
    have size := length_bodyBytes checkpoint.genesisId checkpoint.validationContextId
      checkpoint.sequence checkpoint.stateId checkpoint.terminalRecordHash
      (snapshotBytes checkpoint.snapshot)
    have whole : checkpoint.bytes.length - checkpointHashBytes =
        headerBytes + (snapshotBytes checkpoint.snapshot).length := by
      rw [bytes, List.length_append, size, Bytes.length_toList]
      rfl
    refine ⟨?_, ?_, fieldsOf checkpoint, ?_, checkpoint.snapshot,
      ⟨bounded, checkpoint.canonical, rfl⟩, counted, checkpoint, ⟨rfl, rfl, rfl, rfl, rfl, rfl⟩,
      checkpoint.bytes, encode_of_bounded bounded, rfl, rfl⟩
    · rw [bytes, List.length_append, size, Bytes.length_toList]
      exact Nat.not_lt.mpr (Nat.add_le_add_right (Nat.le_add_right _ _) _)
    · rw [whole, bytes, List.drop_left' size, List.take_left' size]
    · rw [whole, bytes, List.take_left' size]
      have valid : (fieldsOf checkpoint).sequence ≠ 0 /\
          (fieldsOf checkpoint).snapshotBytes.length <= maxSnapshotBytes.toNat := ⟨nonzero, small⟩
      have short := Nat.lt_of_le_of_lt (Nat.add_le_add_left small headerBytes)
        (by decide : headerBytes + maxSnapshotBytes.toNat < 2 ^ 64)
      have read := reads_readCheckpointFields.parse_encode valid
      exact read (size.trans_lt short)

/-- No file makes the decoder abort: after the limits were checked the identifier
of the ledger is computed and the checkpoint is encoded again. -/
theorem decode_ne_panic (encoded : List UInt8) (cause : Panic) :
    decode encoded ≠ .error (.panic cause) := by
  intro aborted
  rcases Except.refuse_eq_panic.mp aborted with ⟨_, aborted⟩
  rcases Except.refuse_eq_panic.mp aborted with ⟨_, aborted⟩
  rcases Except.bind_eq_error.mp aborted with unread | ⟨fields, _, aborted⟩
  · exact Except.mapError_ne_panic unread
  rcases Except.bind_eq_error.mp aborted with undecoded | ⟨snapshot, decoded, aborted⟩
  · exact Except.mapError_ne_panic undecoded
  rcases Except.refuse_eq_panic.mp aborted with ⟨_, aborted⟩
  have bounded := (decodeSnapshot_eq_ok.mp (Except.mapError_eq_ok.mp decoded)).1
  rcases Except.bind_eq_error.mp aborted with unmade | ⟨checkpoint, made, aborted⟩
  · exact ofFields_ne_panic bounded unmade
  rw [← (ofFields_eq_ok.mp made).2.2.2.2.2] at bounded
  rw [encode_of_bounded bounded] at aborted
  rcases Except.refuse_eq_panic.mp aborted with ⟨_, impossible⟩
  cases impossible

omit [Sha256] in
theorem validateSnapshotBounds_eq_ok :
    validateSnapshotBounds snapshot = .ok () <-> Bounded snapshot := by
  simp only [validateSnapshotBounds, ensureCount, Except.bind_eq_ok, Except.refuse_eq_ok,
    Nat.not_lt]
  constructor
  · intro validated
    rcases validated with ⟨_, ⟨assets, _⟩, _, ⟨commitments, _⟩, _, ⟨spent, _⟩, _, ⟨supply, _⟩,
      accepted, _⟩
    exact ⟨assets, commitments, spent, supply, accepted⟩
  · intro bounded
    exact ⟨(), ⟨bounded.assets, trivial⟩, (), ⟨bounded.commitments, trivial⟩, (),
      ⟨bounded.spentNullifiers, trivial⟩, (), ⟨bounded.issuedSupply, trivial⟩,
      bounded.acceptedTransactions, trivial⟩

variable {anchor : ChainAnchor} {sequence : UInt64}

/-- What a capture needs, and what it holds. -/
theorem fromSnapshot_eq_ok {terminalRecordHash}
    (captured : fromSnapshot anchor sequence terminalRecordHash snapshot = .ok checkpoint) :
    sequence ≠ 0 /\ snapshot.acceptedTransactions.length = sequence.toNat /\ Bounded snapshot /\
      checkpoint.genesisId = anchor.genesisId /\
      checkpoint.validationContextId = anchor.validationContextId /\
      checkpoint.sequence = sequence /\ checkpoint.snapshot = snapshot := by
  rcases Except.refuse_eq_ok.mp captured with ⟨nonzero, captured⟩
  rcases Except.refuse_eq_ok.mp captured with ⟨counted, captured⟩
  rcases Except.bind_eq_ok.mp captured with ⟨_, validated, captured⟩
  have bounded := validateSnapshotBounds_eq_ok.mp (Except.mapError_eq_ok.mp validated)
  split at captured
  · cases captured
  · split at captured
    · cases captured
    · cases captured
      exact ⟨nonzero, not_not.mp counted, bounded, rfl, rfl, rfl, rfl⟩

theorem exists_fromSnapshot (anchor : ChainAnchor) (terminalRecordHash : RecordHash) {state}
    (nonzero : sequence ≠ 0) (counted : snapshot.acceptedTransactions.length = sequence.toNat)
    (bounded : Bounded snapshot) (restored : LedgerState.fromSnapshot snapshot = .ok state) :
    ∃ checkpoint, fromSnapshot anchor sequence terminalRecordHash snapshot = .ok checkpoint := by
  rcases exists_stateId_of_bounded bounded restored anchor.genesisId with ⟨id, identified⟩
  unfold fromSnapshot
  rw [if_neg nonzero, if_neg (not_not.mpr counted), validateSnapshotBounds_eq_ok.mpr bounded]
  dsimp only [Except.mapError, bind, Except.bind]
  split
  · next failed =>
      rw [restored] at failed
      cases failed
  next other replayed =>
    rw [restored] at replayed
    cases replayed
    split
    · next failed =>
        rw [identified] at failed
        cases failed
    · exact ⟨_, rfl⟩

theorem length_bytes_le (bounded : Bounded checkpoint.snapshot) :
    checkpoint.bytes.length <= maxCheckpointBytes := by
  have small := length_snapshotBytes_le bounded checkpoint.canonical.assetsBuilt
  rw [bytes, List.length_append, length_bodyBytes, Bytes.length_toList]
  exact Nat.add_le_add_right (Nat.add_le_add_left small _) _

theorem restoreState_of_anchor (genesis : checkpoint.genesisId = anchor.genesisId)
    (context : checkpoint.validationContextId = anchor.validationContextId) :
    ∃ state, checkpoint.restoreState anchor = .ok state /\
      LedgerState.fromSnapshot checkpoint.snapshot = .ok state := by
  rcases checkpoint.restorable with ⟨state, restored, identified⟩
  refine ⟨state, ?_, restored⟩
  unfold restoreState
  rw [if_neg (by simp [genesis, context]), restored]
  change ((state.stateId anchor.genesisId).mapError _ >>= _) = _
  rw [← genesis, identified]
  exact if_neg (not_not.mpr rfl)

end Checkpoint
end

/-- The ledger of a run within the limits is captured exactly at the number of its
accepted transactions, and the checkpoint is encoded within the limit, read back and
restored.  What the decoder accepts is the encoding of what it returns. -/
theorem checkpoints_round_trip [Sha256] :
    (forall depth start, LedgerState.new depth = .ok start -> forall calls,
      (forall asset, .registerAsset asset ∈ calls -> asset.Built) ->
      ∃ exported, (run LedgerState.step start calls).1.snapshot = .ok exported /\
        (Bounded exported -> forall anchor sequence terminalRecordHash,
          ((∃ checkpoint, Checkpoint.fromSnapshot anchor sequence terminalRecordHash exported =
              .ok checkpoint) <->
            sequence ≠ 0 /\ (run LedgerState.step start calls).2.length = sequence.toNat) /\
          forall checkpoint, Checkpoint.fromSnapshot anchor sequence terminalRecordHash exported =
              .ok checkpoint ->
            ∃ bytes restored, checkpoint.encode = .ok bytes /\ bytes.length <= maxCheckpointBytes /\
              Checkpoint.decode bytes = .ok checkpoint /\
              checkpoint.restoreState anchor = .ok restored /\
              restored.snapshot = .ok exported)) /\
    (forall bytes checkpoint, Checkpoint.decode bytes = .ok checkpoint ->
      checkpoint.encode = .ok bytes /\
        ∃ state, LedgerState.fromSnapshot checkpoint.snapshot = .ok state /\
          state.stateId checkpoint.genesisId = .ok checkpoint.stateId) := by
  constructor
  · intro depth start created calls built
    have represented := represents_of_run created calls
    have wellFormed := wellFormed_of_represents represented (soundAssets_of_run created calls built)
    rcases snapshot_of_wellFormed wellFormed with ⟨exports, restores⟩
    refine ⟨_, exports, ?_⟩
    intro bounded anchor sequence terminalRecordHash
    have counted : (run LedgerState.step start calls).1.listing.acceptedTransactions.length =
        (run LedgerState.step start calls).2.length := by
      refine (congrArg Multiset.card (coe_sortedList
        (run LedgerState.step start calls).1.acceptedTransactions)).trans ?_
      rw [represented.transactions.elements, Finset.card_val,
        List.toFinset_card_of_nodup represented.transactions.nodup, List.length_map]
    constructor
    · constructor
      · intro captures
        rcases captures with ⟨checkpoint, captured⟩
        have needs := Checkpoint.fromSnapshot_eq_ok captured
        exact ⟨needs.1, counted.symm.trans needs.2.1⟩
      · intro needs
        exact Checkpoint.exists_fromSnapshot anchor terminalRecordHash needs.1
          (counted.trans needs.2) bounded restores
    · intro checkpoint captured
      rcases Checkpoint.fromSnapshot_eq_ok captured with
        ⟨nonzero, isCount, _, genesis, context, isSequence, isSnapshot⟩
      rw [← isSnapshot] at bounded isCount restores exports
      rcases Checkpoint.restoreState_of_anchor genesis context with ⟨state, restored, isState⟩
      rw [restores] at isState
      refine ⟨checkpoint.bytes, state, Checkpoint.encode_of_bounded bounded,
        Checkpoint.length_bytes_le bounded, ?_, restored, ?_⟩
      · rw [← isSequence] at nonzero isCount
        exact Checkpoint.decode_eq_ok.mpr ⟨bounded, nonzero, isCount, rfl⟩
      · rw [← Except.ok.inj isState, exports, isSnapshot]
  · intro bytes checkpoint decoded
    rcases Checkpoint.decode_eq_ok.mp decoded with ⟨bounded, _, _, isBytes⟩
    exact ⟨(Checkpoint.encode_of_bounded bounded).trans (congrArg _ isBytes.symm),
      checkpoint.restorable⟩

end Noxis.Checkpoints
