import Noxis.Privacy.StateRecord

namespace Noxis.Privacy

open Foundation CandidatePrivateLedgerStateV1

/-!
# Ledgers that are restored from records

A ledger is restorable if its tree and its anchor are those of its snapshot and
its assets are the ones their constructor accepts.  Creating a ledger and every
accepted transfer leave a restorable ledger.  Decoding a record gives exactly the
restorable ledger whose record it is.
-/

variable {candidate : Poseidon2P24Candidate}

variable {assets : List AssetDefinition} {reference : NullifierSparseTreeReferenceV1} {A : Type}

section
variable {state next : CandidatePrivateLedgerStateV1 candidate}

theorem registerAll_eq_ok :
    registerAll assets state = .ok () next <->
      (assets.map AssetDefinition.id).Nodup /\
        (forall asset, asset ∈ assets -> asset.id ∉ state.assets) /\
        next = { state with
          assets := insertAll state.assets (assets.map (fun asset => (asset.id, asset))) } := by
  induction assets generalizing state with
  | nil =>
    constructor
    · intro done
      cases done
      exact ⟨List.nodup_nil, nofun, rfl⟩
    · intro done
      rw [done.2.2]
      rfl
  | cons asset rest ih =>
    rw [registerAll, bind_eq_ok]
    simp only [List.map_cons, List.nodup_cons, List.forall_mem_cons]
    constructor
    · intro done
      rcases done with ⟨_, middle, registered, later⟩
      rw [CandidatePrivateLedgerStateV1.registerAsset, get_bind] at registered
      split at registered
      · cases registered
      rename_i fresh
      cases registered
      rcases ih.mp later with ⟨distinct, others, isNext⟩
      refine ⟨⟨?_, distinct⟩, ⟨fresh, ?_⟩, isNext⟩
      · grind [Finmap.mem_insert]
      grind [Finmap.mem_insert]
    · intro done
      rcases done with ⟨⟨single, distinct⟩, ⟨fresh, others⟩, isNext⟩
      refine ⟨(), { state with assets := state.assets.insert asset.id asset }, ?_, ?_⟩
      · rw [CandidatePrivateLedgerStateV1.registerAsset, get_bind, if_neg fresh]
        rfl
      · refine ih.mpr ⟨distinct, ?_, isNext⟩
        grind [Finmap.mem_insert]

theorem withAssets_eq_ok :
    withAssets assets state = .ok next <-> registerAll assets state = .ok () next := by
  grind [withAssets]

theorem treeOfSnapshot_eq_ok {reference : NullifierSparseTreeReferenceV1}
    {snapshot : CandidatePrivateStateSnapshotV1 candidate} {tree : NullifierSparseTreeStateV1} :
    treeOfSnapshot reference snapshot = .ok tree <->
      StoresSet reference tree snapshot.spentSet := by
  rcases @exists_markAll_snapshot _ reference snapshot with ⟨rebuilt, done, stores⟩
  rw [treeOfSnapshot, done, Except.ok.injEq]
  constructor
  · intro same
    rw [← same]
    exact stores
  · intro otherStores
    exact stores.unique otherStores

/-- A snapshot is made again from its own lists. -/
theorem CandidatePrivateStateSnapshotV1.new_self
    (snapshot : CandidatePrivateStateSnapshotV1 candidate) :
    CandidatePrivateStateSnapshotV1.new snapshot.commitments snapshot.spentNullifiers =
      .ok snapshot := by
  rcases @CandidatePrivateStateSnapshotV1.exists_new candidate _ _ snapshot.bounded
    snapshot.distinct (snapshot.sorted.imp (fun before => before.ne)) with ⟨made, isMade⟩
  rcases CandidatePrivateStateSnapshotV1.of_new_eq_ok isMade with ⟨sameCommitments, permuted⟩
  have same : made = snapshot := by
    apply CandidatePrivateStateSnapshotV1.ext sameCommitments
    · exact List.Pairwise.eq_of_mem_iff made.sorted snapshot.sorted (fun _ => permuted.mem_iff)
    · rw [made.isRoot, snapshot.isRoot, sameCommitments]
  rw [isMade, same]

end

section
variable [Sha256] {state : CandidatePrivateLedgerStateV1 candidate} {genesisId : GenesisId}
  {validationContextId : ValidationContextId} {noteTreeParameters : TreeParametersV2}
  {snapshot : CandidatePrivateStateSnapshotV1 candidate}

/-- The anchor of a created ledger is made from its own parts. -/
theorem anchored_of_new {tree}
    (created : CandidatePrivateLedgerStateV1.new reference genesisId validationContextId
      noteTreeParameters snapshot tree = .ok state) :
    PrivateStateAnchorV2.new reference state.anchor.genesisId state.anchor.validationContextId
        state.anchor.noteTreeParameters state.snapshot state.nullifierTree = .ok state.anchor /\
      state.assets = ∅ := by
  rcases Except.bind_eq_ok.mp created with ⟨anchor, made, isLedger⟩
  have made := Except.mapError_eq_ok.mp made
  have identities := identities_of_new made
  rw [← Except.ok.inj isLedger]
  dsimp only
  rw [identities.1, identities.2.1, identities.2.2]
  exact ⟨made, rfl⟩

/-- A ledger whose tree and anchor are made from its snapshot, and whose assets
are registered under their own identifiers. -/
structure Restorable (reference : NullifierSparseTreeReferenceV1)
    (state : CandidatePrivateLedgerStateV1 candidate) : Prop where
  stores : StoresSet reference state.nullifierTree state.snapshot.spentSet
  anchored : PrivateStateAnchorV2.new reference state.anchor.genesisId
    state.anchor.validationContextId state.anchor.noteTreeParameters state.snapshot
    state.nullifierTree = .ok state.anchor
  registered : forall id asset, state.assets.lookup id = some asset ->
    asset.id = id /\ asset.Built

omit [Sha256] in
/-- Assets with increasing identifiers are listed as they were registered. -/
theorem sortedEntries_registered
    (increasing : assets.Pairwise (fun left right => left.id < right.id)) :
    sortedEntries (insertAll ∅ (assets.map (fun asset => (asset.id, asset)))) =
      assets.map (fun asset => (asset.id, asset)) := by
  grind [sortedEntries_insertAll]

omit [Sha256] in
/-- Registered assets are found under their own identifiers. -/
theorem registered_of_increasing
    (increasing : assets.Pairwise (fun left right => left.id < right.id))
    (built : forall asset, asset ∈ assets -> asset.Built) (id : AssetId) (asset : AssetDefinition)
    (found : (insertAll ∅ (assets.map (fun asset => (asset.id, asset)))).lookup id = some asset) :
    asset.id = id /\ asset.Built := by
  have isEntry : (id, asset) ∈ sortedEntries _ := mem_sortedEntries.mpr found
  grind [sortedEntries_registered]

/-- The ledger that valid fields describe, if it is made. -/
theorem rebuildLedger_eq_ok {fields : PrivateStateRecordFields} (isValid : ValidFields fields)
    (rebuilt : rebuildLedger reference fields = .ok state) : Restorable reference state := by
  have increasing : fields.assets.Pairwise (fun left right => left.id < right.id) := by
    grind [ValidFields.ordered]
  unfold rebuildLedger at rebuilt
  simp only [Except.bind_eq_ok, Except.mapError_eq_ok, treeOfSnapshot_eq_ok, Except.refuse_eq_ok,
    withAssets_eq_ok, registerAll_eq_ok] at rebuilt
  rcases rebuilt with ⟨snapshot, _, tree, stores, created, isCreated, _, _, _, rfl⟩
  have anchored := anchored_of_new isCreated
  rcases Except.bind_eq_ok.mp isCreated with ⟨anchor, _, isLedger⟩
  have isLedger := Except.ok.inj isLedger
  subst isLedger
  constructor
  case stores => exact stores
  case anchored => exact anchored.1
  case registered => exact registered_of_increasing increasing isValid.built

variable {asset : AssetDefinition}

omit [Sha256] in
/-- The listed assets are those of the registry. -/
theorem mem_assetList : asset ∈ state.assetList <->
    ∃ id, state.assets.lookup id = some asset := by
  simp [assetList]

namespace Restorable

variable (restorable : Restorable reference state)

include restorable

theorem built {asset} (listed : asset ∈ state.assetList) : asset.Built := by
  rcases mem_assetList.mp listed with ⟨id, found⟩
  exact (restorable.registered id asset found).2

/-- The assets stand in the registry under their own identifiers. -/
theorem map_assetList :
    state.assetList.map (fun asset => (asset.id, asset)) = sortedEntries state.assets := by
  rw [assetList, List.map_map]
  nth_rewrite 2 [← List.map_id (sortedEntries state.assets)]
  apply List.map_congr_left
  intro entry listed
  rw [Function.comp_apply, (restorable.registered entry.1 entry.2 (mem_sortedEntries.mp listed)).1]
  rfl

/-- The registry is determined by the listed assets. -/
theorem assets_eq {other : CandidatePrivateLedgerStateV1 candidate}
    (otherRestorable : Restorable reference other)
    (same : state.assetList = other.assetList) : state.assets = other.assets := by
  rw [← insertAll_sortedEntries state.assets, ← insertAll_sortedEntries other.assets,
    ← restorable.map_assetList, ← otherRestorable.map_assetList, same]

theorem increasing : state.assetList.Pairwise (fun left right => left.id < right.id) := by
  grind [pairwise_sortedEntries, map_assetList]

theorem validFields (fits : FitsRecord state) : ValidFields (fieldsOf state) where
  commitments := state.snapshot.bounded
  nullifiers := fits.nullifiers
  assets := fits.assets
  ordered := restorable.increasing.isChain
  built := fun _ listed => restorable.built listed

theorem encode_eq (fits : FitsRecord state) :
    encodeCandidatePrivateLedgerState state = .ok (recordOf state) := by
  apply encodeCandidatePrivateLedgerState_eq_ok.mpr
  refine ⟨fits, ?_, rfl⟩
  intro asset listed
  exact Nat.lt_of_le_of_lt (Codec.ticker_of_built (restorable.built listed)).2 (by decide)

theorem rebuildLedger_fieldsOf : rebuildLedger reference (fieldsOf state) = .ok state := by
  have distinct : (state.assetList.map AssetDefinition.id).Nodup := by
    apply List.pairwise_map.mpr
    exact restorable.increasing.imp (fun before => before.ne)
  unfold rebuildLedger
  simp only [Except.bind_eq_ok, Except.mapError_eq_ok, treeOfSnapshot_eq_ok, Except.refuse_eq_ok,
    withAssets_eq_ok, registerAll_eq_ok]
  refine ⟨state.snapshot, state.snapshot.new_self, state.nullifierTree, restorable.stores,
    { state with assets := ∅ }, ?_, not_not.mpr rfl, distinct, ?_, ?_⟩
  · exact Except.bind_eq_ok.mpr ⟨state.anchor, Except.mapError_eq_ok.mpr restorable.anchored, rfl⟩
  · intro asset _
    exact Finmap.notMem_empty
  · change state = { state with assets := insertAll ∅ (state.assetList.map _) }
    rw [restorable.map_assetList, insertAll_sortedEntries]

theorem length_recordOf_le (fits : FitsRecord state) :
    (recordOf state).length <= privateStateRecordMaxBytes := by
  rw [recordOf, List.length_append, Bytes.length_toList]
  exact length_fieldBytes_le (restorable.validFields fits)

end Restorable

variable {bytes : List UInt8}

/-- Decoding accepts exactly the records of restorable ledgers. -/
theorem decodeCandidatePrivateLedgerState_eq_ok :
    decodeCandidatePrivateLedgerState reference bytes = .ok state <->
      Restorable reference state /\ FitsRecord state /\ bytes = recordOf state := by
  unfold decodeCandidatePrivateLedgerState
  simp only [Except.refuse_eq_ok, Except.bind_eq_ok, Except.mapError_eq_ok, Except.ok.injEq,
    not_not]
  constructor
  · intro decoded
    rcases decoded with ⟨_, _, fields, parsed, found, rebuilt, encoded, isEncoded, same, rfl⟩
    rcases encodeCandidatePrivateLedgerState_eq_ok.mp isEncoded with ⟨fits, _, isRecord⟩
    exact ⟨rebuildLedger_eq_ok (reads_readRecordFields.of_parse parsed).1 rebuilt, fits,
      same.symm.trans isRecord⟩
  · intro isRecord
    rcases isRecord with ⟨restorable, fits, rfl⟩
    have isValid := restorable.validFields fits
    have atMost := length_fieldBytes_le isValid
    have atLeast := length_fieldBytes (fieldsOf state)
    have total : (recordOf state).length =
        (fieldBytes (fieldsOf state)).length + recordChecksumLength := by
      rw [recordOf, List.length_append, Bytes.length_toList]
      rfl
    have cut : (recordOf state).length - recordChecksumLength =
        (fieldBytes (fieldsOf state)).length := by
      rw [total, Nat.add_sub_cancel]
    have body : (recordOf state).take (fieldBytes (fieldsOf state)).length =
        fieldBytes (fieldsOf state) := List.take_left
    have checksum : (recordOf state).drop (fieldBytes (fieldsOf state)).length =
        (recordChecksum (fieldBytes (fieldsOf state))).toList := List.drop_left
    have small : (fieldBytes (fieldsOf state)).length < 2 ^ 64 :=
      Nat.lt_of_le_of_lt (Nat.le_of_add_right_le atMost) (by decide)
    rw [cut, body, checksum]
    refine ⟨by omega, rfl, fieldsOf state, reads_readRecordFields.parse_encode isValid small,
      state, restorable.rebuildLedger_fieldsOf, recordOf state, restorable.encode_eq fits, rfl, rfl⟩

/-- There is a restorable ledger with any distinct commitments and nullifiers. -/
theorem exists_restorable (candidate : Poseidon2P24Candidate)
    (reference : NullifierSparseTreeReferenceV1) (genesisId : GenesisId)
    (validationContextId : ValidationContextId) (treeParameters : TreeParametersV2) {commitments}
    (few : commitments.length <= candidatePrivateStateMaxNotes) (distinct : commitments.Nodup)
    {nullifiers} (distinctSpent : nullifiers.Nodup)
    (increasing : assets.Pairwise (fun left right => left.id < right.id))
    (built : forall asset, asset ∈ assets -> asset.Built) :
    ∃ state : CandidatePrivateLedgerStateV1 candidate, Restorable reference state /\
      state.anchor.genesisId = genesisId /\
      state.anchor.validationContextId = validationContextId /\
      state.anchor.noteTreeParameters = treeParameters /\
      state.snapshot.commitments = commitments /\
      state.snapshot.spentNullifiers.Perm nullifiers /\ state.assetList = assets := by
  rcases @CandidatePrivateStateSnapshotV1.exists_new candidate _ _ few distinct distinctSpent with
    ⟨snapshot, isSnapshot⟩
  rcases CandidatePrivateStateSnapshotV1.of_new_eq_ok isSnapshot with ⟨commitmentsSame, permuted⟩
  rcases @exists_markAll_snapshot _ reference snapshot with ⟨tree, _, stores⟩
  rcases @exists_new_of_storesSet candidate reference _ genesisId validationContextId treeParameters
    snapshot tree stores with ⟨anchor, made⟩
  have identities := identities_of_new made
  refine ⟨⟨insertAll ∅ (assets.map (fun asset => (asset.id, asset))), snapshot, tree, anchor⟩,
    ⟨stores, ?_, registered_of_increasing increasing built⟩, identities.1, identities.2.1,
    identities.2.2, commitmentsSame, permuted, ?_⟩
  · grind
  · rw [assetList, sortedEntries_registered increasing, List.map_map]
    exact List.map_id assets

/-- A ledger that has exactly what another has, two more commitments and two more
spent nullifiers. -/
structure Continues (before after : CandidatePrivateLedgerStateV1 candidate)
    (inputs : Fin 2 -> NullifierV2) (outputs : Fin 2 -> NoteCommitmentV2) : Prop where
  commitments : after.snapshot.commitments = before.snapshot.commitments ++ [outputs 0, outputs 1]
  spent : after.snapshot.spentSet = before.snapshot.spentSet ∪ {inputs 0, inputs 1}
  genesisId : after.anchor.genesisId = before.anchor.genesisId
  validationContextId : after.anchor.validationContextId = before.anchor.validationContextId
  treeParameters : after.anchor.noteTreeParameters = before.anchor.noteTreeParameters
  assets : after.assets = before.assets

variable {next : CandidatePrivateLedgerStateV1 candidate}

/-- A ledger whose tree and anchor are made from its snapshot.  The constructor of
its assets may refuse them. -/
structure Coherent (reference : NullifierSparseTreeReferenceV1)
    (state : CandidatePrivateLedgerStateV1 candidate) : Prop where
  stores : StoresSet reference state.nullifierTree state.snapshot.spentSet
  anchored : PrivateStateAnchorV2.new reference state.anchor.genesisId
    state.anchor.validationContextId state.anchor.noteTreeParameters state.snapshot
    state.nullifierTree = .ok state.anchor
  keyed : forall id asset, state.assets.lookup id = some asset -> asset.id = id

theorem Restorable.coherent (restorable : Restorable reference state) : Coherent reference state :=
  ⟨restorable.stores, restorable.anchored,
    fun id asset found => (restorable.registered id asset found).1⟩

variable {request : CandidatePrivateTransferRequestV1 A}
  {authorizer : CandidatePrivateTransferAuthorizer A}
  {receipt : CandidatePrivateTransferAdmissionReceiptV1}

theorem Coherent.continues_of_applyTransfer (coherent : Coherent reference state)
    (accepted : CandidatePrivateLedgerStateV1.applyTransfer reference request authorizer state =
      .ok receipt next) :
    Coherent reference next /\ Continues state next request.intent.nullifiers
      (fun index => (request.intent.outputs index).commitment) := by
  rcases exists_transition_of_applyTransfer accepted with ⟨transition, _, isApplied, rfl, _⟩
  rcases applied_of_apply_eq_ok isApplied with ⟨applied, made⟩
  have identities := identities_of_new made
  have stores := (coherent.stores.of_markAll_eq_ok applied.marked).2
  have spent := spentSet_of_perm applied.spent
  rw [← spent] at stores
  refine ⟨⟨stores, ?_, coherent.keyed⟩, applied.commitments, ?_, identities.1, identities.2.1,
    identities.2.2, rfl⟩
  · grind
  · change transition.postSnapshot.spentSet = _
    rw [spent, PrivateTransferIntentV2.nullifierList, List.toFinset_cons, List.toFinset_cons,
      List.toFinset_nil, insert_empty_eq]

theorem Restorable.continues_of_applyTransfer (restorable : Restorable reference state)
    (accepted : CandidatePrivateLedgerStateV1.applyTransfer reference request authorizer state =
      .ok receipt next) :
    Restorable reference next /\ Continues state next request.intent.nullifiers
      (fun index => (request.intent.outputs index).commitment) := by
  rcases restorable.coherent.continues_of_applyTransfer accepted with ⟨coherent, continues⟩
  refine ⟨⟨coherent.stores, coherent.anchored, ?_⟩, continues⟩
  rw [continues.assets]
  exact restorable.registered

theorem Coherent.registerAsset (coherent : Coherent reference state)
    (registered : CandidatePrivateLedgerStateV1.registerAsset asset state = .ok () next) :
    Coherent reference next := by
  rw [CandidatePrivateLedgerStateV1.registerAsset, get_bind] at registered
  split at registered
  · cases registered
  cases registered
  refine ⟨coherent.stores, coherent.anchored, ?_⟩
  intro id stored found
  by_cases same : id = asset.id
  · grind [Finmap.lookup_insert]
  · rw [Finmap.lookup_insert_of_ne _ same] at found
    exact coherent.keyed id stored found

theorem Coherent.privateStep (coherent : Coherent reference state) (call : PrivateLedgerCall A) :
    Coherent reference (privateStep reference state call).1 := by
  cases call with
  | registerAsset asset =>
    rw [Privacy.privateStep]
    cases outcome : CandidatePrivateLedgerStateV1.registerAsset asset state with
    | ok _ next => exact coherent.registerAsset outcome
    | error reason next =>
      rw [keepsOnFailure_registerAsset asset state reason next outcome]
      exact coherent
  | applyTransfer request authorizer =>
    rw [Privacy.privateStep]
    cases outcome : CandidatePrivateLedgerStateV1.applyTransfer reference request authorizer
      state with
    | ok receipt next => exact (coherent.continues_of_applyTransfer outcome).1
    | error reason next =>
      rw [keepsOnFailure_applyTransfer request authorizer state reason next outcome]
      exact coherent

/-- Every ledger that is created and changed by calls is coherent, or its first
tree collides with the tree of its snapshot. -/
theorem coherent_of_run {marked ledger}
    (created : CandidatePrivateLedgerStateV1.new reference genesisId validationContextId
      noteTreeParameters snapshot (markEach reference .newCandidate marked) = .ok ledger)
    (calls : List (PrivateLedgerCall A)) :
    Coherent reference (run (Privacy.privateStep reference) ledger calls).1 ∨
      (TreesCollide reference (markEach reference .newCandidate marked)
          (markEach reference .newCandidate snapshot.spentNullifiers) ∨
        TreesCollide reference (markEach reference .newCandidate snapshot.spentNullifiers)
          (markEach reference .newCandidate marked)) := by
  rcases synchronized_of_new created with synchronized | collide
  · left
    have anchored := anchored_of_new created
    have initial : Coherent reference ledger := by
      refine ⟨synchronized.stores, anchored.1, ?_⟩
      intro id asset found
      rw [anchored.2, Finmap.lookup_empty] at found
      cases found
    exact run_invariant (Privacy.privateStep reference) (fun reached _ => Coherent reference reached)
      initial calls (fun _ _ call _ coherent => coherent.privateStep call)
  · exact Or.inr collide

/-- A ledger that is read back from its own record is restorable. -/
theorem Coherent.restorable (coherent : Coherent reference state)
    {rebuilt : CandidatePrivateLedgerStateV1 candidate}
    (encoded : encodeCandidatePrivateLedgerState state = .ok bytes)
    (decoded : decodeCandidatePrivateLedgerState reference bytes = .ok rebuilt) :
    Restorable reference state /\ FitsRecord state := by
  rcases encodeCandidatePrivateLedgerState_eq_ok.mp encoded with ⟨fits, short, isRecord⟩
  rcases decodeCandidatePrivateLedgerState_eq_ok.mp decoded with ⟨restorable, rebuiltFits, sameRecord⟩
  have sameBytes : fieldBytes (fieldsOf state) = fieldBytes (fieldsOf rebuilt) := by
    rw [isRecord, recordOf, recordOf] at sameRecord
    exact (List.append_inj' sameRecord (by rw [Bytes.length_toList, Bytes.length_toList])).1
  have stateFits : FieldsFit (fieldsOf state) :=
    ⟨Nat.lt_of_le_of_lt state.snapshot.bounded (by decide),
      Nat.lt_of_le_of_lt fits.nullifiers (by decide), Nat.lt_of_le_of_lt fits.assets (by decide),
      short⟩
  have same := fieldBytes_injective stateFits (restorable.validFields rebuiltFits).fit sameBytes
  have sameAssets : state.assetList = rebuilt.assetList :=
    congrArg PrivateStateRecordFields.assets same
  refine ⟨⟨coherent.stores, coherent.anchored, ?_⟩, fits⟩
  intro id asset found
  have listed : asset ∈ rebuilt.assetList := by
    rw [← sameAssets]
    exact mem_assetList.mpr ⟨id, found⟩
  exact ⟨coherent.keyed id asset found, restorable.built listed⟩

/-! ## Identities -/

/-- The bytes whose hash is the identity of a ledger. -/
def identityInput (anchor : PrivateStateAnchorV2) : List UInt8 :=
  utf8 "NOXIS/PRIVATE-STATE-ID/V2\x00" ++ anchor.encode

theorem Coherent.stateId_eq (coherent : Coherent reference state) :
    state.anchor.stateId = ⟨Sha256.digest (identityInput state.anchor)⟩ := by
  rcases Except.bind_eq_ok.mp coherent.anchored with ⟨root, _, isAnchor⟩
  have isAnchor := Except.ok.inj isAnchor
  rw [← isAnchor]
  rfl

omit [Sha256] in
/-- Different numbers of notes make different inputs. -/
theorem nextLeafIndex_of_identityInput {left right}
    (same : identityInput left = identityInput right) :
    left.nextLeafIndex = right.nextLeafIndex := by
  have same : left.encode = right.encode := List.append_cancel_left same
  unfold PrivateStateAnchorV2.encode at same
  have roots {first second : NullifierSparseRootV1} :
      first.bytes.toList.length = second.bytes.toList.length := by
    rw [Bytes.length_toList, Bytes.length_toList]
  have noteRoots {first second : MerkleRootV2} :
      first.bytes.toList.length = second.bytes.toList.length := by
    rw [Bytes.length_toList, Bytes.length_toList]
  have numbers {first second : Nat} : (bigEndian 8 first).length = (bigEndian 8 second).length := by
    rw [length_bigEndian, length_bigEndian]
  have withoutNullifierRoot := (List.append_inj' same roots).1
  have withoutCount := (List.append_inj' withoutNullifierRoot numbers).1
  have withoutNoteRoot := (List.append_inj' withoutCount noteRoots).1
  have small (anchor : PrivateStateAnchorV2) : anchor.nextLeafIndex < 256 ^ 8 :=
    Nat.lt_of_le_of_lt anchor.bounded (by decide)
  exact bigEndian_injective (small left) (small right) (List.append_inj' withoutNoteRoot numbers).2

variable {inputs : Fin 2 -> NullifierV2} {outputs : Fin 2 -> NoteCommitmentV2}

/-- A ledger and the one after a transfer have different identities, or their
inputs collide. -/
theorem Coherent.collides_of_continues {next} (coherent : Coherent reference state)
    (nextCoherent : Coherent reference next) (continues : Continues state next inputs outputs)
    (same : next.anchor.stateId = state.anchor.stateId) :
    Collides Sha256.digest (identityInput next.anchor) (identityInput state.anchor) := by
  have index := (anchorsState_of_new coherent.anchored).nextLeafIndex
  have nextIndex := (anchorsState_of_new nextCoherent.anchored).nextLeafIndex
  rw [continues.commitments, List.length_append, List.length_cons, List.length_singleton]
    at nextIndex
  constructor
  · intro sameInput
    have sameIndex := nextLeafIndex_of_identityInput sameInput
    omega
  · rw [nextCoherent.stateId_eq, coherent.stateId_eq] at same
    exact congrArg Identifier.bytes same

omit [Sha256] in
theorem snapshot_eq_of_spentSet {left right : CandidatePrivateStateSnapshotV1 candidate}
    (commitments : left.commitments = right.commitments) (spent : left.spentSet = right.spentSet) :
    left = right := by
  apply CandidatePrivateStateSnapshotV1.ext commitments
  · apply List.Pairwise.eq_of_mem_iff left.sorted right.sorted
    intro nullifier
    rw [← List.mem_toFinset, ← List.mem_toFinset]
    exact iff_of_eq (congrArg (nullifier ∈ ·) spent)
  · rw [left.isRoot, right.isRoot, commitments]

/-- A transfer of two notes that starts from a ledger. -/
def intentFrom (state : CandidatePrivateLedgerStateV1 candidate) (asset : AssetId)
    {inputs : Fin 2 -> NullifierV2} {outputs : Fin 2 -> NoteCommitmentV2}
    (orderedInputs : inputs 0 < inputs 1) (orderedOutputs : outputs 0 < outputs 1) :
    PrivateTransferIntentV2 where
  circuitId := ⟨Bytes.replicate 32 0⟩
  genesisId := state.anchor.genesisId
  validationContextId := state.anchor.validationContextId
  preStateId := state.anchor.stateId
  treeParameters := state.anchor.noteTreeParameters
  preStateRoot := state.anchor.noteRoot
  assetId := asset
  nullifiers := inputs
  outputs := fun index => ⟨outputs index, .ofDigest (fun _ => 0)⟩
  orderedNullifiers := orderedInputs
  orderedOutputs := orderedOutputs

/-- The ledger that continues another is the result of a transfer, if the asset
is registered and the nullifiers were unspent. -/
theorem Restorable.applyTransfer_of_continues (restorable : Restorable reference state)
    (nextRestorable : Restorable reference next) {asset : AssetId}
    (continues : Continues state next inputs outputs) (registered : asset ∈ state.assets)
    (orderedInputs : inputs 0 < inputs 1) (orderedOutputs : outputs 0 < outputs 1)
    (unspent : forall index, inputs index ∉ state.snapshot.spentNullifiers) :
    ∃ receipt, CandidatePrivateLedgerStateV1.applyTransfer reference
      ⟨intentFrom state asset orderedInputs orderedOutputs, ()⟩ (fun _ _ _ _ => .ok ()) state =
        .ok receipt next := by
  have starts : state.anchor.assertMatchesIntent
      (intentFrom state asset orderedInputs orderedOutputs) = .ok () := by
    simp [PrivateStateAnchorV2.assertMatchesIntent, intentFrom]
  have listed : state.snapshot.commitments ++
      (intentFrom state asset orderedInputs orderedOutputs).outputCommitments =
        next.snapshot.commitments := continues.commitments.symm
  rcases exists_apply restorable.stores restorable.anchored starts unspent
    (by rw [listed]; exact next.snapshot.bounded) (by rw [listed]; exact next.snapshot.distinct)
    with ⟨transition, isApplied⟩
  rcases applied_of_apply_eq_ok isApplied with ⟨applied, made⟩
  have spent : transition.postSnapshot.spentSet = next.snapshot.spentSet := by
    rw [spentSet_of_perm applied.spent, continues.spent, PrivateTransferIntentV2.nullifierList,
      List.toFinset_cons, List.toFinset_cons, List.toFinset_nil, insert_empty_eq]
    rfl
  have sameSnapshot : transition.postSnapshot = next.snapshot :=
    snapshot_eq_of_spentSet (applied.commitments.trans listed) spent
  have sameTree : transition.postTree = next.nullifierTree := by
    have stores := (restorable.stores.of_markAll_eq_ok applied.marked).2
    rw [← spentSet_of_perm applied.spent, spent] at stores
    exact stores.unique nextRestorable.stores
  have sameAnchor : transition.postAnchor = next.anchor := by
    rw [sameSnapshot, sameTree, ← continues.genesisId, ← continues.validationContextId,
      ← continues.treeParameters, nextRestorable.anchored] at made
    exact (Except.ok.inj made).symm
  have accepted := @applyTransfer_of_apply candidate Unit _ reference state transition
    ⟨intentFrom state asset orderedInputs orderedOutputs, ()⟩ (fun _ _ _ _ => .ok ()) registered isApplied rfl
  rw [sameSnapshot, sameTree, sameAnchor, ← continues.assets] at accepted
  exact ⟨_, accepted⟩

theorem Restorable.privateStep (restorable : Restorable reference state)
    (call : PrivateLedgerCall A) (built : forall asset, call = .registerAsset asset -> asset.Built) :
    Restorable reference (privateStep reference state call).1 := by
  have coherent := restorable.coherent.privateStep call
  refine ⟨coherent.stores, coherent.anchored, ?_⟩
  intro id asset found
  refine ⟨coherent.keyed id asset found, ?_⟩
  cases call with
  | registerAsset added =>
    rw [Privacy.privateStep, CandidatePrivateLedgerStateV1.registerAsset, get_bind] at found
    split at found
    · exact (restorable.registered id asset found).2
    by_cases same : id = added.id
    · rw [same] at found
      exact Option.some.inj ((Finmap.lookup_insert _).symm.trans found) ▸ built added rfl
    · exact (restorable.registered id asset
        ((Finmap.lookup_insert_of_ne _ same).symm.trans found)).2
  | applyTransfer request authorizer =>
    rw [Privacy.privateStep] at found
    cases outcome : CandidatePrivateLedgerStateV1.applyTransfer reference request authorizer
      state with
    | ok receipt next =>
      rw [outcome] at found
      exact ((restorable.continues_of_applyTransfer outcome).1.registered id asset found).2
    | error reason next =>
      rw [outcome, keepsOnFailure_applyTransfer request authorizer state reason next outcome]
        at found
      exact (restorable.registered id asset found).2

end

/-- A ledger that is created and changed by calls, with built assets only, has a record
exactly if it is within the limits, and the record is read back as the whole ledger,
with its tree, unless the first tree collides with the tree of its snapshot. -/
theorem reached_ledger_round_trips [Sha256] {A : Type} (reference : NullifierSparseTreeReferenceV1)
    (genesisId : GenesisId) (validationContextId : ValidationContextId)
    (noteTreeParameters : TreeParametersV2)
    (snapshot : CandidatePrivateStateSnapshotV1 candidate) (marked : List NullifierV2)
    (ledger : CandidatePrivateLedgerStateV1 candidate)
    (created : CandidatePrivateLedgerStateV1.new reference genesisId validationContextId
      noteTreeParameters snapshot (markEach reference .newCandidate marked) = .ok ledger)
    (calls : List (PrivateLedgerCall A))
    (built : forall asset, .registerAsset asset ∈ calls -> asset.Built) :
    let state := (run (privateStep reference) ledger calls).1
    (TreesCollide reference (markEach reference .newCandidate marked)
        (markEach reference .newCandidate snapshot.spentNullifiers) ∨
      TreesCollide reference (markEach reference .newCandidate snapshot.spentNullifiers)
        (markEach reference .newCandidate marked)) ∨
    ((∃ bytes, encodeCandidatePrivateLedgerState state = .ok bytes) <->
      state.snapshot.spentNullifiers.length <= privateStateRecordMaxNullifiers /\
        state.assetList.length <= privateStateRecordMaxAssets) /\
      forall bytes, encodeCandidatePrivateLedgerState state = .ok bytes ->
        bytes.length <= privateStateRecordMaxBytes /\
          decodeCandidatePrivateLedgerState reference bytes = .ok state := by
  intro state
  rcases coherent_of_run created ([] : List (PrivateLedgerCall A)) with coherent | collide
  · right
    have initial : Restorable reference ledger := by
      refine ⟨coherent.stores, coherent.anchored, ?_⟩
      intro id asset found
      rw [(anchored_of_new created).2, Finmap.lookup_empty] at found
      cases found
    have restorable : Restorable reference state := by
      apply run_invariant (privateStep reference) (fun reached _ => Restorable reference reached)
        initial calls
      intro before history call listed reached
      exact reached.privateStep call (fun asset isCall => built asset (isCall ▸ listed))
    constructor
    · constructor
      · intro encodes
        rcases encodes with ⟨bytes, encoded⟩
        have fits := (encodeCandidatePrivateLedgerState_eq_ok.mp encoded).1
        exact ⟨fits.nullifiers, fits.assets⟩
      · intro few
        exact ⟨_, restorable.encode_eq ⟨few.1, few.2⟩⟩
    · intro bytes encoded
      rcases encodeCandidatePrivateLedgerState_eq_ok.mp encoded with ⟨fits, _, isRecord⟩
      rw [isRecord]
      exact ⟨restorable.length_recordOf_le fits,
        decodeCandidatePrivateLedgerState_eq_ok.mpr ⟨restorable, fits, rfl⟩⟩
  · exact Or.inl collide

section
open Fips180

theorem length_assetList {anchor} {state : CandidatePrivateLedgerStateV1 loadCandidate}
    (sameAssets : state.assets = (assetLedger anchor).assets) : state.assetList.length = 1 := by
  have listed := sortedEntries_registered (List.pairwise_singleton
    (fun left right : AssetDefinition => left.id < right.id) noxAsset)
  change sortedEntries (Finmap.insert noxAsset.id noxAsset ∅) = _ at listed
  change ((sortedEntries state.assets).map Prod.snd).length = 1
  rw [sameAssets, assetLedger, listed]
  rfl

theorem restorable_assetLedger {anchor}
    (made : PrivateStateAnchorV2.new loadSparseCandidate (.replicate 1) (.replicate 2)
      zeroParameters emptySnapshot .newCandidate = .ok anchor) :
    Restorable loadSparseCandidate (assetLedger anchor) :=
  ⟨storesSet_newCandidate loadSparseCandidate, (anchored_of_new (new_emptyLedger made)).1,
    registered_of_increasing (List.pairwise_singleton _ noxAsset)
      (fun _ listed => List.mem_singleton.mp listed ▸ rfl)⟩

/-- A ledger with an asset, two commitments and two spent nullifiers is read back
from its record. -/
theorem transfer_ledger_round_trips :
    ∃ anchor state,
      CandidatePrivateLedgerStateV1.new loadSparseCandidate (.replicate 1) (.replicate 2)
        zeroParameters emptySnapshot (markEach loadSparseCandidate .newCandidate []) =
          .ok (emptyLedger anchor) /\
      run (privateStep loadSparseCandidate) (emptyLedger anchor)
        [.registerAsset noxAsset, .applyTransfer ⟨transferFrom anchor, ()⟩
          (fun _ _ _ _ => .ok ())] = (state, [transferFrom anchor]) /\
      state.snapshot.commitments = (transferFrom anchor).outputCommitments /\
      state.snapshot.spentNullifiers.length = 2 /\
      (TreesCollide loadSparseCandidate .newCandidate .newCandidate ∨
        ∃ bytes, decodeCandidatePrivateLedgerState loadSparseCandidate bytes = .ok state) := by
  rcases exists_emptyLedger_run with ⟨anchor, state, created, ran, assets, commitments, spent⟩
  refine ⟨anchor, state, created, ran, commitments, spent, ?_⟩
  rcases reached_ledger_round_trips loadSparseCandidate _ _ _ _ _ _ created
    [.registerAsset noxAsset, .applyTransfer ⟨transferFrom anchor, ()⟩ (fun _ _ _ _ => .ok ())]
    (by
      intro asset listed
      rcases List.mem_cons.mp listed with isNox | other
      · cases isNox
        rfl
      · cases List.mem_singleton.mp other) with collide | ⟨encodes, trips⟩
  · exact Or.inl (collide.elim id id)
  · rw [ran] at encodes trips
    rcases encodes.mpr ⟨spent.trans_le (by decide), (length_assetList assets).trans_le (by decide)⟩
      with ⟨bytes, encoded⟩
    exact Or.inr ⟨bytes, (trips bytes encoded).2⟩

end

/-! ## What an identity binds -/

section
variable [Sha256] {state : CandidatePrivateLedgerStateV1 candidate}

/-- The anchor of a ledger was made from its snapshot and its tree. -/
def Anchored (reference : NullifierSparseTreeReferenceV1)
    (state : CandidatePrivateLedgerStateV1 candidate) : Prop :=
  PrivateStateAnchorV2.new reference state.anchor.genesisId state.anchor.validationContextId
    state.anchor.noteTreeParameters state.snapshot state.nullifierTree = .ok state.anchor

/-- A ledger that was created, with any tree, and changed by calls. -/
def ReachedLedger (A : Type) (candidate : Poseidon2P24Candidate)
    (reference : NullifierSparseTreeReferenceV1) : Type :=
  { state : CandidatePrivateLedgerStateV1 candidate //
    ∃ genesisId validationContextId noteTreeParameters snapshot tree ledger,
      CandidatePrivateLedgerStateV1.new reference genesisId validationContextId noteTreeParameters
          snapshot tree = .ok ledger /\
        ∃ calls : List (PrivateLedgerCall A),
          state = (run (privateStep reference) ledger calls).1 }

theorem Anchored.privateStep (anchored : Anchored reference state) (call : PrivateLedgerCall A) :
    Anchored reference (privateStep reference state call).1 := by
  cases call with
  | registerAsset asset =>
    rw [Privacy.privateStep, CandidatePrivateLedgerStateV1.registerAsset, get_bind]
    split
    · exact anchored
    · exact anchored
  | applyTransfer request authorizer =>
    rw [Privacy.privateStep]
    cases outcome : CandidatePrivateLedgerStateV1.applyTransfer reference request authorizer
      state with
    | ok receipt next =>
      rcases exists_transition_of_applyTransfer outcome with ⟨transition, _, applied, isNext, _⟩
      have made := (applied_of_apply_eq_ok applied).2
      have identities := identities_of_new made
      rw [isNext]
      change PrivateStateAnchorV2.new reference transition.postAnchor.genesisId
        transition.postAnchor.validationContextId transition.postAnchor.noteTreeParameters
        transition.postSnapshot transition.postTree = .ok transition.postAnchor
      rw [identities.1, identities.2.1, identities.2.2]
      exact made
    | error reason next =>
      rw [keepsOnFailure_applyTransfer request authorizer state reason next outcome]
      exact anchored

theorem ReachedLedger.anchored (reached : ReachedLedger A candidate reference) :
    Anchored reference reached.val := by
  rcases reached.property with ⟨_, _, _, _, _, ledger, created, calls, isState⟩
  rw [isState]
  exact run_invariant (privateStep reference) (fun state _ => Anchored reference state)
    (anchored_of_new created).1 calls (fun _ _ call _ anchored => anchored.privateStep call)

theorem Anchored.stateId_eq (anchored : Anchored reference state) :
    state.anchor.stateId = ⟨Sha256.digest (identityInput state.anchor)⟩ := by
  rcases Except.bind_eq_ok.mp anchored with ⟨root, _, isAnchor⟩
  rw [← Except.ok.inj isAnchor]
  rfl

omit [Sha256] in
theorem identities_of_identityInput {left right} (same : identityInput left = identityInput right) :
    left.genesisId = right.genesisId /\ left.validationContextId = right.validationContextId /\
      left.noteTreeParameters = right.noteTreeParameters /\ left.noteRoot = right.noteRoot /\
      left.nullifierRoot = right.nullifierRoot := by
  have sameBytes : left.encode = right.encode := List.append_cancel_left same
  simp only [PrivateStateAnchorV2.encode, TreeParametersV2.depth, List.append_assoc,
    List.append_cancel_left_eq, Bytes.toList_append_inj] at sameBytes
  rcases sameBytes with ⟨genesis, context, parameters, _, indices⟩
  have numbers {first second : Nat} : (bigEndian 8 first).length = (bigEndian 8 second).length := by
    rw [length_bigEndian, length_bigEndian]
  rcases Bytes.toList_append_inj.mp (List.append_inj indices numbers).2 with ⟨noteRoot, later⟩
  have nullifierRoot := Bytes.ext (List.append_inj later numbers).2
  exact ⟨Identifier.ext genesis, Identifier.ext context,
    congrArg (fun bytes => (⟨⟨bytes⟩⟩ : TreeParametersV2)) parameters, CanonicalVector.ext noteRoot,
    CanonicalVector.ext nullifierRoot⟩

/-- The pairs that are hashed for the root of a note tree. -/
def Poseidon2P24Candidate.notePairs (candidate : Poseidon2P24Candidate)
    (commitments : List NoteCommitmentV2) : List (Digest × Digest) :=
  let leaves := commitments.map (fun commitment => candidate.leaf commitment.digest)
  emptyPairs candidate.nodePair candidate.emptyBase 32 ++
    climbPairs candidate.nodePair candidate.emptyBase leaves 32

omit [Sha256] in
/-- Lists of one length with the same root are the same, or the tree hash collides. -/
theorem commitments_eq_or_collision {left right} (sameLength : left.length = right.length)
    (few : left.length <= candidatePrivateStateMaxNotes)
    (sameRoot : candidate.noteTreeRoot left = candidate.noteTreeRoot right) :
    left = right ∨
      CollisionBetween candidate.leaf (left.map CanonicalVector.digest) (right.map CanonicalVector.digest) ∨
      CollisionBetween candidate.nodePair (candidate.notePairs left) (candidate.notePairs right) := by
  rcases leaves_eq_of_root_eq candidate.nodePair candidate.emptyBase _ _ 32 sameRoot with
    sameLeaves | collides
  · rw [← or_assoc]
    left
    have sameMaps : left.map (fun commitment => candidate.leaf commitment.digest) =
        right.map (fun commitment => candidate.leaf commitment.digest) := by
      apply List.ext_getElem (by rw [List.length_map, List.length_map, sameLength])
      intro index inLeft inRight
      have within : index < 2 ^ 32 := by
        rw [List.length_map] at inLeft
        unfold candidatePrivateStateMaxNotes at few
        omega
      have sameLeaf := sameLeaves index within
      rw [List.getD_eq_getElem _ _ inLeft, List.getD_eq_getElem _ _ inRight] at sameLeaf
      exact sameLeaf
    exact eq_or_collision_of_map_eq candidate.leaf CanonicalVector.digest
      (fun commitment => candidate.leaf commitment.digest) id (fun _ _ => rfl) (fun _ _ => rfl)
      (fun _ _ _ _ same => CanonicalVector.digest_injective same) sameMaps
  · exact Or.inr (Or.inr collides)

end

/-- Two reached ledgers have different identities, or they agree on everything that the
identity stands for, or a hash collides: the one of the identities, the one of the note
tree, or the one of the nullifier tree. -/
theorem private_state_id_binds_state [Sha256] {A B : Type}
    (reference : NullifierSparseTreeReferenceV1) (left : ReachedLedger A candidate reference)
    (right : ReachedLedger B candidate reference) :
    left.val.anchor.stateId ≠ right.val.anchor.stateId ∨
    (left.val.anchor.genesisId = right.val.anchor.genesisId /\
      left.val.anchor.validationContextId = right.val.anchor.validationContextId /\
      left.val.anchor.noteTreeParameters = right.val.anchor.noteTreeParameters /\
      left.val.snapshot.commitments = right.val.snapshot.commitments /\
      left.val.snapshot.spentSet = right.val.snapshot.spentSet) ∨
    Collides Sha256.digest (identityInput left.val.anchor) (identityInput right.val.anchor) ∨
    CollisionBetween candidate.leaf (left.val.snapshot.commitments.map CanonicalVector.digest)
      (right.val.snapshot.commitments.map CanonicalVector.digest) ∨
    CollisionBetween candidate.nodePair (candidate.notePairs left.val.snapshot.commitments)
      (candidate.notePairs right.val.snapshot.commitments) ∨
    TreesCollide reference (markEach reference .newCandidate left.val.snapshot.spentNullifiers)
      (markEach reference .newCandidate right.val.snapshot.spentNullifiers) ∨
    TreesCollide reference (markEach reference .newCandidate right.val.snapshot.spentNullifiers)
      (markEach reference .newCandidate left.val.snapshot.spentNullifiers) := by
  by_cases sameId : left.val.anchor.stateId = right.val.anchor.stateId
  · right
    rw [left.anchored.stateId_eq, right.anchored.stateId_eq] at sameId
    rcases eq_or_collides Sha256.digest (Identifier.mk.inj sameId) with sameInput | collides
    · have leftState := anchorsState_of_new left.anchored
      have rightState := anchorsState_of_new right.anchored
      rcases identities_of_identityInput sameInput with
        ⟨genesis, context, parameters, noteRoot, nullifierRoot⟩
      have sameLength := nextLeafIndex_of_identityInput sameInput
      rw [leftState.nextLeafIndex, rightState.nextLeafIndex] at sameLength
      rw [leftState.noteRoot, rightState.noteRoot] at noteRoot
      have sameRoot := congrArg CanonicalVector.digest noteRoot
      rw [CanonicalVector.digest_ofDigest, CanonicalVector.digest_ofDigest] at sameRoot
      rw [leftState.nullifierRoot, rightState.nullifierRoot] at nullifierRoot
      have leftStores := storesSet_markEach reference left.val.snapshot.spentNullifiers
      have rightStores := storesSet_markEach reference right.val.snapshot.spentNullifiers
      rcases commitments_eq_or_collision sameLength left.val.snapshot.bounded sameRoot with
        commitments | leaves | nodes
      · rcases leftStores.eq_or_collide rightStores
          (leftStores.root_eq.trans (nullifierRoot.trans rightStores.root_eq.symm)) with
          spent | collides
        · exact Or.inl ⟨genesis, context, parameters, commitments, spent⟩
        · exact Or.inr (Or.inr (Or.inr (Or.inr collides)))
      · exact Or.inr (Or.inr (Or.inl leaves))
      · exact Or.inr (Or.inr (Or.inr (Or.inl nodes)))
    · exact Or.inr (Or.inl collides)
  · exact Or.inl sameId

section
open Fips180

/-- A transfer from the empty ledger changes the identity, or a hash collides. -/
theorem transfer_changes_state_id :
    ∃ left right : ReachedLedger Unit loadCandidate loadSparseCandidate,
      left.val.snapshot.commitments = [] /\ right.val.snapshot.commitments ≠ [] /\
      (left.val.anchor.stateId ≠ right.val.anchor.stateId ∨
        (∃ first second, Collides Sha256.digest first second) ∨
        (∃ first second, Collides loadCandidate.leaf first second) ∨
        (∃ first second, Collides loadCandidate.nodePair first second) ∨
        ∃ first second, TreesCollide loadSparseCandidate first second) := by
  rcases exists_emptyLedger_run with ⟨anchor, state, created, ran, _, commitments, _⟩
  let left : ReachedLedger Unit loadCandidate loadSparseCandidate :=
    ⟨emptyLedger anchor, _, _, _, _, _, _, created, [], rfl⟩
  let right : ReachedLedger Unit loadCandidate loadSparseCandidate :=
    ⟨state, _, _, _, _, _, _, created, _, (congrArg Prod.fst ran).symm⟩
  have nonempty : right.val.snapshot.commitments ≠ [] := by
    rw [commitments]
    exact List.cons_ne_nil _ _
  refine ⟨left, right, rfl, nonempty, ?_⟩
  rcases private_state_id_binds_state loadSparseCandidate left right with
    differ | ⟨_, _, _, same, _⟩ | sha | ⟨_, _, _, _, leaf⟩ | ⟨_, _, _, _, node⟩ | tree | tree
  · exact Or.inl differ
  · exact absurd same.symm nonempty
  · exact Or.inr (Or.inl ⟨_, _, sha⟩)
  · exact Or.inr (Or.inr (Or.inl ⟨_, _, leaf⟩))
  · exact Or.inr (Or.inr (Or.inr (Or.inl ⟨_, _, node⟩)))
  · exact Or.inr (Or.inr (Or.inr (Or.inr ⟨_, _, tree⟩)))
  · exact Or.inr (Or.inr (Or.inr (Or.inr ⟨_, _, tree⟩)))

end
end Noxis.Privacy
