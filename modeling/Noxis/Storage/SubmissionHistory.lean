import Noxis.Storage.SubmissionScan

namespace Noxis.Submission

open Foundation Privacy PrivateSubmissionJournalV2

/-!
# Recovered histories

A recovery compares each stored ledger with the one before it.  The comparison
determines the spent nullifiers of a ledger completely, but of the commitments
it only looks at their number and at the last two, and it does not look at the
identities, the tree parameters and the assets.  A recovered history is therefore
a sequence of transfers exactly when the stored records repeat what is not
compared.
-/

section
variable {candidate : Poseidon2P24Candidate} [Sha256]
  {reference : NullifierSparseTreeReferenceV1}
  {base : CandidatePrivateLedgerStateV1 candidate}
  {entries : List (StoredPrivateSubmissionV2 candidate)}

omit [Sha256] in
/-- The ledger of an entry has exactly what the one before it has and the notes
of the entry. -/
def ContinuesBy (predecessor : CandidatePrivateLedgerStateV1 candidate)
    (entry : StoredPrivateSubmissionV2 candidate) : Prop :=
  Continues predecessor entry.state entry.inputNullifiers entry.outputCommitments

/-- The ledger of an entry is the result of a transfer with the notes of the
entry. -/
def TransfersTo (reference : NullifierSparseTreeReferenceV1)
    (predecessor : CandidatePrivateLedgerStateV1 candidate)
    (entry : StoredPrivateSubmissionV2 candidate) : Prop :=
  ∃ (intent : PrivateTransferIntentV2) (receipt : CandidatePrivateTransferAdmissionReceiptV1),
    intent.assetId = entry.assetId /\ intent.nullifiers = entry.inputNullifiers /\
      (fun index => (intent.outputs index).commitment) = entry.outputCommitments /\
      CandidatePrivateLedgerStateV1.applyTransfer reference ⟨intent, ()⟩ (fun _ _ _ _ => .ok ())
        predecessor = .ok receipt entry.state

omit [Sha256] in
/-- A ledger repeats what a recovery does not compare. -/
structure Repeats (predecessor successor : CandidatePrivateLedgerStateV1 candidate) : Prop where
  commitments : predecessor.snapshot.commitments <+: successor.snapshot.commitments
  genesisId : successor.anchor.genesisId = predecessor.anchor.genesisId
  validationContextId : successor.anchor.validationContextId =
    predecessor.anchor.validationContextId
  treeParameters : successor.anchor.noteTreeParameters = predecessor.anchor.noteTreeParameters
  assets : successor.assets = predecessor.assets

/-- In the frames a file starts with, each record repeats the one before it. -/
def RecordsRepeat (reference : NullifierSparseTreeReferenceV1)
    (base : CandidatePrivateLedgerStateV1 candidate) (file : List UInt8) : Prop :=
  forall (entries : List (StoredPrivateSubmissionV2 candidate)) (rest : List UInt8),
    file = journalOf entries ++ rest ->
    (forall entry, entry ∈ entries -> Storable reference entry) ->
    Along (fun predecessor entry => Repeats predecessor entry.state) base entries

omit [Sha256] in
/-- Of an entry that was compared, exactly the repeated parts are left open. -/
theorem continuesBy_iff {predecessor : CandidatePrivateLedgerStateV1 candidate}
    {entry : StoredPrivateSubmissionV2 candidate} (follows : FollowsFrom predecessor entry) :
    ContinuesBy predecessor entry <-> Repeats predecessor entry.state := by
  rcases follows.isValid.appended with ⟨kept, sameLength, isAppended⟩
  constructor
  · intro continues
    refine ⟨?_, continues.genesisId, continues.validationContextId, continues.treeParameters,
      continues.assets⟩
    rw [continues.commitments]
    exact List.prefix_append _ _
  · intro repeated
    refine ⟨?_, follows.isValid.spent, repeated.genesisId, repeated.validationContextId,
      repeated.treeParameters, repeated.assets⟩
    have starts := repeated.commitments
    rw [isAppended] at starts
    have isKept := List.prefix_of_prefix_length_le starts (List.prefix_append _ _)
      (Nat.le_of_eq sameLength.symm)
    rw [isAppended, isKept.eq_of_length sameLength.symm]

omit [Sha256] in
theorem along_repeats_congr {other} (same : entries.map StoredPrivateSubmissionV2.state =
      other.map StoredPrivateSubmissionV2.state)
    (repeated : Along (fun predecessor entry => Repeats predecessor entry.state) base entries) :
    Along (fun predecessor entry => Repeats predecessor entry.state) base other := by
  induction entries generalizing base other with
  | nil =>
    rw [List.map_eq_nil_iff.mp same.symm]
    trivial
  | cons entry rest ih =>
    cases other with
    | nil => cases same
    | cons first others =>
      rw [List.map_cons, List.map_cons, List.cons.injEq] at same
      rw [Along, ValidTracking, ← Along, same.1] at repeated
      exact ⟨repeated.1, ih same.2 repeated.2⟩

theorem map_state_of_payloads {other : List (StoredPrivateSubmissionV2 candidate)}
    (storable : forall entry, entry ∈ entries -> Storable reference entry)
    (otherStorable : forall entry, entry ∈ other -> Storable reference entry)
    (same : entries.map payloadOf = other.map payloadOf) :
    entries.map StoredPrivateSubmissionV2.state = other.map StoredPrivateSubmissionV2.state := by
  induction entries generalizing other with
  | nil => rw [List.map_eq_nil_iff.mp same.symm]
  | cons entry rest ih =>
    cases other with
    | nil => cases same
    | cons first others =>
      have parts := List.forall_mem_cons.mp storable
      have otherParts := List.forall_mem_cons.mp otherStorable
      rw [List.map_cons, List.map_cons, List.cons.injEq] at same
      have sameEntry := congrArg StoredPrivateSubmissionV2.state
        (parts.1.eq_of_payloadOf otherParts.1 same.1)
      rw [List.map_cons, List.map_cons, ih parts.2 otherParts.2 same.2]
      exact congrArg (· :: _) sameEntry

/-- The records of a scanned file repeat each other if its entries do. -/
theorem recordsRepeat_iff {file : List UInt8}
    {scan : PrivateSubmissionJournalRecoveryScan candidate}
    (scanned : scanRecoverableTail reference file = .ok scan) :
    RecordsRepeat reference base file <->
      Along (fun predecessor entry => Repeats predecessor entry.state) base scan.entries := by
  rcases scanRecoverableTail_eq_ok.mp scanned with ⟨scans, holds, _⟩
  constructor
  · intro repeated
    rcases scans.contents with ⟨_, rest, isFile, _⟩
    exact repeated scan.entries rest isFile holds.storable
  · intro repeated entries rest isFile storable
    rcases submissionFrameFormat.exists_scans (journalOf entries).length rest with
      ⟨others, outcome, later⟩
    have again := scans_journalOf_append storable later
    rw [← isFile] at again
    have found := (scans.unique again).1
    have isTake : entries.map payloadOf = (scan.entries.take entries.length).map payloadOf := by
      rw [List.map_take, found]
      exact (List.take_left' (List.length_map _)).symm
    have states := map_state_of_payloads
      (fun entry listed => holds.storable entry (List.mem_of_mem_take listed)) storable isTake.symm
    apply along_repeats_congr states
    rw [Along, ← List.take_append_drop entries.length scan.entries, validTracking_append] at repeated
    exact repeated.1

/-- From a restorable base, ledgers continue each other exactly when they are
results of transfers. -/
theorem along_transfersTo_iff (restorable : Restorable reference base)
    (storable : forall entry, entry ∈ entries -> Storable reference entry)
    (follows : Along FollowsFrom base entries) :
    Along (TransfersTo reference) base entries <-> Along ContinuesBy base entries := by
  induction entries generalizing base with
  | nil => exact Iff.rfl
  | cons entry rest ih =>
    have parts := List.forall_mem_cons.mp storable
    rw [Along, Along, ValidTracking, ValidTracking, ← Along, ← Along,
      ih parts.1.restorable parts.2 follows.2]
    apply and_congr_left
    intro _
    constructor
    · intro transfers
      rcases transfers with ⟨intent, receipt, _, inputs, outputs, accepted⟩
      have continues := (restorable.continues_of_applyTransfer accepted).2
      rw [outputs] at continues
      rw [ContinuesBy, ← inputs]
      exact continues
    · intro continues
      have isValid := follows.1.isValid
      rcases restorable.applyTransfer_of_continues parts.1.restorable continues
        isValid.registered isValid.orderedInputs isValid.orderedOutputs isValid.unspent with
        ⟨receipt, accepted⟩
      exact ⟨_, receipt, rfl, rfl, rfl, accepted⟩

/-! ## A journal with one entry -/

def firstEntry (base successor : CandidatePrivateLedgerStateV1 candidate) :
    StoredPrivateSubmissionV2 candidate where
  offset := 0
  sequence := 1
  previousStateId := base.anchor.stateId
  resultingStateId := successor.anchor.stateId
  metadata := ⟨.replicate 32 1, by decide⟩
  assetId := noxAsset.id
  inputNullifiers := ![constantVector 10, constantVector 11]
  outputCommitments := ![constantVector 12, constantVector 13]
  state := successor

theorem recoverFrom_firstEntry {successor} (restorable : Restorable reference successor)
    (fits : FitsRecord successor)
    (isValid : ValidTransition base successor noxAsset.id ![constantVector 10, constantVector 11]
      ![constantVector 12, constantVector 13]) :
    recoverFrom reference base
        (journalOf [firstEntry base successor]) = .ok ⟨[firstEntry base successor], none⟩ := by
  have holds : Holds reference 0 [firstEntry base successor] :=
    holds_cons.mpr ⟨⟨restorable, fits, rfl⟩, rfl, ⟨nofun, rfl⟩⟩
  have scanned := scanRecoverableTail_journalOf holds ⟨rfl, trivial⟩ (FrameFormat.Scans.done _)
  rw [List.append_nil] at scanned
  exact recoverFrom_eq_ok.mpr ⟨scanned, ⟨rfl, rfl, isValid⟩, trivial⟩

omit [Sha256] in
theorem built_noxAsset : noxAsset.Built := rfl

/-- A base with one note and any ledger with two more notes make a journal that
is recovered. -/
theorem exists_recovered_entry (candidate : Poseidon2P24Candidate)
    (reference : NullifierSparseTreeReferenceV1) (genesisId : GenesisId)
    (validationContextId : ValidationContextId) (treeParameters : TreeParametersV2) {kept}
    (distinct : [kept, constantVector 12, constantVector 13].Nodup) {assets}
    (increasing : assets.Pairwise (fun left right =>
      left.id < right.id)) (built : forall asset, asset ∈ assets -> asset.Built)
    (few : assets.length <= privateStateRecordMaxAssets) :
    ∃ base successor : CandidatePrivateLedgerStateV1 candidate,
      Restorable reference base /\
      recoverFrom reference base
          (journalOf [firstEntry base successor]) = .ok ⟨[firstEntry base successor], none⟩ /\
      base.anchor.genesisId = .replicate 1 /\ base.anchor.validationContextId = .replicate 2 /\
      base.anchor.noteTreeParameters = zeroParameters /\
      base.snapshot.commitments = [constantVector 1] /\ base.assetList = [noxAsset] /\
      successor.anchor.genesisId = genesisId /\
      successor.anchor.validationContextId = validationContextId /\
      successor.anchor.noteTreeParameters = treeParameters /\
      successor.snapshot.commitments = [kept, constantVector 12, constantVector 13] /\
      successor.assetList = assets := by
  have orderedInputs : (constantVector 10 : NullifierV2) < constantVector 11 := by decide +kernel
  have orderedOutputs : (constantVector 12 : NoteCommitmentV2) < constantVector 13 := by
    decide +kernel
  have inputs : [constantVector 10, (constantVector 11 : NullifierV2)].Nodup := by
    simp [orderedInputs.ne]
  rcases exists_restorable candidate reference (.replicate 1) (.replicate 2) zeroParameters
    (by decide : [(constantVector 1 : NoteCommitmentV2)].length <= candidatePrivateStateMaxNotes)
    (List.nodup_singleton _) (List.nodup_nil : ([] : List NullifierV2).Nodup)
    (List.pairwise_singleton _ noxAsset)
    (fun asset listed => List.mem_singleton.mp listed ▸ built_noxAsset) with
    ⟨base, baseRestorable, baseGenesis, baseContext, baseParameters, baseCommitments, baseSpent,
      baseAssets⟩
  rcases exists_restorable candidate reference genesisId validationContextId treeParameters
    (show [kept, constantVector 12, constantVector 13].length <= candidatePrivateStateMaxNotes by
      exact (by decide : 3 <= candidatePrivateStateMaxNotes)) distinct inputs increasing built with
    ⟨successor, restorable, genesis, context, parameters, commitments, spent, isAssets⟩
  refine ⟨base, successor, baseRestorable, ?_, baseGenesis, baseContext, baseParameters,
    baseCommitments, baseAssets, genesis, context, parameters, commitments, isAssets⟩
  have none : base.snapshot.spentNullifiers = [] := List.perm_nil.mp baseSpent
  apply recoverFrom_firstEntry restorable
  · constructor
    · rw [spent.length_eq]
      decide
    · rw [isAssets]
      exact few
  · constructor
    case registered =>
      have listed : noxAsset ∈ base.assetList := by
        rw [baseAssets]
        exact List.mem_singleton_self _
      rcases mem_assetList.mp listed with ⟨id, found⟩
      rw [(baseRestorable.registered id noxAsset found).1]
      exact Finmap.mem_iff.mpr ⟨noxAsset, found⟩
    case orderedInputs => exact orderedInputs
    case orderedOutputs => exact orderedOutputs
    case appended =>
      refine ⟨[kept], ?_, commitments⟩
      rw [baseCommitments]
      rfl
    case unspent =>
      intro index
      rw [none]
      exact List.not_mem_nil
    case spent =>
      unfold CandidatePrivateStateSnapshotV1.spentSet
      rw [List.toFinset_eq_of_perm _ _ spent, none]
      simp

/-- A recovered history continues its base entry by entry exactly when each stored
record begins with the commitments of the one before it and repeats its genesis,
its context, its tree parameters and its assets.  From a restorable base the
entries are then transfers, and only then. -/
theorem recovered_history_continuous_iff {file : List UInt8}
    {scan : PrivateSubmissionJournalRecoveryScan candidate}
    (recovered : PrivateSubmissionJournalV2.recoverFrom reference base file = .ok scan) :
    (Along ContinuesBy base scan.entries <-> RecordsRepeat reference base file) /\
      (Restorable reference base ->
        (Along (TransfersTo reference) base scan.entries <->
          RecordsRepeat reference base file)) := by
  rcases recoverFrom_eq_ok.mp recovered with ⟨scanned, follows⟩
  have storable := (scanRecoverableTail_eq_ok.mp scanned).2.1.storable
  have continuous : Along ContinuesBy base scan.entries <-> RecordsRepeat reference base file := by
    rw [recordsRepeat_iff scanned]
    exact follows.congr (fun _ _ isFollowed => continuesBy_iff isFollowed)
  refine ⟨continuous, ?_⟩
  intro restorable
  rw [along_transfersTo_iff restorable storable follows]
  exact continuous

end

section
open Fips180

/-- The journal of a ledger with another genesis, another context, other tree
parameters, no assets and another first note is recovered. -/
theorem foreign_record_recovered :
    ∃ (base : CandidatePrivateLedgerStateV1 loadCandidate) (file : List UInt8)
      (entry : StoredPrivateSubmissionV2 loadCandidate),
      Restorable loadSparseCandidate base /\
      PrivateSubmissionJournalV2.recoverFrom loadSparseCandidate base file =
        .ok ⟨[entry], none⟩ /\
      entry.state.anchor.genesisId ≠ base.anchor.genesisId /\
      entry.state.anchor.validationContextId ≠ base.anchor.validationContextId /\
      entry.state.anchor.noteTreeParameters ≠ base.anchor.noteTreeParameters /\
      entry.state.assets ≠ base.assets /\
      ¬base.snapshot.commitments <+: entry.state.snapshot.commitments := by
  rcases exists_recovered_entry loadCandidate loadSparseCandidate (.replicate 7) (.replicate 8)
    ⟨⟨.replicate 32 9⟩⟩ (by decide +kernel : [(constantVector 2 : NoteCommitmentV2),
      constantVector 12, constantVector 13].Nodup) List.Pairwise.nil nofun (Nat.zero_le _) with
    ⟨base, successor, restorable, recovered, baseGenesis, baseContext, baseParameters,
      baseCommitments, baseAssets, genesis, context, parameters, commitments, assets⟩
  refine ⟨base, _, firstEntry base successor, restorable, recovered, ?_, ?_, ?_, ?_, ?_⟩
  · change successor.anchor.genesisId ≠ _
    rw [genesis, baseGenesis]
    decide
  · change successor.anchor.validationContextId ≠ _
    rw [context, baseContext]
    decide
  · change successor.anchor.noteTreeParameters ≠ _
    rw [parameters, baseParameters]
    decide
  · intro same
    have sameList : successor.assetList = base.assetList :=
      congrArg (fun table => (sortedEntries table).map Prod.snd) same
    rw [assets, baseAssets] at sameList
    cases sameList
  · change ¬_ <+: successor.snapshot.commitments
    rw [commitments, baseCommitments]
    decide +kernel

/-- The journal of a ledger that repeats its base is recovered, and it holds a
transfer. -/
theorem repeated_record_recovered :
    ∃ (base : CandidatePrivateLedgerStateV1 loadCandidate) (file : List UInt8)
      (entry : StoredPrivateSubmissionV2 loadCandidate),
      Restorable loadSparseCandidate base /\
      PrivateSubmissionJournalV2.recoverFrom loadSparseCandidate base file =
        .ok ⟨[entry], none⟩ /\
      RecordsRepeat loadSparseCandidate base file /\
      TransfersTo loadSparseCandidate base entry := by
  rcases exists_recovered_entry loadCandidate loadSparseCandidate (.replicate 1) (.replicate 2)
    zeroParameters (by decide +kernel : [(constantVector 1 : NoteCommitmentV2),
      constantVector 12, constantVector 13].Nodup) (List.pairwise_singleton _ noxAsset)
    (fun asset listed => List.mem_singleton.mp listed ▸ built_noxAsset) (by decide) with
    ⟨base, successor, restorable, recovered, baseGenesis, baseContext, baseParameters,
      baseCommitments, baseAssets, genesis, context, parameters, commitments, assets⟩
  have history := recovered_history_continuous_iff recovered
  have follows := (recoverFrom_eq_ok.mp recovered).2
  have repeated : Repeats base successor := by
    constructor
    case commitments =>
      rw [commitments, baseCommitments]
      exact List.prefix_append [constantVector 1] [constantVector 12, constantVector 13]
    case genesisId => rw [genesis, baseGenesis]
    case validationContextId => rw [context, baseContext]
    case treeParameters => rw [parameters, baseParameters]
    case assets =>
      have holds := (scanRecoverableTail_eq_ok.mp (recoverFrom_eq_ok.mp recovered).1).2.1
      exact (holds_cons.mp holds).1.restorable.assets_eq restorable (assets.trans baseAssets.symm)
  have continuous : Along ContinuesBy base [firstEntry base successor] :=
    ⟨(continuesBy_iff follows.1).mpr repeated, trivial⟩
  have records := history.1.mp continuous
  exact ⟨base, _, _, restorable, recovered, records, ((history.2 restorable).mpr records).1⟩

end
end Noxis.Submission
