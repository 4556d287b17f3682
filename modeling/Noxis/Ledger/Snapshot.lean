import Noxis.Foundation.OrderedLists
import Noxis.Ledger.History

namespace Noxis.Ledger

open Foundation Merkle MerkleTree

/-!
# Canonical snapshots

A snapshot lists a whole state: sets and maps strictly increasing, commitments
in tree order.  `fromCanonicalParts` is the only way to obtain one and
`fromSnapshot` replays one into a state.  A decoder may hand over any lists, so
the checks are on the path of untrusted data; a live state passes them by the
invariants of the ledger, and the source aborts if it does not.

`Canonical` states the checks without their order.  Both directions of the
representation then follow from facts about ordered listings.
-/

@[ext]
structure LedgerSnapshot where
  treeDepth : UInt8
  assets : List AssetDefinition
  commitments : List Commitment
  spentNullifiers : List Nullifier
  issuedSupply : List (AssetId × Amount)
  acceptedTransactions : List TransactionId
deriving DecidableEq

/-- Every element is smaller than its successor. -/
def ensureStrictlySorted {α : Type} [LinearOrder α] : List α -> Bool
  | first :: second :: rest => decide (first < second) && ensureStrictlySorted (second :: rest)
  | _ => true

namespace LedgerSnapshot

/-- Rebuild each asset and require increasing identifiers.  The position in
the list is reported with the failure. -/
def canonicalAssets (index : Nat) (priorAssetId : Option AssetId) :
    List AssetDefinition -> Except LedgerSnapshotError (List AssetDefinition)
  | [] => .ok []
  | asset :: rest =>
    if priorAssetId.any (fun previous => decide (asset.id <= previous)) then
      .error (.assetsNotStrictlySorted index)
    else do
      let canonical ← (AssetDefinition.new asset.id asset.ticker asset.kind).mapError
        (.invalidAsset index)
      let others ← canonicalAssets (index + 1) (some canonical.id) rest
      return canonical :: others

/-- Append the commitments to a scratch tree, rejecting repetitions. -/
def checkCommitments (commitmentSet : Finset Commitment) (tree : MerkleTree) :
    List Commitment -> Except LedgerSnapshotError Unit
  | [] => .ok ()
  | commitment :: rest =>
    if commitment ∈ commitmentSet then
      .error (.duplicateCommitment commitment)
    else
      match MerkleTree.append commitment tree with
      | .error reason _ => .error (.merkle reason)
      | .ok _ next => checkCommitments (insert commitment commitmentSet) next rest

def checkSupply (assetIds : Finset AssetId) (index : Nat) (priorSupplyAsset : Option AssetId) :
    List (AssetId × Amount) -> Except LedgerSnapshotError Unit
  | [] => .ok ()
  | (assetId, _) :: rest =>
    if priorSupplyAsset.any (fun previous => decide (assetId <= previous)) then
      .error (.supplyNotStrictlySorted index)
    else if assetId ∉ assetIds then
      .error (.supplyForUnknownAsset assetId)
    else checkSupply assetIds (index + 1) (some assetId) rest

/-- Validate parts that came from a decoder. -/
def fromCanonicalParts (treeDepth : UInt8) (assets : List AssetDefinition)
    (commitments : List Commitment) (spentNullifiers : List Nullifier)
    (issuedSupply : List (AssetId × Amount)) (acceptedTransactions : List TransactionId) :
    Except LedgerSnapshotError LedgerSnapshot := do
  let canonical ← canonicalAssets 0 none assets
  let tree ← (MerkleTree.new treeDepth).mapError .merkle
  checkCommitments ∅ tree commitments
  if ensureStrictlySorted spentNullifiers = false then
    .error .nullifiersNotStrictlySorted
  else if ensureStrictlySorted acceptedTransactions = false then
    .error .transactionsNotStrictlySorted
  else
    checkSupply (canonical.map AssetDefinition.id).toFinset 0 none issuedSupply
    return ⟨treeDepth, canonical, commitments, spentNullifiers, issuedSupply, acceptedTransactions⟩

end LedgerSnapshot

namespace LedgerState

def registerAll : List AssetDefinition -> EStateM LedgerError LedgerState Unit
  | [] => pure ()
  | asset :: rest => do
      registerAsset asset
      registerAll rest

def restoreCommitments : List Commitment -> EStateM LedgerSnapshotError LedgerState Unit
  | [] => pure ()
  | commitment :: rest => do
      let state ← get
      match MerkleTree.append commitment state.commitmentTree with
      | .error reason _ => throw (.merkle reason)
      | .ok _ nextTree =>
        set { state with
          commitmentTree := nextTree
          commitments := insert commitment state.commitments }
        restoreCommitments rest

/-- Replay the parts of a snapshot into an empty ledger. -/
def restore (snapshot : LedgerSnapshot) : EStateM LedgerSnapshotError LedgerState Unit := do
  mapFailure .ledger (registerAll snapshot.assets)
  restoreCommitments snapshot.commitments
  modify fun state => { state with
    spentNullifiers := state.spentNullifiers ∪ snapshot.spentNullifiers.toFinset
    issuedSupply := insertAll state.issuedSupply snapshot.issuedSupply
    acceptedTransactions := state.acceptedTransactions ∪ snapshot.acceptedTransactions.toFinset }

/-- Reconstruct a ledger; the snapshot is validated once more. -/
def fromSnapshot (snapshot : LedgerSnapshot) : Except LedgerSnapshotError LedgerState := do
  let snapshot ← LedgerSnapshot.fromCanonicalParts snapshot.treeDepth snapshot.assets
    snapshot.commitments snapshot.spentNullifiers snapshot.issuedSupply
    snapshot.acceptedTransactions
  let state ← (LedgerState.new snapshot.treeDepth).mapError .ledger
  match restore snapshot state with
  | .ok _ restored => .ok restored
  | .error reason _ => .error reason

/-- Export the state; aborts when the parts are not canonical. -/
def snapshot (state : LedgerState) : Except Panic LedgerSnapshot :=
  (LedgerSnapshot.fromCanonicalParts state.commitmentTree.depth state.sortedAssets
    state.commitmentTree.commitments state.sortedNullifiers state.sortedSupply
    state.sortedTransactions).mapError
      (fun _ => ⟨"live ledger state always satisfies snapshot invariants"⟩)

end LedgerState

/-! ## What the checks accept -/

theorem ensureStrictlySorted_eq_true {α : Type} [LinearOrder α] {items : List α} :
    ensureStrictlySorted items = true <-> items.Pairwise (· < ·) := by
  rw [← List.isChain_iff_pairwise]
  induction items with
  | nil => exact ⟨fun _ => List.IsChain.nil, fun _ => rfl⟩
  | cons first rest ih =>
    cases rest with
    | nil => exact ⟨fun _ => List.IsChain.singleton first, fun _ => rfl⟩
    | cons second rest =>
      simp [ensureStrictlySorted, *]

/-- The checks of `fromCanonicalParts`, without their order. -/
structure LedgerSnapshot.Canonical (snapshot : LedgerSnapshot) : Prop where
  assetsBuilt : forall asset, asset ∈ snapshot.assets -> asset.Built
  assetsSorted : snapshot.assets.Pairwise (fun left right => left.id < right.id)
  depthValid : minDepth <= snapshot.treeDepth /\ snapshot.treeDepth <= maxDepth
  commitmentsNodup : snapshot.commitments.Nodup
  withinCapacity : snapshot.commitments.length <= maximumLeafCount snapshot.treeDepth
  nullifiersSorted : snapshot.spentNullifiers.Pairwise (· < ·)
  transactionsSorted : snapshot.acceptedTransactions.Pairwise (· < ·)
  supplySorted : snapshot.issuedSupply.Pairwise (fun left right => left.1 < right.1)
  supplyKnown : forall entry, entry ∈ snapshot.issuedSupply ->
    entry.1 ∈ snapshot.assets.map AssetDefinition.id

namespace LedgerSnapshot

variable {index : Nat} {prior : Option AssetId}

theorem canonicalAssets_eq_ok {assets result} :
    canonicalAssets index prior assets = .ok result <->
      result = assets /\ (forall asset, asset ∈ assets -> asset.Built) /\
        AscendsFrom AssetDefinition.id prior assets := by
  induction assets generalizing index prior result with
  | nil => simp [canonicalAssets, ascendsFrom_nil, eq_comm]
  | cons asset rest ih =>
    rw [canonicalAssets, Except.refuse_eq_ok, any_le_eq_false, ascendsFrom_cons,
      List.forall_mem_cons]
    simp only [Except.bind_eq_ok, Except.mapError_eq_ok, ih]
    constructor
    · rintro ⟨ordered, canonical, made, _, ⟨rfl, restBuilt, ascending⟩, same⟩
      have built := AssetDefinition.built_of_new made
      have copied : canonical = asset := AssetDefinition.eq_of_new made
      subst copied
      exact ⟨(Except.ok.inj same).symm, ⟨built, restBuilt⟩, ordered, ascending⟩
    · rintro ⟨rfl, ⟨built, restBuilt⟩, ordered, ascending⟩
      exact ⟨ordered, asset, built, rest, ⟨rfl, restBuilt, ascending⟩, rfl⟩

theorem checkCommitments_eq_ok {commitmentSet tree commitments} :
    checkCommitments commitmentSet tree commitments = .ok () <->
      commitments.Nodup /\ (forall commitment, commitment ∈ commitments ->
        commitment ∉ commitmentSet) /\ tree.len + commitments.length <= tree.capacity := by
  induction commitments generalizing commitmentSet tree with
  | nil =>
    simp only [checkCommitments, List.nodup_nil, List.not_mem_nil, false_imp_iff, implies_true,
      List.length_nil, Nat.add_zero, true_and, true_iff]
    exact tree.withinCapacity
  | cons commitment rest ih =>
    rw [checkCommitments, Except.refuse_eq_ok, List.nodup_cons, List.forall_mem_cons,
      List.length_cons]
    by_cases room : tree.len < tree.capacity
    · rcases append_of_room commitment room with ⟨index, next, appended, depth, leaves⟩
      have freshAfter : (forall other, other ∈ rest -> other ∉ insert commitment commitmentSet) <->
          commitment ∉ rest /\ forall other, other ∈ rest -> other ∉ commitmentSet := by
        simp only [Finset.mem_insert, not_or, forall_and, ← List.forall_mem_ne]
        refine and_congr_left' (forall₂_congr ?_)
        intro other _
        exact ne_comm
      simp only [appended]
      rw [ih, len_of_appended leaves, capacity_of_depth depth, freshAfter]
      constructor
      · rintro ⟨new, distinct, ⟨notRepeated, fresh⟩, fits⟩
        exact ⟨⟨notRepeated, distinct⟩, ⟨new, fresh⟩, by omega⟩
      · rintro ⟨⟨notRepeated, distinct⟩, ⟨new, fresh⟩, fits⟩
        exact ⟨new, distinct, ⟨notRepeated, fresh⟩, by omega⟩
    grind [MerkleTree.append]

theorem checkSupply_eq_ok {assetIds supplies} :
    checkSupply assetIds index prior supplies = .ok () <->
      (forall entry, entry ∈ supplies -> entry.1 ∈ assetIds) /\
        AscendsFrom Prod.fst prior supplies := by
  induction supplies generalizing index prior with
  | nil => simp [checkSupply, ascendsFrom_nil]
  | cons entry rest ih =>
    rw [checkSupply, Except.refuse_eq_ok, any_le_eq_false, Except.refuse_eq_ok, not_not,
      ih, ascendsFrom_cons, List.forall_mem_cons]
    tauto

/-- Parts are accepted exactly when they are canonical, and are then returned
as they are. -/
theorem fromCanonicalParts_eq_ok {parts result : LedgerSnapshot} :
    fromCanonicalParts parts.treeDepth parts.assets parts.commitments parts.spentNullifiers
        parts.issuedSupply parts.acceptedTransactions = .ok result <->
      result = parts /\ parts.Canonical := by
  unfold fromCanonicalParts
  simp only [Except.bind_eq_ok, Except.mapError_eq_ok, Except.refuse_eq_ok, Bool.not_eq_false,
    canonicalAssets_eq_ok, MerkleTree.new_eq_ok, ensureStrictlySorted_eq_true, ascendsFrom_none]
  constructor
  · rintro ⟨_, ⟨rfl, built, sorted⟩, tree, ⟨depth, empty⟩, _, appended, nullifiersSorted,
      transactionsSorted, _, supplied, same⟩
    rcases checkCommitments_eq_ok.mp appended with ⟨distinct, _, fits⟩
    rcases checkSupply_eq_ok.mp supplied with ⟨known, supplyAscends⟩
    refine ⟨(Except.ok.inj same).symm, ?_⟩
    constructor
    case assetsBuilt => exact built
    case assetsSorted => exact sorted
    case depthValid =>
      rw [← depth]
      exact tree.depthValid
    case commitmentsNodup => exact distinct
    case withinCapacity =>
      rw [MerkleTree.len, MerkleTree.capacity, depth, empty, List.length_nil, Nat.zero_add] at fits
      exact fits
    case nullifiersSorted => exact nullifiersSorted
    case transactionsSorted => exact transactionsSorted
    case supplySorted => exact ascendsFrom_none.mp supplyAscends
    grind [List.mem_toFinset]
  · rintro ⟨rfl, canonical⟩
    let empty : MerkleTree := ⟨result.treeDepth, [], canonical.depthValid, Nat.zero_le _⟩
    have fits : empty.len + result.commitments.length <= empty.capacity := by
      rw [MerkleTree.len, List.length_nil, Nat.zero_add]
      exact canonical.withinCapacity
    have appended : checkCommitments ∅ empty result.commitments = .ok () :=
      checkCommitments_eq_ok.mpr ⟨canonical.commitmentsNodup,
        fun commitment _ => Finset.notMem_empty commitment, fits⟩
    have supplied : checkSupply (result.assets.map AssetDefinition.id).toFinset 0 none
        result.issuedSupply = .ok () :=
      checkSupply_eq_ok.mpr ⟨fun entry member =>
        List.mem_toFinset.mpr (canonical.supplyKnown entry member),
        ascendsFrom_none.mpr canonical.supplySorted⟩
    exact ⟨result.assets, ⟨rfl, canonical.assetsBuilt, canonical.assetsSorted⟩, empty, ⟨rfl, rfl⟩,
      (), appended, canonical.nullifiersSorted, canonical.transactionsSorted, (), supplied, rfl⟩

end LedgerSnapshot

/-- The entry under which an asset is registered. -/
def keyed (asset : AssetDefinition) : AssetId × AssetDefinition := (asset.id, asset)

namespace LedgerState

variable {assets : List AssetDefinition}

theorem registerAll_of_sorted (sorted : assets.Pairwise (fun left right => left.id < right.id))
    (state : LedgerState) (unknown : forall asset, asset ∈ assets -> asset.id ∉ state.assets) :
    registerAll assets state =
      .ok () { state with assets := insertAll state.assets (assets.map keyed) } := by
  induction assets generalizing state with
  | nil => rfl
  | cons asset rest ih =>
    have order := List.pairwise_cons.mp sorted
    have parts := List.forall_mem_cons.mp unknown
    rw [registerAll, bind_of_ok (registerAsset_of_new parts.1)]
    refine ih order.2 _ ?_
    grind [Finmap.mem_insert]

theorem restoreCommitments_of_room (commitments : List Commitment) (state : LedgerState)
    (room : state.commitmentTree.len + commitments.length <= state.commitmentTree.capacity) :
    ∃ tree, tree.depth = state.commitmentTree.depth /\
      tree.commitments = state.commitmentTree.commitments ++ commitments /\
      restoreCommitments commitments state = .ok () { state with
        commitmentTree := tree
        commitments := state.commitments ∪ commitments.toFinset } := by
  induction commitments generalizing state with
  | nil =>
    refine ⟨state.commitmentTree, rfl, (List.append_nil _).symm, ?_⟩
    rw [List.toFinset_nil, Finset.union_empty]
    rfl
  | cons commitment rest ih =>
    rw [List.length_cons] at room
    rcases append_of_room commitment
      (show state.commitmentTree.len < state.commitmentTree.capacity by omega) with
      ⟨index, middle, appended, depth, leaves⟩
    have roomLeft : middle.len + rest.length <= middle.capacity := by
      rw [len_of_appended leaves, capacity_of_depth depth]
      omega
    rcases ih { state with
        commitmentTree := middle
        commitments := insert commitment state.commitments } roomLeft with
      ⟨tree, sameDepth, allLeaves, finished⟩
    refine ⟨tree, sameDepth.trans depth, ?_, ?_⟩
    · rw [allLeaves, leaves, List.append_assoc, List.singleton_append]
    · rw [restoreCommitments, get_bind, appended]
      refine (bind_of_ok rfl).trans (finished.trans ?_)
      rw [List.toFinset_cons, Finset.insert_union, Finset.union_insert]

structure RestoredFrom (state : LedgerState) (snapshot : LedgerSnapshot) : Prop where
  assets : state.assets = insertAll ∅ (snapshot.assets.map keyed)
  commitments : state.commitments = snapshot.commitments.toFinset
  depth : state.commitmentTree.depth = snapshot.treeDepth
  leaves : state.commitmentTree.commitments = snapshot.commitments
  spentNullifiers : state.spentNullifiers = snapshot.spentNullifiers.toFinset
  issuedSupply : state.issuedSupply = insertAll ∅ snapshot.issuedSupply
  acceptedTransactions : state.acceptedTransactions = snapshot.acceptedTransactions.toFinset

variable {snapshot : LedgerSnapshot}

theorem restore_of_canonical (canonical : snapshot.Canonical) {empty}
    (depth : empty.depth = snapshot.treeDepth) (noLeaves : empty.commitments = []) :
    ∃ state, restore snapshot ⟨∅, ∅, empty, ∅, ∅, ∅⟩ = .ok () state /\
      state.RestoredFrom snapshot := by
  have registered : mapFailure LedgerSnapshotError.ledger (registerAll snapshot.assets)
      ⟨∅, ∅, empty, ∅, ∅, ∅⟩ =
        .ok () ⟨insertAll ∅ (snapshot.assets.map keyed), ∅, empty, ∅, ∅, ∅⟩ := by
    rw [mapFailure, registerAll_of_sorted canonical.assetsSorted _ (fun _ _ => Finmap.notMem_empty)]
  have room : empty.len + snapshot.commitments.length <= empty.capacity := by
    rw [MerkleTree.len, MerkleTree.capacity, depth, noLeaves, List.length_nil, Nat.zero_add]
    exact canonical.withinCapacity
  rcases restoreCommitments_of_room snapshot.commitments
    ⟨insertAll ∅ (snapshot.assets.map keyed), ∅, empty, ∅, ∅, ∅⟩ room with
    ⟨tree, sameDepth, leaves, appended⟩
  refine ⟨{
    assets := insertAll ∅ (snapshot.assets.map keyed)
    commitments := ∅ ∪ snapshot.commitments.toFinset
    commitmentTree := tree
    spentNullifiers := ∅ ∪ snapshot.spentNullifiers.toFinset
    issuedSupply := insertAll ∅ snapshot.issuedSupply
    acceptedTransactions := ∅ ∪ snapshot.acceptedTransactions.toFinset }, ?_, ?_⟩
  · rw [restore, bind_of_ok registered, bind_of_ok appended]
    rfl
  · constructor
    case assets => rfl
    case commitments => exact Finset.empty_union _
    case depth => exact sameDepth.trans depth
    case leaves =>
      rw [leaves, noLeaves]
      rfl
    case spentNullifiers => exact Finset.empty_union _
    case issuedSupply => rfl
    case acceptedTransactions => exact Finset.empty_union _

/-- A canonical snapshot is always replayed. -/
theorem fromSnapshot_of_canonical (canonical : snapshot.Canonical) :
    ∃ state, fromSnapshot snapshot = .ok state /\ state.RestoredFrom snapshot := by
  let empty : MerkleTree := ⟨snapshot.treeDepth, [], canonical.depthValid, Nat.zero_le _⟩
  have made : MerkleTree.new snapshot.treeDepth = .ok empty :=
    MerkleTree.new_eq_ok.mpr ⟨rfl, rfl⟩
  rcases restore_of_canonical canonical (show empty.depth = snapshot.treeDepth from rfl) rfl with
    ⟨state, replayed, restored⟩
  have created : LedgerState.new snapshot.treeDepth = .ok ⟨∅, ∅, empty, ∅, ∅, ∅⟩ := by
    rw [LedgerState.new, made]
    rfl
  refine ⟨state, ?_, restored⟩
  unfold fromSnapshot
  rw [LedgerSnapshot.fromCanonicalParts_eq_ok.mpr ⟨rfl, canonical⟩]
  refine Except.bind_eq_ok.mpr ⟨snapshot, rfl, Except.bind_eq_ok.mpr ⟨_,
    Except.mapError_eq_ok.mpr created, ?_⟩⟩
  rw [replayed]

/-! ## Well-formed states and their listings -/

/-- The parts a state exports. -/
def listing (state : LedgerState) : LedgerSnapshot where
  treeDepth := state.commitmentTree.depth
  assets := state.sortedAssets
  commitments := state.commitmentTree.commitments
  spentNullifiers := state.sortedNullifiers
  issuedSupply := state.sortedSupply
  acceptedTransactions := state.sortedTransactions

variable {state : LedgerState}

theorem snapshot_eq_ok {exported} :
    state.snapshot = .ok exported <-> exported = state.listing /\ state.listing.Canonical := by
  rw [snapshot, Except.mapError_eq_ok]
  exact @LedgerSnapshot.fromCanonicalParts_eq_ok state.listing exported

/-- Every asset is stored under its own identifier and has passed the checks
of its constructor. -/
structure SoundAssets (state : LedgerState) : Prop where
  ownKey : forall key asset, state.assets.lookup key = some asset -> asset.id = key
  built : forall key asset, state.assets.lookup key = some asset -> asset.Built

/-- The invariants that make a state exportable. -/
structure WellFormed (state : LedgerState) : Prop extends SoundAssets state where
  leavesNodup : state.commitmentTree.commitments.Nodup
  lookupSet : state.commitments = state.commitmentTree.commitments.toFinset
  registered : forall asset, asset ∈ state.issuedSupply -> asset ∈ state.assets

theorem pairwise_values (sound : state.SoundAssets) :
    ((sortedEntries state.assets).map Prod.snd).Pairwise (fun left right => left.id < right.id) := by
  rw [List.pairwise_map]
  refine (pairwise_sortedEntries state.assets).imp_of_mem ?_
  intro left right leftMember rightMember before
  rw [sound.ownKey _ _ (mem_sortedEntries.mp leftMember),
    sound.ownKey _ _ (mem_sortedEntries.mp rightMember)]
  exact before

/-- Sorting by identifier changes nothing when the keys are the identifiers. -/
theorem sortedAssets_eq (sound : state.SoundAssets) :
    state.sortedAssets = (sortedEntries state.assets).map Prod.snd :=
  ((pairwise_values sound).imp le_of_lt).insertionSort_eq

theorem map_keyed_sortedAssets (sound : state.SoundAssets) :
    state.sortedAssets.map keyed = sortedEntries state.assets := by
  rw [sortedAssets_eq sound, List.map_map]
  refine (List.map_congr_left ?_).trans (List.map_id _)
  intro entry member
  exact Prod.ext (sound.ownKey _ _ (mem_sortedEntries.mp member)) rfl

theorem canonical_listing (wellFormed : state.WellFormed) : state.listing.Canonical := by
  have assets : state.listing.assets = (sortedEntries state.assets).map Prod.snd :=
    sortedAssets_eq wellFormed.toSoundAssets
  constructor
  case assetsBuilt =>
    rw [assets]
    intro asset member
    rcases List.mem_map.mp member with ⟨entry, listed, rfl⟩
    exact wellFormed.built _ _ (mem_sortedEntries.mp listed)
  case assetsSorted =>
    rw [assets]
    exact pairwise_values wellFormed.toSoundAssets
  case depthValid => exact state.commitmentTree.depthValid
  case commitmentsNodup => exact wellFormed.leavesNodup
  case withinCapacity => exact state.commitmentTree.withinCapacity
  case nullifiersSorted => exact pairwise_sortedList _
  case transactionsSorted => exact pairwise_sortedList _
  case supplySorted => exact pairwise_sortedEntries _
  case supplyKnown =>
    intro entry member
    have recorded := Finmap.mem_of_lookup_eq_some (mem_sortedEntries.mp member)
    rcases Finmap.mem_iff.mp (wellFormed.registered _ recorded) with ⟨asset, stored⟩
    rw [assets, List.map_map]
    refine List.mem_map.mpr ⟨(entry.1, asset), mem_sortedEntries.mpr stored, ?_⟩
    exact wellFormed.ownKey _ _ stored

theorem eq_of_restoredFrom_listing {restored} (wellFormed : state.WellFormed)
    (replayed : restored.RestoredFrom state.listing) : restored = state := by
  apply LedgerState.ext
  · rw [replayed.assets]
    change insertAll ∅ (state.sortedAssets.map keyed) = _
    rw [map_keyed_sortedAssets wellFormed.toSoundAssets, insertAll_sortedEntries]
  · rw [replayed.commitments, wellFormed.lookupSet]
    rfl
  · exact MerkleTree.ext replayed.depth replayed.leaves
  · rw [replayed.spentNullifiers]
    exact toFinset_sortedList _
  · rw [replayed.issuedSupply]
    exact insertAll_sortedEntries _
  · rw [replayed.acceptedTransactions]
    exact toFinset_sortedList _

theorem pairwise_keyed (sorted : assets.Pairwise (fun left right => left.id < right.id)) :
    (assets.map keyed).Pairwise (fun left right => left.1 < right.1) :=
  List.pairwise_map.mpr sorted

theorem wellFormed_of_restoredFrom (canonical : snapshot.Canonical)
    (replayed : state.RestoredFrom snapshot) : state.WellFormed := by
  have stored : forall key asset, state.assets.lookup key = some asset ->
      asset.id = key /\ asset ∈ snapshot.assets := by
    intro key asset found
    rw [replayed.assets, lookup_insertAll (pairwise_keyed canonical.assetsSorted)] at found
    rcases found with listed | ⟨impossible, _⟩
    · rcases List.mem_map.mp listed with ⟨other, member, same⟩
      cases same
      exact ⟨rfl, member⟩
    · rw [Finmap.lookup_empty] at impossible
      cases impossible
  refine { ownKey := fun key asset found => (stored key asset found).1,
           built := fun key asset found => canonical.assetsBuilt asset (stored key asset found).2,
           leavesNodup := ?_, lookupSet := ?_, registered := ?_ }
  · rw [replayed.leaves]
    exact canonical.commitmentsNodup
  · rw [replayed.commitments, replayed.leaves]
  · intro assetId recorded
    rcases Finmap.mem_iff.mp recorded with ⟨amount, found⟩
    rw [replayed.issuedSupply, lookup_insertAll canonical.supplySorted] at found
    rcases found with listed | ⟨impossible, _⟩
    · rcases List.mem_map.mp (canonical.supplyKnown _ listed) with ⟨asset, member, sameId⟩
      refine Finmap.mem_of_lookup_eq_some (b := asset) ?_
      rw [replayed.assets, lookup_insertAll (pairwise_keyed canonical.assetsSorted)]
      exact Or.inl (List.mem_map.mpr ⟨asset, member, Prod.ext sameId rfl⟩)
    · rw [Finmap.lookup_empty] at impossible
      cases impossible

theorem listing_of_restoredFrom (canonical : snapshot.Canonical)
    (replayed : state.RestoredFrom snapshot) : state.listing = snapshot := by
  have sound := (wellFormed_of_restoredFrom canonical replayed).toSoundAssets
  apply LedgerSnapshot.ext
  · exact replayed.depth
  · change state.sortedAssets = _
    rw [sortedAssets_eq sound, replayed.assets,
      sortedEntries_insertAll (pairwise_keyed canonical.assetsSorted), List.map_map]
    exact List.map_id _
  · exact replayed.leaves
  · change sortedList state.spentNullifiers = _
    rw [replayed.spentNullifiers, sortedList_toFinset canonical.nullifiersSorted]
  · change sortedEntries state.issuedSupply = _
    rw [replayed.issuedSupply, sortedEntries_insertAll canonical.supplySorted]
  · change sortedList state.acceptedTransactions = _
    rw [replayed.acceptedTransactions, sortedList_toFinset canonical.transactionsSorted]

theorem snapshot_of_wellFormed (wellFormed : state.WellFormed) :
    state.snapshot = .ok state.listing /\ fromSnapshot state.listing = .ok state := by
  have canonical := canonical_listing wellFormed
  rcases fromSnapshot_of_canonical canonical with ⟨restored, replayed, facts⟩
  rw [eq_of_restoredFrom_listing wellFormed facts] at replayed
  exact ⟨snapshot_eq_ok.mpr ⟨rfl, canonical⟩, replayed⟩

theorem eq_of_listing_eq {left right : LedgerState} (leftFormed : left.WellFormed)
    (rightFormed : right.WellFormed) (same : left.listing = right.listing) : left = right := by
  have restored := (snapshot_of_wellFormed leftFormed).2
  rw [same, (snapshot_of_wellFormed rightFormed).2] at restored
  exact (Except.ok.inj restored).symm

theorem wellFormed_of_accepts {next transaction} (wellFormed : state.WellFormed)
    (accepts : state.Accepts transaction next) : next.WellFormed := by
  have fresh := accepts.outputs.fresh
  rw [wellFormed.lookupSet] at fresh
  constructor
  case toSoundAssets =>
    constructor
    · rw [accepts.assets]
      exact wellFormed.ownKey
    · rw [accepts.assets]
      exact wellFormed.built
  case leavesNodup =>
    rw [accepts.appended.leaves]
    refine wellFormed.leavesNodup.append accepts.outputs.nodup ?_
    intro commitment older newer
    exact fresh commitment newer (List.mem_toFinset.mpr older)
  case lookupSet =>
    rw [accepts.appended.lookup, accepts.appended.leaves, List.toFinset_append,
      wellFormed.lookupSet]
  case registered =>
    intro asset recorded
    rw [accepts.assets]
    exact registered_of_step wellFormed.registered accepts.supply asset recorded

theorem wellFormed_of_represents {history} (represented : state.Represents history)
    (sound : state.SoundAssets) : state.WellFormed :=
  { sound with
    leavesNodup := represented.leaves ▸ represented.outputs.nodup
    lookupSet := represented.leaves ▸ represented.outputs.elements
    registered := represented.registered }

section
variable [Sha256]

theorem soundAssets_of_step {state : LedgerState} (sound : state.SoundAssets) {call : LedgerCall}
    (built : forall asset, call = .registerAsset asset -> asset.Built) :
    (state.step call).1.SoundAssets := by
  have stepped := stepped_step state call
  generalize state.step call = result at stepped ⊢
  cases stepped with
  | registered asset next done =>
    rcases registerAsset_eq_ok done with ⟨_, rfl⟩
    have stored : forall key other, (state.assets.insert asset.id asset).lookup key = some other ->
        (key = asset.id /\ other = asset) ∨ state.assets.lookup key = some other := by
      intro key other found
      by_cases same : key = asset.id
      · grind [Finmap.lookup_insert]
      grind [Finmap.lookup_insert_of_ne]
    constructor
    · intro key other found
      rcases stored key other found with ⟨rfl, rfl⟩ | older
      · rfl
      · exact sound.ownKey key other older
    · intro key other found
      rcases stored key other found with ⟨rfl, rfl⟩ | older
      · exact built other rfl
      · exact sound.built key other older
  | accepted transaction verifier policy context next accepts =>
    have same : next.assets = state.assets := accepts.assets
    constructor
    · rw [same]
      exact sound.ownKey
    · rw [same]
      exact sound.built
  | rejected => exact sound

theorem soundAssets_of_run {depth : UInt8} {start : LedgerState}
    (created : LedgerState.new depth = .ok start) (calls : List LedgerCall)
    (built : forall asset, .registerAsset asset ∈ calls -> asset.Built) :
    (run step start calls).1.SoundAssets := by
  refine run_invariant step (fun state _ => state.SoundAssets) ?_ calls ?_
  · rcases new_eq_ok created with ⟨tree, _, rfl⟩
    constructor <;> intro key asset impossible <;> rw [Finmap.lookup_empty] at impossible <;>
      cases impossible
  grind [soundAssets_of_step]

/-- Snapshots and states represent each other.  A state reached with assets
made by their constructor is exported without an abort, and its snapshot is
replayed into the very same state: the same assets, ordered leaves,
nullifiers, supplies and accepted identifiers, hence the same identifier under
every genesis and the same verdict on every later transaction.  Conversely,
accepted parts are replayed into a state whose snapshot is those parts. -/
theorem snapshot_and_fromSnapshot_inverse :
    (forall depth start, LedgerState.new depth = .ok start -> forall calls,
      (forall asset, .registerAsset asset ∈ calls ->
        ∃ id ticker kind, AssetDefinition.new id ticker kind = .ok asset) ->
      ∃ exported, (run step start calls).1.snapshot = .ok exported /\
        fromSnapshot exported = .ok (run step start calls).1) /\
    (forall treeDepth assets commitments spentNullifiers issuedSupply acceptedTransactions exported,
      LedgerSnapshot.fromCanonicalParts treeDepth assets commitments spentNullifiers issuedSupply
        acceptedTransactions = .ok exported ->
      ∃ state, fromSnapshot exported = .ok state /\
        state.snapshot = .ok ⟨treeDepth, assets, commitments, spentNullifiers, issuedSupply,
          acceptedTransactions⟩) := by
  constructor
  · intro depth start created calls constructed
    have built : forall asset, .registerAsset asset ∈ calls -> asset.Built := by
      intro asset member
      rcases constructed asset member with ⟨_, _, _, made⟩
      exact AssetDefinition.built_of_new made
    have wellFormed := wellFormed_of_represents (represents_of_run created calls)
      (soundAssets_of_run created calls built)
    exact ⟨_, snapshot_of_wellFormed wellFormed⟩
  · intro treeDepth assets commitments spentNullifiers issuedSupply acceptedTransactions exported
      accepted
    rcases (@LedgerSnapshot.fromCanonicalParts_eq_ok ⟨treeDepth, assets, commitments,
      spentNullifiers, issuedSupply, acceptedTransactions⟩ exported).mp accepted with
      ⟨rfl, canonical⟩
    rcases fromSnapshot_of_canonical canonical with ⟨state, replayed, restored⟩
    refine ⟨state, replayed, snapshot_eq_ok.mpr ?_⟩
    rw [listing_of_restoredFrom canonical restored]
    exact ⟨rfl, canonical⟩

end

open Fips180 in
theorem testCalls_snapshot_and_fromSnapshot :
    ∃ exported, (run step testStart (testCalls testStart)).1.snapshot = .ok exported /\
      fromSnapshot exported = .ok (run step testStart (testCalls testStart)).1 := by
  refine snapshot_and_fromSnapshot_inverse.1 1 testStart new_testStart (testCalls testStart) ?_
  intro asset member
  rcases List.mem_cons.mp member with same | later
  · cases same
    exact ⟨testAsset.id, testAsset.ticker, testAsset.kind, rfl⟩
  · rcases List.mem_cons.mp later with impossible | last
    · cases impossible
    · cases List.mem_singleton.mp last

end LedgerState
end Noxis.Ledger
