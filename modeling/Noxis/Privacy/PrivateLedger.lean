import Noxis.Foundation.Sha256
import Noxis.Privacy.StateAnchor

namespace Noxis.Privacy

open Foundation CandidatePrivateStateSnapshotV1

/-!
# The private ledger

The ledger keeps the assets, a snapshot, a nullifier tree and their anchor.  A
transfer is prepared on copies: the anchor is rebuilt, the intent has to start
from it, both nullifiers have to be unspent, and the next snapshot, tree and
anchor are made.  Only then does an authorizer decide, and an accepted transfer
replaces the three parts at once.
-/

variable {candidate : Poseidon2P24Candidate} {A : Type}

inductive CandidatePrivateStateTransitionV2Error where
  | snapshot (reason : CandidatePrivateStateError)
  | preAnchor (reason : PrivateStateAnchorV2Error)
  | intent (reason : PrivateStateAnchorError)
  | sparseTree (reason : NullifierSparseTreeStateError)
  | preAnchorMismatch
  | inputAlreadySpent (index : Nat)
  | postStateMismatch
deriving DecidableEq

structure CandidatePrivateStateTransitionV2 (candidate : Poseidon2P24Candidate) where
  preAnchor : PrivateStateAnchorV2
  postAnchor : PrivateStateAnchorV2
  postSnapshot : CandidatePrivateStateSnapshotV1 candidate
  postTree : NullifierSparseTreeStateV1

instance : DecidableEq (CandidatePrivateStateSnapshotV1 candidate) := fun left right =>
  decidable_of_iff (left.commitments = right.commitments /\
    left.spentNullifiers = right.spentNullifiers /\ left.root = right.root)
    CandidatePrivateStateSnapshotV1.ext_iff.symm

section
variable [Sha256] (reference : NullifierSparseTreeReferenceV1)

def spendInputs (intent : PrivateTransferIntentV2) (tree : NullifierSparseTreeStateV1) :
    Except CandidatePrivateStateTransitionV2Error NullifierSparseTreeStateV1 :=
  match markAll reference intent.nullifierList tree with
  | .error reason _ => .error (.sparseTree reason)
  | .ok _ next => .ok next

def refuseSpent (intent : PrivateTransferIntentV2) (tree : NullifierSparseTreeStateV1)
    (index : Fin 2) : Except CandidatePrivateStateTransitionV2Error Unit :=
  if tree.isSpent (intent.nullifiers index) then .error (.inputAlreadySpent index.val) else .ok ()

namespace CandidatePrivateStateTransitionV2

def apply (preAnchor : PrivateStateAnchorV2)
    (preSnapshot : CandidatePrivateStateSnapshotV1 candidate)
    (preTree : NullifierSparseTreeStateV1) (intent : PrivateTransferIntentV2) :
    Except CandidatePrivateStateTransitionV2Error (CandidatePrivateStateTransitionV2 candidate) := do
  let rebuilt ← (PrivateStateAnchorV2.new reference preAnchor.genesisId
    preAnchor.validationContextId preAnchor.noteTreeParameters preSnapshot preTree).mapError
      .preAnchor
  if rebuilt ≠ preAnchor then
    .error .preAnchorMismatch
  else do
    (preAnchor.assertMatchesIntent intent).mapError .intent
    (List.finRange 2).forM (refuseSpent intent preTree)
    let postTree ← spendInputs reference intent preTree
    let postSnapshot ← (CandidatePrivateStateSnapshotV1.new
      (preSnapshot.commitments ++ intent.outputCommitments)
      (preSnapshot.spentNullifiers ++ intent.nullifierList)).mapError .snapshot
    let postAnchor ← (PrivateStateAnchorV2.new reference preAnchor.genesisId
      preAnchor.validationContextId preAnchor.noteTreeParameters postSnapshot postTree).mapError
        .preAnchor
    .ok { preAnchor, postAnchor, postSnapshot, postTree }

/-- Repeat the transition and compare the results. -/
def revalidate (transition : CandidatePrivateStateTransitionV2 candidate)
    (preAnchor : PrivateStateAnchorV2) (preSnapshot : CandidatePrivateStateSnapshotV1 candidate)
    (preTree : NullifierSparseTreeStateV1) (intent : PrivateTransferIntentV2) :
    Except CandidatePrivateStateTransitionV2Error Unit := do
  let expected ← apply reference preAnchor preSnapshot preTree intent
  if expected.preAnchor ≠ transition.preAnchor ∨ expected.postAnchor ≠ transition.postAnchor ∨
      expected.postSnapshot ≠ transition.postSnapshot ∨
      expected.postTree.root reference ≠ transition.postTree.root reference ∨
      expected.postTree.spentCount ≠ transition.postTree.spentCount then
    .error .postStateMismatch
  else
    .ok ()

end CandidatePrivateStateTransitionV2
end

/-! ## The ledger -/

inductive CandidatePrivateTransferAuthorizationError where
  | rejected
deriving DecidableEq, Repr

inductive CandidatePrivateLedgerError where
  | stateConstruction (reason : PrivateStateAnchorV2Error)
  | assetAlreadyRegistered (asset : AssetId)
  | unknownAsset (asset : AssetId)
  | stateTransition (reason : CandidatePrivateStateTransitionV2Error)
  | authorization (reason : CandidatePrivateTransferAuthorizationError)
deriving DecidableEq

structure CandidatePrivateTransferRequestV1 (A : Type) where
  intent : PrivateTransferIntentV2
  authorization : A

/-- Accept or reject the material of a request for a state and an intent. -/
abbrev CandidatePrivateTransferAuthorizer (A : Type) : Type :=
  A -> PrivateStateAnchorV2 -> NullifierSparseTreeStateV1 -> PrivateTransferIntentV2 ->
    Except CandidatePrivateTransferAuthorizationError Unit

structure CandidatePrivateTransferAdmissionReceiptV1 where
  preStateId : StateId
  postStateId : StateId
  assetId : AssetId
  inputNullifiers : List NullifierV2
  outputCommitments : List NoteCommitmentV2
deriving DecidableEq

structure CandidatePrivateLedgerStateV1 (candidate : Poseidon2P24Candidate) where
  assets : Table AssetId AssetDefinition
  snapshot : CandidatePrivateStateSnapshotV1 candidate
  nullifierTree : NullifierSparseTreeStateV1
  anchor : PrivateStateAnchorV2

namespace CandidatePrivateLedgerStateV1

def registerAsset (asset : AssetDefinition) :
    EStateM CandidatePrivateLedgerError (CandidatePrivateLedgerStateV1 candidate) Unit := do
  let state ← get
  if asset.id ∈ state.assets then
    throw (.assetAlreadyRegistered asset.id)
  else
    set { state with assets := state.assets.insert asset.id asset }

variable [Sha256] (reference : NullifierSparseTreeReferenceV1)

def new (genesisId : GenesisId) (validationContextId : ValidationContextId)
    (noteTreeParameters : TreeParametersV2)
    (snapshot : CandidatePrivateStateSnapshotV1 candidate)
    (nullifierTree : NullifierSparseTreeStateV1) :
    Except CandidatePrivateLedgerError (CandidatePrivateLedgerStateV1 candidate) := do
  let anchor ← (PrivateStateAnchorV2.new reference genesisId validationContextId
    noteTreeParameters snapshot nullifierTree).mapError .stateConstruction
  .ok { assets := ∅, snapshot, nullifierTree, anchor }

def prepareTransfer (state : CandidatePrivateLedgerStateV1 candidate)
    (request : CandidatePrivateTransferRequestV1 A)
    (authorizer : CandidatePrivateTransferAuthorizer A) :
    Except CandidatePrivateLedgerError (CandidatePrivateStateTransitionV2 candidate) :=
  if request.intent.assetId ∉ state.assets then
    .error (.unknownAsset request.intent.assetId)
  else do
    let transition ← (CandidatePrivateStateTransitionV2.apply reference state.anchor state.snapshot
      state.nullifierTree request.intent).mapError .stateTransition
    (authorizer request.authorization state.anchor state.nullifierTree request.intent).mapError
      .authorization
    (transition.revalidate reference state.anchor state.snapshot state.nullifierTree
      request.intent).mapError .stateTransition
    .ok transition

def applyTransfer (request : CandidatePrivateTransferRequestV1 A)
    (authorizer : CandidatePrivateTransferAuthorizer A) :
    EStateM CandidatePrivateLedgerError (CandidatePrivateLedgerStateV1 candidate)
      CandidatePrivateTransferAdmissionReceiptV1 := do
  let state ← get
  let transition ← check (state.prepareTransfer reference request authorizer)
  set { state with
    snapshot := transition.postSnapshot
    nullifierTree := transition.postTree
    anchor := transition.postAnchor }
  return {
    preStateId := transition.preAnchor.stateId
    postStateId := transition.postAnchor.stateId
    assetId := request.intent.assetId
    inputNullifiers := request.intent.nullifierList
    outputCommitments := request.intent.outputCommitments }

end CandidatePrivateLedgerStateV1

section
variable [Sha256] {reference : NullifierSparseTreeReferenceV1}
  {state next : CandidatePrivateLedgerStateV1 candidate}

/-- The facts that an applied transition rests on. -/
structure Applied (reference : NullifierSparseTreeReferenceV1)
    (preSnapshot : CandidatePrivateStateSnapshotV1 candidate)
    (preTree : NullifierSparseTreeStateV1) (intent : PrivateTransferIntentV2)
    (transition : CandidatePrivateStateTransitionV2 candidate) : Prop where
  unspent : forall index, preTree.isSpent (intent.nullifiers index) = false
  marked : markAll reference intent.nullifierList preTree = .ok () transition.postTree
  commitments : transition.postSnapshot.commitments =
    preSnapshot.commitments ++ intent.outputCommitments
  spent : transition.postSnapshot.spentNullifiers.Perm
    (preSnapshot.spentNullifiers ++ intent.nullifierList)
  anchored : AnchorsState reference transition.postSnapshot transition.postTree
    transition.postAnchor

variable {intent : PrivateTransferIntentV2} {tree : NullifierSparseTreeStateV1}

omit [Sha256] in
theorem refuseSpent_eq_ok {index} : refuseSpent intent tree index = .ok () <->
      tree.isSpent (intent.nullifiers index) = false := by
  simp [refuseSpent]

variable {transition : CandidatePrivateStateTransitionV2 candidate}

theorem applied_of_apply_eq_ok {preAnchor preSnapshot preTree}
    (applied : CandidatePrivateStateTransitionV2.apply reference preAnchor preSnapshot preTree
      intent = .ok transition) :
    Applied reference preSnapshot preTree intent transition /\
      PrivateStateAnchorV2.new reference preAnchor.genesisId preAnchor.validationContextId
        preAnchor.noteTreeParameters transition.postSnapshot transition.postTree =
          .ok transition.postAnchor := by
  rcases Except.bind_eq_ok.mp applied with ⟨rebuilt, _, applied⟩
  rcases Except.refuse_eq_ok.mp applied with ⟨_, applied⟩
  rcases Except.bind_eq_ok.mp applied with ⟨_, _, applied⟩
  rcases Except.bind_eq_ok.mp applied with ⟨_, unspent, applied⟩
  rcases Except.bind_eq_ok.mp applied with ⟨postTree, marked, applied⟩
  rcases Except.bind_eq_ok.mp applied with ⟨postSnapshot, isSnapshot, applied⟩
  rcases Except.bind_eq_ok.mp applied with ⟨postAnchor, isAnchor, isTransition⟩
  have snapshotParts := of_new_eq_ok (Except.mapError_eq_ok.mp isSnapshot)
  have made := Except.mapError_eq_ok.mp isAnchor
  rw [← Except.ok.inj isTransition]
  refine ⟨?_, made⟩
  constructor
  case unspent =>
    intro index
    exact refuseSpent_eq_ok.mp (Except.forM_eq_ok.mp unspent index (List.mem_finRange index))
  case marked =>
    grind [spendInputs]
  case commitments => exact snapshotParts.1
  case spent => exact snapshotParts.2
  case anchored => exact anchorsState_of_new made

variable {request : CandidatePrivateTransferRequestV1 A}
  {authorizer : CandidatePrivateTransferAuthorizer A}
  {receipt : CandidatePrivateTransferAdmissionReceiptV1}
  (accepted : CandidatePrivateLedgerStateV1.applyTransfer reference request authorizer
  state = .ok receipt next)

include accepted in
/-- An accepted transfer of a registered asset replaces three parts of the ledger
by those of a transition. -/
theorem exists_transition_of_applyTransfer :
    ∃ transition, request.intent.assetId ∈ state.assets /\
      CandidatePrivateStateTransitionV2.apply reference state.anchor state.snapshot
        state.nullifierTree request.intent = .ok transition /\
      next = { state with
        snapshot := transition.postSnapshot
        nullifierTree := transition.postTree
        anchor := transition.postAnchor } /\
      receipt = {
        preStateId := transition.preAnchor.stateId
        postStateId := transition.postAnchor.stateId
        assetId := request.intent.assetId
        inputNullifiers := request.intent.nullifierList
        outputCommitments := request.intent.outputCommitments } := by
  rw [CandidatePrivateLedgerStateV1.applyTransfer, get_bind] at accepted
  rcases bind_eq_ok.mp accepted with ⟨transition, middle, prepared, committed⟩
  rcases check_eq_ok.mp prepared with ⟨prepared, sameState⟩
  rcases Except.refuse_eq_ok.mp prepared with ⟨registered, prepared⟩
  rcases Except.bind_eq_ok.mp prepared with ⟨found, isApplied, prepared⟩
  rcases Except.bind_eq_ok.mp prepared with ⟨_, _, prepared⟩
  rcases Except.bind_eq_ok.mp prepared with ⟨_, _, isFound⟩
  have same := Except.ok.inj isFound
  subst same
  cases committed
  exact ⟨found, not_not.mp registered, Except.mapError_eq_ok.mp isApplied, rfl, rfl⟩

include accepted in
theorem applyTransfer_eq_ok :
    ∃ transition, Applied reference state.snapshot state.nullifierTree request.intent transition /\
      next = { state with
        snapshot := transition.postSnapshot
        nullifierTree := transition.postTree
        anchor := transition.postAnchor } := by
  rcases exists_transition_of_applyTransfer accepted with ⟨transition, _, applied, isNext, _⟩
  exact ⟨transition, (applied_of_apply_eq_ok applied).1, isNext⟩

theorem keepsOnFailure_applyTransfer (request : CandidatePrivateTransferRequestV1 A)
    (authorizer : CandidatePrivateTransferAuthorizer A) :
    KeepsOnFailure (CandidatePrivateLedgerStateV1.applyTransfer reference request authorizer :
      EStateM _ (CandidatePrivateLedgerStateV1 candidate) _) := by
  apply KeepsOnFailure.get_bind
  intro current
  apply KeepsOnFailure.check_bind
  intro transition _
  exact .of_total (fun _ => ⟨_, _, rfl⟩)

omit [Sha256] in
theorem keepsOnFailure_registerAsset (asset : AssetDefinition) :
    KeepsOnFailure (CandidatePrivateLedgerStateV1.registerAsset asset :
      EStateM _ (CandidatePrivateLedgerStateV1 candidate) _) := by
  apply KeepsOnFailure.get_bind
  intro current
  apply KeepsOnFailure.ite
  · exact .throw _
  · exact .of_total (fun _ => ⟨_, _, rfl⟩)

omit [Sha256] in
/-- Registering an asset changes the registry only. -/
theorem eq_of_registerAsset {asset}
    (registered : CandidatePrivateLedgerStateV1.registerAsset asset state = .ok () next) :
    next.snapshot = state.snapshot /\ next.nullifierTree = state.nullifierTree /\
      next.anchor = state.anchor := by
  rw [CandidatePrivateLedgerStateV1.registerAsset, get_bind] at registered
  split at registered
  · cases registered
  · cases registered
    exact ⟨rfl, rfl, rfl⟩

variable {snapshot : CandidatePrivateStateSnapshotV1 candidate}

omit [Sha256] in
/-- A snapshot that lists more nullifiers holds them in its set. -/
theorem spentSet_of_perm {post : CandidatePrivateStateSnapshotV1 candidate}
    {nullifiers : List NullifierV2}
    (listed : post.spentNullifiers.Perm (snapshot.spentNullifiers ++ nullifiers)) :
    post.spentSet = snapshot.spentSet ∪ nullifiers.toFinset := by
  unfold spentSet
  rw [List.toFinset_eq_of_perm _ _ listed, List.toFinset_append]

variable {anchor : PrivateStateAnchorV2}

/-- A transfer that starts from the current state, spends unspent nullifiers and
publishes fresh commitments is applied. -/
theorem exists_apply (stores : StoresSet reference tree snapshot.spentSet)
    (rebuilt : PrivateStateAnchorV2.new reference anchor.genesisId anchor.validationContextId
      anchor.noteTreeParameters snapshot tree = .ok anchor)
    (starts : anchor.assertMatchesIntent intent = .ok ())
    (unspent : forall index, intent.nullifiers index ∉ snapshot.spentNullifiers)
    (room : (snapshot.commitments ++ intent.outputCommitments).length <=
      candidatePrivateStateMaxNotes)
    (fresh : (snapshot.commitments ++ intent.outputCommitments).Nodup) :
    ∃ transition, CandidatePrivateStateTransitionV2.apply reference anchor snapshot tree intent =
      .ok transition := by
  have notSpent (nullifier : NullifierV2) (listed : nullifier ∈ intent.nullifierList) :
      nullifier ∉ snapshot.spentNullifiers := by
    rcases List.mem_cons.mp listed with isFirst | rest
    · rw [isFirst]
      exact unspent 0
    · rw [List.mem_singleton.mp rest]
      exact unspent 1
  have accepted (index : Fin 2) : refuseSpent intent tree index = .ok () := by
    apply refuseSpent_eq_ok.mpr
    apply Bool.eq_false_iff.mpr
    intro isSpent
    exact unspent index (List.mem_toFinset.mp (stores.isSpent_iff.mp isSpent))
  rcases stores.markAll intent.nodup_nullifierList (fun nullifier listed member =>
    notSpent nullifier listed (List.mem_toFinset.mp member)) with ⟨postTree, marked, postStores⟩
  have distinctSpent : (snapshot.spentNullifiers ++ intent.nullifierList).Nodup := by
    apply List.nodup_append.mpr
    refine ⟨snapshot.sorted.imp (fun before => before.ne), intent.nodup_nullifierList, ?_⟩
    grind
  rcases @CandidatePrivateStateSnapshotV1.exists_new candidate _ _ room fresh distinctSpent with
    ⟨postSnapshot, isSnapshot⟩
  rw [← spentSet_of_perm (of_new_eq_ok isSnapshot).2] at postStores
  rcases @exists_new_of_storesSet candidate reference _ anchor.genesisId anchor.validationContextId
    anchor.noteTreeParameters postSnapshot postTree postStores with ⟨postAnchor, isAnchor⟩
  have spent : spendInputs reference intent tree = .ok postTree := by
    rw [spendInputs, marked]
  refine ⟨{ preAnchor := anchor, postAnchor, postSnapshot, postTree }, ?_⟩
  apply Except.bind_eq_ok.mpr ⟨anchor, Except.mapError_eq_ok.mpr rebuilt, ?_⟩
  apply Except.refuse_eq_ok.mpr ⟨not_not.mpr rfl, ?_⟩
  apply Except.bind_eq_ok.mpr ⟨(), Except.mapError_eq_ok.mpr starts, ?_⟩
  apply Except.bind_eq_ok.mpr ⟨(), Except.forM_eq_ok.mpr (fun index _ => accepted index), ?_⟩
  apply Except.bind_eq_ok.mpr ⟨postTree, spent, ?_⟩
  apply Except.bind_eq_ok.mpr ⟨postSnapshot, Except.mapError_eq_ok.mpr isSnapshot, ?_⟩
  exact Except.bind_eq_ok.mpr ⟨postAnchor, Except.mapError_eq_ok.mpr isAnchor, rfl⟩

/-- Repeating a transition on the same state gives the same results. -/
theorem revalidate_of_apply
    (applied : CandidatePrivateStateTransitionV2.apply reference anchor snapshot tree intent =
      .ok transition) : transition.revalidate reference anchor snapshot tree intent = .ok () := by
  apply Except.bind_eq_ok.mpr ⟨transition, applied, ?_⟩
  apply Except.refuse_eq_ok.mpr ⟨?_, rfl⟩
  simp

/-- An applied transition of a registered asset is accepted if its authorizer
accepts. -/
theorem applyTransfer_of_apply (registered : request.intent.assetId ∈ state.assets)
    (applied : CandidatePrivateStateTransitionV2.apply reference state.anchor state.snapshot
      state.nullifierTree request.intent = .ok transition)
    (authorized : authorizer request.authorization state.anchor state.nullifierTree
      request.intent = .ok ()) :
    CandidatePrivateLedgerStateV1.applyTransfer reference request authorizer state = .ok
      { preStateId := transition.preAnchor.stateId
        postStateId := transition.postAnchor.stateId
        assetId := request.intent.assetId
        inputNullifiers := request.intent.nullifierList
        outputCommitments := request.intent.outputCommitments }
      { state with
        snapshot := transition.postSnapshot
        nullifierTree := transition.postTree
        anchor := transition.postAnchor } := by
  have prepared : state.prepareTransfer reference request authorizer = .ok transition := by
    apply Except.refuse_eq_ok.mpr ⟨not_not.mpr registered, ?_⟩
    apply Except.bind_eq_ok.mpr ⟨transition, Except.mapError_eq_ok.mpr applied, ?_⟩
    apply Except.bind_eq_ok.mpr ⟨(), Except.mapError_eq_ok.mpr authorized, ?_⟩
    exact Except.bind_eq_ok.mpr ⟨(), Except.mapError_eq_ok.mpr (revalidate_of_apply applied), rfl⟩
  rw [CandidatePrivateLedgerStateV1.applyTransfer, get_bind, prepared]
  rfl

include accepted in
/-- A transfer that one authorizer accepts is accepted by one that always accepts. -/
theorem applyTransfer_of_accepted :
    CandidatePrivateLedgerStateV1.applyTransfer reference ⟨request.intent, ()⟩
      (fun _ _ _ _ => .ok ()) state = .ok receipt next := by
  rcases exists_transition_of_applyTransfer accepted with
    ⟨transition, registered, applied, rfl, rfl⟩
  grind [applyTransfer_of_apply]

end

/-! ## Runs -/

/-- A call that changes a private ledger, with everything its caller supplies. -/
inductive PrivateLedgerCall (A : Type) where
  | registerAsset (asset : AssetDefinition)
  | applyTransfer (request : CandidatePrivateTransferRequestV1 A)
      (authorizer : CandidatePrivateTransferAuthorizer A)

section
variable [Sha256] {reference : NullifierSparseTreeReferenceV1}

/-- Perform a call and record the intent of a transfer that is accepted. -/
def privateStep (reference : NullifierSparseTreeReferenceV1)
    (state : CandidatePrivateLedgerStateV1 candidate) :
    PrivateLedgerCall A -> CandidatePrivateLedgerStateV1 candidate × List PrivateTransferIntentV2
  | .registerAsset asset =>
    (finalState (CandidatePrivateLedgerStateV1.registerAsset asset state), [])
  | .applyTransfer request authorizer =>
    match CandidatePrivateLedgerStateV1.applyTransfer reference request authorizer state with
    | .ok _ next => (next, [request.intent])
    | .error _ next => (next, [])

/-- The tree, the list and the anchor describe one set of spent nullifiers, and
the anchor has the root of the listed commitments. -/
structure Synchronized (reference : NullifierSparseTreeReferenceV1)
    (state : CandidatePrivateLedgerStateV1 candidate) : Prop where
  stores : StoresSet reference state.nullifierTree state.snapshot.spentSet
  anchored : AnchorsState reference state.snapshot state.nullifierTree state.anchor

/-- A synchronized state reached from a start by accepting transfers. -/
structure Reached (reference : NullifierSparseTreeReferenceV1)
    (start state : CandidatePrivateLedgerStateV1 candidate)
    (history : List PrivateTransferIntentV2) : Prop where
  synchronized : Synchronized reference state
  commitments : state.snapshot.commitments = start.snapshot.commitments ++
    history.flatMap PrivateTransferIntentV2.outputCommitments
  spent : state.snapshot.spentNullifiers.Perm (start.snapshot.spentNullifiers ++
    history.flatMap PrivateTransferIntentV2.nullifierList)

variable {start state : CandidatePrivateLedgerStateV1 candidate}
  {history : List PrivateTransferIntentV2}

omit [Sha256] in
theorem Reached.of_unchanged {next} (reached : Reached reference start state history)
    (same : next.snapshot = state.snapshot /\ next.nullifierTree = state.nullifierTree /\
      next.anchor = state.anchor) : Reached reference start next (history ++ []) := by
  rcases same with ⟨sameSnapshot, sameTree, sameAnchor⟩
  rw [List.append_nil]
  constructor
  case synchronized =>
    constructor
    case stores =>
      rw [sameSnapshot, sameTree]
      exact reached.synchronized.stores
    case anchored =>
      rw [sameSnapshot, sameTree, sameAnchor]
      exact reached.synchronized.anchored
  case commitments =>
    rw [sameSnapshot]
    exact reached.commitments
  case spent =>
    rw [sameSnapshot]
    exact reached.spent

omit [Sha256] in
theorem Reached.of_applied {intent : PrivateTransferIntentV2}
    {transition : CandidatePrivateStateTransitionV2 candidate}
    (reached : Reached reference start state history)
    (applied : Applied reference state.snapshot state.nullifierTree intent transition) :
    Reached reference start
      { state with
        snapshot := transition.postSnapshot
        nullifierTree := transition.postTree
        anchor := transition.postAnchor } (history ++ [intent]) := by
  have stores := (reached.synchronized.stores.of_markAll_eq_ok applied.marked).2
  rw [← spentSet_of_perm applied.spent] at stores
  constructor
  case synchronized =>
    constructor
    case stores => exact stores
    case anchored => exact applied.anchored
  case commitments =>
    grind [Applied.commitments, commitments]
  case spent =>
    change transition.postSnapshot.spentNullifiers.Perm _
    rw [List.flatMap_append, List.flatMap_singleton, ← List.append_assoc]
    exact applied.spent.trans (reached.spent.append_right _)

theorem reached_privateStep (reached : Reached reference start state history)
    (call : PrivateLedgerCall A) :
    Reached reference start (privateStep reference state call).1
      (history ++ (privateStep reference state call).2) := by
  cases call with
  | registerAsset asset =>
    rw [privateStep]
    cases outcome : CandidatePrivateLedgerStateV1.registerAsset asset state with
    | ok _ next => exact reached.of_unchanged (eq_of_registerAsset outcome)
    | error reason next =>
      rw [keepsOnFailure_registerAsset asset state reason next outcome]
      exact reached.of_unchanged ⟨rfl, rfl, rfl⟩
  | applyTransfer request authorizer =>
    rw [privateStep]
    cases outcome : CandidatePrivateLedgerStateV1.applyTransfer reference request authorizer
      state with
    | ok receipt next =>
      rcases applyTransfer_eq_ok outcome with ⟨transition, applied, rfl⟩
      exact reached.of_applied applied
    | error reason next =>
      rw [keepsOnFailure_applyTransfer request authorizer state reason next outcome]
      exact reached.of_unchanged ⟨rfl, rfl, rfl⟩

/-- A created ledger is synchronized, or its tree collides with the tree of the
snapshot. -/
theorem synchronized_of_new {genesisId : GenesisId} {validationContextId : ValidationContextId}
    {noteTreeParameters : TreeParametersV2}
    {snapshot : CandidatePrivateStateSnapshotV1 candidate} {marked : List NullifierV2}
    {ledger : CandidatePrivateLedgerStateV1 candidate}
    (created : CandidatePrivateLedgerStateV1.new reference genesisId validationContextId
      noteTreeParameters snapshot (markEach reference .newCandidate marked) = .ok ledger) :
    Synchronized reference ledger ∨
      (TreesCollide reference (markEach reference .newCandidate marked)
          (markEach reference .newCandidate snapshot.spentNullifiers) ∨
        TreesCollide reference (markEach reference .newCandidate snapshot.spentNullifiers)
          (markEach reference .newCandidate marked)) := by
  rcases Except.bind_eq_ok.mp created with ⟨anchor, made, isLedger⟩
  have anchored := anchorsState_of_new (Except.mapError_eq_ok.mp made)
  have stores := storesSet_markEach reference marked
  have snapshotStores := storesSet_markEach reference snapshot.spentNullifiers
  have sameRoot : (markEach reference .newCandidate marked).root reference =
      (markEach reference .newCandidate snapshot.spentNullifiers).root reference := by
    rw [anchored.sameRoot, anchored.nullifierRoot, snapshotStores.root_eq]
    rfl
  rcases stores.eq_or_collide snapshotStores sameRoot with sameSet | collide
  · rw [sameSet] at stores
    rw [← Except.ok.inj isLedger]
    exact Or.inl ⟨stores, anchored⟩
  · exact Or.inr collide

end

/-- In every run of a created ledger, unless the supplied tree collides with the
tree of the snapshot: the tree, the sorted list and the anchor describe one set,
the anchor has the root of the ordered commitments, accepted transfers append
their outputs and spend their inputs, nothing is spent or appended twice, and a
failing call changes nothing. -/
theorem private_ledger_stays_synchronized [Sha256] (reference : NullifierSparseTreeReferenceV1)
    (genesisId : GenesisId) (validationContextId : ValidationContextId)
    (noteTreeParameters : TreeParametersV2)
    (snapshot : CandidatePrivateStateSnapshotV1 candidate) (marked : List NullifierV2)
    (ledger : CandidatePrivateLedgerStateV1 candidate)
    (created : CandidatePrivateLedgerStateV1.new reference genesisId validationContextId
      noteTreeParameters snapshot (markEach reference .newCandidate marked) = .ok ledger)
    (calls : List (PrivateLedgerCall A)) (state : CandidatePrivateLedgerStateV1 candidate)
    (accepted : List PrivateTransferIntentV2)
    (ran : run (privateStep reference) ledger calls = (state, accepted)) :
    (TreesCollide reference (markEach reference .newCandidate marked)
        (markEach reference .newCandidate snapshot.spentNullifiers) ∨
      TreesCollide reference (markEach reference .newCandidate snapshot.spentNullifiers)
        (markEach reference .newCandidate marked)) ∨
    (forall nullifier, state.nullifierTree.isSpent nullifier = true <->
        nullifier ∈ state.snapshot.spentNullifiers) /\
      state.snapshot.spentNullifiers.Pairwise (· < ·) /\
      AnchorsState reference state.snapshot state.nullifierTree state.anchor /\
      state.snapshot.commitments = snapshot.commitments ++
        accepted.flatMap PrivateTransferIntentV2.outputCommitments /\
      (forall nullifier, nullifier ∈ state.snapshot.spentNullifiers <->
        nullifier ∈ snapshot.spentNullifiers ++
          accepted.flatMap PrivateTransferIntentV2.nullifierList) /\
      (snapshot.spentNullifiers ++
        accepted.flatMap PrivateTransferIntentV2.nullifierList).Nodup /\
      state.snapshot.commitments.Nodup /\
      (forall asset reason next,
        CandidatePrivateLedgerStateV1.registerAsset asset state = .error reason next ->
          next = state) /\
      (forall (request : CandidatePrivateTransferRequestV1 A) authorizer reason next,
        CandidatePrivateLedgerStateV1.applyTransfer reference request authorizer state =
          .error reason next -> next = state) := by
  have sameSnapshot : ledger.snapshot = snapshot := by
    rcases Except.bind_eq_ok.mp created with ⟨anchor, _, isLedger⟩
    rw [← Except.ok.inj isLedger]
  rcases synchronized_of_new created with synchronized | collide
  · right
    have reached : Reached reference ledger state accepted := by
      have ended := run_invariant (privateStep reference) (Reached reference ledger)
        ⟨synchronized, (List.append_nil _).symm, by rw [List.flatMap_nil, List.append_nil]⟩ calls
        (fun _ _ call _ reached => reached_privateStep reached call)
      rw [ran] at ended
      exact ended
    have commitments := reached.commitments
    have spent := reached.spent
    rw [sameSnapshot] at commitments spent
    refine ⟨?_, state.snapshot.sorted, reached.synchronized.anchored, commitments,
      fun nullifier => spent.mem_iff, ?_, state.snapshot.distinct, ?_, ?_⟩
    · intro nullifier
      rw [reached.synchronized.stores.isSpent_iff]
      exact List.mem_toFinset
    · exact spent.nodup_iff.mp (state.snapshot.sorted.imp (fun before => before.ne))
    · intro asset reason next failed
      exact keepsOnFailure_registerAsset asset state reason next failed
    · intro request authorizer reason next failed
      exact keepsOnFailure_applyTransfer request authorizer state reason next failed
  · exact Or.inl collide

section
open Fips180

/-- The snapshot without commitments and nullifiers. -/
def emptySnapshot : CandidatePrivateStateSnapshotV1 loadCandidate where
  commitments := []
  spentNullifiers := []
  root := .ofDigest (loadCandidate.rootForCommitments [])
  bounded := Nat.zero_le _
  distinct := List.nodup_nil
  sorted := List.Pairwise.nil
  isRoot := rfl

def zeroParameters : TreeParametersV2 := ⟨⟨Bytes.replicate 32 0⟩⟩

def noxAsset : AssetDefinition := ⟨.replicate 5, "NOX", .synthetic⟩

/-- A vector that repeats one small number. -/
def constantVector {kind : VectorKind} (value : Nat) : CanonicalVector kind :=
  .ofDigest (fun _ => (value : Val))

def transferFrom (anchor : PrivateStateAnchorV2) : PrivateTransferIntentV2 where
  circuitId := ⟨Bytes.replicate 32 4⟩
  genesisId := anchor.genesisId
  validationContextId := anchor.validationContextId
  preStateId := anchor.stateId
  treeParameters := anchor.noteTreeParameters
  preStateRoot := anchor.noteRoot
  assetId := noxAsset.id
  nullifiers := ![constantVector 10, constantVector 11]
  outputs := ![⟨constantVector 12, constantVector 20⟩, ⟨constantVector 13, constantVector 21⟩]
  orderedNullifiers := by decide +kernel
  orderedOutputs := by decide +kernel

theorem exists_emptyAnchor (noteTreeParameters : TreeParametersV2) :
    ∃ anchor, PrivateStateAnchorV2.new loadSparseCandidate (.replicate 1) (.replicate 2)
      noteTreeParameters emptySnapshot .newCandidate = .ok anchor :=
  exists_new_of_storesSet (storesSet_newCandidate loadSparseCandidate)

/-- The ledger that is created from the empty snapshot. -/
def emptyLedger (anchor : PrivateStateAnchorV2) : CandidatePrivateLedgerStateV1 loadCandidate :=
  ⟨∅, emptySnapshot, .newCandidate, anchor⟩

def assetLedger (anchor : PrivateStateAnchorV2) : CandidatePrivateLedgerStateV1 loadCandidate :=
  { emptyLedger anchor with assets := Finmap.insert noxAsset.id noxAsset ∅ }

theorem new_emptyLedger {anchor}
    (made : PrivateStateAnchorV2.new loadSparseCandidate (.replicate 1) (.replicate 2)
      zeroParameters emptySnapshot .newCandidate = .ok anchor) :
    CandidatePrivateLedgerStateV1.new loadSparseCandidate (.replicate 1) (.replicate 2)
      zeroParameters emptySnapshot (markEach loadSparseCandidate .newCandidate []) =
      .ok (emptyLedger anchor) :=
  Except.bind_eq_ok.mpr ⟨anchor, Except.mapError_eq_ok.mpr made, rfl⟩

theorem privateStep_registerAsset (anchor : PrivateStateAnchorV2) :
    privateStep loadSparseCandidate (emptyLedger anchor)
      (.registerAsset noxAsset : PrivateLedgerCall A) = (assetLedger anchor, []) := by
  rw [emptyLedger, privateStep, CandidatePrivateLedgerStateV1.registerAsset, get_bind,
    if_neg (Finmap.notMem_empty)]
  rfl

theorem exists_applyTransfer_assetLedger {anchor}
    (made : PrivateStateAnchorV2.new loadSparseCandidate (.replicate 1) (.replicate 2)
      zeroParameters emptySnapshot .newCandidate = .ok anchor) :
    ∃ receipt next, CandidatePrivateLedgerStateV1.applyTransfer loadSparseCandidate
      ⟨transferFrom anchor, ()⟩ (fun _ _ _ _ => .ok ()) (assetLedger anchor) =
        .ok receipt next := by
  have identities := identities_of_new made
  rcases @exists_apply loadCandidate _ loadSparseCandidate (transferFrom anchor) .newCandidate
    emptySnapshot anchor (storesSet_newCandidate loadSparseCandidate)
    (by rw [identities.1, identities.2.1, identities.2.2]; exact made)
    (by simp [PrivateStateAnchorV2.assertMatchesIntent, transferFrom])
    (fun _ => List.not_mem_nil) (show 2 <= 1024 by decide) (by
      have different := (transferFrom anchor).orderedOutputs.ne
      simp [emptySnapshot, PrivateTransferIntentV2.outputCommitments, different]) with
    ⟨transition, applied⟩
  exact ⟨_, _, applyTransfer_of_apply (Finmap.mem_insert.mpr (Or.inl rfl)) applied rfl⟩

/-- A run from the empty ledger that registers an asset and transfers it. -/
theorem exists_emptyLedger_run :
    ∃ anchor state,
      CandidatePrivateLedgerStateV1.new loadSparseCandidate (.replicate 1) (.replicate 2)
          zeroParameters emptySnapshot (markEach loadSparseCandidate .newCandidate []) =
        .ok (emptyLedger anchor) /\
      run (privateStep loadSparseCandidate) (emptyLedger anchor)
        [.registerAsset noxAsset, .applyTransfer ⟨transferFrom anchor, ()⟩
          (fun _ _ _ _ => .ok ())] = (state, [transferFrom anchor]) /\
      state.assets = (assetLedger anchor).assets /\
      state.snapshot.commitments = (transferFrom anchor).outputCommitments /\
      state.snapshot.spentNullifiers.length = 2 := by
  rcases exists_emptyAnchor zeroParameters with ⟨anchor, made⟩
  rcases exists_applyTransfer_assetLedger made with ⟨receipt, next, accepted⟩
  have transferred : privateStep loadSparseCandidate (assetLedger anchor)
      (.applyTransfer ⟨transferFrom anchor, ()⟩ (fun _ _ _ _ => .ok ())) =
      (next, [transferFrom anchor]) := by
    rw [privateStep, accepted]
  refine ⟨anchor, next, new_emptyLedger made, ?_, ?_⟩
  · rw [run_cons_of_step (privateStep_registerAsset anchor), run_cons_of_step transferred]
    rfl
  · rcases applyTransfer_eq_ok accepted with ⟨transition, applied, rfl⟩
    exact ⟨rfl, applied.commitments, applied.spent.length_eq⟩

/-- The empty ledger accepts a transfer, and the state it leads to is
synchronized unless two trees without nullifiers collide. -/
theorem empty_private_ledger_accepts :
    ∃ ledger state intent,
      CandidatePrivateLedgerStateV1.new loadSparseCandidate (.replicate 1) (.replicate 2)
          zeroParameters emptySnapshot (markEach loadSparseCandidate .newCandidate []) =
        .ok ledger /\
      run (privateStep loadSparseCandidate) ledger
        [.registerAsset noxAsset, .applyTransfer ⟨intent, ()⟩ (fun _ _ _ _ => .ok ())] =
          (state, [intent]) /\
      (TreesCollide loadSparseCandidate .newCandidate .newCandidate ∨
        state.snapshot.commitments = intent.outputCommitments) := by
  rcases exists_emptyLedger_run with ⟨_, next, created, ran, _⟩
  refine ⟨_, next, _, created, ran, ?_⟩
  rcases private_ledger_stays_synchronized loadSparseCandidate _ _ _ _ _ _ created _ _ _ ran with
    collide | ⟨_, _, _, commitments, _⟩
  · rcases collide with collide | collide
    · exact Or.inl collide
    · exact Or.inl collide
  · right
    rw [commitments, List.flatMap_singleton]
    rfl

end
end Noxis.Privacy
