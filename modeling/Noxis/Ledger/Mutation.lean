import Noxis.Ledger.Validation

namespace Noxis.Ledger

open Foundation Crypto Merkle

/-!
# Operations that change the ledger

`apply` validates a transaction completely and then commits the validated
plan.  The commit writes the tree and the lookup set first, then the spent
nullifiers or the supply, then the accepted identifier.  These are separate
writes, so a failure between two of them would leave a mixed state.  The
central fact is `commitTransition_of_ready`: after a successful validation
none of the writes can fail, whatever the number of outputs and however close
the tree is to its capacity.
-/

/-- Append the commitments one by one, stopping at the first failure. -/
def appendAll : List Commitment -> EStateM MerkleError MerkleTree Unit
  | [] => pure ()
  | commitment :: rest => do
      let _ ← MerkleTree.append commitment
      appendAll rest

namespace LedgerState

def registerAsset (asset : AssetDefinition) : EStateM LedgerError LedgerState Unit := do
  let state ← get
  if asset.id ∈ state.assets then
    throw (.assetAlreadyRegistered asset.id)
  else
    set { state with assets := state.assets.insert asset.id asset }

/-- Build the next tree separately and install it together with the lookup
set once every append succeeded. -/
def appendCommitments (commitments : List Commitment) : EStateM LedgerError LedgerState Unit := do
  let state ← get
  match appendAll commitments state.commitmentTree with
  | .error reason _ => throw (.merkle reason)
  | .ok _ nextTree =>
    set { state with commitmentTree := nextTree }
    modify fun current =>
      { current with commitments := current.commitments ∪ commitments.toFinset }

def commitTransition (transactionId : TransactionId) (transition : ValidatedTransition) :
    EStateM LedgerError LedgerState Unit := do
  match transition with
  | .transfer transfer =>
    appendCommitments transfer.outputCommitments
    modify fun state =>
      { state with spentNullifiers := state.spentNullifiers ∪ transfer.inputNullifiers.toFinset }
  | .mint mint resultingSupply =>
    appendCommitments mint.outputCommitments
    modify fun state =>
      { state with issuedSupply := state.issuedSupply.insert mint.assetId resultingSupply }
  modify fun state =>
    { state with acceptedTransactions := insert transactionId state.acceptedTransactions }

def apply [Sha256] (transaction : Transaction) (verifier : ProofVerifier) (policy : MintPolicy)
    (context : TransactionValidationContext) : EStateM (Fault LedgerError) LedgerState Unit := do
  let state ← get
  let transition ← check (state.prepareTransition transaction verifier policy context)
  mapFailure .error (commitTransition transaction.id transition)

end LedgerState

theorem appendAll_of_room (commitments : List Commitment) (tree : MerkleTree)
    (room : tree.len + commitments.length <= tree.capacity) :
    ∃ next, appendAll commitments tree = .ok () next /\ next.depth = tree.depth /\
      next.commitments = tree.commitments ++ commitments := by
  induction commitments generalizing tree with
  | nil => exact ⟨tree, rfl, rfl, (List.append_nil _).symm⟩
  | cons commitment rest ih =>
    rw [List.length_cons] at room
    rcases MerkleTree.append_of_room commitment (show tree.len < tree.capacity by omega) with
      ⟨index, middle, appended, sameDepth, leaves⟩
    have roomLeft : middle.len + rest.length <= middle.capacity := by
      grind [MerkleTree.len_of_appended, MerkleTree.capacity_of_depth]
    rcases ih middle roomLeft with ⟨next, finished, nextDepth, nextLeaves⟩
    refine ⟨next, ?_, nextDepth.trans sameDepth, ?_⟩
    · rw [appendAll, bind_of_ok appended]
      exact finished
    · rw [nextLeaves, leaves, List.append_assoc, List.singleton_append]

namespace LedgerState

/-- The state after the outputs were appended to the tree and the lookup set. -/
structure Appended (state : LedgerState) (outputs : List Commitment) (next : LedgerState) :
    Prop where
  depth : next.commitmentTree.depth = state.commitmentTree.depth
  leaves : next.commitmentTree.commitments = state.commitmentTree.commitments ++ outputs
  lookup : next.commitments = state.commitments ∪ outputs.toFinset

variable {state next : LedgerState}

theorem appendCommitments_of_fresh {outputs} (fresh : state.FreshOutputs outputs) :
    ∃ tree, tree.depth = state.commitmentTree.depth /\
      tree.commitments = state.commitmentTree.commitments ++ outputs /\
      appendCommitments outputs state = .ok ()
        { state with
          commitmentTree := tree
          commitments := state.commitments ∪ outputs.toFinset } := by
  rcases appendAll_of_room outputs state.commitmentTree fresh.room with
    ⟨tree, finished, depth, leaves⟩
  refine ⟨tree, depth, leaves, ?_⟩
  unfold appendCommitments
  rw [get_bind, finished]
  rfl

/-! ## What an accepted transaction changes -/

/-- How the supply table changes.  A mint records the exact integer sum under
its own asset; a transfer leaves the table alone. -/
inductive SupplyStep (state : LedgerState) (transaction : Transaction) (next : LedgerState) : Prop
  | transfer (transfer : Transfer) (isTransfer : transaction.operation = .transfer transfer)
      (unchanged : next.issuedSupply = state.issuedSupply)
  | mint (mint : Mint) (resultingSupply : Amount) (isMint : transaction.operation = .mint mint)
      (registered : mint.assetId ∈ state.assets)
      (total : resultingSupply.units =
        ((state.issuedSupply.lookup mint.assetId).map Amount.units).getD 0 + mint.amount.units)
      (recorded : next.issuedSupply = state.issuedSupply.insert mint.assetId resultingSupply)

/-- Everything an accepted transaction checks and changes. -/
structure Accepts (state : LedgerState) (transaction : Transaction) (next : LedgerState) :
    Prop where
  newTransaction : transaction.id ∉ state.acceptedTransactions
  inputsNodup : transaction.inputs.Nodup
  inputsUnspent : forall nullifier, nullifier ∈ transaction.inputs ->
    nullifier ∉ state.spentNullifiers
  outputs : state.FreshOutputs transaction.outputs
  assets : next.assets = state.assets
  appended : state.Appended transaction.outputs next
  spent : next.spentNullifiers = state.spentNullifiers ∪ transaction.inputs.toFinset
  accepted : next.acceptedTransactions = insert transaction.id state.acceptedTransactions
  supply : state.SupplyStep transaction next

/-- A validated plan is always committed, and completely. -/
theorem commitTransition_of_ready {transaction plan}
    (newTransaction : transaction.id ∉ state.acceptedTransactions)
    (ready : state.Ready transaction plan) :
    ∃ next, commitTransition transaction.id plan state = .ok () next /\
      state.Accepts transaction next := by
  cases ready with
  | transfer transfer isTransfer ready =>
    rcases appendCommitments_of_fresh ready.outputs with ⟨tree, depth, leaves, appended⟩
    have inputs : transaction.inputs = transfer.inputNullifiers := by
      rw [Transaction.inputs, isTransfer]
    have outputs : transaction.outputs = transfer.outputCommitments := by
      rw [Transaction.outputs, isTransfer]
    refine ⟨{ state with
      commitmentTree := tree
      commitments := state.commitments ∪ transfer.outputCommitments.toFinset
      spentNullifiers := state.spentNullifiers ∪ transfer.inputNullifiers.toFinset
      acceptedTransactions := insert transaction.id state.acceptedTransactions }, ?_, ?_⟩
    · change (appendCommitments transfer.outputCommitments >>= _) state = _
      rw [bind_of_ok appended]
      rfl
    · constructor
      case newTransaction => exact newTransaction
      case inputsNodup => rw [inputs]; exact ready.inputsNodup
      case inputsUnspent => rw [inputs]; exact ready.inputsUnspent
      case outputs => rw [outputs]; exact ready.outputs
      case assets => rfl
      case appended => rw [outputs]; exact ⟨depth, leaves, rfl⟩
      case spent => rw [inputs]
      case accepted => rfl
      case supply => exact .transfer transfer isTransfer rfl
  | mint mint resultingSupply isMint ready =>
    rcases appendCommitments_of_fresh ready.outputs with ⟨tree, depth, leaves, appended⟩
    have inputs : transaction.inputs = [] := by
      rw [Transaction.inputs, isMint]
    have outputs : transaction.outputs = mint.outputCommitments := by
      rw [Transaction.outputs, isMint]
    refine ⟨{ state with
      commitmentTree := tree
      commitments := state.commitments ∪ mint.outputCommitments.toFinset
      issuedSupply := state.issuedSupply.insert mint.assetId resultingSupply
      acceptedTransactions := insert transaction.id state.acceptedTransactions }, ?_, ?_⟩
    · change (appendCommitments mint.outputCommitments >>= _) state = _
      rw [bind_of_ok appended]
      rfl
    · constructor
      case newTransaction => exact newTransaction
      case inputsNodup => rw [inputs]; exact List.nodup_nil
      case inputsUnspent =>
        grind
      case outputs => rw [outputs]; exact ready.outputs
      case assets => rfl
      case appended => rw [outputs]; exact ⟨depth, leaves, rfl⟩
      case spent => rw [inputs, List.toFinset_nil, Finset.union_empty]
      case accepted => rfl
      case supply =>
        exact .mint mint resultingSupply isMint ready.registered ready.supply rfl

section
variable [Sha256] {transaction : Transaction} {verifier : ProofVerifier} {policy : MintPolicy}
  {context : TransactionValidationContext} {plan : ValidatedTransition}

theorem apply_of_prepared
    (prepared : state.prepareTransition transaction verifier policy context = .ok plan) :
    apply transaction verifier policy context state =
      mapFailure .error (commitTransition transaction.id plan) state := by
  unfold apply
  rw [get_bind, prepared]
  exact bind_of_ok rfl

variable {fault : Fault LedgerError}

theorem apply_of_rejected
    (rejected : state.prepareTransition transaction verifier policy context = .error fault) :
    apply transaction verifier policy context state = .error fault state := by
  unfold apply
  rw [get_bind, rejected]
  exact bind_of_error rfl

/-- Once validation succeeds the whole call succeeds. -/
theorem apply_of_validated
    (prepared : state.prepareTransition transaction verifier policy context = .ok plan) :
    ∃ next, commitTransition transaction.id plan state = .ok () next /\
      apply transaction verifier policy context state = .ok () next /\
      state.Accepts transaction next := by
  have facts := prepareTransition_eq_ok prepared
  rcases commitTransition_of_ready facts.2.1 facts.2.2 with ⟨next, committed, accepts⟩
  refine ⟨next, committed, ?_, accepts⟩
  rw [apply_of_prepared prepared, mapFailure, committed]

theorem apply_eq_ok (accepted : apply transaction verifier policy context state = .ok () next) :
    state.Accepts transaction next := by
  rcases Except.ok_or_error (state.prepareTransition transaction verifier policy context) with
    ⟨plan, prepared⟩ | ⟨fault, rejected⟩
  · grind [apply_of_validated]
  · rw [apply_of_rejected rejected] at accepted
    cases accepted

/-- A failed call returns the fault of the validation and the state it was
given. -/
theorem apply_eq_error
    (failed : apply transaction verifier policy context state = .error fault next) :
    state.prepareTransition transaction verifier policy context = .error fault /\
      next = state := by
  rcases Except.ok_or_error (state.prepareTransition transaction verifier policy context) with
    ⟨plan, prepared⟩ | ⟨reason, rejected⟩
  · grind [apply_of_validated]
  · rw [apply_of_rejected rejected] at failed
    cases failed
    exact ⟨rejected, rfl⟩

/-- A call either validates and commits, or fails exactly as its validation
failed and leaves the whole state as it was.  Nothing is assumed about the
state, so this covers trees that are full up to the last leaf. -/
theorem apply_fails_only_in_validation (state : LedgerState) (transaction : Transaction)
    (verifier : ProofVerifier) (policy : MintPolicy) (context : TransactionValidationContext) :
    (forall fault next, apply transaction verifier policy context state = .error fault next ->
        next = state) /\
      (forall fault, (∃ next, apply transaction verifier policy context state =
          .error fault next) <->
        state.prepareTransition transaction verifier policy context = .error fault) /\
      (forall plan, state.prepareTransition transaction verifier policy context = .ok plan ->
        ∃ next, commitTransition transaction.id plan state = .ok () next /\
          apply transaction verifier policy context state = .ok () next) := by
  refine ⟨?_, ?_, ?_⟩
  · intro fault next failed
    exact (apply_eq_error failed).2
  · intro fault
    constructor
    · rintro ⟨next, failed⟩
      exact (apply_eq_error failed).1
    · intro rejected
      exact ⟨state, apply_of_rejected rejected⟩
  · intro plan prepared
    rcases apply_of_validated prepared with ⟨next, committed, finished, _⟩
    exact ⟨next, committed, finished⟩

end

variable {asset : AssetDefinition}

theorem registerAsset_of_new (unknown : asset.id ∉ state.assets) :
    registerAsset asset state =
      .ok () { state with assets := state.assets.insert asset.id asset } := by
  change (if asset.id ∈ state.assets then _ else _ : EStateM LedgerError LedgerState Unit) state = _
  rw [if_neg unknown]
  rfl

theorem registerAsset_of_known (known : asset.id ∈ state.assets) :
    registerAsset asset state = .error (.assetAlreadyRegistered asset.id) state := by
  change (if asset.id ∈ state.assets then _ else _ : EStateM LedgerError LedgerState Unit) state = _
  rw [if_pos known]
  rfl

theorem registerAsset_eq_ok (registered : registerAsset asset state = .ok () next) :
    asset.id ∉ state.assets /\
      next = { state with assets := state.assets.insert asset.id asset } := by
  by_cases known : asset.id ∈ state.assets
  · rw [registerAsset_of_known known] at registered
    cases registered
  · rw [registerAsset_of_new known] at registered
    cases registered
    exact ⟨known, rfl⟩

theorem registerAsset_eq_error {reason}
    (rejected : registerAsset asset state = .error reason next) : next = state := by
  by_cases known : asset.id ∈ state.assets
  · rw [registerAsset_of_known known] at rejected
    cases rejected
    rfl
  · rw [registerAsset_of_new known] at rejected
    cases rejected

end LedgerState
end Noxis.Ledger
