import Noxis.Ledger.State

namespace Noxis.Ledger

open Foundation Crypto Merkle

/-!
# Transition preconditions

`prepareTransition` reads the state and decides whether a transaction may be
committed.  It changes nothing.  The checks run in the order of the source, so
a transaction that violates several of them is rejected with the same error.

The results below say what a successful validation guarantees, and no more
than that: a verifier or a policy is an arbitrary function, so its verdict is
only recorded as having been positive.
-/

/-- A transaction that passed validation, with the supply it leads to. -/
inductive ValidatedTransition where
  | transfer (transfer : Transfer)
  | mint (mint : Mint) (resultingSupply : Amount)
deriving DecidableEq

def ensureNonEmpty {α : Type} (items : List α) (label : String) : Except LedgerError Unit :=
  if items.isEmpty then .error (.emptyField label) else .ok ()

/-- Every item is new to the collection and occurs once; the first one that
is not is reported.  `seen` holds the items already passed. -/
def ensureFresh {α : Type} [DecidableEq α] (existing : Finset α) (reject : α -> LedgerError)
    (seen : Finset α) : List α -> Except LedgerError Unit
  | [] => .ok ()
  | item :: rest =>
    if item ∈ seen ∨ item ∈ existing then .error (reject item)
    else ensureFresh existing reject (insert item seen) rest

namespace LedgerState

def ensureNewTransaction (state : LedgerState) (id : TransactionId) : Except LedgerError Unit :=
  if id ∈ state.acceptedTransactions then .error (.duplicateTransaction id) else .ok ()

def ensureRegisteredAsset (state : LedgerState) (assetId : AssetId) : Except LedgerError Unit :=
  if assetId ∈ state.assets then .ok () else .error (.unknownAsset assetId)

def ensureUniqueNullifiers (state : LedgerState) (nullifiers : List Nullifier) :
    Except LedgerError Unit :=
  ensureFresh state.spentNullifiers .nullifierAlreadySpent ∅ nullifiers

/-- Fresh, distinct and within capacity.  The count is added in machine
integers and reported as overflowing if the sum does not fit. -/
def ensureNewCommitments (state : LedgerState) (commitments : List Commitment) :
    Except LedgerError Unit := do
  ensureNonEmpty commitments "output commitments"
  ensureFresh state.commitments .commitmentAlreadyExists ∅ commitments
  let resultingCount := state.commitmentTree.len + commitments.length
  if 2 ^ 64 <= resultingCount then
    .error (.merkle .indexOverflow)
  else if state.commitmentTree.capacity < resultingCount then
    .error (.merkle (.treeFull state.commitmentTree.capacity))
  else .ok ()

variable [Sha256]

def validateTransfer (state : LedgerState) (suite : CryptoSuite) (transfer : Transfer)
    (verifier : ProofVerifier) (context : TransactionValidationContext) :
    Except LedgerError Unit := do
  state.ensureRegisteredAsset transfer.assetId
  ensureNonEmpty transfer.inputNullifiers "input nullifiers"
  state.ensureUniqueNullifiers transfer.inputNullifiers
  state.ensureNewCommitments transfer.outputCommitments
  let statement : TransferStatement := {
    genesisId := context.genesisId
    validationContextId := context.validationContextId
    transactionIntentId := context.transactionIntentId
    stateId := context.stateId
    assetId := transfer.assetId
    inputNullifiers := transfer.inputNullifiers
    outputCommitments := transfer.outputCommitments
    stateAnchor := state.stateAnchor }
  if transfer.proof.suiteVersion ≠ suite.version then
    .error (.proof .unsupportedSuite)
  else (verifier.verifyTransfer statement transfer.proof).mapError .proof

/-- The supply after a mint, or nothing when it would exceed 128 bits. -/
def supplyAfter (issuedBefore : Option Amount) (amount : Amount) : Option Amount :=
  match issuedBefore with
  | none => some amount
  | some current => current.checkedAdd amount

def validateMint (state : LedgerState) (mint : Mint) (policy : MintPolicy)
    (context : TransactionValidationContext) : Except LedgerError Amount := do
  state.ensureRegisteredAsset mint.assetId
  state.ensureNewCommitments mint.outputCommitments
  let issuedSupplyBefore := state.issuedSupply.lookup mint.assetId
  let statement : MintStatement := {
    genesisId := context.genesisId
    validationContextId := context.validationContextId
    transactionIntentId := context.transactionIntentId
    stateId := context.stateId
    assetId := mint.assetId
    amount := mint.amount
    outputCommitments := mint.outputCommitments
    stateAnchor := state.stateAnchor
    issuedSupplyBefore }
  (policy.authorize statement mint.authorization).mapError .mintAuthorization
  match supplyAfter issuedSupplyBefore mint.amount with
  | some supply => .ok supply
  | none => .error (.supplyOverflow mint.assetId)

def validateOperation (state : LedgerState) (transaction : Transaction) (verifier : ProofVerifier)
    (policy : MintPolicy) (context : TransactionValidationContext) :
    Except LedgerError ValidatedTransition :=
  match transaction.operation with
  | .transfer transfer => do
      state.validateTransfer transaction.suite transfer verifier context
      return .transfer transfer
  | .mint mint => do
      let resultingSupply ← state.validateMint mint policy context
      return .mint mint resultingSupply

def prepareTransition (state : LedgerState) (transaction : Transaction) (verifier : ProofVerifier)
    (policy : MintPolicy) (context : TransactionValidationContext) :
    Except (Fault LedgerError) ValidatedTransition := do
  let computedStateId ← (state.stateId context.genesisId).mapError .panic
  if computedStateId ≠ context.stateId then
    .error (.error (.validationStateIdMismatch computedStateId context.stateId))
  else
    (state.ensureNewTransaction transaction.id).mapError .error
    (state.validateOperation transaction verifier policy context).mapError .error

end LedgerState

variable {α : Type}

theorem ensureNonEmpty_eq_ok {items : List α} {label : String} :
    ensureNonEmpty items label = .ok () <-> items ≠ [] := by
  simp [ensureNonEmpty]

theorem ensureFresh_eq_ok [DecidableEq α] {existing seen : Finset α} {reject : α -> LedgerError}
    {items : List α} :
    ensureFresh existing reject seen items = .ok () <->
      items.Nodup /\ forall item, item ∈ items -> item ∉ seen /\ item ∉ existing := by
  induction items generalizing seen with
  | nil => simp [ensureFresh]
  | cons item rest ih =>
    rw [ensureFresh]
    by_cases known : item ∈ seen ∨ item ∈ existing
    · rw [if_pos known]
      grind
    rw [if_neg known, ih, List.nodup_cons]
    have new := not_or.mp known
    constructor
    · intro fresh
      refine ⟨⟨?_, fresh.1⟩, List.forall_mem_cons.mpr ⟨new, ?_⟩⟩
      · grind
      grind
    grind

namespace LedgerState

/-- Outputs that can be added to the ledger: at least one, pairwise distinct,
none already present, and all of them fitting below the capacity. -/
structure FreshOutputs (state : LedgerState) (outputs : List Commitment) : Prop where
  nonempty : outputs ≠ []
  nodup : outputs.Nodup
  fresh : forall commitment, commitment ∈ outputs -> commitment ∉ state.commitments
  room : state.commitmentTree.len + outputs.length <= state.commitmentTree.capacity

variable {state : LedgerState}

theorem ensureNewCommitments_eq_ok {outputs : List Commitment} :
    state.ensureNewCommitments outputs = .ok () <-> state.FreshOutputs outputs := by
  unfold ensureNewCommitments
  rw [Except.bind_eq_ok]
  constructor
  · rintro ⟨_, nonempty, rest⟩
    rcases Except.bind_eq_ok.mp rest with ⟨_, fresh, counted⟩
    have distinct := ensureFresh_eq_ok.mp fresh
    refine ⟨ensureNonEmpty_eq_ok.mp nonempty, distinct.1,
      fun commitment member => (distinct.2 commitment member).2, ?_⟩
    grind
  · intro fresh
    refine ⟨(), ensureNonEmpty_eq_ok.mpr fresh.nonempty, Except.bind_eq_ok.mpr ⟨(), ?_, ?_⟩⟩
    · exact ensureFresh_eq_ok.mpr ⟨fresh.nodup, fun commitment member =>
        ⟨Finset.notMem_empty commitment, fresh.fresh commitment member⟩⟩
    · have bounded : state.commitmentTree.capacity < 2 ^ 32 :=
        maximumLeafCount_lt_index state.commitmentTree.depth
      have machine : ¬ 2 ^ 64 <= state.commitmentTree.len + outputs.length := by
        have room := fresh.room
        omega
      simp only [if_neg machine, if_neg (Nat.not_lt_of_le fresh.room)]

theorem ensureRegisteredAsset_eq_ok {assetId} :
    state.ensureRegisteredAsset assetId = .ok () <-> assetId ∈ state.assets := by
  unfold ensureRegisteredAsset
  split <;> simp_all only [reduceCtorEq]

theorem ensureNewTransaction_eq_ok {id} :
    state.ensureNewTransaction id = .ok () <-> id ∉ state.acceptedTransactions := by
  simp [ensureNewTransaction]

theorem ensureUniqueNullifiers_eq_ok {nullifiers : List Nullifier} :
    state.ensureUniqueNullifiers nullifiers = .ok () <->
      nullifiers.Nodup /\
        forall nullifier, nullifier ∈ nullifiers -> nullifier ∉ state.spentNullifiers := by
  simp [ensureUniqueNullifiers, ensureFresh_eq_ok]

/-- Facts about the state and a transfer that passed every check. -/
structure TransferReady (state : LedgerState) (transfer : Transfer) : Prop where
  registered : transfer.assetId ∈ state.assets
  inputsNonempty : transfer.inputNullifiers ≠ []
  inputsNodup : transfer.inputNullifiers.Nodup
  inputsUnspent : forall nullifier, nullifier ∈ transfer.inputNullifiers ->
    nullifier ∉ state.spentNullifiers
  outputs : state.FreshOutputs transfer.outputCommitments

/-- Facts about the state, a mint that passed every check and the supply it
results in.  The sum is over the integers. -/
structure MintReady (state : LedgerState) (mint : Mint) (resultingSupply : Amount) : Prop where
  registered : mint.assetId ∈ state.assets
  outputs : state.FreshOutputs mint.outputCommitments
  supply : resultingSupply.units =
    ((state.issuedSupply.lookup mint.assetId).map Amount.units).getD 0 + mint.amount.units

theorem units_of_supplyAfter {issuedBefore amount supply}
    (issued : supplyAfter issuedBefore amount = some supply) :
    supply.units = (issuedBefore.map Amount.units).getD 0 + amount.units := by
  cases issuedBefore with
  | none =>
    rw [← Option.some.inj issued]
    exact (Nat.zero_add _).symm
  | some current => exact Amount.units_of_checkedAdd issued

section
variable [Sha256] {state : LedgerState} {verifier : ProofVerifier} {policy : MintPolicy}
  {context : TransactionValidationContext}

theorem validateTransfer_eq_ok {suite : CryptoSuite} {transfer : Transfer}
    (accepted : state.validateTransfer suite transfer verifier context = .ok ()) :
    state.TransferReady transfer := by
  rcases Except.bind_eq_ok.mp accepted with ⟨_, registered, accepted⟩
  rcases Except.bind_eq_ok.mp accepted with ⟨_, nonempty, accepted⟩
  rcases Except.bind_eq_ok.mp accepted with ⟨_, unspent, accepted⟩
  rcases Except.bind_eq_ok.mp accepted with ⟨_, outputs, _⟩
  have distinct := ensureUniqueNullifiers_eq_ok.mp unspent
  exact ⟨ensureRegisteredAsset_eq_ok.mp registered, ensureNonEmpty_eq_ok.mp nonempty, distinct.1,
    distinct.2, ensureNewCommitments_eq_ok.mp outputs⟩

theorem validateMint_eq_ok {mint resultingSupply}
    (accepted : state.validateMint mint policy context = .ok resultingSupply) :
    state.MintReady mint resultingSupply := by
  rcases Except.bind_eq_ok.mp accepted with ⟨_, registered, accepted⟩
  rcases Except.bind_eq_ok.mp accepted with ⟨_, outputs, accepted⟩
  rcases Except.bind_eq_ok.mp accepted with ⟨_, _, accepted⟩
  refine ⟨ensureRegisteredAsset_eq_ok.mp registered, ensureNewCommitments_eq_ok.mp outputs, ?_⟩
  grind [units_of_supplyAfter]

/-- Everything a successful `prepareTransition` says about state and plan. -/
inductive Ready (state : LedgerState) (transaction : Transaction) : ValidatedTransition -> Prop
  | transfer (transfer : Transfer) (isTransfer : transaction.operation = .transfer transfer)
      (ready : state.TransferReady transfer) : Ready state transaction (.transfer transfer)
  | mint (mint : Mint) (resultingSupply : Amount) (isMint : transaction.operation = .mint mint)
      (ready : state.MintReady mint resultingSupply) :
      Ready state transaction (.mint mint resultingSupply)

variable {transaction : Transaction} {plan : ValidatedTransition}

theorem validateOperation_eq_ok
    (accepted : state.validateOperation transaction verifier policy context = .ok plan) :
    state.Ready transaction plan := by
  unfold validateOperation at accepted
  split at accepted
  · next transfer isTransfer =>
      rcases Except.bind_eq_ok.mp accepted with ⟨_, valid, same⟩
      rw [← Except.ok.inj same]
      exact .transfer transfer isTransfer (validateTransfer_eq_ok valid)
  · next mint isMint =>
      rcases Except.bind_eq_ok.mp accepted with ⟨resultingSupply, valid, same⟩
      rw [← Except.ok.inj same]
      exact .mint mint resultingSupply isMint (validateMint_eq_ok valid)

theorem prepareTransition_eq_ok
    (accepted : state.prepareTransition transaction verifier policy context = .ok plan) :
    state.stateId context.genesisId = .ok context.stateId /\
      transaction.id ∉ state.acceptedTransactions /\ state.Ready transaction plan := by
  rcases Except.bind_eq_ok.mp accepted with ⟨computed, identified, accepted⟩
  by_cases differs : computed ≠ context.stateId
  · rw [if_pos differs] at accepted
    cases accepted
  rw [if_neg differs] at accepted
  rcases Except.bind_eq_ok.mp accepted with ⟨_, newTransaction, accepted⟩
  rw [← not_ne_iff.mp differs]
  exact ⟨Except.mapError_eq_ok.mp identified,
    ensureNewTransaction_eq_ok.mp (Except.mapError_eq_ok.mp newTransaction),
    validateOperation_eq_ok (Except.mapError_eq_ok.mp accepted)⟩

end
end LedgerState
end Noxis.Ledger
