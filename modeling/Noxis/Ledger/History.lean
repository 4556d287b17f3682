import Noxis.Foundation.Sha256
import Noxis.Ledger.Mutation

namespace Noxis.Ledger

open Foundation Crypto Merkle Transaction

/-!
# Ledger states as histories of accepted transactions

The purpose of the ledger is stated without its collections.  A history is the
list of the transactions accepted so far.  It consumes each nullifier once,
creates each commitment once, uses each identifier once, and issues of an asset
the sum of what its mints asked for.  `Represents` says that the five
collections of a state are the ones determined by a history, and one lemma per
operation shows that the operation takes a represented state to a represented
state.  All results about runs follow from that.
-/

def mintedAmounts (asset : AssetId) (history : List Transaction) : List Nat :=
  history.filterMap (Transaction.mintedOf asset)

/-- The supply of an asset after a history; absent when it was never minted. -/
def issued (asset : AssetId) (history : List Transaction) : Option Nat :=
  if mintedAmounts asset history = [] then none else some (mintedAmounts asset history).sum

variable {asset : AssetId}

theorem mintedAmounts_eq_nil {history} :
    mintedAmounts asset history = [] <->
      forall transaction, transaction ∈ history ->
        forall mint, transaction.operation = .mint mint -> mint.assetId ≠ asset := by
  rw [mintedAmounts, List.filterMap_eq_nil_iff]
  refine forall₂_congr fun transaction _ => ?_
  cases isOperation : transaction.operation with
  | transfer transfer =>
    simp [mintedOf, *]
  | mint mint =>
    simp [mintedOf, *]

variable {transaction : Transaction} {state : LedgerState} {history : List Transaction}

theorem issued_append_of_none (history : List Transaction)
    (untouched : transaction.mintedOf asset = none) :
    issued asset (history ++ [transaction]) = issued asset history := by
  have same : mintedAmounts asset (history ++ [transaction]) = mintedAmounts asset history := by
    rw [mintedAmounts, List.filterMap_append, List.filterMap_cons_none untouched,
      List.filterMap_nil, List.append_nil]
    rfl
  rw [issued, same]
  rfl

theorem issued_append_of_some {amount : Nat} (history : List Transaction)
    (minted : transaction.mintedOf asset = some amount) :
    issued asset (history ++ [transaction]) = some ((issued asset history).getD 0 + amount) := by
  have extended : mintedAmounts asset (history ++ [transaction]) =
      mintedAmounts asset history ++ [amount] := by
    grind [mintedAmounts]
  have before : (issued asset history).getD 0 = (mintedAmounts asset history).sum := by
    grind [issued]
  have nonempty : mintedAmounts asset history ++ [amount] ≠ [] :=
    List.append_ne_nil_of_right_ne_nil _ (List.cons_ne_nil amount [])
  rw [issued, extended, if_neg nonempty, before, List.sum_append, List.sum_singleton]

namespace LedgerState

/-- The collections of the state are those of the history. -/
structure Represents (state : LedgerState) (history : List Transaction) : Prop where
  transactions : RecordsOnce state.acceptedTransactions (history.map Transaction.id)
  inputs : RecordsOnce state.spentNullifiers (history.flatMap Transaction.inputs)
  outputs : RecordsOnce state.commitments (history.flatMap Transaction.outputs)
  leaves : state.commitmentTree.commitments = history.flatMap Transaction.outputs
  supply : forall asset,
    (state.issuedSupply.lookup asset).map Amount.units = issued asset history
  registered : forall asset, asset ∈ state.issuedSupply -> asset ∈ state.assets

theorem represents_of_new {depth} (created : LedgerState.new depth = .ok state) :
    state.Represents [] := by
  rcases new_eq_ok created with ⟨tree, made, rfl⟩
  have empty := (MerkleTree.new_eq_ok.mp made).2
  constructor
  case transactions => exact RecordsOnce.empty
  case inputs => exact RecordsOnce.empty
  case outputs => exact RecordsOnce.empty
  case leaves => exact empty
  case supply =>
    intro asset
    rw [Finmap.lookup_empty]
    rfl
  grind [Finmap.notMem_empty]

variable {next : LedgerState}

theorem represents_of_registerAsset {asset} (represented : state.Represents history)
    (registered : registerAsset asset state = .ok () next) : next.Represents history := by
  rcases registerAsset_eq_ok registered with ⟨_, rfl⟩
  refine { represented with registered := ?_ }
  intro other recorded
  exact Finmap.mem_insert.mpr (Or.inr (represented.registered other recorded))

theorem supply_of_step (represented : state.Represents history)
    (step : state.SupplyStep transaction next) (asset : AssetId) :
    (next.issuedSupply.lookup asset).map Amount.units =
      issued asset (history ++ [transaction]) := by
  cases step with
  | transfer transfer isTransfer unchanged =>
    have untouched : transaction.mintedOf asset = none := by
      rw [mintedOf, isTransfer]
    rw [unchanged, issued_append_of_none history untouched]
    exact represented.supply asset
  | mint mint resultingSupply isMint registered total recorded =>
    by_cases sameAsset : mint.assetId = asset
    · have minted : transaction.mintedOf asset = some mint.amount.units := by
        rw [mintedOf, isMint]
        exact if_pos sameAsset
      rw [recorded, ← sameAsset, Finmap.lookup_insert, Option.map_some, total,
        represented.supply, sameAsset, issued_append_of_some history minted]
    · have untouched : transaction.mintedOf asset = none := by
        rw [mintedOf, isMint]
        exact if_neg sameAsset
      rw [recorded, Finmap.lookup_insert_of_ne _ (Ne.symm sameAsset),
        issued_append_of_none history untouched]
      exact represented.supply asset

theorem registered_of_step
    (registered : forall asset, asset ∈ state.issuedSupply -> asset ∈ state.assets)
    (step : state.SupplyStep transaction next) (asset : AssetId)
    (recorded : asset ∈ next.issuedSupply) : asset ∈ state.assets := by
  cases step with
  | transfer transfer isTransfer unchanged =>
    rw [unchanged] at recorded
    exact registered asset recorded
  | mint mint resultingSupply isMint known total inserted =>
    grind [Finmap.mem_insert]

theorem represents_of_accepts (represented : state.Represents history)
    (accepts : state.Accepts transaction next) : next.Represents (history ++ [transaction]) := by
  have flatten {β : Type} (project : Transaction -> List β) :
      (history ++ [transaction]).flatMap project = history.flatMap project ++ project transaction :=
    by rw [List.flatMap_append, List.flatMap_singleton]
  constructor
  case transactions =>
    have single : insert transaction.id state.acceptedTransactions =
        state.acceptedTransactions ∪ [transaction.id].toFinset := by
      rw [List.toFinset_cons, List.toFinset_nil, Finset.union_comm]
      rfl
    rw [accepts.accepted, single, List.map_append, List.map_singleton]
    refine represented.transactions.append (List.nodup_singleton _) ?_
    grind [Accepts.newTransaction]
  case inputs =>
    rw [accepts.spent, flatten]
    exact represented.inputs.append accepts.inputsNodup accepts.inputsUnspent
  case outputs =>
    rw [accepts.appended.lookup, flatten]
    exact represented.outputs.append accepts.outputs.nodup accepts.outputs.fresh
  case leaves => rw [accepts.appended.leaves, represented.leaves, flatten]
  case supply => exact supply_of_step represented accepts.supply
  case registered =>
    intro asset recorded
    rw [accepts.assets]
    exact registered_of_step represented.registered accepts.supply asset recorded

end LedgerState

/-! ## Runs -/

/-- A call that changes a ledger, with everything its caller supplies. -/
inductive LedgerCall where
  | registerAsset (asset : AssetDefinition)
  | apply (transaction : Transaction) (verifier : ProofVerifier) (policy : MintPolicy)
      (context : TransactionValidationContext)

namespace LedgerState

section
variable [Sha256]

/-- Perform a call and record the transaction if it was accepted. -/
def step (state : LedgerState) : LedgerCall -> LedgerState × List Transaction
  | .registerAsset asset => (finalState (registerAsset asset state), [])
  | .apply transaction verifier policy context =>
    match apply transaction verifier policy context state with
    | .ok _ next => (next, [transaction])
    | .error _ next => (next, [])

/-- What one call can do: register an asset, accept a transaction, or leave
the state as it is. -/
inductive Stepped (state : LedgerState) : LedgerCall -> LedgerState × List Transaction -> Prop
  | registered (asset : AssetDefinition) (next : LedgerState)
      (done : LedgerState.registerAsset asset state = .ok () next) :
      Stepped state (.registerAsset asset) (next, [])
  | accepted (transaction : Transaction) (verifier : ProofVerifier) (policy : MintPolicy)
      (context : TransactionValidationContext) (next : LedgerState)
      (accepts : state.Accepts transaction next) :
      Stepped state (.apply transaction verifier policy context) (next, [transaction])
  | rejected (call : LedgerCall) : Stepped state call (state, [])

theorem stepped_step (state : LedgerState) (call : LedgerCall) :
    state.Stepped call (state.step call) := by
  cases call with
  | registerAsset asset =>
    change Stepped state _ (finalState (registerAsset asset state), [])
    cases outcome : registerAsset asset state with
    | ok _ next => exact .registered asset next outcome
    | error reason next =>
      rw [registerAsset_eq_error outcome]
      exact .rejected _
  | apply transaction verifier policy context =>
    rw [step]
    cases outcome : apply transaction verifier policy context state with
    | ok _ next => exact .accepted transaction verifier policy context next (apply_eq_ok outcome)
    | error fault next =>
      rw [(apply_eq_error outcome).2]
      exact .rejected _

theorem represents_of_step {state : LedgerState} {history : List Transaction} (call : LedgerCall)
    (represented : state.Represents history) :
    (state.step call).1.Represents (history ++ (state.step call).2) := by
  have stepped := stepped_step state call
  generalize state.step call = result at stepped ⊢
  cases stepped with
  | registered asset next done =>
    grind [represents_of_registerAsset]
  | accepted transaction verifier policy context next accepts =>
    exact represents_of_accepts represented accepts
  | rejected =>
    rw [List.append_nil]
    exact represented

/-- Every run from an empty ledger ends in a state that represents the
transactions it accepted. -/
theorem represents_of_run {depth : UInt8} {start : LedgerState}
    (created : LedgerState.new depth = .ok start) (calls : List LedgerCall) :
    (run step start calls).1.Represents (run step start calls).2 :=
  run_invariant step Represents (represents_of_new created) calls
    (fun _ _ call _ represented => represents_of_step call represented)

end
end LedgerState

/-! ## A run of two transactions

The fixtures of the source's own tests, in a tree of two leaves.
-/

def testVerifier : ProofVerifier where
  proofVerifierId := Identifier.replicate 1
  verifyTransfer := fun _ _ => .ok ()

def testMintPolicy : MintPolicy where
  mintPolicyId := Identifier.replicate 3
  authorize := fun _ authorization =>
    if authorization = utf8 "test-authorized" then .ok () else .error .denied

def testContext [Sha256] (state : LedgerState) : TransactionValidationContext where
  genesisId := Identifier.replicate 40
  validationContextId := Identifier.replicate 41
  transactionIntentId := Identifier.replicate 42
  stateId := (state.stateId (Identifier.replicate 40)).toOption.getD (Identifier.replicate 0)

def testStart : LedgerState :=
  ⟨∅, ∅, ⟨1, [], by decide, Nat.zero_le _⟩, ∅, ∅, ∅⟩

def testAmount : Amount := ⟨100, by decide, by decide⟩

/-- Register the asset, mint it, and spend a nullifier. -/
def testCalls [Sha256] (start : LedgerState) : List LedgerCall :=
  let registered := (start.step (.registerAsset testAsset)).1
  let mint := LedgerCall.apply (testMint 4 4 testAmount) testVerifier testMintPolicy
    (testContext registered)
  let minted := (registered.step mint).1
  [.registerAsset testAsset, mint,
    .apply (testTransfer 1 9 5) testVerifier denyAllMints (testContext minted)]

section
open Fips180

theorem new_testStart : LedgerState.new 1 = .ok testStart := rfl

theorem accepted_testCalls : (run LedgerState.step testStart (testCalls testStart)).2 =
    [testMint 4 4 ⟨100, by decide, by decide⟩, testTransfer 1 9 5] := by decide +kernel

end

namespace LedgerState

/-- Over every run from an empty ledger the accepted transactions together
consume each nullifier once, create each commitment once and use each
identifier once; the spent set, the ordered leaves and the lookup set are the
ones they determine; and the leaves fit the tree. -/
theorem run_consumes_and_creates_once [Sha256] {depth : UInt8} {start : LedgerState}
    (created : LedgerState.new depth = .ok start) (calls : List LedgerCall) :
    let final := (run step start calls).1
    let accepted := (run step start calls).2
    (accepted.flatMap Transaction.inputs).Nodup /\
      (accepted.flatMap Transaction.outputs).Nodup /\
      (accepted.map Transaction.id).Nodup /\
      final.spentNullifiers = (accepted.flatMap Transaction.inputs).toFinset /\
      final.acceptedTransactions = (accepted.map Transaction.id).toFinset /\
      final.commitmentTree.commitments = accepted.flatMap Transaction.outputs /\
      final.commitmentTree.len <= final.commitmentTree.capacity /\
      final.commitments = final.commitmentTree.commitments.toFinset := by
  intro final accepted
  have represented : final.Represents accepted := represents_of_run created calls
  refine ⟨represented.inputs.nodup, represented.outputs.nodup, represented.transactions.nodup,
    represented.inputs.elements, represented.transactions.elements, represented.leaves,
    final.commitmentTree.withinCapacity, ?_⟩
  rw [represented.leaves]
  exact represented.outputs.elements

open Fips180 in
theorem testCalls_consume_and_create_once :
    LedgerState.new 1 = .ok testStart /\
      (run step testStart (testCalls testStart)).2.length = 2 /\
      ((run step testStart (testCalls testStart)).2.flatMap Transaction.inputs).Nodup /\
      (run step testStart (testCalls testStart)).1.spentNullifiers =
        ((run step testStart (testCalls testStart)).2.flatMap Transaction.inputs).toFinset := by
  have once := run_consumes_and_creates_once new_testStart (testCalls testStart)
  refine ⟨new_testStart, ?_, once.1, once.2.2.2.1⟩
  rw [accepted_testCalls]
  rfl

theorem issuedSupply_apply_transfer [Sha256] {transaction transfer}
    (isTransfer : transaction.operation = .transfer transfer) (verifier : ProofVerifier)
    (policy : MintPolicy) (context : TransactionValidationContext) :
    (finalState (apply transaction verifier policy context state)).issuedSupply =
      state.issuedSupply := by
  cases outcome : apply transaction verifier policy context state with
  | ok _ next =>
    cases (apply_eq_ok outcome).supply with
    | transfer other isOther unchanged => exact unchanged
    | mint mint _ isMint _ _ _ =>
      rw [isTransfer] at isMint
      cases isMint
  | error fault next =>
    rw [(apply_eq_error outcome).2]
    rfl

theorem units_of_represents (represented : state.Represents history) {asset supply}
    (recorded : state.issuedSupply.lookup asset = some supply) :
    supply.units = (mintedAmounts asset history).sum := by
  have total := represented.supply asset
  grind [issued]

theorem lookup_eq_none_of_represents (represented : state.Represents history) (asset : AssetId) :
    state.issuedSupply.lookup asset = none <-> mintedAmounts asset history = [] := by
  have total := represented.supply asset
  grind [Option.map_eq_none_iff, issued]

/-- Over every run from an empty ledger the supply of an asset is absent
exactly when no mint of it was accepted and is otherwise the integer sum of the
accepted mints; only registered assets have a supply; and no transfer changes
any supply, whether it is accepted or rejected. -/
theorem run_issuedSupply_exact [Sha256] {depth : UInt8} {start : LedgerState}
    (created : LedgerState.new depth = .ok start) (calls : List LedgerCall) (asset : AssetId) :
    let final := (run step start calls).1
    let accepted := (run step start calls).2
    (final.issuedSupply.lookup asset = none <->
        forall transaction, transaction ∈ accepted ->
          forall mint, transaction.operation = .mint mint -> mint.assetId ≠ asset) /\
      (forall supply, final.issuedSupply.lookup asset = some supply ->
        supply.units = (accepted.filterMap (Transaction.mintedOf asset)).sum) /\
      (asset ∈ final.issuedSupply -> asset ∈ final.assets) /\
      (forall transaction transfer verifier policy context,
        transaction.operation = .transfer transfer ->
          (finalState (apply transaction verifier policy context final)).issuedSupply =
            final.issuedSupply) := by
  intro final accepted
  have represented : final.Represents accepted := represents_of_run created calls
  refine ⟨?_, ?_, represented.registered asset, ?_⟩
  · rw [lookup_eq_none_of_represents represented, mintedAmounts_eq_nil]
  · intro supply recorded
    exact units_of_represents represented recorded
  · intro transaction transfer verifier policy context isTransfer
    exact issuedSupply_apply_transfer isTransfer verifier policy context

open Fips180 in
theorem testCalls_issuedSupply_exact :
    LedgerState.new 1 = .ok testStart /\
      ((run step testStart (testCalls testStart)).1.issuedSupply.lookup testAsset.id).map
        Amount.units = some 100 := by
  have exactSupply := run_issuedSupply_exact new_testStart (testCalls testStart) testAsset.id
  simp only [accepted_testCalls] at exactSupply
  refine ⟨new_testStart, ?_⟩
  cases recorded : (run step testStart (testCalls testStart)).1.issuedSupply.lookup testAsset.id with
  | none => exact absurd rfl (exactSupply.1.mp recorded _ List.mem_cons_self _ rfl)
  | some supply => exact congrArg some (exactSupply.2.1 supply recorded)

end LedgerState
end Noxis.Ledger
