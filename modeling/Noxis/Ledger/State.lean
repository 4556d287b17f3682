import Noxis.Foundation.Collections
import Noxis.Foundation.Delimited
import Noxis.Ledger.Model

namespace Noxis.Ledger

open Foundation Crypto Merkle

/-!
# The public ledger state and its identifier

The state keeps five collections beside the commitment tree.  The source holds
the unordered ones in hash maps and hash sets; every place that lists one of
them sorts it first.

`stateId` hashes a preimage without separators: a domain, fixed-width fields,
and four counted lists.  A count is written in four bytes and the source aborts
when one does not fit, so computing an identifier may panic.
-/

@[ext]
structure LedgerState where
  assets : Table AssetId AssetDefinition
  commitments : Finset Commitment
  commitmentTree : MerkleTree
  spentNullifiers : Finset Nullifier
  issuedSupply : Table AssetId Amount
  acceptedTransactions : Finset TransactionId

namespace LedgerState

/-- An empty ledger with a fixed commitment-tree depth. -/
def new (treeDepth : UInt8) : Except LedgerError LedgerState := do
  let tree ← (MerkleTree.new treeDepth).mapError .merkle
  return {
    assets := ∅
    commitments := ∅
    commitmentTree := tree
    spentNullifiers := ∅
    issuedSupply := ∅
    acceptedTransactions := ∅ }

theorem new_eq_ok {treeDepth state} (created : new treeDepth = .ok state) :
    ∃ tree, MerkleTree.new treeDepth = .ok tree /\ state = ⟨∅, ∅, tree, ∅, ∅, ∅⟩ := by
  rcases Except.bind_eq_ok.mp created with ⟨tree, made, same⟩
  exact ⟨tree, Except.mapError_eq_ok.mp made, (Except.ok.inj same).symm⟩

/-- The registered assets ordered by identifier. -/
def sortedAssets (state : LedgerState) : List AssetDefinition :=
  ((sortedEntries state.assets).map Prod.snd).insertionSort (fun left right => left.id <= right.id)

def sortedSupply (state : LedgerState) : List (AssetId × Amount) :=
  sortedEntries state.issuedSupply

def sortedNullifiers (state : LedgerState) : List Nullifier :=
  sortedList state.spentNullifiers

def sortedTransactions (state : LedgerState) : List TransactionId :=
  sortedList state.acceptedTransactions

end LedgerState

def writeCount (count : Nat) : Except Panic (List UInt8) :=
  if count < 2 ^ 32 then .ok (bigEndian 4 count)
  else .error ⟨"ledger state count is bounded by memory"⟩

def writeBytes (bytes : List UInt8) : Except Panic (List UInt8) := do
  let count ← writeCount bytes.length
  return count ++ bytes

/-- A count followed by the elements, each written by `write`. -/
def writeCounted {α : Type} (write : α -> Except Panic (List UInt8)) (values : List α) :
    Except Panic (List UInt8) := do
  let count ← writeCount values.length
  let elements ← values.mapM write
  return count ++ elements.flatten

theorem writeCount_eq_ok {count : Nat} {output} :
    writeCount count = .ok output <-> count < 2 ^ 32 /\ output = bigEndian 4 count := by
  unfold writeCount
  by_cases fits : count < 2 ^ 32
  · rw [if_pos fits]
    constructor
    · intro written
      exact ⟨fits, (Except.ok.inj written).symm⟩
    · rintro ⟨_, rfl⟩
      rfl
  · rw [if_neg fits]
    constructor
    · intro impossible
      cases impossible
    · intro impossible
      exact absurd impossible.1 fits

theorem writeBytes_eq_ok {bytes output} :
    writeBytes bytes = .ok output <->
      bytes.length < 2 ^ 32 /\ output = bigEndian 4 bytes.length ++ bytes := by
  unfold writeBytes
  rw [Except.bind_eq_ok]
  constructor
  · rintro ⟨count, written, same⟩
    rcases writeCount_eq_ok.mp written with ⟨fits, rfl⟩
    exact ⟨fits, (Except.ok.inj same).symm⟩
  · rintro ⟨fits, rfl⟩
    exact ⟨_, writeCount_eq_ok.mpr ⟨fits, rfl⟩, rfl⟩

section
variable {α : Type} {write : α -> Except Panic (List UInt8)} {valid : α -> Prop}
  {encode : α -> List UInt8}

private theorem mapM_write_eq_ok
    (writes : forall value output, write value = .ok output <->
      valid value /\ output = encode value) (values : List α) (outputs : List (List UInt8)) :
    values.mapM write = .ok outputs <->
      (forall value, value ∈ values -> valid value) /\ outputs = values.map encode := by
  induction values generalizing outputs with
  | nil =>
    rw [List.mapM_nil]
    constructor
    · intro same
      exact ⟨fun _ impossible => absurd impossible List.not_mem_nil, (Except.ok.inj same).symm⟩
    · rintro ⟨_, rfl⟩
      rfl
  | cons head tail ih =>
    rw [List.mapM_cons, Except.bind_written (writes head _), Except.bind_written (ih _),
      List.forall_mem_cons]
    constructor
    · rintro ⟨headValid, tailValid, same⟩
      exact ⟨⟨headValid, tailValid⟩, (Except.ok.inj same).symm⟩
    · rintro ⟨⟨headValid, tailValid⟩, rfl⟩
      exact ⟨headValid, tailValid, rfl⟩

theorem writeCounted_eq_ok (writes : forall value output, write value = .ok output <->
      valid value /\ output = encode value) {values output} :
    writeCounted write values = .ok output <->
      (values.length < 2 ^ 32 /\ forall value, value ∈ values -> valid value) /\
        output = bigEndian 4 values.length ++ values.flatMap encode := by
  unfold writeCounted
  rw [Except.bind_written writeCount_eq_ok, Except.bind_written (mapM_write_eq_ok writes values _)]
  constructor
  · rintro ⟨fits, allValid, same⟩
    rw [List.flatMap_def]
    exact ⟨⟨fits, allValid⟩, (Except.ok.inj same).symm⟩
  · rintro ⟨⟨fits, allValid⟩, rfl⟩
    rw [List.flatMap_def]
    exact ⟨fits, allValid, rfl⟩

end

def assetKindTag : AssetKind -> UInt8
  | .nativeBacked => 1
  | .synthetic => 2

def writeAsset (asset : AssetDefinition) : Except Panic (List UInt8) := do
  let ticker ← writeBytes (utf8 asset.ticker)
  return asset.id.bytes.toList ++ ([assetKindTag asset.kind] ++ ticker)

def writeSupply (entry : AssetId × Amount) : Except Panic (List UInt8) :=
  .ok (entry.1.bytes.toList ++ bigEndian 16 entry.2.units)

def writeIdentifier {kind : IdentifierKind} (id : Identifier kind) : Except Panic (List UInt8) :=
  .ok id.bytes.toList

namespace LedgerState

variable [Sha256]

def merkleRoot (state : LedgerState) : MerkleRoot :=
  state.commitmentTree.root

def stateAnchor (state : LedgerState) : StateAnchor :=
  ⟨state.merkleRoot.digest, state.merkleRoot.depth⟩

/-- The byte string hashed into a state identifier. -/
def stateIdInput (state : LedgerState) (genesisId : GenesisId) : Except Panic (List UInt8) := do
  let root := state.merkleRoot
  let assets ← writeCounted writeAsset state.sortedAssets
  let supplies ← writeCounted writeSupply state.sortedSupply
  let nullifiers ← writeCounted writeIdentifier state.sortedNullifiers
  let transactions ← writeCounted writeIdentifier state.sortedTransactions
  return utf8 "NOXIS/STATE/V2\x00" ++ (genesisId.bytes.toList ++ ([root.depth] ++
    (root.digest.toList ++ (assets ++ (supplies ++ (nullifiers ++ transactions))))))

/-- Deterministic commitment to every public component of the ledger. -/
def stateId (state : LedgerState) (genesisId : GenesisId) : Except Panic StateId := do
  let input ← state.stateIdInput genesisId
  return ⟨Sha256.digest input⟩

end LedgerState
end Noxis.Ledger
