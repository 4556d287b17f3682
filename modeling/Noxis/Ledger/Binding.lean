import Noxis.Ledger.Snapshot

namespace Noxis.Ledger

open Foundation Merkle

/-!
# State identifiers bind the state

The preimage of a state identifier has no separators and does not contain the
number of leaves.  It is nevertheless unambiguous: every variable part is
behind a count, and the ordered leaves, with their number, are recovered from
the padded root.  Two computations that end in one identifier therefore agree
on everything, or two of the byte strings they hashed collide.

The parts are written as a nested pair so that the preimage is literally a
composition of self-delimiting encodings.
-/

/-- The bytes of an asset in the preimage. -/
def encodeAsset (asset : AssetDefinition) : List UInt8 :=
  asset.id.bytes.toList ++ ([assetKindTag asset.kind] ++
    (bigEndian 4 (utf8 asset.ticker).length ++ utf8 asset.ticker))

def encodeSupply (entry : AssetId × Amount) : List UInt8 :=
  entry.1.bytes.toList ++ bigEndian 16 entry.2.units

def encodeIdentifier {kind : IdentifierKind} (id : Identifier kind) : List UInt8 :=
  id.bytes.toList

/-- A list behind a count of four bytes. -/
def encodeCounted {α : Type} (encode : α -> List UInt8) (values : List α) : List UInt8 :=
  bigEndian 4 values.length ++ values.flatMap encode

/-- Fits a count of four bytes, and so does every element. -/
def Countable {α : Type} (valid : α -> Prop) (values : List α) : Prop :=
  values.length < 2 ^ 32 /\ forall value, value ∈ values -> valid value

def TickerFits (asset : AssetDefinition) : Prop := (utf8 asset.ticker).length < 2 ^ 32

theorem writeAsset_eq_ok (asset : AssetDefinition) (output : List UInt8) :
    writeAsset asset = .ok output <-> TickerFits asset /\ output = encodeAsset asset := by
  unfold writeAsset
  rw [Except.bind_eq_ok]
  constructor
  · rintro ⟨ticker, written, same⟩
    rcases writeBytes_eq_ok.mp written with ⟨fits, rfl⟩
    exact ⟨fits, (Except.ok.inj same).symm⟩
  · rintro ⟨fits, rfl⟩
    exact ⟨_, writeBytes_eq_ok.mpr ⟨fits, rfl⟩, rfl⟩

theorem writeSupply_eq_ok (entry : AssetId × Amount) (output : List UInt8) :
    writeSupply entry = .ok output <-> True /\ output = encodeSupply entry := by
  simp only [writeSupply, encodeSupply, Except.ok.injEq, true_and]
  exact eq_comm

variable {kind : IdentifierKind}

theorem writeIdentifier_eq_ok (id : Identifier kind) (output : List UInt8) :
    writeIdentifier id = .ok output <-> True /\ output = encodeIdentifier id := by
  simp only [writeIdentifier, encodeIdentifier, Except.ok.injEq, true_and]
  exact eq_comm

theorem delimited_encodeIdentifier : Delimited (fun _ : Identifier kind => True) encodeIdentifier :=
  (Delimited.bytes 32).comap Identifier.bytes_injective

theorem assetKindTag_injective : Function.Injective assetKindTag := by
  intro left right same
  cases left <;> cases right <;> first | rfl | cases same

theorem delimited_encodeAsset : Delimited TickerFits encodeAsset := by
  have fields := (Delimited.bytes 32).pair (Delimited.byte.pair (Delimited.prefixed 4))
  exact (fields.comap (AssetDefinition.fields_injective assetKindTag_injective)).weaken (fun _ fits => ⟨trivial, trivial, fits⟩)

theorem delimited_encodeSupply : Delimited (fun _ : AssetId × Amount => True) encodeSupply := by
  have parts : Function.Injective (fun entry : AssetId × Amount =>
      (entry.1.bytes, entry.2.units)) := by
    intro left right same
    simp only [Prod.mk.injEq] at same
    exact Prod.ext (Identifier.bytes_injective same.1) (Amount.ext same.2)
  have fields := (Delimited.bytes 32).pair (Delimited.bigEndian 16)
  exact (fields.comap parts).weaken (fun entry _ => ⟨trivial, entry.2.bounded⟩)

theorem delimited_encodeCounted {α : Type} {valid : α -> Prop} {encode}
    (delimited : Delimited valid encode) : Delimited (Countable valid) (encodeCounted encode) :=
  delimited.counted 4

/-- Everything the preimage lists, in its order. -/
abbrev StateFields : Type :=
  Bytes 32 × UInt8 × Bytes 32 × List AssetDefinition × List (AssetId × Amount) ×
    List Nullifier × List TransactionId

def encodeFields (fields : StateFields) : List UInt8 :=
  fields.1.toList ++ ([fields.2.1] ++ (fields.2.2.1.toList ++
    (encodeCounted encodeAsset fields.2.2.2.1 ++ (encodeCounted encodeSupply fields.2.2.2.2.1 ++
      (encodeCounted encodeIdentifier fields.2.2.2.2.2.1 ++
        encodeCounted encodeIdentifier fields.2.2.2.2.2.2)))))

/-- The counts a state identifier can express. -/
def FieldsFit (fields : StateFields) : Prop :=
  True /\ True /\ True /\ Countable TickerFits fields.2.2.2.1 /\
    Countable (fun _ => True) fields.2.2.2.2.1 /\ Countable (fun _ => True) fields.2.2.2.2.2.1 /\
    Countable (fun _ => True) fields.2.2.2.2.2.2

theorem delimited_encodeFields : Delimited FieldsFit encodeFields :=
  (Delimited.bytes 32).pair (Delimited.byte.pair ((Delimited.bytes 32).pair
    ((delimited_encodeCounted delimited_encodeAsset).pair
      ((delimited_encodeCounted delimited_encodeSupply).pair
        ((delimited_encodeCounted delimited_encodeIdentifier).pair
          (delimited_encodeCounted delimited_encodeIdentifier))))))

namespace LedgerState

theorem snapshot_eq_of_listing_eq {left right : LedgerState}
    (same : left.listing = right.listing) : left.snapshot = right.snapshot := by
  change (LedgerSnapshot.fromCanonicalParts left.listing.treeDepth left.listing.assets
    left.listing.commitments left.listing.spentNullifiers left.listing.issuedSupply
    left.listing.acceptedTransactions).mapError _ = _
  rw [same]
  rfl

section
variable [Sha256]

def stateFields (state : LedgerState) (genesisId : GenesisId) : StateFields :=
  (genesisId.bytes, state.merkleRoot.depth, state.merkleRoot.digest, state.sortedAssets,
    state.sortedSupply, state.sortedNullifiers, state.sortedTransactions)

variable {state : LedgerState} {genesisId : GenesisId}

theorem stateIdInput_eq_ok {input} (computed : state.stateIdInput genesisId = .ok input) :
    FieldsFit (state.stateFields genesisId) /\
      input = utf8 "NOXIS/STATE/V2\x00" ++ encodeFields (state.stateFields genesisId) := by
  rcases (Except.bind_written (writeCounted_eq_ok writeAsset_eq_ok)).mp computed with
    ⟨assetsFit, computed⟩
  rcases (Except.bind_written (writeCounted_eq_ok writeSupply_eq_ok)).mp computed with
    ⟨suppliesFit, computed⟩
  rcases (Except.bind_written (writeCounted_eq_ok writeIdentifier_eq_ok)).mp computed with
    ⟨nullifiersFit, computed⟩
  rcases (Except.bind_written (writeCounted_eq_ok writeIdentifier_eq_ok)).mp computed with
    ⟨transactionsFit, same⟩
  exact ⟨⟨trivial, trivial, trivial, assetsFit, suppliesFit, nullifiersFit, transactionsFit⟩,
    (Except.ok.inj same).symm⟩

/-- Every byte string hashed while the identifier is computed. -/
def stateIdInputs (state : LedgerState) (genesisId : GenesisId) : List (List UInt8) :=
  (state.stateIdInput genesisId).toOption.toList ++
    rootInputs state.commitmentTree.depth state.commitmentTree.commitments

variable {id : StateId}

theorem stateId_eq_ok (computed : state.stateId genesisId = .ok id) :
    ∃ input, state.stateIdInput genesisId = .ok input /\ id = ⟨Sha256.digest input⟩ /\
      input ∈ state.stateIdInputs genesisId := by
  rcases Except.bind_eq_ok.mp computed with ⟨input, hashed, same⟩
  refine ⟨input, hashed, (Except.ok.inj same).symm, ?_⟩
  rw [stateIdInputs, hashed]
  exact List.mem_append_left _ List.mem_cons_self

variable {left right : LedgerState}

/-- States with one root and depth have the same ordered leaves, or the root
computations collide. -/
theorem leaves_eq_of_merkleRoot_eq (sameDepth : left.merkleRoot.depth = right.merkleRoot.depth)
    (sameRoot : left.merkleRoot.digest = right.merkleRoot.digest) :
    left.commitmentTree.commitments = right.commitmentTree.commitments ∨
      CollisionBetween Sha256.digest
        (rootInputs left.commitmentTree.depth left.commitmentTree.commitments)
        (rootInputs right.commitmentTree.depth right.commitmentTree.commitments) := by
  change left.commitmentTree.depth = right.commitmentTree.depth at sameDepth
  change rootFromCommitments left.commitmentTree.depth _ =
    rootFromCommitments right.commitmentTree.depth _ at sameRoot
  have leftFits := left.commitmentTree.len_le_pow
  rw [sameDepth] at sameRoot leftFits ⊢
  exact commitments_eq_of_root_eq leftFits right.commitmentTree.len_le_pow sameRoot

/-- Equal identifiers come from one genesis and from states with the same
listing, or two of the byte strings hashed collide. -/
theorem listing_eq_of_stateId_eq {leftGenesis rightGenesis}
    (leftComputed : left.stateId leftGenesis = .ok id)
    (rightComputed : right.stateId rightGenesis = .ok id) :
    (leftGenesis = rightGenesis /\ left.listing = right.listing) ∨
      CollisionBetween Sha256.digest (left.stateIdInputs leftGenesis)
        (right.stateIdInputs rightGenesis) := by
  rcases stateId_eq_ok leftComputed with ⟨leftInput, leftHashed, leftDigest, leftMember⟩
  rcases stateId_eq_ok rightComputed with ⟨rightInput, rightHashed, rightDigest, rightMember⟩
  have sameDigest : Sha256.digest leftInput = Sha256.digest rightInput :=
    congrArg Identifier.bytes (leftDigest.symm.trans rightDigest)
  rcases eq_or_collides Sha256.digest sameDigest with sameInput | collides
  · rcases stateIdInput_eq_ok leftHashed with ⟨leftFit, rfl⟩
    rcases stateIdInput_eq_ok rightHashed with ⟨rightFit, rfl⟩
    have sameFields := delimited_encodeFields.injective leftFit rightFit
      (List.append_cancel_left sameInput)
    simp only [stateFields, Prod.mk.injEq] at sameFields
    rcases sameFields with ⟨genesis, depth, root, assets, supplies, nullifiers, transactions⟩
    rcases leaves_eq_of_merkleRoot_eq depth root with leaves | collision
    · exact Or.inl ⟨Identifier.bytes_injective genesis,
        LedgerSnapshot.ext depth assets leaves nullifiers supplies transactions⟩
    · exact Or.inr (collision.mono (fun _ member => List.mem_append_right _ member)
        (fun _ member => List.mem_append_right _ member))
  · exact Or.inr ⟨leftInput, leftMember, rightInput, rightMember, collides⟩

/-- Equal identifiers come from one genesis and from states with the same
depth, assets, ordered commitments, supplies, nullifiers and accepted
transactions, hence with the same snapshot; or two of the byte strings hashed
by the two computations are a collision. -/
theorem stateId_binds_genesis_and_snapshot {left right : LedgerState}
    {leftGenesis rightGenesis : GenesisId} {id : StateId}
    (leftComputed : left.stateId leftGenesis = .ok id)
    (rightComputed : right.stateId rightGenesis = .ok id) :
    (leftGenesis = rightGenesis /\ left.listing = right.listing /\
        left.snapshot = right.snapshot) ∨
      CollisionBetween Sha256.digest (left.stateIdInputs leftGenesis)
        (right.stateIdInputs rightGenesis) := by
  rcases listing_eq_of_stateId_eq leftComputed rightComputed with ⟨genesis, listings⟩ | collision
  · exact Or.inl ⟨genesis, listings, snapshot_eq_of_listing_eq listings⟩
  · exact Or.inr collision

end

/-- The empty ledger after two assets were registered. -/
def registeredInOrder (first second : AssetDefinition) : LedgerState :=
  { testStart with assets := (testStart.assets.insert first.id first).insert second.id second }

open Fips180 in
theorem registeredInOrder_stateId_binds :
    let other : AssetDefinition := ⟨Identifier.replicate 1, "NXS", .nativeBacked⟩
    let left := registeredInOrder testAsset other
    let right := registeredInOrder other testAsset
    let genesisId : GenesisId := Identifier.replicate 40
    ∃ id, left.stateId genesisId = .ok id /\ right.stateId genesisId = .ok id /\
      (left.listing = right.listing ∨
        CollisionBetween Sha256.digest (left.stateIdInputs genesisId)
          (right.stateIdInputs genesisId)) := by
  intro other left right genesisId
  have sameState : left = right := by
    have different : testAsset.id ≠ other.id := by decide
    have sameAssets : left.assets = right.assets := by
      change (testStart.assets.insert testAsset.id testAsset).insert other.id other =
        (testStart.assets.insert other.id other).insert testAsset.id testAsset
      exact Finmap.insert_insert_of_ne _ different
    exact LedgerState.ext sameAssets rfl rfl rfl rfl rfl
  rcases Except.ok_or_error (left.stateId genesisId) with ⟨id, leftComputed⟩ | ⟨cause, aborted⟩
  · have rightComputed : right.stateId genesisId = .ok id := sameState ▸ leftComputed
    refine ⟨id, leftComputed, rightComputed, ?_⟩
    rcases stateId_binds_genesis_and_snapshot leftComputed rightComputed with same | collision
    · exact Or.inl same.2.1
    · exact Or.inr collision
  · have finished : (left.stateId genesisId).isOk = true := by decide +kernel
    rw [aborted] at finished
    cases finished

end LedgerState
end Noxis.Ledger
