import Noxis.Foundation.Stateful
import Noxis.Privacy.Identifiers
import Noxis.Types

namespace Noxis.Privacy

open Foundation

/-!
# Intents of private transfers

A private transfer spends two nullifiers and publishes two note commitments.  Its
intent names the state it starts from.  An intent exists only with distinct
nullifiers and distinct commitments, each pair in the order of its bytes, so one
transfer has one intent.  An encoded intent has a fixed size, and the decoder
accepts exactly the encodings of intents.
-/

/-- What a 32-byte identity of the private protocol names. -/
inductive PrivateIdentifierKind where
  | circuit
  | treeParameters
  | nullifierSparseCandidate
  | nullifierTransition
  | publicStatement
  | innerRelationReceipt
deriving DecidableEq

@[ext]
structure PrivateIdentifier (kind : PrivateIdentifierKind) where
  bytes : Bytes 32
deriving DecidableEq

abbrev CircuitId := PrivateIdentifier .circuit
abbrev TreeParametersId := PrivateIdentifier .treeParameters
abbrev CandidatePoseidon2P24NullifierSparseIdV1 := PrivateIdentifier .nullifierSparseCandidate

structure TreeParametersV2 where
  id : TreeParametersId
deriving DecidableEq

/-- The depth of the note tree, which the parameters do not choose. -/
def TreeParametersV2.depth (_ : TreeParametersV2) : UInt8 := 32

structure PrivateTransferOutputV2 where
  commitment : NoteCommitmentV2
  ciphertextDigest : CiphertextDigestV2
deriving DecidableEq

/-- A transfer with two inputs and two outputs. -/
structure PrivateTransferIntentV2 where
  circuitId : CircuitId
  genesisId : GenesisId
  validationContextId : ValidationContextId
  preStateId : StateId
  treeParameters : TreeParametersV2
  preStateRoot : MerkleRootV2
  assetId : AssetId
  nullifiers : Fin 2 -> NullifierV2
  outputs : Fin 2 -> PrivateTransferOutputV2
  orderedNullifiers : nullifiers 0 < nullifiers 1
  orderedOutputs : (outputs 0).commitment < (outputs 1).commitment

namespace PrivateTransferIntentV2

/-- The size of every encoding. -/
abbrev encodedLength : Nat := 32 + 32 * 5 + 64 + 64 * 2 + 64 * 2 + 64 * 2

def new (circuitId : CircuitId) (genesisId : GenesisId) (validationContextId : ValidationContextId)
    (preStateId : StateId) (treeParameters : TreeParametersV2) (preStateRoot : MerkleRootV2)
    (assetId : AssetId) (nullifiers : Fin 2 -> NullifierV2)
    (outputs : Fin 2 -> PrivateTransferOutputV2) :
    Except PrivacyTypesError PrivateTransferIntentV2 :=
  if sameNullifiers : nullifiers 0 = nullifiers 1 then
    .error .duplicateInputNullifier
  else if reversedNullifiers : (nullifiers 1).bytes < (nullifiers 0).bytes then
    .error .nonCanonicalInputNullifierOrder
  else if sameOutputs : (outputs 0).commitment = (outputs 1).commitment then
    .error .duplicateOutputCommitment
  else if reversedOutputs : (outputs 1).commitment.bytes < (outputs 0).commitment.bytes then
    .error .nonCanonicalOutputCommitmentOrder
  else
    .ok {
      circuitId, genesisId, validationContextId, preStateId, treeParameters, preStateRoot, assetId,
      nullifiers, outputs,
      orderedNullifiers := lt_of_le_of_ne (not_lt.mp reversedNullifiers) sameNullifiers
      orderedOutputs := lt_of_le_of_ne (not_lt.mp reversedOutputs) sameOutputs }

variable {intent : PrivateTransferIntentV2}

theorem new_eq_ok
    {circuitId genesisId validationContextId preStateId treeParameters preStateRoot assetId nullifiers outputs}
    :
    new circuitId genesisId validationContextId preStateId treeParameters preStateRoot assetId
        nullifiers outputs = .ok intent <->
      circuitId = intent.circuitId /\ genesisId = intent.genesisId /\
      validationContextId = intent.validationContextId /\ preStateId = intent.preStateId /\
      treeParameters = intent.treeParameters /\ preStateRoot = intent.preStateRoot /\
      assetId = intent.assetId /\ nullifiers = intent.nullifiers /\ outputs = intent.outputs := by
  unfold new
  constructor
  · intro made
    split at made
    · cases made
    split at made
    · cases made
    split at made
    · cases made
    grind
  · intro fields
    obtain ⟨rfl, rfl, rfl, rfl, rfl, rfl, rfl, rfl, rfl⟩ := fields
    have nullifierOrder : ¬ (intent.nullifiers 1).bytes < (intent.nullifiers 0).bytes :=
      not_lt.mpr intent.orderedNullifiers.le
    have outputOrder :
        ¬ (intent.outputs 1).commitment.bytes < (intent.outputs 0).commitment.bytes :=
      not_lt.mpr intent.orderedOutputs.le
    rw [dif_neg intent.orderedNullifiers.ne, dif_neg nullifierOrder,
      dif_neg intent.orderedOutputs.ne, dif_neg outputOrder]

/-- The input nullifiers in their order. -/
def nullifierList (intent : PrivateTransferIntentV2) : List NullifierV2 :=
  [intent.nullifiers 0, intent.nullifiers 1]

def outputCommitments (intent : PrivateTransferIntentV2) : List NoteCommitmentV2 :=
  [(intent.outputs 0).commitment, (intent.outputs 1).commitment]

theorem nullifiers_ne (intent : PrivateTransferIntentV2) :
    intent.nullifiers 0 ≠ intent.nullifiers 1 :=
  intent.orderedNullifiers.ne

theorem nodup_nullifierList (intent : PrivateTransferIntentV2) : intent.nullifierList.Nodup := by
  simp [nullifierList, intent.nullifiers_ne]

/-- All public fields in their order. -/
def encode (intent : PrivateTransferIntentV2) : List UInt8 :=
  intent.circuitId.bytes.toList ++ intent.genesisId.bytes.toList ++
    intent.validationContextId.bytes.toList ++ intent.preStateId.bytes.toList ++
    intent.treeParameters.id.bytes.toList ++ intent.preStateRoot.bytes.toList ++
    intent.assetId.bytes.toList ++
    intent.nullifierList.flatMap (fun nullifier => nullifier.bytes.toList) ++
    intent.outputCommitments.flatMap (fun commitment => commitment.bytes.toList) ++
    [(intent.outputs 0).ciphertextDigest, (intent.outputs 1).ciphertextDigest].flatMap
      (fun digest => digest.bytes.toList)

/-- The fields of a source of the right size, each at its place. -/
def decodeFields (source : Bytes encodedLength) : Except PrivacyTypesError PrivateTransferIntentV2 := do
  let preStateRoot ← CanonicalVector.new (source.cut 160 64 (by decide))
  let firstNullifier ← CanonicalVector.new (source.cut 256 64 (by decide))
  let secondNullifier ← CanonicalVector.new (source.cut 320 64 (by decide))
  let firstCommitment ← CanonicalVector.new (source.cut 384 64 (by decide))
  let secondCommitment ← CanonicalVector.new (source.cut 448 64 (by decide))
  let firstDigest ← CanonicalVector.new (source.cut 512 64 (by decide))
  let secondDigest ← CanonicalVector.new (source.cut 576 64 (by decide))
  new ⟨source.cut 0 32 (by decide)⟩ ⟨source.cut 32 32 (by decide)⟩ ⟨source.cut 64 32 (by decide)⟩
    ⟨source.cut 96 32 (by decide)⟩ ⟨⟨source.cut 128 32 (by decide)⟩⟩ preStateRoot
    ⟨source.cut 224 32 (by decide)⟩ ![firstNullifier, secondNullifier]
    ![⟨firstCommitment, firstDigest⟩, ⟨secondCommitment, secondDigest⟩]

/-- Decode exactly one intent and repeat the structural checks. -/
def decode (bytes : List UInt8) : Except PrivacyTypesError PrivateTransferIntentV2 :=
  match Bytes.ofList? encodedLength bytes with
  | none => .error (.invalidIntentLength bytes.length encodedLength)
  | some source => decodeFields source

/-! ## Accepted encodings -/

variable {source : Bytes encodedLength}

theorem toList_eq_encode_iff :
    source.toList = intent.encode <->
      source.cut 0 32 (by decide) = intent.circuitId.bytes /\
      source.cut 32 32 (by decide) = intent.genesisId.bytes /\
      source.cut 64 32 (by decide) = intent.validationContextId.bytes /\
      source.cut 96 32 (by decide) = intent.preStateId.bytes /\
      source.cut 128 32 (by decide) = intent.treeParameters.id.bytes /\
      source.cut 160 64 (by decide) = intent.preStateRoot.bytes /\
      source.cut 224 32 (by decide) = intent.assetId.bytes /\
      source.cut 256 64 (by decide) = (intent.nullifiers 0).bytes /\
      source.cut 320 64 (by decide) = (intent.nullifiers 1).bytes /\
      source.cut 384 64 (by decide) = (intent.outputs 0).commitment.bytes /\
      source.cut 448 64 (by decide) = (intent.outputs 1).commitment.bytes /\
      source.cut 512 64 (by decide) = (intent.outputs 0).ciphertextDigest.bytes /\
      source.cut 576 64 (by decide) = (intent.outputs 1).ciphertextDigest.bytes := by
  have consumed : source.toList.drop encodedLength = [] :=
    List.drop_eq_nil_of_le (Nat.le_of_eq source.length_toList)
  have cut (start length : Nat) (fits : start + length <= encodedLength) :=
    source.drop_eq_cut_append fits
  rw [show source.toList = source.toList.drop 0 from rfl, cut 0 32 (by decide),
    cut 32 32 (by decide), cut 64 32 (by decide), cut 96 32 (by decide), cut 128 32 (by decide),
    cut 160 64 (by decide), cut 224 32 (by decide), cut 256 64 (by decide), cut 320 64 (by decide),
    cut 384 64 (by decide), cut 448 64 (by decide), cut 512 64 (by decide), cut 576 64 (by decide),
    consumed]
  simp only [encode, nullifierList, outputCommitments, List.flatMap_cons, List.flatMap_nil,
    List.append_assoc, List.append_nil, Bytes.toList_append_inj, Bytes.ext_iff.symm]

@[simp] theorem length_encode (intent : PrivateTransferIntentV2) :
    intent.encode.length = encodedLength := by
  simp [encode, nullifierList, outputCommitments, encodedLength, Bytes.length_toList]

theorem decodeFields_eq_ok :
    decodeFields source = .ok intent <-> source.toList = intent.encode := by
  rw [toList_eq_encode_iff]
  simp only [decodeFields, Except.bind_eq_ok, CanonicalVector.new_eq_ok, new_eq_ok]
  constructor
  · rintro ⟨root, isRoot, firstNullifier, isFirst, secondNullifier, isSecond, firstCommitment,
      isFirstCommitment, secondCommitment, isSecondCommitment, firstDigest, isFirstDigest,
      secondDigest, isSecondDigest, circuit, genesis, context, state, tree, sameRoot, asset,
      nullifiers, outputs⟩
    rw [← circuit, ← genesis, ← context, ← state, ← tree, ← sameRoot, ← asset, ← nullifiers,
      ← outputs]
    exact ⟨rfl, rfl, rfl, rfl, rfl, isRoot.symm, rfl, isFirst.symm, isSecond.symm,
      isFirstCommitment.symm, isSecondCommitment.symm, isFirstDigest.symm, isSecondDigest.symm⟩
  · rintro ⟨circuit, genesis, context, state, tree, root, asset, first, second, firstCommitment,
      secondCommitment, firstDigest, secondDigest⟩
    exact ⟨_, root.symm, _, first.symm, _, second.symm, _, firstCommitment.symm, _,
      secondCommitment.symm, _, firstDigest.symm, _, secondDigest.symm,
      PrivateIdentifier.ext circuit, Identifier.ext genesis, Identifier.ext context,
      Identifier.ext state, congrArg TreeParametersV2.mk (PrivateIdentifier.ext tree), rfl,
      Identifier.ext asset, funext (Fin.forall_fin_two.mpr ⟨rfl, rfl⟩),
      funext (Fin.forall_fin_two.mpr ⟨rfl, rfl⟩)⟩

variable {bytes : List UInt8}

theorem decode_eq_ok : decode bytes = .ok intent <-> bytes = intent.encode := by
  constructor
  · intro decoded
    unfold decode at decoded
    cases sized : Bytes.ofList? encodedLength bytes with
    | none =>
      rw [sized] at decoded
      cases decoded
    | some source =>
      rw [sized] at decoded
      rw [← Bytes.toList_of_ofList?_eq_some sized]
      exact decodeFields_eq_ok.mp decoded
  · intro encoded
    have sized : bytes.length = encodedLength := encoded ▸ length_encode intent
    have fits : Bytes.ofList? encodedLength bytes = some ⟨bytes, sized⟩ := dif_pos sized
    rw [decode, fits]
    exact decodeFields_eq_ok.mpr encoded

/-- The seven vectors of an encoded intent hold canonical elements. -/
def CanonicalFields (bytes : List UInt8) : Prop :=
  forall offset, offset ∈ [160, 256, 320, 384, 448, 512, 576] -> forall lane : Fin 16,
    ofLittleEndian ((bytes.drop (offset + lane.val * 4)).take 4) < babyBearModulus

/-- The nullifiers and the commitments of an encoded intent increase. -/
def OrderedFields (bytes : List UInt8) : Prop :=
  (bytes.drop 256).take 64 < (bytes.drop 320).take 64 /\
    (bytes.drop 384).take 64 < (bytes.drop 448).take 64

theorem elementAt_cut (source : Bytes encodedLength) {offset : Nat} (within : offset + 64 <= encodedLength)
    (lane : Fin 16) : elementAt (source.cut offset 64 within) lane =
      ofLittleEndian ((source.toList.drop (offset + lane.val * 4)).take 4) := by
  rw [elementAt, Bytes.cut, List.drop_take, List.drop_drop, List.take_take,
    Nat.min_eq_left (by omega)]

theorem exists_decode_iff (sized : bytes.length = encodedLength) :
    (∃ intent, decode bytes = .ok intent) <-> CanonicalFields bytes /\ OrderedFields bytes := by
  obtain ⟨source, rfl⟩ : ∃ source : Bytes encodedLength, source.toList = bytes :=
    ⟨⟨bytes, sized⟩, rfl⟩
  have canonical : CanonicalFields source.toList <->
      forall offset within, offset ∈ [160, 256, 320, 384, 448, 512, 576] ->
        forall lane, elementAt (source.cut offset 64 within) lane < babyBearModulus := by
    constructor
    · intro canonical offset within listed lane
      rw [elementAt_cut]
      exact canonical offset listed lane
    · intro canonical offset listed lane
      have within : offset + 64 <= encodedLength := by
        grind
      rw [← elementAt_cut source within]
      exact canonical offset within listed lane
  rw [canonical]
  constructor
  · rintro ⟨intent, decoded⟩
    obtain ⟨_, _, _, _, _, root, _, first, second, firstCommitment, secondCommitment, firstDigest,
      secondDigest⟩ := toList_eq_encode_iff.mp (decode_eq_ok.mp decoded)
    refine ⟨?_, ?_, ?_⟩
    · intro offset within listed
      simp only [List.mem_cons, List.not_mem_nil, or_false] at listed
      obtain rfl | rfl | rfl | rfl | rfl | rfl | rfl := listed
      · exact root ▸ intent.preStateRoot.canonical
      · exact first ▸ (intent.nullifiers 0).canonical
      · exact second ▸ (intent.nullifiers 1).canonical
      · exact firstCommitment ▸ (intent.outputs 0).commitment.canonical
      · exact secondCommitment ▸ (intent.outputs 1).commitment.canonical
      · exact firstDigest ▸ (intent.outputs 0).ciphertextDigest.canonical
      · exact secondDigest ▸ (intent.outputs 1).ciphertextDigest.canonical
    · have ordered : (intent.nullifiers 0).bytes < (intent.nullifiers 1).bytes :=
        intent.orderedNullifiers
      rw [← first, ← second] at ordered
      exact ordered
    · have ordered : (intent.outputs 0).commitment.bytes < (intent.outputs 1).commitment.bytes :=
        intent.orderedOutputs
      rw [← firstCommitment, ← secondCommitment] at ordered
      exact ordered
  · rintro ⟨fields, orderedNullifiers, orderedOutputs⟩
    refine ⟨{
      circuitId := ⟨source.cut 0 32 (by decide)⟩
      genesisId := ⟨source.cut 32 32 (by decide)⟩
      validationContextId := ⟨source.cut 64 32 (by decide)⟩
      preStateId := ⟨source.cut 96 32 (by decide)⟩
      treeParameters := ⟨⟨source.cut 128 32 (by decide)⟩⟩
      preStateRoot := ⟨source.cut 160 64 (by decide), fields _ _ (by decide)⟩
      assetId := ⟨source.cut 224 32 (by decide)⟩
      nullifiers := ![⟨source.cut 256 64 (by decide), fields _ _ (by decide)⟩,
        ⟨source.cut 320 64 (by decide), fields _ _ (by decide)⟩]
      outputs := ![
        ⟨⟨source.cut 384 64 (by decide), fields _ _ (by decide)⟩,
          ⟨source.cut 512 64 (by decide), fields _ _ (by decide)⟩⟩,
        ⟨⟨source.cut 448 64 (by decide), fields _ _ (by decide)⟩,
          ⟨source.cut 576 64 (by decide), fields _ _ (by decide)⟩⟩]
      orderedNullifiers
      orderedOutputs }, decode_eq_ok.mpr (toList_eq_encode_iff.mpr ?_)⟩
    simp

end PrivateTransferIntentV2
end Noxis.Privacy
