import Noxis.Codec.PrivateTransfer
import Noxis.Privacy.ProofEnvelope

namespace Noxis.Privacy

open Foundation Codec

/-!
# Envelopes of proofs inside packets

A bundle of proofs travels as an envelope, and the envelope is the proof field of
a packet.  The limits of the two formats are stated independently of each other:
the envelope has a budget for its proofs and for its overhead, the packet a bound
on an opaque field.  Every envelope that is written or that passes the frame check
is within the bound of the packet.
-/

variable {P : Type}

/-- The parts of a bundle that an envelope carries. -/
structure CandidatePrivateTransferProofBundleTransportPartsV1 where
  intentValueProof : List UInt8
  inputOwnershipProofs : Fin 2 -> List UInt8
  inputNoteCommitments : Fin 2 -> BabyBearDigest

section
variable (toBytes : P -> Option (List UInt8))

/-- The bytes of a proof, which the proof system's serializer may refuse. -/
def encodePinnedResearchBytes (proof : P) : Except StarkExperimentError (List UInt8) :=
  match toBytes proof with
  | some bytes => .ok bytes
  | none => .error .pinnedResearchProofEncode

def CandidateAnchoredOwnershipProofV1.pinnedResearchTransportPart
    (anchored : CandidateAnchoredOwnershipProofV1 P) :
    Except CandidateAnchoredOwnershipError (List UInt8 × BabyBearDigest) :=
  match anchored.ownershipProof.boundNoteCommitment with
  | none => .error .missingNoteCommitmentBinding
  | some noteCommitment => do
      let bytes ← (encodePinnedResearchBytes toBytes anchored.ownershipProof.proof).mapError .stark
      .ok (bytes, noteCommitment)

def CandidatePrivateTransferProofBundleV1.pinnedResearchTransportParts
    (bundle : CandidatePrivateTransferProofBundleV1 P) :
    Except CandidatePrivateTransferProofBundleError
      CandidatePrivateTransferProofBundleTransportPartsV1 := do
  let first ← ((bundle.inputOwnership 0).pinnedResearchTransportPart toBytes).mapError .ownership
  let second ← ((bundle.inputOwnership 1).pinnedResearchTransportPart toBytes).mapError
    .ownership
  let intentValueProof ← (encodePinnedResearchBytes toBytes bundle.intentValue.proof).mapError .stark
  .ok {
    intentValueProof
    inputOwnershipProofs := ![first.1, second.1]
    inputNoteCommitments := ![first.2, second.2] }

end

def CandidatePrivateTransferProofBundleTransportPartsV1.chunks
    (parts : CandidatePrivateTransferProofBundleTransportPartsV1) : Fin 3 -> List UInt8 :=
  ![parts.intentValueProof, parts.inputOwnershipProofs 0, parts.inputOwnershipProofs 1]

/-- The bytes of all proofs together. -/
def chunkBytes (chunks : Fin 3 -> List UInt8) : Nat :=
  (chunks 0).length + (chunks 1).length + (chunks 2).length

section
variable [Sha256]

def CandidatePrivateProofBundleEnvelopeV1.encode (toBytes : P -> Option (List UInt8))
    (bundle : CandidatePrivateTransferProofBundleV1 P)
    (statement : CandidatePrivateTransferProofPublicStatementV1) :
    Except CandidatePrivateProofBundleEnvelopeError (List UInt8) :=
  if bundle.statementId ≠ statement.statementId then
    .error .statementIdMismatch
  else do
    let parts ← (bundle.pinnedResearchTransportParts toBytes).mapError .bundle
    if 2 ^ 64 <= chunkBytes parts.chunks then
      .error .proofLengthOverflow
    else do
      let _ ← (ensureEnvelopeComponents (chunkBytes parts.chunks) fixedOverheadBytes).mapError
        .budget
      if 2 ^ 64 <= fixedOverheadBytes + chunkBytes parts.chunks then
        .error .proofLengthOverflow
      else do
        let first ← (CanonicalVector.fromElements (parts.inputNoteCommitments 0)).mapError
          .privacyTypes
        let second ← (CanonicalVector.fromElements (parts.inputNoteCommitments 1)).mapError
          .privacyTypes
        if ∃ index, 2 ^ 32 <= (parts.chunks index).length then
          .error .proofLengthOverflow
        else
          .ok (envelopeOf statement.statementId.bytes ![first, second] parts.chunks)

omit [Sha256] in
theorem ensureEnvelopeComponents_eq_ok {proofBytes overheadBytes total : Nat}
    (accepted : ensureEnvelopeComponents proofBytes overheadBytes = .ok total) :
    proofBytes + overheadBytes <= transportMaxEnvelopeBytes := by
  simp only [ensureEnvelopeComponents, Except.refuse_eq_ok] at accepted
  exact Nat.not_lt.mp accepted.2.2.1

theorem length_envelopeOf (statementId : Bytes 32) (commitments : Fin 2 -> NoteCommitmentV2)
    (chunks : Fin 3 -> List UInt8) :
    (envelopeOf statementId commitments chunks).length = chunkBytes chunks + fixedOverheadBytes := by
  rw [envelopeOf, List.length_append, length_envelopeBody, Bytes.length_toList, chunkBytes,
    fixedOverheadBytes, envelopeChecksumLength]
  omega

/-- Written envelopes fit the proof field of a packet. -/
theorem proofFits_of_encode {toBytes : P -> Option (List UInt8)}
    {bundle : CandidatePrivateTransferProofBundleV1 P}
    {statement : CandidatePrivateTransferProofPublicStatementV1} {bytes : List UInt8}
    (encoded : CandidatePrivateProofBundleEnvelopeV1.encode toBytes bundle statement = .ok bytes) :
    ensurePrivateProofLimit bytes.length = .ok () := by
  simp only [CandidatePrivateProofBundleEnvelopeV1.encode, Except.refuse_eq_ok, Except.bind_eq_ok,
    Except.mapError_eq_ok] at encoded
  obtain ⟨_, parts, _, _, total, within, _, first, _, second, _, _, isEnvelope⟩ := encoded
  have bounded := ensureEnvelopeComponents_eq_ok within
  rw [← Except.ok.inj isEnvelope, length_envelopeOf]
  exact ensurePrivateLimit_eq_ok.mpr ⟨Nat.lt_of_lt_of_le (by decide) (Nat.le_add_left _ _), bounded⟩

/-- Envelopes that pass the frame check fit the proof field of a packet. -/
theorem proofFits_of_parseFrame {bytes statementId frame}
    (parsed : parseFrame bytes statementId = .ok frame) :
    ensurePrivateProofLimit bytes.length = .ok () := by
  obtain ⟨long, parsed⟩ := Except.refuse_eq_ok.mp parsed
  obtain ⟨short, _⟩ := Except.refuse_eq_ok.mp parsed
  exact ensurePrivateLimit_eq_ok.mpr
    ⟨Nat.lt_of_lt_of_le (by decide) (Nat.not_lt.mp long), Nat.not_lt.mp short⟩

end

/-- Packets and accepted byte strings determine each other.  An intent is accepted
exactly when its vectors are canonical and its nullifiers and commitments increase,
alone and inside a packet, and every envelope of proofs fits the proof field. -/
theorem private_packets_and_bytes_correspond [Sha256] :
    (forall packet, ∃ bytes, encodePrivateTransfer packet = .ok bytes /\
      decodePrivateTransfer bytes = .ok packet) /\
    (forall bytes packet, decodePrivateTransfer bytes = .ok packet ->
      encodePrivateTransfer packet = .ok bytes /\
        (bytes.drop 6).take PrivateTransferIntentV2.encodedLength = packet.intent.encode) /\
    (forall bytes, bytes.length = PrivateTransferIntentV2.encodedLength ->
      ((∃ intent, PrivateTransferIntentV2.decode bytes = .ok intent) <->
        PrivateTransferIntentV2.CanonicalFields bytes /\
          PrivateTransferIntentV2.OrderedFields bytes)) /\
    (forall (source : Bytes PrivateTransferIntentV2.encodedLength) (first second proof : List UInt8),
      ensurePrivateEnvelopeLimit first.length = .ok () ->
      ensurePrivateEnvelopeLimit second.length = .ok () ->
      ensurePrivateProofLimit proof.length = .ok () ->
      ((∃ packet, decodePrivateTransfer (privateTransferMagic ++
          (bigEndian 2 privateTransferFormatVersion.toNat ++ (source.toList ++
          (privateEnvelopeBytes first ++ (privateEnvelopeBytes second ++
            privateProofBytes proof))))) = .ok packet) <->
        PrivateTransferIntentV2.CanonicalFields source.toList /\
          PrivateTransferIntentV2.OrderedFields source.toList)) /\
    (forall (toBytes : P -> Option (List UInt8)) bundle statement bytes,
      CandidatePrivateProofBundleEnvelopeV1.encode toBytes bundle statement = .ok bytes ->
        ensurePrivateProofLimit bytes.length = .ok ()) /\
    (forall bytes statementId frame, parseFrame bytes statementId = .ok frame ->
      ensurePrivateProofLimit bytes.length = .ok ()) := by
  refine ⟨?_, ?_, ?_, ?_, ?_, ?_⟩
  · intro packet
    exact ⟨_, encodePrivateTransfer_eq packet, decodePrivateTransfer_eq_ok.mpr rfl⟩
  · intro bytes packet decoded
    rw [decodePrivateTransfer_eq_ok.mp decoded]
    refine ⟨encodePrivateTransfer_eq packet, ?_⟩
    have header : (privateTransferMagic ++
        bigEndian 2 privateTransferFormatVersion.toNat).length = 6 := by decide
    rw [packetBytes, ← List.append_assoc, ← header, List.drop_left]
    exact List.take_left' packet.intent.length_encode
  · intro bytes sized
    exact PrivateTransferIntentV2.exists_decode_iff sized
  · intro source first second proof firstFits secondFits proofFits
    rw [exists_decodePrivateTransfer_iff source firstFits secondFits proofFits]
    exact PrivateTransferIntentV2.exists_decode_iff source.length_toList
  · intro toBytes bundle statement bytes encoded
    exact proofFits_of_encode encoded
  · intro bytes statementId frame parsed
    exact proofFits_of_parseFrame parsed

end Noxis.Privacy
