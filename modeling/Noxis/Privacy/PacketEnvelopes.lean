import Noxis.Codec.PrivateTransfer
import Noxis.Privacy.PrivateLedger
import Noxis.Privacy.RecipientEnvelope

namespace Noxis.Privacy

open Foundation Codec

/-!
# Packets whose envelopes match their intent

The intent of a packet names a digest for each output.  A packet passes this
boundary when both of its envelopes are canonical and hash to the digests of the
intent, each at its own slot and with its own commitment.  Two packets with one
intent then carry the same envelopes, unless two different sequences of blocks
leave the sponge with the same output.
-/

inductive CandidatePrivatePacketEnvelopeValidationError where
  | codec (reason : CodecError)
  | envelopeCodec (slot : UInt8) (error : PaymentAddressCodecError)
  | nonCanonicalEnvelope (slot : UInt8)
  | digest (slot : UInt8) (error : CandidateCiphertextDigestError)
  | digestMismatch (slot : UInt8)
deriving DecidableEq

/-- A packet together with the digests that were computed again. -/
structure CandidatePrivateTransferPacketEnvelopeValidationV1 where
  packet : PrivateTransferPacketV2
  ciphertextDigests : Fin 2 -> CiphertextDigestV2

def decodeCanonicalEnvelope (slot : UInt8) (bytes : List UInt8) :
    Except CandidatePrivatePacketEnvelopeValidationError HybridRecipientEnvelope := do
  let envelope ← (decodeHybridRecipientEnvelope bytes).mapError (.envelopeCodec slot)
  let reencoded ← (encodeHybridRecipientEnvelope envelope).mapError (.envelopeCodec slot)
  if reencoded ≠ bytes then .error (.nonCanonicalEnvelope slot) else .ok envelope

section
variable (privacy : Poseidon2P24PrivacyReference)

def validateCandidatePrivateTransferPacketEnvelopes (packet : PrivateTransferPacketV2) :
    Except CandidatePrivatePacketEnvelopeValidationError
      CandidatePrivateTransferPacketEnvelopeValidationV1 := do
  let outputs := packet.intent.outputs
  let firstEnvelope ← decodeCanonicalEnvelope 0 (packet.recipientEnvelopes 0)
  let secondEnvelope ← decodeCanonicalEnvelope 1 (packet.recipientEnvelopes 1)
  let firstDigest ← (candidateCiphertextDigestV1 privacy .first (outputs 0).commitment
    firstEnvelope).mapError (.digest 0)
  let secondDigest ← (candidateCiphertextDigestV1 privacy .second (outputs 1).commitment
    secondEnvelope).mapError (.digest 1)
  if firstDigest ≠ (outputs 0).ciphertextDigest then
    .error (.digestMismatch 0)
  else if secondDigest ≠ (outputs 1).ciphertextDigest then
    .error (.digestMismatch 1)
  else
    .ok ⟨packet, ![firstDigest, secondDigest]⟩

/-- Decode exactly one packet and check its envelopes. -/
def decodeAndValidateCandidatePrivateTransferPacketEnvelopes (bytes : List UInt8) :
    Except CandidatePrivatePacketEnvelopeValidationError
      CandidatePrivateTransferPacketEnvelopeValidationV1 := do
  let packet ← (decodePrivateTransfer bytes).mapError .codec
  validateCandidatePrivateTransferPacketEnvelopes privacy packet

end

def outputSlot : Fin 2 -> CandidatePrivateOutputSlotV1 := ![.first, .second]

def envelopeDigest (privacy : Poseidon2P24PrivacyReference) (slot : CandidatePrivateOutputSlotV1)
    (commitment : NoteCommitmentV2) (bytes : List UInt8) : CiphertextDigestV2 :=
  .ofDigest (privacy.candidate.hashElements privacy.recipientEnvelopeIv
    ((bytePack3le (ciphertextDigestFrame slot commitment bytes)).map Nat.cast))

def EncodesEnvelope (bytes : List UInt8) : Prop :=
  ∃ envelope, encodeHybridRecipientEnvelope envelope = .ok bytes

variable {bytes : List UInt8}

theorem length_lt_of_encodesEnvelope (encodes : EncodesEnvelope bytes) : bytes.length < 2 ^ 16 := by
  obtain ⟨envelope, encoded⟩ := encodes
  obtain ⟨admitted, isBytes⟩ := encodeHybridRecipientEnvelope_eq_ok.mp encoded
  have atMost := (ensureEncryptedPayloadLength_eq_ok.mp admitted).2
  rw [← isBytes, length_envelopeBytes]
  unfold maxEncryptedPayloadBytes at atMost
  omega

/-- The second check of canonicity never fails: decoding already implies it. -/
theorem decodeCanonicalEnvelope_eq_ok {slot envelope} :
    decodeCanonicalEnvelope slot bytes = .ok envelope <->
      encodeHybridRecipientEnvelope envelope = .ok bytes := by
  simp only [decodeCanonicalEnvelope, Except.bind_eq_ok, Except.mapError_eq_ok,
    Except.refuse_eq_ok, not_not]
  constructor
  · rintro ⟨decoded, _, reencoded, isEncoded, rfl, same⟩
    rw [← Except.ok.inj same]
    exact isEncoded
  · intro encoded
    obtain ⟨admitted, isBytes⟩ := encodeHybridRecipientEnvelope_eq_ok.mp encoded
    have bounded : (envelopeBytes envelope).length < 2 ^ 64 := by
      rw [isBytes]
      exact Nat.lt_trans (length_lt_of_encodesEnvelope ⟨envelope, encoded⟩) (by decide)
    refine ⟨envelope, ?_, bytes, encoded, rfl, rfl⟩
    rw [← isBytes]
    exact reads_hybridRecipientEnvelope.parse_encode admitted bounded

/-- The envelopes of a packet are canonical and have the digests of its intent. -/
structure MatchesIntent (privacy : Poseidon2P24PrivacyReference)
    (packet : PrivateTransferPacketV2) : Prop where
  encodes : forall slot, EncodesEnvelope (packet.recipientEnvelopes slot)
  digests : forall slot, envelopeDigest privacy (outputSlot slot)
    (packet.intent.outputs slot).commitment (packet.recipientEnvelopes slot) =
      (packet.intent.outputs slot).ciphertextDigest

variable {privacy : Poseidon2P24PrivacyReference}
  {validation : CandidatePrivateTransferPacketEnvelopeValidationV1}

theorem validateCandidatePrivateTransferPacketEnvelopes_eq_ok {packet} :
    validateCandidatePrivateTransferPacketEnvelopes privacy packet = .ok validation <->
      MatchesIntent privacy packet /\ validation =
        ⟨packet, fun slot => (packet.intent.outputs slot).ciphertextDigest⟩ := by
  simp only [validateCandidatePrivateTransferPacketEnvelopes, Except.bind_eq_ok,
    Except.mapError_eq_ok, Except.refuse_eq_ok, not_not, decodeCanonicalEnvelope_eq_ok]
  constructor
  · rintro ⟨first, firstEncoded, second, secondEncoded, firstDigest, isFirst, secondDigest,
      isSecond, sameFirst, sameSecond, isValidation⟩
    rw [candidateCiphertextDigestV1_of_encoded firstEncoded] at isFirst
    rw [candidateCiphertextDigestV1_of_encoded secondEncoded] at isSecond
    subst sameFirst sameSecond
    refine ⟨⟨Fin.forall_fin_two.mpr ⟨⟨first, firstEncoded⟩, ⟨second, secondEncoded⟩⟩,
      Fin.forall_fin_two.mpr ⟨Except.ok.inj isFirst, Except.ok.inj isSecond⟩⟩, ?_⟩
    rw [← Except.ok.inj isValidation]
    congr 1
    exact funext (Fin.forall_fin_two.mpr ⟨rfl, rfl⟩)
  · rintro ⟨isMatch, rfl⟩
    obtain ⟨first, firstEncoded⟩ := isMatch.encodes 0
    obtain ⟨second, secondEncoded⟩ := isMatch.encodes 1
    refine ⟨first, firstEncoded, second, secondEncoded, _,
      candidateCiphertextDigestV1_of_encoded firstEncoded, _,
      candidateCiphertextDigestV1_of_encoded secondEncoded, isMatch.digests 0, isMatch.digests 1, ?_⟩
    congr 2
    exact funext (Fin.forall_fin_two.mpr ⟨isMatch.digests 0, isMatch.digests 1⟩)

theorem decodeAndValidate_eq_ok :
    decodeAndValidateCandidatePrivateTransferPacketEnvelopes privacy bytes = .ok validation <->
      ∃ packet, decodePrivateTransfer bytes = .ok packet /\ MatchesIntent privacy packet /\
        validation = ⟨packet, fun slot => (packet.intent.outputs slot).ciphertextDigest⟩ := by
  simp only [decodeAndValidateCandidatePrivateTransferPacketEnvelopes, Except.bind_eq_ok,
    Except.mapError_eq_ok, validateCandidatePrivateTransferPacketEnvelopes_eq_ok]

/-- Equal digests at one slot come from equal envelopes or from a collision of the
sponge. -/
theorem eq_or_collides_of_envelopeDigest_eq {slot commitment left right}
    (leftEncodes : EncodesEnvelope left) (rightEncodes : EncodesEnvelope right)
    (same : envelopeDigest privacy slot commitment left =
      envelopeDigest privacy slot commitment right) :
    left = right ∨ Collides (spongeOutput privacy.candidate.reference privacy.recipientEnvelopeIv)
      (absorbedBlocks (ciphertextDigestFrame slot commitment left))
      (absorbedBlocks (ciphertextDigestFrame slot commitment right)) := by
  have outputs := congrArg CanonicalVector.digest same
  rw [envelopeDigest, envelopeDigest, CanonicalVector.digest_ofDigest,
    CanonicalVector.digest_ofDigest, hashElements_eq_spongeOutput,
    hashElements_eq_spongeOutput] at outputs
  apply (eq_or_collides _ outputs).imp_left
  exact eq_of_absorbedBlocks_frame_eq (length_lt_of_encodesEnvelope leftEncodes)
    (length_lt_of_encodesEnvelope rightEncodes)

/-- Accepted packets with one intent carry the same envelopes, unless the blocks
absorbed for two envelopes at one slot collide.  The digest of an encodable
envelope always exists. -/
theorem packet_intent_binds_envelopes (privacy : Poseidon2P24PrivacyReference) :
    (forall left right leftPacket rightPacket,
      decodeAndValidateCandidatePrivateTransferPacketEnvelopes privacy left = .ok leftPacket ->
      decodeAndValidateCandidatePrivateTransferPacketEnvelopes privacy right = .ok rightPacket ->
      leftPacket.packet.intent = rightPacket.packet.intent ->
      leftPacket.packet.recipientEnvelopes = rightPacket.packet.recipientEnvelopes ∨
        ∃ slot, Collides (spongeOutput privacy.candidate.reference privacy.recipientEnvelopeIv)
          (absorbedBlocks (ciphertextDigestFrame (outputSlot slot)
            (leftPacket.packet.intent.outputs slot).commitment
            (leftPacket.packet.recipientEnvelopes slot)))
          (absorbedBlocks (ciphertextDigestFrame (outputSlot slot)
            (rightPacket.packet.intent.outputs slot).commitment
            (rightPacket.packet.recipientEnvelopes slot)))) /\
    (forall slot commitment envelope bytes,
      encodeHybridRecipientEnvelope envelope = .ok bytes ->
      ∃ digest, candidateCiphertextDigestV1 privacy slot commitment envelope = .ok digest) := by
  constructor
  · intro left right leftPacket rightPacket leftAccepted rightAccepted sameIntent
    obtain ⟨leftDecoded, _, leftMatches, rfl⟩ := decodeAndValidate_eq_ok.mp leftAccepted
    obtain ⟨rightDecoded, _, rightMatches, rfl⟩ := decodeAndValidate_eq_ok.mp rightAccepted
    dsimp only at sameIntent ⊢
    rw [sameIntent]
    have slots (slot : Fin 2) := eq_or_collides_of_envelopeDigest_eq (leftMatches.encodes slot)
      (rightMatches.encodes slot)
      ((sameIntent ▸ leftMatches.digests slot).trans (rightMatches.digests slot).symm)
    by_cases collision : ∃ slot, leftDecoded.recipientEnvelopes slot ≠
      rightDecoded.recipientEnvelopes slot
    · obtain ⟨slot, differs⟩ := collision
      exact Or.inr ⟨slot, (slots slot).resolve_left differs⟩
    · apply Or.inl
      funext slot
      by_contra differs
      exact collision ⟨slot, differs⟩
  · intro slot commitment envelope bytes encoded
    exact ⟨_, candidateCiphertextDigestV1_of_encoded encoded⟩

section
open Fips180

def envelopeAt (slot : Fin 2) : HybridRecipientEnvelope :=
  ⟨.ofNat slot, .replicate 32 0, .replicate 32 0, .replicate 1088 0, .replicate 24 0,
    .replicate 16 0⟩

/-- A packet for an intent whose digests are replaced by those of two envelopes. -/
def packetFor (intent : PrivateTransferIntentV2) (proof : UInt8) : PrivateTransferPacketV2 where
  intent := { intent with
    outputs := fun slot => { intent.outputs slot with
      ciphertextDigest := envelopeDigest loadPrivacyReference (outputSlot slot)
        (intent.outputs slot).commitment (envelopeBytes (envelopeAt slot)) } }
  recipientEnvelopes := fun slot => envelopeBytes (envelopeAt slot)
  proof := [proof]
  envelopesFit := by
    intro slot
    rw [length_envelopeBytes]
    rfl
  proofFits := rfl

/-- Two packets that differ in their proofs are accepted and carry the same
envelopes, unless the sponge collides. -/
theorem packets_with_two_proofs_are_accepted :
    ∃ left right leftPacket rightPacket, left ≠ right /\
      decodeAndValidateCandidatePrivateTransferPacketEnvelopes loadPrivacyReference left =
        .ok leftPacket /\
      decodeAndValidateCandidatePrivateTransferPacketEnvelopes loadPrivacyReference right =
        .ok rightPacket /\
      (leftPacket.packet.recipientEnvelopes = rightPacket.packet.recipientEnvelopes ∨
        ∃ first second, Collides (spongeOutput loadPrivacyReference.candidate.reference
          loadPrivacyReference.recipientEnvelopeIv) first second) := by
  rcases exists_emptyAnchor zeroParameters with ⟨anchor, _⟩
  have accepted (proof : UInt8) := decodeAndValidate_eq_ok.mpr
    ⟨packetFor (transferFrom anchor) proof, decodePrivateTransfer_eq_ok.mpr rfl,
      ⟨fun slot => ⟨_, encodeHybridRecipientEnvelope_eq_ok.mpr ⟨rfl, rfl⟩⟩, fun _ => rfl⟩, rfl⟩
  refine ⟨_, _, _, _, ?_, accepted 1, accepted 2, ?_⟩
  · intro same
    have decoded := decodePrivateTransfer_eq_ok.mpr same
    rw [decodePrivateTransfer_eq_ok.mpr rfl] at decoded
    cases congrArg PrivateTransferPacketV2.proof (Except.ok.inj decoded)
  · rcases (packet_intent_binds_envelopes loadPrivacyReference).1 _ _ _ _ (accepted 1) (accepted 2)
      rfl with same | ⟨slot, collides⟩
    · exact Or.inl same
    · exact Or.inr ⟨_, _, collides⟩

end
end Noxis.Privacy
