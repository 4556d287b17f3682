import Noxis.Foundation.Reader
import Noxis.Privacy.PublicStatement

namespace Noxis.Privacy

open Foundation

/-!
# Recipient envelopes and their digests

An encrypted note travels in an envelope with the key material that opens it.
Except for the encrypted payload its fields have fixed widths, and the payload is
behind its length.  The digest of an envelope is a hash of a frame that names the
output slot and the commitment, gives the length of the encoded envelope and ends
with the envelope.  The sponge packs three bytes into an element and fills the
last element and the last block with zeros, so the length in the frame is what
tells a shorter envelope from one that ends in zeros.
-/

structure HybridRecipientEnvelope where
  keyEpoch : UInt64
  keysetId : Bytes 32
  ephemeralX25519PublicKey : Bytes 32
  mlKem768Ciphertext : Bytes 1088
  nonce : Bytes 24
  encryptedPayload : List UInt8

inductive PaymentAddressCodecError where
  | truncated
  | trailingBytes
  | invalidRecipientEnvelopeMagic
  | unsupportedRecipientEnvelopeVersion (version : UInt16)
  | invalidEncryptedPayloadLength (actual : Nat)
deriving DecidableEq, Repr

instance : ReaderErrors PaymentAddressCodecError where
  lengthOverflow := .truncated
  unexpectedEnd := fun _ => .truncated
  trailingBytes := fun _ => .trailingBytes

def hybridRecipientEnvelopeMagic : List UInt8 := utf8 "NXRE"

def hybridRecipientEnvelopeFormatVersion : UInt16 := 1

def minEncryptedPayloadBytes : Nat := 16

def maxEncryptedPayloadBytes : Nat := 2 * 1024

def ensureEncryptedPayloadLength (length : Nat) : Except PaymentAddressCodecError Unit :=
  if ¬(minEncryptedPayloadBytes <= length /\ length <= maxEncryptedPayloadBytes) then
    .error (.invalidEncryptedPayloadLength length)
  else
    .ok ()

/-- The bytes of an envelope.  The payload's length is written in four bytes. -/
def envelopeBytes (envelope : HybridRecipientEnvelope) : List UInt8 :=
  hybridRecipientEnvelopeMagic ++ (bigEndian 2 hybridRecipientEnvelopeFormatVersion.toNat ++
    (bigEndian 8 envelope.keyEpoch.toNat ++ (envelope.keysetId.toList ++
    (envelope.ephemeralX25519PublicKey.toList ++ (envelope.mlKem768Ciphertext.toList ++
    (envelope.nonce.toList ++ (bigEndian 4 envelope.encryptedPayload.length ++
      envelope.encryptedPayload)))))))

def encodeHybridRecipientEnvelope (envelope : HybridRecipientEnvelope) :
    Except PaymentAddressCodecError (List UInt8) := do
  ensureEncryptedPayloadLength envelope.encryptedPayload.length
  .ok (envelopeBytes envelope)

def readEncryptedPayload : EStateM PaymentAddressCodecError Reader (List UInt8) := do
  let length ← readU32
  check (ensureEncryptedPayloadLength length.toNat)
  readExact length.toNat

def readHybridRecipientEnvelope :
    EStateM PaymentAddressCodecError Reader HybridRecipientEnvelope := do
  let magic ← readArray 4
  if magic.toList ≠ hybridRecipientEnvelopeMagic then
    throw .invalidRecipientEnvelopeMagic
  else
    let version ← readU16
    if version ≠ hybridRecipientEnvelopeFormatVersion then
      throw (.unsupportedRecipientEnvelopeVersion version)
    else
      let keyEpoch ← readU64
      let keysetId ← readArray 32
      let ephemeralX25519PublicKey ← readArray 32
      let mlKem768Ciphertext ← readArray 1088
      let nonce ← readArray 24
      let encryptedPayload ← readEncryptedPayload
      return ⟨keyEpoch, keysetId, ephemeralX25519PublicKey, mlKem768Ciphertext, nonce,
        encryptedPayload⟩

def decodeHybridRecipientEnvelope (bytes : List UInt8) :
    Except PaymentAddressCodecError HybridRecipientEnvelope :=
  parse readHybridRecipientEnvelope bytes

theorem ensureEncryptedPayloadLength_eq_ok {length : Nat} :
    ensureEncryptedPayloadLength length = .ok () <->
      minEncryptedPayloadBytes <= length /\ length <= maxEncryptedPayloadBytes := by
  rw [ensureEncryptedPayloadLength, Except.refuse_eq_ok, not_not, and_iff_left rfl]

variable {envelope : HybridRecipientEnvelope} {bytes : List UInt8}

/-- An envelope is encodable exactly when its payload has an admitted length. -/
theorem encodeHybridRecipientEnvelope_eq_ok :
    encodeHybridRecipientEnvelope envelope = .ok bytes <->
      ensureEncryptedPayloadLength envelope.encryptedPayload.length = .ok () /\
        envelopeBytes envelope = bytes := by
  rw [encodeHybridRecipientEnvelope, Except.bind_eq_ok]
  constructor
  · rintro ⟨_, admitted, written⟩
    exact ⟨admitted, Except.ok.inj written⟩
  · intro both
    exact ⟨(), both.1, congrArg Except.ok both.2⟩

theorem reads_encryptedPayload :
    Reads readEncryptedPayload (fun payload => ensureEncryptedPayloadLength payload.length = .ok ())
      (fun payload => bigEndian 4 payload.length ++ payload) := by
  refine Reads.afterLength Reads.u32 (fun _ => UInt32.ofNat_toNat) ?_
  intro length fits
  exact UInt32.toNat_ofNat_of_lt'
    (Nat.lt_of_le_of_lt (ensureEncryptedPayloadLength_eq_ok.mp fits).2 (by decide))

theorem reads_hybridRecipientEnvelope :
    Reads readHybridRecipientEnvelope
      (fun envelope => ensureEncryptedPayloadLength envelope.encryptedPayload.length = .ok ())
      envelopeBytes := by
  have fields := Reads.u64.pair ((Reads.array 32).pair ((Reads.array 32).pair
    ((Reads.array 1088).pair ((Reads.array 24).pair reads_encryptedPayload))))
  have built := fields.map
    (fun parts => HybridRecipientEnvelope.mk parts.1 parts.2.1 parts.2.2.1 parts.2.2.2.1
      parts.2.2.2.2.1 parts.2.2.2.2.2)
    (fun envelope => (envelope.keyEpoch, envelope.keysetId, envelope.ephemeralX25519PublicKey,
      envelope.mlKem768Ciphertext, envelope.nonce, envelope.encryptedPayload))
    (fun _ _ => rfl) (fun _ _ => rfl)
  simp only [readPair, bind_assoc, pure_bind] at built
  have framed := Reads.framed (by decide : hybridRecipientEnvelopeMagic.length = 4)
    hybridRecipientEnvelopeFormatVersion PaymentAddressCodecError.invalidRecipientEnvelopeMagic
    PaymentAddressCodecError.unsupportedRecipientEnvelopeVersion built
  refine framed.congr ?_ (fun _ _ => rfl)
  intro envelope
  simp only [true_and]

theorem length_envelopeBytes (envelope : HybridRecipientEnvelope) :
    (envelopeBytes envelope).length = 1194 + envelope.encryptedPayload.length := by
  have magic : hybridRecipientEnvelopeMagic.length = 4 := by decide
  simp only [envelopeBytes, List.length_append, length_bigEndian, Bytes.length_toList, magic]
  omega

/-- One of the two output positions. -/
inductive CandidatePrivateOutputSlotV1 where
  | first
  | second
deriving DecidableEq

def CandidatePrivateOutputSlotV1.asU8 : CandidatePrivateOutputSlotV1 -> UInt8
  | .first => 0
  | .second => 1

def candidateCiphertextDigestFrameVersion : UInt16 := 1

def p24EnvelopeDigestFramePrefixBytes : Nat := 69

def p24EnvelopeDigestMinInputBytes : Nat := 1279

def p24EnvelopeDigestMaxInputBytes : Nat := p24EnvelopeDigestFramePrefixBytes + 3242

inductive Poseidon2P24PrivacyReferenceError where
  | invalidEnvelopeDigestFrameLength (actual minimum maximum : Nat)
deriving DecidableEq, Repr

inductive CandidateCiphertextDigestError where
  | envelopeCodec (reason : PaymentAddressCodecError)
  | envelopeTooLong
  | privacyReference (reason : Poseidon2P24PrivacyReferenceError)
deriving DecidableEq, Repr

/-- The version, the slot, the commitment, the length of the envelope and the
envelope. -/
def ciphertextDigestFrame (slot : CandidatePrivateOutputSlotV1) (commitment : NoteCommitmentV2)
    (envelope : List UInt8) : List UInt8 :=
  bigEndian 2 candidateCiphertextDigestFrameVersion.toNat ++ ([slot.asU8] ++
    (commitment.bytes.toList ++ (bigEndian 2 envelope.length ++ envelope)))

def Poseidon2P24PrivacyReference.hashRecipientEnvelopeDigestFrame
    (privacy : Poseidon2P24PrivacyReference) (frame : List UInt8) :
    Except Poseidon2P24PrivacyReferenceError Digest :=
  if ¬(p24EnvelopeDigestMinInputBytes <= frame.length /\
      frame.length <= p24EnvelopeDigestMaxInputBytes) then
    .error (.invalidEnvelopeDigestFrameLength frame.length p24EnvelopeDigestMinInputBytes
      p24EnvelopeDigestMaxInputBytes)
  else
    .ok (privacy.candidate.hashElements privacy.recipientEnvelopeIv
      ((bytePack3le frame).map Nat.cast))

def candidateCiphertextDigestV1 (privacy : Poseidon2P24PrivacyReference)
    (slot : CandidatePrivateOutputSlotV1) (commitment : NoteCommitmentV2)
    (envelope : HybridRecipientEnvelope) :
    Except CandidateCiphertextDigestError CiphertextDigestV2 := do
  let bytes ← (encodeHybridRecipientEnvelope envelope).mapError .envelopeCodec
  if 2 ^ 16 <= bytes.length then
    .error .envelopeTooLong
  else do
    let digest ← (privacy.hashRecipientEnvelopeDigestFrame
      (ciphertextDigestFrame slot commitment bytes)).mapError .privacyReference
    .ok (.ofDigest digest)

theorem length_ciphertextDigestFrame (slot : CandidatePrivateOutputSlotV1)
    (commitment : NoteCommitmentV2) (envelope : List UInt8) :
    (ciphertextDigestFrame slot commitment envelope).length =
      p24EnvelopeDigestFramePrefixBytes + envelope.length := by
  simp only [ciphertextDigestFrame, List.length_append, length_bigEndian, List.length_singleton,
    Bytes.length_toList, p24EnvelopeDigestFramePrefixBytes]
  omega

variable {slot : CandidatePrivateOutputSlotV1} {commitment : NoteCommitmentV2}

/-- The limits of envelopes and frames agree, so the digest of an encodable
envelope always exists. -/
theorem candidateCiphertextDigestV1_of_encoded {privacy}
    (encoded : encodeHybridRecipientEnvelope envelope = .ok bytes) :
    candidateCiphertextDigestV1 privacy slot commitment envelope =
      .ok (.ofDigest (privacy.candidate.hashElements privacy.recipientEnvelopeIv
        ((bytePack3le (ciphertextDigestFrame slot commitment bytes)).map Nat.cast))) := by
  obtain ⟨admitted, isBytes⟩ := encodeHybridRecipientEnvelope_eq_ok.mp encoded
  obtain ⟨atLeast, atMost⟩ := ensureEncryptedPayloadLength_eq_ok.mp admitted
  have sized : bytes.length = 1194 + envelope.encryptedPayload.length := by
    rw [← isBytes, length_envelopeBytes]
  unfold minEncryptedPayloadBytes at atLeast
  unfold maxEncryptedPayloadBytes at atMost
  have short : ¬ 2 ^ 16 <= bytes.length := by omega
  have sizedFrame := length_ciphertextDigestFrame slot commitment bytes
  unfold p24EnvelopeDigestFramePrefixBytes at sizedFrame
  have long : p24EnvelopeDigestMinInputBytes <=
      (ciphertextDigestFrame slot commitment bytes).length := by
    unfold p24EnvelopeDigestMinInputBytes
    omega
  have bounded : (ciphertextDigestFrame slot commitment bytes).length <=
      p24EnvelopeDigestMaxInputBytes := by
    unfold p24EnvelopeDigestMaxInputBytes p24EnvelopeDigestFramePrefixBytes
    omega
  rw [candidateCiphertextDigestV1, encoded]
  change (if 2 ^ 16 <= bytes.length then _ else _) = _
  rw [if_neg short, Poseidon2P24PrivacyReference.hashRecipientEnvelopeDigestFrame,
    if_neg (not_not.mpr ⟨long, bounded⟩)]
  rfl

/-! ## What a digest binds -/

def spongeOutput (reference : Poseidon2P24Reference) (iv : Fin 9 -> Val)
    (blocks : List (Fin 15 -> Val)) : Digest :=
  squeeze reference (absorb reference.permutation 15 (rawState iv (fun _ => 0)) blocks)

/-- The blocks that the sponge absorbs for a byte string. -/
def absorbedBlocks (bytes : List UInt8) : List (Fin 15 -> Val) :=
  blocksOf 15 ((bytePack3le bytes).map Nat.cast)

theorem hashElements_eq_spongeOutput (candidate : Poseidon2P24Candidate) (iv : Fin 9 -> Val)
    (bytes : List UInt8) :
    candidate.hashElements iv ((bytePack3le bytes).map Nat.cast) =
      spongeOutput candidate.reference iv (absorbedBlocks bytes) := by
  rw [Poseidon2P24Candidate.hashElements, absorbElements_eq_absorb, spongeOutput, absorbedBlocks]

/-- Three bytes as one number, with zeros after the end. -/
def packThree (bytes : List UInt8) (position : Nat) : Nat :=
  (bytes.getD (position * 3) 0).toNat + 256 * (bytes.getD (position * 3 + 1) 0).toNat +
    65536 * (bytes.getD (position * 3 + 2) 0).toNat

theorem ofLittleEndian_three (bytes : List UInt8) (position : Nat) :
    ofLittleEndian ((bytes.drop (position * 3)).take 3) = packThree bytes position := by
  have weighed := @weighBytes_drop Nat _ (position * 3) 3 bytes
  rw [weighBytes, Finset.sum_range_succ, Finset.sum_range_succ, Finset.sum_range_one] at weighed
  simp only [Nat.cast_id, Nat.add_zero] at weighed
  rw [← weighed, packThree]
  ring

theorem packThree_lt (bytes : List UInt8) (position : Nat) :
    packThree bytes position < babyBearModulus := by
  have first := (bytes.getD (position * 3) 0).toNat_lt
  have second := (bytes.getD (position * 3 + 1) 0).toNat_lt
  have third := (bytes.getD (position * 3 + 2) 0).toNat_lt
  unfold packThree babyBearModulus
  omega

variable {left right : List UInt8}

theorem packThree_inj {position : Nat} (same : packThree left position = packThree right position)
    {lane : Nat} (within : lane < 3) :
    left.getD (position * 3 + lane) 0 = right.getD (position * 3 + lane) 0 := by
  have byte (bytes : List UInt8) (offset : Nat) :=
    (bytes.getD (position * 3 + offset) 0).toNat_lt
  have leftBytes := byte left
  have rightBytes := byte right
  unfold packThree at same
  apply UInt8.toNat_inj.mp
  have first := leftBytes 0
  have second := leftBytes 1
  have third := leftBytes 2
  have otherFirst := rightBytes 0
  have otherSecond := rightBytes 1
  have otherThird := rightBytes 2
  rw [Nat.add_zero] at first otherFirst
  interval_cases lane
  · rw [Nat.add_zero]
    omega
  · omega
  · omega

/-- The absorbed blocks determine the bytes, up to zeros at their end. -/
theorem getD_eq_of_absorbedBlocks_eq (same : absorbedBlocks left = absorbedBlocks right)
    (index : Nat) : left.getD index 0 = right.getD index 0 := by
  have elements := getD_eq_of_blocksOf_eq 15 same (index / 3)
  have element (bytes : List UInt8) :
      ((bytePack3le bytes).map (Nat.cast : Nat -> Val)).getD (index / 3) 0 =
        ((packThree bytes (index / 3) : Nat) : Val) := by
    have mapped := List.getD_map (bytePack3le bytes) 0 (Nat.cast : Nat -> Val) (n := index / 3)
    rw [Nat.cast_zero, getD_bytePack3le, ofLittleEndian_three] at mapped
    exact mapped
  rw [element, element] at elements
  have sameNumber := congrArg ZMod.val elements
  rw [ZMod.val_natCast, ZMod.val_natCast, Nat.mod_eq_of_lt (packThree_lt left _),
    Nat.mod_eq_of_lt (packThree_lt right _)] at sameNumber
  have sameByte := packThree_inj sameNumber (Nat.mod_lt index (by decide))
  rw [Nat.div_add_mod'] at sameByte
  exact sameByte

/-- Beginnings of one length agree where the whole lists do. -/
theorem eq_of_getD_append {afterLeft afterRight} (sized : left.length = right.length)
    (same : forall index, (left ++ afterLeft).getD index 0 = (right ++ afterRight).getD index 0) :
    left = right /\ forall index, afterLeft.getD index 0 = afterRight.getD index 0 := by
  constructor
  · apply List.ext_getElem sized
    intro index within otherWithin
    have byte := same index
    rw [List.getD_append _ _ _ _ within, List.getD_append _ _ _ _ otherWithin,
      List.getD_eq_getElem _ _ within, List.getD_eq_getElem _ _ otherWithin] at byte
    exact byte
  · intro index
    have byte := same (left.length + index)
    rw [List.getD_append_right _ _ _ _ (Nat.le_add_right _ _),
      List.getD_append_right _ _ _ _ (sized ▸ Nat.le_add_right _ _), sized,
      Nat.add_sub_cancel_left] at byte
    exact byte

/-- The length in the frame recovers the envelope from the absorbed blocks. -/
theorem eq_of_absorbedBlocks_frame_eq (leftShort : left.length < 2 ^ 16)
    (rightShort : right.length < 2 ^ 16)
    (same : absorbedBlocks (ciphertextDigestFrame slot commitment left) =
      absorbedBlocks (ciphertextDigestFrame slot commitment right)) : left = right := by
  have bytes := getD_eq_of_absorbedBlocks_eq same
  simp only [ciphertextDigestFrame] at bytes
  have afterVersion := (eq_of_getD_append rfl bytes).2
  have afterSlot := (eq_of_getD_append rfl afterVersion).2
  have afterCommitment := (eq_of_getD_append rfl afterSlot).2
  obtain ⟨sameLength, envelopes⟩ := eq_of_getD_append
    ((length_bigEndian 2 left.length).trans (length_bigEndian 2 right.length).symm) afterCommitment
  have sized : left.length = right.length := bigEndian_injective leftShort rightShort sameLength
  apply (@eq_of_getD_append _ _ [] [] sized _).1
  intro index
  rw [List.append_nil, List.append_nil]
  exact envelopes index

end Noxis.Privacy
