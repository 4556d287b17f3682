import Noxis.Codec.Transaction
import Noxis.Privacy.Transfer

namespace Noxis.Codec

open Foundation
open Privacy (PrivateTransferIntentV2)

/-!
# The private-transfer packet

A packet carries an intent, the two encrypted envelopes of its recipients and a
proof.  The envelopes and the proof are opaque here: the packet fixes their order
and their limits.  A packet exists only within the limits, so encoding it cannot
fail, and the decoder accepts exactly the encodings of packets.
-/

def privateTransferMagic : List UInt8 := utf8 "NXPT"

def privateTransferFormatVersion : UInt16 := 1

def maxPrivateEnvelopeBytes : UInt16 := 4 * 1024

def maxPrivateProofBytes : UInt32 := 8454144

/-- The length of an opaque part, which may be neither empty nor too large. -/
def ensurePrivateLimit (field : String) (maximum : Nat) (tooLarge : Nat -> CodecError)
    (length : Nat) : Except CodecError Unit :=
  if length = 0 then .error (.emptyRequiredField field)
  else if maximum < length then .error (tooLarge length)
  else .ok ()

def ensurePrivateEnvelopeLimit : Nat -> Except CodecError Unit :=
  ensurePrivateLimit "private recipient envelope" maxPrivateEnvelopeBytes.toNat
    (fun actual => .privateEnvelopeTooLarge actual maxPrivateEnvelopeBytes)

def ensurePrivateProofLimit : Nat -> Except CodecError Unit :=
  ensurePrivateLimit "private transfer proof" maxPrivateProofBytes.toNat
    (fun actual => .privateProofTooLarge actual maxPrivateProofBytes)

theorem ensurePrivateLimit_eq_ok {field} {maximum : Nat} {tooLarge} {length : Nat} :
    ensurePrivateLimit field maximum tooLarge length = .ok () <->
      0 < length /\ length <= maximum := by
  rw [ensurePrivateLimit, Except.refuse_eq_ok, Except.refuse_eq_ok, Nat.not_lt, Nat.pos_iff_ne_zero,
    and_iff_left rfl]

/-- A private transfer within the limits. -/
structure PrivateTransferPacketV2 where
  intent : PrivateTransferIntentV2
  recipientEnvelopes : Fin 2 -> List UInt8
  proof : List UInt8
  envelopesFit : forall slot, ensurePrivateEnvelopeLimit (recipientEnvelopes slot).length = .ok ()
  proofFits : ensurePrivateProofLimit proof.length = .ok ()

namespace PrivateTransferPacketV2

def new (intent : PrivateTransferIntentV2) (recipientEnvelopes : Fin 2 -> List UInt8)
    (proof : List UInt8) : Except CodecError PrivateTransferPacketV2 := do
  let first ← witnessed (ensurePrivateEnvelopeLimit (recipientEnvelopes 0).length)
  let second ← witnessed (ensurePrivateEnvelopeLimit (recipientEnvelopes 1).length)
  let last ← witnessed (ensurePrivateProofLimit proof.length)
  .ok {
    intent, recipientEnvelopes, proof
    envelopesFit := Fin.forall_fin_two.mpr ⟨first.2, second.2⟩
    proofFits := last.2 }

theorem new_eq_ok {intent recipientEnvelopes proof packet} :
    new intent recipientEnvelopes proof = .ok packet <->
      intent = packet.intent /\ recipientEnvelopes = packet.recipientEnvelopes /\
        proof = packet.proof := by
  constructor
  · intro made
    simp only [new, Except.bind_eq_ok] at made
    obtain ⟨_, _, _, _, _, _, isPacket⟩ := made
    rw [← Except.ok.inj isPacket]
    exact ⟨rfl, rfl, rfl⟩
  · intro same
    obtain ⟨rfl, rfl, rfl⟩ := same
    rw [new, witnessed_of_ok (packet.envelopesFit 0), witnessed_of_ok (packet.envelopesFit 1),
      witnessed_of_ok packet.proofFits]
    rfl

end PrivateTransferPacketV2

def writePrivateEnvelope (bytes : List UInt8) : Except CodecError (List UInt8) := do
  ensurePrivateEnvelopeLimit bytes.length
  if 2 ^ 16 <= bytes.length then
    .error (.privateEnvelopeTooLarge bytes.length maxPrivateEnvelopeBytes)
  else
    .ok (writeU16 (UInt16.ofNat bytes.length) ++ bytes)

def writePrivateProof (bytes : List UInt8) : Except CodecError (List UInt8) := do
  ensurePrivateProofLimit bytes.length
  if 2 ^ 32 <= bytes.length then
    .error (.privateProofTooLarge bytes.length maxPrivateProofBytes)
  else
    .ok (writeU32 (UInt32.ofNat bytes.length) ++ bytes)

/-- The sole external representation of a packet.  The limits are checked once
more by building the packet again. -/
def encodePrivateTransfer (packet : PrivateTransferPacketV2) : Except CodecError (List UInt8) := do
  let packet ← PrivateTransferPacketV2.new packet.intent packet.recipientEnvelopes packet.proof
  let first ← writePrivateEnvelope (packet.recipientEnvelopes 0)
  let second ← writePrivateEnvelope (packet.recipientEnvelopes 1)
  let proof ← writePrivateProof packet.proof
  return privateTransferMagic ++ (writeU16 privateTransferFormatVersion ++ (packet.intent.encode ++
    (first ++ (second ++ proof))))

def readIntent : EStateM CodecError Reader PrivateTransferIntentV2 := do
  let intentBytes ← readExact PrivateTransferIntentV2.encodedLength
  check ((PrivateTransferIntentV2.decode intentBytes).mapError .invalidPrivateTransferIntent)

def readPrivateEnvelope : EStateM CodecError Reader (List UInt8) := do
  let length ← readU16
  check (ensurePrivateEnvelopeLimit length.toNat)
  readExact length.toNat

def readPrivateProof : EStateM CodecError Reader (List UInt8) := do
  let length ← readU32
  check (ensurePrivateProofLimit length.toNat)
  readExact length.toNat

/-- The parts of a packet, before it is built. -/
structure PacketParts where
  intent : PrivateTransferIntentV2
  firstEnvelope : List UInt8
  secondEnvelope : List UInt8
  proof : List UInt8

def readPacketParts : EStateM CodecError Reader PacketParts := do
  let magic ← readArray 4
  if magic.toList ≠ privateTransferMagic then
    throw .invalidPrivateTransferMagic
  else
    let version ← readU16
    if version ≠ privateTransferFormatVersion then
      throw (.unsupportedPrivateTransferFormatVersion version)
    else
      let intent ← readIntent
      let firstEnvelope ← readPrivateEnvelope
      let secondEnvelope ← readPrivateEnvelope
      let proof ← readPrivateProof
      return ⟨intent, firstEnvelope, secondEnvelope, proof⟩

/-- Decode exactly one packet within the limits. -/
def decodePrivateTransfer (bytes : List UInt8) : Except CodecError PrivateTransferPacketV2 := do
  let parts ← parse readPacketParts bytes
  PrivateTransferPacketV2.new parts.intent ![parts.firstEnvelope, parts.secondEnvelope] parts.proof

/-! ## What the encoder writes -/

def privateEnvelopeBytes (envelope : List UInt8) : List UInt8 :=
  bigEndian 2 envelope.length ++ envelope

def privateProofBytes (proof : List UInt8) : List UInt8 :=
  bigEndian 4 proof.length ++ proof

def packetBytes (parts : PacketParts) : List UInt8 :=
  privateTransferMagic ++ (bigEndian 2 privateTransferFormatVersion.toNat ++
    (parts.intent.encode ++ (privateEnvelopeBytes parts.firstEnvelope ++
    (privateEnvelopeBytes parts.secondEnvelope ++ privateProofBytes parts.proof))))

def PrivateTransferPacketV2.parts (packet : PrivateTransferPacketV2) : PacketParts :=
  ⟨packet.intent, packet.recipientEnvelopes 0, packet.recipientEnvelopes 1, packet.proof⟩

theorem writePrivateEnvelope_of_fits {envelope}
    (fits : ensurePrivateEnvelopeLimit envelope.length = .ok ()) :
    writePrivateEnvelope envelope = .ok (privateEnvelopeBytes envelope) := by
  have small : envelope.length < 2 ^ 16 :=
    Nat.lt_of_le_of_lt (ensurePrivateLimit_eq_ok.mp fits).2 (by decide)
  rw [writePrivateEnvelope, fits, privateEnvelopeBytes, writeU16, UInt16.toNat_ofNat_of_lt' small]
  exact if_neg (Nat.not_le.mpr small)

theorem writePrivateProof_of_fits {proof} (fits : ensurePrivateProofLimit proof.length = .ok ()) :
    writePrivateProof proof = .ok (privateProofBytes proof) := by
  have small : proof.length < 2 ^ 32 :=
    Nat.lt_of_le_of_lt (ensurePrivateLimit_eq_ok.mp fits).2 (by decide)
  rw [writePrivateProof, fits, privateProofBytes, writeU32, UInt32.toNat_ofNat_of_lt' small]
  exact if_neg (Nat.not_le.mpr small)

theorem encodePrivateTransfer_eq (packet : PrivateTransferPacketV2) :
    encodePrivateTransfer packet = .ok (packetBytes packet.parts) := by
  rw [encodePrivateTransfer, PrivateTransferPacketV2.new_eq_ok.mpr ⟨rfl, rfl, rfl⟩]
  change (do
    let first ← writePrivateEnvelope (packet.recipientEnvelopes 0)
    let second ← writePrivateEnvelope (packet.recipientEnvelopes 1)
    let proof ← writePrivateProof packet.proof
    return privateTransferMagic ++ (writeU16 privateTransferFormatVersion ++
      (packet.intent.encode ++ (first ++ (second ++ proof))))) = _
  rw [writePrivateEnvelope_of_fits (packet.envelopesFit 0),
    writePrivateEnvelope_of_fits (packet.envelopesFit 1), writePrivateProof_of_fits packet.proofFits]
  rfl

theorem reads_intent : Reads readIntent (fun _ => True) (fun intent => intent.encode) := by
  refine (Reads.exact _).decoded (fun intent : PrivateTransferIntentV2 => intent.encode)
    PrivateTransferIntentV2.length_encode ?_
  intro bytes intent start final
  rw [check_eq_ok, Except.mapError_eq_ok, PrivateTransferIntentV2.decode_eq_ok]

theorem reads_privateEnvelope :
    Reads readPrivateEnvelope (fun envelope => ensurePrivateEnvelopeLimit envelope.length = .ok ())
      privateEnvelopeBytes := by
  refine Reads.afterLength Reads.u16 (fun _ => UInt16.ofNat_toNat) ?_
  intro length fits
  exact UInt16.toNat_ofNat_of_lt'
    (Nat.lt_of_le_of_lt (ensurePrivateLimit_eq_ok.mp fits).2 (by decide))

theorem reads_privateProof :
    Reads readPrivateProof (fun proof => ensurePrivateProofLimit proof.length = .ok ())
      privateProofBytes := by
  refine Reads.afterLength Reads.u32 (fun _ => UInt32.ofNat_toNat) ?_
  intro length fits
  exact UInt32.toNat_ofNat_of_lt'
    (Nat.lt_of_le_of_lt (ensurePrivateLimit_eq_ok.mp fits).2 (by decide))

/-- The parts are within the limits. -/
structure PacketParts.Fits (parts : PacketParts) : Prop where
  firstEnvelope : ensurePrivateEnvelopeLimit parts.firstEnvelope.length = .ok ()
  secondEnvelope : ensurePrivateEnvelopeLimit parts.secondEnvelope.length = .ok ()
  proof : ensurePrivateProofLimit parts.proof.length = .ok ()

theorem reads_packetParts : Reads readPacketParts PacketParts.Fits packetBytes := by
  have fields := reads_intent.pair (reads_privateEnvelope.pair
    (reads_privateEnvelope.pair reads_privateProof))
  have built := fields.map (fun fields => PacketParts.mk fields.1 fields.2.1 fields.2.2.1 fields.2.2.2)
    (fun parts => (parts.intent, parts.firstEnvelope, parts.secondEnvelope, parts.proof))
    (fun _ _ => rfl) (fun _ _ => rfl)
  simp only [readPair, bind_assoc, pure_bind] at built
  have framed := Reads.framed (by decide : privateTransferMagic.length = 4)
    privateTransferFormatVersion CodecError.invalidPrivateTransferMagic
    CodecError.unsupportedPrivateTransferFormatVersion built
  refine framed.congr ?_ (fun _ _ => rfl)
  intro parts
  constructor
  · intro limits
    exact ⟨limits.2.1, limits.2.2.1, limits.2.2.2⟩
  · intro fits
    exact ⟨trivial, fits.firstEnvelope, fits.secondEnvelope, fits.proof⟩

theorem PrivateTransferPacketV2.fits_parts (packet : PrivateTransferPacketV2) : packet.parts.Fits :=
  ⟨packet.envelopesFit 0, packet.envelopesFit 1, packet.proofFits⟩

theorem length_packetBytes (parts : PacketParts) :
    (packetBytes parts).length = 6 + PrivateTransferIntentV2.encodedLength +
      (2 + parts.firstEnvelope.length) + (2 + parts.secondEnvelope.length) +
      (4 + parts.proof.length) := by
  have magic : privateTransferMagic.length = 4 := by decide
  simp only [packetBytes, privateEnvelopeBytes, privateProofBytes, List.length_append,
    length_bigEndian, PrivateTransferIntentV2.length_encode, magic]
  omega

theorem length_packetBytes_lt {parts} (fits : parts.Fits) :
    (packetBytes parts).length < 2 ^ 64 := by
  have first := (ensurePrivateLimit_eq_ok.mp fits.firstEnvelope).2
  have second := (ensurePrivateLimit_eq_ok.mp fits.secondEnvelope).2
  have proof := (ensurePrivateLimit_eq_ok.mp fits.proof).2
  have envelopeLimit : maxPrivateEnvelopeBytes.toNat = 4096 := rfl
  have proofLimit : maxPrivateProofBytes.toNat = 8454144 := rfl
  rw [length_packetBytes, PrivateTransferIntentV2.encodedLength]
  omega

theorem decodePrivateTransfer_eq_ok {bytes packet} :
    decodePrivateTransfer bytes = .ok packet <-> bytes = packetBytes packet.parts := by
  rw [decodePrivateTransfer, Except.bind_eq_ok]
  constructor
  · rintro ⟨parts, parsed, made⟩
    have isParts : parts = packet.parts := by
      obtain ⟨sameIntent, sameEnvelopes, sameProof⟩ := PrivateTransferPacketV2.new_eq_ok.mp made
      rw [PrivateTransferPacketV2.parts, ← sameIntent, ← sameEnvelopes, ← sameProof]
      rfl
    rw [← isParts]
    exact (reads_packetParts.of_parse parsed).2
  · intro encoded
    subst encoded
    refine ⟨packet.parts, reads_packetParts.parse_encode packet.fits_parts
      (length_packetBytes_lt packet.fits_parts), ?_⟩
    exact PrivateTransferPacketV2.new_eq_ok.mpr
      ⟨rfl, funext (Fin.forall_fin_two.mpr ⟨rfl, rfl⟩), rfl⟩

/-- Between correct parts, the bytes of an intent are accepted exactly when they
decode on their own. -/
theorem exists_decodePrivateTransfer_iff (source : Bytes PrivateTransferIntentV2.encodedLength)
    {first second proof} (firstFits : ensurePrivateEnvelopeLimit first.length = .ok ())
    (secondFits : ensurePrivateEnvelopeLimit second.length = .ok ())
    (proofFits : ensurePrivateProofLimit proof.length = .ok ()) :
    (∃ packet, decodePrivateTransfer (privateTransferMagic ++
        (bigEndian 2 privateTransferFormatVersion.toNat ++ (source.toList ++
        (privateEnvelopeBytes first ++ (privateEnvelopeBytes second ++
          privateProofBytes proof))))) = .ok packet) <->
      ∃ intent, PrivateTransferIntentV2.decode source.toList = .ok intent := by
  simp only [decodePrivateTransfer_eq_ok, PrivateTransferIntentV2.decode_eq_ok]
  constructor
  · rintro ⟨packet, encoded⟩
    have fields := List.append_cancel_left (List.append_cancel_left encoded)
    exact ⟨packet.intent, (List.append_inj fields
      (source.length_toList.trans packet.intent.length_encode.symm)).1⟩
  · rintro ⟨intent, encoded⟩
    rw [encoded]
    exact ⟨⟨intent, ![first, second], proof, Fin.forall_fin_two.mpr ⟨firstFits, secondFits⟩,
      proofFits⟩, rfl⟩

end Noxis.Codec
