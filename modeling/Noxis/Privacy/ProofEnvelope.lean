import Noxis.Privacy.ProofBundle
import Noxis.Privacy.StateRecord

namespace Noxis.Privacy

open Foundation

/-!
# Envelopes of proof bundles

An envelope carries the bytes of three proofs for one statement.  Its frame names
the frozen deployment and the statement, holds the commitments of the two input
notes and the lengths of the proofs, and ends with a checksum.  The frame is
checked before a proof is decoded.
-/

/-- The identity of the frozen proof deployment. -/
def candidatePrivateTransferProofDeploymentId : Bytes 32 :=
  ⟨[187, 119, 5, 163, 168, 114, 52, 44, 43, 33, 127, 200, 122, 122, 96, 187, 194, 230, 236, 201, 42,
    24, 122, 110, 83, 157, 138, 207, 171, 234, 242, 240], rfl⟩

def transportMaxProofBytes : Nat := 8 * 1024 * 1024

def transportMaxOverheadBytes : Nat := 64 * 1024

def transportMaxEnvelopeBytes : Nat := transportMaxProofBytes + transportMaxOverheadBytes

inductive CandidatePrivateProofTransportBudgetError where
  | proofBytesExceedLimit (actual maximum : Nat)
  | overheadBytesExceedLimit (actual maximum : Nat)
  | envelopeBytesExceedLimit (actual maximum : Nat)
deriving DecidableEq

def ensureEnvelopeComponents (proofBytes overheadBytes : Nat) :
    Except CandidatePrivateProofTransportBudgetError Nat :=
  if transportMaxProofBytes < proofBytes then
    .error (.proofBytesExceedLimit proofBytes transportMaxProofBytes)
  else if transportMaxOverheadBytes < overheadBytes then
    .error (.overheadBytesExceedLimit overheadBytes transportMaxOverheadBytes)
  else if transportMaxEnvelopeBytes < proofBytes + overheadBytes then
    .error (.envelopeBytesExceedLimit (proofBytes + overheadBytes) transportMaxEnvelopeBytes)
  else
    .ok (proofBytes + overheadBytes)

inductive CandidatePrivateProofBundleEnvelopeError where
  | bundle (reason : CandidatePrivateTransferProofBundleError)
  | budget (reason : CandidatePrivateProofTransportBudgetError)
  | privacyTypes (reason : PrivacyTypesError)
  | envelopeBytesExceedLimit (actual maximum : Nat)
  | proofLengthOverflow
  | truncated
  | invalidMagic
  | unsupportedVersion
  | nonCanonicalFlags
  | deploymentIdMismatch
  | statementIdMismatch
  | emptyProofChunk (index : Nat)
  | declaredLengthMismatch (actual expected : Nat)
  | checksumMismatch

instance : ReaderErrors CandidatePrivateProofBundleEnvelopeError where
  lengthOverflow := .truncated
  unexpectedEnd := fun _ => .truncated
  trailingBytes := fun _ => .truncated

/-- The fields before the proofs. -/
structure EnvelopeHeader where
  inputNoteCommitments : Fin 2 -> NoteCommitmentV2
  proofLengths : Fin 3 -> UInt32

/-- The number of bytes before the proofs. -/
def proofChunksOffset : Nat := 4 + 2 + 2 + 32 + 32 + 2 * 64 + 3 * 4

def envelopeChecksumLength : Nat := 32

def fixedOverheadBytes : Nat := proofChunksOffset + envelopeChecksumLength

def readEnvelopeHeader (expectedStatementId : Bytes 32) :
    EStateM CandidatePrivateProofBundleEnvelopeError Reader EnvelopeHeader := do
  let magic ← readArray 4
  if magic.toList ≠ utf8 "NXPP" then
    throw .invalidMagic
  else
    let version ← readU16
    if version ≠ 1 then
      throw .unsupportedVersion
    else
      let flags ← readU16
      if flags ≠ 0 then
        throw .nonCanonicalFlags
      else
        let deploymentId ← readArray 32
        if deploymentId ≠ candidatePrivateTransferProofDeploymentId then
          throw .deploymentIdMismatch
        else
          let statementId ← readArray 32
          if statementId ≠ expectedStatementId then
            throw .statementIdMismatch
          else
            let firstCommitment ← readVector .privacyTypes
            let secondCommitment ← readVector .privacyTypes
            let firstLength ← readU32
            let secondLength ← readU32
            let thirdLength ← readU32
            return ⟨![firstCommitment, secondCommitment], ![firstLength, secondLength, thirdLength]⟩

/-- The commitments and the bytes of the proofs. -/
structure ParsedFrame where
  inputNoteCommitments : Fin 2 -> BabyBearDigest
  proofChunks : Fin 3 -> List UInt8

/-- The bytes of all proofs together. -/
def EnvelopeHeader.proofBytes (header : EnvelopeHeader) : Nat :=
  (header.proofLengths 0).toNat + (header.proofLengths 1).toNat + (header.proofLengths 2).toNat

/-- Cut the proofs out of an envelope. -/
def EnvelopeHeader.cut (header : EnvelopeHeader) (bytes : List UInt8) : ParsedFrame :=
  let chunks := bytes.drop proofChunksOffset
  let first := (header.proofLengths 0).toNat
  let second := (header.proofLengths 1).toNat
  { inputNoteCommitments := fun slot => (header.inputNoteCommitments slot).elements
    proofChunks := ![chunks.take first, (chunks.drop first).take second,
      (chunks.drop (first + second)).take (header.proofLengths 2).toNat] }

section
variable [Sha256]

def envelopeChecksum (bytes : List UInt8) : Bytes 32 :=
  Sha256.digest
    (utf8 "NOXIS/CANDIDATE-PRIVATE-PROOF-BUNDLE-ENVELOPE-CHECKSUM/V1\x00" ++ bytes)

def parseFrame (bytes : List UInt8) (expectedStatementId : Bytes 32) :
    Except CandidatePrivateProofBundleEnvelopeError ParsedFrame :=
  if bytes.length < fixedOverheadBytes then
    .error .truncated
  else if transportMaxEnvelopeBytes < bytes.length then
    .error (.envelopeBytesExceedLimit bytes.length transportMaxEnvelopeBytes)
  else do
    let header ← parse (readEnvelopeHeader expectedStatementId) (bytes.take proofChunksOffset)
    match (List.finRange 3).find? (fun index => header.proofLengths index = 0) with
    | some index => .error (.emptyProofChunk index.val)
    | none =>
      if bytes.length ≠ fixedOverheadBytes + header.proofBytes then
        .error (.declaredLengthMismatch bytes.length (fixedOverheadBytes + header.proofBytes))
      else do
        let _ ← (ensureEnvelopeComponents header.proofBytes fixedOverheadBytes).mapError .budget
        let checksumStart := bytes.length - envelopeChecksumLength
        if bytes.drop checksumStart ≠ (envelopeChecksum (bytes.take checksumStart)).toList then
          .error .checksumMismatch
        else
          .ok (header.cut bytes)

end

/-- The bytes before the proofs. -/
def headerBytes (statementId : Bytes 32) (header : EnvelopeHeader) : List UInt8 :=
  utf8 "NXPP" ++ (bigEndian 2 1 ++ (bigEndian 2 0 ++
    (candidatePrivateTransferProofDeploymentId.toList ++ (statementId.toList ++
    ((header.inputNoteCommitments 0).bytes.toList ++ ((header.inputNoteCommitments 1).bytes.toList ++
    (bigEndian 4 (header.proofLengths 0).toNat ++ (bigEndian 4 (header.proofLengths 1).toNat ++
    bigEndian 4 (header.proofLengths 2).toNat))))))))

theorem length_headerBytes (statementId : Bytes 32) (header : EnvelopeHeader) :
    (headerBytes statementId header).length = proofChunksOffset := by
  have magic : (utf8 "NXPP").length = 4 := by decide
  simp only [headerBytes, List.length_append, length_bigEndian, Bytes.length_toList, magic,
    proofChunksOffset]

/-- The header for proofs. -/
def headerFor (commitments : Fin 2 -> NoteCommitmentV2) (chunks : Fin 3 -> List UInt8) :
    EnvelopeHeader where
  inputNoteCommitments := commitments
  proofLengths := fun index => UInt32.ofNat (chunks index).length

/-- The bytes of an envelope before its checksum. -/
def envelopeBody (statementId : Bytes 32) (commitments : Fin 2 -> NoteCommitmentV2)
    (chunks : Fin 3 -> List UInt8) : List UInt8 :=
  headerBytes statementId (headerFor commitments chunks) ++ (chunks 0 ++ (chunks 1 ++ chunks 2))

theorem length_envelopeBody (statementId : Bytes 32) (commitments : Fin 2 -> NoteCommitmentV2)
    (chunks : Fin 3 -> List UInt8) :
    (envelopeBody statementId commitments chunks).length =
      proofChunksOffset + ((chunks 0).length + (chunks 1).length + (chunks 2).length) := by
  simp only [envelopeBody, List.length_append, length_headerBytes, Nat.add_assoc]

section
variable [Sha256]

def envelopeOf (statementId : Bytes 32) (commitments : Fin 2 -> NoteCommitmentV2)
    (chunks : Fin 3 -> List UInt8) : List UInt8 :=
  envelopeBody statementId commitments chunks ++
    (envelopeChecksum (envelopeBody statementId commitments chunks)).toList

end
end Noxis.Privacy
