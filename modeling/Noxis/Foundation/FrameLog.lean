import Noxis.Foundation.Bytes
import Noxis.Foundation.Crc32
import Noxis.Foundation.Stateful

namespace Foundation

/-!
# Logs of framed payloads

A log is a file of frames written one after another.  A frame is a magic, a
version, the length of a payload, the payload and its checksum; only the
payload is covered by the checksum.  The scanner reads frames from the start
and hands each payload to a visitor.  A file may end inside a frame, because
the last write was interrupted: the scanner then reports an incomplete tail.
Everything else that is not a frame is an error.

`Scans` says what a scan finds in a file.  The scanner computes it, whatever
the visitor does, and it can be read off a file that is a prefix of frames.
-/

/-- The part of a frame in which a file ends. -/
inductive FrameSection where
  | frameMagic
  | frameHeader
  | framePayload
  | frameChecksum
deriving DecidableEq

/-- A final partial frame: where it starts and the part it ends in. -/
structure IncompleteTail where
  validPrefixLength : Nat
  cut : FrameSection
deriving DecidableEq

/-- The parameters of a frame format and the errors its scanner reports. -/
structure FrameFormat (ε : Type) where
  magic : Bytes 4
  version : UInt16
  maximum : UInt32
  invalidMagic : List UInt8 -> Nat -> ε
  unsupportedVersion : Nat -> UInt16 -> ε
  tooLarge : Nat -> UInt32 -> ε
  checksumMismatch : Nat -> UInt32 -> UInt32 -> ε

/-- What stands at the front of an unread part of a file. -/
inductive FrameRead where
  | incomplete (cut : FrameSection)
  | complete (payload : List UInt8)
deriving DecidableEq

def frameHeaderLength : Nat := 10

def frameChecksumLength : Nat := 4

def frameLength (payload : List UInt8) : Nat :=
  frameHeaderLength + payload.length + frameChecksumLength

variable {ε δ σ : Type}

namespace FrameFormat

def encodeHeader (format : FrameFormat ε) (payloadLength : Nat) : List UInt8 :=
  format.magic.toList ++ (bigEndian 2 format.version.toNat ++ bigEndian 4 payloadLength)

def encodeFrame (format : FrameFormat ε) (payload : List UInt8) : List UInt8 :=
  format.encodeHeader payload.length ++ (payload ++ bigEndian 4 (crc32 payload).toNat)

/-- Frame a payload unless it is too large. -/
def tryEncodeFrame (format : FrameFormat ε) (payload : List UInt8) : Except ε (List UInt8) :=
  if 2 ^ 32 <= payload.length then
    .error (format.tooLarge 0 (UInt32.ofNat (2 ^ 32 - 1)))
  else if format.maximum < UInt32.ofNat payload.length then
    .error (format.tooLarge 0 (UInt32.ofNat payload.length))
  else
    .ok (format.encodeFrame payload)

/-- Read a payload of known length and compare its checksum. -/
def readPayload (format : FrameFormat ε) (offset payloadLength : Nat) (rest : List UInt8) :
    Except ε FrameRead :=
  if rest.length < payloadLength + frameChecksumLength then
    .ok (.incomplete (if rest.length < payloadLength then .framePayload else .frameChecksum))
  else
    let payload := rest.take payloadLength
    let expected := UInt32.ofNat
      (ofBigEndian ((rest.drop payloadLength).take frameChecksumLength))
    if crc32 payload ≠ expected then
      .error (format.checksumMismatch offset expected (crc32 payload))
    else
      .ok (.complete payload)

/-- Read the frame at the front of the unread part of a file. -/
def readFrame (format : FrameFormat ε) (offset : Nat) (rest : List UInt8) :
    Except ε FrameRead :=
  if rest.length < 4 then
    if rest.isPrefixOf format.magic.toList then .ok (.incomplete .frameMagic)
    else .error (format.invalidMagic rest offset)
  else if rest.take 4 ≠ format.magic.toList then
    .error (format.invalidMagic (rest.take 4) offset)
  else if rest.length < frameHeaderLength then
    .ok (.incomplete .frameHeader)
  else
    let version := UInt16.ofNat (ofBigEndian ((rest.drop 4).take 2))
    if version ≠ format.version then
      .error (format.unsupportedVersion offset version)
    else
      let payloadLength := UInt32.ofNat (ofBigEndian ((rest.drop 6).take 4))
      if format.maximum < payloadLength then
        .error (format.tooLarge offset payloadLength)
      else
        format.readPayload offset payloadLength.toNat (rest.drop frameHeaderLength)

/-- Read frames and hand their payloads to a visitor.  A frame is not empty, so
as many steps as there are bytes suffice. -/
def streamFrom (format : FrameFormat ε) (wrap : ε -> δ)
    (visit : Nat -> List UInt8 -> EStateM δ σ Unit) :
    Nat -> Nat -> List UInt8 -> EStateM δ σ (Option IncompleteTail)
  | 0, _, _ => pure none
  | fuel + 1, offset, rest =>
    if rest.isEmpty then
      pure none
    else do
      match ← check ((format.readFrame offset rest).mapError wrap) with
      | .incomplete cut => pure (some ⟨offset, cut⟩)
      | .complete payload =>
        visit offset payload
        streamFrom format wrap visit fuel (offset + frameLength payload)
          (rest.drop (frameLength payload))

def streamFrames (format : FrameFormat ε) (wrap : ε -> δ)
    (visit : Nat -> List UInt8 -> EStateM δ σ Unit) (file : List UInt8) :
    EStateM δ σ (Option IncompleteTail) :=
  format.streamFrom wrap visit file.length 0 file

variable {offset : Nat} {payload file : List UInt8} {payloads : List (List UInt8)}

variable {format : FrameFormat ε} {rest : List UInt8}

@[simp] theorem length_encodeHeader (format : FrameFormat ε) (payloadLength : Nat) :
    (format.encodeHeader payloadLength).length = frameHeaderLength := by
  rw [encodeHeader, List.length_append, List.length_append, length_bigEndian, length_bigEndian,
    format.magic.length_toList]
  rfl

@[simp] theorem length_encodeFrame (format : FrameFormat ε) (payload : List UInt8) :
    (format.encodeFrame payload).length = frameLength payload := by
  simp [encodeFrame, frameLength, frameChecksumLength, Nat.add_assoc]

theorem tryEncodeFrame_eq_ok {format : FrameFormat ε} {payload frame : List UInt8} :
    format.tryEncodeFrame payload = .ok frame <->
      payload.length <= format.maximum.toNat /\ frame = format.encodeFrame payload := by
  have maximum : format.maximum.toNat < 2 ^ 32 := format.maximum.toNat_lt
  unfold tryEncodeFrame
  simp only [Except.refuse_eq_ok, Except.ok.injEq, UInt32.lt_iff_toNat_lt]
  grind [UInt32.toNat_ofNat_of_lt']

theorem frameLength_pos (payload : List UInt8) : 0 < frameLength payload := by
  unfold frameLength frameHeaderLength
  omega

/-- What the scanner does with ten or more bytes, field by field. -/
theorem readFrame_fields (offset : Nat) {magic version payloadLength}
    (magicLength : magic.length = 4) (versionLength : version.length = 2)
    (lengthLength : payloadLength.length = 4) (rest : List UInt8) :
    format.readFrame offset (magic ++ (version ++ (payloadLength ++ rest))) =
      if magic ≠ format.magic.toList then
        .error (format.invalidMagic magic offset)
      else if UInt16.ofNat (ofBigEndian version) ≠ format.version then
        .error (format.unsupportedVersion offset (UInt16.ofNat (ofBigEndian version)))
      else if format.maximum < UInt32.ofNat (ofBigEndian payloadLength) then
        .error (format.tooLarge offset (UInt32.ofNat (ofBigEndian payloadLength)))
      else
        format.readPayload offset (UInt32.ofNat (ofBigEndian payloadLength)).toNat rest := by
  have afterMagic : (magic ++ (version ++ (payloadLength ++ rest))).drop 4 =
      version ++ (payloadLength ++ rest) := List.drop_left' magicLength
  have afterVersion : (magic ++ (version ++ (payloadLength ++ rest))).drop 6 =
      payloadLength ++ rest := by
    grind [List.drop_left']
  have body : (magic ++ (version ++ (payloadLength ++ rest))).drop frameHeaderLength = rest := by
    grind [frameHeaderLength, List.drop_left']
  have total : (magic ++ (version ++ (payloadLength ++ rest))).length =
      frameHeaderLength + rest.length := by
    grind [frameHeaderLength]
  unfold readFrame
  rw [if_neg (by rw [total, frameHeaderLength]; omega), List.take_left' magicLength,
    if_neg (by rw [total]; omega : ¬_ < frameHeaderLength), afterMagic,
    List.take_left' versionLength, afterVersion, List.take_left' lengthLength, body]

variable {payloadLength : Nat}

/-- After a header comes the payload, if the header's length is accepted. -/
theorem readFrame_encodeHeader (offset : Nat) (within : payloadLength <= format.maximum.toNat)
    (rest : List UInt8) :
    format.readFrame offset (format.encodeHeader payloadLength ++ rest) =
      format.readPayload offset payloadLength rest := by
  have fits : payloadLength < 2 ^ 32 := Nat.lt_of_le_of_lt within format.maximum.toNat_lt
  have exactLength : (UInt32.ofNat payloadLength).toNat = payloadLength :=
    UInt32.toNat_ofNat_of_lt' fits
  rw [encodeHeader, List.append_assoc, List.append_assoc,
    readFrame_fields offset format.magic.length_toList (length_bigEndian 2 _)
      (length_bigEndian 4 _), ofBigEndian_bigEndian format.version.toNat_lt,
    ofBigEndian_bigEndian fits, if_neg (not_not_intro rfl),
    if_neg (not_not_intro UInt16.ofNat_toNat), if_neg, exactLength]
  grind [UInt32.lt_iff_toNat_lt]

theorem readPayload_eq_complete :
    format.readPayload offset payloadLength rest = .ok (.complete payload) <->
      payload.length = payloadLength /\
        ∃ after, rest = payload ++ (bigEndian 4 (crc32 payload).toNat ++ after) := by
  unfold readPayload
  by_cases short : rest.length < payloadLength + frameChecksumLength
  · rw [if_pos short]
    constructor
    · intro impossible
      cases impossible
    · rintro ⟨rfl, after, rfl⟩
      simp only [List.length_append, length_bigEndian, frameChecksumLength] at short
      omega
  · rw [if_neg short, Except.refuse_eq_ok, not_not, Except.ok.injEq, FrameRead.complete.injEq]
    constructor
    · rintro ⟨sameChecksum, rfl⟩
      have checksumLength : ((rest.drop payloadLength).take frameChecksumLength).length = 4 := by
        grind [frameChecksumLength]
      have checksumFits := ofBigEndian_lt ((rest.drop payloadLength).take frameChecksumLength)
      rw [checksumLength] at checksumFits
      refine ⟨by rw [List.length_take]; omega, (rest.drop payloadLength).drop frameChecksumLength, ?_⟩
      have stored := bigEndian_ofBigEndian ((rest.drop payloadLength).take frameChecksumLength)
      rw [checksumLength] at stored
      rw [sameChecksum, UInt32.toNat_ofNat_of_lt' checksumFits, stored, List.take_append_drop,
        List.take_append_drop]
    · rintro ⟨rfl, after, rfl⟩
      rw [List.take_left, List.drop_left, frameChecksumLength,
        List.take_left' (length_bigEndian 4 _), ofBigEndian_bigEndian (crc32 payload).toNat_lt,
        UInt32.ofNat_toNat]
      exact ⟨rfl, rfl⟩

theorem readPayload_eq_incomplete :
    (∃ cut, format.readPayload offset payloadLength rest = .ok (.incomplete cut)) <->
      rest.length < payloadLength + frameChecksumLength := by
  unfold readPayload
  by_cases short : rest.length < payloadLength + frameChecksumLength
  · rw [if_pos short]
    exact iff_of_true ⟨_, rfl⟩ short
  · rw [if_neg short]
    refine iff_of_false ?_ short
    rintro ⟨cut, finished⟩
    cases (Except.refuse_eq_ok.mp finished).2

/-- Ten or more bytes that the scanner does not reject start with a header. -/
theorem exists_header_of_readFrame {found} (enough : frameHeaderLength <= rest.length)
    (accepted : format.readFrame offset rest = .ok found) :
    ∃ payloadLength after, payloadLength <= format.maximum.toNat /\
      rest = format.encodeHeader payloadLength ++ after /\
      format.readPayload offset payloadLength after = .ok found := by
  have split : rest = rest.take 4 ++ ((rest.drop 4).take 2 ++ ((rest.drop 6).take 4 ++
      rest.drop frameHeaderLength)) := by
    have lastPart : (rest.drop 6).take 4 ++ rest.drop frameHeaderLength = rest.drop 6 := by
      rw [show frameHeaderLength = 6 + 4 from rfl, ← List.drop_drop, List.take_append_drop]
    have middlePart : (rest.drop 4).take 2 ++ rest.drop 6 = rest.drop 4 := by
      rw [show (6 : Nat) = 4 + 2 from rfl, ← List.drop_drop, List.take_append_drop]
    rw [lastPart, middlePart, List.take_append_drop]
  unfold frameHeaderLength at enough
  have magicLength : (rest.take 4).length = 4 := by rw [List.length_take]; omega
  have versionLength : ((rest.drop 4).take 2).length = 2 := by
    rw [List.length_take, List.length_drop]; omega
  have lengthLength : ((rest.drop 6).take 4).length = 4 := by
    rw [List.length_take, List.length_drop]; omega
  have versionFits := ofBigEndian_lt ((rest.drop 4).take 2)
  have lengthFits := ofBigEndian_lt ((rest.drop 6).take 4)
  have versionBytes := bigEndian_ofBigEndian ((rest.drop 4).take 2)
  have lengthBytes := bigEndian_ofBigEndian ((rest.drop 6).take 4)
  rw [versionLength] at versionFits versionBytes
  rw [lengthLength] at lengthFits lengthBytes
  have exactLength : (UInt32.ofNat (ofBigEndian ((rest.drop 6).take 4))).toNat = _ :=
    UInt32.toNat_ofNat_of_lt' lengthFits
  rw [split, readFrame_fields offset magicLength versionLength lengthLength] at accepted
  simp only [Except.refuse_eq_ok, not_not] at accepted
  rcases accepted with ⟨isMagic, isVersion, within, isPayload⟩
  rw [UInt32.lt_iff_toNat_lt, exactLength] at within
  rw [exactLength] at isPayload
  refine ⟨_, _, Nat.not_lt.mp within, ?_, isPayload⟩
  have isVersionNumber : format.version.toNat = ofBigEndian ((rest.drop 4).take 2) := by
    rw [← isVersion]
    exact UInt16.toNat_ofNat_of_lt' versionFits
  rw [encodeHeader, isVersionNumber, versionBytes, lengthBytes, ← isMagic, List.append_assoc,
    List.append_assoc]
  exact split

/-- The scanner finds a payload exactly in front of a file that starts with its
frame. -/
theorem readFrame_eq_complete :
    format.readFrame offset rest = .ok (.complete payload) <->
      payload.length <= format.maximum.toNat /\
        ∃ after, rest = format.encodeFrame payload ++ after := by
  constructor
  · intro finished
    have enough : frameHeaderLength <= rest.length := by
      by_contra short
      unfold readFrame at finished
      rw [Nat.not_le] at short
      split at finished
      · split at finished <;> cases finished
      · cases (Except.refuse_eq_ok.mp finished).2
    rcases exists_header_of_readFrame enough finished with ⟨_, after, within, rfl, isPayload⟩
    rcases readPayload_eq_complete.mp isPayload with ⟨rfl, last, rfl⟩
    refine ⟨within, last, ?_⟩
    simp only [encodeFrame, List.append_assoc]
  · intro isFrame
    rcases isFrame with ⟨within, after, rfl⟩
    rw [encodeFrame, List.append_assoc, List.append_assoc, readFrame_encodeHeader offset within]
    exact readPayload_eq_complete.mpr ⟨rfl, after, rfl⟩

/-- A file that ends inside a frame ends in an incomplete frame. -/
theorem readFrame_take (offset : Nat) (within : payload.length <= format.maximum.toNat)
    {count : Nat} (short : count < frameLength payload) :
    ∃ cut, format.readFrame offset ((format.encodeFrame payload).take count) =
      .ok (.incomplete cut) := by
  have magicLength := format.magic.length_toList
  have frame : format.encodeFrame payload = format.magic.toList ++
      ((bigEndian 2 format.version.toNat ++ bigEndian 4 payload.length) ++
        (payload ++ bigEndian 4 (crc32 payload).toNat)) := by
    rw [encodeFrame, encodeHeader, List.append_assoc]
  have length : ((format.encodeFrame payload).take count).length = count := by
    rw [List.length_take, length_encodeFrame]
    omega
  by_cases inMagic : count < 4
  · refine ⟨.frameMagic, ?_⟩
    unfold readFrame
    rw [if_pos (by omega), if_pos]
    grind
  by_cases inHeader : count < frameHeaderLength
  · refine ⟨.frameHeader, ?_⟩
    unfold readFrame
    rw [if_neg (by omega), if_neg, if_pos (by omega)]
    rw [not_not, List.take_take, Nat.min_eq_left (by omega), frame, List.take_left' magicLength]
  · have isHeader : (format.encodeFrame payload).take count =
        format.encodeHeader payload.length ++
          (payload ++ bigEndian 4 (crc32 payload).toNat).take (count - frameHeaderLength) := by
      rw [encodeFrame, List.take_append, length_encodeHeader, List.take_of_length_le]
      rw [length_encodeHeader]
      omega
    rw [isHeader, readFrame_encodeHeader offset within]
    apply readPayload_eq_incomplete.mpr
    rw [List.length_take]
    unfold frameLength at short
    omega

/-! ## Scanning a file -/

/-- The frames of payloads, one after another. -/
def encodeFrames (format : FrameFormat ε) (payloads : List (List UInt8)) : List UInt8 :=
  payloads.flatMap format.encodeFrame

/-- What a scan finds in the unread part of a file: the payloads of its frames
and then the end of the file, an incomplete tail or something that is no frame. -/
inductive Scans (format : FrameFormat ε) :
    Nat -> List UInt8 -> List (List UInt8) -> Except ε (Option IncompleteTail) -> Prop where
  | done (offset : Nat) : Scans format offset [] [] (.ok none)
  | cut {offset : Nat} {rest : List UInt8} {cut : FrameSection} (unread : rest ≠ [])
      (isCut : format.readFrame offset rest = .ok (.incomplete cut)) :
      Scans format offset rest [] (.ok (some ⟨offset, cut⟩))
  | corrupt {offset : Nat} {rest : List UInt8} {reason : ε} (unread : rest ≠ [])
      (isCorrupt : format.readFrame offset rest = .error reason) :
      Scans format offset rest [] (.error reason)
  | frame {offset : Nat} {payload rest : List UInt8} {payloads : List (List UInt8)}
      {outcome : Except ε (Option IncompleteTail)}
      (within : payload.length <= format.maximum.toNat)
      (later : Scans format (offset + frameLength payload) rest payloads outcome) :
      Scans format offset (format.encodeFrame payload ++ rest) (payload :: payloads) outcome

theorem exists_scans (format : FrameFormat ε) (offset : Nat) (file : List UInt8) :
    ∃ payloads outcome, format.Scans offset file payloads outcome := by
  induction size : file.length using Nat.strong_induction_on generalizing offset file with
  | h size ih =>
    by_cases empty : file = []
    · subst empty
      exact ⟨[], _, Scans.done offset⟩
    cases read : format.readFrame offset file with
    | error reason => exact ⟨[], _, Scans.corrupt empty read⟩
    | ok found =>
      cases found with
      | incomplete cut => exact ⟨[], _, Scans.cut empty read⟩
      | complete payload =>
        rcases readFrame_eq_complete.mp read with ⟨within, after, rfl⟩
        have positive := frameLength_pos payload
        rw [List.length_append, length_encodeFrame] at size
        rcases ih after.length (by omega)
          (offset + frameLength payload) after rfl with ⟨payloads, outcome, scans⟩
        exact ⟨payload :: payloads, outcome, Scans.frame within scans⟩

end FrameFormat

/-- Hand payloads to a visitor, with the offsets of their frames. -/
def visitAll (visit : Nat -> List UInt8 -> EStateM δ σ Unit) :
    Nat -> List (List UInt8) -> EStateM δ σ Unit
  | _, [] => pure ()
  | offset, payload :: rest => do
      visit offset payload
      visitAll visit (offset + frameLength payload) rest

namespace FrameFormat

section
variable {format : FrameFormat ε} {wrap : ε -> δ}
  {visit : Nat -> List UInt8 -> EStateM δ σ Unit}
  {fuel : Nat}

private theorem exists_fuel {unread : List UInt8} (nonempty : unread ≠ [])
    (enough : unread.length <= fuel) : ∃ less, fuel = less + 1 /\ ¬unread.isEmpty = true := by
  have positive := List.length_pos_of_ne_nil nonempty
  exact ⟨fuel - 1, by omega, by simpa using nonempty⟩

variable {outcome : Except ε (Option IncompleteTail)}

/-- The scanner visits what the scan finds, whatever the visitor does. -/
theorem Scans.streamFrom {rest : List UInt8} (scans : format.Scans offset rest payloads outcome)
    (enough : rest.length <= fuel) :
    format.streamFrom wrap visit fuel offset rest =
      (do visitAll visit offset payloads; check (outcome.mapError wrap)) := by
  induction scans generalizing fuel with
  | done offset =>
    cases fuel with
    | zero => rfl
    | succ fuel => rfl
  | cut unread isCut =>
    rcases exists_fuel unread enough with ⟨less, rfl, nonempty⟩
    rw [FrameFormat.streamFrom, if_neg nonempty, isCut]
    rfl
  | corrupt unread isCorrupt =>
    rcases exists_fuel unread enough with ⟨less, rfl, nonempty⟩
    rw [FrameFormat.streamFrom, if_neg nonempty, isCorrupt]
    rfl
  | @frame offset payload rest payloads outcome within later ih =>
    have positive := frameLength_pos payload
    have unread : format.encodeFrame payload ++ rest ≠ [] := by
      grind [length_encodeFrame]
    rcases exists_fuel unread enough with ⟨less, rfl, nonempty⟩
    rw [List.length_append, length_encodeFrame] at enough
    rw [FrameFormat.streamFrom, if_neg nonempty, readFrame_eq_complete.mpr ⟨within, rest, rfl⟩]
    change (visit offset payload >>= fun _ => format.streamFrom wrap visit less
      (offset + frameLength payload) (List.drop (frameLength payload) _)) = _
    rw [List.drop_left' (length_encodeFrame format payload), ih (by omega), visitAll, bind_assoc]

theorem Scans.streamFrames (scans : format.Scans 0 file payloads outcome) :
    format.streamFrames wrap visit file =
      (do visitAll visit 0 payloads; check (outcome.mapError wrap)) :=
  scans.streamFrom (Nat.le_refl _)

def listPayload (_ : Nat) (payload : List UInt8) : EStateM ε (List (List UInt8)) Unit :=
  fun found => .ok () (found ++ [payload])

theorem visitAll_listPayload (offset : Nat) (payloads found : List (List UInt8)) :
    visitAll (listPayload : Nat -> List UInt8 -> EStateM ε _ Unit) offset payloads found =
      .ok () (found ++ payloads) := by
  induction payloads generalizing offset found with
  | nil =>
    rw [List.append_nil]
    rfl
  | cons payload rest ih =>
    change visitAll listPayload _ rest (found ++ [payload]) = _
    rw [ih, List.append_assoc]
    rfl

theorem Scans.unique {others other} (scans : format.Scans offset file payloads outcome)
    (otherScans : format.Scans offset file others other) : payloads = others /\ outcome = other := by
  have listed {payloads : List (List UInt8)} {outcome : Except ε (Option IncompleteTail)}
      (scans : format.Scans offset file payloads outcome) :
      format.streamFrom id listPayload file.length offset file [] =
        check (outcome.mapError id) payloads := by
    rw [scans.streamFrom (Nat.le_refl _), bind_of_ok (visitAll_listPayload _ _ _), List.nil_append]
  have same := (listed scans).symm.trans (listed otherScans)
  cases outcome with
  | ok tail =>
    cases other with
    | ok otherTail =>
      cases same
      exact ⟨rfl, rfl⟩
    | error reason => cases same
  | error reason =>
    cases other with
    | ok otherTail => cases same
    | error otherReason =>
      cases same
      exact ⟨rfl, rfl⟩

theorem streamFrames_eq_ok {tail} {start final : σ} :
    format.streamFrames wrap visit file start = .ok tail final <->
      ∃ payloads, format.Scans 0 file payloads (.ok tail) /\
        visitAll visit 0 payloads start = .ok () final := by
  constructor
  · intro finished
    rcases format.exists_scans 0 file with ⟨payloads, outcome, scans⟩
    rw [scans.streamFrames] at finished
    rcases bind_eq_ok.mp finished with ⟨_, middle, visited, ended⟩
    rcases check_eq_ok.mp ended with ⟨isTail, rfl⟩
    rw [Except.mapError_eq_ok.mp isTail] at scans
    exact ⟨payloads, scans, visited⟩
  · intro found
    rcases found with ⟨payloads, scans, visited⟩
    rw [scans.streamFrames, bind_of_ok visited]
    rfl

end

section
variable {format : FrameFormat ε}

@[simp] theorem encodeFrames_nil : format.encodeFrames [] = [] := rfl

@[simp] theorem encodeFrames_cons (payload : List UInt8) (payloads : List (List UInt8)) :
    format.encodeFrames (payload :: payloads) =
      format.encodeFrame payload ++ format.encodeFrames payloads := rfl

theorem length_encodeFrames (payloads : List (List UInt8)) :
    (format.encodeFrames payloads).length = (payloads.map frameLength).sum := by
  induction payloads with
  | nil => rfl
  | cons payload rest ih =>
    grind [encodeFrames_cons, length_encodeFrame]

variable {outcome : Except ε (Option IncompleteTail)}

/-- The frames of a file are scanned before whatever follows them. -/
theorem Scans.append
    (within : forall payload, payload ∈ payloads -> payload.length <= format.maximum.toNat)
    {rest others}
    (later : format.Scans (offset + (payloads.map frameLength).sum) rest others outcome) :
    format.Scans offset (format.encodeFrames payloads ++ rest) (payloads ++ others) outcome := by
  induction payloads generalizing offset with
  | nil => exact later
  | cons payload payloads ih =>
    have parts := List.forall_mem_cons.mp within
    rw [encodeFrames_cons, List.append_assoc]
    refine Scans.frame parts.1 (ih parts.2 ?_)
    grind

/-- A scan finds the frames a file starts with and an unreadable rest. -/
theorem Scans.contents (scans : format.Scans offset file payloads outcome) :
    (forall payload, payload ∈ payloads -> payload.length <= format.maximum.toNat) /\
      ∃ rest, file = format.encodeFrames payloads ++ rest /\
        format.Scans (offset + (payloads.map frameLength).sum) rest [] outcome := by
  induction scans with
  | done offset => exact ⟨by simp, [], rfl, Scans.done _⟩
  | cut unread isCut => exact ⟨by simp, _, rfl, Scans.cut unread isCut⟩
  | corrupt unread isCorrupt => exact ⟨by simp, _, rfl, Scans.corrupt unread isCorrupt⟩
  | frame within later ih =>
    rcases ih with ⟨others, rest, rfl, unreadable⟩
    refine ⟨List.forall_mem_cons.mpr ⟨within, others⟩, rest, ?_, ?_⟩
    · rw [encodeFrames_cons, List.append_assoc]
    grind

theorem Scans.eq_encodeFrames (scans : format.Scans offset file payloads (.ok none)) :
    file = format.encodeFrames payloads := by
  generalize isOutcome : (Except.ok none : Except ε (Option IncompleteTail)) = outcome at scans
  induction scans with
  | done offset => rfl
  | cut unread isCut => cases isOutcome
  | corrupt unread isCorrupt => cases isOutcome
  | frame within later ih =>
    rw [ih isOutcome, encodeFrames_cons]

theorem Scans.validPrefixLength {tail}
    (scans : format.Scans offset file payloads (.ok (some tail))) :
    tail.validPrefixLength = offset + (format.encodeFrames payloads).length := by
  generalize isOutcome : (Except.ok (some tail) : Except ε (Option IncompleteTail)) = outcome
    at scans
  induction scans with
  | done offset => cases isOutcome
  | cut unread isCut =>
    cases isOutcome
    rfl
  | corrupt unread isCorrupt => cases isOutcome
  | frame within later ih =>
    grind [encodeFrames_cons, length_encodeFrame]

/-- The first `complete` frames lie inside the first `count` bytes of a file of
frames, and no more do. -/
structure CutAt (format : FrameFormat ε) (payloads : List (List UInt8)) (count complete : Nat) :
    Prop where
  bounded : complete <= payloads.length
  inside : (format.encodeFrames (payloads.take complete)).length <= count
  most : forall number, number <= payloads.length ->
    (format.encodeFrames (payloads.take number)).length <= count -> number <= complete

variable {count complete : Nat}

theorem CutAt.cons (fits : frameLength payload <= count)
    (isCut : format.CutAt payloads (count - frameLength payload) complete) :
    format.CutAt (payload :: payloads) count (complete + 1) := by
  constructor
  · exact Nat.succ_le_succ isCut.bounded
  · have inside := isCut.inside
    grind [encodeFrames_cons, length_encodeFrame]
  · intro number bounded inside
    cases number with
    | zero => exact Nat.zero_le _
    | succ number =>
      rw [List.take_succ_cons, encodeFrames_cons, List.length_append, length_encodeFrame] at inside
      exact Nat.succ_le_succ (isCut.most number (Nat.le_of_succ_le_succ bounded) (by omega))

theorem cutAt_zero (short : count < frameLength payload) :
    format.CutAt (payload :: payloads) count 0 := by
  refine ⟨Nat.zero_le _, Nat.zero_le _, ?_⟩
  intro number _ inside
  cases number with
  | zero => exact Nat.le_refl 0
  | succ number =>
    grind [encodeFrames_cons, length_encodeFrame]

theorem length_encodeFrames_take_le (payloads : List (List UInt8)) {fewer more : Nat}
    (ordered : fewer <= more) :
    (format.encodeFrames (payloads.take fewer)).length <=
      (format.encodeFrames (payloads.take more)).length := by
  have split : payloads.take more =
      payloads.take fewer ++ (payloads.drop fewer).take (more - fewer) := by
    rw [← List.take_add, Nat.add_sub_cancel' ordered]
  simp [encodeFrames, *]

theorem CutAt.inside_iff (isCut : format.CutAt payloads count complete) {number : Nat}
    (bounded : number <= payloads.length) :
    (format.encodeFrames (payloads.take number)).length <= count <-> number <= complete := by
  constructor
  · exact isCut.most number bounded
  · intro fewer
    exact (length_encodeFrames_take_le payloads fewer).trans isCut.inside

/-- A scan of a prefix of a file of frames finds the frames inside the prefix.
It reports an incomplete tail unless the prefix ends with them. -/
theorem exists_scans_take
    (within : forall payload, payload ∈ payloads -> payload.length <= format.maximum.toNat)
    (offset : Nat) (inside : count <= (format.encodeFrames payloads).length) :
    ∃ complete tail, format.CutAt payloads count complete /\
      format.Scans offset ((format.encodeFrames payloads).take count) (payloads.take complete)
        (.ok tail) /\
      (tail = none <-> count = (format.encodeFrames (payloads.take complete)).length) := by
  induction payloads generalizing offset count with
  | nil =>
    have none : count = 0 := Nat.le_zero.mp inside
    subst none
    exact ⟨0, .none, ⟨Nat.le_refl 0, Nat.le_refl 0, fun _ bounded _ => bounded⟩,
      Scans.done offset, iff_of_true rfl rfl⟩
  | cons payload payloads ih =>
    have parts := List.forall_mem_cons.mp within
    rw [encodeFrames_cons, List.length_append, length_encodeFrame] at inside
    by_cases short : count < frameLength payload
    · have isTake : (format.encodeFrames (payload :: payloads)).take count =
          (format.encodeFrame payload).take count := by
        grind [encodeFrames_cons, length_encodeFrame]
      by_cases empty : count = 0
      · subst empty
        exact ⟨0, none, cutAt_zero short, Scans.done offset, iff_of_true rfl rfl⟩
      rcases readFrame_take offset parts.1 short with ⟨cut, isCut⟩
      have unread : (format.encodeFrame payload).take count ≠ [] := by
        grind [List.length_take, length_encodeFrame]
      refine ⟨0, some ⟨offset, cut⟩, cutAt_zero short, ?_, iff_of_false nofun empty⟩
      rw [isTake]
      exact Scans.cut unread isCut
    · have remaining : count - frameLength payload <= (format.encodeFrames payloads).length := by
        omega
      rcases ih parts.2 (offset + frameLength payload) remaining with
        ⟨complete, tail, isCut, scans, ends⟩
      have isTake : (format.encodeFrames (payload :: payloads)).take count =
          format.encodeFrame payload ++
            (format.encodeFrames payloads).take (count - frameLength payload) := by
        rw [encodeFrames_cons, List.take_append, length_encodeFrame, List.take_of_length_le]
        rw [length_encodeFrame]
        omega
      have size : (format.encodeFrames ((payload :: payloads).take (complete + 1))).length =
          frameLength payload + (format.encodeFrames (payloads.take complete)).length := by
        grind [encodeFrames_cons, length_encodeFrame]
      refine ⟨complete + 1, tail, isCut.cons (Nat.not_lt.mp short), ?_, ?_⟩
      · rw [isTake, List.take_succ_cons]
        exact Scans.frame parts.1 scans
      · rw [ends, size]
        omega

end
end FrameFormat
end Foundation
