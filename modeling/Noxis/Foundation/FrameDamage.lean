import Noxis.Foundation.FrameLog

namespace Foundation

/-!
# Logs with one damaged byte

Changing one byte of a log of complete frames is noticed by the scanner, with
one exception.  The magic and the version are compared, the payload is covered
by the checksum, and a checksum that is changed no longer matches.  The length
of the payload is covered by nothing.  A length that still fits the file makes
the scanner read another payload, one that the true payload starts with or that
starts with the true payload.  A length that runs past the end of the file
cannot be told from an interrupted write: the scanner reports everything from
the damaged frame on as an incomplete tail.
-/

/-- Files of one length that differ in the byte at one position. -/
def ChangesByte (file changed : List UInt8) (index : Nat) : Prop :=
  ∃ before old new after, file = before ++ old :: after /\ changed = before ++ new :: after /\
    old ≠ new /\ before.length = index

section
variable {file changed left right : List UInt8} {index : Nat}
  (changes : ChangesByte file changed index)

include changes in
theorem ChangesByte.length_eq : changed.length = file.length := by
  rcases changes with ⟨before, old, new, after, rfl, rfl, _, _⟩
  grind

include changes in
theorem ChangesByte.ne : changed ≠ file := by
  rcases changes with ⟨before, old, new, after, rfl, rfl, differ, _⟩
  grind [List.append_cancel_left]

include changes in
theorem ChangesByte.index_lt : index < file.length := by
  rcases changes with ⟨before, old, new, after, rfl, rfl, _, rfl⟩
  rw [List.length_append, List.length_cons]
  omega

include changes in
theorem ChangesByte.append_ne_nil (after : List UInt8) : changed ++ after ≠ [] := by
  have position := changes.index_lt
  grind [length_eq, List.length_append]

/-- The changed byte lies in one of two parts of a file. -/
theorem ChangesByte.of_append (changes : ChangesByte (left ++ right) changed index) :
    (index < left.length /\ ∃ damaged, changed = damaged ++ right /\
        ChangesByte left damaged index) ∨
      (left.length <= index /\ ∃ damaged, changed = left ++ damaged /\
        ChangesByte right damaged (index - left.length)) := by
  rcases changes with ⟨before, old, new, after, split, rfl, differ, rfl⟩
  rcases List.append_eq_append_iff.mp split with ⟨between, rfl, rfl⟩ | ⟨between, rfl, rest⟩
  · right
    refine ⟨by rw [List.length_append]; omega, between ++ new :: after, List.append_assoc _ _ _,
      between, old, new, after, rfl, rfl, differ, ?_⟩
    rw [List.length_append, Nat.add_sub_cancel_left]
  · cases between with
    | nil =>
      right
      rw [List.nil_append] at rest
      rw [List.append_nil]
      exact ⟨Nat.le_refl _, new :: after, rfl, [], old, new, after, rest.symm, rfl, differ,
        (Nat.sub_self _).symm⟩
    | cons first between =>
      rw [List.cons_append] at rest
      injection rest with isFirst isAfter
      subst isFirst isAfter
      left
      refine ⟨by rw [List.length_append, List.length_cons]; omega, before ++ new :: between,
        ?_, before, old, new, between, rfl, rfl, differ, rfl⟩
      rw [List.append_assoc, List.cons_append]

include changes

theorem ChangesByte.ofBigEndian_ne : ofBigEndian changed ≠ ofBigEndian file := by
  intro same
  exact changes.ne (ofBigEndian_injective changes.length_eq same)

theorem ChangesByte.crc32_ne : crc32 changed ≠ crc32 file := by
  rcases changes with ⟨before, old, new, after, rfl, rfl, differ, _⟩
  intro same
  exact differ (byte_eq_of_crc32_eq same).symm

end

/-- The length that the frame at the front of an unread part claims. -/
def claimedLength (unread : List UInt8) : Nat := ofBigEndian ((unread.drop 6).take 4)

namespace FrameFormat

variable {ε : Type} {format : FrameFormat ε} {payload damaged after : List UInt8}
  {offset index : Nat}

/-- The changed byte belongs to the length of the frame at the front of an
unread part, and the frame now claims more than the file holds. -/
structure Outruns (format : FrameFormat ε) (unread : List UInt8) (index : Nat) : Prop where
  field : 6 <= index /\ index < frameHeaderLength
  within : claimedLength unread <= format.maximum.toNat
  past : unread.length < frameHeaderLength + claimedLength unread + frameChecksumLength

theorem claimedLength_fields {magic version payloadLength} (magicLength : magic.length = 4)
    (versionLength : version.length = 2) (lengthLength : payloadLength.length = 4)
    (rest : List UInt8) :
    claimedLength (magic ++ (version ++ (payloadLength ++ rest))) = ofBigEndian payloadLength := by
  grind [claimedLength, List.drop_left']

theorem readPayload_of_other_checksum {body checksum} {payloadLength : Nat}
    (bodyLength : body.length = payloadLength) (checksumLength : checksum.length = 4)
    (differ : crc32 body ≠ UInt32.ofNat (ofBigEndian checksum)) (after : List UInt8) :
    ∃ reason, format.readPayload offset payloadLength (body ++ (checksum ++ after)) =
      .error reason := by
  unfold readPayload
  rw [if_neg, List.take_left' bodyLength, List.drop_left' bodyLength, frameChecksumLength,
    List.take_left' checksumLength, if_pos differ]
  · exact ⟨_, rfl⟩
  · simp only [List.length_append, bodyLength, checksumLength, frameChecksumLength]
    omega

/-- The scanner notices a changed byte of a payload or of its checksum. -/
theorem readPayload_of_changes
    (changes : ChangesByte (payload ++ bigEndian 4 (crc32 payload).toNat) damaged index)
    (after : List UInt8) :
    ∃ reason, format.readPayload offset payload.length (damaged ++ after) = .error reason := by
  rcases changes.of_append with ⟨_, body, rfl, inBody⟩ | ⟨_, checksum, rfl, inChecksum⟩
  · rw [List.append_assoc]
    apply readPayload_of_other_checksum inBody.length_eq (length_bigEndian 4 _)
    rw [ofBigEndian_bigEndian (crc32 payload).toNat_lt, UInt32.ofNat_toNat]
    exact inBody.crc32_ne
  · have checksumLength := inChecksum.length_eq.trans (length_bigEndian 4 _)
    have checksumFits := ofBigEndian_lt checksum
    rw [checksumLength] at checksumFits
    rw [List.append_assoc]
    apply readPayload_of_other_checksum rfl checksumLength
    intro sameChecksum
    apply inChecksum.ofBigEndian_ne
    rw [ofBigEndian_bigEndian (crc32 payload).toNat_lt, sameChecksum]
    exact (UInt32.toNat_ofNat_of_lt' checksumFits).symm

/-- A changed byte of a frame is noticed, or it belongs to the length. -/
theorem readFrame_of_changes (offset : Nat) (within : payload.length <= format.maximum.toNat)
    (changes : ChangesByte (format.encodeFrame payload) damaged index) (after : List UInt8) :
    ((index < 6 ∨ frameHeaderLength <= index) /\
        ∃ reason, format.readFrame offset (damaged ++ after) = .error reason) ∨
      ((6 <= index /\ index < frameHeaderLength) /\ ∃ payloadLength, payloadLength.length = 4 /\
        ofBigEndian payloadLength ≠ payload.length /\
        damaged ++ after = format.magic.toList ++ (bigEndian 2 format.version.toNat ++
          (payloadLength ++ (payload ++ (bigEndian 4 (crc32 payload).toNat ++ after))))) := by
  have magicLength := format.magic.length_toList
  have fits : payload.length < 2 ^ 32 := Nat.lt_of_le_of_lt within format.maximum.toNat_lt
  unfold encodeFrame encodeHeader at changes
  unfold frameHeaderLength
  rw [List.append_assoc, List.append_assoc] at changes
  rcases changes.of_append with ⟨early, magic, rfl, inMagic⟩ | ⟨afterMagic, rest, rfl, beyondMagic⟩
  · left
    refine ⟨by omega, ?_⟩
    rw [List.append_assoc, List.append_assoc, List.append_assoc,
      readFrame_fields offset (inMagic.length_eq.trans magicLength) (length_bigEndian 2 _)
        (length_bigEndian 4 _), if_pos inMagic.ne]
    exact ⟨_, rfl⟩
  rw [magicLength] at afterMagic beyondMagic
  rcases beyondMagic.of_append with
    ⟨early, version, rfl, inVersion⟩ | ⟨afterVersion, rest, rfl, beyondVersion⟩
  · left
    have versionLength := inVersion.length_eq.trans (length_bigEndian 2 _)
    have versionFits := ofBigEndian_lt version
    rw [length_bigEndian] at early
    rw [versionLength] at versionFits
    refine ⟨by omega, ?_⟩
    rw [List.append_assoc, List.append_assoc, List.append_assoc,
      readFrame_fields offset magicLength versionLength (length_bigEndian 4 _),
      if_neg (not_not_intro rfl), if_pos]
    · exact ⟨_, rfl⟩
    · intro sameVersion
      apply inVersion.ofBigEndian_ne
      rw [ofBigEndian_bigEndian format.version.toNat_lt, ← sameVersion]
      exact (UInt16.toNat_ofNat_of_lt' versionFits).symm
  rw [length_bigEndian] at afterVersion beyondVersion
  rcases beyondVersion.of_append with
    ⟨early, lengthBytes, rfl, inLength⟩ | ⟨afterLength, rest, rfl, beyondLength⟩
  · right
    rw [length_bigEndian] at early
    refine ⟨by omega, lengthBytes, inLength.length_eq.trans (length_bigEndian 4 _), ?_, ?_⟩
    · grind [ChangesByte.ofBigEndian_ne, ofBigEndian_bigEndian]
    · simp only [List.append_assoc]
  · left
    rw [length_bigEndian] at afterLength
    have isHeader : format.magic.toList ++ (bigEndian 2 format.version.toNat ++
        (bigEndian 4 payload.length ++ rest)) ++ after =
          format.encodeHeader payload.length ++ (rest ++ after) := by
      simp only [encodeHeader, List.append_assoc]
    rw [isHeader, readFrame_encodeHeader offset within]
    exact ⟨by omega, readPayload_of_changes beyondLength after⟩

/-- What the scanner does with a frame whose length was changed. -/
theorem readFrame_claimed {payloadLength} (lengthLength : payloadLength.length = 4)
    (rest : List UInt8) :
    format.readFrame offset (format.magic.toList ++ (bigEndian 2 format.version.toNat ++
        (payloadLength ++ rest))) =
      if format.maximum.toNat < ofBigEndian payloadLength then
        .error (format.tooLarge offset (UInt32.ofNat (ofBigEndian payloadLength)))
      else format.readPayload offset (ofBigEndian payloadLength) rest := by
  have fits := ofBigEndian_lt payloadLength
  rw [lengthLength] at fits
  have exactLength : (UInt32.ofNat (ofBigEndian payloadLength)).toNat = ofBigEndian payloadLength :=
    UInt32.toNat_ofNat_of_lt' fits
  rw [readFrame_fields offset format.magic.length_toList (length_bigEndian 2 _) lengthLength,
    ofBigEndian_bigEndian format.version.toNat_lt, if_neg (not_not_intro rfl),
    if_neg (not_not_intro UInt16.ofNat_toNat)]
  simp only [UInt32.lt_iff_toNat_lt, exactLength]

/-- A frame that claims more than the file holds looks interrupted. -/
theorem Outruns.readFrame (outruns : format.Outruns (damaged ++ after) index)
    (within : payload.length <= format.maximum.toNat)
    (changes : ChangesByte (format.encodeFrame payload) damaged index) :
    ∃ cut, format.readFrame offset (damaged ++ after) = .ok (.incomplete cut) := by
  rcases readFrame_of_changes offset within changes after with
    ⟨outside, _⟩ | ⟨_, payloadLength, lengthLength, _, isFrame⟩
  · have field := outruns.field
    omega
  have accepted := outruns.within
  have past := outruns.past
  rw [isFrame] at accepted past ⊢
  rw [claimedLength_fields format.magic.length_toList (length_bigEndian 2 _) lengthLength]
    at accepted past
  rw [readFrame_claimed lengthLength, if_neg (Nat.not_lt.mpr accepted)]
  apply readPayload_eq_incomplete.mpr
  simp only [List.length_append, format.magic.length_toList, length_bigEndian, lengthLength,
    frameHeaderLength] at past ⊢
  omega

theorem readFrame_of_not_outruns (within : payload.length <= format.maximum.toNat)
    (changes : ChangesByte (format.encodeFrame payload) damaged index)
    (fits : ¬format.Outruns (damaged ++ after) index) :
    (∃ reason, format.readFrame offset (damaged ++ after) = .error reason) ∨
      ∃ other, format.readFrame offset (damaged ++ after) = .ok (.complete other) /\
        other ≠ payload /\ (other <+: payload ∨ payload <+: other) := by
  rcases readFrame_of_changes offset within changes after with
    ⟨_, noticed⟩ | ⟨field, payloadLength, lengthLength, otherLength, isFrame⟩
  · exact Or.inl noticed
  have claimed : claimedLength (damaged ++ after) = ofBigEndian payloadLength := by
    rw [isFrame]
    exact claimedLength_fields format.magic.length_toList (length_bigEndian 2 _) lengthLength _
  rw [isFrame, readFrame_claimed lengthLength]
  by_cases tooLarge : format.maximum.toNat < ofBigEndian payloadLength
  · rw [if_pos tooLarge]
    exact Or.inl ⟨_, rfl⟩
  rw [if_neg tooLarge]
  cases read : format.readPayload offset (ofBigEndian payloadLength)
      (payload ++ (bigEndian 4 (crc32 payload).toNat ++ after)) with
  | error reason => exact Or.inl ⟨reason, rfl⟩
  | ok found =>
    cases found with
    | incomplete cut =>
      have short := readPayload_eq_incomplete.mp ⟨cut, read⟩
      refine absurd ⟨field, by rw [claimed]; omega, ?_⟩ fits
      rw [claimed, isFrame]
      simp only [List.length_append, format.magic.length_toList, length_bigEndian,
        lengthLength, frameHeaderLength] at short ⊢
      omega
    | complete other =>
      rcases readPayload_eq_complete.mp read with ⟨isLength, rest, isRest⟩
      refine Or.inr ⟨other, rfl, ?_, ?_⟩
      · rintro rfl
        exact otherLength isLength.symm
      grind [List.prefix_or_prefix_of_prefix]

/-! ## Scanning a damaged log -/

section
variable {payloads earlier later found : List (List UInt8)} {changed rest : List UInt8}
  {outcome : Except ε (Option IncompleteTail)}

theorem Scans.of_incomplete (scans : format.Scans offset rest found outcome) (unread : rest ≠ [])
    {cut} (isCut : format.readFrame offset rest = .ok (.incomplete cut)) :
    found = [] /\ outcome = .ok (some ⟨offset, cut⟩) := by
  cases scans with
  | done _ => exact absurd rfl unread
  | cut _ read =>
    cases read.symm.trans isCut
    exact ⟨rfl, rfl⟩
  | corrupt _ read => cases read.symm.trans isCut
  | frame within _ => cases (readFrame_eq_complete.mpr ⟨within, _, rfl⟩).symm.trans isCut

theorem Scans.of_error (scans : format.Scans offset rest found outcome) (unread : rest ≠ [])
    {reason : ε} (isCorrupt : format.readFrame offset rest = .error reason) :
    found = [] /\ outcome = .error reason := by
  cases scans with
  | done _ => exact absurd rfl unread
  | cut _ read => cases read.symm.trans isCorrupt
  | corrupt _ read =>
    cases read.symm.trans isCorrupt
    exact ⟨rfl, rfl⟩
  | frame within _ => cases (readFrame_eq_complete.mpr ⟨within, _, rfl⟩).symm.trans isCorrupt

theorem Scans.of_complete (scans : format.Scans offset rest found outcome) (unread : rest ≠ [])
    (isFrame : format.readFrame offset rest = .ok (.complete payload)) :
    ∃ after others, rest = format.encodeFrame payload ++ after /\ found = payload :: others /\
      format.Scans (offset + frameLength payload) after others outcome := by
  cases scans with
  | done _ => exact absurd rfl unread
  | cut _ read => cases read.symm.trans isFrame
  | corrupt _ read => cases read.symm.trans isFrame
  | frame within scansLater =>
    cases (readFrame_eq_complete.mpr ⟨within, _, rfl⟩).symm.trans isFrame
    exact ⟨_, _, rfl, rfl, scansLater⟩

theorem encodeFrame_ne_nil (payload after : List UInt8) :
    format.encodeFrame payload ++ after ≠ [] := by
  have positive := frameLength_pos payload
  rw [← List.length_pos_iff, List.length_append, length_encodeFrame]
  omega

/-- Intact frames at the front of a file are found first. -/
theorem Scans.of_append
    (within : forall payload, payload ∈ earlier -> payload.length <= format.maximum.toNat)
    (scans : format.Scans offset (format.encodeFrames earlier ++ rest) found outcome) :
    ∃ others, found = earlier ++ others /\
      format.Scans (offset + (format.encodeFrames earlier).length) rest others outcome := by
  induction earlier generalizing offset found with
  | nil => exact ⟨found, rfl, scans⟩
  | cons payload earlier ih =>
    have parts := List.forall_mem_cons.mp within
    rw [encodeFrames_cons, List.append_assoc] at scans
    rcases scans.of_complete (encodeFrame_ne_nil _ _)
      (readFrame_eq_complete.mpr ⟨parts.1, _, rfl⟩) with ⟨after, others, isRest, rfl, scansLater⟩
    rw [← List.append_cancel_left isRest] at scansLater
    rcases ih parts.2 scansLater with ⟨last, rfl, scansLast⟩
    refine ⟨last, rfl, ?_⟩
    rw [encodeFrames_cons, List.length_append, length_encodeFrame, ← Nat.add_assoc]
    exact scansLast

theorem encodeFrames_append (earlier later : List (List UInt8)) :
    format.encodeFrames (earlier ++ later) =
      format.encodeFrames earlier ++ format.encodeFrames later :=
  List.flatMap_append

theorem exists_damaged_frame (changes : ChangesByte (format.encodeFrames payloads) changed index) :
    ∃ earlier payload later damaged, payloads = earlier ++ payload :: later /\
      changed = format.encodeFrames earlier ++ (damaged ++ format.encodeFrames later) /\
      (format.encodeFrames earlier).length <= index /\
      ChangesByte (format.encodeFrame payload) damaged
        (index - (format.encodeFrames earlier).length) := by
  induction payloads generalizing changed index with
  | nil => exact absurd changes.index_lt (Nat.not_lt_zero _)
  | cons payload payloads ih =>
    rw [encodeFrames_cons] at changes
    rcases changes.of_append with ⟨_, damaged, rfl, here⟩ | ⟨reached, rest, rfl, beyond⟩
    · exact ⟨[], payload, payloads, damaged, rfl, rfl, Nat.zero_le _, here⟩
    rcases ih beyond with
      ⟨earlier, other, later, damaged, rfl, rfl, position, there⟩
    refine ⟨payload :: earlier, other, later, damaged, rfl, ?_, ?_, ?_⟩
    · rw [encodeFrames_cons, List.append_assoc]
    · rw [encodeFrames_cons, List.length_append]
      omega
    grind [encodeFrames_cons]

/-- A file whose damaged frame outruns it is cut before that frame. -/
theorem scans_of_outruns
    (within : forall member, member ∈ earlier ++ payload :: later ->
      member.length <= format.maximum.toNat)
    (changes : ChangesByte (format.encodeFrames (earlier ++ payload :: later)) changed index)
    (reached : (format.encodeFrames earlier).length <= index)
    (outruns : format.Outruns (changed.drop (format.encodeFrames earlier).length)
      (index - (format.encodeFrames earlier).length)) :
    ∃ tail, format.Scans 0 changed earlier (.ok (some tail)) := by
  rw [encodeFrames_append, encodeFrames_cons] at changes
  rcases changes.of_append with ⟨early, _⟩ | ⟨_, rest, rfl, beyond⟩
  · omega
  rw [List.drop_left] at outruns
  have field := outruns.field
  rcases beyond.of_append with ⟨_, damaged, rfl, here⟩ | ⟨past, _⟩
  swap
  · rw [length_encodeFrame, frameLength] at past
    omega
  rcases outruns.readFrame (within payload (by simp)) here with ⟨cut, isCut⟩
  have unread := here.append_ne_nil (format.encodeFrames later)
  have scans := Scans.append (fun other member => within other (List.mem_append_left _ member))
    (Scans.cut unread isCut : format.Scans (0 + (earlier.map frameLength).sum) _ _ _)
  rw [List.append_nil] at scans
  exact ⟨_, scans⟩

/-- What a scan finds in a file with one changed byte: the frames before the
damaged one, and then an error, a tail that the damaged frame outruns, or
another payload. -/
theorem Scans.of_changes
    (within : forall payload, payload ∈ payloads -> payload.length <= format.maximum.toNat)
    (changes : ChangesByte (format.encodeFrames payloads) changed index)
    (scans : format.Scans 0 changed found outcome) :
    ∃ earlier payload later, payloads = earlier ++ payload :: later /\
      ((∃ reason, outcome = .error reason) ∨
        ((format.encodeFrames earlier).length <= index /\
          format.Outruns (changed.drop (format.encodeFrames earlier).length)
            (index - (format.encodeFrames earlier).length) /\ found = earlier) ∨
        ∃ other rest, found = earlier ++ other :: rest /\ other ≠ payload /\
          (other <+: payload ∨ payload <+: other)) := by
  rcases exists_damaged_frame changes with
    ⟨earlier, payload, later, damaged, rfl, rfl, reached, here⟩
  rcases scans.of_append (fun other member => within other (List.mem_append_left _ member)) with
    ⟨others, rfl, scansRest⟩
  refine ⟨earlier, payload, later, rfl, ?_⟩
  rw [List.drop_left]
  have unread := here.append_ne_nil (format.encodeFrames later)
  by_cases outruns : format.Outruns (damaged ++ format.encodeFrames later)
      (index - (format.encodeFrames earlier).length)
  · rcases outruns.readFrame (within payload (by simp)) here with ⟨cut, isCut⟩
    rcases scansRest.of_incomplete unread isCut with ⟨rfl, _⟩
    exact Or.inr (Or.inl ⟨reached, outruns, List.append_nil _⟩)
  rcases readFrame_of_not_outruns (within payload (by simp)) here outruns with
    ⟨reason, noticed⟩ | ⟨other, complete, differ, related⟩
  · exact Or.inl ⟨reason, (scansRest.of_error unread noticed).2⟩
  · rcases scansRest.of_complete unread complete with ⟨_, rest, _, rfl, _⟩
    exact Or.inr (Or.inr ⟨other, rest, rfl, differ, related⟩)

end
end FrameFormat
end Foundation
