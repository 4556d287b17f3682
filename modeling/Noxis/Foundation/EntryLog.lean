import Noxis.Foundation.CheckedArithmetic
import Noxis.Foundation.FrameLog
import Noxis.Foundation.Reader

namespace Foundation

/-!
# Logs of linked entries

A log of frames whose payloads are decoded to entries.  Each entry is told the
offset of its frame and is compared with the entry before it.  If decoding is
exact, a scan succeeds on the frames of linked entries and on nothing else, with
or without a partial frame behind them; and a partial frame can be removed again.
-/

variable {ε entry : Type}

/-- How payloads are decoded, placed and compared with the entry before them.  The
offset of the frame is known to the decoder for its errors. -/
structure EntryLog (ε entry : Type) where
  format : FrameFormat ε
  decode : Nat -> List UInt8 -> Except (Fault ε) entry
  place : Nat -> entry -> entry
  checkLink : Option entry -> entry -> Except ε Unit

namespace EntryLog

/-- Decode the payload of a frame and add it to the entries. -/
def visit (log : EntryLog ε entry) (offset : Nat) (payload : List UInt8) :
    EStateM (Fault ε) (List entry) Unit := do
  let entries ← get
  let decoded ← check (log.decode offset payload)
  check ((log.checkLink entries.getLast? (log.place offset decoded)).mapError Fault.error)
  set (entries ++ [log.place offset decoded])

/-- The entries of a file and the partial frame behind them. -/
def scan (log : EntryLog ε entry) (file : List UInt8) :
    Except (Fault ε) (List entry × Option IncompleteTail) :=
  match log.format.streamFrames Fault.error log.visit file [] with
  | .ok tail entries => .ok (entries, tail)
  | .error fault _ => .error fault

/-- Remove exactly the partial frame an earlier scan reported. -/
def truncate (log : EntryLog ε entry) (changed : ε) (expected : IncompleteTail) :
    EStateM (Fault ε) (List UInt8) Unit := do
  let file ← get
  let found ← check (log.scan file)
  match found.2 with
  | none => throw (.error changed)
  | some actual =>
    if actual ≠ expected then
      throw (.error changed)
    else
      set (file.take actual.validPrefixLength)

/-- Decoding is exact: it accepts the payloads of storable entries and no others. -/
structure Exact (log : EntryLog ε entry) (storable : entry -> Prop)
    (payloadOf : entry -> List UInt8) (links : Option entry -> entry -> Prop) : Prop where
  decode_eq_ok : forall {offset payload decoded}, log.decode offset payload = .ok decoded <->
    storable decoded /\ log.place 0 decoded = decoded /\ payload = payloadOf decoded
  checkLink_eq_ok : forall {previous next done}, log.checkLink previous next = .ok done <->
    links previous next
  storable_place : forall {offset next}, storable (log.place offset next) <-> storable next
  payloadOf_place : forall {offset next}, payloadOf (log.place offset next) = payloadOf next
  place_place : forall {first second next},
    log.place first (log.place second next) = log.place first next
  within : forall {next}, storable next ->
    (payloadOf next).length <= log.format.maximum.toNat

section
variable (log : EntryLog ε entry) (storable : entry -> Prop) (payloadOf : entry -> List UInt8)

def fileOf (entries : List entry) : List UInt8 :=
  log.format.encodeFrames (entries.map payloadOf)

/-- Storable entries that know the offsets of their frames. -/
def Holds : Nat -> List entry -> Prop
  | _, [] => True
  | offset, next :: rest =>
    storable next /\ log.place offset next = next /\
      Holds (offset + frameLength (payloadOf next)) rest

variable {log storable payloadOf}

theorem length_fileOf_cons (next : entry) (rest : List entry) :
    (log.fileOf payloadOf (next :: rest)).length =
      frameLength (payloadOf next) + (log.fileOf payloadOf rest).length := by
  rw [fileOf, List.map_cons, FrameFormat.encodeFrames_cons, List.length_append,
    FrameFormat.length_encodeFrame]
  rfl

theorem fileOf_append (left right : List entry) :
    log.fileOf payloadOf (left ++ right) =
      log.fileOf payloadOf left ++ log.fileOf payloadOf right := by
  grind [fileOf, FrameFormat.encodeFrames]

theorem fileOf_singleton (next : entry) :
    log.fileOf payloadOf [next] = log.format.encodeFrame (payloadOf next) := by
  rw [fileOf, List.map_singleton, FrameFormat.encodeFrames_cons, FrameFormat.encodeFrames_nil,
    List.append_nil]

variable {offset : Nat}

theorem Holds.all_storable {entries} (holds : log.Holds storable payloadOf offset entries) :
    forall next, next ∈ entries -> storable next := by
  induction entries generalizing offset with
  | nil => exact nofun
  | cons first rest ih =>
    exact List.forall_mem_cons.mpr ⟨holds.1, ih holds.2.2⟩

theorem holds_append {left right} :
    log.Holds storable payloadOf offset (left ++ right) <->
      log.Holds storable payloadOf offset left /\
        log.Holds storable payloadOf (offset + (log.fileOf payloadOf left).length) right := by
  induction left generalizing offset with
  | nil => exact (and_iff_right trivial).symm
  | cons first rest ih =>
    rw [List.cons_append, Holds, Holds, ih, length_fileOf_cons, Nat.add_assoc, and_assoc, and_assoc]

end

section
variable {log : EntryLog ε entry} {storable : entry -> Prop} {payloadOf : entry -> List UInt8}
  {links : Option entry -> entry -> Prop} (exact : log.Exact storable payloadOf links)

include exact

variable {offset : Nat} {start final : List entry}

/-- A visited frame adds the storable entry of its payload. -/
theorem Exact.visit_eq_ok {payload} :
    log.visit offset payload start = .ok () final <->
      ∃ next, storable next /\ log.place offset next = next /\ payload = payloadOf next /\
        links start.getLast? next /\ final = start ++ [next] := by
  unfold visit
  rw [get_bind]
  simp only [bind_eq_ok, check_eq_ok, Except.mapError_eq_ok, exact.checkLink_eq_ok,
    exact.decode_eq_ok]
  constructor
  · intro visited
    rcases visited with ⟨decoded, _, ⟨⟨isStorable, _, rfl⟩, rfl⟩, _, _, ⟨isLinked, rfl⟩, isSet⟩
    cases isSet
    exact ⟨log.place offset decoded, exact.storable_place.mpr isStorable, exact.place_place,
      exact.payloadOf_place.symm, isLinked, rfl⟩
  · intro visited
    rcases visited with ⟨next, isStorable, isPlaced, rfl, isLinked, rfl⟩
    have placedAgain : log.place offset (log.place 0 next) = next :=
      exact.place_place.trans isPlaced
    refine ⟨log.place 0 next, start, ⟨⟨exact.storable_place.mpr isStorable, exact.place_place,
      exact.payloadOf_place.symm⟩, rfl⟩, (), start, ?_⟩
    rw [placedAgain]
    exact ⟨⟨isLinked, rfl⟩, rfl⟩

theorem Exact.visitAll_eq_ok {payloads} :
    visitAll log.visit offset payloads start = .ok () final <->
      ∃ entries, log.Holds storable payloadOf offset entries /\ payloads = entries.map payloadOf /\
        ValidTracking links (fun _ => some) start.getLast? entries /\ final = start ++ entries := by
  induction payloads generalizing offset start with
  | nil =>
    constructor
    · intro visited
      cases visited
      exact ⟨[], trivial, rfl, trivial, (List.append_nil _).symm⟩
    · intro visited
      rcases visited with ⟨entries, _, none, _, rfl⟩
      rw [List.map_eq_nil_iff.mp none.symm, List.append_nil]
      rfl
  | cons payload rest ih =>
    rw [visitAll, bind_eq_ok]
    constructor
    · intro visited
      rcases visited with ⟨_, middle, here, later⟩
      rcases exact.visit_eq_ok.mp here with ⟨next, isStorable, isPlaced, rfl, isLinked, rfl⟩
      rcases ih.mp later with ⟨entries, holds, rfl, linked, rfl⟩
      rw [List.getLast?_concat] at linked
      exact ⟨next :: entries, ⟨isStorable, isPlaced, holds⟩, rfl, ⟨isLinked, linked⟩,
        List.append_assoc _ _ _⟩
    · intro visited
      rcases visited with ⟨entries, holds, isMap, linked, rfl⟩
      cases entries with
      | nil => cases isMap
      | cons next others =>
        rw [List.map_cons, List.cons.injEq] at isMap
        rcases isMap with ⟨rfl, rfl⟩
        refine ⟨(), start ++ [next], exact.visit_eq_ok.mpr
          ⟨next, holds.1, holds.2.1, rfl, linked.1, rfl⟩, ?_⟩
        refine ih.mpr ⟨others, holds.2.2, rfl, ?_, ?_⟩
        · rw [List.getLast?_concat]
          exact linked.2
        · rw [List.append_assoc]
          rfl

variable {file : List UInt8} {entries : List entry} {tail : Option IncompleteTail}

/-- A scan succeeds exactly on the frames of linked entries, with or without a
partial frame behind them. -/
theorem Exact.scan_eq_ok :
    log.scan file = .ok (entries, tail) <->
      log.format.Scans 0 file (entries.map payloadOf) (.ok tail) /\
        log.Holds storable payloadOf 0 entries /\
        ValidTracking links (fun _ => some) none entries := by
  have streamed {tail : Option IncompleteTail} {entries : List entry} :
      log.format.streamFrames Fault.error log.visit file [] = .ok tail entries <->
        log.format.Scans 0 file (entries.map payloadOf) (.ok tail) /\
          log.Holds storable payloadOf 0 entries /\
          ValidTracking links (fun _ => some) none entries := by
    simp only [FrameFormat.streamFrames_eq_ok, exact.visitAll_eq_ok, List.getLast?_nil,
      List.nil_append]
    constructor
    · intro found
      rcases found with ⟨_, scans, _, holds, rfl, linked, rfl⟩
      exact ⟨scans, holds, linked⟩
    · intro found
      exact ⟨_, found.1, entries, found.2.1, rfl, found.2.2, rfl⟩
  unfold scan
  cases outcome : log.format.streamFrames Fault.error log.visit file [] with
  | ok other others =>
    grind
  | error fault others =>
    grind

variable {rest : List UInt8}

/-- The frames of storable entries are found in front of whatever follows them. -/
theorem Exact.scans_fileOf_append (isStorable : forall next, next ∈ entries -> storable next)
    {others outcome}
    (later : log.format.Scans (log.fileOf payloadOf entries).length rest others outcome) :
    log.format.Scans 0 (log.fileOf payloadOf entries ++ rest) (entries.map payloadOf ++ others)
      outcome := by
  have within : forall payload, payload ∈ entries.map payloadOf ->
      payload.length <= log.format.maximum.toNat := by
    intro payload listed
    rcases List.mem_map.mp listed with ⟨next, isEntry, rfl⟩
    exact exact.within (isStorable next isEntry)
  apply FrameFormat.Scans.append within
  have length := @FrameFormat.length_encodeFrames _ log.format (entries.map payloadOf)
  rw [Nat.zero_add, ← length]
  exact later

theorem Exact.scan_fileOf (holds : log.Holds storable payloadOf 0 entries)
    (linked : ValidTracking links (fun _ => some) none entries)
    (later : log.format.Scans (log.fileOf payloadOf entries).length rest [] (.ok tail)) :
    log.scan (log.fileOf payloadOf entries ++ rest) = .ok (entries, tail) := by
  have scans := exact.scans_fileOf_append holds.all_storable later
  rw [List.append_nil] at scans
  exact exact.scan_eq_ok.mpr ⟨scans, holds, linked⟩

theorem Exact.eq_fileOf (scanned : log.scan file = .ok (entries, none)) :
    file = log.fileOf payloadOf entries :=
  (exact.scan_eq_ok.mp scanned).1.eq_encodeFrames

theorem Exact.truncate_of_scan {tail} (scanned : log.scan file = .ok (entries, some tail))
    (changed : ε) : log.truncate changed tail file = .ok () (log.fileOf payloadOf entries) := by
  have scans := (exact.scan_eq_ok.mp scanned).1
  rcases scans.contents with ⟨_, rest, isFile, _⟩
  have behind : file.take tail.validPrefixLength = log.fileOf payloadOf entries := by
    rw [scans.validPrefixLength, Nat.zero_add, isFile, List.take_left]
    rfl
  rw [truncate, get_bind, scanned]
  change (if _ ≠ _ then _ else _ : EStateM _ _ _) _ = _
  rw [if_neg (not_not.mpr rfl), ← behind]
  rfl

/-- A partial frame behind the entries is reported, and it can be removed. -/
theorem Exact.scan_cut (holds : log.Holds storable payloadOf 0 entries)
    (linked : ValidTracking links (fun _ => some) none entries) {next}
    (isStorable : storable next) {count : Nat} (some : 0 < count)
    (short : count < frameLength (payloadOf next)) (changed : ε) :
    ∃ tail, log.scan (log.fileOf payloadOf entries ++
          (log.format.encodeFrame (payloadOf next)).take count) = .ok (entries, Option.some tail) /\
      log.truncate changed tail (log.fileOf payloadOf entries ++
          (log.format.encodeFrame (payloadOf next)).take count) =
        .ok () (log.fileOf payloadOf entries) := by
  rcases log.format.readFrame_take (log.fileOf payloadOf entries).length
    (exact.within isStorable) short with ⟨cut, isCut⟩
  have nonempty : (log.format.encodeFrame (payloadOf next)).take count ≠ [] := by
    grind [List.length_take, FrameFormat.length_encodeFrame]
  have scanned := exact.scan_fileOf holds linked (.cut nonempty isCut)
  exact ⟨_, scanned, exact.truncate_of_scan scanned changed⟩

/-- However a complete file is cut, a scan finds the entries whose frames lie inside
what is left.  It reports a tail unless the cut is behind a frame, and removing the tail
leaves exactly those frames. -/
def SurvivesCuts (scan : List UInt8 -> Except ε (List entry × Option IncompleteTail))
    (truncate : IncompleteTail -> EStateM ε (List UInt8) Unit) (fileOf : List entry -> List UInt8) :
    Prop :=
  forall entries file count, scan file = .ok (entries, none) -> count <= file.length ->
    ∃ complete tail, complete <= entries.length /\
      (forall number, number <= entries.length ->
        ((fileOf (entries.take number)).length <= count <-> number <= complete)) /\
      scan (file.take count) = .ok (entries.take complete, tail) /\
      (tail = none <-> count = (fileOf (entries.take complete)).length) /\
      forall found, tail = some found ->
        truncate found (file.take count) = .ok () (fileOf (entries.take complete))

theorem Exact.survivesCuts (changed : ε) :
    SurvivesCuts log.scan (log.truncate changed) (log.fileOf payloadOf) := by
  intro entries file count scanned short
  rcases exact.scan_eq_ok.mp scanned with ⟨scans, holds, linked⟩
  have isFile := exact.eq_fileOf scanned
  subst isFile
  rcases FrameFormat.exists_scans_take scans.contents.1 0 short with
    ⟨complete, tail, isCut, cutScans, ends⟩
  have bounded := isCut.bounded
  rw [List.length_map] at bounded
  rw [← List.map_take] at cutScans ends
  rw [← List.take_append_drop complete entries] at holds linked
  have found : log.scan _ = _ := exact.scan_eq_ok.mpr
    ⟨cutScans, (holds_append.mp holds).1, (validTracking_append.mp linked).1⟩
  refine ⟨complete, tail, bounded, ?_, found, ends, ?_⟩
  · intro number few
    rw [fileOf, List.map_take]
    exact isCut.inside_iff (by rwa [List.length_map])
  · rintro tail rfl
    exact exact.truncate_of_scan found changed

end
end EntryLog

theorem foldl_some (entries : List entry) :
    entries.foldl (fun _ => some) none = entries.getLast? := by
  rcases List.eq_nil_or_concat' entries with rfl | ⟨before, last, rfl⟩
  · rfl
  · rw [List.foldl_append, List.getLast?_concat]
    rfl

/-! ## Numbered entries -/

/-- Entries that carry a number, the identity they start from and the identity
they lead to. -/
structure Numbering (entry ι : Type) where
  offset : entry -> Nat
  sequence : entry -> UInt64
  previous : entry -> ι
  identity : entry -> ι

/-- The errors of a comparison of neighbours. -/
structure NumberingErrors (ε ι : Type) where
  overflow : ε
  misnumbered (offset : Nat) (expected actual : UInt64) : ε
  mislinked (sequence : UInt64) (expected actual : ι) : ε

namespace Numbering

variable {ι : Type} [DecidableEq ι] (numbering : Numbering entry ι) (errors : NumberingErrors ε ι)

/-- Compare an entry with the one before it. -/
def checkLink (previous : Option entry) (next : entry) : Except ε Unit :=
  match previous with
  | some before =>
    match checkedAdd (numbering.sequence before) 1 with
    | none => .error errors.overflow
    | some expected =>
      if numbering.sequence next ≠ expected then
        .error (errors.misnumbered (numbering.offset next) expected (numbering.sequence next))
      else if numbering.previous next ≠ numbering.identity before then
        .error (errors.mislinked (numbering.sequence next) (numbering.identity before)
          (numbering.previous next))
      else
        .ok ()
  | none =>
    if numbering.sequence next ≠ 1 then
      .error (errors.misnumbered (numbering.offset next) 1 (numbering.sequence next))
    else
      .ok ()

/-- The number after the latest entry, which has to lead to a given identity. -/
def nextSequence (latest : Option entry) (predecessor : ι) : Except ε UInt64 :=
  match latest with
  | some latest =>
    if numbering.identity latest ≠ predecessor then
      .error (errors.mislinked
        ((checkedAdd (numbering.sequence latest) 1).getD (numbering.sequence latest))
        (numbering.identity latest) predecessor)
    else
      match checkedAdd (numbering.sequence latest) 1 with
      | some sequence => .ok sequence
      | none => .error errors.overflow
  | none => .ok 1

omit [DecidableEq ι] in
/-- The entry has the next number and names the identity of the one before it. -/
def Links : Option entry -> entry -> Prop
  | none, next => numbering.sequence next = 1
  | some before, next =>
    checkedAdd (numbering.sequence before) 1 = some (numbering.sequence next) /\
      numbering.previous next = numbering.identity before

variable {numbering errors}
  {next : entry}

theorem checkLink_eq_ok {previous done} :
    numbering.checkLink errors previous next = .ok done <-> numbering.Links previous next := by
  cases previous with
  | none => simp only [checkLink, Links, Except.refuse_eq_ok, not_not, and_true]
  | some before =>
    cases number : checkedAdd (numbering.sequence before) 1 with
    | none => simp [checkLink, Links, number]
    | some expected =>
      simp only [checkLink, Links, number, Except.refuse_eq_ok, not_not, and_true,
        Option.some.injEq]
      exact and_congr_left (fun _ => eq_comm)

theorem links_of_nextSequence {latest}
    (numbered : numbering.nextSequence errors latest (numbering.previous next) =
      .ok (numbering.sequence next)) : numbering.Links latest next := by
  cases latest with
  | none => exact (Except.ok.inj numbered).symm
  | some latest =>
    rcases Except.refuse_eq_ok.mp numbered with ⟨same, numbered⟩
    cases number : checkedAdd (numbering.sequence latest) 1 with
    | none =>
      rw [number] at numbered
      cases numbered
    | some sequence =>
      rw [number] at numbered
      refine ⟨?_, (not_not.mp same).symm⟩
      rw [number, Except.ok.inj numbered]

end Numbering
end Foundation
