import Noxis.Storage.PrivateStore

namespace Noxis.Stores

open Foundation Privacy
open Storage (WriteOutcome)

/-!
# Runs of a private store

A journal is lawful if it finds the entries that were written, with or without a
partial frame behind them, and if it appends an entry in one frame.  In every run
of a store with a lawful journal, the files hold the base, the entries of a valid
history and at most one partial frame.  The ledger in memory is the latest one of
the history, or the store is blocked: the journal has run ahead of the memory, and
every transfer fails until the store is opened again.
-/

variable {candidate : Poseidon2P24Candidate} {ε entry noted A : Type}

/-- The ledger after the entries of a history. -/
def latestState (journal : PrivateJournal candidate ε entry noted)
    (base : CandidatePrivateLedgerStateV1 candidate) (entries : List entry) :
    CandidatePrivateLedgerStateV1 candidate :=
  entries.foldl (fun _ last => journal.state last) base

theorem latestState_append (journal : PrivateJournal candidate ε entry noted)
    (base : CandidatePrivateLedgerStateV1 candidate) (entries : List entry) (last : entry) :
    latestState journal base (entries ++ [last]) = journal.state last := by
  rw [latestState, List.foldl_append]
  rfl

/-- The ledger after an accepted transfer, whoever accepted it. -/
def Transfers [Sha256] (reference : NullifierSparseTreeReferenceV1)
    (state successor : CandidatePrivateLedgerStateV1 candidate) (intent : PrivateTransferIntentV2) :
    Prop :=
  ∃ receipt, CandidatePrivateLedgerStateV1.applyTransfer reference ⟨intent, ()⟩
    (fun _ _ _ _ => .ok ()) state = .ok receipt successor

variable {files next : StoreFiles}

section
variable {α : Type} {method : EStateM ε StoreFiles α}
  {state : CandidatePrivateLedgerStateV1 candidate}

theorem onFiles_of_ok {value : α} (finished : method files = .ok value next) :
    onFiles method ⟨files, state⟩ = .ok value ⟨next, state⟩ :=
  onPart_eq_ok.mpr ⟨next, finished, rfl⟩

theorem onFiles_of_error {fault : ε} (failed : method files = .error fault next) :
    onFiles method ⟨files, state⟩ = .error fault ⟨next, state⟩ :=
  onPart_eq_error.mpr ⟨next, failed, rfl⟩

end

section
variable [Sha256]

/-- How a write of a frame ends. -/
structure WritesFrame (outcome : WriteOutcome) (file frame : List UInt8)
    (result : EStateM.Result (Fault ε) (List UInt8) UInt64) : Prop where
  complete : outcome = .complete -> ∃ sequence, result = .ok sequence (file ++ frame)
  failed : forall operation count, outcome = .failed operation count ->
    ∃ fault, result = .error fault (file ++ frame.take count)

/-- What a store relies on: the file of a valid history is scanned to its entries,
also with a partial frame behind it, and an appended transfer is one more frame. -/
structure LawfulJournal (reference : NullifierSparseTreeReferenceV1)
    (journal : PrivateJournal candidate ε entry noted) where
  fileOf : List entry -> List UInt8
  Valid : CandidatePrivateLedgerStateV1 candidate -> List entry -> Prop
  Cut : List UInt8 -> Prop
  fileOf_nil : fileOf [] = []
  valid_nil : forall base, Valid base []
  scanned : forall {base entries}, Valid base entries ->
    journal.scanRecoverableTail (fileOf entries) = .ok (entries, none)
  scannedCut : forall {base entries rest}, Valid base entries -> Cut rest ->
    ∃ tail, journal.scanRecoverableTail (fileOf entries ++ rest) = .ok (entries, some tail) /\
      journal.truncateVerifiedIncompleteTail tail (fileOf entries ++ rest) =
        .ok () (fileOf entries)
  recovered : forall {base entries file tail}, Valid base entries ->
    journal.scanRecoverableTail file = .ok (entries, tail) ->
    journal.recoverFrom base file = .ok (entries, tail)
  appended : forall {base entries successor intent} (outcome : WriteOutcome) (note : noted),
    Valid base entries -> Restorable reference (latestState journal base entries) ->
    Transfers reference (latestState journal base entries) successor intent ->
    (∃ fault, journal.append outcome (latestState journal base entries) successor intent note
        (fileOf entries) = .error fault (fileOf entries)) ∨
      ∃ added frame, Valid base (entries ++ [added]) /\ journal.state added = successor /\
        FitsRecord successor /\ fileOf (entries ++ [added]) = fileOf entries ++ frame /\
        (forall count, 0 < count -> count < frame.length -> Cut (frame.take count)) /\
        WritesFrame outcome (fileOf entries) frame (journal.append outcome
          (latestState journal base entries) successor intent note (fileOf entries))

end

section
variable [Sha256] {reference : NullifierSparseTreeReferenceV1}
  {journal : PrivateJournal candidate ε entry noted}
  {base state : CandidatePrivateLedgerStateV1 candidate} {entries : List entry}
  {rest : List UInt8} (baseRestorable : Restorable reference base) (baseFits : FitsRecord base)

section
variable (journal)

theorem readState_recordOf (restorable : Restorable reference state) (fits : FitsRecord state) :
    readState reference journal (some (recordOf state)) = .ok state := by
  rw [readState, if_neg (Nat.not_lt.mpr (restorable.length_recordOf_le fits)),
    decodeCandidatePrivateLedgerState_eq_ok.mpr ⟨restorable, fits, rfl⟩]
  rfl

theorem publishState_complete (restorable : Restorable reference state) (fits : FitsRecord state)
    (file : Option (List UInt8)) :
    publishState reference journal .complete state file = .ok () (some (recordOf state)) := by
  have encoded := restorable.encode_eq fits
  rw [publishState, encoded]
  change (check (readState reference journal (some (recordOf state))) >>= _) _ = _
  rw [readState_recordOf journal restorable fits]
  change (check ((encodeCandidatePrivateLedgerState state).mapError _) >>= _) _ = _
  rw [encoded]
  change (if recordOf state ≠ recordOf state then _ else _ : EStateM _ _ _) _ = _
  rw [if_neg (not_not.mpr rfl)]
  rfl

/-- A failed publication leaves the old file or the new one. -/
theorem publishState_failed (restorable : Restorable reference state) (fits : FitsRecord state)
    (file : Option (List UInt8)) (operation : String) (replaced : Bool) :
    publishState reference journal (.failed operation replaced) state file =
      .error (.error (.io operation)) (if replaced then some (recordOf state) else file) := by
  rw [publishState, restorable.encode_eq fits]
  rfl

/-- How a publication of a ledger can end. -/
theorem publishState_cases (restorable : Restorable reference state) (fits : FitsRecord state)
    (file : Option (List UInt8)) (outcome : PublishOutcome) :
    publishState reference journal outcome state file = .ok () (some (recordOf state)) ∨
      outcome ≠ .complete /\ ∃ fault final,
        publishState reference journal outcome state file = .error fault final /\
          (final = file ∨ final = some (recordOf state)) := by
  cases outcome with
  | complete => exact Or.inl (publishState_complete journal restorable fits file)
  | failed operation replaced =>
    refine Or.inr ⟨nofun, _, _, publishState_failed journal restorable fits file operation
      replaced, ?_⟩
    cases replaced with
    | false => exact Or.inl rfl
    | true => exact Or.inr rfl

theorem compareBase_recordOf (restorable : Restorable reference state) (fits : FitsRecord state) :
    compareBase reference journal (recordOf state) state = .ok () := by
  rw [compareBase, readState_recordOf journal restorable fits]
  exact Except.refuse_eq_ok.mpr ⟨not_not.mpr rfl, rfl⟩

/-- How writing or comparing the base of a ledger can end. -/
theorem writeOrValidateJournalBase_cases (restorable : Restorable reference state)
    (fits : FitsRecord state) {file} (isBase : file = some (recordOf state) ∨ file = none)
    (outcome : PublishOutcome) :
    writeOrValidateJournalBase reference journal outcome state file =
        .ok () (some (recordOf state)) ∨
      outcome ≠ .complete /\ ∃ fault final,
        writeOrValidateJournalBase reference journal outcome state file = .error fault final /\
          (final = file ∨ final = some (recordOf state)) := by
  rw [writeOrValidateJournalBase, get_bind]
  rcases isBase with rfl | rfl
  · exact Or.inl (check_eq_ok.mpr ⟨compareBase_recordOf journal restorable fits, rfl⟩)
  · exact publishState_cases journal restorable fits none outcome

end

/-! ## What the files hold -/

/-- The files of a store: the base, a valid history with at most one partial frame
behind it, and a cache with some ledger. -/
structure Stored (lawful : LawfulJournal reference journal)
    (base : CandidatePrivateLedgerStateV1 candidate) (files : StoreFiles) (entries : List entry)
    (rest : List UInt8) : Prop where
  valid : lawful.Valid base entries
  journalFile : files.journal = some (lawful.fileOf entries ++ rest)
  tail : rest = [] ∨ lawful.Cut rest
  restorable : Restorable reference (latestState journal base entries)
  fits : FitsRecord (latestState journal base entries)
  baseFile : files.base = some (recordOf base) ∨ files.base = none /\ entries = [] /\ rest = []
  cacheFile : ∃ cached, Restorable reference cached /\ FitsRecord cached /\
    files.cache = some (recordOf cached) /\ (entries = [] -> cached = base)

/-- The ledger in memory is the latest one of the history. -/
def Current (journal : PrivateJournal candidate ε entry noted)
    (base : CandidatePrivateLedgerStateV1 candidate) (entries : List entry) (rest : List UInt8)
    (state : CandidatePrivateLedgerStateV1 candidate) : Prop :=
  rest = [] /\ state = latestState journal base entries

/-- The journal has a partial frame, or its last entry leads to a ledger with
another identity than the one in memory. -/
def Blocked (lawful : LawfulJournal reference journal) (entries : List entry) (rest : List UInt8)
    (state : CandidatePrivateLedgerStateV1 candidate) : Prop :=
  lawful.Cut rest ∨
    rest = [] /\ ∃ before last, entries = before ++ [last] /\
      (journal.state last).anchor.stateId ≠ state.anchor.stateId

namespace Stored

variable {lawful : LawfulJournal reference journal}
  (stored : Stored lawful base files entries rest)

include stored in
theorem journalBytes : files.journalBytes = lawful.fileOf entries ++ rest := by
  rw [StoreFiles.journalBytes, stored.journalFile]
  rfl

include stored in
theorem baseFile_of_nonempty (nonempty : entries ≠ []) : files.base = some (recordOf base) := by
  rcases stored.baseFile with present | ⟨_, none, _⟩
  · exact present
  · exact absurd none nonempty

theorem scanned (stored : Stored lawful base files entries []) :
    journal.scanRecoverableTail files.journalBytes = .ok (entries, none) := by
  rw [stored.journalBytes, List.append_nil]
  exact lawful.scanned stored.valid

include stored in
/-- Replacing the cache by the record of another ledger. -/
theorem withCache {file}
    (kept : file = files.cache ∨ file = some (recordOf (latestState journal base entries))) :
    Stored lawful base { files with cache := file } entries rest := by
  refine ⟨stored.valid, stored.journalFile, stored.tail, stored.restorable, stored.fits,
    stored.baseFile, ?_⟩
  rcases kept with rfl | rfl
  · exact stored.cacheFile
  · refine ⟨_, stored.restorable, stored.fits, rfl, ?_⟩
    intro none
    rw [none]
    rfl

/-- One more entry, or a part of its frame, behind a history whose base is stored. -/
theorem withJournal (stored : Stored lawful base files entries [])
    (present : files.base = some (recordOf base)) {later tail} (valid : lawful.Valid base later)
    (isTail : tail = [] ∨ lawful.Cut tail)
    (restorable : Restorable reference (latestState journal base later))
    (fits : FitsRecord (latestState journal base later)) (kept : later = [] -> entries = []) :
    Stored lawful base { files with journal := some (lawful.fileOf later ++ tail) } later tail := by
  refine ⟨valid, rfl, isTail, restorable, fits, Or.inl present, ?_⟩
  rcases stored.cacheFile with ⟨cached, cachedRestorable, cachedFits, isCache, first⟩
  exact ⟨cached, cachedRestorable, cachedFits, isCache, fun none => first (kept none)⟩

include stored in
theorem prepareJournalBase_of_cut (isCut : lawful.Cut rest) (outcome : PublishOutcome)
    (state : CandidatePrivateLedgerStateV1 candidate) :
    ∃ fault, prepareJournalBase reference journal outcome state files = .error fault files := by
  rcases lawful.scannedCut stored.valid isCut with ⟨tail, isScan, _⟩
  rw [prepareJournalBase, get_bind, stored.journalBytes, isScan]
  exact ⟨_, rfl⟩

include baseRestorable baseFits

include stored in
theorem readJournalBase_eq (nonempty : entries ≠ []) :
    readJournalBase reference journal files.base = .ok base := by
  rw [stored.baseFile_of_nonempty nonempty]
  exact readState_recordOf journal baseRestorable baseFits

/-- With an entry, the identity of the latest ledger decides. -/
theorem prepareJournalBase_of_last {before last}
    (stored : Stored lawful base files (before ++ [last]) []) (outcome : PublishOutcome)
    (state : CandidatePrivateLedgerStateV1 candidate) :
    prepareJournalBase reference journal outcome state files =
      if (journal.state last).anchor.stateId ≠ state.anchor.stateId then
        .error (.error (.journalCacheMismatch (journal.state last).anchor.stateId
          state.anchor.stateId)) files else .ok () files := by
  have isScan := stored.scanned
  rw [prepareJournalBase, get_bind, isScan]
  refine (bind_of_ok rfl).trans ?_
  simp only [Option.isSome_none, Bool.false_eq_true, if_false, List.getLast?_concat]
  rw [stored.readJournalBase_eq baseRestorable baseFits (List.concat_ne_nil _ _)]
  change (check ((journal.recoverFrom base files.journalBytes).mapError _) >>= _) files = _
  rw [lawful.recovered stored.valid isScan]
  refine (bind_of_ok rfl).trans ?_
  simp only [List.getLast?_concat]
  by_cases same : (journal.state last).anchor.stateId = state.anchor.stateId
  · simp only [same, ne_eq, not_true, if_false]
    rfl
  · simp only [same, ne_eq, not_false_iff, if_true]
    rfl

include stored in
/-- A blocked store stops before anything is written. -/
theorem prepareJournalBase_of_blocked (blocked : Blocked lawful entries rest state)
    (outcome : PublishOutcome) :
    ∃ fault, prepareJournalBase reference journal outcome state files = .error fault files := by
  rcases blocked with isCut | ⟨rfl, before, last, rfl, different⟩
  · exact stored.prepareJournalBase_of_cut isCut outcome state
  · rw [stored.prepareJournalBase_of_last baseRestorable baseFits, if_pos different]
    exact ⟨_, rfl⟩

/-- Without an entry, the base is written or compared. -/
theorem prepareJournalBase_of_nil (stored : Stored lawful base files [] [])
    (outcome : PublishOutcome) :
    prepareJournalBase reference journal outcome base files =
        .ok () { files with base := some (recordOf base) } ∨
      outcome ≠ .complete /\ ∃ fault file,
        prepareJournalBase reference journal outcome base files =
            .error fault { files with base := file } /\
          (file = files.base ∨ file = some (recordOf base)) := by
  have prepared : prepareJournalBase reference journal outcome base files =
      onBase (writeOrValidateJournalBase reference journal outcome base) files := by
    rw [prepareJournalBase, get_bind, stored.scanned]
    rfl
  have isBase : files.base = some (recordOf base) ∨ files.base = none :=
    stored.baseFile.imp_right And.left
  rw [prepared]
  rcases writeOrValidateJournalBase_cases journal baseRestorable baseFits isBase outcome with
    written | ⟨incomplete, fault, file, failed, kept⟩
  · exact Or.inl (onPart_eq_ok.mpr ⟨_, written, rfl⟩)
  · exact Or.inr ⟨incomplete, fault, file, onPart_eq_error.mpr ⟨file, failed, rfl⟩, kept⟩

/-- The files after the base was prepared for the latest ledger. -/
theorem prepareJournalBase_cases (stored : Stored lawful base files entries [])
    (outcome : PublishOutcome) :
    ∃ next, Stored lawful base next entries [] /\ next.journal = files.journal /\
      next.cache = files.cache /\
      (prepareJournalBase reference journal outcome (latestState journal base entries) files =
          .ok () next /\ next.base = some (recordOf base) ∨
        outcome ≠ .complete /\ ∃ fault, prepareJournalBase reference journal outcome
          (latestState journal base entries) files = .error fault next) := by
  rcases List.eq_nil_or_concat' entries with rfl | ⟨before, last, rfl⟩
  · have withBase {file : Option (List UInt8)}
        (kept : file = files.base ∨ file = some (recordOf base)) :
        Stored lawful base { files with base := file } [] [] := by
      refine ⟨stored.valid, stored.journalFile, stored.tail, stored.restorable, stored.fits, ?_,
        stored.cacheFile⟩
      rcases kept with rfl | rfl
      · exact stored.baseFile
      · exact Or.inl rfl
    rcases stored.prepareJournalBase_of_nil baseRestorable baseFits outcome with
      prepared | ⟨incomplete, fault, file, failed, kept⟩
    · exact ⟨_, withBase (Or.inr rfl), rfl, rfl, Or.inl ⟨prepared, rfl⟩⟩
    · exact ⟨_, withBase kept, rfl, rfl, Or.inr ⟨incomplete, fault, failed⟩⟩
  · refine ⟨files, stored, rfl, rfl, Or.inl ⟨?_, stored.baseFile_of_nonempty (List.concat_ne_nil _ _)⟩⟩
    rw [stored.prepareJournalBase_of_last baseRestorable baseFits, latestState_append,
      if_neg (not_not.mpr rfl)]

end Stored

/-! ## Transfers -/

section
variable {lawful : LawfulJournal reference journal}

/-- An entry that a transfer adds to a history, and its frame. -/
structure Added (lawful : LawfulJournal reference journal)
    (base : CandidatePrivateLedgerStateV1 candidate) (entries : List entry)
    (intent : PrivateTransferIntentV2) (added : entry) (frame : List UInt8) : Prop where
  valid : lawful.Valid base (entries ++ [added])
  transfers : Transfers reference (latestState journal base entries) (journal.state added) intent
  fits : FitsRecord (journal.state added)
  file : lawful.fileOf (entries ++ [added]) = lawful.fileOf entries ++ frame
  cuts : forall count, 0 < count -> count < frame.length -> lawful.Cut (frame.take count)

/-- How a transfer on the latest ledger can end: refused with nothing written,
interrupted in the journal or at the cache, or accepted. -/
inductive TransferEnds (lawful : LawfulJournal reference journal)
    (base : CandidatePrivateLedgerStateV1 candidate) (files : StoreFiles) (entries : List entry)
    (transfer : StoreTransfer A noted) :
    EStateM.Result (Fault (PrivateStoreError ε)) (PrivateStore candidate)
      CandidatePrivateTransferAdmissionReceiptV1 -> Prop
  | refused {fault next} (stored : Stored lawful base next entries [])
      (same : next.journal = files.journal) :
      TransferEnds lawful base files entries transfer
        (.error fault ⟨next, latestState journal base entries⟩)
  | written {fault next added frame operation count}
      (isAdded : Added lawful base entries transfer.request.intent added frame)
      (outcome : transfer.writeOutcome = .failed operation count)
      (stored : Stored lawful base next entries []) (present : next.base = some (recordOf base))
      (same : next.journal = files.journal) :
      TransferEnds lawful base files entries transfer
        (.error fault ⟨{ next with journal := some (lawful.fileOf entries ++ frame.take count) },
          latestState journal base entries⟩)
  | unpublished {fault next added frame}
      (isAdded : Added lawful base entries transfer.request.intent added frame)
      (outcome : transfer.writeOutcome = .complete)
      (incomplete : transfer.cacheOutcome ≠ .complete)
      (stored : Stored lawful base next (entries ++ [added]) []) :
      TransferEnds lawful base files entries transfer
        (.error fault ⟨next, latestState journal base entries⟩)
  | accepted {receipt next added frame}
      (isAdded : Added lawful base entries transfer.request.intent added frame)
      (stored : Stored lawful base next (entries ++ [added]) []) :
      TransferEnds lawful base files entries transfer (.ok receipt ⟨next, journal.state added⟩)

variable {intent : PrivateTransferIntentV2} {added : entry} {frame : List UInt8}

theorem Added.restorable (isAdded : Added lawful base entries intent added frame)
    (restorable : Restorable reference (latestState journal base entries)) :
    Restorable reference (journal.state added) := by
  rcases isAdded.transfers with ⟨receipt, accepted⟩
  exact (restorable.continues_of_applyTransfer accepted).1

variable (stored : Stored lawful base files entries [])

include stored in
theorem Stored.withAdded (present : files.base = some (recordOf base))
    (isAdded : Added lawful base entries intent added frame) :
    Stored lawful base { files with journal := some (lawful.fileOf entries ++ frame) }
      (entries ++ [added]) [] := by
  have restorable := isAdded.restorable stored.restorable
  have whole := stored.withJournal present isAdded.valid (Or.inl rfl)
    (by rw [latestState_append]; exact restorable)
    (by rw [latestState_append]; exact isAdded.fits)
    (fun none => absurd none (List.concat_ne_nil _ _))
  rw [isAdded.file, List.append_nil] at whole
  exact whole

include baseRestorable baseFits in
/-- A blocked store refuses every transfer and is left as it is. -/
theorem Stored.applyTransfer_of_blocked (stored : Stored lawful base files entries rest)
    (blocked : Blocked lawful entries rest state) (transfer : StoreTransfer A noted) :
    ∃ fault, applyTransfer reference journal transfer ⟨files, state⟩ =
      .error fault ⟨files, state⟩ := by
  rw [applyTransfer, get_bind]
  cases CandidatePrivateLedgerStateV1.applyTransfer reference transfer.request transfer.authorizer
    state with
  | error reason _ => exact ⟨_, rfl⟩
  | ok receipt successor =>
    rcases stored.prepareJournalBase_of_blocked baseRestorable baseFits blocked
      transfer.baseOutcome with ⟨fault, failed⟩
    exact ⟨fault, bind_of_error (onFiles_of_error failed)⟩

include stored in
/-- What the journal leaves in the files when it appends. -/
theorem Stored.append_eq {successor} (transfer : StoreTransfer A noted) {result}
    (appended : journal.append transfer.writeOutcome (latestState journal base entries) successor
      transfer.request.intent transfer.noted (lawful.fileOf entries) = result) :
    onFiles (onJournal (mapFailure (Fault.map PrivateStoreError.journal) (journal.append
        transfer.writeOutcome (latestState journal base entries) successor transfer.request.intent
        transfer.noted))) ⟨files, latestState journal base entries⟩ = match result with
      | .ok sequence file => .ok sequence
          ⟨{ files with journal := some file }, latestState journal base entries⟩
      | .error fault file => .error (Fault.map .journal fault)
          ⟨{ files with journal := some file }, latestState journal base entries⟩ := by
  have bytes := stored.journalBytes
  rw [List.append_nil] at bytes
  cases result with
  | ok sequence file =>
    refine onPart_eq_ok.mpr ⟨_, onPart_eq_ok.mpr ⟨file, mapFailure_eq_ok.mpr ?_, rfl⟩, rfl⟩
    rw [bytes]
    exact appended
  | error fault file =>
    refine onPart_eq_error.mpr
      ⟨_, onPart_eq_error.mpr ⟨file, mapFailure_eq_error.mpr ⟨fault, ?_, rfl⟩, rfl⟩, rfl⟩
    rw [bytes]
    exact appended

include stored in
/-- After the whole frame was written, the cache and the memory follow. -/
theorem Stored.publish_ends (present : files.base = some (recordOf base))
    {transfer : StoreTransfer A noted}
    (isAdded : Added lawful base entries transfer.request.intent added frame)
    (isComplete : transfer.writeOutcome = .complete) {start : StoreFiles}
    (receipt : CandidatePrivateTransferAdmissionReceiptV1) :
    let result := (do
      onFiles (onCache (publishState reference journal transfer.cacheOutcome (journal.state added)))
      modify (fun store => { store with state := journal.state added })
      return receipt : EStateM (Fault (PrivateStoreError ε)) (PrivateStore candidate) _)
        ⟨{ files with journal := some (lawful.fileOf entries ++ frame) },
          latestState journal base entries⟩
    TransferEnds lawful base start entries transfer result /\
      (finalState result).files.journal = some (lawful.fileOf entries ++ frame) := by
  intro result
  have whole := stored.withAdded present isAdded
  have restorable := isAdded.restorable stored.restorable
  have latest : some (recordOf (journal.state added)) =
      some (recordOf (latestState journal base (entries ++ [added]))) := by
    rw [latestState_append]
  rcases publishState_cases journal restorable isAdded.fits files.cache transfer.cacheOutcome with
    published | ⟨incomplete, fault, final, failed, kept⟩
  · have isResult : result = _ :=
      bind_of_ok (onFiles_of_ok (onPart_eq_ok.mpr ⟨_, published, rfl⟩))
    rw [isResult]
    exact ⟨.accepted isAdded (whole.withCache (Or.inr latest)), rfl⟩
  · have isResult : result = _ :=
      bind_of_error (onFiles_of_error (onPart_eq_error.mpr ⟨final, failed, rfl⟩))
    rw [isResult]
    exact ⟨.unpublished isAdded isComplete incomplete
      (whole.withCache (kept.imp_right (fun same => same.trans latest))), rfl⟩

def writtenBytes (outcome : WriteOutcome) (frame : List UInt8) : List UInt8 :=
  match outcome with
  | .complete => frame
  | .failed _ count => frame.take count

/-- A transfer whose frame the journal writes leaves what the write leaves of it. -/
theorem Stored.applyTransfer_of_appended {next : StoreFiles} (transfer : StoreTransfer A noted)
    {receipt : CandidatePrivateTransferAdmissionReceiptV1}
    (accepted : CandidatePrivateLedgerStateV1.applyTransfer reference transfer.request
      transfer.authorizer (latestState journal base entries) = .ok receipt (journal.state added))
    (prepared : prepareJournalBase reference journal transfer.baseOutcome
      (latestState journal base entries) files = .ok () next)
    (nextStored : Stored lawful base next entries []) (present : next.base = some (recordOf base))
    (same : next.journal = files.journal)
    (isAdded : Added lawful base entries transfer.request.intent added frame)
    (writes : WritesFrame transfer.writeOutcome (lawful.fileOf entries) frame (journal.append
      transfer.writeOutcome (latestState journal base entries) (journal.state added)
      transfer.request.intent transfer.noted (lawful.fileOf entries))) :
    let result := applyTransfer reference journal transfer ⟨files, latestState journal base entries⟩
    TransferEnds lawful base files entries transfer result /\
      (finalState result).files.journal =
        some (lawful.fileOf entries ++ writtenBytes transfer.writeOutcome frame) := by
  intro result
  change TransferEnds lawful base files entries transfer (applyTransfer _ _ _ _) /\
    (finalState (applyTransfer _ _ _ _)).files.journal = _
  rw [applyTransfer, get_bind, accepted]
  change TransferEnds lawful base files entries transfer ((onFiles _ >>= _) _) /\
    (finalState ((onFiles _ >>= _) _)).files.journal = _
  rw [bind_of_ok (onFiles_of_ok prepared)]
  rcases transfer.writeOutcome.complete_or_failed with isComplete | ⟨operation, count, isFailed⟩
  · rcases writes.complete isComplete with ⟨sequence, written⟩
    rw [bind_of_ok (nextStored.append_eq transfer written), isComplete]
    exact nextStored.publish_ends present isAdded isComplete receipt
  · rcases writes.failed operation count isFailed with ⟨fault, failed⟩
    rw [bind_of_error (nextStored.append_eq transfer failed), isFailed]
    exact ⟨.written isAdded isFailed nextStored present same, rfl⟩

include stored baseRestorable baseFits in
theorem Stored.applyTransfer_ends (transfer : StoreTransfer A noted) :
    TransferEnds lawful base files entries transfer
      (applyTransfer reference journal transfer ⟨files, latestState journal base entries⟩) := by
  cases outcome : CandidatePrivateLedgerStateV1.applyTransfer reference transfer.request
    transfer.authorizer (latestState journal base entries) with
  | error reason _ =>
    rw [applyTransfer, get_bind, outcome]
    exact .refused stored rfl
  | ok receipt successor =>
    have transfers : Transfers reference (latestState journal base entries) successor
        transfer.request.intent := ⟨receipt, applyTransfer_of_accepted outcome⟩
    rcases stored.prepareJournalBase_cases baseRestorable baseFits transfer.baseOutcome with
      ⟨next, nextStored, sameJournal, _, ⟨prepared, present⟩ | ⟨_, fault, failed⟩⟩
    · rcases lawful.appended transfer.writeOutcome transfer.noted stored.valid stored.restorable
        transfers with ⟨fault, failed⟩ | ⟨added, frame, valid, rfl, fits, isFile, cuts, writes⟩
      · rw [applyTransfer, get_bind, outcome]
        change TransferEnds lawful base files entries transfer ((onFiles _ >>= _) _)
        rw [bind_of_ok (onFiles_of_ok prepared), bind_of_error (nextStored.append_eq transfer failed)]
        refine .refused ?_ ?_
        · have unchanged := nextStored.journalFile
          rw [List.append_nil] at unchanged
          rw [← unchanged]
          exact nextStored
        · rw [← sameJournal, nextStored.journalFile, List.append_nil]
      · exact (Stored.applyTransfer_of_appended transfer outcome prepared nextStored present
          sameJournal ⟨valid, transfers, fits, isFile, cuts⟩ writes).1
    · rw [applyTransfer, get_bind, outcome]
      change TransferEnds lawful base files entries transfer ((onFiles _ >>= _) _)
      rw [bind_of_error (onFiles_of_error failed)]
      exact .refused nextStored sameJournal

include stored in
theorem Stored.written_cases (present : files.base = some (recordOf base))
    (isAdded : Added lawful base entries intent added frame) (count : Nat) :
    let next := { files with journal := some (lawful.fileOf entries ++ frame.take count) }
    Stored lawful base next entries [] /\ next.journal = files.journal ∨
      (count < frame.length /\ Stored lawful base next entries (frame.take count) /\
        lawful.Cut (frame.take count)) ∨
      frame.length <= count /\ Stored lawful base next (entries ++ [added]) [] := by
  intro next
  by_cases whole : frame.length <= count
  · refine Or.inr (Or.inr ⟨whole, ?_⟩)
    have all := stored.withAdded present isAdded
    rw [← List.take_of_length_le whole] at all
    exact all
  · by_cases none : count = 0
    · left
      have unchanged : next = files := by
        have isJournal := stored.journalFile
        subst none
        change { files with journal := some (lawful.fileOf entries ++ []) } = files
        rw [← isJournal]
      rw [unchanged]
      exact ⟨stored, rfl⟩
    · have isCut := isAdded.cuts count (Nat.pos_of_ne_zero none) (Nat.not_le.mp whole)
      exact Or.inr (Or.inl ⟨Nat.not_le.mp whole, stored.withJournal present stored.valid
        (Or.inr isCut) stored.restorable stored.fits id, isCut⟩)

/-- A whole frame behind the ledger in memory blocks the store, unless two
identities collide. -/
theorem Added.blocked_or_collides (isAdded : Added lawful base entries intent added frame)
    (restorable : Restorable reference (latestState journal base entries)) :
    Blocked lawful (entries ++ [added]) [] (latestState journal base entries) ∨
      Collides Sha256.digest (identityInput (journal.state added).anchor)
        (identityInput (latestState journal base entries).anchor) := by
  rcases isAdded.transfers with ⟨receipt, accepted⟩
  rcases restorable.continues_of_applyTransfer accepted with ⟨nextRestorable, continues⟩
  by_cases same : (journal.state added).anchor.stateId =
      (latestState journal base entries).anchor.stateId
  · exact Or.inr (restorable.coherent.collides_of_continues nextRestorable.coherent continues same)
  · exact Or.inl (Or.inr ⟨rfl, entries, added, rfl, same⟩)

end

section
variable {lawful : LawfulJournal reference journal}

/-- The scan of the journal, and the files without its partial frame. -/
theorem Stored.scanned_with_tail (stored : Stored lawful base files entries rest) :
    ∃ tail, journal.scanRecoverableTail files.journalBytes = .ok (entries, tail) /\
      truncateTail journal tail files =
        .ok () { files with journal := some (lawful.fileOf entries) } /\
      (tail.isSome = true -> rest ≠ []) := by
  rw [stored.journalBytes]
  rcases stored.tail with rfl | isCut
  · refine ⟨none, ?_, ?_, nofun⟩
    · rw [List.append_nil]
      exact lawful.scanned stored.valid
    · have isJournal := stored.journalFile
      rw [List.append_nil] at isJournal
      rw [← isJournal]
      rfl
  · rcases lawful.scannedCut stored.valid isCut with ⟨tail, isScan, truncated⟩
    refine ⟨some tail, isScan, ?_, ?_⟩
    · change onJournal (mapFailure _ (journal.truncateVerifiedIncompleteTail tail)) files = _
      refine onPart_eq_ok.mpr ⟨_, mapFailure_eq_ok.mpr ?_, rfl⟩
      rw [stored.journalBytes]
      exact truncated
    · intro _ isEmpty
      rw [isEmpty, List.append_nil, lawful.scanned stored.valid] at isScan
      cases isScan

theorem Stored.truncated (stored : Stored lawful base files entries rest) :
    Stored lawful base { files with journal := some (lawful.fileOf entries) } entries [] := by
  refine ⟨stored.valid, ?_, Or.inl rfl, stored.restorable, stored.fits, ?_, stored.cacheFile⟩
  · rw [List.append_nil]
  · rcases stored.baseFile with present | ⟨missing, none, _⟩
    · exact Or.inl present
    · exact Or.inr ⟨missing, none, rfl⟩

include baseRestorable baseFits

theorem Stored.recoverAuthoritativeState_eq (stored : Stored lawful base files entries rest)
    {cached} (first : entries = [] -> cached = base) :
    recoverAuthoritativeState reference journal (some cached) files =
      .ok (latestState journal base entries)
        { files with journal := some (lawful.fileOf entries) } := by
  rcases stored.scanned_with_tail with ⟨tail, isScan, truncated, someTail⟩
  rw [recoverAuthoritativeState, get_bind, isScan]
  rcases List.eq_nil_or_concat' entries with rfl | ⟨before, last, rfl⟩
  · rw [first rfl]
    refine (bind_of_ok rfl).trans ?_
    dsimp only [List.getLast?_nil]
    rcases stored.baseFile with present | ⟨missing, _, isEmpty⟩
    · rw [present]
      change (check (compareBase reference journal (recordOf base) base) >>= _) files = _
      rw [compareBase_recordOf journal baseRestorable baseFits]
      change (truncateTail journal tail >>= _) files = _
      rw [bind_of_ok truncated, present]
      rfl
    · have noTail : tail.isSome = false := by
        apply Bool.eq_false_iff.mpr
        intro isSome
        exact someTail isSome isEmpty
      have isJournal := stored.journalFile
      rw [isEmpty, List.append_nil] at isJournal
      rw [← isJournal, missing]
      change (if tail.isSome = true then _ else _ : EStateM _ _ _) files = _
      rw [if_neg (Bool.eq_false_iff.mp noTail), ← missing]
      rfl
  · refine (bind_of_ok rfl).trans ?_
    simp only [List.getLast?_concat]
    rw [stored.readJournalBase_eq baseRestorable baseFits (List.concat_ne_nil _ _)]
    change (check ((journal.recoverFrom base files.journalBytes).mapError _) >>= _) files = _
    rw [lawful.recovered stored.valid isScan]
    refine (bind_of_ok rfl).trans ?_
    simp only [List.getLast?_concat]
    rw [bind_of_ok truncated, latestState_append]
    rfl

/-- Opening removes the partial frame and gives the latest ledger, if the cache can
be published. -/
theorem Stored.openStore_cases (stored : Stored lawful base files entries rest)
    (outcome : PublishOutcome) :
    ∃ next, Stored lawful base next entries [] /\
      (openStore reference journal outcome files = .ok (latestState journal base entries) next ∨
        outcome ≠ .complete /\ ∃ fault, openStore reference journal outcome files =
          .error fault next) := by
  rcases stored.scanned_with_tail with ⟨tail, isScan, _⟩
  rcases stored.cacheFile with ⟨cached, cachedRestorable, cachedFits, isCache, first⟩
  have handle : { files with journal := some files.journalBytes } = files := by
    rw [stored.journalBytes, ← stored.journalFile]
  have isRead := readState_recordOf journal cachedRestorable cachedFits
  rw [← isCache] at isRead
  have opened : openStore reference journal outcome files = (do
      if (some cached).map (fun cached => cached.anchor.stateId) ≠
          some (latestState journal base entries).anchor.stateId then
        onCache (publishState reference journal outcome (latestState journal base entries))
        return latestState journal base entries
      else
        return latestState journal base entries :
      EStateM (Fault (PrivateStoreError ε)) StoreFiles (CandidatePrivateLedgerStateV1 candidate))
        { files with journal := some (lawful.fileOf entries) } := by
    have created : (modify (fun files => { files with journal := some files.journalBytes }) :
        EStateM (Fault (PrivateStoreError ε)) StoreFiles PUnit) files = .ok () files := by
      change EStateM.Result.ok _ { files with journal := some files.journalBytes } = _
      rw [handle]
    rw [openStore, bind_of_ok created, get_bind, isScan]
    refine (bind_of_ok rfl).trans ?_
    -- with or without an entry, the cache is read
    cases entries.getLast? <;> simp only [isRead] <;>
      exact bind_of_ok (stored.recoverAuthoritativeState_eq baseRestorable baseFits first)
  rw [opened]
  by_cases same : (some cached).map (fun cached => cached.anchor.stateId) =
      some (latestState journal base entries).anchor.stateId
  · rw [if_neg (not_not.mpr same)]
    exact ⟨_, stored.truncated, Or.inl rfl⟩
  rw [if_pos same]
  rcases publishState_cases journal stored.restorable stored.fits files.cache outcome with
    published | ⟨incomplete, fault, final, failed, kept⟩
  · exact ⟨_, stored.truncated.withCache (Or.inr rfl),
      Or.inl (bind_of_ok (onPart_eq_ok.mpr ⟨_, published, rfl⟩))⟩
  · exact ⟨_, stored.truncated.withCache kept, Or.inr ⟨incomplete, fault,
      bind_of_error (onPart_eq_error.mpr ⟨final, failed, rfl⟩)⟩⟩

/-- The entries that an open store returns. -/
theorem Stored.entriesOf_eq (stored : Stored lawful base files entries []) :
    entriesOf reference journal files = .ok entries := by
  have isScan := stored.scanned
  rw [entriesOf, isScan]
  cases entries with
  | nil => rfl
  | cons entry others =>
    change (readJournalBase reference journal files.base >>= _ : Except _ _) = _
    rw [stored.readJournalBase_eq baseRestorable baseFits (List.cons_ne_nil _ _)]
    change ((journal.recoverFrom base files.journalBytes).mapError _ >>= _ : Except _ _) = _
    rw [lawful.recovered stored.valid isScan]
    rfl

end

section
variable {lawful : LawfulJournal reference journal}
  {outcome : PublishOutcome} {file final : Option (List UInt8)} {done : Unit}

theorem complete_of_publishState
    (published : publishState reference journal outcome state file = .ok done final) :
    outcome = .complete := by
  cases outcome with
  | complete => rfl
  | failed operation replaced =>
    rcases bind_eq_ok.mp published with ⟨bytes, middle, _, later⟩
    cases later

/-- A published ledger can be read back. -/
theorem of_publishState_eq_ok
    (published : publishState reference journal outcome state file = .ok done final) :
    ∃ bytes rebuilt, encodeCandidatePrivateLedgerState state = .ok bytes /\
      decodeCandidatePrivateLedgerState reference bytes =
        .ok (rebuilt : CandidatePrivateLedgerStateV1 candidate) /\ final = some bytes := by
  rcases bind_eq_ok.mp published with ⟨bytes, middle, encodes, later⟩
  rcases check_eq_ok.mp encodes with ⟨isEncoded, rfl⟩
  rw [complete_of_publishState published] at later
  rcases bind_eq_ok.mp later with ⟨_, _, isSet, later⟩
  cases isSet
  rcases bind_eq_ok.mp later with ⟨rebuilt, _, reads, later⟩
  rcases check_eq_ok.mp reads with ⟨isRead, rfl⟩
  rcases Except.refuse_eq_ok.mp isRead with ⟨_, isDecoded⟩
  rcases bind_eq_ok.mp later with ⟨again, _, isAgain, later⟩
  rcases check_eq_ok.mp isAgain with ⟨_, rfl⟩
  refine ⟨bytes, rebuilt, Except.mapError_eq_ok.mp isEncoded, Except.mapError_eq_ok.mp isDecoded, ?_⟩
  split at later
  · cases later
  · cases later
    rfl

variable {opened : CandidatePrivateLedgerStateV1 candidate}

/-- A new store holds its ledger and no entries. -/
theorem stored_of_initializeStore (coherent : Coherent reference state)
    (initialized : initializeStore reference journal outcome state files = .ok opened next) :
    opened = state /\ Restorable reference state /\ FitsRecord state /\
      Stored lawful state next [] [] := by
  rw [initializeStore, get_bind] at initialized
  split at initialized
  · cases initialized
  split at initialized
  · cases initialized
  rename_i fresh
  rcases bind_eq_ok.mp initialized with ⟨_, middle, publishes, later⟩
  rcases onPart_eq_ok.mp publishes with ⟨file, published, rfl⟩
  cases later
  rcases of_publishState_eq_ok published with ⟨bytes, rebuilt, isEncoded, isDecoded, rfl⟩
  rcases coherent.restorable isEncoded isDecoded with ⟨restorable, fits⟩
  have isRecord := (encodeCandidatePrivateLedgerState_eq_ok.mp isEncoded).2.2
  simp only [not_or, Option.not_isSome_iff_eq_none] at fresh
  refine ⟨rfl, restorable, fits, lawful.valid_nil _, ?_, Or.inl rfl, restorable, fits,
    Or.inr ⟨fresh.1, rfl, rfl⟩, state, restorable, fits, congrArg some isRecord, fun _ => rfl⟩
  rw [lawful.fileOf_nil]
  change some (files.journal.getD []) = _
  rw [fresh.2]
  rfl

theorem stored_of_initializeWithAuthenticatedBase {baseOutcome}
    (coherent : Coherent reference state)
    (initialized : initializeWithAuthenticatedBase reference journal outcome baseOutcome state
      files = .ok opened next) :
    opened = state /\ Restorable reference state /\ FitsRecord state /\
      Stored lawful state next [] [] := by
  rcases bind_eq_ok.mp initialized with ⟨made, middle, isMade, later⟩
  have created : made = state /\ Restorable reference state /\ FitsRecord state /\
      Stored lawful state middle [] [] := stored_of_initializeStore coherent isMade
  rcases created with ⟨rfl, restorable, fits, stored⟩
  rcases bind_eq_ok.mp later with ⟨_, final, prepared, isDone⟩
  cases isDone
  rcases stored.prepareJournalBase_cases restorable fits baseOutcome with
    ⟨reached, reachedStored, _, _, ⟨succeeded, _⟩ | ⟨_, _, failed⟩⟩
  · have same := prepared.symm.trans succeeded
    cases same
    exact ⟨rfl, restorable, fits, reachedStored⟩
  · have impossible := prepared.symm.trans failed
    cases impossible

/-- A restorable ledger that fits into a record can be stored where nothing is. -/
theorem initializeStore_of_restorable (restorable : Restorable reference state)
    (fits : FitsRecord state) :
    initializeStore reference journal .complete state ⟨none, none, none⟩ =
      .ok state ⟨some (recordOf state), none, some []⟩ := by
  have published : onCache (publishState reference journal .complete state) ⟨none, none, none⟩ =
      .ok () ⟨some (recordOf state), none, none⟩ :=
    onPart_eq_ok.mpr ⟨_, publishState_complete journal restorable fits none, rfl⟩
  rw [initializeStore, get_bind, if_neg (by simp), if_neg (by simp), bind_of_ok published]
  rfl

end

/-! ## Whole runs -/

section
variable {lawful : LawfulJournal reference journal} {situation : StoreSituation candidate}

/-- The journal holds a valid history, and the identity of the ledger in memory collides
with that of the ledger which the history ends in. -/
def MemoryCollides (lawful : LawfulJournal reference journal)
    (base : CandidatePrivateLedgerStateV1 candidate) (situation : StoreSituation candidate) : Prop :=
  ∃ before last state, situation.memory = some state /\ lawful.Valid base (before ++ [last]) /\
    situation.files.journal = some (lawful.fileOf (before ++ [last])) /\
    Collides Sha256.digest (identityInput (journal.state last).anchor) (identityInput state.anchor)

/-- The files hold a history, and the ledger in memory is its latest one or the
store is blocked. -/
def Stands (lawful : LawfulJournal reference journal)
    (base : CandidatePrivateLedgerStateV1 candidate) (situation : StoreSituation candidate) : Prop :=
  ∃ entries rest, Stored lawful base situation.files entries rest /\
    forall state, situation.memory = some state ->
      Current journal base entries rest state ∨ Blocked lawful entries rest state

variable {transfer : StoreTransfer A noted}

/-- Where a transfer leaves a store that was current. -/
theorem TransferEnds.stands {result} (ends : TransferEnds lawful base files entries transfer result)
    (restorable : Restorable reference (latestState journal base entries)) :
    (∃ later, Stored lawful base (finalState result).files later [] /\
        Current journal base later [] (finalState result).state /\
        forall fault next, result = .error fault next -> next.files.journal = files.journal) ∨
      (∃ later rest, Stored lawful base (finalState result).files later rest /\
        Blocked lawful later rest (finalState result).state) ∨
      MemoryCollides lawful base ⟨(finalState result).files, some (finalState result).state⟩ := by
  have interrupted {next : StoreFiles} {added : entry} {frame : List UInt8}
      (stored : Stored lawful base next (entries ++ [added]) [])
      (isAdded : Added lawful base entries transfer.request.intent added frame) :
      (∃ later rest, Stored lawful base next later rest /\
          Blocked lawful later rest (latestState journal base entries)) ∨
        MemoryCollides lawful base ⟨next, some (latestState journal base entries)⟩ := by
    rcases isAdded.blocked_or_collides restorable with blocked | collides
    · exact Or.inl ⟨_, _, stored, blocked⟩
    · have isJournal := stored.journalFile
      rw [List.append_nil] at isJournal
      exact Or.inr ⟨_, _, _, rfl, stored.valid, isJournal, collides⟩
  cases ends with
  | refused stored same =>
    refine Or.inl ⟨entries, stored, ⟨rfl, rfl⟩, ?_⟩
    intro fault next isError
    cases isError
    exact same
  | written isAdded outcome stored present same =>
    rename_i _ next added frame operation count
    rcases stored.written_cases present isAdded count with
      ⟨nextStored, unchanged⟩ | ⟨_, nextStored, isCut⟩ | ⟨_, nextStored⟩
    · refine Or.inl ⟨entries, nextStored, ⟨rfl, rfl⟩, ?_⟩
      intro fault final isError
      cases isError
      exact unchanged.trans same
    · exact Or.inr (Or.inl ⟨entries, _, nextStored, Or.inl isCut⟩)
    · exact Or.inr (interrupted nextStored isAdded)
  | unpublished isAdded outcome incomplete stored =>
    exact Or.inr (interrupted stored isAdded)
  | accepted isAdded stored =>
    refine Or.inl ⟨_, stored, ⟨rfl, ?_⟩, ?_⟩
    · rw [latestState_append]
      rfl
    · intro fault next isError
      cases isError

include baseRestorable baseFits

theorem Stands.storeStep (stands : Stands lawful base situation) (call : StoreCall A noted) :
    Stands lawful base (storeStep reference journal situation call) ∨
      MemoryCollides lawful base (storeStep reference journal situation call) := by
  rcases stands with ⟨entries, rest, stored, memory⟩
  cases call with
  | applyTransfer transfer =>
    rw [Stores.storeStep]
    cases isOpen : situation.memory with
    | none => exact Or.inl ⟨entries, rest, stored, memory⟩
    | some state =>
      rcases memory state isOpen with ⟨rfl, rfl⟩ | blocked
      · rcases (stored.applyTransfer_ends baseRestorable baseFits transfer).stands
          stored.restorable with ⟨later, isStored, current, _⟩ | ⟨later, tail, isStored, blocked⟩ |
          collides
        · exact Or.inl ⟨later, [], isStored, fun state same => Or.inl (Option.some.inj same ▸ current)⟩
        · exact Or.inl ⟨later, tail, isStored,
            fun state same => Or.inr (Option.some.inj same ▸ blocked)⟩
        · exact Or.inr collides
      · rcases stored.applyTransfer_of_blocked baseRestorable baseFits blocked transfer with
          ⟨fault, failed⟩
        left
        dsimp only
        rw [failed]
        exact ⟨entries, rest, stored, fun other same => Or.inr (Option.some.inj same ▸ blocked)⟩
  | reopen outcome =>
    rw [Stores.storeStep]
    rcases stored.openStore_cases baseRestorable baseFits outcome with
      ⟨next, isStored, opened | ⟨_, fault, failed⟩⟩
    · rw [opened]
      exact Or.inl ⟨entries, [], isStored,
        fun state same => Or.inl ⟨rfl, (Option.some.inj same).symm⟩⟩
    · rw [failed]
      exact Or.inl ⟨entries, [], isStored, nofun⟩

/-- Every run stands, unless identities collide in a situation it passes. -/
theorem Stands.run {start} (stands : Stands lawful base start) (calls : List (StoreCall A noted)) :
    (∃ visited, visited ∈ (run (recordedStep reference journal) start calls).2 /\
        MemoryCollides lawful base visited) ∨
      Stands lawful base (run (recordedStep reference journal) start calls).1 := by
  apply run_invariant (recordedStep reference journal) (fun situation log =>
    (∃ visited, visited ∈ log /\ MemoryCollides lawful base visited) ∨ Stands lawful base situation)
    (Or.inr stands)
  intro situation log call _ reached
  rcases reached with ⟨visited, listed, collides⟩ | stands
  · exact Or.inl ⟨visited, List.mem_append_left _ listed, collides⟩
  · rcases stands.storeStep baseRestorable baseFits call with later | collides
    · exact Or.inr later
    · exact Or.inl ⟨_, List.mem_append_right _ (List.mem_singleton_self _), collides⟩

/-- A blocked store refuses any number of transfers and is left as it is. -/
theorem Stored.run_attempt_of_blocked (stored : Stored lawful base files entries rest)
    (blocked : Blocked lawful entries rest state) (transfers : List (StoreTransfer A noted)) :
    Foundation.run (attempt reference journal) ⟨files, state⟩ transfers =
      (⟨files, state⟩, transfers.map (fun _ => false)) := by
  induction transfers with
  | nil => rfl
  | cons transfer others ih =>
    rcases stored.applyTransfer_of_blocked baseRestorable baseFits blocked transfer with
      ⟨fault, failed⟩
    have attempted : attempt reference journal ⟨files, state⟩ transfer =
        (⟨files, state⟩, [false]) := by
      rw [attempt, failed]
    rw [run_cons_of_step attempted, ih]
    rfl

/-- A transfer that fails after it has changed the journal makes every later one
fail, unless identities collide. -/
theorem Stands.fails_after_writing (stands : Stands lawful base ⟨files, some state⟩) {fault after}
    (failed : applyTransfer reference journal transfer ⟨files, state⟩ = .error fault after)
    (changed : after.files.journal ≠ files.journal) :
    MemoryCollides lawful base ⟨after.files, some after.state⟩ ∨
      forall transfers : List (StoreTransfer A noted),
        Foundation.run (attempt reference journal) after transfers =
          (after, transfers.map (fun _ => false)) := by
  rcases stands with ⟨entries, rest, stored, memory⟩
  rcases memory state rfl with ⟨rfl, rfl⟩ | blocked
  · have ends := stored.applyTransfer_ends baseRestorable baseFits transfer
    rw [failed] at ends
    rcases ends.stands stored.restorable with ⟨_, _, _, unchanged⟩ | ⟨later, tail, isStored, blocked⟩ |
      collides
    · exact absurd (unchanged fault after rfl) changed
    · right
      intro transfers
      exact isStored.run_attempt_of_blocked baseRestorable baseFits blocked transfers
    · exact Or.inl collides
  · rcases stored.applyTransfer_of_blocked baseRestorable baseFits blocked transfer with
      ⟨other, stopped⟩
    have same := failed.symm.trans stopped
    cases same
    exact absurd rfl changed

end
end
end Noxis.Stores
