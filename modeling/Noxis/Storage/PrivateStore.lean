import Noxis.Privacy.RestoredLedger
import Noxis.Storage.BlockJournal

namespace Noxis.Stores

open Foundation Privacy
open Storage (WriteOutcome)

/-!
# Stores of the private ledger

A store keeps one private ledger in memory and in three files: a journal of
transfers, the immutable ledger the journal starts from, and a replaceable cache.
Once the journal has an entry it decides which ledger the store holds.  The
ledger store and the submission store differ in their journals only, so the
functions here take a journal as a parameter.

A publication writes a temporary file, renames it and reads the result back; it
can fail before or after the new file is in place.  The writer lock and the paths
are left out.
-/

variable {candidate : Poseidon2P24Candidate} {ε entry noted A : Type}

/-- Errors of a store whose journal has errors of its own. -/
inductive PrivateStoreError (ε : Type) where
  | alreadyInitialized
  | unexpectedSidecar
  | publishedStateMismatch
  | missingJournalBase
  | journalBaseMismatch (base cache : StateId)
  | journalCacheMismatch (journal cache : StateId)
  | journalTailPresent
  | oversized (length : Nat)
  | io (operation : String)
  | record (source : CandidatePrivateStateRecordError)
  | journal (source : ε)
  | invalidRecord (source : CandidatePrivateStateRecordError)
  | ledger (source : CandidatePrivateLedgerError)

/-- How a publication ends: completely, or with a failed operation before or after
the new file has replaced the old one. -/
inductive PublishOutcome where
  | complete
  | failed (operation : String) (replaced : Bool)

structure StoreFiles where
  cache : Option (List UInt8)
  base : Option (List UInt8)
  journal : Option (List UInt8)

/-- What an open handle reads: opening the journal creates it. -/
def StoreFiles.journalBytes (files : StoreFiles) : List UInt8 :=
  files.journal.getD []

/-- The entries of a journal, each with the ledger it leads to, and the operations
of the journal that a store uses, with the texts that belong to the store. -/
structure PrivateJournal (candidate : Poseidon2P24Candidate) (ε entry noted : Type) where
  state : entry -> CandidatePrivateLedgerStateV1 candidate
  scanRecoverableTail : List UInt8 -> Except (Fault ε) (List entry × Option IncompleteTail)
  recoverFrom : CandidatePrivateLedgerStateV1 candidate -> List UInt8 ->
    Except (Fault ε) (List entry × Option IncompleteTail)
  append : WriteOutcome -> CandidatePrivateLedgerStateV1 candidate ->
    CandidatePrivateLedgerStateV1 candidate -> PrivateTransferIntentV2 -> noted ->
    EStateM (Fault ε) (List UInt8) UInt64
  truncateVerifiedIncompleteTail : IncompleteTail -> EStateM (Fault ε) (List UInt8) Unit
  inspect : String
  staysNonempty : String
  needsCache : String

/-- A store: its files, and the ledger in memory. -/
structure PrivateStore (candidate : Poseidon2P24Candidate) where
  files : StoreFiles
  state : CandidatePrivateLedgerStateV1 candidate

def onCache {α : Type} (method : EStateM ε (Option (List UInt8)) α) : EStateM ε StoreFiles α :=
  onPart StoreFiles.cache (fun files cache => { files with cache := cache }) method

def onBase {α : Type} (method : EStateM ε (Option (List UInt8)) α) : EStateM ε StoreFiles α :=
  onPart StoreFiles.base (fun files base => { files with base := base }) method

def onJournal {α : Type} (method : EStateM ε (List UInt8) α) : EStateM ε StoreFiles α :=
  onPart StoreFiles.journalBytes (fun files journal => { files with journal := some journal }) method

def onFiles {α : Type} (method : EStateM ε StoreFiles α) : EStateM ε (PrivateStore candidate) α :=
  onPart PrivateStore.files (fun store files => { store with files := files }) method

/-- Forget an error, but not a panic. -/
def optionally {α : Type} : Except (Fault ε) α -> Except (Fault ε) (Option α)
  | .ok value => .ok (some value)
  | .error (.error _) => .ok none
  | .error (.panic panic) => .error (.panic panic)

section
variable [Sha256] (reference : NullifierSparseTreeReferenceV1)
  (journal : PrivateJournal candidate ε entry noted)

def readState (file : Option (List UInt8)) :
    Except (Fault (PrivateStoreError ε)) (CandidatePrivateLedgerStateV1 candidate) :=
  match file with
  | none => .error (.error (.io journal.inspect))
  | some bytes =>
    if privateStateRecordMaxBytes < bytes.length then
      .error (.error (.oversized bytes.length))
    else
      (decodeCandidatePrivateLedgerState reference bytes).mapError (Fault.map .invalidRecord)

def publishState (outcome : PublishOutcome) (state : CandidatePrivateLedgerStateV1 candidate) :
    EStateM (Fault (PrivateStoreError ε)) (Option (List UInt8)) Unit := do
  let encoded ← check ((encodeCandidatePrivateLedgerState state).mapError (Fault.map .record))
  match outcome with
  | .failed operation replaced =>
    modify (fun file => if replaced then some encoded else file)
    throw (.error (.io operation))
  | .complete =>
    set (some encoded)
    let rebuilt ← check (readState reference journal (some encoded))
    let again ← check ((encodeCandidatePrivateLedgerState rebuilt).mapError (Fault.map .record))
    if again ≠ encoded then throw (.error .publishedStateMismatch) else pure ()

def readJournalBase (file : Option (List UInt8)) :
    Except (Fault (PrivateStoreError ε)) (CandidatePrivateLedgerStateV1 candidate) :=
  match file with
  | none => .error (.error .missingJournalBase)
  | some bytes => readState reference journal (some bytes)

def compareBase (bytes : List UInt8) (state : CandidatePrivateLedgerStateV1 candidate) :
    Except (Fault (PrivateStoreError ε)) Unit := do
  let base ← readState reference journal (some bytes)
  if base.anchor.stateId ≠ state.anchor.stateId then
    .error (.error (.journalBaseMismatch base.anchor.stateId state.anchor.stateId))
  else
    .ok ()

def writeOrValidateJournalBase (outcome : PublishOutcome)
    (state : CandidatePrivateLedgerStateV1 candidate) :
    EStateM (Fault (PrivateStoreError ε)) (Option (List UInt8)) Unit := do
  match ← get with
  | some bytes => check (compareBase reference journal bytes state)
  | none => publishState reference journal outcome state

def prepareJournalBase (outcome : PublishOutcome)
    (state : CandidatePrivateLedgerStateV1 candidate) :
    EStateM (Fault (PrivateStoreError ε)) StoreFiles Unit := do
  let files ← get
  let scan ← check ((journal.scanRecoverableTail files.journalBytes).mapError (Fault.map .journal))
  if scan.2.isSome then
    throw (.error .journalTailPresent)
  else
    match scan.1.getLast? with
    | some _ =>
      let base ← check (readJournalBase reference journal files.base)
      let recovered ← check
        ((journal.recoverFrom base files.journalBytes).mapError (Fault.map .journal))
      match recovered.1.getLast? with
      | none => throw (.panic ⟨journal.staysNonempty⟩)
      | some latest =>
        if (journal.state latest).anchor.stateId ≠ state.anchor.stateId then
          throw (.error (.journalCacheMismatch (journal.state latest).anchor.stateId
            state.anchor.stateId))
        else
          pure ()
    | none => onBase (writeOrValidateJournalBase reference journal outcome state)

def initializeStore (outcome : PublishOutcome) (state : CandidatePrivateLedgerStateV1 candidate) :
    EStateM (Fault (PrivateStoreError ε)) StoreFiles (CandidatePrivateLedgerStateV1 candidate) := do
  let files ← get
  if files.cache.isSome then
    throw (.error .alreadyInitialized)
  else if files.base.isSome ∨ files.journal.isSome then
    throw (.error .unexpectedSidecar)
  else
    onCache (publishState reference journal outcome state)
    modify (fun files => { files with journal := some files.journalBytes })
    return state

def initializeWithAuthenticatedBase (outcome baseOutcome : PublishOutcome)
    (state : CandidatePrivateLedgerStateV1 candidate) :
    EStateM (Fault (PrivateStoreError ε)) StoreFiles (CandidatePrivateLedgerStateV1 candidate) := do
  let state ← initializeStore reference journal outcome state
  prepareJournalBase reference journal baseOutcome state
  return state

/-- Remove the partial frame a scan reported, if it reported one. -/
def truncateTail : Option IncompleteTail -> EStateM (Fault (PrivateStoreError ε)) StoreFiles Unit
  | none => pure ()
  | some tail => onJournal
      (mapFailure (Fault.map .journal) (journal.truncateVerifiedIncompleteTail tail))

def recoverAuthoritativeState (cache : Option (CandidatePrivateLedgerStateV1 candidate)) :
    EStateM (Fault (PrivateStoreError ε)) StoreFiles (CandidatePrivateLedgerStateV1 candidate) := do
  let files ← get
  let scan ← check ((journal.scanRecoverableTail files.journalBytes).mapError (Fault.map .journal))
  match scan.1.getLast? with
  | some _ =>
    let base ← check (readJournalBase reference journal files.base)
    let recovered ← check
      ((journal.recoverFrom base files.journalBytes).mapError (Fault.map .journal))
    match recovered.1.getLast? with
    | none => throw (.panic ⟨journal.staysNonempty⟩)
    | some latest =>
      truncateTail journal recovered.2
      return journal.state latest
  | none =>
    match cache, files.base with
    | none, _ => throw (.panic ⟨journal.needsCache⟩)
    | some cache, none =>
      if scan.2.isSome then
        throw (.error .missingJournalBase)
      else
        return cache
    | some cache, some bytes =>
      check (compareBase reference journal bytes cache)
      truncateTail journal scan.2
      return cache

/-- Open the files of a store.  The cache may be unreadable if the journal has an
entry, and it is published again if it is not the ledger that was recovered. -/
def openStore (outcome : PublishOutcome) :
    EStateM (Fault (PrivateStoreError ε)) StoreFiles (CandidatePrivateLedgerStateV1 candidate) := do
  modify (fun files => { files with journal := some files.journalBytes })
  let files ← get
  let first ← check ((journal.scanRecoverableTail files.journalBytes).mapError (Fault.map .journal))
  let cache ← check (match first.1.getLast? with
    | some _ => optionally (readState reference journal files.cache)
    | none => (readState reference journal files.cache).map some)
  let state ← recoverAuthoritativeState reference journal cache
  if cache.map (fun cached => cached.anchor.stateId) ≠ some state.anchor.stateId then
    onCache (publishState reference journal outcome state)
    return state
  else
    return state

/-! ## Transfers -/

/-- A transfer with everything its caller supplies, and how its writes end. -/
structure StoreTransfer (A noted : Type) where
  request : CandidatePrivateTransferRequestV1 A
  authorizer : CandidatePrivateTransferAuthorizer A
  noted : noted
  baseOutcome : PublishOutcome
  writeOutcome : WriteOutcome
  cacheOutcome : PublishOutcome

/-- Apply a transfer to a copy, write its frame, publish the cache and replace the
ledger in memory. -/
def applyTransfer (transfer : StoreTransfer A noted) :
    EStateM (Fault (PrivateStoreError ε)) (PrivateStore candidate)
      CandidatePrivateTransferAdmissionReceiptV1 := do
  let store ← get
  match CandidatePrivateLedgerStateV1.applyTransfer reference transfer.request transfer.authorizer
      store.state with
  | .error reason _ => throw (.error (.ledger reason))
  | .ok receipt successor =>
    onFiles (prepareJournalBase reference journal transfer.baseOutcome store.state)
    let _ ← onFiles (onJournal (mapFailure (Fault.map .journal) (journal.append
      transfer.writeOutcome store.state successor transfer.request.intent transfer.noted)))
    onFiles (onCache (publishState reference journal transfer.cacheOutcome successor))
    modify (fun store => { store with state := successor })
    return receipt

/-- The entries of the journal, compared with the base. -/
def entriesOf (files : StoreFiles) : Except (Fault (PrivateStoreError ε)) (List entry) := do
  let scan ← (journal.scanRecoverableTail files.journalBytes).mapError (Fault.map .journal)
  if scan.2.isSome then
    .error (.error .journalTailPresent)
  else
    match scan.1 with
    | [] => .ok []
    | _ :: _ => do
        let base ← readJournalBase reference journal files.base
        let recovered ← (journal.recoverFrom base files.journalBytes).mapError (Fault.map .journal)
        if recovered.2.isSome then .error (.error .journalTailPresent) else .ok recovered.1

end

/-- The files of a store, and the ledger in memory while the store is open. -/
structure StoreSituation (candidate : Poseidon2P24Candidate) where
  files : StoreFiles
  memory : Option (CandidatePrivateLedgerStateV1 candidate)

/-- A call to an open store, or closing the store and opening it again. -/
inductive StoreCall (A noted : Type) where
  | applyTransfer (transfer : StoreTransfer A noted)
  | reopen (outcome : PublishOutcome)

section
variable [Sha256] (reference : NullifierSparseTreeReferenceV1)
  (journal : PrivateJournal candidate ε entry noted)

/-- Perform a call.  A closed store accepts no transfer, and a failed opening leaves
the store closed. -/
def storeStep (situation : StoreSituation candidate) :
    StoreCall A noted -> StoreSituation candidate
  | .applyTransfer transfer =>
    match situation.memory with
    | none => situation
    | some state =>
      let after := finalState (applyTransfer reference journal transfer ⟨situation.files, state⟩)
      ⟨after.files, some after.state⟩
  | .reopen outcome =>
    match openStore reference journal outcome situation.files with
    | .ok state files => ⟨files, some state⟩
    | .error _ files => ⟨files, none⟩

def recordedStep (situation : StoreSituation candidate) (call : StoreCall A noted) :
    StoreSituation candidate × List (StoreSituation candidate) :=
  (storeStep reference journal situation call, [storeStep reference journal situation call])

/-- Attempt a transfer and record whether it was accepted. -/
def attempt (store : PrivateStore candidate) (transfer : StoreTransfer A noted) :
    PrivateStore candidate × List Bool :=
  match applyTransfer reference journal transfer store with
  | .ok _ next => (next, [true])
  | .error _ next => (next, [false])

end
end Noxis.Stores
