import Noxis.Storage.CheckpointCodec

namespace Noxis.Checkpoints

open Foundation

/-!
# The directory of checkpoints

Only regular files with the name of a checkpoint are looked at.  A file that does
not decode is skipped, whatever it holds; too many files that decode are refused,
and so are two different checkpoints of one record.
-/

def maxDiscoveredCheckpoints : Nat := 1024

/-- An entry of a directory: its name, whether it is a regular file, and what a
read of it returns. -/
structure DirectoryEntry where
  name : List UInt8
  isFile : Bool
  bytes : List UInt8

inductive CheckpointStoreError where
  | tooManyCandidates (maximum : Nat)
deriving DecidableEq

def isAsciiDigit (byte : UInt8) : Bool := decide (48 <= byte /\ byte <= 57)

def isAsciiHexDigit (byte : UInt8) : Bool :=
  isAsciiDigit byte || decide (65 <= byte /\ byte <= 70) || decide (97 <= byte /\ byte <= 102)

/-- What stands before and after the last occurrence of a byte. -/
def rsplitOnce (separator : UInt8) : List UInt8 -> Option (List UInt8 × List UInt8)
  | [] => none
  | byte :: rest =>
    match rsplitOnce separator rest with
    | some (before, after) => some (byte :: before, after)
    | none => if byte = separator then some ([], rest) else none

/-- A name is `checkpoint-`, twenty digits, a dash, sixty-four hexadecimal digits
and `.nxcp`. -/
def isCandidateFilename (name : List UInt8) : Bool :=
  let ending := utf8 ".nxcp"
  let beginning := utf8 "checkpoint-"
  if (fromUtf8 name).isNone ∨ ending.isSuffixOf name = false then
    false
  else
    match rsplitOnce 45 (name.take (name.length - ending.length)) with
    | none => false
    | some (numbered, hash) =>
      if beginning.isPrefixOf numbered = false then
        false
      else
        let sequence := numbered.drop beginning.length
        sequence.length = 20 && sequence.all isAsciiDigit && hash.length = 64 &&
          hash.all isAsciiHexDigit

section
variable [Sha256]

/-- A checkpoint that was read from a file. -/
structure CheckpointReceipt where
  name : List UInt8
  checkpoint : Checkpoint

/-- The loop over the entries of a directory; the checkpoints found so far are in
the order of the directory. -/
def collectCandidates : List DirectoryEntry -> List CheckpointReceipt ->
    Except (Fault CheckpointStoreError) (List CheckpointReceipt)
  | [], candidates => .ok candidates
  | entry :: rest, candidates =>
    if isCandidateFilename entry.name = false then
      collectCandidates rest candidates
    else if entry.isFile = false then
      collectCandidates rest candidates
    else if maxCheckpointBytes < entry.bytes.length then
      collectCandidates rest candidates
    else
      match Checkpoint.decode entry.bytes with
      | .error (.panic cause) => .error (.panic cause)
      | .error (.error _) => collectCandidates rest candidates
      | .ok checkpoint =>
        let candidates := candidates ++ [⟨entry.name, checkpoint⟩]
        if maxDiscoveredCheckpoints < candidates.length then
          .error (.error (.tooManyCandidates maxDiscoveredCheckpoints))
        else
          collectCandidates rest candidates

/-- Later records first, and by name for one record. -/
def precedes (left right : CheckpointReceipt) : Bool :=
  decide (right.checkpoint.sequence < left.checkpoint.sequence ∨
    (right.checkpoint.sequence = left.checkpoint.sequence /\ left.name <= right.name))

/-- Every checkpoint of a directory; a directory that does not exist has none. -/
def loadCandidates : Option (List DirectoryEntry) ->
    Except (Fault CheckpointStoreError) (List CheckpointReceipt)
  | none => .ok []
  | some entries => do
      let candidates ← collectCandidates entries []
      return candidates.mergeSort precedes

/-- The checkpoint an entry holds, if it is a regular file with the name of a
checkpoint that decodes. -/
def checkpointOf (entry : DirectoryEntry) : Option Checkpoint :=
  if isCandidateFilename entry.name /\ entry.isFile then
    (Checkpoint.decode entry.bytes).toOption
  else
    none

def receiptOf (entry : DirectoryEntry) : Option CheckpointReceipt :=
  (checkpointOf entry).map (CheckpointReceipt.mk entry.name)

theorem length_le_of_decode {bytes checkpoint}
    (decoded : Checkpoint.decode bytes = .ok checkpoint) : bytes.length <= maxCheckpointBytes := by
  rcases Checkpoint.decode_eq_ok.mp decoded with ⟨bounded, _, _, rfl⟩
  have small := length_snapshotBytes_le bounded checkpoint.canonical.assetsBuilt
  rw [Checkpoint.bytes, List.length_append, length_bodyBytes, Bytes.length_toList]
  exact Nat.add_le_add_right (Nat.add_le_add_left small _) _

/-- The loop skips an entry or adds its checkpoint; it never aborts. -/
theorem collectCandidates_cons (entry : DirectoryEntry) (rest : List DirectoryEntry)
    (candidates : List CheckpointReceipt) :
    collectCandidates (entry :: rest) candidates = match receiptOf entry with
      | none => collectCandidates rest candidates
      | some receipt =>
        if maxDiscoveredCheckpoints < (candidates ++ [receipt]).length then
          .error (.error (.tooManyCandidates maxDiscoveredCheckpoints))
        else
          collectCandidates rest (candidates ++ [receipt]) := by
  rw [collectCandidates, receiptOf, checkpointOf]
  cases isNamed : isCandidateFilename entry.name with
  | false =>
    rw [if_pos rfl, if_neg (fun both => Bool.false_ne_true both.1)]
    rfl
  | true =>
    cases isFile : entry.isFile with
    | false =>
      rw [if_neg Bool.noConfusion, if_pos rfl, if_neg (fun both => Bool.false_ne_true both.2)]
      rfl
    | true =>
      have both : true = true /\ true = true := ⟨rfl, rfl⟩
      rw [if_neg Bool.noConfusion, if_neg Bool.noConfusion, if_pos both]
      cases decoded : Checkpoint.decode entry.bytes with
      | error fault =>
        cases fault with
        | panic cause => exact absurd decoded (Checkpoint.decode_ne_panic _ _)
        | error reason => exact ite_self _
      | ok checkpoint => exact if_neg (Nat.not_lt.mpr (length_le_of_decode decoded))

/-- The loop finds every checkpoint, up to the largest number of them. -/
theorem collectCandidates_eq {entries candidates}
    (few : candidates.length <= maxDiscoveredCheckpoints) :
    collectCandidates entries candidates =
      if maxDiscoveredCheckpoints < (candidates ++ entries.filterMap receiptOf).length then
        .error (.error (.tooManyCandidates maxDiscoveredCheckpoints))
      else
        .ok (candidates ++ entries.filterMap receiptOf) := by
  induction entries generalizing candidates with
  | nil =>
    rw [List.filterMap_nil, List.append_nil, if_neg (Nat.not_lt.mpr few)]
    rfl
  | cons entry rest ih =>
    rw [collectCandidates_cons]
    cases found : receiptOf entry with
    | none =>
      rw [List.filterMap_cons_none found]
      exact ih few
    | some receipt =>
      rw [List.filterMap_cons_some found]
      have grouped : candidates ++ receipt :: rest.filterMap receiptOf =
          candidates ++ [receipt] ++ rest.filterMap receiptOf := by
        rw [List.append_assoc, List.singleton_append]
      rw [grouped]
      by_cases many : maxDiscoveredCheckpoints < (candidates ++ [receipt]).length
      · have more : maxDiscoveredCheckpoints <
            (candidates ++ [receipt] ++ rest.filterMap receiptOf).length := by
          rw [List.length_append]
          exact Nat.lt_add_right _ many
        rw [if_pos more]
        exact if_pos many
      · exact (if_neg many).trans (ih (Nat.not_lt.mp many))

def checkpointsIn (directory : Option (List DirectoryEntry)) : List Checkpoint :=
  (directory.getD []).filterMap checkpointOf

theorem map_checkpoint_receiptOf (entries : List DirectoryEntry) :
    (entries.filterMap receiptOf).map CheckpointReceipt.checkpoint =
      entries.filterMap checkpointOf := by
  rw [List.map_filterMap]
  apply congrArg (fun read => List.filterMap read entries)
  funext entry
  rw [receiptOf, Option.map_map]
  exact congrFun Option.map_id _

/-- Loading fails only for a directory with too many checkpoints; otherwise it
returns all of them. -/
theorem loadCandidates_cases (directory : Option (List DirectoryEntry)) :
    (maxDiscoveredCheckpoints < (checkpointsIn directory).length /\
        loadCandidates directory = .error (.error (.tooManyCandidates maxDiscoveredCheckpoints))) ∨
      (¬maxDiscoveredCheckpoints < (checkpointsIn directory).length /\
        ∃ candidates, loadCandidates directory = .ok candidates /\
          (candidates.map CheckpointReceipt.checkpoint).Perm (checkpointsIn directory)) := by
  cases directory with
  | none => exact Or.inr ⟨Nat.not_lt_zero _, [], rfl, List.Perm.refl _⟩
  | some entries =>
    have collected := @collectCandidates_eq _ entries [] (Nat.zero_le _)
    rw [List.nil_append] at collected
    have size : (entries.filterMap receiptOf).length = (checkpointsIn (some entries)).length := by
      rw [checkpointsIn, Option.getD_some, ← map_checkpoint_receiptOf, List.length_map]
    rw [size] at collected
    by_cases many : maxDiscoveredCheckpoints < (checkpointsIn (some entries)).length
    · rw [if_pos many] at collected
      refine Or.inl ⟨many, ?_⟩
      rw [loadCandidates, collected]
      rfl
    · rw [if_neg many] at collected
      refine Or.inr ⟨many, (entries.filterMap receiptOf).mergeSort precedes, ?_, ?_⟩
      · rw [loadCandidates, collected]
        rfl
      · rw [checkpointsIn, Option.getD_some, ← map_checkpoint_receiptOf]
        exact (List.mergeSort_perm _ _).map _

end
end Noxis.Checkpoints
