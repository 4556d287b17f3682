import Noxis.Foundation.FrameDamage
import Noxis.Storage.Durability

namespace Noxis.Storage

open Foundation Ledger Execution
open PersistentExecution FrameFormat StoredBlock

/-!
# Journals with one damaged byte

Opening a journal is meant to remove no more than an interrupted write.  A
damaged byte is refused, because a frame that is read differently no longer
decodes to a block: no payload starts with another.  The length of a frame is
the exception.  If it grows past the end of the file, the scanner takes the
frame and everything behind it for an interrupted write.  The blocks before it
are executed again, and if that succeeds the rest of the journal is cut off.
-/

section
variable [Sha256] {context : ExecutionContext} {genesisState : LedgerState}
  {blocks earlier later : List StoredBlock} {block : StoredBlock}
  {changed : List UInt8} {index : Nat}

/-- The blocks are a chain that the context executes from a genesis state. -/
structure Restores (context : ExecutionContext) (genesisState : LedgerState)
    (blocks : List StoredBlock) (genesis : CommittedExecutionState)
    (executed : List ExecutedBlock) : Prop where
  made : CommittedExecutionState.genesis genesisState context.chainAnchor = .ok genesis
  journalled : Journalled context genesis executed
  payloads : chainPayloads executed = blocks.map StoredBlock.payload

/-- Opening fails and leaves the file, or recovers exactly the blocks. -/
def OpensUnharmed (context : ExecutionContext) (genesisState : LedgerState)
    (blocks : List StoredBlock) (file : List UInt8) : Prop :=
  (∃ fault, PersistentExecution.openJournal context genesisState file = .error fault file) ∨
    ∃ genesis executed final, Restores context genesisState blocks genesis executed /\
      PersistentExecution.openJournal context genesisState file =
        .ok (coordinator genesis executed) final

/-- The changed byte made the length of the frame behind the earlier blocks run
past the end of the file, but not past the maximum. -/
def CutsOffAfter (earlier : List StoredBlock) (changed : List UInt8) (index : Nat) : Prop :=
  (journalOf earlier).length <= index /\
    blockFrameFormat.Outruns (changed.drop (journalOf earlier).length)
      (index - (journalOf earlier).length)

variable {executed : List ExecutedBlock} {genesis : CommittedExecutionState}

/-- The payloads of another chain agree with those of a journal up to the
damaged frame only if they end there. -/
theorem no_other_payload (journalled : Journalled context genesis executed)
    (storable : Storable block) {other before rest}
    (payloads : chainPayloads executed = before ++ other :: rest) (differ : other ≠ block.payload) :
    ¬(other <+: block.payload ∨ block.payload <+: other) := by
  have member : other ∈ chainPayloads executed := by
    rw [payloads]
    exact List.mem_append_right _ List.mem_cons_self
  rcases List.mem_map.mp member with ⟨stored, listed, rfl⟩
  have otherStorable := (journalled.appended_map stored listed).1
  intro related
  rcases related with isPrefix | isExtension
  · exact differ (payload_eq_of_initial otherStorable storable isPrefix)
  · exact differ (payload_eq_of_initial storable otherStorable isExtension).symm

/-- A damaged journal opens only if a damaged length cuts it off. -/
theorem cutsOff_of_openJournal (appended : forall block, block ∈ blocks -> Appended block)
    (changes : ChangesByte (journalOf blocks) changed index) {execution final}
    (opens : openJournal context genesisState changed = .ok execution final) :
    ∃ earlier block later genesis executed, blocks = earlier ++ block :: later /\
      CutsOffAfter earlier changed index /\ Restores context genesisState earlier genesis executed /\
      execution = coordinator genesis executed /\ final = journalOf earlier := by
  rcases openJournal_eq_ok.mp opens with
    ⟨genesis, executed, tail, made, journalled, scans, isExecution, isFinal⟩
  rcases scans.of_changes (payloads_within appended) changes with ⟨before, payload, rest, split, cases⟩
  rcases List.map_eq_append_iff.mp split with ⟨earlier, others, rfl, rfl, isRest⟩
  rcases List.map_eq_cons_iff.mp isRest with ⟨block, later, rfl, rfl, rfl⟩
  have storable : Storable block := (appended block (by simp)).1
  rcases cases with ⟨_, impossible⟩ | ⟨reached, outruns, found⟩ | ⟨other, _, found, differ, related⟩
  · cases impossible
  · refine ⟨earlier, block, later, genesis, executed, rfl, ⟨reached, outruns⟩,
      ⟨made, journalled, found⟩, isExecution, ?_⟩
    rw [isFinal]
    exact congrArg blockFrameFormat.encodeFrames found
  · exact absurd related (no_other_payload journalled storable found differ)

section
variable
    (appended : forall member, member ∈ earlier ++ block :: later -> Appended member)
    (changes : ChangesByte (journalOf (earlier ++ block :: later)) changed index)
    (cutsOff : CutsOffAfter earlier changed index)
    (restores : Restores context genesisState earlier genesis executed)

include appended changes cutsOff restores

/-- A journal that a damaged length cuts off opens if the blocks before the
damage are a chain, and loses the others. -/
theorem openJournal_of_cutsOff :
    openJournal context genesisState changed =
      .ok (coordinator genesis executed) (journalOf earlier) := by
  have within := payloads_within appended
  unfold journalOf at changes
  rw [List.map_append, List.map_cons] at changes within
  rcases scans_of_outruns within changes cutsOff.1 cutsOff.2 with ⟨tail, scans⟩
  rw [← restores.payloads] at scans
  refine openJournal_eq_ok.mpr ⟨genesis, executed, some tail, restores.made, restores.journalled,
    scans, rfl, ?_⟩
  exact (congrArg blockFrameFormat.encodeFrames restores.payloads).symm

/-- A journal that was cut off has lost blocks. -/
theorem harmed_of_cutsOff :
    ¬OpensUnharmed context genesisState (earlier ++ block :: later) changed := by
  have opens := openJournal_of_cutsOff appended changes cutsOff restores
  intro unharmed
  rcases unharmed with ⟨fault, failed⟩ | ⟨otherGenesis, others, final, whole, recovered⟩
  · rw [opens] at failed
    cases failed
  rw [opens] at recovered
  injection recovered with sameExecution _
  have sameJournal : chainJournal executed = chainJournal others :=
    congrArg journal sameExecution
  have isEarlier : chainJournal executed = journalOf earlier :=
    congrArg blockFrameFormat.encodeFrames restores.payloads
  have isWhole : chainJournal others = journalOf (earlier ++ block :: later) :=
    congrArg blockFrameFormat.encodeFrames whole.payloads
  have shorter := congrArg List.length sameJournal
  rw [isEarlier, isWhole, journalOf_append, journalOf_cons, List.length_append,
    List.length_append, length_encodeFrame] at shorter
  have positive := frameLength_pos block.payload
  omega

end

theorem restores_nil
    (made : CommittedExecutionState.genesis genesisState context.chainAnchor = .ok genesis) :
    Restores context genesisState [] genesis [] :=
  ⟨made, journalled_nil context genesis, rfl⟩

omit [Sha256] in
/-- A length below 65536 is written with two zeros, and a one in place of the
second adds 65536 to it. -/
theorem ofBigEndian_raised {length : Nat} (small : length < 2 ^ 16) :
    bigEndian 4 length = 0 :: 0 :: bigEndian 2 length /\
      ofBigEndian (0 :: 1 :: bigEndian 2 length) = 65536 + length := by
  constructor
  · have first : length / 256 ^ 3 = 0 := Nat.div_eq_of_lt (by omega)
    have second : length / 256 ^ 2 = 0 := Nat.div_eq_of_lt (by omega)
    rw [bigEndian, first, bigEndian, second]
    rfl
  · rw [ofBigEndian, ofBigEndian, ofBigEndian_bigEndian (by omega), List.length_cons,
      length_bigEndian]
    simp

theorem exists_cutsOff (small : block.payload.length < 2 ^ 16) :
    ∃ changed, ChangesByte (journalOf [block]) changed 7 /\ CutsOffAfter [] changed 7 := by
  rcases ofBigEndian_raised small with ⟨isLength, isRaised⟩
  have magicLength := blockFrameFormat.magic.length_toList
  have maximum : blockFrameFormat.maximum.toNat = 217113110 := rfl
  have claimed := claimedLength_fields magicLength
    (length_bigEndian 2 blockFrameFormat.version.toNat)
    (by rw [List.length_cons, List.length_cons, length_bigEndian] :
      (0 :: 1 :: bigEndian 2 block.payload.length).length = 4)
    (block.payload ++ bigEndian 4 (crc32 block.payload).toNat)
  rw [isRaised] at claimed
  refine ⟨_, ⟨blockFrameFormat.magic.toList ++ (bigEndian 2 blockFrameFormat.version.toNat ++ [0]),
    0, 1, bigEndian 2 block.payload.length ++
      (block.payload ++ bigEndian 4 (crc32 block.payload).toNat), ?_, rfl, by decide, ?_⟩,
    Nat.zero_le _, ?_⟩
  · rw [journalOf_cons]
    simp only [FrameFormat.encodeFrame, encodeHeader, isLength, List.append_assoc]
    simp [journalOf]
  · rw [List.length_append, magicLength, List.length_append, length_bigEndian]
    rfl
  · have isChanged : blockFrameFormat.magic.toList ++
        (bigEndian 2 blockFrameFormat.version.toNat ++ [0]) ++ 1 ::
          (bigEndian 2 block.payload.length ++
            (block.payload ++ bigEndian 4 (crc32 block.payload).toNat)) =
        blockFrameFormat.magic.toList ++ (bigEndian 2 blockFrameFormat.version.toNat ++
          ((0 :: 1 :: bigEndian 2 block.payload.length) ++
            (block.payload ++ bigEndian 4 (crc32 block.payload).toNat))) := by
      simp only [List.append_assoc, List.cons_append, List.nil_append]
    rw [isChanged]
    change blockFrameFormat.Outruns (List.drop 0 _) 7
    rw [List.drop_zero]
    refine ⟨by decide, ?_, ?_⟩
    · rw [claimed, maximum]
      omega
    · rw [claimed]
      simp only [List.length_append, magicLength, length_bigEndian, List.length_cons,
        frameHeaderLength, frameChecksumLength]
      omega

/-- The first block of a chain is lost after one changed byte. -/
theorem exists_lost_block
    (made : CommittedExecutionState.genesis genesisState context.chainAnchor = .ok genesis)
    (network : context.cometBftGenesis.id ≠ .replicate 32 0) {proposal executed}
    (executes : Executes context genesis proposal executed)
    (small : (ofExecuted executed).payload.length < 2 ^ 16) :
    ∃ execution changed, PersistentExecution.commit context .complete executed
        (coordinator genesis []) = .ok (receiptOf executed 0) execution /\
      execution.journal = journalOf [ofExecuted executed] /\
      ChangesByte execution.journal changed 7 /\
      openJournal context genesisState changed = .ok (coordinator genesis []) [] /\
      ¬OpensUnharmed context genesisState [ofExecuted executed] changed := by
  rcases (standing_coordinator (journalled_nil context genesis)).commit_of_child made network
    (reexecutes_of_executes executes) with ⟨committed, journalled⟩
  rcases exists_cutsOff small with ⟨changed, changes, cutsOff⟩
  have appended : forall member, member ∈ [] ++ ofExecuted executed :: [] ->
      Appended member := journalled.appended_map
  exact ⟨_, changed, committed, rfl, changes,
    openJournal_of_cutsOff appended changes cutsOff (restores_nil made),
    harmed_of_cutsOff appended changes cutsOff (restores_nil made)⟩

/-- One changed byte of a journal does no harm exactly when it does not make the
length of a frame run past the end of the file behind blocks that can be
executed again. -/
theorem opensUnharmed_iff (appended : forall block, block ∈ blocks -> Appended block)
    (changes : ChangesByte (journalOf blocks) changed index) :
    OpensUnharmed context genesisState blocks changed <->
      ¬∃ earlier block later genesis executed, blocks = earlier ++ block :: later /\
        CutsOffAfter earlier changed index /\
        Restores context genesisState earlier genesis executed := by
  constructor
  · intro unharmed harmed
    rcases harmed with ⟨earlier, block, later, genesis, executed, rfl, cutsOff, restores⟩
    exact harmed_of_cutsOff appended changes cutsOff restores unharmed
  · intro harmless
    cases outcome : openJournal context genesisState changed with
    | error fault final =>
      rw [openJournal_failed outcome] at outcome
      exact Or.inl ⟨fault, outcome⟩
    | ok execution final =>
      rcases cutsOff_of_openJournal appended changes outcome with
        ⟨earlier, block, later, genesis, executed, isBlocks, cutsOff, restores, _⟩
      exact absurd ⟨earlier, block, later, genesis, executed, isBlocks, cutsOff, restores⟩ harmless

end

section
open Fips180

theorem small_testProposal {block}
    (executes : Executes testExecutionContext testCommitted testProposal block) :
    (ofExecuted block).payload.length < 2 ^ 16 := by
  have bytes : (testProposal.transactions.map List.length).sum < 2 ^ 15 := by decide +kernel
  have counted : testProposal.transactions.length = 2 := rfl
  rw [length_payload_of_executes executes, executes.runs.length_records, counted]
  omega

/-- A committed block is lost after one changed byte of its length. -/
theorem testProposal_lost : ∃ block execution changed,
    PersistentExecution.commit testExecutionContext .complete block (coordinator testCommitted []) =
        .ok (receiptOf block 0) execution /\
      execution.journal = journalOf [StoredBlock.ofExecuted block] /\
      ChangesByte execution.journal changed 7 /\
      PersistentExecution.openJournal testExecutionContext testLedger changed =
        .ok (coordinator testCommitted []) [] /\
      ¬OpensUnharmed testExecutionContext testLedger [StoredBlock.ofExecuted block] changed := by
  rcases exists_executes_testProposal with ⟨block, executes⟩
  exact ⟨block, exists_lost_block genesis_testCommitted network_testExecutionContext executes
    (small_testProposal executes)⟩

/-- A changed byte of the magic does no harm. -/
theorem testProposal_kept : ∃ block changed,
    (forall stored, stored ∈ [StoredBlock.ofExecuted block] -> Appended stored) /\
      ChangesByte (journalOf [StoredBlock.ofExecuted block]) changed 0 /\
      OpensUnharmed testExecutionContext testLedger [StoredBlock.ofExecuted block] changed := by
  rcases exists_executes_testProposal with ⟨block, executes⟩
  have appended : forall stored, stored ∈ [ofExecuted block] -> Appended stored := by
    intro stored member
    rw [List.mem_singleton.mp member]
    exact appended_of_executes network_testExecutionContext executes
  cases isJournal : journalOf [ofExecuted block] with
  | nil => exact absurd isJournal (encodeFrame_ne_nil _ _)
  | cons first rest =>
    have changes : ChangesByte (journalOf [ofExecuted block]) ((first + 1) :: rest) 0 :=
      ⟨[], first, first + 1, rest, isJournal, rfl, by simp, rfl⟩
    refine ⟨block, (first + 1) :: rest, appended, isJournal ▸ changes,
      (opensUnharmed_iff appended changes).mpr ?_⟩
    rintro ⟨earlier, _, _, _, _, _, ⟨_, outruns⟩, _⟩
    have field := outruns.field
    omega

end
end Noxis.Storage
