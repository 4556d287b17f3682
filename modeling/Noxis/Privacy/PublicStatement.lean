import Noxis.Privacy.StateAnchor

namespace Noxis.Privacy

open Foundation

/-!
# Public statements of private transfers

A statement joins an anchor, an intent with its packed bytes and commitment, and
the nullifier roots before and after the transfer.  Every part is recomputed from
the current tree before a proof is checked against it.  The two nullifiers are
inserted one after the other, and their absence is shown on the tree that each
insertion starts from.
-/

/-- The parameters together with the starting value of the intent domain. -/
structure Poseidon2P24PrivacyReference where
  candidate : Poseidon2P24Candidate
  intentIv : Fin 9 -> Val
  recipientEnvelopeIv : Fin 9 -> Val

/-- The parameters that the repository ships. -/
def loadPrivacyReference : Poseidon2P24PrivacyReference where
  candidate := loadCandidate
  intentIv := ![1819200036, 1876339393, 1398038240, 209277844, 1313667583, 1517749525, 1941790785,
    769299377, 68669752]
  recipientEnvelopeIv := ![1651070211, 1368282582, 354832839, 1092004340, 1001780861, 262236905,
    342949394, 1008828697, 285296859]

def Poseidon2P24PrivacyReference.hashPrivateTransferIntent
    (privacy : Poseidon2P24PrivacyReference) (intent : PrivateTransferIntentV2) :
    PrivateTransferIntentCommitmentV2 :=
  .ofDigest (privacy.candidate.hashElements privacy.intentIv
    ((bytePack3le intent.encode).map Nat.cast))

/-- The identity of the frozen tree parameters. -/
def candidateTreeParametersId : TreeParametersId where
  bytes := ⟨[150, 216, 195, 148, 252, 62, 202, 69, 107, 145, 139, 150, 188, 83, 42, 51, 149, 213,
    59, 103, 125, 121, 137, 231, 121, 20, 49, 76, 7, 125, 250, 59], rfl⟩

inductive CandidatePrivateTransferAirPublicInputsError where
  | candidateTreeParametersMismatch
  | intentCommitmentMismatch
  | intentPackingMismatch
deriving DecidableEq, Repr

structure CandidatePrivateTransferAirPublicInputsV1 where
  intent : PrivateTransferIntentV2
  intentElements : List Nat
  intentCommitment : PrivateTransferIntentCommitmentV2

namespace CandidatePrivateTransferAirPublicInputsV1

variable (privacy : Poseidon2P24PrivacyReference)

def fromIntent (intent : PrivateTransferIntentV2) :
    Except CandidatePrivateTransferAirPublicInputsError
      CandidatePrivateTransferAirPublicInputsV1 :=
  if intent.treeParameters.id ≠ candidateTreeParametersId then
    .error .candidateTreeParametersMismatch
  else
    .ok {
      intent
      intentElements := bytePack3le intent.encode
      intentCommitment := privacy.hashPrivateTransferIntent intent }

/-- Recompute the commitment and the packed bytes. -/
def revalidate (inputs : CandidatePrivateTransferAirPublicInputsV1) :
    Except CandidatePrivateTransferAirPublicInputsError Unit := do
  let expected ← fromIntent privacy inputs.intent
  if expected.intentCommitment ≠ inputs.intentCommitment then
    .error .intentCommitmentMismatch
  else if expected.intentElements ≠ inputs.intentElements then
    .error .intentPackingMismatch
  else
    .ok ()

end CandidatePrivateTransferAirPublicInputsV1

inductive CandidateNxsmNullifierTransitionError where
  | anchor (reason : PrivateStateAnchorError)
  | sparseTree (reason : NullifierSparseTreeStateError)
  | anchorRootMismatch
  | anchorCountMismatch (anchor tree : Nat)
  | inputAlreadySpent (index : Nat)
  | publicStatementMismatch
deriving DecidableEq

abbrev CandidateNxsmNullifierTransitionIdV1 := PrivateIdentifier .nullifierTransition

/-- The nullifier tree before and after a transfer. -/
structure CandidateNxsmNullifierTransitionV1 where
  nullifierTreeCandidate : CandidatePoseidon2P24NullifierSparseIdV1
  preStateId : StateId
  preRoot : NullifierSparseRootV1
  preSpentCount : Nat
  postRoot : NullifierSparseRootV1
  postSpentCount : Nat
  nullifiers : Fin 2 -> NullifierV2
  intentCommitment : PrivateTransferIntentCommitmentV2
  transitionId : CandidateNxsmNullifierTransitionIdV1
deriving DecidableEq

def afterMarking (reference : NullifierSparseTreeReferenceV1) (nullifiers : List NullifierV2)
    (tree : NullifierSparseTreeStateV1) :
    Except NullifierSparseTreeStateError NullifierSparseTreeStateV1 :=
  match markAll reference nullifiers tree with
  | .error reason _ => .error reason
  | .ok _ next => .ok next

theorem afterMarking_eq_ok {reference nullifiers tree next} :
    afterMarking reference nullifiers tree = .ok next <->
      markAll reference nullifiers tree = .ok () next := by
  unfold afterMarking
  constructor
  · intro marked
    split at marked
    · cases marked
    · rename_i isMarked
      rw [← Except.ok.inj marked]
      exact isMarked
  · intro marked
    rw [marked]

namespace CandidateNxsmNullifierTransitionV1

/-- The framed fields, without the identity. -/
def encode (transition : CandidateNxsmNullifierTransitionV1) : List UInt8 :=
  utf8 "NXNT" ++ bigEndian 2 1 ++ [0, 0] ++ transition.nullifierTreeCandidate.bytes.toList ++
    transition.preStateId.bytes.toList ++ transition.preRoot.bytes.toList ++
    bigEndian 8 transition.preSpentCount ++ transition.postRoot.bytes.toList ++
    bigEndian 8 transition.postSpentCount ++
    [transition.nullifiers 0, transition.nullifiers 1].flatMap
      (fun nullifier => nullifier.bytes.toList) ++
    transition.intentCommitment.bytes.toList

variable [Sha256] (reference : NullifierSparseTreeReferenceV1)
  (privacy : Poseidon2P24PrivacyReference)

/-- The transition between two trees, with its identity. -/
def between (anchor : PrivateStateAnchorV2) (preTree postTree : NullifierSparseTreeStateV1)
    (intent : PrivateTransferIntentV2) : CandidateNxsmNullifierTransitionV1 :=
  let transition : CandidateNxsmNullifierTransitionV1 := {
    nullifierTreeCandidate := nullifierSparseCandidateId
    preStateId := anchor.stateId
    preRoot := preTree.root reference
    preSpentCount := preTree.spentCount
    postRoot := postTree.root reference
    postSpentCount := postTree.spentCount
    nullifiers := intent.nullifiers
    intentCommitment := privacy.hashPrivateTransferIntent intent
    transitionId := ⟨Bytes.replicate 32 0⟩ }
  { transition with
    transitionId := ⟨Sha256.digest
      (utf8 "NOXIS/NXSM-NULLIFIER-TRANSITION-ID/V1\x00" ++ transition.encode)⟩ }

/-- Refuse an input that is spent or whose absence the tree does not prove. -/
def requireAbsent (preTree : NullifierSparseTreeStateV1) (intent : PrivateTransferIntentV2)
    (index : Fin 2) : Except CandidateNxsmNullifierTransitionError Unit :=
  if preTree.isSpent (intent.nullifiers index) then
    .error (.inputAlreadySpent index.val)
  else
    (reference.verifyAbsence (preTree.root reference) (intent.nullifiers index)
      (preTree.prove reference (intent.nullifiers index))).mapError
        (fun reason => .sparseTree (.reference reason))

def new (anchor : PrivateStateAnchorV2) (preTree : NullifierSparseTreeStateV1)
    (intent : PrivateTransferIntentV2) :
    Except CandidateNxsmNullifierTransitionError CandidateNxsmNullifierTransitionV1 := do
  (anchor.assertMatchesIntent intent).mapError .anchor
  if preTree.root reference ≠ anchor.nullifierRoot then
    .error .anchorRootMismatch
  else if preTree.spentCount ≠ anchor.spentNullifierCount then
    .error (.anchorCountMismatch anchor.spentNullifierCount preTree.spentCount)
  else do
    (List.finRange 2).forM (requireAbsent reference preTree intent)
    let postTree ← (afterMarking reference intent.nullifierList preTree).mapError .sparseTree
    .ok (between reference privacy anchor preTree postTree intent)

/-- Repeat the transition and compare. -/
def revalidate (transition : CandidateNxsmNullifierTransitionV1) (anchor : PrivateStateAnchorV2)
    (preTree : NullifierSparseTreeStateV1) (intent : PrivateTransferIntentV2) :
    Except CandidateNxsmNullifierTransitionError Unit := do
  let expected ← new reference privacy anchor preTree intent
  if expected ≠ transition then .error .publicStatementMismatch else .ok ()

end CandidateNxsmNullifierTransitionV1

inductive CandidateNxsmNullifierTransitionWitnessError where
  | sparseTree (reason : NullifierSparseTreeStateError)
  | reference (reason : NullifierTreeReferenceError)
  | inputAlreadySpent (index : Nat)
  | candidateMismatch
  | spentCountMismatch
  | postRootMismatch
deriving DecidableEq

/-- The siblings of the first nullifier, and those of the second once the first
is spent. -/
structure CandidateNxsmNullifierTransitionWitnessV1 where
  firstAbsencePath : List BabyBearDigest
  secondAbsencePath : List BabyBearDigest

namespace CandidateNxsmNullifierTransitionWitnessV1

variable (reference : NullifierSparseTreeReferenceV1)

def fromPreTree (preTree : NullifierSparseTreeStateV1) (intent : PrivateTransferIntentV2) :
    Except CandidateNxsmNullifierTransitionWitnessError
      CandidateNxsmNullifierTransitionWitnessV1 :=
  if preTree.isSpent (intent.nullifiers 0) then
    .error (.inputAlreadySpent 0)
  else do
    let afterFirst ← (afterMarking reference [intent.nullifiers 0] preTree).mapError .sparseTree
    if afterFirst.isSpent (intent.nullifiers 1) then
      .error (.inputAlreadySpent 1)
    else
      .ok {
        firstAbsencePath := preTree.prove reference (intent.nullifiers 0)
        secondAbsencePath := afterFirst.prove reference (intent.nullifiers 1) }

/-- Replay both paths from the root before to the root after. -/
def revalidate (witness : CandidateNxsmNullifierTransitionWitnessV1)
    (transition : CandidateNxsmNullifierTransitionV1) :
    Except CandidateNxsmNullifierTransitionWitnessError Unit :=
  let first := transition.nullifiers 0
  let second := transition.nullifiers 1
  if transition.nullifierTreeCandidate ≠ nullifierSparseCandidateId then
    .error .candidateMismatch
  else if 2 ^ 64 <= transition.preSpentCount + 2 ∨
      transition.postSpentCount ≠ transition.preSpentCount + 2 then
    .error .spentCountMismatch
  else do
    (reference.verifyAbsence transition.preRoot first witness.firstAbsencePath).mapError .reference
    let intermediateRoot ← (reference.rootFromPath first (reference.spentLeaf first)
      witness.firstAbsencePath).mapError .reference
    (reference.verifyAbsence intermediateRoot second witness.secondAbsencePath).mapError .reference
    let postRoot ← (reference.rootFromPath second (reference.spentLeaf second)
      witness.secondAbsencePath).mapError .reference
    if postRoot ≠ transition.postRoot then .error .postRootMismatch else .ok ()

end CandidateNxsmNullifierTransitionWitnessV1

/-! ## Statements -/

inductive CandidatePrivateTransferProofPublicStatementError where
  | anchor (reason : PrivateStateAnchorError)
  | airPublicInputs (reason : CandidatePrivateTransferAirPublicInputsError)
  | nullifierTransition (reason : CandidateNxsmNullifierTransitionError)
  | intentCommitmentMismatch
  | preStateIdMismatch
  | nullifierMismatch
  | nullifierTreeCandidateMismatch
  | preNullifierStateMismatch
  | statementIdMismatch
deriving DecidableEq

abbrev CandidatePrivateTransferProofPublicStatementIdV1 := PrivateIdentifier .publicStatement

structure CandidatePrivateTransferProofPublicStatementV1 where
  anchor : PrivateStateAnchorV2
  airPublicInputs : CandidatePrivateTransferAirPublicInputsV1
  nullifierTransition : CandidateNxsmNullifierTransitionV1
  statementId : CandidatePrivateTransferProofPublicStatementIdV1

/-- The parts of a statement name one state, one intent and two nullifiers. -/
def validateCrossBindings (anchor : PrivateStateAnchorV2)
    (air : CandidatePrivateTransferAirPublicInputsV1)
    (transition : CandidateNxsmNullifierTransitionV1) :
    Except CandidatePrivateTransferProofPublicStatementError Unit :=
  if air.intentCommitment ≠ transition.intentCommitment then
    .error .intentCommitmentMismatch
  else if air.intent.preStateId ≠ anchor.stateId ∨
      air.intent.preStateId ≠ transition.preStateId then
    .error .preStateIdMismatch
  else if air.intent.nullifiers ≠ transition.nullifiers then
    .error .nullifierMismatch
  else if anchor.nullifierTreeCandidate ≠ transition.nullifierTreeCandidate then
    .error .nullifierTreeCandidateMismatch
  else if anchor.nullifierRoot ≠ transition.preRoot ∨
      anchor.spentNullifierCount ≠ transition.preSpentCount then
    .error .preNullifierStateMismatch
  else
    .ok ()

namespace CandidatePrivateTransferProofPublicStatementV1

def encode (statement : CandidatePrivateTransferProofPublicStatementV1) : List UInt8 :=
  utf8 "NXPU" ++ bigEndian 2 1 ++ [0, 0] ++ statement.anchor.stateId.bytes.toList ++
    statement.anchor.encode ++ statement.airPublicInputs.intent.encode ++
    statement.airPublicInputs.intentCommitment.bytes.toList ++ statement.nullifierTransition.encode

variable [Sha256]

def computeId (statement : CandidatePrivateTransferProofPublicStatementV1) :
    CandidatePrivateTransferProofPublicStatementIdV1 :=
  ⟨Sha256.digest
    (utf8 "NOXIS/PRIVATE-TRANSFER-PROOF-PUBLIC-STATEMENT-ID/V1\x00" ++ statement.encode)⟩

variable (reference : NullifierSparseTreeReferenceV1) (privacy : Poseidon2P24PrivacyReference)

def new (anchor : PrivateStateAnchorV2) (preTree : NullifierSparseTreeStateV1)
    (intent : PrivateTransferIntentV2) :
    Except CandidatePrivateTransferProofPublicStatementError
      CandidatePrivateTransferProofPublicStatementV1 := do
  (anchor.assertMatchesIntent intent).mapError .anchor
  let airPublicInputs ← (CandidatePrivateTransferAirPublicInputsV1.fromIntent privacy
    intent).mapError .airPublicInputs
  let nullifierTransition ← (CandidateNxsmNullifierTransitionV1.new reference privacy anchor
    preTree intent).mapError .nullifierTransition
  validateCrossBindings anchor airPublicInputs nullifierTransition
  let statement : CandidatePrivateTransferProofPublicStatementV1 := {
    anchor, airPublicInputs, nullifierTransition, statementId := ⟨Bytes.replicate 32 0⟩ }
  .ok { statement with statementId := statement.computeId }

/-- Recheck every part against the current tree. -/
def revalidate (statement : CandidatePrivateTransferProofPublicStatementV1)
    (preTree : NullifierSparseTreeStateV1) :
    Except CandidatePrivateTransferProofPublicStatementError Unit := do
  (statement.anchor.assertMatchesIntent statement.airPublicInputs.intent).mapError .anchor
  (statement.airPublicInputs.revalidate privacy).mapError .airPublicInputs
  (statement.nullifierTransition.revalidate reference privacy statement.anchor preTree
    statement.airPublicInputs.intent).mapError .nullifierTransition
  validateCrossBindings statement.anchor statement.airPublicInputs statement.nullifierTransition
  if statement.computeId ≠ statement.statementId then .error .statementIdMismatch else .ok ()

end CandidatePrivateTransferProofPublicStatementV1

section
variable [Sha256] {reference : NullifierSparseTreeReferenceV1}
  {privacy : Poseidon2P24PrivacyReference} {anchor : PrivateStateAnchorV2}
  {tree : NullifierSparseTreeStateV1} {intent : PrivateTransferIntentV2}
  {spent : Finset NullifierV2}
  {transition : CandidateNxsmNullifierTransitionV1}

/-- A transition is built when the tree is the anchored one and lacks both
inputs. -/
theorem CandidateNxsmNullifierTransitionV1.new_eq_ok :
    CandidateNxsmNullifierTransitionV1.new reference privacy anchor tree intent = .ok transition <->
      anchor.assertMatchesIntent intent = .ok () /\ tree.root reference = anchor.nullifierRoot /\
      tree.spentCount = anchor.spentNullifierCount /\
      (forall index, requireAbsent reference tree intent index = .ok ()) /\
      ∃ postTree, markAll reference intent.nullifierList tree = .ok () postTree /\
        between reference privacy anchor tree postTree intent = transition := by
  simp only [CandidateNxsmNullifierTransitionV1.new, Except.bind_eq_ok, Except.mapError_eq_ok,
    Except.refuse_eq_ok, not_not, afterMarking_eq_ok, Except.ok.injEq]
  constructor
  · grind [Except.forM_eq_ok]
  · intro made
    rcases made with ⟨starts, sameRoot, sameCount, absent, postTree, marked, isTransition⟩
    exact ⟨(), starts, sameRoot, sameCount, (), Except.forM_eq_ok.mpr (fun index _ => absent index),
      postTree, marked, isTransition⟩

variable {statement : CandidatePrivateTransferProofPublicStatementV1}

theorem unspent_of_revalidate (accepted : statement.revalidate reference privacy tree = .ok ())
    (index : Fin 2) : tree.isSpent (statement.airPublicInputs.intent.nullifiers index) = false := by
  rcases Except.bind_eq_ok.mp accepted with ⟨_, _, accepted⟩
  rcases Except.bind_eq_ok.mp accepted with ⟨_, _, accepted⟩
  rcases Except.bind_eq_ok.mp accepted with ⟨_, transition, _⟩
  rcases Except.bind_eq_ok.mp (Except.mapError_eq_ok.mp transition) with ⟨expected, made, _⟩
  have absent := (CandidateNxsmNullifierTransitionV1.new_eq_ok.mp made).2.2.2.1 index
  exact Bool.eq_false_iff.mpr (Except.refuse_eq_ok.mp absent).1

/-- A statement passes the checks for the tree it is built with. -/
theorem CandidatePrivateTransferProofPublicStatementV1.revalidate_of_new
    (made : CandidatePrivateTransferProofPublicStatementV1.new reference privacy anchor tree
      intent = .ok statement) :
    statement.anchor = anchor /\ statement.airPublicInputs.intent = intent /\
      CandidateNxsmNullifierTransitionV1.new reference privacy anchor tree intent =
        .ok statement.nullifierTransition /\
      statement.revalidate reference privacy tree = .ok () := by
  rcases Except.bind_eq_ok.mp made with ⟨_, starts, made⟩
  rcases Except.bind_eq_ok.mp made with ⟨inputs, isInputs, made⟩
  rcases Except.bind_eq_ok.mp made with ⟨transition, isTransition, made⟩
  rcases Except.bind_eq_ok.mp made with ⟨_, bound, isStatement⟩
  have fromIntent := Except.mapError_eq_ok.mp isInputs
  have fromTree := Except.mapError_eq_ok.mp isTransition
  have sameIntent : inputs.intent = intent := by
    rw [← Except.ok.inj (Except.refuse_eq_ok.mp fromIntent).2]
  have revalidated : inputs.revalidate privacy = .ok () := by
    apply Except.bind_eq_ok.mpr
    simp [*]
  have repeated : transition.revalidate reference privacy anchor tree inputs.intent = .ok () := by
    apply Except.bind_eq_ok.mpr
    simp [*]
  rw [← Except.ok.inj isStatement]
  refine ⟨rfl, sameIntent, fromTree, ?_⟩
  apply Except.bind_eq_ok.mpr
  refine ⟨(), by rw [sameIntent]; exact starts, ?_⟩
  apply Except.bind_eq_ok.mpr
  refine ⟨(), Except.mapError_eq_ok.mpr revalidated, ?_⟩
  apply Except.bind_eq_ok.mpr
  refine ⟨(), Except.mapError_eq_ok.mpr repeated, ?_⟩
  exact Except.bind_eq_ok.mpr ⟨(), bound, if_neg (not_not.mpr rfl)⟩

omit [Sha256] in
/-- Inputs that the stored set lacks are shown to be absent. -/
theorem StoresSet.requireAbsent (stores : StoresSet reference tree spent) {index}
    (unspent : intent.nullifiers index ∉ spent) :
    CandidateNxsmNullifierTransitionV1.requireAbsent reference tree intent index = .ok () := by
  apply Except.refuse_eq_ok.mpr
  rw [stores.isSpent_iff]
  exact ⟨unspent, Except.mapError_eq_ok.mpr (stores.verifyAbsence_prove unspent)⟩

omit [Sha256] in
/-- The second input stays unspent when the first is inserted. -/
theorem PrivateTransferIntentV2.second_notMem_insert (intent : PrivateTransferIntentV2)
    (unspent : intent.nullifiers 1 ∉ spent) :
    intent.nullifiers 1 ∉ insert (intent.nullifiers 0) spent := by
  intro member
  rcases Finset.mem_insert.mp member with same | old
  · exact intent.nullifiers_ne same.symm
  · exact unspent old

omit [Sha256] in
/-- The trees that the two insertions of a transfer lead to. -/
theorem StoresSet.spendInputs (stores : StoresSet reference tree spent)
    (unspent : forall index, intent.nullifiers index ∉ spent) :
    ∃ afterFirst postTree,
      afterMarking reference [intent.nullifiers 0] tree = .ok afterFirst /\
      StoresSet reference afterFirst (insert (intent.nullifiers 0) spent) /\
      Privacy.markAll reference intent.nullifierList tree = .ok () postTree /\
      StoresSet reference postTree
        (insert (intent.nullifiers 1) (insert (intent.nullifiers 0) spent)) := by
  have second := intent.second_notMem_insert (unspent 1)
  have markedFirst := stores.markSpent_eq (intent.nullifiers 0)
  rw [if_neg (unspent 0)] at markedFirst
  have firstStores := stores.insert_path (unspent 0)
  have markedSecond := firstStores.markSpent_eq (intent.nullifiers 1)
  rw [if_neg second] at markedSecond
  refine ⟨_, _, afterMarking_eq_ok.mpr ?_, firstStores, ?_, firstStores.insert_path second⟩
  · rw [Privacy.markAll, bind_of_ok markedFirst]
    rfl
  · rw [PrivateTransferIntentV2.nullifierList, Privacy.markAll, bind_of_ok markedFirst,
      Privacy.markAll, bind_of_ok markedSecond]
    rfl

/-- A statement is built for an intent that starts from the anchored state, uses
the frozen parameters and spends unspent nullifiers. -/
theorem StoresSet.exists_statement (stores : StoresSet reference tree spent)
    (sameRoot : tree.root reference = anchor.nullifierRoot)
    (sameCount : tree.spentCount = anchor.spentNullifierCount)
    (sameCandidate : anchor.nullifierTreeCandidate = nullifierSparseCandidateId)
    (starts : anchor.assertMatchesIntent intent = .ok ())
    (frozen : intent.treeParameters.id = candidateTreeParametersId)
    (unspent : forall index, intent.nullifiers index ∉ spent) :
    ∃ statement, CandidatePrivateTransferProofPublicStatementV1.new reference privacy anchor tree
      intent = .ok statement := by
  rcases stores.spendInputs unspent with ⟨_, postTree, _, _, marked, _⟩
  have made := (@CandidateNxsmNullifierTransitionV1.new_eq_ok _ reference privacy anchor tree
    intent _).mpr ⟨starts, sameRoot, sameCount,
      fun index => stores.requireAbsent (unspent index), postTree, marked, rfl⟩
  have sameState : intent.preStateId = anchor.stateId := by
    have checked := (Except.refuse_eq_ok.mp starts).2
    have checked := (Except.refuse_eq_ok.mp checked).2
    have checked := (Except.refuse_eq_ok.mp checked).2
    have checked := (Except.refuse_eq_ok.mp checked).2
    exact not_not.mp (Except.refuse_eq_ok.mp checked).1
  refine ⟨_, Except.bind_eq_ok.mpr ⟨(), Except.mapError_eq_ok.mpr starts,
    Except.bind_eq_ok.mpr ⟨_, Except.mapError_eq_ok.mpr (if_neg (not_not.mpr frozen)),
      Except.bind_eq_ok.mpr ⟨_, Except.mapError_eq_ok.mpr made,
        Except.bind_eq_ok.mpr ⟨(), ?_, rfl⟩⟩⟩⟩⟩
  simp only [validateCrossBindings, CandidateNxsmNullifierTransitionV1.between, sameState,
    sameCandidate, sameRoot, sameCount, ne_eq, not_true_eq_false, or_self, if_false]

omit [Sha256] in
/-- Paths replay a transition when the first leads to an intermediate root and
the second from there to the root after the transfer. -/
theorem CandidateNxsmNullifierTransitionWitnessV1.revalidate_eq_ok
    {witness : CandidateNxsmNullifierTransitionWitnessV1} :
    witness.revalidate reference transition = .ok () <->
      transition.nullifierTreeCandidate = nullifierSparseCandidateId /\
      transition.preSpentCount + 2 < 2 ^ 64 /\
      transition.postSpentCount = transition.preSpentCount + 2 /\
      ∃ intermediateRoot,
        reference.verifyAbsence transition.preRoot (transition.nullifiers 0)
          witness.firstAbsencePath = .ok () /\
        reference.rootFromPath (transition.nullifiers 0)
          (reference.spentLeaf (transition.nullifiers 0)) witness.firstAbsencePath =
            .ok intermediateRoot /\
        reference.verifyAbsence intermediateRoot (transition.nullifiers 1)
          witness.secondAbsencePath = .ok () /\
        reference.rootFromPath (transition.nullifiers 1)
          (reference.spentLeaf (transition.nullifiers 1)) witness.secondAbsencePath =
            .ok transition.postRoot := by
  simp only [CandidateNxsmNullifierTransitionWitnessV1.revalidate, Except.refuse_eq_ok,
    Except.bind_eq_ok, Except.mapError_eq_ok, not_or, not_not, Nat.not_le]
  constructor
  · grind
  · intro replayed
    rcases replayed with ⟨candidate, fits, counts, intermediateRoot, first, isIntermediate, second,
      isPost⟩
    exact ⟨candidate, ⟨fits, counts⟩, (), first, intermediateRoot, isIntermediate, (), second, _,
      isPost, rfl, trivial⟩

theorem StoresSet.exists_witness (stores : StoresSet reference tree spent)
    (unspent : forall index, intent.nullifiers index ∉ spent) (room : spent.card + 2 < 2 ^ 64)
    (made : CandidateNxsmNullifierTransitionV1.new reference privacy anchor tree intent =
      .ok transition) :
    ∃ witness, CandidateNxsmNullifierTransitionWitnessV1.fromPreTree reference tree intent =
        .ok witness /\ witness.revalidate reference transition = .ok () := by
  have second := intent.second_notMem_insert (unspent 1)
  rcases stores.spendInputs unspent with ⟨afterFirst, postTree, first, firstStores, marked, both⟩
  rcases CandidateNxsmNullifierTransitionV1.new_eq_ok.mp made with
    ⟨_, _, _, _, found, isFound, isTransition⟩
  have sameTree : found = postTree := (EStateM.Result.ok.inj (isFound.symm.trans marked)).2
  subst sameTree
  have firstUnspent : ¬ tree.isSpent (intent.nullifiers 0) = true := by
    rw [stores.isSpent_iff]
    exact unspent 0
  have secondUnspent : ¬ afterFirst.isSpent (intent.nullifiers 1) = true := by
    rw [firstStores.isSpent_iff]
    exact second
  refine ⟨_, Except.refuse_eq_ok.mpr ⟨firstUnspent, Except.bind_eq_ok.mpr ⟨afterFirst,
    Except.mapError_eq_ok.mpr first, if_neg secondUnspent⟩⟩, ?_⟩
  have firstAbsent := stores.verifyAbsence_prove (unspent 0)
  have secondAbsent := firstStores.verifyAbsence_prove second
  rw [firstStores.root_eq] at secondAbsent
  have counts : found.spentCount = tree.spentCount + 2 := by
    grind [count, Finset.card_insert_of_notMem]
  rw [← isTransition]
  apply CandidateNxsmNullifierTransitionWitnessV1.revalidate_eq_ok.mpr
  refine ⟨rfl, ?_, counts, _, firstAbsent, stores.rootFromPath_prove (intent.nullifiers 0),
    secondAbsent, ?_⟩
  · rw [← stores.count] at room
    exact room
  · refine (firstStores.rootFromPath_prove (intent.nullifiers 1)).trans ?_
    rw [← both.root_eq]
    rfl

end
end Noxis.Privacy
