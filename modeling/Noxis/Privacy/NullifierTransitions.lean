import Noxis.Privacy.PrivateLedger
import Noxis.Privacy.PublicStatement

namespace Noxis.Privacy

open Foundation

/-!
# Replayed nullifier transitions

A transition spends two nullifiers one after the other.  Its witness is a pair of
paths, the second one for the tree after the first insertion.  A reachable tree has a
witness for every transition that starts from it.  Any paths may be replayed, however:
a path that shows the absence of a nullifier under the root of a tree has the siblings
of the tree, or it shows a collision together with the tree's own path.  With the
tree's siblings the spent leaf climbs to the root after the insertion.
-/

/-- The inputs hashed along the path that a store proves. -/
def provenInputs (reference : NullifierSparseTreeReferenceV1) (state : NullifierSparseTreeStateV1)
    (nullifier : NullifierV2) :
    List ((domain : Poseidon2P24NullifierSparseDomainV1) × Bytes domain.inputBytes) :=
  if state.isSpent nullifier then
    inclusionInputs reference nullifier (state.prove reference nullifier)
  else
    absenceInputs reference nullifier (state.prove reference nullifier)

section
variable {reference : NullifierSparseTreeReferenceV1} {state : NullifierSparseTreeStateV1}
  {spent : Finset NullifierV2} {nullifier : NullifierV2}

theorem NullifierSparseTreeReferenceV1.verifyPath_of_rootFromPath {root leaf siblings}
    (computed : reference.rootFromPath nullifier leaf siblings = .ok root) :
    reference.verifyPath root nullifier leaf siblings = .ok () :=
  Except.bind_eq_ok.mpr ⟨root, computed, if_neg (not_not.mpr rfl)⟩

/-- The pairs joined along a proven path are among its inputs. -/
theorem StoresSet.mem_provenInputs (stores : StoresSet reference state spent) {pair}
    (member : pair ∈ pathPairs reference.nodePair (leafIndex nullifier)
      (completeLeaf reference spent (leafIndex nullifier))
      (siblingAt (state.prove reference nullifier)) nullifierSparseTreeDepth) :
    nodeInput pair ∈ provenInputs reference state nullifier := by
  unfold provenInputs
  by_cases isMember : nullifier ∈ spent
  · rw [if_pos (stores.isSpent_iff.mpr isMember)]
    rw [completeLeaf_self reference nullifier isMember] at member
    exact List.mem_cons_of_mem _ (List.mem_map_of_mem member)
  have unspent : completeLeaf reference spent (leafIndex nullifier) = reference.emptyLeaf := by
    apply completeLeaf_of_notMem
    intro other present same
    exact isMember (leafIndex_injective same ▸ present)
  rw [if_neg (fun isSpent => isMember (stores.isSpent_iff.mp isSpent))]
  rw [unspent] at member
  exact List.mem_cons_of_mem _ (List.mem_map_of_mem member)

/-- One insertion: a path that shows absence under the root of a store climbs from the
spent leaf to the root after the insertion, or it collides with the store's path. -/
theorem StoresSet.root_after_absence (stores : StoresSet reference state spent) {path next}
    (absent : reference.verifyAbsence (state.root reference) nullifier path = .ok ())
    (computed : reference.rootFromPath nullifier (reference.spentLeaf nullifier) path = .ok next) :
    next = completeRoot reference (insert nullifier spent) ∨
      CollisionBetween (treeHash reference) (absenceInputs reference nullifier path)
        (provenInputs reference state nullifier) := by
  have climbed := (reference.verifyPath_eq_ok.mp absent).2.2
  have treeClimbed := (reference.verifyPath_eq_ok.mp (stores.verifyPath_prove nullifier)).2.2
  rcases same_or_collision_of_climbPath_eq (climbed.trans treeClimbed.symm) with
    ⟨_, sameSiblings⟩ | collision
  · apply Or.inl
    have after := (reference.verifyPath_eq_ok.mp
      (NullifierSparseTreeReferenceV1.verifyPath_of_rootFromPath computed)).2.2
    have treeAfter := (reference.verifyPath_eq_ok.mp
      (NullifierSparseTreeReferenceV1.verifyPath_of_rootFromPath
        (stores.rootFromPath_prove nullifier))).2.2
    rw [climbPath_congr sameSiblings] at after
    exact CanonicalVector.digest_injective (after.symm.trans treeAfter)
  · apply Or.inr
    have inputs := @CollisionBetween.map _ _ (treeHash reference) _ nodeInput nodeInput_injective
      _ _ collision
    refine inputs.mono (fun _ member => List.mem_cons_of_mem _ member) ?_
    intro input member
    rcases List.mem_map.mp member with ⟨pair, isPair, rfl⟩
    exact stores.mem_provenInputs isPair

/-- A replayed witness leads from the root of a store to the root after both
insertions, or one of its paths collides with the path of the tree that it is checked
against. -/
theorem StoresSet.postRoot_of_revalidate (stores : StoresSet reference state spent) {next transition}
    {witness : CandidateNxsmNullifierTransitionWitnessV1}
    (nextStores : StoresSet reference next (insert (transition.nullifiers 0) spent))
    (starts : transition.preRoot = state.root reference)
    (replayed : witness.revalidate reference transition = .ok ()) :
    transition.postRoot = completeRoot reference
        (insert (transition.nullifiers 1) (insert (transition.nullifiers 0) spent)) ∨
      CollisionBetween (treeHash reference)
        (absenceInputs reference (transition.nullifiers 0) witness.firstAbsencePath)
        (provenInputs reference state (transition.nullifiers 0)) ∨
      CollisionBetween (treeHash reference)
        (absenceInputs reference (transition.nullifiers 1) witness.secondAbsencePath)
        (provenInputs reference next (transition.nullifiers 1)) := by
  rcases CandidateNxsmNullifierTransitionWitnessV1.revalidate_eq_ok.mp replayed with
    ⟨_, _, _, intermediateRoot, firstAbsent, isIntermediate, secondAbsent, isPost⟩
  rw [starts] at firstAbsent
  rcases stores.root_after_absence firstAbsent isIntermediate with sameRoot | collision
  · rw [sameRoot, ← nextStores.root_eq] at secondAbsent
    rcases nextStores.root_after_absence secondAbsent isPost with samePost | collision
    · exact Or.inl samePost
    · exact Or.inr (Or.inr collision)
  · exact Or.inr (Or.inl collision)

end

/-- For every reachable tree, anchor of it and intent with unspent inputs, a
transition is built, and the paths of the tree replay it.  Any witness that replays a
transition from the root of a reachable tree shows that the transition ends at the root
of the tree with both nullifiers spent, or one of its paths collides with the path of
the tree that it is checked against. -/
theorem replayed_transitions_sound [Sha256] (reference : NullifierSparseTreeReferenceV1)
    (privacy : Poseidon2P24PrivacyReference) (calls : List NullifierV2) :
    (forall (anchor : PrivateStateAnchorV2) (intent : PrivateTransferIntentV2),
      anchor.assertMatchesIntent intent = .ok () ->
      (markEach reference .newCandidate calls).root reference = anchor.nullifierRoot ->
      (markEach reference .newCandidate calls).spentCount = anchor.spentNullifierCount ->
      (forall index, (markEach reference .newCandidate calls).isSpent (intent.nullifiers index) =
        false) ->
      (markEach reference .newCandidate calls).spentCount + 2 < 2 ^ 64 ->
      ∃ transition witness,
        CandidateNxsmNullifierTransitionV1.new reference privacy anchor
          (markEach reference .newCandidate calls) intent = .ok transition /\
        CandidateNxsmNullifierTransitionWitnessV1.fromPreTree reference
          (markEach reference .newCandidate calls) intent = .ok witness /\
        witness.revalidate reference transition = .ok ()) /\
    forall (transition : CandidateNxsmNullifierTransitionV1)
      (witness : CandidateNxsmNullifierTransitionWitnessV1),
      transition.preRoot = (markEach reference .newCandidate calls).root reference ->
      witness.revalidate reference transition = .ok () ->
      transition.postRoot = (markEach reference .newCandidate
          (calls ++ [transition.nullifiers 0, transition.nullifiers 1])).root reference ∨
        CollisionBetween (treeHash reference)
          (absenceInputs reference (transition.nullifiers 0) witness.firstAbsencePath)
          (provenInputs reference (markEach reference .newCandidate calls)
            (transition.nullifiers 0)) ∨
        CollisionBetween (treeHash reference)
          (absenceInputs reference (transition.nullifiers 1) witness.secondAbsencePath)
          (provenInputs reference
            (markEach reference .newCandidate (calls ++ [transition.nullifiers 0]))
            (transition.nullifiers 1)) := by
  have stores := storesSet_markEach reference calls
  constructor
  · intro anchor intent starts sameRoot sameCount isUnspent room
    have unspent (index : Fin 2) : intent.nullifiers index ∉ calls.toFinset := by
      intro member
      have isSpent := stores.isSpent_iff.mpr member
      rw [isUnspent index] at isSpent
      cases isSpent
    rcases stores.spendInputs unspent with ⟨_, postTree, _, _, marked, _⟩
    have made := (@CandidateNxsmNullifierTransitionV1.new_eq_ok _ reference privacy anchor _
      intent _).mpr ⟨starts, sameRoot, sameCount,
        fun index => stores.requireAbsent (unspent index), postTree, marked, rfl⟩
    rw [stores.count] at room
    rcases stores.exists_witness unspent room made with ⟨witness, isWitness, replayed⟩
    exact ⟨_, witness, made, isWitness, replayed⟩
  · intro transition witness starts replayed
    have firstStores := storesSet_markEach reference (calls ++ [transition.nullifiers 0])
    have bothStores := storesSet_markEach reference
      (calls ++ [transition.nullifiers 0, transition.nullifiers 1])
    have isInserted : (calls ++ [transition.nullifiers 0]).toFinset =
        insert (transition.nullifiers 0) calls.toFinset := by
      ext nullifier
      simp
    have areInserted : (calls ++ [transition.nullifiers 0, transition.nullifiers 1]).toFinset =
        insert (transition.nullifiers 1) (insert (transition.nullifiers 0) calls.toFinset) := by
      ext nullifier
      simp only [List.mem_toFinset, List.mem_append, List.mem_cons, List.not_mem_nil, or_false,
        Finset.mem_insert]
      tauto
    rw [isInserted] at firstStores
    rw [bothStores.root_eq, areInserted]
    exact stores.postRoot_of_revalidate firstStores starts replayed

section
open Fips180

/-- The first transfer from the empty state is replayed, and unless a path collides it
ends at the root of its two nullifiers. -/
theorem first_transfer_is_replayed :
    ∃ anchor transition witness,
      CandidateNxsmNullifierTransitionV1.new loadSparseCandidate loadPrivacyReference anchor
        .newCandidate (transferFrom anchor) = .ok transition /\
      CandidateNxsmNullifierTransitionWitnessV1.revalidate loadSparseCandidate witness transition =
        .ok () /\
      (transition.postRoot = (markEach loadSparseCandidate .newCandidate
          [transition.nullifiers 0, transition.nullifiers 1]).root loadSparseCandidate ∨
        ∃ nullifier path tree, CollisionBetween (treeHash loadSparseCandidate)
          (absenceInputs loadSparseCandidate nullifier path)
          (provenInputs loadSparseCandidate tree nullifier)) := by
  rcases exists_emptyAnchor zeroParameters with ⟨anchor, made⟩
  have anchored := anchorsState_of_new made
  have sound := replayed_transitions_sound loadSparseCandidate loadPrivacyReference []
  rcases sound.1 anchor (transferFrom anchor)
    (by simp [PrivateStateAnchorV2.assertMatchesIntent, transferFrom]) anchored.sameRoot
    anchored.sameCount (fun _ => rfl) (by decide) with
    ⟨transition, witness, isTransition, _, replayed⟩
  refine ⟨anchor, transition, witness, isTransition, replayed, ?_⟩
  have starts : transition.preRoot =
      NullifierSparseTreeStateV1.root loadSparseCandidate .newCandidate := by
    rcases CandidateNxsmNullifierTransitionV1.new_eq_ok.mp isTransition with
      ⟨_, _, _, _, postTree, _, rfl⟩
    rfl
  rcases sound.2 transition witness starts replayed with isPost | collision | collision
  · exact Or.inl isPost
  · exact Or.inr ⟨_, _, _, collision⟩
  · exact Or.inr ⟨_, _, _, collision⟩

end
end Noxis.Privacy
