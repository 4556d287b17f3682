import Noxis.Privacy.NullifierTree

namespace Noxis.Privacy

open Foundation

/-!
# Proofs of spending and of absence

A store proves for every nullifier what is true of it.  A proof is only a list
of siblings, and anyone may write one.  Two lists that prove opposite things of
one nullifier under one root are nevertheless rare: the two climbs start from
different leaves and meet, so somewhere they hash different inputs to one digest.
-/

def treeHash (reference : NullifierSparseTreeReferenceV1)
    (input : (domain : Poseidon2P24NullifierSparseDomainV1) × Bytes domain.inputBytes) : Digest :=
  reference.hashBytes input.1 input.2

/-- The input that joins two digests. -/
def nodeInput (pair : Digest × Digest) :
    (domain : Poseidon2P24NullifierSparseDomainV1) × Bytes domain.inputBytes :=
  ⟨.node, childBytes pair.1 pair.2⟩

theorem nodeInput_injective : Function.Injective nodeInput := by
  intro left right same
  exact childBytes_injective (eq_of_heq (Sigma.mk.inj same).2)

/-- The inputs hashed along a path, the leaf's own included. -/
def pathInputs (reference : NullifierSparseTreeReferenceV1) (nullifier : NullifierV2)
    (leaf : (domain : Poseidon2P24NullifierSparseDomainV1) × Bytes domain.inputBytes)
    (siblings : List BabyBearDigest) :
    List ((domain : Poseidon2P24NullifierSparseDomainV1) × Bytes domain.inputBytes) :=
  leaf :: (pathPairs reference.nodePair (leafIndex nullifier) (treeHash reference leaf)
    (siblingAt siblings) nullifierSparseTreeDepth).map nodeInput

def inclusionInputs (reference : NullifierSparseTreeReferenceV1) (nullifier : NullifierV2)
    (siblings : List BabyBearDigest) :
    List ((domain : Poseidon2P24NullifierSparseDomainV1) × Bytes domain.inputBytes) :=
  pathInputs reference nullifier ⟨.leaf, nullifier.bytes⟩ siblings

def absenceInputs (reference : NullifierSparseTreeReferenceV1) (nullifier : NullifierV2)
    (siblings : List BabyBearDigest) :
    List ((domain : Poseidon2P24NullifierSparseDomainV1) × Bytes domain.inputBytes) :=
  pathInputs reference nullifier ⟨.empty, ⟨[], List.length_nil⟩⟩ siblings

theorem collision_of_contradiction {reference root nullifier inclusion absence}
    (included : reference.verifyInclusion root nullifier inclusion = .ok ())
    (absent : reference.verifyAbsence root nullifier absence = .ok ()) :
    CollisionBetween (treeHash reference) (inclusionInputs reference nullifier inclusion)
      (absenceInputs reference nullifier absence) := by
  have climbed := (reference.verifyPath_eq_ok.mp included).2.2
  have otherClimbed := (reference.verifyPath_eq_ok.mp absent).2.2
  rcases eq_or_collision_of_climbPath_eq (climbed.trans otherClimbed.symm) with
    sameLeaf | collision
  · apply CollisionBetween.of_collides _ List.mem_cons_self List.mem_cons_self
    refine ⟨?_, sameLeaf⟩
    intro same
    cases congrArg Sigma.fst same
  · have inputs := @CollisionBetween.map _ _ (treeHash reference) _ nodeInput
      nodeInput_injective _ _ collision
    exact inputs.mono (fun _ member => List.mem_cons_of_mem _ member)
      (fun _ member => List.mem_cons_of_mem _ member)

variable (digest : Digest)

theorem toDigest_digestElements : (digestElements digest).toDigest = digest := by
  funext index
  have small : (digest index).val < 2 ^ 32 := Nat.lt_trans (ZMod.val_lt _) (by decide)
  rw [BabyBearDigest.toDigest, digestElements, UInt32.toNat_ofNat', Nat.mod_eq_of_lt small,
    ZMod.natCast_zmod_val]

theorem canonicalDigest_digestElements : CanonicalDigest (digestElements digest) := by
  intro index
  grind [digestElements, UInt32.toNat_ofNat']

namespace StoresSet

variable {reference : NullifierSparseTreeReferenceV1} {state : NullifierSparseTreeStateV1}
  {spent : Finset NullifierV2}

open NodePositionV1

variable (stores : StoresSet reference state spent)
  (nullifier : NullifierV2)

include stores

theorem siblingAt_prove {level : Nat} (below : level < nullifierSparseTreeDepth) :
    siblingAt (state.prove reference nullifier) level =
      completeNode reference spent level ((leafIndex nullifier / 2 ^ level) ^^^ 1) := by
  have inside : level <
      (List.iterate parent (leaf nullifier) nullifierSparseTreeDepth).length := by
    rwa [List.length_iterate]
  rw [siblingAt, NullifierSparseTreeStateV1.prove, List.getD_eq_getElem _ _ (by simpa using inside),
    List.getElem_map, List.getElem_iterate, toDigest_digestElements]
  exact stores.valueAt_sibling nullifier below

/-- The path that a store proves climbs to a root exactly if the complete tree's
siblings do. -/
theorem verifyPath_prove_iff {root leaf} :
    reference.verifyPath root nullifier leaf (state.prove reference nullifier) = .ok () <->
      climbPath reference.nodePair (leafIndex nullifier) leaf
        (fun level => completeNode reference spent level ((leafIndex nullifier / 2 ^ level) ^^^ 1))
        nullifierSparseTreeDepth = root.digest := by
  have full : (state.prove reference nullifier).length = nullifierSparseTreeDepth := by
    rw [NullifierSparseTreeStateV1.prove, List.length_map, List.length_iterate]
  have canonical (elements : BabyBearDigest)
      (member : elements ∈ state.prove reference nullifier) : CanonicalDigest elements := by
    rcases List.mem_map.mp member with ⟨position, _, rfl⟩
    exact canonicalDigest_digestElements _
  have same := @climbPath_congr _ reference.nodePair (leafIndex nullifier)
    nullifierSparseTreeDepth leaf _ _ (fun level below => stores.siblingAt_prove nullifier below)
  grind [NullifierSparseTreeReferenceV1.verifyPath_eq_ok]

/-- The path that a store proves climbs from the leaf of the complete tree to
its root. -/
theorem verifyPath_prove :
    reference.verifyPath (state.root reference) nullifier
      (completeLeaf reference spent (leafIndex nullifier)) (state.prove reference nullifier) =
      .ok () := by
  apply (stores.verifyPath_prove_iff nullifier).mpr
  rw [stores.root_eq, completeRoot, CanonicalVector.digest_ofDigest, completeNode,
    ← leafIndex_div_depth nullifier, ← climbPath_nodeAt]
  rfl

/-- With a spent leaf the same path climbs to the root after the insertion. -/
theorem rootFromPath_prove :
    reference.rootFromPath nullifier (reference.spentLeaf nullifier)
      (state.prove reference nullifier) =
      .ok (completeRoot reference (insert nullifier spent)) := by
  apply reference.rootFromPath_of_verifyPath
  apply (stores.verifyPath_prove_iff nullifier).mpr
  rw [completeRoot, CanonicalVector.digest_ofDigest, ← leafIndex_div_depth nullifier,
    completeNode_insert_self]

theorem verifyInclusion_prove {nullifier} (member : nullifier ∈ spent) :
    reference.verifyInclusion (state.root reference) nullifier
      (state.prove reference nullifier) = .ok () := by
  have verified := stores.verifyPath_prove nullifier
  rw [completeLeaf_self reference nullifier member] at verified
  exact verified

theorem verifyAbsence_prove {nullifier} (absent : nullifier ∉ spent) :
    reference.verifyAbsence (state.root reference) nullifier
      (state.prove reference nullifier) = .ok () := by
  have unspent : completeLeaf reference spent (leafIndex nullifier) = reference.emptyLeaf := by
    grind [completeLeaf_of_notMem, leafIndex_injective]
  have verified := stores.verifyPath_prove nullifier
  rw [unspent] at verified
  exact verified

end StoresSet

/-- A reachable store proves of every nullifier whether it is spent.  Lists of
siblings that prove inclusion and absence of one nullifier under one root show
two inputs with one hash, and so does a proof of absence of a spent nullifier
under the root of a reachable store. -/
theorem nullifier_proofs_sound (reference : NullifierSparseTreeReferenceV1)
    (calls : List NullifierV2) (nullifier : NullifierV2) :
    (((markEach reference .newCandidate calls).isSpent nullifier = true ->
        reference.verifyInclusion ((markEach reference .newCandidate calls).root reference)
          nullifier ((markEach reference .newCandidate calls).prove reference nullifier) = .ok ()) /\
      ((markEach reference .newCandidate calls).isSpent nullifier = false ->
        reference.verifyAbsence ((markEach reference .newCandidate calls).root reference)
          nullifier ((markEach reference .newCandidate calls).prove reference nullifier) =
            .ok ())) /\
      (forall root inclusion absence,
        reference.verifyInclusion root nullifier inclusion = .ok () ->
        reference.verifyAbsence root nullifier absence = .ok () ->
        CollisionBetween (treeHash reference) (inclusionInputs reference nullifier inclusion)
          (absenceInputs reference nullifier absence)) /\
      ((markEach reference .newCandidate calls).isSpent nullifier = true -> forall absence,
        reference.verifyAbsence ((markEach reference .newCandidate calls).root reference)
          nullifier absence = .ok () ->
        CollisionBetween (treeHash reference)
          (inclusionInputs reference nullifier
            ((markEach reference .newCandidate calls).prove reference nullifier))
          (absenceInputs reference nullifier absence)) := by
  have stores := storesSet_markEach reference calls
  refine ⟨⟨?_, ?_⟩, ?_, ?_⟩
  · intro isSpent
    exact stores.verifyInclusion_prove (stores.isSpent_iff.mp isSpent)
  · intro isUnspent
    apply stores.verifyAbsence_prove
    intro member
    rw [stores.isSpent_iff.mpr member] at isUnspent
    cases isUnspent
  · intro root inclusion absence included absent
    exact collision_of_contradiction included absent
  · intro isSpent absence absent
    exact collision_of_contradiction
      (stores.verifyInclusion_prove (stores.isSpent_iff.mp isSpent)) absent

end Noxis.Privacy
