import Noxis.Foundation.KeyBits
import Noxis.Foundation.SparseTree
import Noxis.Foundation.Stateful
import Noxis.Privacy.Identifiers
import Noxis.Privacy.Tables

namespace Noxis.Privacy

open Foundation CanonicalVector

/-!
# The tree of spent nullifiers

Spent nullifiers are the occupied leaves of a hash tree with one level for every
bit of a nullifier.  A spent leaf hashes the nullifier, an unspent leaf is a
constant, and a path is checked from the leaf up: the bits of the nullifier say
on which side each sibling stands, so a proof carries siblings and nothing
else.
-/

/-- The depth of the tree: one level for every bit of a nullifier. -/
def nullifierSparseTreeDepth : Nat := 512

inductive Poseidon2P24NullifierSparseDomainV1 where
  | leaf
  | node
  | empty
deriving DecidableEq

def Poseidon2P24NullifierSparseDomainV1.inputBytes : Poseidon2P24NullifierSparseDomainV1 -> Nat
  | .leaf => 64
  | .node => 128
  | .empty => 0

inductive NullifierTreeReferenceError where
  | invalidPathLength (actual expected : Nat)
  | nonCanonicalDigest (index value : Nat)
  | rootMismatch
deriving DecidableEq, Repr

structure NullifierSparseTreeReferenceV1 where
  permutation : Poseidon2P24Reference
  iv : Poseidon2P24NullifierSparseDomainV1 -> Fin 9 -> Val

/-- Two digests, one after the other. -/
def childBytes (left right : Digest) : Bytes 128 where
  toList := (digestBytes left).toList ++ (digestBytes right).toList
  length_toList := by rw [List.length_append, Bytes.length_toList, Bytes.length_toList]

theorem digestBytes_injective : Function.Injective digestBytes := by
  intro left right same
  have vectors : (ofDigest left : NullifierV2) = .ofDigest right :=
    CanonicalVector.ext same
  grind [digest_ofDigest]

theorem childBytes_injective :
    Function.Injective (fun pair : Digest × Digest => childBytes pair.1 pair.2) := by
  intro left right same
  have lists := congrArg Bytes.toList same
  have halves := List.append_inj lists (by rw [Bytes.length_toList, Bytes.length_toList])
  grind [digestBytes_injective, Bytes.toList_injective]

/-- The bit of a nullifier that a level reads, least significant first. -/
def pathBit (nullifier : NullifierV2) (level : Nat) : Bool := nullifier.bytes.readBit level

def leafIndex (nullifier : NullifierV2) : Nat := nullifier.bytes.number

theorem leafIndex_injective : Function.Injective leafIndex :=
  Bytes.number_injective.comp bytes_injective

theorem pathBit_eq (nullifier : NullifierV2) (level : Nat) :
    pathBit nullifier level = (leafIndex nullifier).testBit level :=
  nullifier.bytes.readBit_eq level

theorem leafIndex_div_depth (nullifier : NullifierV2) :
    leafIndex nullifier / 2 ^ nullifierSparseTreeDepth = 0 := by
  have bits : nullifierSparseTreeDepth = 8 * 64 := rfl
  rw [bits]
  exact Nat.div_eq_of_lt nullifier.bytes.number_lt

/-- Accept an array whose elements are canonical. -/
def validateDigest (elements : BabyBearDigest) : Except NullifierTreeReferenceError Digest :=
  match CanonicalVector.firstNonCanonical (fun index => (elements index).toNat) with
  | some index => .error (.nonCanonicalDigest index.val (elements index).toNat)
  | none => .ok elements.toDigest

namespace NullifierSparseTreeReferenceV1

variable (reference : NullifierSparseTreeReferenceV1)

/-- The hash of one input.  A domain has inputs of one length only. -/
def hashBytes (domain : Poseidon2P24NullifierSparseDomainV1) (input : Bytes domain.inputBytes) :
    Digest :=
  let packed : List Val := (bytePack3le input.toList).map Nat.cast
  let start := rawState (reference.iv domain) (fun _ => 0)
  squeeze reference.permutation
    (if packed = [] then reference.permutation.permutation start
      else absorbElements reference.permutation.permutation 15 start packed)

def spentLeaf (nullifier : NullifierV2) : Digest :=
  reference.hashBytes .leaf nullifier.bytes

def node (left right : Digest) : Digest := reference.hashBytes .node (childBytes left right)

def emptyLeaf : Digest := reference.hashBytes .empty ⟨[], rfl⟩

/-- The hash of an empty subtree of each height. -/
def emptyValues (height : Nat) : Digest :=
  emptyAt (fun pair => reference.node pair.1 pair.2) reference.emptyLeaf height

/-- Join the value so far with each sibling in turn. -/
def climb (nullifier : NullifierV2) : Nat -> Digest -> List BabyBearDigest ->
    Except NullifierTreeReferenceError Digest
  | _, current, [] => .ok current
  | level, current, sibling :: rest => do
      let sibling ← validateDigest sibling
      climb nullifier (level + 1)
        (if pathBit nullifier level then reference.node sibling current
          else reference.node current sibling) rest

def rootFromPath (nullifier : NullifierV2) (leaf : Digest) (siblings : List BabyBearDigest) :
    Except NullifierTreeReferenceError NullifierSparseRootV1 :=
  if siblings.length ≠ nullifierSparseTreeDepth then
    .error (.invalidPathLength siblings.length nullifierSparseTreeDepth)
  else do
    let root ← reference.climb nullifier 0 leaf siblings
    .ok (.ofDigest root)

def verifyPath (root : NullifierSparseRootV1) (nullifier : NullifierV2) (leaf : Digest)
    (siblings : List BabyBearDigest) : Except NullifierTreeReferenceError Unit := do
  let computed ← reference.rootFromPath nullifier leaf siblings
  if computed ≠ root then .error .rootMismatch else .ok ()

def verifyInclusion (root : NullifierSparseRootV1) (nullifier : NullifierV2)
    (siblings : List BabyBearDigest) : Except NullifierTreeReferenceError Unit :=
  reference.verifyPath root nullifier (reference.spentLeaf nullifier) siblings

def verifyAbsence (root : NullifierSparseRootV1) (nullifier : NullifierV2)
    (siblings : List BabyBearDigest) : Except NullifierTreeReferenceError Unit :=
  reference.verifyPath root nullifier (reference.emptyValues 0) siblings

end NullifierSparseTreeReferenceV1

/-- The candidate parameters with the starting values of the three domains. -/
def loadSparseCandidate : NullifierSparseTreeReferenceV1 where
  permutation := candidateTables.reference
  iv
    | .leaf => ofLanes
        [912309436, 919118717, 653394617, 403449216, 526859383, 411519376, 304387794, 273950072,
          1095032848]
    | .node => ofLanes
        [1112581690, 1837936338, 1180009246, 1429629540, 819566281, 514555396, 411183118,
          699191811, 1553632313]
    | .empty => ofLanes
        [1807917715, 1462410577, 756732517, 233662170, 1213627537, 1064474933, 1863126662,
          1458807881, 535719093]

def CanonicalDigest (elements : BabyBearDigest) : Prop :=
  forall index, (elements index).toNat < babyBearModulus

theorem validateDigest_eq_ok {elements : BabyBearDigest} {digest : Digest} :
    validateDigest elements = .ok digest <->
      CanonicalDigest elements /\ elements.toDigest = digest := by
  unfold validateDigest CanonicalDigest
  rw [← firstNonCanonical_eq_none]
  cases firstNonCanonical (fun index => (elements index).toNat) with
  | none => simp
  | some index => simp

/-- The sibling of a list at each level, in the field. -/
def siblingAt (siblings : List BabyBearDigest) (level : Nat) : Digest :=
  (siblings.getD level (fun _ => 0)).toDigest

namespace NullifierSparseTreeReferenceV1

variable (reference : NullifierSparseTreeReferenceV1)

def nodePair (pair : Digest × Digest) : Digest := reference.node pair.1 pair.2

theorem node_orient (isRight : Bool) (current sibling : Digest) :
    (if isRight then reference.node sibling current else reference.node current sibling) =
      reference.nodePair (orient isRight current sibling) := by
  cases isRight with
  | false => rfl
  | true => rfl

variable {nullifier : NullifierV2} {leaf : Digest} {siblings : List BabyBearDigest}

theorem climb_eq_ok {level : Nat} {result : Digest} {sibling : Nat -> Digest}
    (same : forall index, index < siblings.length ->
      sibling (level + index) = siblingAt siblings index) :
    reference.climb nullifier level
        (climbPath reference.nodePair (leafIndex nullifier) leaf sibling level) siblings =
      .ok result <->
      (forall elements, elements ∈ siblings -> CanonicalDigest elements) /\
        climbPath reference.nodePair (leafIndex nullifier) leaf sibling
          (level + siblings.length) = result := by
  induction siblings generalizing level with
  | nil => simp [climb]
  | cons first rest ih =>
    have here : sibling level = first.toDigest := same 0 (Nat.succ_pos _)
    have later := @ih (level + 1) (by
      intro index within
      rw [Nat.add_assoc, Nat.add_comm 1]
      exact same (index + 1) (Nat.succ_lt_succ within))
    have count : level + (first :: rest).length = level + 1 + rest.length := by
      rw [List.length_cons]
      omega
    rw [climb, Except.bind_eq_ok, List.forall_mem_cons, count, and_assoc, ← later, climbPath,
      ← node_orient, ← pathBit_eq, here]
    grind [validateDigest_eq_ok]

variable {root : NullifierSparseRootV1}

/-- A path passes when it has one canonical sibling for each level and climbs to
the root. -/
theorem verifyPath_eq_ok :
    reference.verifyPath root nullifier leaf siblings = .ok () <->
      siblings.length = nullifierSparseTreeDepth /\
      (forall elements, elements ∈ siblings -> CanonicalDigest elements) /\
      climbPath reference.nodePair (leafIndex nullifier) leaf (siblingAt siblings)
        nullifierSparseTreeDepth = root.digest := by
  have climbed (result : Digest) := @climb_eq_ok reference nullifier leaf siblings 0 result
    (siblingAt siblings) (fun index _ => by rw [Nat.zero_add])
  have compared (value : Digest) :
      ofDigest value = root <-> value = root.digest := by
    grind [digest_ofDigest, ofDigest_digest]
  simp only [climbPath, Nat.zero_add] at climbed
  simp only [verifyPath, rootFromPath, Except.bind_eq_ok, Except.refuse_eq_ok, not_not,
    Except.ok.injEq, and_true, climbed]
  grind

/-- A path that passes computes the root. -/
theorem rootFromPath_of_verifyPath
    (verified : reference.verifyPath root nullifier leaf siblings = .ok ()) :
    reference.rootFromPath nullifier leaf siblings = .ok root := by
  rcases Except.bind_eq_ok.mp verified with ⟨computed, isComputed, compared⟩
  rw [isComputed, not_not.mp (Except.refuse_eq_ok.mp compared).1]

end NullifierSparseTreeReferenceV1
end Noxis.Privacy
