import Mathlib.NumberTheory.LucasPrimality
import Noxis.Foundation.Sponge

namespace Noxis.Privacy

open Foundation

/-!
# The hash of private notes

Keys, notes and nullifiers are hashed by a sponge over a permutation of 24
field elements.  Elements are canonical residues of a 31-bit prime.  Bytes enter
three at a time, so every packed element is canonical, and a domain fixes the
lanes that a message never touches.
-/

abbrev babyBearModulus : Nat := 2013265921

/-- A canonical element of the field. -/
abbrev Val : Type := ZMod babyBearModulus

/-- Repeated squaring. -/
theorem pow_mul_two_pow {M : Type} [Monoid M] (base : M) (factor count : Nat) :
    base ^ (factor * 2 ^ count) = (fun value => value * value)^[count] (base ^ factor) := by
  induction count with
  | zero => rw [pow_zero, mul_one, Function.iterate_zero, id_eq]
  | succ count ih =>
    rw [Function.iterate_succ_apply', ← ih, ← pow_add]
    congr 1
    ring

/-- The residue 31 generates the units, whose number is `2 ^ 27 * 15`. -/
theorem prime_babyBearModulus : Nat.Prime babyBearModulus := by
  have power (factor count : Nat) := pow_mul_two_pow (31 : Val) factor count
  apply lucas_primality babyBearModulus 31
  · rw [show babyBearModulus - 1 = 15 * 2 ^ 27 by decide, power]
    decide +kernel
  · intro factor isPrime divides
    rw [show babyBearModulus - 1 = 2 ^ 27 * (3 * 5) by decide, isPrime.dvd_mul,
      isPrime.dvd_mul] at divides
    rcases divides with two | three | five
    · rw [(Nat.prime_dvd_prime_iff_eq isPrime Nat.prime_two).mp (isPrime.dvd_of_dvd_pow two),
        show (babyBearModulus - 1) / 2 = 15 * 2 ^ 26 by decide, power]
      decide +kernel
    · rw [(Nat.prime_dvd_prime_iff_eq isPrime Nat.prime_three).mp three,
        show (babyBearModulus - 1) / 3 = 5 * 2 ^ 27 by decide, power]
      decide +kernel
    · rw [(Nat.prime_dvd_prime_iff_eq isPrime Nat.prime_five).mp five,
        show (babyBearModulus - 1) / 5 = 3 * 2 ^ 27 by decide, power]
      decide +kernel

instance : Fact babyBearModulus.Prime := ⟨prime_babyBearModulus⟩

theorem cast_byte_injective : Function.Injective (fun byte : UInt8 => (byte.toNat : Val)) := by
  intro left right same
  have fits (byte : UInt8) : byte.toNat < babyBearModulus :=
    Nat.lt_trans byte.toNat_lt (by decide)
  have sameValue := congrArg ZMod.val same
  rw [ZMod.val_natCast, ZMod.val_natCast, Nat.mod_eq_of_lt (fits left),
    Nat.mod_eq_of_lt (fits right)] at sameValue
  exact UInt8.toNat_inj.mp sameValue

/-- A state has 24 lanes: 15 that a message enters and nine that a domain
fixes. -/
abbrev State : Type := Fin 24 -> Val

abbrev Digest : Type := Fin 16 -> Val

/-- The parameters of the permutation. -/
structure Poseidon2P24Reference where
  externalMatrix : Fin 24 -> Fin 24 -> Val
  internalMatrix : Fin 24 -> Fin 24 -> Val
  roundConstants : Nat -> State

def matmul (matrix : Fin 24 -> Fin 24 -> Val) (state : State) : State :=
  fun row => ∑ column, matrix row column * state column

def addRoundConstants (constants state : State) : State :=
  fun lane => state lane + constants lane

def sboxSeven (value : Val) : Val :=
  let square := value * value
  let fourth := square * square
  fourth * square * value

def applySboxToAll (state : State) : State := fun lane => sboxSeven (state lane)

namespace Poseidon2P24Reference

variable (reference : Poseidon2P24Reference)

def fullRound (state : State) (round : Nat) : State :=
  matmul reference.externalMatrix
    (applySboxToAll (addRoundConstants (reference.roundConstants round) state))

def partialRound (state : State) (round : Nat) : State :=
  matmul reference.internalMatrix
    (Function.update state 0 (sboxSeven (state 0 + reference.roundConstants round 0)))

/-- Four full rounds, 21 partial rounds and four full rounds. -/
def permutation (input : State) : State :=
  let start := matmul reference.externalMatrix input
  let opened := (List.range' 0 4).foldl reference.fullRound start
  let mixed := (List.range' 4 21).foldl reference.partialRound opened
  (List.range' 25 4).foldl reference.fullRound mixed

end Poseidon2P24Reference

/-! ## Hashing -/

/-- The state in which the free lanes hold elements and the others a domain. -/
def rawState (iv : Fin 9 -> Val) (element : Nat -> Val) : State :=
  fun lane => if inRate : lane.val < 15 then element lane.val
    else iv ⟨lane.val - 15, by omega⟩

inductive Poseidon2P24NoteDomain where
  | addr
  | note
  | nullifier
deriving DecidableEq

inductive Poseidon2P24TreeDomain where
  | leaf
  | node
  | emptyBase
deriving DecidableEq

/-- The parameters together with the starting values of the domains. -/
structure Poseidon2P24Candidate where
  reference : Poseidon2P24Reference
  noteIv : Poseidon2P24NoteDomain -> Fin 9 -> Val
  treeIv : Poseidon2P24TreeDomain -> Fin 9 -> Val

/-- Fifteen lanes of a state and one lane of its successor. -/
def squeeze (reference : Poseidon2P24Reference) (state : State) : Digest :=
  fun lane => if inRate : lane.val < 15 then state ⟨lane.val, by omega⟩
    else reference.permutation state 0

theorem eq_squeeze_iff {reference state digest} :
    digest = squeeze reference state <->
      (forall lane : Fin 15, digest (lane.castLE (by decide)) = state (lane.castLE (by decide))) /\
        digest 15 = reference.permutation state 0 := by
  have rate (lane : Fin 15) : squeeze reference state (lane.castLE (by decide)) =
      state (lane.castLE (by decide)) := dif_pos lane.isLt
  have last : squeeze reference state 15 = reference.permutation state 0 :=
    dif_neg (Nat.lt_irrefl 15)
  constructor
  · intro isDigest
    subst isDigest
    exact ⟨rate, last⟩
  · intro lanes
    funext lane
    by_cases inRate : lane.val < 15
    · exact (lanes.1 ⟨lane.val, inRate⟩).trans (rate ⟨lane.val, inRate⟩).symm
    · have isLast : lane = 15 := by omega
      rw [isLast, lanes.2, last]

/-- The digest that a number of blocks yields. -/
def digestOf (reference : Poseidon2P24Reference) (iv : Fin 9 -> Val) (element : Nat -> Val)
    (blocks : Nat) : Digest :=
  squeeze reference
    (absorbBlocks reference.permutation 15 element (rawState iv (fun _ => 0)) blocks)

/-- Pack bytes three at a time, least significant first. -/
def bytePack3le : List UInt8 -> List Nat
  | first :: second :: third :: rest => ofLittleEndian [first, second, third] :: bytePack3le rest
  | [] => []
  | rest => [ofLittleEndian rest]

theorem length_le_two_of_short {bytes : List UInt8}
    (short : forall first second third rest, bytes = first :: second :: third :: rest -> False) :
    bytes.length <= 2 := by
  match bytes, short with
  | [], _ => simp
  | [_], _ => simp
  | [_, _], _ => simp
  | first :: second :: third :: rest, short => exact absurd rfl (short first second third rest)

theorem length_bytePack3le (bytes : List UInt8) :
    (bytePack3le bytes).length = (bytes.length + 2) / 3 := by
  fun_induction bytePack3le bytes with
  | case1 first second third rest ih =>
    simp only [List.length_cons, ih]
    omega
  | case2 => rfl
  | case3 rest short nonempty =>
    have atLeast := List.length_pos_iff.mpr (fun isNil => nonempty isNil)
    have atMost := length_le_two_of_short short
    rw [List.length_singleton]
    omega

/-- The packed elements of a byte string, continued by zeros. -/
def packedElement (bytes : List UInt8) (index : Nat) : Val :=
  (ofLittleEndian ((bytes.drop (index * 3)).take 3) : Val)

def packedExpression (byte : Nat -> Val) (packedIndex : Nat) : Val :=
  weighBytes 3 (fun byteOffset => byte (packedIndex * 3 + byteOffset))

theorem packedExpression_eq {byte bytes}
    (holds : forall index, byte index = ((bytes.getD index 0).toNat : Val)) (index : Nat) :
    packedExpression byte index = packedElement bytes index := by
  unfold packedExpression packedElement
  rw [← weighBytes_drop]
  apply weighBytes_congr
  intro offset _
  exact holds _

theorem packedElement_of_le {bytes} {index : Nat} (outside : bytes.length <= index * 3) :
    packedElement bytes index = 0 := by
  rw [packedElement, List.drop_eq_nil_of_le outside, List.take_nil, ofLittleEndian, Nat.cast_zero]

theorem getD_bytePack3le (bytes : List UInt8) (index : Nat) :
    (bytePack3le bytes).getD index 0 = ofLittleEndian ((bytes.drop (index * 3)).take 3) := by
  fun_induction bytePack3le bytes generalizing index with
  | case1 first second third rest ih =>
    cases index with
    | zero => rfl
    | succ index =>
      rw [List.getD_cons_succ, ih, Nat.succ_mul]
      rfl
  | case2 => simp [ofLittleEndian]
  | case3 rest short nonempty =>
    have atMost := length_le_two_of_short short
    cases index with
    | zero =>
      rw [Nat.zero_mul, List.drop_zero, List.take_of_length_le (by omega)]
      rfl
    | succ index =>
      rw [List.drop_eq_nil_of_le (by omega)]
      rfl

namespace Poseidon2P24Candidate

variable (candidate : Poseidon2P24Candidate)

def hashElements (iv : Fin 9 -> Val) (elements : List Val) : Digest :=
  squeeze candidate.reference
    (absorbElements candidate.reference.permutation 15 (rawState iv (fun _ => 0)) elements)

def hashBytes (domain : Poseidon2P24NoteDomain) (bytes : List UInt8) : Digest :=
  candidate.hashElements (candidate.noteIv domain) ((bytePack3le bytes).map Nat.cast)

def hashAddr (nullifierKey : Bytes 32) : Digest := candidate.hashBytes .addr nullifierKey.toList

def hashNote (notePreimage : Bytes 178) : Digest := candidate.hashBytes .note notePreimage.toList

def hashNullifierPreimage (nullifierPreimage : Bytes 132) : Digest :=
  candidate.hashBytes .nullifier nullifierPreimage.toList

def leaf (note : Digest) : Digest :=
  candidate.hashElements (candidate.treeIv .leaf) (List.ofFn note)

def node (left right : Digest) : Digest :=
  candidate.hashElements (candidate.treeIv .node) (List.ofFn left ++ List.ofFn right)

/-- The value of an unoccupied leaf, which has no input. -/
def emptyBase : Digest :=
  squeeze candidate.reference
    (candidate.reference.permutation (rawState (candidate.treeIv .emptyBase) (fun _ => 0)))

theorem hashElements_eq (iv : Fin 9 -> Val) (elements : List Val) :
    candidate.hashElements iv elements =
      digestOf candidate.reference iv (fun index => elements.getD index 0)
        ((elements.length + 14) / 15) := by
  rw [hashElements, absorbElements_eq, digestOf]

/-- Hashing bytes absorbs as many blocks as their packed elements fill. -/
theorem hashBytes_eq (domain : Poseidon2P24NoteDomain) (bytes : List UInt8) :
    candidate.hashBytes domain bytes =
      digestOf candidate.reference (candidate.noteIv domain) (packedElement bytes)
        (((bytes.length + 2) / 3 + 14) / 15) := by
  have packed : (fun index => ((bytePack3le bytes).map (Nat.cast : Nat -> Val)).getD index 0) =
      packedElement bytes := by
    funext index
    have mapped := List.getD_map (bytePack3le bytes) 0 (Nat.cast : Nat -> Val) (n := index)
    rw [Nat.cast_zero, getD_bytePack3le] at mapped
    exact mapped
  rw [hashBytes, hashElements_eq, List.length_map, length_bytePack3le, packed]

theorem hashAddr_eq (nullifierKey : Bytes 32) :
    candidate.hashAddr nullifierKey =
      digestOf candidate.reference (candidate.noteIv .addr) (packedElement nullifierKey.toList)
        1 := by
  rw [hashAddr, hashBytes_eq, nullifierKey.length_toList]

theorem hashNote_eq (notePreimage : Bytes 178) :
    candidate.hashNote notePreimage =
      digestOf candidate.reference (candidate.noteIv .note) (packedElement notePreimage.toList)
        4 := by
  rw [hashNote, hashBytes_eq, notePreimage.length_toList]

theorem hashNullifierPreimage_eq (nullifierPreimage : Bytes 132) :
    candidate.hashNullifierPreimage nullifierPreimage =
      digestOf candidate.reference (candidate.noteIv .nullifier)
        (packedElement nullifierPreimage.toList) 3 := by
  rw [hashNullifierPreimage, hashBytes_eq, nullifierPreimage.length_toList]

theorem leaf_eq (note : Digest) :
    candidate.leaf note =
      digestOf candidate.reference (candidate.treeIv .leaf) (extend note) 2 := by
  have elements : (fun index => (List.ofFn note).getD index 0) = extend note := by
    funext index
    exact getD_ofFn note index
  rw [leaf, hashElements_eq, List.length_ofFn, elements]

theorem node_eq (left right : Digest) :
    candidate.node left right =
      digestOf candidate.reference (candidate.treeIv .node)
        (fun index => if index < 16 then extend left index else extend right (index - 16)) 3 := by
  have elements : (fun index => (List.ofFn left ++ List.ofFn right).getD index 0) =
      fun index => if index < 16 then extend left index else extend right (index - 16) := by
    funext index
    by_cases early : index < 16
    · rw [if_pos early, List.getD_append _ _ _ _ (by simpa using early), getD_ofFn]
    · rw [if_neg early, List.getD_append_right _ _ _ _ (by simpa using early), List.length_ofFn,
        getD_ofFn]
  rw [node, hashElements_eq, List.length_append, List.length_ofFn, List.length_ofFn, elements]

end Poseidon2P24Candidate
end Noxis.Privacy
