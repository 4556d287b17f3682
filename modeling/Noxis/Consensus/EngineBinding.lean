import Noxis.Consensus.ConfigCodec

namespace Noxis.Consensus

open Foundation CometBftValidator CometBftValidatorSet

/-!
# What an engine genesis binds

The root of the engine's Merkle tree carries no length.  Lists of different lengths are
told apart by the first byte of what is hashed: a leaf and an inner node never have
the same input.  Where a list is split does not matter for this, because equal halves
give equal lists.
-/

section
variable [Sha256]

/-- Everything that is hashed for the root of a list. -/
def cometMerkleInputs (values : List (List UInt8)) (nonempty : values ≠ []) :
    List (List UInt8) :=
  if single : values.length = 1 then
    [0 :: values.head nonempty]
  else
    let split := largestPowerOfTwoBelow values.length
    have several : 1 < values.length := by
      have positive := List.length_pos_of_ne_nil nonempty
      omega
    have bounds := largestPowerOfTwoBelow_lt several
    have leftNonempty : values.take split ≠ [] := by grind [List.length_nil]
    have rightNonempty : values.drop split ≠ [] := by grind [List.length_nil]
    (1 :: ((cometMerkleRoot _ leftNonempty).toList ++ (cometMerkleRoot _ rightNonempty).toList)) ::
      (cometMerkleInputs _ leftNonempty ++ cometMerkleInputs _ rightNonempty)
termination_by values.length
decreasing_by
  · rw [List.length_take]
    omega
  · rw [List.length_drop]
    omega

/-- A list is one leaf, or its root hashes the roots of two parts. -/
theorem cometMerkleRoot_cases (values : List (List UInt8)) (nonempty : values ≠ []) :
    (∃ value, values = [value] /\ cometMerkleRoot values nonempty = Sha256.digest (0 :: value) /\
      cometMerkleInputs values nonempty = [0 :: value]) ∨
    ∃ left right leftNonempty rightNonempty, values = left ++ right /\
      left.length < values.length /\
      cometMerkleRoot values nonempty = Sha256.digest (1 ::
        ((cometMerkleRoot left leftNonempty).toList ++
          (cometMerkleRoot right rightNonempty).toList)) /\
      cometMerkleInputs values nonempty =
        (1 :: ((cometMerkleRoot left leftNonempty).toList ++
          (cometMerkleRoot right rightNonempty).toList)) ::
          (cometMerkleInputs left leftNonempty ++ cometMerkleInputs right rightNonempty) := by
  by_cases single : values.length = 1
  · left
    rcases List.length_eq_one_iff.mp single with ⟨value, rfl⟩
    refine ⟨value, rfl, ?_, ?_⟩
    · rw [cometMerkleRoot, cometMerkleHashes]
      rfl
    · rw [cometMerkleInputs]
      rfl
  · right
    have positive := List.length_pos_of_ne_nil nonempty
    have bounds := largestPowerOfTwoBelow_lt (show 1 < values.length by omega)
    refine ⟨values.take (largestPowerOfTwoBelow values.length),
      values.drop (largestPowerOfTwoBelow values.length), by grind [List.length_nil],
      by grind [List.length_nil], (List.take_append_drop _ _).symm, ?_, ?_, ?_⟩
    · rw [List.length_take]
      omega
    · unfold cometMerkleRoot
      rw [cometMerkleHashes, dif_neg (by rw [List.length_map]; exact single)]
      simp only [List.length_map, List.map_take, List.map_drop]
    · rw [cometMerkleInputs, dif_neg single]

/-- Lists with one root are the same, or two inputs collide. -/
theorem eq_or_collision_of_cometMerkleRoot_eq {left right} (leftNonempty : left ≠ [])
    (rightNonempty : right ≠ [])
    (same : cometMerkleRoot left leftNonempty = cometMerkleRoot right rightNonempty) :
    left = right ∨ CollisionBetween Sha256.digest (cometMerkleInputs left leftNonempty)
      (cometMerkleInputs right rightNonempty) := by
  induction size : left.length using Nat.strong_induction_on generalizing left right with
  | _ length ih =>
    rcases cometMerkleRoot_cases left leftNonempty with ⟨value, isLeft, isRoot, inputs⟩ |
      ⟨first, second, firstSome, secondSome, isLeft, shorter, isRoot, inputs⟩ <;>
    rcases cometMerkleRoot_cases right rightNonempty with ⟨other, isRight, isOther, others⟩ |
      ⟨third, fourth, thirdSome, fourthSome, isRight, _, isOther, others⟩ <;>
    rw [isRoot, isOther] at same <;> rw [inputs, others]
    · rcases eq_or_collides Sha256.digest same with equal | collides
      · exact Or.inl (by rw [isLeft, isRight, (List.cons.inj equal).2])
      · exact Or.inr ⟨_, List.mem_cons_self, _, List.mem_cons_self, collides⟩
    · refine Or.inr ⟨_, List.mem_cons_self, _, List.mem_cons_self, ?_, same⟩
      intro equal
      cases (List.cons.inj equal).1
    · refine Or.inr ⟨_, List.mem_cons_self, _, List.mem_cons_self, ?_, same⟩
      intro equal
      cases (List.cons.inj equal).1
    · rcases eq_or_collides Sha256.digest same with equal | collides
      · rcases Bytes.toList_append_inj.mp (List.cons.inj equal).2 with ⟨sameFirst, sameSecond⟩
        have positive := List.length_pos_of_ne_nil firstSome
        have total := congrArg List.length isLeft
        rw [List.length_append] at total
        rcases ih first.length (by omega) firstSome thirdSome sameFirst rfl with
          equalFirst | collision
        · rcases ih second.length (by omega) secondSome fourthSome
            (Bytes.ext sameSecond) rfl with equalSecond | collision
          · exact Or.inl (by rw [isLeft, isRight, equalFirst, equalSecond])
          · exact Or.inr (collision.mono (by grind) (by grind))
        · exact Or.inr (collision.mono (by grind) (by grind))
      · exact Or.inr ⟨_, List.mem_cons_self, _, List.mem_cons_self, collides⟩

end

theorem toNat_or_highBit (value : Nat) : (UInt8.ofNat value ||| 128).toNat = 128 + value % 128 := by
  have bits : forall byte : Fin 256, byte.val ||| 128 = 128 + byte.val % 128 := by
    decide +kernel
  have isByte := bits ⟨value % 256, Nat.mod_lt _ (by decide)⟩
  rw [UInt8.toNat_or]
  change (UInt8.ofNat value).toNat ||| 128 = _
  rw [UInt8.toNat_ofNat', isByte]
  exact congrArg (128 + ·) (Nat.mod_mod_of_dvd value (by decide))

theorem encodeUvarint_of_le {value : Nat} (large : 128 <= value) :
    encodeUvarint value = (UInt8.ofNat value ||| 128) :: encodeUvarint (value / 128) := by
  rw [encodeUvarint, if_pos large]

theorem encodeUvarint_of_lt {value : Nat} (small : value < 128) :
    encodeUvarint value = [UInt8.ofNat value] := by
  rw [encodeUvarint, if_neg (Nat.not_le.mpr small)]

theorem encodeUvarint_injective : Function.Injective encodeUvarint := by
  have byte {value : Nat} (small : value < 128) : (UInt8.ofNat value).toNat = value :=
    UInt8.toNat_ofNat_of_lt' (Nat.lt_trans small (by decide))
  have apart {small large : Nat} (isSmall : small < 128) (isLarge : 128 <= large) :
      encodeUvarint small ≠ encodeUvarint large := by
    intro same
    rw [encodeUvarint_of_lt isSmall, encodeUvarint_of_le isLarge] at same
    have heads := congrArg UInt8.toNat (List.cons.inj same).1
    rw [toNat_or_highBit, byte isSmall] at heads
    omega
  intro left
  induction left using Nat.strong_induction_on with
  | _ left ih =>
    intro right same
    rcases Nat.lt_or_ge left 128 with leftSmall | leftLarge <;>
    rcases Nat.lt_or_ge right 128 with rightSmall | rightLarge
    · rw [encodeUvarint_of_lt leftSmall, encodeUvarint_of_lt rightSmall] at same
      have heads := congrArg UInt8.toNat (List.cons.inj same).1
      rwa [byte leftSmall, byte rightSmall] at heads
    · exact absurd same (apart leftSmall rightLarge)
    · exact absurd same.symm (apart rightSmall leftLarge)
    · rw [encodeUvarint_of_le leftLarge, encodeUvarint_of_le rightLarge] at same
      have heads := congrArg UInt8.toNat (List.cons.inj same).1
      rw [toNat_or_highBit, toNat_or_highBit] at heads
      have rests := ih (left / 128) (by omega) (List.cons.inj same).2
      omega

section
variable [Sha256]

/-- What the engine knows of a validator. -/
def CometBftValidator.keyAndPower (validator : CometBftValidator) : List UInt8 × Int :=
  (validator.publicKey.toList, validator.votingPower)

/-- What the engine is told of a validator. -/
def Validator.keyAndPower (validator : Validator) : List UInt8 × Int :=
  (validator.verificationKey.bytes, validator.votingPower.toNat)

theorem keyAndPower_of_cometHashBytes {left right : CometBftValidator}
    (same : left.cometHashBytes = right.cometHashBytes) : left.keyAndPower = right.keyAndPower := by
  have lengths (validator : CometBftValidator) : (0x0a ::
      UInt8.ofNat cometBftEd25519PublicKeyLength :: validator.publicKey.toList).length = 34 := by
    rw [List.length_cons, List.length_cons, Bytes.length_toList]
  unfold cometHashBytes at same
  simp only [lengths, List.cons_append, List.cons.injEq, true_and, List.append_cancel_left_eq,
    Bytes.toList_append_inj] at same
  have power := encodeUvarint_injective same.2
  have leftPower := left.powerful
  have rightPower := right.powerful
  exact Prod.ext (congrArg Bytes.toList same.1) (by change left.votingPower = right.votingPower; omega)

/-- The leaf of a key and a power. -/
def leafOf (pair : List UInt8 × Int) : List UInt8 :=
  let publicKey := 0x0a :: UInt8.ofNat cometBftEd25519PublicKeyLength :: pair.1
  0x0a :: (encodeUvarint publicKey.length ++ (publicKey ++ (0x10 :: encodeUvarint pair.2.toNat)))

/-- The place of a key and a power in the order of the engine. -/
def engineOrder (pair : List UInt8 × Int) : Lex (OrderDual Int × Bytes 20) :=
  toLex (OrderDual.toDual pair.2, cometAddress pair.1)

theorem map_hashBytes_keyAndPower (validators : List CometBftValidator) :
    (validators.map keyAndPower).map leafOf = validators.map cometHashBytes :=
  List.map_map

theorem pairwise_engineOrder {validators : List CometBftValidator}
    (sorted : validators.Pairwise (fun left right => left.order < right.order)) :
    (validators.map keyAndPower).Pairwise
      (fun left right => engineOrder left < engineOrder right) := by
  apply List.pairwise_map.mpr
  refine sorted.imp ?_
  intro left right before
  rw [order, order, left.derived, right.derived] at before
  exact before

theorem map_keyAndPower_of_cometHashBytes {left right : List CometBftValidator}
    (same : left.map cometHashBytes = right.map cometHashBytes) :
    left.map keyAndPower = right.map keyAndPower := by
  induction left generalizing right with
  | nil => rw [List.map_eq_nil_iff.mp same.symm]
  | cons first rest ih =>
    cases right with
    | nil => cases same
    | cons second others =>
      rw [List.map_cons, List.map_cons, keyAndPower_of_cometHashBytes (List.cons.inj same).1,
        ih (List.cons.inj same).2]

theorem hash_of_fromNoxisValidatorSet {set converted}
    (isConverted : fromNoxisValidatorSet set = .ok converted) :
    ∃ nonempty, converted.hash =
      cometMerkleRoot (converted.validators.map cometHashBytes) nonempty := by
  unfold fromNoxisValidatorSet at isConverted
  rcases Except.bind_eq_ok.mp isConverted with ⟨⟨mapped, isMapped⟩, _, isConverted⟩
  rcases Except.bind_eq_ok.mp isConverted with ⟨total, _, isConverted⟩
  dsimp only at isConverted
  split at isConverted
  · cases isConverted
  · split at isConverted
    · cases isConverted
    · cases isConverted
      exact ⟨hashBytes_ne_nil isMapped, rfl⟩

/-- The validators of a converted set, as the engine knows them, in strict order. -/
theorem pairwise_of_fromNoxisValidatorSet {set converted}
    (isConverted : fromNoxisValidatorSet set = .ok converted) :
    (converted.validators.map keyAndPower).Perm (set.validators.map Validator.keyAndPower) /\
      converted.validators.Pairwise (fun left right => left.order < right.order) := by
  rcases fromNoxisValidatorSet_eq_ok.mp ⟨converted.hash, isConverted⟩ with
    ⟨_, mapped, isMapped, isSorted, chained⟩
  constructor
  · have sameMaps : mapped.map keyAndPower =
        set.validators.map Validator.keyAndPower := by
      apply Except.map_of_mapM_eq_ok _ isMapped
      intro validator image made
      have parts := (fromNoxis_eq_ok.mp made).2.2
      exact Prod.ext parts.1 parts.2
    rw [isSorted, ← sameMaps]
    exact (sortByKey_perm order mapped).map _
  · have sorted := pairwise_le_sortByKey order mapped
    rw [← isSorted] at sorted
    have strict : converted.validators.IsChain (fun left right => left.order < right.order) := by
      apply List.isChain_iff_getElem.mpr
      intro index within
      have ordered := List.pairwise_iff_getElem.mp sorted index (index + 1)
        (Nat.lt_of_succ_lt within) within (Nat.lt_succ_self index)
      refine lt_of_le_of_ne ordered ?_
      intro same
      exact List.isChain_iff_getElem.mp chained index within
        (congrArg (fun place => (ofLex place).2) same)
    exact List.isChain_iff_pairwise.mp strict

def CometBftValidatorSet.hashInputs (set : CometBftValidatorSet) : List (List UInt8) :=
  if nonempty : set.validators.map CometBftValidator.cometHashBytes ≠ [] then
    cometMerkleInputs _ nonempty
  else []

/-- What is hashed for the identifier of a genesis. -/
def CometBftGenesis.idInput (genesis : CometBftGenesis) : List UInt8 :=
  cometBftGenesisIdDomain ++ (genesis.identity.encode ++ genesis.validators.hash.toList)

end

/-- Engine geneses with one identifier have one identity and one list of keys and
powers, or two inputs of the hashes collide.  The hash of a validator set depends on
its keys and powers only. -/
theorem engine_genesis_binds_validators [Sha256] :
    (forall leftIdentity leftSet left rightIdentity rightSet right,
      CometBftGenesis.fromConsensusConfig leftIdentity leftSet = .ok left ->
      CometBftGenesis.fromConsensusConfig rightIdentity rightSet = .ok right ->
      left.id = right.id ->
        left.identity = right.identity /\ left.validators.validators.map CometBftValidator.keyAndPower =
            right.validators.validators.map CometBftValidator.keyAndPower ∨
          Collides Sha256.digest left.idInput right.idInput ∨
          CollisionBetween Sha256.digest left.validators.hashInputs right.validators.hashInputs) /\
    (forall (leftSet rightSet : ValidatorSet) left right,
      (leftSet.validators.map Validator.keyAndPower).Perm
        (rightSet.validators.map Validator.keyAndPower) ->
      CometBftValidatorSet.fromNoxisValidatorSet leftSet = .ok left ->
      CometBftValidatorSet.fromNoxisValidatorSet rightSet = .ok right -> left.hash = right.hash) := by
  constructor
  · intro leftIdentity leftSet left rightIdentity rightSet right isLeft isRight sameId
    rw [left.identified, right.identified] at sameId
    rcases eq_or_collides Sha256.digest sameId with sameInput | collides
    · have parts := List.append_inj' (List.append_cancel_left sameInput)
        (left.validators.hash.length_toList.trans right.validators.hash.length_toList.symm)
      rcases hash_of_fromNoxisValidatorSet
        (CometBftGenesis.fromConsensusConfig_eq_ok.mp isLeft).2 with ⟨leftSome, leftHash⟩
      rcases hash_of_fromNoxisValidatorSet
        (CometBftGenesis.fromConsensusConfig_eq_ok.mp isRight).2 with ⟨rightSome, rightHash⟩
      have sameRoot := leftHash.symm.trans ((Bytes.ext parts.2).trans rightHash)
      rcases eq_or_collision_of_cometMerkleRoot_eq leftSome rightSome sameRoot with
        sameBytes | collision
      · refine Or.inl ⟨CometBftNetworkIdentity.encode_injective parts.1, ?_⟩
        exact map_keyAndPower_of_cometHashBytes sameBytes
      right
      right
      rw [hashInputs, hashInputs, dif_pos leftSome, dif_pos rightSome]
      exact collision
    · exact Or.inr (Or.inl collides)
  · intro leftSet rightSet left right permuted isLeft isRight
    rcases pairwise_of_fromNoxisValidatorSet isLeft with ⟨leftPerm, leftSorted⟩
    rcases pairwise_of_fromNoxisValidatorSet isRight with ⟨rightPerm, rightSorted⟩
    have sameList : left.validators.map keyAndPower =
        right.validators.map keyAndPower := by
      refine (leftPerm.trans (permuted.trans rightPerm.symm)).eq_of_pairwise ?_
        (pairwise_engineOrder leftSorted) (pairwise_engineOrder rightSorted)
      intro first second _ _ before after
      exact absurd before (lt_asymm after)
    rcases hash_of_fromNoxisValidatorSet isLeft with ⟨leftSome, leftHash⟩
    rcases hash_of_fromNoxisValidatorSet isRight with ⟨rightSome, rightHash⟩
    rw [leftHash, rightHash]
    congr 1
    rw [← map_hashBytes_keyAndPower, ← map_hashBytes_keyAndPower, sameList]

section
open Fips180

/-- The four validators with two of their keys exchanged. -/
def exchangedSet : ValidatorSet where
  validators := [
    { testValidator 1 with verificationKey := (testValidator 2).verificationKey },
    { testValidator 2 with verificationKey := (testValidator 1).verificationKey },
    testValidator 3, testValidator 4]
  totalVotingPower := 4
  id := _
  valid := rfl
  summed := rfl
  identified := rfl

theorem exchanged_keys_keep_genesis :
    ∃ left right, CometBftGenesis.fromConsensusConfig testIdentity testSet = .ok left /\
      CometBftGenesis.fromConsensusConfig testIdentity exchangedSet = .ok right /\
      left.validators.hash = right.validators.hash /\
      (left.validators.validators.map keyAndPower = right.validators.validators.map keyAndPower ∨
        ∃ first second, Collides Sha256.digest first second) := by
  have converts (set : ValidatorSet) (isOk : (fromNoxisValidatorSet set).isOk = true) :
      ∃ converted, fromNoxisValidatorSet set = .ok converted :=
    ⟨_, Except.eq_ok_of_isOk isOk ⟨[], .replicate 32 0⟩⟩
  rcases converts testSet (by decide +kernel) with ⟨left, isLeft⟩
  rcases converts exchangedSet (by decide +kernel) with ⟨right, isRight⟩
  have sameHash := engine_genesis_binds_validators.2 testSet exchangedSet left right
    (List.Perm.swap _ _ _) isLeft isRight
  let genesis (converted : CometBftValidatorSet) : CometBftGenesis :=
    ⟨testIdentity, converted, _, rfl, rfl⟩
  have leftMade : CometBftGenesis.fromConsensusConfig testIdentity testSet = .ok (genesis left) :=
    CometBftGenesis.fromConsensusConfig_eq_ok.mpr ⟨rfl, isLeft⟩
  have rightMade : CometBftGenesis.fromConsensusConfig testIdentity exchangedSet =
      .ok (genesis right) := CometBftGenesis.fromConsensusConfig_eq_ok.mpr ⟨rfl, isRight⟩
  refine ⟨_, _, leftMade, rightMade, sameHash, ?_⟩
  rcases engine_genesis_binds_validators.1 _ _ _ _ _ _ leftMade rightMade (by
    change Sha256.digest (_ ++ (_ ++ left.hash.toList)) = _
    rw [sameHash]) with ⟨_, same⟩ | collides | ⟨_, _, _, _, collides⟩
  · exact Or.inl same
  · exact Or.inr ⟨_, _, collides⟩
  · exact Or.inr ⟨_, _, collides⟩

end
end Noxis.Consensus
