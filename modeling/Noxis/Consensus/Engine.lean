import Noxis.Consensus.Finality

namespace Noxis.Consensus

open Foundation Codec

/-!
# The consensus engine boundary

A network runs on a CometBFT engine.  The engine's identity, its view of the
validators and its decisions are bound to a genesis here.

The engine orders validators by voting power, largest first, and then by
address, and addresses are derived from public keys.  The conversion looks for
a repeated address by comparing neighbours in that order.  Since the order is
by power first, validators with one address need not be neighbours.
-/

def cometBftNetworkIdentityFormatVersion : UInt16 := 1

def maxCometBftChainIdBytes : Nat := 128

def maxCometBftCompatibilityVersionBytes : Nat := 64

def cometBftV038CompatibilityVersion : String := "cometbft-0.38"

def cometBftEd25519SignatureScheme : UInt16 := 1

def cometBftEd25519PublicKeyLength : Nat := 32

def cometBftMaxTotalVotingPower : UInt64 := UInt64.ofNat ((2 ^ 63 - 1) / 8)

def cometBftGenesisIdDomain : List UInt8 := utf8 "NOXIS/COMET-BFT/GENESIS-ID/V1\x00"

inductive EngineIdentityError where
  | invalidChainId
  | invalidInitialHeight (height : Int)
  | invalidCompatibilityVersion
  | invalidNoxisHeight
  | invalidDecisionHeight (height : Int)
  | zeroDecisionBlockHash
  | zeroDecisionNetworkId
  | zeroNextValidatorsHash
  | decisionNetworkMismatch
  | decisionHeightMismatch (expected actual : Int)
  | invalidEncodedLength (length : Nat)
  | unsupportedFormatVersion (version : UInt16)
  | nonUtf8Label
  | nonCanonicalEncoding
  | unexpectedEnd (offset : Nat)
  | trailingBytes (count : Nat)
  | lengthOverflow
  | heightOverflow
  | unsupportedCometCompatibilityVersion
  | unsupportedCometValidatorSignatureScheme (actual expected : UInt16)
  | invalidCometEd25519PublicKeyLength (actual expected : Nat)
  | invalidCometValidatorVotingPower (power : Int)
  | cometValidatorVotingPowerTooLarge (actual maximum : UInt64)
  | cometTotalVotingPowerTooLarge (actual maximum : UInt64)
  | duplicateCometValidatorAddress
  | unexpectedNextValidatorsHash
deriving DecidableEq

def isAsciiGraphic (byte : UInt8) : Bool := decide (33 <= byte) && decide (byte <= 126)

def validateLabel (value : String) (maximum : Nat) (invalidError : EngineIdentityError) :
    Except EngineIdentityError Unit :=
  if (utf8 value).isEmpty || decide (maximum < (utf8 value).length) ||
      !(utf8 value).all isAsciiGraphic then
    .error invalidError
  else
    .ok ()

/-- The engine network a genesis is bound to.  Heights are signed 64-bit
numbers. -/
structure CometBftNetworkIdentity where
  chainId : String
  initialHeight : Int
  compatibilityVersion : String
  parametersSha256 : Bytes 32
  chainLabelled : validateLabel chainId maxCometBftChainIdBytes .invalidChainId = .ok ()
  high : 0 < initialHeight
  representable : initialHeight < 2 ^ 63
  versionLabelled : validateLabel compatibilityVersion maxCometBftCompatibilityVersionBytes
    .invalidCompatibilityVersion = .ok ()
deriving DecidableEq

theorem one_representable : (1 : Int) < 2 ^ 63 := by decide

namespace CometBftNetworkIdentity

def new (chainId : String) (initialHeight : Int) (representable : initialHeight < 2 ^ 63)
    (compatibilityVersion : String) (parametersSha256 : Bytes 32) :
    Except EngineIdentityError CometBftNetworkIdentity := do
  let ⟨(), chainLabelled⟩ ← witnessed
    (validateLabel chainId maxCometBftChainIdBytes .invalidChainId)
  if low : initialHeight <= 0 then
    .error (.invalidInitialHeight initialHeight)
  else
    let ⟨(), versionLabelled⟩ ← witnessed
      (validateLabel compatibilityVersion maxCometBftCompatibilityVersionBytes
        .invalidCompatibilityVersion)
    return {
      chainId
      initialHeight
      compatibilityVersion
      parametersSha256
      chainLabelled
      high := Int.not_le.mp low
      representable
      versionLabelled }

def encode (identity : CometBftNetworkIdentity) : List UInt8 :=
  writeU16 cometBftNetworkIdentityFormatVersion ++
    (UInt8.ofNat (utf8 identity.chainId).length :: (utf8 identity.chainId ++
      (bigEndian 8 identity.initialHeight.toNat ++
        (UInt8.ofNat (utf8 identity.compatibilityVersion).length ::
          (utf8 identity.compatibilityVersion ++ identity.parametersSha256.toList)))))

def engineHeightFor (identity : CometBftNetworkIdentity) (noxisHeight : UInt64) :
    Except EngineIdentityError Int :=
  if noxisHeight = 0 then
    .error .invalidNoxisHeight
  else if 2 ^ 63 <= (noxisHeight - 1).toNat then
    .error .heightOverflow
  else if 2 ^ 63 <= identity.initialHeight + (noxisHeight - 1).toNat then
    .error .heightOverflow
  else
    .ok (identity.initialHeight + (noxisHeight - 1).toNat)

end CometBftNetworkIdentity

/-- Seven bits at a time, low bits first. -/
def encodeUvarint (value : Nat) : List UInt8 :=
  if 128 <= value then
    (UInt8.ofNat value ||| 128) :: encodeUvarint (value / 128)
  else
    [UInt8.ofNat value]
termination_by value

/-- The largest power of two strictly below a number greater than one. -/
def largestPowerOfTwoBelow (value : Nat) : Nat := 2 ^ (value - 1).log2

theorem largestPowerOfTwoBelow_lt {value : Nat} (several : 1 < value) :
    0 < largestPowerOfTwoBelow value /\ largestPowerOfTwoBelow value < value := by
  grind [largestPowerOfTwoBelow, Nat.log2_self_le]

section
variable [Sha256]

def cometAddress (publicKey : List UInt8) : Bytes 20 :=
  ⟨(Sha256.digest publicKey).toList.take 20, by
    rw [List.length_take, Bytes.length_toList]
    rfl⟩

/-- One validator in the engine's representation. -/
structure CometBftValidator where
  noxisValidatorId : ValidatorId
  address : Bytes 20
  publicKey : Bytes 32
  votingPower : Int
  powerful : 0 < votingPower
  bounded : votingPower.toNat <= cometBftMaxTotalVotingPower.toNat
  derived : address = cometAddress publicKey.toList
deriving DecidableEq

namespace CometBftValidator

def fromCometEd25519 (noxisValidatorId : ValidatorId) (publicKey : Bytes 32) (votingPower : Int) :
    Except EngineIdentityError CometBftValidator :=
  if invalid : votingPower <= 0 ∨ cometBftMaxTotalVotingPower.toNat < votingPower.toNat then
    .error (.invalidCometValidatorVotingPower votingPower)
  else
    .ok {
      noxisValidatorId
      address := cometAddress publicKey.toList
      publicKey
      votingPower
      powerful := Int.not_le.mp (fun powerless => invalid (Or.inl powerless))
      bounded := Nat.not_lt.mp (fun tooLarge => invalid (Or.inr tooLarge))
      derived := rfl }

def fromNoxis (validator : Validator) : Except EngineIdentityError CometBftValidator :=
  if validator.verificationKey.signatureScheme ≠ cometBftEd25519SignatureScheme then
    .error (.unsupportedCometValidatorSignatureScheme validator.verificationKey.signatureScheme
      cometBftEd25519SignatureScheme)
  else
    match Bytes.ofList? 32 validator.verificationKey.bytes with
    | none =>
      .error (.invalidCometEd25519PublicKeyLength validator.verificationKey.bytes.length
        cometBftEd25519PublicKeyLength)
    | some publicKey =>
      if 2 ^ 63 <= validator.votingPower.toNat then
        .error (.cometValidatorVotingPowerTooLarge validator.votingPower
          cometBftMaxTotalVotingPower)
      else
        fromCometEd25519 validator.id publicKey validator.votingPower.toNat

/-- The protobuf bytes the engine hashes: the key and the power. -/
def cometHashBytes (validator : CometBftValidator) : List UInt8 :=
  let publicKey := 0x0a :: UInt8.ofNat cometBftEd25519PublicKeyLength ::
    validator.publicKey.toList
  0x0a :: (encodeUvarint publicKey.length ++ (publicKey ++
    (0x10 :: encodeUvarint validator.votingPower.toNat)))

/-- Larger power first, then smaller address. -/
def order (validator : CometBftValidator) : Lex (OrderDual Int × Bytes 20) :=
  toLex (OrderDual.toDual validator.votingPower, validator.address)

end CometBftValidator

def cometMerkleHashes (values : List (Bytes 32)) (nonempty : values ≠ []) : Bytes 32 :=
  if single : values.length = 1 then
    values.head nonempty
  else
    let split := largestPowerOfTwoBelow values.length
    have several : 1 < values.length := by
      have positive := List.length_pos_of_ne_nil nonempty
      omega
    have bounds := largestPowerOfTwoBelow_lt several
    let left := cometMerkleHashes (values.take split) (by
      grind [List.length_nil])
    let right := cometMerkleHashes (values.drop split) (by
      grind [List.length_nil])
    Sha256.digest (1 :: (left.toList ++ right.toList))
termination_by values.length
decreasing_by
  · rw [List.length_take]
    omega
  · rw [List.length_drop]
    omega

def cometMerkleRoot (values : List (List UInt8)) (nonempty : values ≠ []) : Bytes 32 :=
  cometMerkleHashes (values.map (fun value => Sha256.digest (0 :: value)))
    (fun empty => nonempty (List.map_eq_nil_iff.mp empty))

/-- A validator set in the engine's order, with the engine's hash of it. -/
structure CometBftValidatorSet where
  validators : List CometBftValidator
  hash : Bytes 32
deriving DecidableEq

theorem hashBytes_ne_nil {set : ValidatorSet} {mapped : List CometBftValidator}
    (isMapped : set.validators.mapM CometBftValidator.fromNoxis = .ok mapped) :
    (sortByKey CometBftValidator.order mapped).map CometBftValidator.cometHashBytes ≠ [] := by
  have sameLength := congrArg List.length
    (Except.map_of_mapM_eq_ok (fun _ _ _ => (rfl : () = ())) isMapped)
  have permuted := sortByKey_perm CometBftValidator.order mapped
  have positive := List.length_pos_of_ne_nil (validateValidators_eq_ok.mp set.valid).1
  intro empty
  have none := congrArg List.length empty
  rw [List.length_map, List.length_map] at sameLength
  rw [List.length_map, permuted.length_eq, List.length_nil] at none
  omega

def CometBftValidatorSet.fromNoxisValidatorSet (set : ValidatorSet) :
    Except EngineIdentityError CometBftValidatorSet := do
  let ⟨mapped, isMapped⟩ ← witnessed (set.validators.mapM CometBftValidator.fromNoxis)
  let total ← sumChecked
    (.cometTotalVotingPowerTooLarge (UInt64.ofNat (2 ^ 64 - 1)) cometBftMaxTotalVotingPower)
    (fun validator : CometBftValidator => .ok (UInt64.ofNat validator.votingPower.toNat)) 0 mapped
  if cometBftMaxTotalVotingPower < total then
    .error (.cometTotalVotingPowerTooLarge total cometBftMaxTotalVotingPower)
  else
    let sorted := sortByKey CometBftValidator.order mapped
    if anyNeighbours (fun left right => left.address = right.address) sorted then
      .error .duplicateCometValidatorAddress
    else
      return ⟨sorted, cometMerkleRoot (sorted.map CometBftValidator.cometHashBytes)
        (hashBytes_ne_nil isMapped)⟩

/-! ## Which validators the engine accepts -/

def Validator.engineAddress (validator : Validator) : Bytes 20 :=
  cometAddress validator.verificationKey.bytes

def Validator.engineOrder (validator : Validator) : Lex (OrderDual Int × Bytes 20) :=
  toLex (OrderDual.toDual (validator.votingPower.toNat : Int), validator.engineAddress)

variable {mapped : CometBftValidator}

theorem fromCometEd25519_eq_ok {id publicKey} {votingPower : Int} :
    CometBftValidator.fromCometEd25519 id publicKey votingPower = .ok mapped <->
      mapped.noxisValidatorId = id /\ mapped.publicKey = publicKey /\
        mapped.votingPower = votingPower := by
  unfold CometBftValidator.fromCometEd25519
  constructor
  · grind
  · rcases mapped with ⟨_, address, _, _, powerful, bounded, derived⟩
    rintro ⟨rfl, rfl, rfl⟩
    subst derived
    exact dif_neg (not_or.mpr ⟨Int.not_le.mpr powerful, Nat.not_lt.mpr bounded⟩)

variable {validator : Validator}

theorem fromNoxis_eq_ok :
    CometBftValidator.fromNoxis validator = .ok mapped <->
      validator.verificationKey.signatureScheme = cometBftEd25519SignatureScheme /\
        mapped.noxisValidatorId = validator.id /\
        mapped.publicKey.toList = validator.verificationKey.bytes /\
        mapped.votingPower = validator.votingPower.toNat := by
  unfold CometBftValidator.fromNoxis
  rw [Except.refuse_eq_ok, not_not]
  refine and_congr_right (fun _ => ?_)
  constructor
  · intro made
    cases isKey : Bytes.ofList? 32 validator.verificationKey.bytes with
    | none =>
      rw [isKey] at made
      cases made
    | some publicKey =>
      rw [isKey] at made
      rcases fromCometEd25519_eq_ok.mp (Except.refuse_eq_ok.mp made).2 with ⟨sameId, rfl, samePower⟩
      exact ⟨sameId, Bytes.toList_of_ofList?_eq_some isKey, samePower⟩
  · rintro ⟨sameId, sameKey, samePower⟩
    have bounded := mapped.bounded
    have maximum : cometBftMaxTotalVotingPower.toNat < 2 ^ 63 := by decide
    rw [← sameKey, Bytes.ofList?_toList]
    refine Except.refuse_eq_ok.mpr ⟨?_, fromCometEd25519_eq_ok.mpr ⟨sameId, rfl, samePower⟩⟩
    rw [samePower, Int.toNat_natCast] at bounded
    omega

theorem exists_fromNoxis :
    (∃ mapped, CometBftValidator.fromNoxis validator = .ok mapped) <->
      validator.verificationKey.signatureScheme = cometBftEd25519SignatureScheme /\
        validator.verificationKey.bytes.length = cometBftEd25519PublicKeyLength /\
        validator.votingPower <= cometBftMaxTotalVotingPower := by
  simp only [fromNoxis_eq_ok, exists_and_left]
  refine and_congr_right (fun _ => ?_)
  constructor
  · rintro ⟨mapped, _, sameKey, samePower⟩
    refine ⟨?_, ?_⟩
    · rw [← sameKey]
      exact mapped.publicKey.length_toList
    grind [CometBftValidator.bounded, UInt64.le_iff_toNat_le]
  · rintro ⟨keyLength, bounded⟩
    have powerful : 0 < validator.votingPower.toNat :=
      Nat.pos_of_ne_zero (fun zero => validator.powerful (UInt64.toNat_inj.mp zero))
    refine ⟨⟨validator.id, _, ⟨validator.verificationKey.bytes, keyLength⟩,
      validator.votingPower.toNat, Int.natCast_pos.mpr powerful, ?_, rfl⟩, rfl, rfl, rfl⟩
    rw [Int.toNat_natCast]
    exact UInt64.le_iff_toNat_le.mp bounded

theorem order_of_fromNoxis (made : CometBftValidator.fromNoxis validator = .ok mapped) :
    mapped.order = validator.engineOrder := by
  rcases fromNoxis_eq_ok.mp made with ⟨_, _, sameKey, samePower⟩
  rw [CometBftValidator.order, Validator.engineOrder, Validator.engineAddress, mapped.derived,
    sameKey, samePower]

/-- Every key is one the engine supports and the total power is within the
engine's bound. -/
structure ValidatorSet.Convertible (set : ValidatorSet) : Prop where
  keys : forall validator, validator ∈ set.validators ->
    validator.verificationKey.signatureScheme = cometBftEd25519SignatureScheme /\
      validator.verificationKey.bytes.length = cometBftEd25519PublicKeyLength
  total : set.totalVotingPower <= cometBftMaxTotalVotingPower

/-- No two validators have one engine address. -/
def ValidatorSet.DistinctAddresses (set : ValidatorSet) : Prop :=
  set.validators.Pairwise (fun left right => left.engineAddress ≠ right.engineAddress)

/-- Validators with one engine address have another validator strictly between
them in the engine's order. -/
def ValidatorSet.Separated (set : ValidatorSet) : Prop :=
  forall left, left ∈ set.validators -> forall right, right ∈ set.validators ->
    left ≠ right -> left.engineAddress = right.engineAddress ->
      left.engineOrder <= right.engineOrder ->
        ∃ validator, validator ∈ set.validators /\ left.engineOrder < validator.engineOrder /\
          validator.engineOrder < right.engineOrder

section
variable {set : ValidatorSet} {mapped : List CometBftValidator}
  {validator : Validator}

theorem votingPower_le_total (member : validator ∈ set.validators) :
    validator.votingPower <= set.totalVotingPower := by
  rw [UInt64.le_iff_toNat_le, set.toNat_totalVotingPower]
  exact List.le_sum_of_mem (List.mem_map_of_mem member)

theorem exists_mapped_of_convertible (convertible : set.Convertible) :
    ∃ mapped, set.validators.mapM CometBftValidator.fromNoxis = .ok mapped := by
  refine Except.exists_mapM_eq_ok.mpr ?_
  intro validator member
  have key := convertible.keys validator member
  exact exists_fromNoxis.mpr
    ⟨key.1, key.2, UInt64.le_trans (votingPower_le_total member) convertible.total⟩

variable (isMapped : set.validators.mapM CometBftValidator.fromNoxis = .ok mapped)

include isMapped in
theorem keys_of_mapped (validator : Validator) (member : validator ∈ set.validators) :
    validator.verificationKey.signatureScheme = cometBftEd25519SignatureScheme /\
      validator.verificationKey.bytes.length = cometBftEd25519PublicKeyLength := by
  have accepted := exists_fromNoxis.mp (Except.exists_mapM_eq_ok.mp ⟨mapped, isMapped⟩ validator
    member)
  exact ⟨accepted.1, accepted.2.1⟩

theorem sumChecked_mapped (overflow : EngineIdentityError)
    (isMapped : set.validators.mapM CometBftValidator.fromNoxis = .ok mapped) :
    sumChecked overflow (fun validator : CometBftValidator =>
      .ok (UInt64.ofNat validator.votingPower.toNat)) 0 mapped = .ok set.totalVotingPower := by
  have weighed : forall (validator : CometBftValidator) (amount : UInt64),
      (Except.ok (UInt64.ofNat validator.votingPower.toNat) :
        Except EngineIdentityError UInt64) = .ok amount ->
      amount.toNat = validator.votingPower.toNat := by
    intro validator amount same
    have bounded := validator.bounded
    have maximum : cometBftMaxTotalVotingPower.toNat < 2 ^ 64 := by decide
    grind [UInt64.toNat_ofNat_of_lt']
  have samePowers : mapped.map (fun validator => validator.votingPower.toNat) =
      set.validators.map (fun validator => validator.votingPower.toNat) := by
    grind [Except.map_of_mapM_eq_ok, fromNoxis_eq_ok]
  refine (sumChecked_eq_ok weighed).mpr ⟨fun _ _ => ⟨_, rfl⟩, ?_⟩
  simp [ValidatorSet.toNat_totalVotingPower, *]

include isMapped in
theorem fromNoxisValidatorSet_of_mapped :
    ∃ hash, CometBftValidatorSet.fromNoxisValidatorSet set =
      if cometBftMaxTotalVotingPower < set.totalVotingPower then
        .error (.cometTotalVotingPowerTooLarge set.totalVotingPower cometBftMaxTotalVotingPower)
      else if anyNeighbours (fun left right => left.address = right.address)
          (sortByKey CometBftValidator.order mapped) then
        .error .duplicateCometValidatorAddress
      else .ok ⟨sortByKey CometBftValidator.order mapped, hash⟩ := by
  refine ⟨cometMerkleRoot _ (hashBytes_ne_nil isMapped), ?_⟩
  unfold CometBftValidatorSet.fromNoxisValidatorSet
  rw [witnessed_of_ok isMapped]
  change (sumChecked _ _ 0 mapped >>= _) = _
  rw [sumChecked_mapped _ isMapped]
  rfl

/-- The conversion succeeds exactly when every validator can be mapped, the
total is in bounds and no two neighbours have one address. -/
theorem fromNoxisValidatorSet_eq_ok {validators} :
    (∃ hash, CometBftValidatorSet.fromNoxisValidatorSet set = .ok ⟨validators, hash⟩) <->
      set.totalVotingPower <= cometBftMaxTotalVotingPower /\
        ∃ mapped, set.validators.mapM CometBftValidator.fromNoxis = .ok mapped /\
          validators = sortByKey CometBftValidator.order mapped /\
          validators.IsChain (fun left right => left.address ≠ right.address) := by
  have chained : forall listed : List CometBftValidator,
      ¬anyNeighbours (fun left right => left.address = right.address) listed = true <->
        listed.IsChain (fun left right => left.address ≠ right.address) := by
    simp [anyNeighbours_eq_false]
  constructor
  · rintro ⟨hash, made⟩
    rcases Except.bind_eq_ok.mp made with ⟨⟨mapped, isMapped⟩, _, _⟩
    rcases fromNoxisValidatorSet_of_mapped isMapped with ⟨root, unfolded⟩
    rw [unfolded, Except.refuse_eq_ok, Except.refuse_eq_ok, chained] at made
    grind
  · rintro ⟨inBounds, mapped, isMapped, rfl, unrepeated⟩
    rcases fromNoxisValidatorSet_of_mapped isMapped with ⟨root, unfolded⟩
    simp [if_neg, *]

include isMapped in
/-- Identifier and place in the order are those of the validators given. -/
theorem entries_of_mapped :
    mapped.map (fun validator => (validator.noxisValidatorId, validator.order)) =
      set.validators.map (fun validator => (validator.id, validator.engineOrder)) := by
  refine Except.map_of_mapM_eq_ok ?_ isMapped
  intro validator result made
  rw [(fromNoxis_eq_ok.mp made).2.1, order_of_fromNoxis made]

include isMapped in
theorem exists_mapped_of_mem (member : validator ∈ set.validators) :
    ∃ image, image ∈ mapped /\ image.noxisValidatorId = validator.id /\
      image.order = validator.engineOrder := by
  have listed := List.mem_map_of_mem
    (f := fun validator : Validator => (validator.id, validator.engineOrder)) member
  rw [← entries_of_mapped isMapped] at listed
  grind

include isMapped in
theorem exists_validator_of_mem {image} (isImage : image ∈ mapped) :
    ∃ validator, validator ∈ set.validators /\ image.noxisValidatorId = validator.id /\
      image.order = validator.engineOrder := by
  have listed := List.mem_map_of_mem
    (f := fun image : CometBftValidator => (image.noxisValidatorId, image.order)) isImage
  grind [entries_of_mapped]

include isMapped in
theorem nodup_noxisValidatorIds : (mapped.map CometBftValidator.noxisValidatorId).Nodup := by
  have sameIds : mapped.map CometBftValidator.noxisValidatorId = set.validators.map Validator.id :=
    Except.map_of_mapM_eq_ok (fun _ _ made => (fromNoxis_eq_ok.mp made).2.1) isMapped
  rw [sameIds]
  exact set.nodup_ids

theorem address_eq_of_order {left : CometBftValidator} {right : Validator}
    (same : left.order = right.engineOrder) : left.address = right.engineAddress :=
  congrArg (fun place => (ofLex place).2) same

include isMapped in
/-- Neighbours in the engine's order have different addresses exactly when
validators with one address are separated. -/
theorem isChain_address_iff :
    (sortByKey CometBftValidator.order mapped).IsChain
        (fun left right => left.address ≠ right.address) <-> set.Separated := by
  have permuted := sortByKey_perm CometBftValidator.order mapped
  have distinctIds := nodup_noxisValidatorIds isMapped
  have distinct : (sortByKey CometBftValidator.order mapped).Nodup :=
    permuted.nodup_iff.mpr (List.Nodup.of_map _ distinctIds)
  have labelled : forall left right : CometBftValidator, left.order = right.order ->
      left.address = right.address :=
    fun _ _ same => congrArg (fun place => (ofLex place).2) same
  rw [isChain_label_ne_iff (pairwise_le_sortByKey CometBftValidator.order mapped) distinct labelled]
  simp only [permuted.mem_iff]
  constructor
  · intro separated left leftMember right rightMember different sameAddress ordered
    rcases exists_mapped_of_mem isMapped leftMember with ⟨leftImage, leftIn, leftId, leftOrder⟩
    rcases exists_mapped_of_mem isMapped rightMember with ⟨rightImage, rightIn, rightId, rightOrder⟩
    have differentImages : leftImage ≠ rightImage := by
      grind [List.inj_on_of_nodup_map, ValidatorSet.nodup_ids]
    rcases separated leftImage leftIn rightImage rightIn differentImages
      (by grind [address_eq_of_order])
      (by rw [leftOrder, rightOrder]; exact ordered) with ⟨image, isImage, above, below⟩
    rcases exists_validator_of_mem isMapped isImage with ⟨validator, member, _, sameOrder⟩
    grind
  · intro separated leftImage leftIn rightImage rightIn different sameAddress ordered
    rcases exists_validator_of_mem isMapped leftIn with ⟨left, leftMember, leftId, leftOrder⟩
    rcases exists_validator_of_mem isMapped rightIn with ⟨right, rightMember, rightId, rightOrder⟩
    have differentValidators : left ≠ right := by
      grind [List.inj_on_of_nodup_map]
    rcases separated left leftMember right rightMember differentValidators
      (by grind [address_eq_of_order])
      (by rw [← leftOrder, ← rightOrder]; exact ordered) with ⟨validator, member, above, below⟩
    grind [exists_mapped_of_mem]

include isMapped in
theorem pairwise_address_iff :
    (sortByKey CometBftValidator.order mapped).Pairwise
        (fun left right => left.address ≠ right.address) <-> set.DistinctAddresses := by
  have permuted := (sortByKey_perm CometBftValidator.order mapped).map CometBftValidator.address
  have sameAddresses : mapped.map CometBftValidator.address =
      set.validators.map Validator.engineAddress :=
    Except.map_of_mapM_eq_ok
      (fun _ _ made => address_eq_of_order (order_of_fromNoxis made)) isMapped
  have listed : (sortByKey CometBftValidator.order mapped).Pairwise
      (fun left right => left.address ≠ right.address) <->
      ((sortByKey CometBftValidator.order mapped).map CometBftValidator.address).Nodup :=
    List.pairwise_map.symm
  have given : set.DistinctAddresses <-> (set.validators.map Validator.engineAddress).Nodup :=
    List.pairwise_map.symm
  rw [listed, given, ← sameAddresses]
  exact permuted.nodup_iff

/-- A conversion that succeeds has distinct addresses exactly for the validator
sets that are not convertible, have distinct addresses themselves, or have
validators with one address and nothing between them. -/
theorem fromNoxisValidatorSet_distinct_iff (set : ValidatorSet) :
    (forall converted, CometBftValidatorSet.fromNoxisValidatorSet set = .ok converted ->
        converted.validators.Pairwise (fun left right => left.address ≠ right.address)) <->
      ¬set.Convertible ∨ set.DistinctAddresses ∨ ¬set.Separated := by
  constructor
  · intro alwaysDistinct
    by_cases convertible : set.Convertible
    · by_cases separated : set.Separated
      · rcases exists_mapped_of_convertible convertible with ⟨mapped, isMapped⟩
        have unrepeated := (isChain_address_iff isMapped).mpr separated
        rcases fromNoxisValidatorSet_eq_ok.mpr
          ⟨convertible.total, mapped, isMapped, rfl, unrepeated⟩ with ⟨hash, made⟩
        exact Or.inr (Or.inl ((pairwise_address_iff isMapped).mp (alwaysDistinct _ made)))
      · exact Or.inr (Or.inr separated)
    · exact Or.inl convertible
  · intro condition converted made
    rcases fromNoxisValidatorSet_eq_ok.mp ⟨converted.hash, made⟩ with
      ⟨inBounds, mapped, isMapped, isSorted, unrepeated⟩
    rw [isSorted] at unrepeated ⊢
    rcases condition with unconvertible | distinct | unseparated
    · exact absurd ⟨keys_of_mapped isMapped, inBounds⟩ unconvertible
    · exact (pairwise_address_iff isMapped).mpr distinct
    · exact absurd ((isChain_address_iff isMapped).mp unrepeated) unseparated

end

/-- Two of three validators have one key; the third stands between them. -/
def repeatedKeySet : ValidatorSet where
  validators := [
    { testValidator 1 with votingPower := 3, powerful := by decide },
    { testValidator 2 with votingPower := 2, powerful := by decide },
    { testValidator 3 with verificationKey := (testValidator 1).verificationKey }]
  totalVotingPower := 6
  id := _
  valid := rfl
  summed := rfl
  identified := rfl

end

open Fips180 in
theorem repeatedKeySet_converted_with_repeated_address :
    ∃ converted, CometBftValidatorSet.fromNoxisValidatorSet repeatedKeySet = .ok converted /\
      ¬converted.validators.Pairwise (fun left right => left.address ≠ right.address) := by
  have evaluated : (CometBftValidatorSet.fromNoxisValidatorSet repeatedKeySet).map
      (fun converted => decide
        (converted.validators.Pairwise (fun left right => left.address ≠ right.address))) =
      .ok false := by decide +kernel
  cases made : CometBftValidatorSet.fromNoxisValidatorSet repeatedKeySet with
  | error reason =>
    rw [made] at evaluated
    cases evaluated
  | ok converted =>
    rw [made] at evaluated
    exact ⟨converted, rfl, of_decide_eq_false (Except.ok.inj evaluated)⟩

def testIdentity : CometBftNetworkIdentity where
  chainId := "noxis-test"
  initialHeight := 1
  compatibilityVersion := cometBftV038CompatibilityVersion
  parametersSha256 := .replicate 32 6
  chainLabelled := by decide +kernel
  high := Int.one_pos
  representable := one_representable
  versionLabelled := rfl

section
variable [Sha256]

/-! ## Genesis and decisions -/

/-- The engine's identity together with its view of the validators. -/
structure CometBftGenesis where
  identity : CometBftNetworkIdentity
  validators : CometBftValidatorSet
  id : Bytes 32
  compatible : identity.compatibilityVersion = cometBftV038CompatibilityVersion
  identified : id = Sha256.digest (cometBftGenesisIdDomain ++ (identity.encode ++
    validators.hash.toList))
deriving DecidableEq

namespace CometBftGenesis

def fromConsensusConfig (identity : CometBftNetworkIdentity)
    (validators : ValidatorSet) : Except EngineIdentityError CometBftGenesis :=
  if incompatible : identity.compatibilityVersion ≠ cometBftV038CompatibilityVersion then
    .error .unsupportedCometCompatibilityVersion
  else do
    let converted ← CometBftValidatorSet.fromNoxisValidatorSet validators
    return {
      identity
      validators := converted
      id := Sha256.digest (cometBftGenesisIdDomain ++ (identity.encode ++ converted.hash.toList))
      compatible := not_not.mp incompatible
      identified := rfl }

theorem fromConsensusConfig_eq_ok {identity set genesis} :
    fromConsensusConfig identity set = .ok genesis <->
      genesis.identity = identity /\
        CometBftValidatorSet.fromNoxisValidatorSet set = .ok genesis.validators := by
  unfold fromConsensusConfig
  constructor
  · intro made
    split_ifs at made
    rcases Except.bind_eq_ok.mp made with ⟨converted, isConverted, made⟩
    rw [← Except.ok.inj made]
    exact ⟨rfl, isConverted⟩
  · rintro ⟨rfl, isConverted⟩
    rw [dif_neg (not_not_intro genesis.compatible), isConverted]
    rcases genesis with ⟨identity, validators, id, compatible, identified⟩
    subst identified
    rfl

end CometBftGenesis

/-- What the engine decided for one block. -/
structure CometBftDecision where
  networkId : Bytes 32
  height : Int
  blockHash : Bytes 32
  nextValidatorsHash : Bytes 32
  high : 0 < height
  representable : height < 2 ^ 63
  hashed : blockHash ≠ .replicate 32 0
  scheduled : nextValidatorsHash ≠ .replicate 32 0
deriving DecidableEq

namespace CometBftDecision

def new (genesis : CometBftGenesis) (height : Int) (representable : height < 2 ^ 63)
    (blockHash nextValidatorsHash : Bytes 32) : Except EngineIdentityError CometBftDecision :=
  if low : height <= 0 then
    .error (.invalidDecisionHeight height)
  else if zeroBlock : blockHash = .replicate 32 0 then
    .error .zeroDecisionBlockHash
  else if zeroNext : nextValidatorsHash = .replicate 32 0 then
    .error .zeroNextValidatorsHash
  else
    .ok {
      networkId := genesis.id
      height
      blockHash
      nextValidatorsHash
      high := Int.not_le.mp low
      representable
      hashed := zeroBlock
      scheduled := zeroNext }

/-- A decision as it was stored.  It cannot be compared with a genesis here. -/
def fromPersisted (networkId : Bytes 32) (height : Int) (representable : height < 2 ^ 63)
    (blockHash nextValidatorsHash : Bytes 32) : Except EngineIdentityError CometBftDecision :=
  if networkId = .replicate 32 0 then
    .error .zeroDecisionNetworkId
  else if low : height <= 0 then
    .error (.invalidDecisionHeight height)
  else if zeroBlock : blockHash = .replicate 32 0 then
    .error .zeroDecisionBlockHash
  else if zeroNext : nextValidatorsHash = .replicate 32 0 then
    .error .zeroNextValidatorsHash
  else
    .ok {
      networkId
      height
      blockHash
      nextValidatorsHash
      high := Int.not_le.mp low
      representable
      hashed := zeroBlock
      scheduled := zeroNext }

/-- Whether this is the decision expected for an execution height. -/
def validateFor (decision : CometBftDecision) (genesis : CometBftGenesis) (noxisHeight : UInt64) :
    Except EngineIdentityError Unit :=
  if decision.networkId ≠ genesis.id then
    .error .decisionNetworkMismatch
  else do
    let expected ← genesis.identity.engineHeightFor noxisHeight
    if decision.height ≠ expected then
      .error (.decisionHeightMismatch expected decision.height)
    else if decision.nextValidatorsHash ≠ genesis.validators.hash then
      .error .unexpectedNextValidatorsHash
    else
      .ok ()

variable {genesis : CometBftGenesis} {height : Int} {blockHash nextValidatorsHash : Bytes 32}
  {decision : CometBftDecision}

omit [Sha256] in
theorem eq_of_fields_eq {left right : CometBftDecision}
    (network : left.networkId = right.networkId) (height : left.height.toNat = right.height.toNat)
    (blockHash : left.blockHash = right.blockHash)
    (next : left.nextValidatorsHash = right.nextValidatorsHash) : left = right := by
  have leftHigh := left.high
  have rightHigh := right.high
  have sameHeight : left.height = right.height := by omega
  rcases left with ⟨network, height, blockHash, next, _, _, _, _⟩
  rcases right with ⟨network', height', blockHash', next', _, _, _, _⟩
  simp only at network sameHeight blockHash next
  subst network sameHeight blockHash next
  rfl

omit [Sha256] in
theorem fromPersisted_eq_ok {networkId representable} :
    fromPersisted networkId height representable blockHash nextValidatorsHash = .ok decision <->
      networkId ≠ .replicate 32 0 /\ decision.networkId = networkId /\ decision.height = height /\
        decision.blockHash = blockHash /\ decision.nextValidatorsHash = nextValidatorsHash := by
  unfold fromPersisted
  constructor
  · grind
  · rintro ⟨nonzero, rfl, rfl, rfl, rfl⟩
    rw [if_neg nonzero, dif_neg (Int.not_le.mpr decision.high), dif_neg decision.hashed,
      dif_neg decision.scheduled]

theorem validateFor_eq_ok {noxisHeight} :
    decision.validateFor genesis noxisHeight = .ok () <->
      decision.networkId = genesis.id /\
        genesis.identity.engineHeightFor noxisHeight = .ok decision.height /\
        decision.nextValidatorsHash = genesis.validators.hash := by
  unfold validateFor
  simp only [Except.refuse_eq_ok, Except.bind_eq_ok, not_not, and_true]
  grind

end CometBftDecision
end
end Noxis.Consensus
