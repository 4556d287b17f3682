import Noxis.Foundation.CheckedArithmetic
import Noxis.Foundation.OrderedLists
import Noxis.RecordChain

namespace Noxis.Consensus

open Foundation Codec RecordChain

/-!
# Validator sets and consensus configurations

A validator set lists validators in the order of their identifiers and knows
its total voting power.  A configuration fixes a validator set, the limits of
a block and the voting power that may be Byzantine, which is less than a third
of the total.

The fields of these types are private in the source and every value comes from
a constructor that checks it.  Here the checks are fields, so a value carries
the facts its constructor established.
-/

def maxValidators : Nat := 10000

def maxValidatorPublicKeyBytes : Nat := 8 * 1024

def maxBlockTransactionBytes : UInt32 := 64 * 1024 * 1024

def maxBlockRecords : Nat := 1000000

inductive ConsensusError where
  | invalidMagic
  | unsupportedFormatVersion (version : UInt16)
  | unexpectedEnd (offset : Nat)
  | trailingBytes (count : Nat)
  | lengthOverflow
  | invalidProtocolVersion
  | invalidMaximumBlockRecords
  | invalidMaximumBlockTransactionBytes (actual maximum : UInt32)
  | byzantineFaultPowerExceedsSafetyLimit (declared maximum : UInt64)
  | emptyValidatorSet
  | tooManyValidators (actual maximum : Nat)
  | zeroVotingPower
  | invalidSignatureScheme
  | emptyValidatorKey
  | validatorKeyTooLarge (actual maximum : Nat)
  | duplicateValidator
  | nonCanonicalValidatorOrder
  | votingPowerOverflow
  | invalidBlockHeight
  | missingParentBlock
  | unexpectedParentBlock
  | invalidFirstRecordSequence
  | recordCountMismatch (expected : UInt32) (actual : Nat)
  | recordCountExceedsConfiguredMaximum (actual maximum : UInt32)
  | recordSequenceOverflow
  | tooManyCommittedRecords (actual maximum : Nat)
  | recordCommitmentMismatch
  | consensusConfigMismatch
  | validatorSetMismatch
  | blockFormatMismatch
  | genesisMismatch
  | validationContextMismatch
  | genesisStateMismatch
  | emptyCertificate
  | tooManyVotes (actual maximum : Nat)
  | signatureTooLarge (actual maximum : Nat)
  | emptySignature
  | duplicateVote
  | nonCanonicalVoteOrder
  | certificateTargetMismatch
  | unknownValidator
  | insufficientVotingPower (signed required : UInt64)
  | invalidSignature (validator : ValidatorId)
deriving DecidableEq

def consensusFormatVersion : UInt16 := 3

def configIdDomain : List UInt8 := utf8 "NOXIS/CONSENSUS/V1/CONFIG"

def validatorSetIdDomain : List UInt8 := utf8 "NOXIS/CONSENSUS/V1/VALIDATOR-SET"

def blockIdDomain : List UInt8 := utf8 "NOXIS/CONSENSUS/V1/BLOCK"

def recordCommitmentDomain : List UInt8 := utf8 "NOXIS/CONSENSUS/V1/RECORDS"

def certificateIdDomain : List UInt8 := utf8 "NOXIS/CONSENSUS/V1/FINALITY-CERTIFICATE"

/-- The digest of a message in its domain. -/
def hash [Sha256] (domain bytes : List UInt8) : Bytes 32 :=
  Sha256.digest (domain ++ (writeU16 consensusFormatVersion ++ bytes))

structure ValidatorVerificationKey where
  signatureScheme : UInt16
  bytes : List UInt8
  supported : signatureScheme ≠ 0
  nonempty : bytes ≠ []
  bounded : bytes.length <= maxValidatorPublicKeyBytes
deriving DecidableEq

def ValidatorVerificationKey.new (signatureScheme : UInt16) (bytes : List UInt8) :
    Except ConsensusError ValidatorVerificationKey :=
  if unsupported : signatureScheme = 0 then
    .error .invalidSignatureScheme
  else if empty : bytes = [] then
    .error .emptyValidatorKey
  else if tooLarge : maxValidatorPublicKeyBytes < bytes.length then
    .error (.validatorKeyTooLarge bytes.length maxValidatorPublicKeyBytes)
  else
    .ok ⟨signatureScheme, bytes, unsupported, empty, Nat.not_lt.mp tooLarge⟩

structure Validator where
  id : ValidatorId
  votingPower : UInt64
  verificationKey : ValidatorVerificationKey
  powerful : votingPower ≠ 0
deriving DecidableEq

def Validator.new (id : ValidatorId) (votingPower : UInt64)
    (verificationKey : ValidatorVerificationKey) : Except ConsensusError Validator :=
  if powerless : votingPower = 0 then .error .zeroVotingPower
  else .ok ⟨id, votingPower, verificationKey, powerless⟩

section
variable {α : Type} (key : α -> ValidatorId) (validateEntry : α -> Except ConsensusError Unit)
  (duplicate nonCanonicalOrder : ConsensusError)

/-- Check one entry by itself and against the entry before it. -/
def validateNext (requireCanonicalOrder : Bool) (previous : Option α) (entry : α) :
    Except ConsensusError Unit := do
  validateEntry entry
  match previous with
  | none => .ok ()
  | some before =>
    if key before = key entry then .error duplicate
    else if requireCanonicalOrder /\ key entry < key before then .error nonCanonicalOrder
    else .ok ()

/-- The check that validators and votes share: the list has an entry, is not
longer than a validator set may be, and passes entry by entry. -/
def validateListing (empty : ConsensusError) (tooMany : Nat -> Nat -> ConsensusError)
    (entries : List α) (requireCanonicalOrder : Bool) : Except ConsensusError Unit :=
  if entries.isEmpty then
    .error empty
  else if maxValidators < entries.length then
    .error (tooMany entries.length maxValidators)
  else
    forEachWithPrevious
      (validateNext key validateEntry duplicate nonCanonicalOrder requireCanonicalOrder) none
      entries

variable {key validateEntry duplicate nonCanonicalOrder}

theorem validateNext_eq_ok (acceptable : forall entry, validateEntry entry = .ok ())
    (previous : Option α) (entry : α) :
    validateNext key validateEntry duplicate nonCanonicalOrder true previous entry = .ok () <->
      True /\ forall before, previous = some before -> key before < key entry := by
  unfold validateNext
  rw [acceptable]
  change (match previous with
    | none => .ok ()
    | some before =>
      if key before = key entry then .error duplicate
      else if (true = true) /\ key entry < key before then .error nonCanonicalOrder
      else .ok ()) = Except.ok () <-> _
  grind

/-- The comparison of neighbours makes the whole list strictly increasing. -/
theorem validateListing_eq_ok {empty tooMany}
    (acceptable : forall entry, validateEntry entry = .ok ()) {entries} :
    validateListing key validateEntry duplicate nonCanonicalOrder empty tooMany entries true =
        .ok () <->
      entries ≠ [] /\ entries.length <= maxValidators /\
        entries.Pairwise (fun left right => key left < key right) := by
  have transitive : IsTrans α (fun left right => key left < key right) :=
    ⟨fun _ _ _ => lt_trans⟩
  unfold validateListing
  rw [Except.refuse_eq_ok, Except.refuse_eq_ok,
    forEachWithPrevious_eq_ok (validateNext_eq_ok acceptable), Option.toList, List.nil_append,
    List.isChain_iff_pairwise, List.isEmpty_iff, Nat.not_lt]
  simp

end

def validateValidator (validator : Validator) : Except ConsensusError Unit :=
  if validator.votingPower = 0 then .error .zeroVotingPower else .ok ()

def validateValidators (validators : List Validator) (requireCanonicalOrder : Bool) :
    Except ConsensusError Unit :=
  validateListing Validator.id validateValidator .duplicateValidator .nonCanonicalValidatorOrder
    .emptyValidatorSet .tooManyValidators validators requireCanonicalOrder

def sumVotingPower (validators : List Validator) : Except ConsensusError UInt64 :=
  sumChecked .votingPowerOverflow (fun validator => .ok validator.votingPower) 0 validators

def encodeValidatorSetEntries (validators : List Validator) : List UInt8 :=
  writeU32 (UInt32.ofNat validators.length) ++
    validators.flatMap (fun validator =>
      validator.id.bytes.toList ++ (writeU64 validator.votingPower ++
        (writeU16 validator.verificationKey.signatureScheme ++
          (writeU16 (UInt16.ofNat validator.verificationKey.bytes.length) ++
            validator.verificationKey.bytes))))

variable {validators : List Validator}

theorem validateValidators_eq_ok :
    validateValidators validators true = .ok () <->
      validators ≠ [] /\ validators.length <= maxValidators /\
        validators.Pairwise (fun left right => left.id < right.id) :=
  validateListing_eq_ok (fun validator => if_neg validator.powerful)

theorem sumVotingPower_eq_ok {total} :
    sumVotingPower validators = .ok total <->
      total.toNat = (validators.map (fun validator => validator.votingPower.toNat)).sum := by
  have weighed : forall (validator : Validator) (amount : UInt64),
      (Except.ok validator.votingPower : Except ConsensusError UInt64) = .ok amount ->
        amount.toNat = validator.votingPower.toNat := by
    intro validator amount same
    rw [Except.ok.inj same]
  unfold sumVotingPower
  rw [sumChecked_eq_ok weighed]
  simp

/-! ## Validator sets -/

section
variable [Sha256]

def validatorSetId (bytes : List UInt8) : ValidatorSetId := ⟨hash validatorSetIdDomain bytes⟩

def configId (bytes : List UInt8) : ConsensusConfigId := ⟨hash configIdDomain bytes⟩

/-- A canonical, weighted validator set. -/
structure ValidatorSet where
  validators : List Validator
  totalVotingPower : UInt64
  id : ValidatorSetId
  valid : validateValidators validators true = .ok ()
  summed : sumVotingPower validators = .ok totalVotingPower
  identified : id = validatorSetId (encodeValidatorSetEntries validators)
deriving DecidableEq

namespace ValidatorSet

def fromCanonical (validators : List Validator) : Except ConsensusError ValidatorSet := do
  let ⟨(), valid⟩ ← witnessed (validateValidators validators true)
  let ⟨totalVotingPower, summed⟩ ← witnessed (sumVotingPower validators)
  return {
    validators
    totalVotingPower
    id := validatorSetId (encodeValidatorSetEntries validators)
    valid
    summed
    identified := rfl }

/-- Sort the entries by identifier.  The source's sort need not be stable, but
entries with equal identifiers are refused in either order. -/
def new (validators : List Validator) : Except ConsensusError ValidatorSet :=
  fromCanonical (sortByKey Validator.id validators)

/-- The threshold of strictly more than two thirds. -/
def quorumVotingPower (set : ValidatorSet) : UInt64 :=
  let thirds := set.totalVotingPower / 3
  let remainder := set.totalVotingPower % 3
  thirds * 2 + remainder * 2 / 3 + 1

def votingPowerOf (set : ValidatorSet) (id : ValidatorId) : Option UInt64 :=
  (binarySearchByKey Validator.id id set.validators).bind (fun index =>
    (set.validators[index]?).map Validator.votingPower)

theorem increasing (set : ValidatorSet) :
    set.validators.Pairwise (fun left right => left.id < right.id) :=
  (validateValidators_eq_ok.mp set.valid).2.2

theorem nodup_ids (set : ValidatorSet) : (set.validators.map Validator.id).Nodup :=
  List.pairwise_map.mpr (set.increasing.imp ne_of_lt)

theorem toNat_totalVotingPower (set : ValidatorSet) :
    set.totalVotingPower.toNat =
      (set.validators.map (fun validator => validator.votingPower.toNat)).sum :=
  sumVotingPower_eq_ok.mp set.summed

theorem totalVotingPower_pos (set : ValidatorSet) : 0 < set.totalVotingPower.toNat := by
  rw [toNat_totalVotingPower]
  cases isValidators : set.validators with
  | nil => exact absurd isValidators (validateValidators_eq_ok.mp set.valid).1
  | cons validator rest =>
    have powerful : validator.votingPower.toNat ≠ 0 := fun zero =>
      validator.powerful (UInt64.toNat_inj.mp zero)
    rw [List.map_cons, List.sum_cons]
    omega

theorem eq_of_validators {left right : ValidatorSet}
    (same : left.validators = right.validators) : left = right := by
  have sameTotal : left.totalVotingPower = right.totalVotingPower := by
    grind [summed]
  have sameId : left.id = right.id := by rw [left.identified, right.identified, same]
  cases left
  cases right
  simp_all

variable {set : ValidatorSet}

theorem votingPowerOf_eq_some {id power} :
    set.votingPowerOf id = some power <->
      ∃ validator, validator ∈ set.validators /\ validator.id = id /\
        validator.votingPower = power := by
  unfold votingPowerOf
  rw [Option.bind_eq_some_iff]
  constructor
  · grind [binarySearchByKey_eq_some, increasing]
  · rintro ⟨validator, member, hasId, hasPower⟩
    rcases List.getElem?_of_mem member with ⟨index, isValidator⟩
    refine ⟨index, (binarySearchByKey_eq_some set.increasing).mpr
      ⟨validator, isValidator, hasId⟩, ?_⟩
    rw [isValidator, Option.map_some, hasPower]

theorem toNat_quorumVotingPower (set : ValidatorSet) :
    set.quorumVotingPower.toNat = 2 * set.totalVotingPower.toNat / 3 + 1 := by
  have bounded := set.totalVotingPower.toNat_lt
  have one : (1 : UInt64).toNat = 1 := rfl
  have two : (2 : UInt64).toNat = 2 := rfl
  have three : (3 : UInt64).toNat = 3 := rfl
  simp only [quorumVotingPower, UInt64.toNat_add, UInt64.toNat_mul, UInt64.toNat_div,
    UInt64.toNat_mod, one, two, three]
  simp (disch := omega) only [Nat.mod_eq_of_lt]
  omega

end ValidatorSet

def encodeConfigFields (protocolVersion : UInt16)
    (maximumBlockRecords maximumBlockTransactionBytes : UInt32)
    (maximumByzantineVotingPower : UInt64) (validatorSet : ValidatorSet) : List UInt8 :=
  writeU16 protocolVersion ++ (writeU32 maximumBlockRecords ++
    (writeU32 maximumBlockTransactionBytes ++ (writeU64 maximumByzantineVotingPower ++
      encodeValidatorSetEntries validatorSet.validators)))

/-- Immutable parameters a block header must bind. -/
structure ConsensusConfig where
  protocolVersion : UInt16
  maximumBlockRecords : UInt32
  maximumBlockTransactionBytes : UInt32
  maximumByzantineVotingPower : UInt64
  validatorSet : ValidatorSet
  id : ConsensusConfigId
  versioned : protocolVersion ≠ 0
  recordsAllowed : maximumBlockRecords ≠ 0
  recordsBounded : maximumBlockRecords.toNat <= maxBlockRecords
  bytesAllowed : maximumBlockTransactionBytes ≠ 0
  bytesBounded : maximumBlockTransactionBytes <= maxBlockTransactionBytes
  safe : maximumByzantineVotingPower <= (validatorSet.totalVotingPower - 1) / 3
  identified : id = configId (encodeConfigFields protocolVersion maximumBlockRecords
    maximumBlockTransactionBytes maximumByzantineVotingPower validatorSet)
deriving DecidableEq

def ConsensusConfig.new (protocolVersion : UInt16)
    (maximumBlockRecords maximumBlockTransactionBytes : UInt32)
    (maximumByzantineVotingPower : UInt64) (validatorSet : ValidatorSet) :
    Except ConsensusError ConsensusConfig :=
  if unversioned : protocolVersion = 0 then
    .error .invalidProtocolVersion
  else if noRecords : maximumBlockRecords = 0 then
    .error .invalidMaximumBlockRecords
  else if manyRecords : maxBlockRecords < maximumBlockRecords.toNat then
    .error (.recordCountExceedsConfiguredMaximum maximumBlockRecords (UInt32.ofNat maxBlockRecords))
  else if badBytes : maximumBlockTransactionBytes = 0 ∨
      maxBlockTransactionBytes < maximumBlockTransactionBytes then
    .error (.invalidMaximumBlockTransactionBytes maximumBlockTransactionBytes
      maxBlockTransactionBytes)
  else if tooFaulty : (validatorSet.totalVotingPower - 1) / 3 < maximumByzantineVotingPower then
    .error (.byzantineFaultPowerExceedsSafetyLimit maximumByzantineVotingPower
      ((validatorSet.totalVotingPower - 1) / 3))
  else
    .ok {
      protocolVersion
      maximumBlockRecords
      maximumBlockTransactionBytes
      maximumByzantineVotingPower
      validatorSet
      id := configId (encodeConfigFields protocolVersion maximumBlockRecords
        maximumBlockTransactionBytes maximumByzantineVotingPower validatorSet)
      versioned := unversioned
      recordsAllowed := noRecords
      recordsBounded := Nat.not_lt.mp manyRecords
      bytesAllowed := fun zero => badBytes (Or.inl zero)
      bytesBounded := UInt32.not_lt.mp (fun above => badBytes (Or.inr above))
      safe := UInt64.not_lt.mp tooFaulty
      identified := rfl }

/-- The declared Byzantine power is less than a third of the total. -/
theorem ConsensusConfig.three_mul_byzantine_lt (config : ConsensusConfig) :
    3 * config.maximumByzantineVotingPower.toNat < config.validatorSet.totalVotingPower.toNat := by
  have positive := config.validatorSet.totalVotingPower_pos
  have bounded := config.validatorSet.totalVotingPower.toNat_lt
  have safe := UInt64.le_iff_toNat_le.mp config.safe
  grind [UInt64.toNat_div, UInt64.toNat_sub]

/-- The constructor returns every configuration, and for given arguments the
only one there is. -/
theorem ConsensusConfig.new_eq_ok
    {protocolVersion maximumBlockRecords maximumBlockTransactionBytes maximumByzantineVotingPower validatorSet config}
    :
    ConsensusConfig.new protocolVersion maximumBlockRecords maximumBlockTransactionBytes
        maximumByzantineVotingPower validatorSet = .ok config <->
      config.protocolVersion = protocolVersion /\
        config.maximumBlockRecords = maximumBlockRecords /\
        config.maximumBlockTransactionBytes = maximumBlockTransactionBytes /\
        config.maximumByzantineVotingPower = maximumByzantineVotingPower /\
        config.validatorSet = validatorSet := by
  constructor
  · intro made
    unfold ConsensusConfig.new at made
    split_ifs at made
    rw [← Except.ok.inj made]
    exact ⟨rfl, rfl, rfl, rfl, rfl⟩
  · rintro ⟨rfl, rfl, rfl, rfl, rfl⟩
    have bytesRange : ¬(config.maximumBlockTransactionBytes = 0 ∨
        maxBlockTransactionBytes < config.maximumBlockTransactionBytes) :=
      not_or.mpr ⟨config.bytesAllowed, UInt32.not_lt.mpr config.bytesBounded⟩
    unfold ConsensusConfig.new
    rw [dif_neg config.versioned, dif_neg config.recordsAllowed,
      dif_neg (Nat.not_lt.mpr config.recordsBounded), dif_neg bytesRange,
      dif_neg (UInt64.not_lt.mpr config.safe)]
    have identified := config.identified
    cases config
    simp_all

end
end Noxis.Consensus
