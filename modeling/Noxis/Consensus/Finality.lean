import Noxis.Consensus.Block
import Noxis.Foundation.Quorum

namespace Noxis.Consensus

open Foundation Codec RecordChain

/-!
# Finality certificates

A certificate collects signed votes for one block, in the order of the
validators' identifiers.  It passes the structural check when every voter is
known and the voters' power exceeds two thirds of the total.

The configuration of a network is a weighted quorum system.  The general facts
about such systems then say that two accepted certificates, for whatever
blocks, share more power than may be Byzantine, and that the votes of all but
the Byzantine validators make an accepted certificate.
-/

def maxSignatureBytes : Nat := 16 * 1024

def precommitSigningDomain : List UInt8 := utf8 "NOXIS/CONSENSUS/V1/PRECOMMIT"

/-- The block and the domain to which precommit signatures apply. -/
structure FinalityTarget where
  genesisId : GenesisId
  validationContextId : ValidationContextId
  consensusConfigId : ConsensusConfigId
  validatorSetId : ValidatorSetId
  height : UInt64
  epoch : UInt64
  round : UInt32
  blockId : BlockId
  high : ¬height = 0
deriving DecidableEq

namespace FinalityTarget

def fromHeader [Sha256] (header : BlockHeader) : FinalityTarget where
  genesisId := header.input.genesisId
  validationContextId := header.input.validationContextId
  consensusConfigId := header.input.consensusConfigId
  validatorSetId := header.input.validatorSetId
  height := header.input.height
  epoch := header.input.epoch
  round := header.input.round
  blockId := header.id
  high := (validateHeaderInput_eq_ok.mp header.valid).high

def encodeFields (target : FinalityTarget) : List UInt8 :=
  target.genesisId.bytes.toList ++ (target.validationContextId.bytes.toList ++
    (target.consensusConfigId.bytes.toList ++ (target.validatorSetId.bytes.toList ++
      (writeU64 target.height ++ (writeU64 target.epoch ++ (writeU32 target.round ++
        target.blockId.bytes.toList))))))

/-- The transcript a precommit signs. -/
def signingBytes (target : FinalityTarget) : List UInt8 :=
  precommitSigningDomain ++ (writeU16 consensusFormatVersion ++ target.encodeFields)

theorem blockId_eq_of_signingBytes_eq {left right : FinalityTarget}
    (same : left.signingBytes = right.signingBytes) : left.blockId = right.blockId := by
  simp only [signingBytes, encodeFields, ← List.append_assoc] at same
  have sameId := (List.append_inj' same
    ((Bytes.length_toList _).trans (Bytes.length_toList _).symm)).2
  exact Identifier.ext (Bytes.toList_injective sameId)

end FinalityTarget

structure VoteEvidence where
  validatorId : ValidatorId
  signature : List UInt8
  bounded : signature.length <= maxSignatureBytes
  nonempty : ¬signature = []
deriving DecidableEq

def VoteEvidence.new (validatorId : ValidatorId) (signature : List UInt8) :
    Except ConsensusError VoteEvidence :=
  if tooLarge : maxSignatureBytes < signature.length then
    .error (.signatureTooLarge signature.length maxSignatureBytes)
  else if empty : signature = [] then
    .error .emptySignature
  else
    .ok ⟨validatorId, signature, Nat.not_lt.mp tooLarge, empty⟩

def validateVote (vote : VoteEvidence) : Except ConsensusError Unit :=
  if maxSignatureBytes < vote.signature.length then
    .error (.signatureTooLarge vote.signature.length maxSignatureBytes)
  else if vote.signature = [] then
    .error .emptySignature
  else
    .ok ()

def validateVotes (votes : List VoteEvidence) (requireCanonicalOrder : Bool) :
    Except ConsensusError Unit :=
  validateListing VoteEvidence.validatorId validateVote .duplicateVote .nonCanonicalVoteOrder
    .emptyCertificate .tooManyVotes votes requireCanonicalOrder

def encodeFinalityCertificateFields (target : FinalityTarget) (votes : List VoteEvidence) :
    List UInt8 :=
  target.encodeFields ++ (writeU32 (UInt32.ofNat votes.length) ++
    votes.flatMap (fun vote =>
      vote.validatorId.bytes.toList ++ (writeU16 (UInt16.ofNat vote.signature.length) ++
        vote.signature)))

variable {votes : List VoteEvidence}

theorem validateVotes_eq_ok :
    validateVotes votes true = .ok () <->
      votes ≠ [] /\ votes.length <= maxValidators /\
        votes.Pairwise (fun left right => left.validatorId < right.validatorId) :=
  validateListing_eq_ok (fun vote =>
    (if_neg (Nat.not_lt.mpr vote.bounded)).trans (if_neg vote.nonempty))

/-- Whether a validator is among the voters. -/
def votedBy (votes : List VoteEvidence) (id : ValidatorId) : Bool :=
  decide (id ∈ votes.map VoteEvidence.validatorId)

/-- The set of validators that cast the votes. -/
def voters (votes : List VoteEvidence) : Finset ValidatorId :=
  (votes.map VoteEvidence.validatorId).toFinset

theorem mem_voters {id} : id ∈ voters votes <-> votedBy votes id = true := by
  rw [voters, List.mem_toFinset, votedBy, decide_eq_true_iff]

/-- A boundary supplied by the consensus engine: does a signature over the
transcript verify under the configured key? -/
structure FinalityVerifier (E : Type) where
  verifyPrecommit : ValidatorId -> List UInt8 -> List UInt8 -> Validator -> Except E Unit

section
variable [Sha256]

def certificateId (bytes : List UInt8) : FinalityCertificateId := ⟨hash certificateIdDomain bytes⟩

/-- A structurally canonical collection of precommit evidence. -/
structure FinalityCertificate where
  target : FinalityTarget
  votes : List VoteEvidence
  id : FinalityCertificateId
  valid : validateVotes votes true = .ok ()
  identified : id = certificateId (encodeFinalityCertificateFields target votes)
deriving DecidableEq

structure VerifiedFinality where
  blockId : BlockId
  height : UInt64
  certificateId : FinalityCertificateId
deriving DecidableEq

/-- The joint power of the voters, each looked up in the set. -/
def signedVotingPower (set : ValidatorSet) (votes : List VoteEvidence) :
    Except ConsensusError UInt64 :=
  sumChecked .votingPowerOverflow (fun vote =>
    match set.votingPowerOf vote.validatorId with
    | some power => .ok power
    | none => .error .unknownValidator) 0 votes

namespace FinalityCertificate

def fromCanonical (target : FinalityTarget) (votes : List VoteEvidence) :
    Except ConsensusError FinalityCertificate := do
  let ⟨(), valid⟩ ← witnessed (validateVotes votes true)
  return {
    target
    votes
    id := certificateId (encodeFinalityCertificateFields target votes)
    valid
    identified := rfl }

/-- Sort the votes by validator.  As for validators, votes of one validator are
refused in either order. -/
def new (target : FinalityTarget) (votes : List VoteEvidence) :
    Except ConsensusError FinalityCertificate :=
  fromCanonical target (sortByKey VoteEvidence.validatorId votes)

/-- Verify the target, the membership of the voters and the quorum. -/
def validateStructure (certificate : FinalityCertificate) (header : BlockHeader)
    (anchor : ConsensusAnchor) (config : ConsensusConfig) : Except ConsensusError Unit := do
  anchor.validateHeader header config
  if certificate.target ≠ FinalityTarget.fromHeader header then
    .error .certificateTargetMismatch
  else if certificate.target.validatorSetId ≠ config.validatorSet.id then
    .error .validatorSetMismatch
  else
    let signed ← signedVotingPower config.validatorSet certificate.votes
    if signed < config.validatorSet.quorumVotingPower then
      .error (.insufficientVotingPower signed config.validatorSet.quorumVotingPower)
    else
      .ok ()

/-- Verify the structure and then every signature. -/
def verify {E : Type} (certificate : FinalityCertificate) (header : BlockHeader)
    (anchor : ConsensusAnchor) (config : ConsensusConfig) (verifier : FinalityVerifier E) :
    Except ConsensusError VerifiedFinality := do
  certificate.validateStructure header anchor config
  certificate.votes.forM (fun vote =>
    match config.validatorSet.validators.find? (fun validator =>
        validator.id = vote.validatorId) with
    | none => .error .unknownValidator
    | some configured =>
      (verifier.verifyPrecommit vote.validatorId certificate.target.signingBytes vote.signature
        configured).mapError (fun _ => .invalidSignature vote.validatorId))
  return ⟨header.id, header.input.height, certificate.id⟩

theorem increasing (certificate : FinalityCertificate) :
    certificate.votes.Pairwise (fun left right => left.validatorId < right.validatorId) :=
  (validateVotes_eq_ok.mp certificate.valid).2.2

variable {target : FinalityTarget} {certificate : FinalityCertificate}

theorem fromCanonical_eq_ok :
    fromCanonical target votes = .ok certificate <->
      certificate.target = target /\ certificate.votes = votes := by
  unfold fromCanonical
  constructor
  · intro made
    rcases Except.bind_eq_ok.mp made with ⟨⟨_, valid⟩, _, made⟩
    rw [← Except.ok.inj made]
    exact ⟨rfl, rfl⟩
  · rintro ⟨rfl, rfl⟩
    rw [witnessed_of_ok certificate.valid]
    rcases certificate with ⟨target, votes, id, valid, identified⟩
    subst identified
    rfl

theorem validateStructure_eq_ok {header anchor config} :
    certificate.validateStructure header anchor config = .ok () <->
      anchor.validateHeader header config = .ok () /\
        certificate.target = FinalityTarget.fromHeader header /\
        ∃ signed, signedVotingPower config.validatorSet certificate.votes = .ok signed /\
          config.validatorSet.quorumVotingPower <= signed := by
  unfold validateStructure
  simp only [Except.bind_eq_ok, Except.refuse_eq_ok, not_not, UInt64.not_lt, and_true]
  constructor
  · grind
  · rintro ⟨validHeader, sameTarget, counted⟩
    have bound := (ConsensusAnchor.validateHeader_eq_ok.mp validHeader).1
    have sameSet := (BlockHeader.validateAgainstConfig_eq_ok.mp bound).2.2.1
    refine ⟨(), validHeader, sameTarget, ?_, counted⟩
    rw [sameTarget]
    exact sameSet

end FinalityCertificate

/-! ## The quorum system of a configuration -/

/-- The joint voting power of the validators that satisfy a condition. -/
def ValidatorSet.powerOf (set : ValidatorSet) (selected : ValidatorId -> Bool) : Nat :=
  ((set.validators.filter (fun validator => selected validator.id)).map
    (fun validator => validator.votingPower.toNat)).sum

namespace ValidatorSet

def ids (set : ValidatorSet) : Finset ValidatorId := (set.validators.map Validator.id).toFinset

/-- The voting power of an identifier; zero when it is unknown. -/
def weight (set : ValidatorSet) (id : ValidatorId) : Nat := ((set.votingPowerOf id).getD 0).toNat

variable {set : ValidatorSet}

theorem weight_id {validator} (member : validator ∈ set.validators) :
    set.weight validator.id = validator.votingPower.toNat := by
  rw [weight, votingPowerOf_eq_some.mpr ⟨validator, member, rfl, rfl⟩, Option.getD_some]

theorem mem_ids {id} : id ∈ set.ids <-> ∃ power, set.votingPowerOf id = some power := by
  simp only [ids, List.mem_toFinset, List.mem_map, votingPowerOf_eq_some]
  constructor
  · rintro ⟨validator, member, hasId⟩
    exact ⟨_, validator, member, hasId, rfl⟩
  · rintro ⟨_, validator, member, hasId, _⟩
    exact ⟨validator, member, hasId⟩

/-- Selected power is the weight of the selected identifiers. -/
theorem sum_weight_filter (set : ValidatorSet) (selected : ValidatorId -> Bool) :
    ∑ id ∈ set.ids.filter (fun id => selected id), set.weight id = set.powerOf selected := by
  have listed : set.ids.filter (fun id => selected id) =
      ((set.validators.filter (fun validator => selected validator.id)).map
        Validator.id).toFinset := by
    ext id
    simp only [ids, Finset.mem_filter, List.mem_toFinset, List.mem_map, List.mem_filter]
    constructor
    · rintro ⟨⟨validator, member, rfl⟩, isSelected⟩
      exact ⟨validator, ⟨member, isSelected⟩, rfl⟩
    · rintro ⟨validator, ⟨member, isSelected⟩, rfl⟩
      exact ⟨⟨validator, member, rfl⟩, isSelected⟩
  have distinct : ((set.validators.filter (fun validator => selected validator.id)).map
      Validator.id).Nodup := set.nodup_ids.sublist (List.filter_sublist.map _)
  rw [listed, List.sum_toFinset _ distinct, List.map_map, powerOf]
  refine congrArg List.sum (List.map_congr_left ?_)
  intro validator member
  exact weight_id (List.mem_of_mem_filter member)

theorem sum_weight (set : ValidatorSet) :
    ∑ id ∈ set.ids, set.weight id = set.totalVotingPower.toNat := by
  have everything := set.sum_weight_filter (fun _ => true)
  rw [Finset.filter_true_of_mem (fun _ _ => rfl)] at everything
  rw [everything, powerOf, List.filter_true, toNat_totalVotingPower]

end ValidatorSet

variable {set : ValidatorSet}

theorem voters_eq_filter (known : voters votes ⊆ set.ids) :
    voters votes = set.ids.filter (fun id => votedBy votes id) := by
  ext id
  rw [Finset.mem_filter, ← mem_voters]
  exact (and_iff_right_of_imp (fun voted => known voted)).symm

/-- Distinct votes are counted exactly when every voter is known, and then the
count is the weight of the set of voters. -/
theorem signedVotingPower_eq_ok {signed} (distinct : (votes.map VoteEvidence.validatorId).Nodup) :
    signedVotingPower set votes = .ok signed <->
      voters votes ⊆ set.ids /\ signed.toNat = ∑ id ∈ voters votes, set.weight id := by
  have weighed : forall (vote : VoteEvidence) (amount : UInt64),
      (match set.votingPowerOf vote.validatorId with
        | some power => Except.ok power
        | none => Except.error ConsensusError.unknownValidator) = .ok amount ->
      amount.toNat = set.weight vote.validatorId := by
    intro vote amount found
    unfold ValidatorSet.weight
    cases isPower : set.votingPowerOf vote.validatorId with
    | none =>
      rw [isPower] at found
      cases found
    | some power =>
      grind
  unfold signedVotingPower
  rw [sumChecked_eq_ok weighed, voters, List.sum_toFinset _ distinct, List.map_map]
  refine and_congr ?_ (by simp [Function.comp_def])
  constructor
  · intro measured id voted
    rcases List.mem_map.mp (List.mem_toFinset.mp voted) with ⟨vote, member, rfl⟩
    rcases measured vote member with ⟨amount, found⟩
    refine ValidatorSet.mem_ids.mpr ?_
    cases isPower : set.votingPowerOf vote.validatorId with
    | none =>
      rw [isPower] at found
      cases found
    | some power => exact ⟨power, rfl⟩
  · intro known vote member
    rcases ValidatorSet.mem_ids.mp (known (List.mem_toFinset.mpr (List.mem_map_of_mem member))) with
      ⟨power, isPower⟩
    exact ⟨power, by rw [isPower]⟩

theorem sum_weight_lt (set : ValidatorSet) {selected} (known : selected ⊆ set.ids) :
    ∑ id ∈ selected, set.weight id < 2 ^ 64 := by
  have atMostAll : ∑ id ∈ selected, set.weight id <= ∑ id ∈ set.ids, set.weight id :=
    Finset.sum_le_sum_of_subset known
  grind [ValidatorSet.sum_weight, UInt64.toNat_lt]

/-- A configuration as a weighted quorum system. -/
def ConsensusConfig.quorumSystem (config : ConsensusConfig) : QuorumSystem ValidatorId where
  voters := config.validatorSet.ids
  weight := config.validatorSet.weight
  quorum := config.validatorSet.quorumVotingPower.toNat
  faults := config.maximumByzantineVotingPower.toNat
  intersecting := by
    have safe := config.three_mul_byzantine_lt
    rw [config.validatorSet.sum_weight, config.validatorSet.toNat_quorumVotingPower]
    omega
  available := by
    have safe := config.three_mul_byzantine_lt
    rw [config.validatorSet.sum_weight, config.validatorSet.toNat_quorumVotingPower]
    omega

namespace FinalityCertificate

variable {config : ConsensusConfig}

theorem distinct (certificate : FinalityCertificate) :
    (certificate.votes.map VoteEvidence.validatorId).Nodup :=
  List.pairwise_map.mpr (certificate.increasing.imp ne_of_lt)

/-- The voters of an accepted certificate decide in the quorum system. -/
theorem decides_of_validateStructure {certificate : FinalityCertificate} {header : BlockHeader}
    {anchor : ConsensusAnchor}
    (accepted : certificate.validateStructure header anchor config = .ok ()) :
    voters certificate.votes ⊆ config.quorumSystem.voters /\
      config.quorumSystem.quorum <= config.quorumSystem.weigh (voters certificate.votes) := by
  rcases (validateStructure_eq_ok.mp accepted).2.2 with ⟨signed, counted, reached⟩
  rcases (signedVotingPower_eq_ok certificate.distinct).mp counted with ⟨known, isWeight⟩
  refine ⟨known, ?_⟩
  change config.validatorSet.quorumVotingPower.toNat <=
    ∑ id ∈ voters certificate.votes, config.validatorSet.weight id
  rw [← isWeight]
  exact UInt64.le_iff_toNat_le.mp reached

/-- Two accepted certificates share more power than may be Byzantine. -/
theorem byzantine_lt_powerOf_both {left right : FinalityCertificate}
    {leftHeader rightHeader : BlockHeader} {leftAnchor rightAnchor : ConsensusAnchor}
    (leftAccepted : left.validateStructure leftHeader leftAnchor config = .ok ())
    (rightAccepted : right.validateStructure rightHeader rightAnchor config = .ok ()) :
    config.maximumByzantineVotingPower.toNat <
      config.validatorSet.powerOf (fun id => votedBy left.votes id && votedBy right.votes id) := by
  have leftDecides := decides_of_validateStructure leftAccepted
  have rightDecides := decides_of_validateStructure rightAccepted
  have shared := config.quorumSystem.faults_lt_weigh_inter leftDecides.1 rightDecides.1
    leftDecides.2 rightDecides.2
  have inBoth : voters left.votes ∩ voters right.votes =
      config.validatorSet.ids.filter
        (fun id => votedBy left.votes id && votedBy right.votes id) := by
    rw [voters_eq_filter leftDecides.1, voters_eq_filter rightDecides.1, ← Finset.filter_and]
    simp
  rw [inBoth] at shared
  rw [← config.validatorSet.sum_weight_filter]
  exact shared

/-- The voters of a verified certificate decide, and the verifier accepted a
signature of each of them on the target. -/
theorem decides_of_verify {E certificate header anchor verified} {verifier : FinalityVerifier E}
    (accepted : verify certificate header anchor config verifier = .ok verified) :
    certificate.target = .fromHeader header /\
      voters certificate.votes ⊆ config.quorumSystem.voters /\
      config.quorumSystem.quorum <= config.quorumSystem.weigh (voters certificate.votes) /\
      forall validator, validator ∈ config.validatorSet.validators ->
        validator.id ∈ voters certificate.votes -> ∃ signature, verifier.verifyPrecommit
          validator.id certificate.target.signingBytes signature validator = .ok () := by
  rcases Except.bind_eq_ok.mp accepted with ⟨_, structured, accepted⟩
  rcases Except.bind_eq_ok.mp accepted with ⟨_, verifiedAll, _⟩
  have decides := decides_of_validateStructure structured
  refine ⟨(validateStructure_eq_ok.mp structured).2.1, decides.1, decides.2, ?_⟩
  intro validator member voted
  rcases List.mem_map.mp (List.mem_toFinset.mp voted) with ⟨vote, listed, isVoter⟩
  have signed := Except.forM_eq_ok.mp verifiedAll vote listed
  split at signed
  · contradiction
  · rename_i configured found
    have isConfigured : configured.id = vote.validatorId := by simpa using List.find?_some found
    have same := List.inj_on_of_nodup_map config.validatorSet.nodup_ids
      (List.mem_of_find?_eq_some found) member (isConfigured.trans isVoter)
    subst same
    rw [← isVoter]
    exact ⟨_, Except.mapError_eq_ok.mp signed⟩

end FinalityCertificate

variable {config : ConsensusConfig}

/-- Votes that leave out at most the Byzantine power reach the quorum. -/
theorem quorum_le_powerOf_votedBy
    (omitted : config.validatorSet.powerOf (fun id => !votedBy votes id) <=
      config.maximumByzantineVotingPower.toNat) :
    config.validatorSet.quorumVotingPower.toNat <= config.validatorSet.powerOf (votedBy votes) := by
  have complement : config.validatorSet.ids \ config.validatorSet.ids.filter
      (fun id => votedBy votes id) = config.validatorSet.ids.filter (fun id => !votedBy votes id) := by
    rw [← Finset.filter_not]
    simp
  rw [← config.validatorSet.sum_weight_filter] at omitted ⊢
  refine config.quorumSystem.quorum_le_weigh (Finset.filter_subset _ _) ?_
  exact le_of_eq_of_le (congrArg config.quorumSystem.weigh complement) omitted

theorem length_le_of_known (distinct : (votes.map VoteEvidence.validatorId).Nodup)
    (known : voters votes ⊆ set.ids) : votes.length <= maxValidators := by
  calc votes.length = (votes.map VoteEvidence.validatorId).length := (List.length_map _).symm
    _ = (voters votes).card := (List.toFinset_card_of_nodup distinct).symm
    _ <= set.ids.card := Finset.card_le_card known
    _ <= (set.validators.map Validator.id).length := List.toFinset_card_le _
    _ = set.validators.length := List.length_map _
    _ <= maxValidators := (validateValidators_eq_ok.mp set.valid).2.1

/-- Distinct votes of known validators that leave out at most the Byzantine
power are counted and reach the quorum. -/
theorem exists_signed_of_omitted (distinct : (votes.map VoteEvidence.validatorId).Nodup)
    (known : voters votes ⊆ config.validatorSet.ids)
    (omitted : config.validatorSet.powerOf (fun id => !votedBy votes id) <=
      config.maximumByzantineVotingPower.toNat) :
    ∃ signed, signedVotingPower config.validatorSet votes = .ok signed /\
      config.validatorSet.quorumVotingPower <= signed := by
  have reached := quorum_le_powerOf_votedBy omitted
  rw [← config.validatorSet.sum_weight_filter, ← voters_eq_filter known] at reached
  have counted : (UInt64.ofNat (∑ id ∈ voters votes, config.validatorSet.weight id)).toNat =
      ∑ id ∈ voters votes, config.validatorSet.weight id :=
    UInt64.toNat_ofNat_of_lt' (sum_weight_lt config.validatorSet known)
  refine ⟨_, (signedVotingPower_eq_ok distinct).mpr ⟨known, counted⟩, ?_⟩
  rw [UInt64.le_iff_toNat_le, counted]
  exact reached

/-- Such votes make a certificate that is accepted for any block of the
network. -/
theorem exists_certificate_of_omitted {header anchor}
    (distinct : (votes.map VoteEvidence.validatorId).Nodup)
    (known : voters votes ⊆ config.validatorSet.ids)
    (omitted : config.validatorSet.powerOf (fun id => !votedBy votes id) <=
      config.maximumByzantineVotingPower.toNat)
    (validHeader : anchor.validateHeader header config = .ok ()) :
    ∃ certificate, FinalityCertificate.new (FinalityTarget.fromHeader header) votes =
        .ok certificate /\
      certificate.validateStructure header anchor config = .ok () := by
  have permuted := sortByKey_perm VoteEvidence.validatorId votes
  have sameVoters : voters (sortByKey VoteEvidence.validatorId votes) = voters votes :=
    List.toFinset_eq_of_perm _ _ (permuted.map _)
  have stillDistinct := (permuted.map VoteEvidence.validatorId).nodup_iff.mpr distinct
  rcases exists_signed_of_omitted distinct known omitted with ⟨signed, counted, reached⟩
  have nonempty : votes ≠ [] := by
    rintro rfl
    have none : signed.toNat = 0 := ((signedVotingPower_eq_ok distinct).mp counted).2
    grind [UInt64.le_iff_toNat_le, ValidatorSet.toNat_quorumVotingPower]
  have valid : validateVotes (sortByKey VoteEvidence.validatorId votes) true = .ok () := by
    refine validateVotes_eq_ok.mpr ⟨?_, ?_, pairwise_lt_sortByKey _ distinct⟩
    · intro sortedEmpty
      rw [sortedEmpty] at permuted
      exact nonempty permuted.nil_eq.symm
    grind [length_le_of_known]
  refine ⟨⟨FinalityTarget.fromHeader header, _, _, valid, rfl⟩,
    FinalityCertificate.fromCanonical_eq_ok.mpr ⟨rfl, rfl⟩, ?_⟩
  refine FinalityCertificate.validateStructure_eq_ok.mpr ⟨validHeader, rfl, signed, ?_, reached⟩
  grind [signedVotingPower_eq_ok]

/-! ## A network of four validators -/

def testValidator (index : UInt8) : Validator where
  id := .replicate index
  votingPower := 1
  verificationKey := ⟨1, List.replicate 32 index, by decide, by simp, by
    rw [List.length_replicate]
    decide⟩
  powerful := by decide

def testSet : ValidatorSet where
  validators := [testValidator 1, testValidator 2, testValidator 3, testValidator 4]
  totalVotingPower := 4
  id := _
  valid := rfl
  summed := rfl
  identified := rfl

def testConfig : ConsensusConfig where
  protocolVersion := 1
  maximumBlockRecords := 100
  maximumBlockTransactionBytes := 1024
  maximumByzantineVotingPower := 1
  validatorSet := testSet
  id := _
  versioned := by decide
  recordsAllowed := by decide
  recordsBounded := by decide
  bytesAllowed := by decide
  bytesBounded := by decide
  safe := show (1 : UInt64) <= (4 - 1) / 3 by decide
  identified := rfl

def testHeader (resulting : UInt8) : BlockHeader where
  input := {
    protocolVersion := 1
    genesisId := .replicate 1
    validationContextId := .replicate 2
    consensusConfigId := testConfig.id
    validatorSetId := testSet.id
    height := 1
    epoch := 0
    round := 0
    parentBlockId := none
    previousStateId := .replicate 5
    resultingStateId := .replicate resulting
    firstRecordSequence := 1
    recordCount := 0
    recordsCommitment := ⟨.replicate 32 7⟩ }
  id := _
  valid := rfl
  identified := rfl

def testAnchor : ConsensusAnchor where
  genesisId := .replicate 1
  validationContextId := .replicate 2
  consensusConfigId := testConfig.id
  genesisStateId := .replicate 5
  engineNetworkId := .replicate 32 0

theorem validateHeader_testHeader (resulting : UInt8) :
    testAnchor.validateHeader (testHeader resulting) testConfig = .ok () :=
  ConsensusAnchor.validateHeader_eq_ok.mpr ⟨BlockHeader.validateAgainstConfig_eq_ok.mpr
    ⟨rfl, rfl, rfl, show (0 : UInt32) <= 100 by decide⟩, rfl, rfl, rfl, fun _ => rfl⟩

def testVote (index : UInt8) : VoteEvidence where
  validatorId := .replicate index
  signature := [index]
  bounded := by
    rw [List.length_singleton]
    decide
  nonempty := by simp

def testCertificate (resulting : UInt8) (votes : List VoteEvidence)
    (valid : validateVotes votes true = .ok ()) : FinalityCertificate where
  target := FinalityTarget.fromHeader (testHeader resulting)
  votes := votes
  id := _
  valid := valid
  identified := rfl

/-- In every accepted configuration two accepted certificates, for whatever
headers, share more power than may be Byzantine; and distinct votes that leave
out at most that power reach the quorum, so that when every voter is known
they are counted and make an accepted certificate. -/
theorem certificates_intersect_and_quorum_reachable {protocolVersion : UInt16}
    {maximumBlockRecords maximumBlockTransactionBytes : UInt32}
    {maximumByzantineVotingPower : UInt64} {set : ValidatorSet} {config : ConsensusConfig}
    (accepted : ConsensusConfig.new protocolVersion maximumBlockRecords
      maximumBlockTransactionBytes maximumByzantineVotingPower set = .ok config) :
    (forall (left right : FinalityCertificate) (leftHeader rightHeader : BlockHeader)
      (leftAnchor rightAnchor : ConsensusAnchor),
      left.validateStructure leftHeader leftAnchor config = .ok () ->
      right.validateStructure rightHeader rightAnchor config = .ok () ->
      maximumByzantineVotingPower.toNat <
        set.powerOf (fun id => votedBy left.votes id && votedBy right.votes id)) /\
    (forall votes : List VoteEvidence, (votes.map VoteEvidence.validatorId).Nodup ->
      set.powerOf (fun id => !votedBy votes id) <= maximumByzantineVotingPower.toNat ->
      set.quorumVotingPower.toNat <= set.powerOf (votedBy votes) /\
      ((forall vote, vote ∈ votes -> (set.votingPowerOf vote.validatorId).isSome) ->
        (∃ signed, signedVotingPower set votes = .ok signed /\ set.quorumVotingPower <= signed) /\
        forall (header : BlockHeader) (anchor : ConsensusAnchor),
          anchor.validateHeader header config = .ok () ->
          ∃ certificate, FinalityCertificate.new (FinalityTarget.fromHeader header) votes =
              .ok certificate /\
            certificate.validateStructure header anchor config = .ok ())) := by
  rcases ConsensusConfig.new_eq_ok.mp accepted with ⟨_, _, _, rfl, rfl⟩
  refine ⟨?_, ?_⟩
  · intro left right leftHeader rightHeader leftAnchor rightAnchor leftAccepted rightAccepted
    exact FinalityCertificate.byzantine_lt_powerOf_both leftAccepted rightAccepted
  · intro votes distinct omitted
    refine ⟨quorum_le_powerOf_votedBy omitted, ?_⟩
    intro everyKnown
    have known : voters votes ⊆ config.validatorSet.ids := by
      intro id voted
      rcases List.mem_map.mp (List.mem_toFinset.mp voted) with ⟨vote, member, rfl⟩
      exact ValidatorSet.mem_ids.mpr (Option.isSome_iff_exists.mp (everyKnown vote member))
    refine ⟨exists_signed_of_omitted distinct known omitted, ?_⟩
    intro header anchor validHeader
    exact exists_certificate_of_omitted distinct known omitted validHeader

/-- Validators with more than the Byzantine power signed the targets of both of
two verified certificates.  For different blocks those are two transcripts. -/
theorem verified_certificates_share_signers {E leftHeader rightHeader leftAnchor rightAnchor}
    {leftResult rightResult} {left right : FinalityCertificate} {verifier : FinalityVerifier E}
    (leftVerified : left.verify leftHeader leftAnchor config verifier = .ok leftResult)
    (rightVerified : right.verify rightHeader rightAnchor config verifier = .ok rightResult) :
    let leftBytes := (FinalityTarget.fromHeader leftHeader).signingBytes
    let rightBytes := (FinalityTarget.fromHeader rightHeader).signingBytes
    (∃ signers ⊆ config.validatorSet.ids, config.maximumByzantineVotingPower.toNat <
        ∑ id ∈ signers, config.validatorSet.weight id /\
      forall validator, validator ∈ config.validatorSet.validators -> validator.id ∈ signers ->
        (∃ signature, verifier.verifyPrecommit validator.id leftBytes signature validator = .ok ()) /\
        ∃ signature, verifier.verifyPrecommit validator.id rightBytes signature validator =
          .ok ()) /\
    (leftHeader.id ≠ rightHeader.id -> leftBytes ≠ rightBytes) := by
  intro leftBytes rightBytes
  rcases FinalityCertificate.decides_of_verify leftVerified with
    ⟨leftTarget, leftVoters, leftDecides, leftSigned⟩
  rcases FinalityCertificate.decides_of_verify rightVerified with
    ⟨rightTarget, rightVoters, rightDecides, rightSigned⟩
  refine ⟨⟨_, Finset.inter_subset_left.trans leftVoters, config.quorumSystem.faults_lt_weigh_inter
    leftVoters rightVoters leftDecides rightDecides, ?_⟩,
    fun differ same => differ (FinalityTarget.blockId_eq_of_signingBytes_eq same)⟩
  intro validator member shared
  rcases Finset.mem_inter.mp shared with ⟨votedLeft, votedRight⟩
  rw [leftTarget] at leftSigned
  rw [rightTarget] at rightSigned
  exact ⟨leftSigned validator member votedLeft, rightSigned validator member votedRight⟩

end

open Fips180 in
theorem testConfig_certificates_intersect :
    ConsensusConfig.new 1 100 1024 1 testSet = .ok testConfig /\
      (testHeader 7).input.resultingStateId ≠ (testHeader 8).input.resultingStateId /\
      (testCertificate 7 [testVote 1, testVote 2, testVote 3] rfl).validateStructure
        (testHeader 7) testAnchor testConfig = .ok () /\
      (testCertificate 8 [testVote 2, testVote 3, testVote 4] rfl).validateStructure
        (testHeader 8) testAnchor testConfig = .ok () /\
      1 < testSet.powerOf (fun id => votedBy [testVote 1, testVote 2, testVote 3] id &&
        votedBy [testVote 2, testVote 3, testVote 4] id) /\
      ∃ certificate,
        FinalityCertificate.new (FinalityTarget.fromHeader (testHeader 7))
          [testVote 4, testVote 1, testVote 3] = .ok certificate /\
        certificate.validateStructure (testHeader 7) testAnchor testConfig = .ok () := by
  have accepted : ConsensusConfig.new 1 100 1024 1 testSet = .ok testConfig :=
    ConsensusConfig.new_eq_ok.mpr ⟨rfl, rfl, rfl, rfl, rfl⟩
  have left := FinalityCertificate.validateStructure_eq_ok.mpr
    ⟨validateHeader_testHeader 7, show (testCertificate 7 [testVote 1, testVote 2, testVote 3]
      rfl).target = FinalityTarget.fromHeader (testHeader 7) from rfl, 3, by decide +kernel,
      by decide +kernel⟩
  have right := FinalityCertificate.validateStructure_eq_ok.mpr
    ⟨validateHeader_testHeader 8, show (testCertificate 8 [testVote 2, testVote 3, testVote 4]
      rfl).target = FinalityTarget.fromHeader (testHeader 8) from rfl, 3, by decide +kernel,
      by decide +kernel⟩
  have facts := certificates_intersect_and_quorum_reachable accepted
  refine ⟨accepted, by decide, left, right, facts.1 _ _ _ _ _ _ left right, ?_⟩
  have reached := facts.2 [testVote 4, testVote 1, testVote 3] (by decide +kernel)
    (by decide +kernel)
  exact (reached.2 (by decide +kernel)).2 (testHeader 7) testAnchor (validateHeader_testHeader 7)

open Fips180 in
theorem conflicting_certificates_share_signers :
    let left := testCertificate 7 [testVote 1, testVote 2, testVote 3] rfl
    let right := testCertificate 8 [testVote 2, testVote 3, testVote 4] rfl
    let verifier : FinalityVerifier Unit := ⟨fun _ _ _ _ => .ok ()⟩
    (∃ result, left.verify (testHeader 7) testAnchor testConfig verifier = .ok result) /\
      (∃ result, right.verify (testHeader 8) testAnchor testConfig verifier = .ok result) /\
      ∃ signers ⊆ testSet.ids, 1 < ∑ id ∈ signers, testSet.weight id := by
  intro left right verifier
  have leftVerified : left.verify (testHeader 7) testAnchor testConfig verifier = _ :=
    Except.bind_eq_ok.mpr ⟨(), FinalityCertificate.validateStructure_eq_ok.mpr
      ⟨validateHeader_testHeader 7, rfl, 3, by decide +kernel, by decide +kernel⟩, rfl⟩
  have rightVerified : right.verify (testHeader 8) testAnchor testConfig verifier = _ :=
    Except.bind_eq_ok.mpr ⟨(), FinalityCertificate.validateStructure_eq_ok.mpr
      ⟨validateHeader_testHeader 8, rfl, 3, by decide +kernel, by decide +kernel⟩, rfl⟩
  rcases (verified_certificates_share_signers leftVerified rightVerified).1 with
    ⟨signers, known, powerful, _⟩
  exact ⟨⟨_, leftVerified⟩, ⟨_, rightVerified⟩, signers, known, powerful⟩

end Noxis.Consensus
