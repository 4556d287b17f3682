import Noxis.Comet.Server

namespace Noxis.Comet

open Foundation Ledger Consensus Execution Storage

/-!
# Which announcement of a network is accepted

The engine announces the validators of genesis in an order of its own.  The
server makes each of them again from the validator of genesis with the same
key, and sorts them.  As long as addresses are distinct, genesis is strictly
sorted, and a list sorts to it exactly when it is a permutation of it.
-/

section
variable [Sha256] {expected : List CometBftValidator}

/-- The only way to make a genesis of the engine. -/
def DerivedGenesis (genesis : CometBftGenesis) : Prop :=
  ∃ identity set, CometBftGenesis.fromConsensusConfig identity set = .ok genesis

def DistinctAddresses (validators : List CometBftValidator) : Prop :=
  validators.Pairwise (fun left right => left.address ≠ right.address)

instance (validators : List CometBftValidator) : Decidable (DistinctAddresses validators) :=
  inferInstanceAs (Decidable (validators.Pairwise _))

/-- Key and power, as the engine announces a validator. -/
def announcedAs (validator : CometBftValidator) : Bytes 32 × Int :=
  (validator.publicKey, validator.votingPower)

omit [Sha256] in
def InitValidatorUpdate.announced (update : InitValidatorUpdate) : Bytes 32 × Int :=
  (update.publicKey, update.votingPower.toInt)

theorem derivedGenesis_of_converted {genesis set}
    (converted : CometBftValidatorSet.fromNoxisValidatorSet set = .ok genesis.validators) :
    DerivedGenesis genesis :=
  ⟨genesis.identity, set, CometBftGenesis.fromConsensusConfig_eq_ok.mpr ⟨rfl, converted⟩⟩

theorem pairwise_order_of_derived {genesis} (derived : DerivedGenesis genesis)
    (distinct : DistinctAddresses genesis.validators.validators) :
    genesis.validators.validators.Pairwise (fun left right => left.order < right.order) := by
  rcases derived with ⟨identity, set, made⟩
  have converted := (CometBftGenesis.fromConsensusConfig_eq_ok.mp made).2
  rcases fromNoxisValidatorSet_eq_ok.mp ⟨genesis.validators.hash, converted⟩ with
    ⟨_, mapped, _, isSorted, _⟩
  have increasing := pairwise_le_sortByKey CometBftValidator.order mapped
  rw [← isSorted] at increasing
  apply (increasing.and distinct).imp
  intro left right pair
  apply lt_of_le_of_ne pair.1
  intro same
  exact pair.2 (congrArg (fun place => (ofLex place).2) same)

theorem nodup_publicKeys (distinct : DistinctAddresses expected) :
    (expected.map CometBftValidator.publicKey).Nodup := by
  apply List.pairwise_map.mpr
  apply distinct.imp
  intro left right different same
  apply different
  rw [left.derived, right.derived, same]

theorem eq_of_publicKey_eq (distinct : DistinctAddresses expected) {left right}
    (leftMember : left ∈ expected) (rightMember : right ∈ expected)
    (same : left.publicKey = right.publicKey) : left = right :=
  List.inj_on_of_nodup_map (nodup_publicKeys distinct) leftMember rightMember same

/-- A lookup gives the validator of genesis with the announced key and power. -/
theorem mapInitValidator_eq_ok (distinct : DistinctAddresses expected) {update validator} :
    mapInitValidator expected update = .ok validator <->
      validator ∈ expected /\ announcedAs validator = update.announced := by
  unfold mapInitValidator announcedAs InitValidatorUpdate.announced
  cases found : expected.find? (fun validator => validator.publicKey = update.publicKey) with
  | none =>
    have unknown := List.find?_eq_none.mp found
    refine iff_of_false nofun ?_
    intro known
    apply unknown validator known.1
    exact decide_eq_true (congrArg Prod.fst known.2)
  | some known =>
    have member := List.mem_of_find?_eq_some found
    have sameKey : known.publicKey = update.publicKey := by simpa using List.find?_some found
    simp only [Except.refuse_eq_ok, not_not, Except.mapError_eq_ok, fromCometEd25519_eq_ok,
      Prod.mk.injEq]
    constructor
    · intro accepted
      rcases accepted with ⟨samePower, sameId, isKey, isPower⟩
      have again : CometBftValidator.fromCometEd25519 known.noxisValidatorId update.publicKey
          update.votingPower.toInt = .ok validator :=
        fromCometEd25519_eq_ok.mpr ⟨sameId, isKey, isPower⟩
      rw [fromCometEd25519_eq_ok.mpr ⟨rfl, sameKey, samePower⟩] at again
      rw [← Except.ok.inj again]
      exact ⟨member, sameKey, samePower⟩
    · intro matching
      rcases matching with ⟨isMember, isKey, isPower⟩
      rw [eq_of_publicKey_eq distinct member isMember (sameKey.trans isKey.symm)]
      exact ⟨isPower, rfl, isKey, isPower⟩

/-- The lookups give a permutation of genesis exactly for the permutations of
what genesis announces. -/
theorem exists_mapped_perm_iff (distinct : DistinctAddresses expected)
    {updates : List InitValidatorUpdate} :
    (∃ mapped, updates.mapM (mapInitValidator expected) = .ok mapped /\ expected.Perm mapped) <->
      (updates.map InitValidatorUpdate.announced).Perm (expected.map announcedAs) := by
  have announcedOf {mapped : List CometBftValidator}
      (isMapped : updates.mapM (mapInitValidator expected) = .ok mapped) :
      mapped.map announcedAs = updates.map InitValidatorUpdate.announced :=
    Except.map_of_mapM_eq_ok
      (fun _ _ made => ((mapInitValidator_eq_ok distinct).mp made).2) isMapped
  constructor
  · intro exists_mapped
    rcases exists_mapped with ⟨mapped, isMapped, permuted⟩
    rw [← announcedOf isMapped]
    exact (permuted.map announcedAs).symm
  · intro permuted
    have lookedUp : forall update, update ∈ updates ->
        ∃ validator, mapInitValidator expected update = .ok validator := by
      intro update member
      have listed := permuted.subset (List.mem_map_of_mem member)
      rcases List.mem_map.mp listed with ⟨validator, isMember, same⟩
      exact ⟨validator, (mapInitValidator_eq_ok distinct).mpr ⟨isMember, same⟩⟩
    rcases Except.exists_mapM_eq_ok.mpr lookedUp with ⟨mapped, isMapped⟩
    have allMembers : mapped.map (fun validator => validator ∈ expected) =
        updates.map (fun _ => True) := by
      apply Except.map_of_mapM_eq_ok _ isMapped
      intro update validator made
      exact eq_true ((mapInitValidator_eq_ok distinct).mp made).1
    have isSubset : mapped ⊆ expected := by
      intro validator member
      have listed := List.mem_map_of_mem (f := fun validator => validator ∈ expected) member
      rw [allMembers] at listed
      rcases List.mem_map.mp listed with ⟨_, _, same⟩
      exact of_eq_true same.symm
    rw [← announcedOf isMapped] at permuted
    have keys : (mapped.map announcedAs).Nodup :=
      permuted.nodup_iff.mpr (List.Nodup.of_map Prod.fst (by
        rw [List.map_map]
        exact nodup_publicKeys distinct))
    have sameLength := permuted.length_eq
    rw [List.length_map, List.length_map] at sameLength
    exact ⟨mapped, isMapped, ((List.Nodup.of_map _ keys).subperm isSubset).perm_of_length_le
      sameLength.ge |>.symm⟩

end

section
variable [Sha256] {context : ExecutionContext} {core next : NoxisCometCore} {chainId : String}
  {consensusParameters : List UInt8} {updates : List InitValidatorUpdate} {initialHeight : Int64}

/-- The announcement names the network, its parameters and its validators. -/
structure MatchesGenesis (context : ExecutionContext) (chainId : String)
    (consensusParameters : List UInt8) (updates : List InitValidatorUpdate)
    (initialHeight : Int64) : Prop where
  chainId : chainId = context.cometBftGenesis.identity.chainId
  initialHeight : initialHeight.toInt = context.cometBftGenesis.identity.initialHeight
  parameters : Sha256.digest consensusParameters =
    context.cometBftGenesis.identity.parametersSha256
  decodes : ∃ parameters, decodeConsensusParameters consensusParameters = .ok parameters
  validators : (updates.map InitValidatorUpdate.announced).Perm
    (context.cometBftGenesis.validators.validators.map announcedAs)

/-- What can be wrong with the announced validators. -/
inductive Misannounces (expected : List CometBftValidator) (updates : List InitValidatorUpdate) :
    Prop where
  | missing (validator : CometBftValidator) (member : validator ∈ expected)
      (absent : forall update, update ∈ updates -> update.publicKey ≠ validator.publicKey)
  | extra (update : InitValidatorUpdate) (member : update ∈ updates)
      (unknown : forall validator, validator ∈ expected ->
        validator.publicKey ≠ update.publicKey)
  | repeated (twice : ¬(updates.map InitValidatorUpdate.publicKey).Nodup)
  | reweighted (update : InitValidatorUpdate) (isUpdate : update ∈ updates)
      (validator : CometBftValidator) (member : validator ∈ expected)
      (sameKey : update.publicKey = validator.publicKey)
      (otherPower : update.votingPower.toInt ≠ validator.votingPower)

theorem not_perm_of_misannounces {expected} (distinct : DistinctAddresses expected)
    (wrong : Misannounces expected updates) :
    ¬(updates.map InitValidatorUpdate.announced).Perm (expected.map announcedAs) := by
  intro permuted
  have known : forall update, update ∈ updates ->
      ∃ validator, validator ∈ expected /\ announcedAs validator = update.announced :=
    fun update member => List.mem_map.mp (permuted.subset (List.mem_map_of_mem member))
  cases wrong with
  | missing validator member absent =>
    rcases List.mem_map.mp (permuted.symm.subset (List.mem_map_of_mem member)) with
      ⟨update, isUpdate, same⟩
    exact absent update isUpdate (congrArg Prod.fst same)
  | extra update member unknown =>
    rcases known update member with ⟨validator, isMember, same⟩
    exact unknown validator isMember (congrArg Prod.fst same)
  | repeated twice =>
    have keys := permuted.map Prod.fst
    rw [List.map_map, List.map_map] at keys
    exact twice (keys.nodup_iff.mpr (nodup_publicKeys distinct))
  | reweighted update isUpdate validator member sameKey otherPower =>
    rcases known update isUpdate with ⟨other, isMember, same⟩
    have sameValidator := eq_of_publicKey_eq distinct isMember member
      ((congrArg Prod.fst same).trans sameKey)
    rw [sameValidator] at same
    exact otherPower (congrArg Prod.snd same).symm

theorem dispatchInitChain_keepsOnFailure (chainId : String) (consensusParameters : List UInt8)
    (updates : List InitValidatorUpdate) (initialHeight : Int64) :
    KeepsOnFailure
      (dispatchInitChain context chainId consensusParameters updates initialHeight) := by
  apply KeepsOnFailure.check_bind
  intro _ _
  apply KeepsOnFailure.check_bind
  intro validators _
  exact (initChain_keepsOnFailure _).mapFailure.bind_pure _

/-- Before the first block, the announcements that match genesis are accepted,
and no others. -/
theorem dispatchInitChain_eq_ok (derived : DerivedGenesis context.cometBftGenesis)
    (distinct : DistinctAddresses context.cometBftGenesis.validators.validators)
    (fresh : core.execution.committed.height = 0) {response : Response} :
    dispatchInitChain context chainId consensusParameters updates initialHeight core =
        .ok response next <->
      MatchesGenesis context chainId consensusParameters updates initialHeight /\
        response = .initChain /\ next = { core with lifecycle := .running } := by
  have sorts {mapped : List CometBftValidator} := @sortByKey_eq_iff_perm _ _ _
    CometBftValidator.order _ mapped (pairwise_order_of_derived derived distinct)
  unfold dispatchInitChain mapInitValidators
  simp only [bind_eq_ok, check_eq_ok, Except.mapError_eq_ok, Except.bind_eq_ok, mapFailure_eq_ok]
  constructor
  · intro accepted
    rcases accepted with ⟨parameters, _, ⟨decoded, rfl⟩, _, _, ⟨⟨mapped, isMapped, isSorted⟩, rfl⟩,
      _, reached, announced, answered⟩
    rcases initChain_eq_ok.mp announced with ⟨_, announces, isReached⟩
    cases isSorted
    cases answered
    have permuted := (exists_mapped_perm_iff distinct).mp
      ⟨mapped, isMapped, sorts.mp announces.validators.symm⟩
    exact ⟨⟨announces.chainId, announces.initialHeight, announces.parametersSha256,
      ⟨parameters, decoded⟩, permuted⟩, rfl, isReached⟩
  · intro accepted
    rcases accepted with ⟨matching, rfl, rfl⟩
    rcases matching.decodes with ⟨parameters, decoded⟩
    rcases (exists_mapped_perm_iff distinct).mpr matching.validators with
      ⟨mapped, isMapped, permuted⟩
    have announces : AnnouncesGenesis context ⟨chainId, initialHeight.toInt,
        Sha256.digest consensusParameters, sortByKey CometBftValidator.order mapped⟩ :=
      ⟨matching.chainId, matching.initialHeight, matching.parameters, (sorts.mpr permuted).symm⟩
    exact ⟨parameters, core, ⟨decoded, rfl⟩, _, core, ⟨⟨mapped, isMapped, rfl⟩, rfl⟩, ⟨⟩, _,
      initChain_eq_ok.mpr ⟨fresh, announces, rfl⟩, rfl⟩

/-- The lock adds nothing to an announcement, which never aborts. -/
theorem dispatch_initChain (outcome : WriteOutcome) (core : NoxisCometCore) :
    dispatch context outcome (.initChain chainId consensusParameters updates initialHeight)
        (.new core) =
      match dispatchInitChain context chainId consensusParameters updates initialHeight core with
      | .ok response next => .ok response (.new next)
      | .error reason next => .error (.error reason) (.new next) := by
  unfold dispatch answer mapFailure
  rw [if_neg (by simp [SharedCore.new])]
  dsimp only [SharedCore.new]
  cases dispatchInitChain context chainId consensusParameters updates initialHeight core with
  | ok response next => rfl
  | error reason next => rfl

/-- Before the first block, an announcement is accepted exactly when it matches
genesis and lists a permutation of its validators.  Validators that are
missing, extra, repeated or weighted differently lead to a rejection, and a
rejection leaves the core as it was. -/
theorem initChain_accepted_iff (derived : DerivedGenesis context.cometBftGenesis)
    (distinct : DistinctAddresses context.cometBftGenesis.validators.validators)
    (fresh : core.execution.committed.height = 0) (outcome : WriteOutcome) (chainId : String)
    (consensusParameters : List UInt8) (updates : List InitValidatorUpdate)
    (initialHeight : Int64) :
    let answered := dispatch context outcome
      (.initChain chainId consensusParameters updates initialHeight) (.new core)
    ((∃ response next, answered = .ok response next) <->
        MatchesGenesis context chainId consensusParameters updates initialHeight) /\
      (Misannounces context.cometBftGenesis.validators.validators updates ->
        ∃ reason, answered = .error reason (.new core)) /\
      forall reason next, answered = .error reason next -> next = .new core := by
  intro answered
  have isAnswered : answered = _ := dispatch_initChain outcome core
  have accepts {response : Response} {next : NoxisCometCore} :=
    @dispatchInitChain_eq_ok _ context core next chainId consensusParameters updates initialHeight
      derived distinct fresh response
  cases inner : dispatchInitChain context chainId consensusParameters updates initialHeight
      core with
  | ok response next =>
    rw [inner] at isAnswered
    have matching := (accepts.mp inner).1
    refine ⟨iff_of_true ⟨response, _, isAnswered⟩ matching, ?_, ?_⟩
    · intro wrong
      exact absurd matching.validators (not_perm_of_misannounces distinct wrong)
    · intro reason other failed
      rw [isAnswered] at failed
      cases failed
  | error reason next =>
    rw [inner, dispatchInitChain_keepsOnFailure _ _ _ _ core reason next inner] at isAnswered
    refine ⟨iff_of_false ?_ ?_, fun _ => ⟨_, isAnswered⟩, ?_⟩
    · intro accepted
      rcases accepted with ⟨response, other, succeeded⟩
      rw [isAnswered] at succeeded
      cases succeeded
    · intro matching
      rw [accepts.mpr ⟨matching, rfl, rfl⟩] at inner
      cases inner
    · intro other final failed
      rw [isAnswered] at failed
      cases failed
      rfl

end

section
open Fips180

/-- A block limit of one megabyte, and no other parameters. -/
def testParameters : List UInt8 := [0x0a, 0x04, 0x08, 0x80, 0x80, 0x40]

def announcedGenesis : CometBftGenesis where
  identity := { testIdentity with parametersSha256 := Sha256.digest testParameters }
  validators := testEngineValidators
  id := _
  compatible := rfl
  identified := rfl

def announcedContext : ExecutionContext where
  chainAnchor := testChainAnchor
  validationContext := testExecutionContext.validationContext
  consensusAnchor := { testExecutionContext.consensusAnchor with
    engineNetworkId := announcedGenesis.id }
  consensusConfig := testConfig
  cometBftGenesis := announcedGenesis
  verifier := testVerifier
  mintPolicy := testMintPolicy
  validated := rfl
  sameContext := ⟨rfl, rfl, rfl⟩
  sameNetwork := ⟨rfl, rfl, rfl, rfl, rfl⟩
  sameVerifier := testExecutionContext.sameVerifier
  samePolicy := testExecutionContext.samePolicy

/-- The validators of the test network, not in the order of genesis. -/
def testUpdates : List InitValidatorUpdate :=
  (testEngineValidators.validators.map (fun validator =>
    ⟨validator.publicKey, .ofInt validator.votingPower⟩)).reverse

theorem fromNoxisValidatorSet_testSet :
    CometBftValidatorSet.fromNoxisValidatorSet testSet = .ok testEngineValidators := by
  have succeeds : (CometBftValidatorSet.fromNoxisValidatorSet testSet).isOk = true := by
    decide +kernel
  unfold testEngineValidators
  exact Except.eq_ok_of_isOk succeeds _

theorem validators_announcedGenesis : announcedGenesis.validators = testEngineValidators := by
  dsimp only [announcedGenesis]

theorem derivedGenesis_announcedGenesis : DerivedGenesis announcedGenesis := by
  apply derivedGenesis_of_converted
  rw [validators_announcedGenesis]
  exact fromNoxisValidatorSet_testSet

theorem matchesGenesis_testUpdates :
    MatchesGenesis announcedContext "noxis-test" testParameters testUpdates 1 where
  chainId := rfl
  initialHeight := by decide
  parameters := rfl
  decodes := ⟨_, Except.eq_ok_of_isOk (by decide +kernel) ⟨1, by decide⟩⟩
  validators := by decide +kernel

theorem testUpdates_accepted :
    (∃ response next, dispatch announcedContext .complete
        (.initChain "noxis-test" testParameters testUpdates 1) (.new (freshCore testCommitted)) =
          .ok response next) /\
      testUpdates.length = 4 :=
  ⟨(initChain_accepted_iff derivedGenesis_announcedGenesis (by decide +kernel) rfl .complete
    "noxis-test" testParameters testUpdates 1).1.mpr matchesGenesis_testUpdates,
    by decide +kernel⟩

end
end Noxis.Comet
