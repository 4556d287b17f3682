import Noxis.Codec.AssetFields
import Noxis.Consensus.ConfigCodec
import Noxis.Ledger.Binding

namespace Noxis.Config

open Foundation Codec RecordChain Crypto Ledger Consensus

/-!
# Genesis configurations

A genesis configuration fixes the depth of the commitment tree, the first assets,
the validation context, the consensus configuration and, for a network that runs
on an engine, the engine's genesis.  The assets may be supplied in any order and
are kept in the order of their identifiers.  The identity of a genesis hashes all
of it without separators.

The fields are private in the source and every value comes from the constructor.
Here the checks are fields, so a value carries the facts its constructor
established.
-/

def genesisIdFormatVersion : UInt16 := 5

def protocolRuleSetVersion : UInt16 := 5

def maxGenesisConsensusConfigBytes : Nat := 1024 * 1024

def genesisIdDomain : List UInt8 := utf8 "NOXIS/GENESIS-ID/V1\x00"

inductive ConfigError where
  | ledger (error : LedgerError)
  | duplicateGenesisAsset (assetId : AssetId)
  | invalidValidationContext (error : ValidationContextError)
  | consensusConfigTooLarge (actual maximum : Nat)
  | invalidCometBftGenesis (error : EngineIdentityError)
deriving DecidableEq

/-- The ledger decides which depths there are. -/
def validateTreeDepth (treeDepth : UInt8) : Except ConfigError Unit :=
  ((LedgerState.new treeDepth).map (fun _ => ())).mapError .ledger

/-- Collect the identifiers and stop at the first one that was seen before. -/
def collectIds (ids : Finset AssetId) : List AssetDefinition -> Except ConfigError Unit
  | [] => .ok ()
  | asset :: rest =>
    if asset.id ∈ ids then .error (.duplicateGenesisAsset asset.id)
    else collectIds (insert asset.id ids) rest

def validateUniqueAssets (assets : List AssetDefinition) : Except ConfigError Unit :=
  collectIds ∅ assets

variable {assets : List AssetDefinition}

theorem collectIds_eq_ok {ids} :
    collectIds ids assets = .ok () <->
      (assets.map AssetDefinition.id).Nodup /\ forall asset, asset ∈ assets -> asset.id ∉ ids := by
  induction assets generalizing ids with
  | nil => simp [collectIds]
  | cons asset rest ih =>
    rw [collectIds, Except.refuse_eq_ok, ih, List.map_cons, List.nodup_cons,
      List.forall_mem_cons, List.mem_map]
    simp only [Finset.mem_insert, not_or]
    constructor
    · intro collected
      rcases collected with ⟨fresh, distinct, later⟩
      refine ⟨⟨?_, distinct⟩, fresh, fun other listed => (later other listed).2⟩
      intro repeated
      rcases repeated with ⟨other, listed, same⟩
      exact (later other listed).1 same
    · intro distinct
      rcases distinct with ⟨⟨unrepeated, distinct⟩, fresh, later⟩
      exact ⟨fresh, distinct, fun other listed =>
        ⟨fun same => unrepeated ⟨other, listed, same⟩, later other listed⟩⟩

theorem validateUniqueAssets_eq_ok :
    validateUniqueAssets assets = .ok () <-> (assets.map AssetDefinition.id).Nodup := by
  rw [validateUniqueAssets, collectIds_eq_ok]
  exact and_iff_left (fun _ _ => Finset.notMem_empty _)

def encodeGenesisAsset (asset : AssetDefinition) : List UInt8 :=
  asset.id.bytes.toList ++ ([assetKindTag asset.kind] ++
    (UInt8.ofNat (utf8 asset.ticker).length :: utf8 asset.ticker))

theorem encodeGenesisAsset_ne_nil (asset : AssetDefinition) (_ : asset.Built) :
    encodeGenesisAsset asset ≠ [] := by
  intro empty
  have sized := congrArg List.length empty
  rw [encodeGenesisAsset, List.length_append, Bytes.length_toList] at sized
  exact absurd sized (by simp)

/-- The ticker of an asset that was built fits a length of one byte. -/
theorem delimited_encodeGenesisAsset : Delimited AssetDefinition.Built encodeGenesisAsset := by
  have parts : Function.Injective (fun asset : AssetDefinition =>
      (asset.id, assetKindTag asset.kind, utf8 asset.ticker)) := by
    intro left right same
    simp only [Prod.mk.injEq] at same
    exact AssetDefinition.ext same.1 (utf8_injective same.2.2) (assetKindTag_injective same.2.1)
  have fields := (@delimited_identifier .asset).pair (Delimited.byte.pair delimited_lengthU8)
  refine (fields.comap parts).weaken (fun asset built => ⟨trivial, trivial, ?_⟩)
  exact Nat.lt_of_le_of_lt (ticker_of_built built).2 (by decide)

theorem protocolTag_injective : Function.Injective AlgorithmId.protocolTag := by
  intro left right same
  cases left <;> cases right <;> first | rfl | cases same

theorem delimited_encodeContext :
    Delimited (fun _ : ValidationContext => True) ValidationContext.encode := by
  have parts : Function.Injective (fun context : ValidationContext =>
      (context.cryptoSuite.version, context.cryptoSuite.hash, context.cryptoSuite.transportKem,
        context.cryptoSuite.identitySignature, context.cryptoSuite.proofSystem,
        context.proofVerifierId, context.mintPolicyId)) := by
    intro left right same
    rcases left with ⟨⟨_, _, _, _, _⟩, _, _⟩
    rcases right with ⟨⟨_, _, _, _, _⟩, _, _⟩
    simp only [Prod.mk.injEq] at same
    rcases same with ⟨rfl, rfl, rfl, rfl, rfl, rfl, rfl⟩
    rfl
  have algorithm := Delimited.byte.comap protocolTag_injective
  have fields := delimited_writeU16.pair (algorithm.pair (algorithm.pair (algorithm.pair
    (algorithm.pair ((@delimited_identifier .proofVerifier).pair
      (@delimited_identifier .mintPolicy))))))
  apply ((fields.comap parts).weaken (fun _ _ =>
    ⟨trivial, trivial, trivial, trivial, trivial, trivial, trivial⟩)).congr
  intro context _
  rw [ValidationContext.encode, List.append_assoc, List.append_assoc]
  rfl

/-- Register the assets one by one, stopping at the first failure. -/
def registerAssets : List AssetDefinition -> EStateM LedgerError LedgerState Unit
  | [] => pure ()
  | asset :: rest => do
      LedgerState.registerAsset asset
      registerAssets rest

theorem registerAssets_of_fresh {state} (distinct : (assets.map AssetDefinition.id).Nodup)
    (fresh : forall asset, asset ∈ assets -> asset.id ∉ state.assets) :
    ∃ next, registerAssets assets state = .ok () next := by
  induction assets generalizing state with
  | nil => exact ⟨state, rfl⟩
  | cons asset rest ih =>
    rw [List.map_cons, List.nodup_cons] at distinct
    have registered := LedgerState.registerAsset_of_new (fresh asset List.mem_cons_self)
    rw [registerAssets, bind_of_ok registered]
    refine ih distinct.2 ?_
    intro other listed known
    rcases Finmap.mem_insert.mp known with same | known
    · exact distinct.1 (same ▸ List.mem_map_of_mem listed)
    · exact fresh other (List.mem_cons_of_mem asset listed) known

section
variable [Sha256]

/-- The engine's genesis, if the configuration names an engine. -/
def deriveCometBftGenesis (consensusConfig : ConsensusConfig) :
    Option CometBftNetworkIdentity -> Except EngineIdentityError (Option CometBftGenesis)
  | none => .ok none
  | some identity =>
    (CometBftGenesis.fromConsensusConfig identity consensusConfig.validatorSet).map some

def encodeEngine : Option CometBftGenesis -> List UInt8
  | some genesis =>
    1 :: ((writeU32 (UInt32.ofNat genesis.identity.encode.length) ++ genesis.identity.encode) ++
      genesis.validators.hash.toList)
  | none => [0]

/-- The part about the engine can be told from what follows it. -/
theorem identity_of_encodeEngine {left right afterLeft afterRight}
    (same : encodeEngine left ++ afterLeft = encodeEngine right ++ afterRight) :
    left.map CometBftGenesis.identity = right.map CometBftGenesis.identity /\
      afterLeft = afterRight := by
  cases left with
  | none =>
    cases right with
    | none => exact ⟨rfl, (List.cons.inj same).2⟩
    | some other => exact absurd (List.cons.inj same).1 (by decide)
  | some genesis =>
    cases right with
    | none => exact absurd (List.cons.inj same).1 (by decide)
    | some other =>
      rcases (delimited_lengthU32.pair (Delimited.bytes 32))
        (genesis.identity.encode, genesis.validators.hash)
        (other.identity.encode, other.validators.hash) afterLeft afterRight
        ⟨genesis.identity.length_encode_lt, trivial⟩
        ⟨other.identity.length_encode_lt, trivial⟩ (List.cons.inj same).2 with ⟨encoded, after⟩
      rw [Option.map_some, Option.map_some,
        CometBftNetworkIdentity.encode_injective (congrArg Prod.fst encoded)]
      exact ⟨rfl, after⟩

structure GenesisConfig where
  treeDepth : UInt8
  assets : List AssetDefinition
  validationContext : ValidationContext
  consensusConfig : ConsensusConfig
  cometBftGenesis : Option CometBftGenesis
  deep : validateTreeDepth treeDepth = .ok ()
  ordered : assets.Pairwise (fun left right => left.id < right.id)
  validated : validationContext.validate = .ok ()
  bounded : (encodeConsensusConfig consensusConfig).length <= maxGenesisConsensusConfigBytes
  derived : deriveCometBftGenesis consensusConfig (cometBftGenesis.map CometBftGenesis.identity) =
    .ok cometBftGenesis

theorem deriveCometBftGenesis_eq_ok {consensusConfig identity genesis}
    (derived : deriveCometBftGenesis consensusConfig identity = .ok genesis) :
    genesis.map CometBftGenesis.identity = identity := by
  cases identity with
  | none =>
    rw [← Except.ok.inj derived]
    rfl
  | some identity =>
    rw [deriveCometBftGenesis] at derived
    cases isMade : CometBftGenesis.fromConsensusConfig identity consensusConfig.validatorSet with
    | error reason =>
      rw [isMade] at derived
      cases derived
    | ok made =>
      rw [isMade] at derived
      rw [← Except.ok.inj derived, Option.map_some,
        (CometBftGenesis.fromConsensusConfig_eq_ok.mp isMade).1]

namespace GenesisConfig

def cometBftIdentity (config : GenesisConfig) : Option CometBftNetworkIdentity :=
  config.cometBftGenesis.map CometBftGenesis.identity

/-- Check the parts in turn and sort the assets.  The source's sort need not be
stable, but no two assets have one identifier. -/
def newInner (treeDepth : UInt8) (assets : List AssetDefinition)
    (validationContext : ValidationContext) (consensusConfig : ConsensusConfig)
    (cometBftIdentity : Option CometBftNetworkIdentity) : Except ConfigError GenesisConfig := do
  let ⟨(), deep⟩ ← witnessed (validateTreeDepth treeDepth)
  let ⟨(), unique⟩ ← witnessed (validateUniqueAssets assets)
  let ⟨(), validated⟩ ← witnessed
    (validationContext.validate.mapError ConfigError.invalidValidationContext)
  if large : maxGenesisConsensusConfigBytes < (encodeConsensusConfig consensusConfig).length then
    .error (.consensusConfigTooLarge (encodeConsensusConfig consensusConfig).length
      maxGenesisConsensusConfigBytes)
  else
    let ⟨cometBftGenesis, derived⟩ ← witnessed
      ((deriveCometBftGenesis consensusConfig cometBftIdentity).mapError .invalidCometBftGenesis)
    return {
      treeDepth
      assets := sortByKey AssetDefinition.id assets
      validationContext
      consensusConfig
      cometBftGenesis
      deep
      ordered := pairwise_lt_sortByKey AssetDefinition.id (validateUniqueAssets_eq_ok.mp unique)
      validated := Except.mapError_eq_ok.mp validated
      bounded := Nat.not_lt.mp large
      derived := by
        have made := Except.mapError_eq_ok.mp derived
        rw [deriveCometBftGenesis_eq_ok made]
        exact made }

def new (treeDepth : UInt8) (assets : List AssetDefinition) (validationContext : ValidationContext)
    (consensusConfig : ConsensusConfig) : Except ConfigError GenesisConfig :=
  newInner treeDepth assets validationContext consensusConfig none

def newWithCometBftIdentity (treeDepth : UInt8) (assets : List AssetDefinition)
    (validationContext : ValidationContext) (consensusConfig : ConsensusConfig)
    (cometBftIdentity : CometBftNetworkIdentity) : Except ConfigError GenesisConfig :=
  newInner treeDepth assets validationContext consensusConfig (some cometBftIdentity)

/-- The constructor returns every configuration, and for given arguments and any
order of the assets the only one there is. -/
theorem newInner_eq_ok
    {treeDepth assets validationContext consensusConfig cometBftIdentity config} :
    newInner treeDepth assets validationContext consensusConfig cometBftIdentity = .ok config <->
      config.treeDepth = treeDepth /\ config.assets.Perm assets /\
        config.validationContext = validationContext /\
        config.consensusConfig = consensusConfig /\ config.cometBftIdentity = cometBftIdentity := by
  unfold newInner
  constructor
  · intro made
    rcases Except.bind_eq_ok.mp made with ⟨⟨_, deep⟩, _, made⟩
    rcases Except.bind_eq_ok.mp made with ⟨⟨_, unique⟩, _, made⟩
    rcases Except.bind_eq_ok.mp made with ⟨⟨_, validated⟩, _, made⟩
    dsimp only at made
    split_ifs at made
    rcases Except.bind_eq_ok.mp made with ⟨⟨genesis, derived⟩, _, made⟩
    rw [← Except.ok.inj made]
    exact ⟨rfl, sortByKey_perm _ _, rfl, rfl,
      deriveCometBftGenesis_eq_ok (Except.mapError_eq_ok.mp derived)⟩
  · intro same
    rcases same with ⟨rfl, permuted, rfl, rfl, rfl⟩
    have sorted := (sortByKey_eq_iff_perm AssetDefinition.id config.ordered).mpr permuted
    have distinct : (assets.map AssetDefinition.id).Nodup :=
      (permuted.map AssetDefinition.id).nodup_iff.mp
        (List.pairwise_map.mpr (config.ordered.imp ne_of_lt))
    have derived : deriveCometBftGenesis config.consensusConfig config.cometBftIdentity =
        .ok config.cometBftGenesis := config.derived
    rw [witnessed_of_ok config.deep, witnessed_of_ok (validateUniqueAssets_eq_ok.mpr distinct),
      witnessed_of_ok (Except.mapError_eq_ok.mpr config.validated)]
    change dite _ _ _ = _
    rw [dif_neg (Nat.not_lt.mpr config.bounded),
      witnessed_of_ok (Except.mapError_eq_ok.mpr derived)]
    rcases config with ⟨_, _, _, _, _, _, _, _, _, _⟩
    subst sorted
    rfl

variable {left right : GenesisConfig}

theorem eq_of_parts (depth : left.treeDepth = right.treeDepth) (assets : left.assets = right.assets)
    (context : left.validationContext = right.validationContext)
    (consensus : left.consensusConfig = right.consensusConfig)
    (identity : left.cometBftIdentity = right.cometBftIdentity) : left = right := by
  have made : newInner right.treeDepth right.assets right.validationContext right.consensusConfig
      right.cometBftIdentity = .ok right := newInner_eq_ok.mpr ⟨rfl, List.Perm.refl _, rfl, rfl, rfl⟩
  have again : newInner right.treeDepth right.assets right.validationContext right.consensusConfig
      right.cometBftIdentity = .ok left :=
    newInner_eq_ok.mpr ⟨depth, List.Perm.of_eq assets, context, consensus, identity⟩
  exact Except.ok.inj (again.symm.trans made)

/-- The empty ledger with every asset registered. -/
def buildLedgerState (config : GenesisConfig) : Except ConfigError LedgerState := do
  let state ← (LedgerState.new config.treeDepth).mapError ConfigError.ledger
  match registerAssets config.assets state with
  | .ok _ next => .ok next
  | .error reason _ => .error (.ledger reason)

theorem exists_buildLedgerState (config : GenesisConfig) :
    ∃ state, config.buildLedgerState = .ok state := by
  have deep := Except.mapError_eq_ok.mp config.deep
  cases created : LedgerState.new config.treeDepth with
  | error reason =>
    rw [created] at deep
    cases deep
  | ok state =>
    rcases LedgerState.new_eq_ok created with ⟨tree, _, isState⟩
    have distinct : (config.assets.map AssetDefinition.id).Nodup :=
      List.pairwise_map.mpr (config.ordered.imp ne_of_lt)
    rcases @registerAssets_of_fresh config.assets state distinct
      (fun _ _ => isState ▸ Finmap.notMem_empty) with ⟨next, registered⟩
    refine ⟨next, Except.bind_eq_ok.mpr ⟨state, Except.mapError_eq_ok.mpr created, ?_⟩⟩
    rw [registered]

/-! ## The identity of a genesis -/

/-- The byte string hashed into a genesis identity.  Lengths and counts are cast to
32 bits. -/
def genesisIdInput (config : GenesisConfig) : List UInt8 :=
  genesisIdDomain ++ (writeU16 genesisIdFormatVersion ++ (writeU16 protocolRuleSetVersion ++
    (config.validationContext.encode ++
      ((writeU32 (UInt32.ofNat (encodeConsensusConfig config.consensusConfig).length) ++
          encodeConsensusConfig config.consensusConfig) ++
        (encodeEngine config.cometBftGenesis ++ ([config.treeDepth] ++
          (writeU32 (UInt32.ofNat config.assets.length) ++
            config.assets.flatMap encodeGenesisAsset)))))))

def genesisId (config : GenesisConfig) : GenesisId := ⟨Sha256.digest config.genesisIdInput⟩

/-- The preimage determines the configuration.  The assets stand at its end, so
their number is not read. -/
theorem eq_of_genesisIdInput_eq (leftBuilt : forall asset, asset ∈ left.assets -> asset.Built)
    (rightBuilt : forall asset, asset ∈ right.assets -> asset.Built)
    (same : left.genesisIdInput = right.genesisIdInput) : left = right := by
  have short (config : GenesisConfig) :
      (encodeConsensusConfig config.consensusConfig).length < 2 ^ 32 :=
    Nat.lt_of_le_of_lt config.bounded (by decide)
  have fields := List.append_cancel_left (List.append_cancel_left (List.append_cancel_left same))
  rcases delimited_encodeContext _ _ _ _ trivial trivial fields with ⟨context, afterContext⟩
  rcases delimited_lengthU32 _ _ _ _ (short left) (short right) afterContext with
    ⟨consensus, afterConsensus⟩
  rcases identity_of_encodeEngine afterConsensus with ⟨identity, afterEngine⟩
  rcases Delimited.byte _ _ _ _ trivial trivial afterEngine with ⟨depth, afterDepth⟩
  rcases delimited_writeU32 _ _ _ _ trivial trivial afterDepth with ⟨_, listings⟩
  have assets := delimited_encodeGenesisAsset.listed encodeGenesisAsset_ne_nil leftBuilt rightBuilt
    listings
  exact eq_of_parts depth assets context (encodeConsensusConfig_injective consensus) identity

/-- Equal identities come from one configuration with the same supplied assets, or
the two byte strings hashed collide.  Supplying the assets in another order changes
neither the identity nor the identifier of the first ledger. -/
theorem genesisId_binds_configuration :
    (forall (left right : GenesisConfig) (leftSupplied rightSupplied : List AssetDefinition),
      newInner left.treeDepth leftSupplied left.validationContext left.consensusConfig
        left.cometBftIdentity = .ok left ->
      newInner right.treeDepth rightSupplied right.validationContext right.consensusConfig
        right.cometBftIdentity = .ok right ->
      (forall asset, asset ∈ leftSupplied -> asset.Built) ->
      (forall asset, asset ∈ rightSupplied -> asset.Built) ->
      left.genesisId = right.genesisId ->
      (left.treeDepth = right.treeDepth /\ leftSupplied.Perm rightSupplied /\
          left.validationContext = right.validationContext /\
          left.consensusConfig = right.consensusConfig /\
          left.cometBftGenesis = right.cometBftGenesis) ∨
        Collides Sha256.digest left.genesisIdInput right.genesisIdInput) /\
    forall (treeDepth : UInt8) (supplied reordered : List AssetDefinition)
      (validationContext : ValidationContext) (consensusConfig : ConsensusConfig)
      (cometBftIdentity : Option CometBftNetworkIdentity) (config : GenesisConfig),
      reordered.Perm supplied ->
      newInner treeDepth supplied validationContext consensusConfig cometBftIdentity = .ok config ->
      ∃ other state otherState,
        newInner treeDepth reordered validationContext consensusConfig cometBftIdentity = .ok other /\
        other.genesisId = config.genesisId /\
        config.buildLedgerState = .ok state /\ other.buildLedgerState = .ok otherState /\
        otherState.stateId other.genesisId = state.stateId config.genesisId := by
  constructor
  · intro left right leftSupplied rightSupplied leftAccepted rightAccepted leftBuilt rightBuilt same
    have leftPermuted := (newInner_eq_ok.mp leftAccepted).2.1
    have rightPermuted := (newInner_eq_ok.mp rightAccepted).2.1
    rcases eq_or_collides Sha256.digest (congrArg Identifier.bytes same) with sameInput | collides
    · left
      have sameConfig := eq_of_genesisIdInput_eq
        (fun asset listed => leftBuilt asset (leftPermuted.mem_iff.mp listed))
        (fun asset listed => rightBuilt asset (rightPermuted.mem_iff.mp listed)) sameInput
      subst sameConfig
      exact ⟨rfl, leftPermuted.symm.trans rightPermuted, rfl, rfl, rfl⟩
    · exact Or.inr collides
  · intro treeDepth supplied reordered validationContext consensusConfig cometBftIdentity config
      permuted accepted
    rcases newInner_eq_ok.mp accepted with ⟨depth, listed, context, consensus, identity⟩
    rcases config.exists_buildLedgerState with ⟨state, built⟩
    exact ⟨config, state, state, newInner_eq_ok.mpr
      ⟨depth, listed.trans permuted.symm, context, consensus, identity⟩, rfl, built, built, rfl⟩

end GenesisConfig
end

section
open Fips180

/-- Two assets, supplied in either order, give one identity. -/
theorem supplied_in_either_order :
    let first : AssetDefinition := ⟨.replicate 1, "NXS", .nativeBacked⟩
    let context : ValidationContext := ⟨.researchV1, .replicate 1, .replicate 2⟩
    ∃ left right : GenesisConfig,
      GenesisConfig.newWithCometBftIdentity 4 [first, testAsset] context testConfig
          testIdentity = .ok left /\
        GenesisConfig.newWithCometBftIdentity 4 [testAsset, first] context testConfig
          testIdentity = .ok right /\
        left.genesisId = right.genesisId /\
        (left.cometBftGenesis = right.cometBftGenesis ∨
          Collides Sha256.digest left.genesisIdInput right.genesisIdInput) := by
  intro first context
  have convertible : (deriveCometBftGenesis testConfig (some testIdentity)).isOk = true := by
    decide +kernel
  cases derived : deriveCometBftGenesis testConfig (some testIdentity) with
  | error reason =>
    rw [derived] at convertible
    cases convertible
  | ok genesis =>
    have identity := deriveCometBftGenesis_eq_ok derived
    let config : GenesisConfig := {
      treeDepth := 4
      assets := [first, testAsset]
      validationContext := context
      consensusConfig := testConfig
      cometBftGenesis := genesis
      deep := rfl
      ordered := by decide
      validated := rfl
      bounded := by decide +kernel
      derived := by rw [identity]; exact derived }
    have accepted : GenesisConfig.newInner 4 [first, testAsset] context testConfig
        (some testIdentity) = .ok config :=
      GenesisConfig.newInner_eq_ok.mpr ⟨rfl, List.Perm.refl _, rfl, rfl, identity⟩
    rcases GenesisConfig.genesisId_binds_configuration.2 4 [first, testAsset] [testAsset, first]
      context testConfig (some testIdentity) config (List.Perm.swap _ _ _) accepted with
      ⟨other, _, _, reordered, sameId, _⟩
    refine ⟨config, other, accepted, reordered, sameId.symm, ?_⟩
    rcases GenesisConfig.newInner_eq_ok.mp reordered with
      ⟨depth, _, otherContext, consensus, otherIdentity⟩
    have again := reordered
    rw [← depth, ← otherContext, ← consensus, ← otherIdentity] at again
    have started := accepted
    rw [← identity] at started
    have firstBuilt : first.Built := rfl
    have testBuilt : testAsset.Built := rfl
    rcases GenesisConfig.genesisId_binds_configuration.1 config other [first, testAsset]
      [testAsset, first] started again
      (List.forall_mem_cons.mpr ⟨firstBuilt, List.forall_mem_singleton.mpr testBuilt⟩)
      (List.forall_mem_cons.mpr ⟨testBuilt, List.forall_mem_singleton.mpr firstBuilt⟩)
      sameId.symm with
      ⟨_, _, _, _, same⟩ | collides
    · exact Or.inl same
    · exact Or.inr collides

end
end Noxis.Config
