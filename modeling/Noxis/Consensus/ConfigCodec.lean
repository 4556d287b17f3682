import Noxis.Consensus.Engine

namespace Noxis.Consensus

open Foundation Codec RecordChain

/-!
# Encodings of configurations and engine identities

A genesis identity hashes the encoding of a consensus configuration and that of
the engine's identity.  Both are compared here as byte strings: equal encodings
come from equal values.  The counts and lengths in them are narrowing casts, which
keep the number only because the constructors bound it.
-/

def configMagic : List UInt8 := utf8 "NXCG"

def encodeConsensusConfig [Sha256] (config : ConsensusConfig) : List UInt8 :=
  configMagic ++ (writeU16 consensusFormatVersion ++ encodeConfigFields config.protocolVersion
    config.maximumBlockRecords config.maximumBlockTransactionBytes
    config.maximumByzantineVotingPower config.validatorSet)

theorem delimited_writeU16 : Delimited (fun _ : UInt16 => True) writeU16 :=
  ((Delimited.bigEndian 2).comap (fun _ _ same => UInt16.toNat_inj.mp same)).weaken
    (fun value _ => value.toNat_lt)

theorem delimited_writeU32 : Delimited (fun _ : UInt32 => True) writeU32 :=
  ((Delimited.bigEndian 4).comap (fun _ _ same => UInt32.toNat_inj.mp same)).weaken
    (fun value _ => value.toNat_lt)

theorem delimited_lengthU16 :
    Delimited (fun content : List UInt8 => content.length < 2 ^ 16)
      (fun content => writeU16 (UInt16.ofNat content.length) ++ content) := by
  apply (Delimited.prefixed 2).congr
  intro content short
  rw [writeU16, UInt16.toNat_ofNat_of_lt' short]

theorem delimited_lengthU32 :
    Delimited (fun content : List UInt8 => content.length < 2 ^ 32)
      (fun content => writeU32 (UInt32.ofNat content.length) ++ content) := by
  apply (Delimited.prefixed 4).congr
  intro content short
  rw [writeU32, UInt32.toNat_ofNat_of_lt' short]

theorem delimited_lengthU8 :
    Delimited (fun content : List UInt8 => content.length < 2 ^ 8)
      (fun content => UInt8.ofNat content.length :: content) := by
  apply (Delimited.prefixed 1).congr
  intro content _
  rw [bigEndian, Nat.pow_zero, Nat.div_one]
  rfl

def encodeValidator (validator : Validator) : List UInt8 :=
  validator.id.bytes.toList ++ (writeU64 validator.votingPower ++
    (writeU16 validator.verificationKey.signatureScheme ++
      (writeU16 (UInt16.ofNat validator.verificationKey.bytes.length) ++
        validator.verificationKey.bytes)))

theorem delimited_encodeValidator : Delimited (fun _ : Validator => True) encodeValidator := by
  have parts : Function.Injective (fun validator : Validator => (validator.id,
      validator.votingPower, validator.verificationKey.signatureScheme,
      validator.verificationKey.bytes)) := by
    intro left right same
    rcases left with ⟨_, _, ⟨_, _, _, _, _⟩, _⟩
    rcases right with ⟨_, _, ⟨_, _, _, _, _⟩, _⟩
    simp only [Prod.mk.injEq] at same
    rcases same with ⟨rfl, rfl, rfl, rfl⟩
    rfl
  have fields := (@delimited_identifier .validator).pair (delimited_writeU64.pair
    (delimited_writeU16.pair delimited_lengthU16))
  refine (fields.comap parts).weaken (fun validator _ => ⟨trivial, trivial, trivial, ?_⟩)
  exact Nat.lt_of_le_of_lt validator.verificationKey.bounded (by decide)

theorem delimited_encodeValidatorSetEntries :
    Delimited (fun validators : List Validator => validators.length <= maxValidators)
      encodeValidatorSetEntries := by
  have small (validators : List Validator) (few : validators.length <= maxValidators) :
      validators.length < 2 ^ 32 := Nat.lt_of_le_of_lt few (by decide)
  have counted := (delimited_encodeValidator.counted 4).weaken
    (fun validators few => ⟨small validators few, fun _ _ => trivial⟩)
  apply counted.congr
  intro validators few
  rw [encodeValidatorSetEntries, writeU32, UInt32.toNat_ofNat_of_lt' (small validators few)]
  rfl

section
variable [Sha256]

theorem encodeConsensusConfig_injective : Function.Injective encodeConsensusConfig := by
  intro left right same
  have few (config : ConsensusConfig) : config.validatorSet.validators.length <= maxValidators :=
    (validateValidators_eq_ok.mp config.validatorSet.valid).2.1
  have fields := delimited_writeU16.pair (delimited_writeU32.pair (delimited_writeU32.pair
    (delimited_writeU64.pair delimited_encodeValidatorSetEntries)))
  have sameFields := List.append_cancel_left (List.append_cancel_left same)
  have sameParts := @Delimited.injective _ _ _ fields
    (left.protocolVersion, left.maximumBlockRecords, left.maximumBlockTransactionBytes,
      left.maximumByzantineVotingPower, left.validatorSet.validators)
    (right.protocolVersion, right.maximumBlockRecords, right.maximumBlockTransactionBytes,
      right.maximumByzantineVotingPower, right.validatorSet.validators)
    ⟨trivial, trivial, trivial, trivial, few left⟩ ⟨trivial, trivial, trivial, trivial, few right⟩
    sameFields
  simp only [Prod.mk.injEq] at sameParts
  rcases sameParts with ⟨version, records, bytes, power, validators⟩
  have made (config : ConsensusConfig) := (@ConsensusConfig.new_eq_ok _ config.protocolVersion
    config.maximumBlockRecords config.maximumBlockTransactionBytes
    config.maximumByzantineVotingPower config.validatorSet config).mpr ⟨rfl, rfl, rfl, rfl, rfl⟩
  have again := made left
  rw [version, records, bytes, power, ValidatorSet.eq_of_validators validators, made right] at again
  exact (Except.ok.inj again).symm

end

theorem length_of_validateLabel {value : String} {maximum : Nat} {reason : EngineIdentityError}
    (labelled : validateLabel value maximum reason = .ok ()) : (utf8 value).length <= maximum := by
  rcases Except.refuse_eq_ok.mp labelled with ⟨accepted, _⟩
  simp only [Bool.or_eq_true, decide_eq_true_eq, not_or, Nat.not_lt] at accepted
  exact accepted.1.2

namespace CometBftNetworkIdentity

theorem length_encode_lt (identity : CometBftNetworkIdentity) : identity.encode.length < 2 ^ 32 := by
  have chain : (utf8 identity.chainId).length <= 128 := length_of_validateLabel identity.chainLabelled
  have version : (utf8 identity.compatibilityVersion).length <= 64 :=
    length_of_validateLabel identity.versionLabelled
  simp only [encode, writeU16, List.length_append, List.length_cons, length_bigEndian,
    Bytes.length_toList]
  omega

theorem encode_injective : Function.Injective encode := by
  intro left right same
  have labels := delimited_lengthU8.comap utf8_injective
  have height : Delimited (fun height : Int => 0 < height /\ height < 2 ^ 63)
      (fun height => bigEndian 8 height.toNat) := by
    intro first second afterFirst afterSecond firstRange secondRange equal
    have parts := Delimited.bigEndian 8 _ _ _ _ (by omega) (by omega) equal
    exact ⟨by omega, parts.2⟩
  have fields := labels.pair (height.pair (labels.pair (Delimited.bytes 32)))
  have short (identity : CometBftNetworkIdentity) :
      (utf8 identity.chainId).length < 2 ^ 8 /\
        (utf8 identity.compatibilityVersion).length < 2 ^ 8 :=
    ⟨Nat.lt_of_le_of_lt (length_of_validateLabel identity.chainLabelled) (by decide),
      Nat.lt_of_le_of_lt (length_of_validateLabel identity.versionLabelled) (by decide)⟩
  have sameFields := List.append_cancel_left same
  have sameParts := @Delimited.injective _ _ _ fields
    (left.chainId, left.initialHeight, left.compatibilityVersion, left.parametersSha256)
    (right.chainId, right.initialHeight, right.compatibilityVersion, right.parametersSha256)
    ⟨(short left).1, ⟨left.high, left.representable⟩, (short left).2, trivial⟩
    ⟨(short right).1, ⟨right.high, right.representable⟩, (short right).2, trivial⟩
    sameFields
  simp only [Prod.mk.injEq] at sameParts
  rcases left with ⟨_, _, _, _, _, _, _, _⟩
  rcases right with ⟨_, _, _, _, _, _, _, _⟩
  rcases sameParts with ⟨rfl, rfl, rfl, rfl⟩
  rfl

end CometBftNetworkIdentity
end Noxis.Consensus
