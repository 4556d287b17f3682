import Noxis.Comet.Core

namespace Noxis.Comet

open Foundation Consensus

/-!
# Heights of the engine and of the application

Execution counts its blocks from one, and the engine starts at the height that
genesis fixes.  The two maps between the heights are inverse to each other from
the initial height on.  The height just before it is not refused: it is mapped to
zero, the height of genesis, which the other map does not accept.
-/

/-- The execution height of an engine height. -/
def noxisHeight (identity : CometBftNetworkIdentity) (engineHeight : Int64) :
    Except HeightMappingError UInt64 :=
  let relative := engineHeight.toInt - identity.initialHeight
  if relative < -2 ^ 63 ∨ 2 ^ 63 <= relative then
    .error (.engineHeightBeforeGenesis identity.initialHeight engineHeight.toInt)
  else if 2 ^ 63 <= relative + 1 then
    .error .heightOverflow
  else if relative + 1 < 0 then
    .error .heightOverflow
  else
    .ok (UInt64.ofNat (relative + 1).toNat)

variable {identity : CometBftNetworkIdentity} {engineHeight : Int64} {height : UInt64}

theorem engineHeightFor_eq_ok {mapped : Int} :
    identity.engineHeightFor height = .ok mapped <->
      height ≠ 0 /\ mapped = identity.initialHeight + (height.toNat - 1) /\ mapped < 2 ^ 63 := by
  have positive := identity.high
  have before (nonzero : height ≠ 0) : ((height - 1).toNat : Int) = height.toNat - 1 := by
    have some : height.toNat ≠ 0 := fun none => nonzero (UInt64.toNat_inj.mp none)
    have first : (1 : UInt64) <= height := UInt64.le_iff_toNat_le.mpr (Nat.pos_of_ne_zero some)
    rw [UInt64.toNat_sub_of_le _ _ first]
    change ((height.toNat - 1 : Nat) : Int) = _
    omega
  unfold CometBftNetworkIdentity.engineHeightFor
  simp only [Except.refuse_eq_ok, Except.ok.injEq]
  constructor
  · rintro ⟨nonzero, _, short, rfl⟩
    rw [before nonzero] at short ⊢
    exact ⟨nonzero, rfl, Int.not_le.mp short⟩
  · rintro ⟨nonzero, rfl, short⟩
    have isBefore := before nonzero
    exact ⟨nonzero, by omega, by omega, by omega⟩

/-- Every height from the one before the initial height on is mapped. -/
theorem noxisHeight_eq_ok :
    noxisHeight identity engineHeight = .ok height <->
      (height.toNat : Int) = engineHeight.toInt - identity.initialHeight + 1 := by
  have positive := identity.high
  have bounded := engineHeight.toInt_lt
  have small := height.toNat_lt
  unfold noxisHeight
  simp only [Except.refuse_eq_ok, Except.ok.injEq]
  constructor
  · rintro ⟨_, _, nonnegative, rfl⟩
    rw [UInt64.toNat_ofNat_of_lt' (show _ < 2 ^ 64 by omega)]
    omega
  · intro isHeight
    refine ⟨by omega, by omega, by omega, ?_⟩
    rw [← isHeight, Int.toNat_natCast, UInt64.ofNat_toNat]

/-- At a height the maps keep their promise: exactly the heights from the initial one on
are mapped, and what they are mapped to is positive and leads back. -/
def HeightCorresponds (identity : CometBftNetworkIdentity) (engineHeight : Int64) : Prop :=
  ((∃ height, noxisHeight identity engineHeight = .ok height) <->
      identity.initialHeight <= engineHeight.toInt) /\
    forall height, noxisHeight identity engineHeight = .ok height ->
      0 < height /\ identity.engineHeightFor height = .ok engineHeight.toInt

theorem not_heightCorresponds_before
    (before : engineHeight.toInt = identity.initialHeight - 1) :
    ¬ HeightCorresponds identity engineHeight := by
  intro corresponds
  have mapped : noxisHeight identity engineHeight = .ok 0 := by
    rw [noxisHeight_eq_ok, before]
    change (0 : Int) = _
    omega
  have late := corresponds.1.mp ⟨0, mapped⟩
  omega

theorem heightCorresponds_of_ne
    (notBefore : engineHeight.toInt ≠ identity.initialHeight - 1) :
    HeightCorresponds identity engineHeight := by
  have positive := identity.high
  have bounded := engineHeight.toInt_lt
  refine ⟨⟨?_, ?_⟩, ?_⟩
  · intro isMapped
    rcases isMapped with ⟨height, mapped⟩
    have isHeight := noxisHeight_eq_ok.mp mapped
    omega
  · intro late
    refine ⟨UInt64.ofNat (engineHeight.toInt - identity.initialHeight + 1).toNat, ?_⟩
    rw [noxisHeight_eq_ok, UInt64.toNat_ofNat_of_lt' (show _ < 2 ^ 64 by omega)]
    omega
  · intro height mapped
    have isHeight := noxisHeight_eq_ok.mp mapped
    have some : height ≠ 0 := by
      intro none
      rw [none] at isHeight
      change (0 : Int) = _ at isHeight
      omega
    exact ⟨UInt64.pos_iff_ne_zero.mpr some, engineHeightFor_eq_ok.mpr ⟨some, by omega, by omega⟩⟩

/-- The maps keep their promise at every height but the one just before the initial
height, where they break it for every network.  In the other direction they are
inverse to each other without exception. -/
theorem heights_correspond (identity : CometBftNetworkIdentity) :
    (forall engineHeight : Int64, HeightCorresponds identity engineHeight <->
      engineHeight.toInt ≠ identity.initialHeight - 1) /\
    (forall height mapped, identity.engineHeightFor height = .ok mapped ->
      noxisHeight identity (Int64.ofInt mapped) = .ok height) := by
  constructor
  · intro engineHeight
    exact ⟨fun corresponds before => not_heightCorresponds_before before corresponds,
      heightCorresponds_of_ne⟩
  · intro height mapped isMapped
    have positive := identity.high
    rcases engineHeightFor_eq_ok.mp isMapped with ⟨nonzero, rfl, short⟩
    have counted : 0 < height.toNat :=
      Nat.pos_of_ne_zero (fun none => nonzero (UInt64.toNat_inj.mp none))
    rw [noxisHeight_eq_ok, Int64.toInt_ofInt_of_le (by omega) (by omega)]
    omega

/-- Height zero of a network that starts at height one is mapped to zero. -/
theorem height_before_genesis_is_mapped :
    (0 : Int64).toInt < testIdentity.initialHeight /\
      noxisHeight testIdentity 0 = .ok 0 := by
  constructor
  · decide
  · rfl

end Noxis.Comet
