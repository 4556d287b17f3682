import Noxis.Foundation.Reader
import Noxis.Types

namespace Noxis.Codec

open Foundation

/-!
# Assets and amounts inside other formats

Several formats store the definition of an asset as its identifier, a tag for its
kind and a ticker behind a length of one byte, and an amount as sixteen bytes.
They differ in their errors and in how early they refuse a length.  A ticker is
checked by the constructor of assets in any case, so all of these readers accept
the same definitions.
-/

variable {ε : Type}

/-- A ticker that the constructor accepts has one to sixteen bytes. -/
theorem ticker_of_built {asset : AssetDefinition} (built : asset.Built) :
    1 <= (utf8 asset.ticker).length /\ (utf8 asset.ticker).length <= 16 := by
  unfold AssetDefinition.Built AssetDefinition.new at built
  rcases Except.refuse_eq_ok.mp built with ⟨accepted, _⟩
  simp only [Bool.or_eq_true, List.isEmpty_iff, decide_eq_true_eq, not_or] at accepted
  exact ⟨List.length_pos_iff.mpr accepted.1.1, Nat.not_lt.mp accepted.1.2⟩

section
variable [ReaderErrors ε] (badText : ε) (badAsset : AssetError -> ε)

/-- Read the ticker of an asset whose identifier and kind are known. -/
def readTicker (id : AssetId) (kind : AssetKind) (length : Nat) :
    EStateM ε Reader AssetDefinition := do
  let bytes ← readExact length
  match fromUtf8 bytes with
  | none => throw badText
  | some ticker => check ((AssetDefinition.new id ticker kind).mapError badAsset)

theorem reads_readTicker (id : AssetId) (kind : AssetKind) (length : Nat) :
    Reads (readTicker badText badAsset id kind length)
      (fun asset => (utf8 asset.ticker).length = length /\
        asset.id = id /\ asset.kind = kind /\ asset.Built) (fun asset => utf8 asset.ticker) := by
  refine (Reads.exact length).decodedWhen (fun asset : AssetDefinition => utf8 asset.ticker) ?_
  intro bytes asset start final
  constructor
  · intro decoded
    cases isTicker : fromUtf8 bytes with
    | none =>
      rw [isTicker] at decoded
      cases decoded
    | some ticker =>
      rw [isTicker] at decoded
      rcases check_eq_ok.mp decoded with ⟨made, sameState⟩
      have made := Except.mapError_eq_ok.mp made
      have same := AssetDefinition.eq_of_new made
      refine ⟨?_, ⟨?_, ?_, AssetDefinition.built_of_new made⟩, sameState⟩
      · rw [fromUtf8_eq_some.mp isTicker, same]
      · rw [same]
      · rw [same]
  · intro isAsset
    rcases isAsset with ⟨isTicker, ⟨rfl, rfl, built⟩, rfl⟩
    rw [fromUtf8_eq_some.mpr isTicker]
    exact check_eq_ok.mpr ⟨Except.mapError_eq_ok.mpr built, rfl⟩

variable {kindTag : AssetKind -> UInt8} {decodeKind : UInt8 -> Except ε AssetKind}
  {refused : UInt8 -> Prop} [DecidablePred refused]

/-- The kind and the ticker of an asset whose identifier is known.  Lengths may be
refused early, but none of a ticker that the constructor accepts. -/
theorem reads_kind_and_ticker
    (decodes : forall tag kind, decodeKind tag = .ok kind <-> tag = kindTag kind)
    (badLength : UInt8 -> ε)
    (accepts : forall length : UInt8, 1 <= length.toNat -> length.toNat <= 16 -> ¬refused length)
    (id : AssetId) :
    Reads (readU8 >>= fun tag => check (decodeKind tag) >>= fun kind =>
        readU8 >>= fun length =>
          if refused length then throw (badLength length)
          else readTicker badText badAsset id kind length.toNat)
      (fun asset => asset.id = id /\ asset.Built)
      (fun asset => [kindTag asset.kind] ++
        ([UInt8.ofNat (utf8 asset.ticker).length] ++ utf8 asset.ticker)) := by
  have kinds : Reads (readU8 >>= fun tag => (check (decodeKind tag) : EStateM ε Reader AssetKind))
      (fun _ => True) (fun kind => [kindTag kind]) := by
    refine Reads.u8.decoded kindTag (fun _ => trivial) ?_
    intro tag kind start final
    rw [check_eq_ok, decodes]
  have tickers (kind : AssetKind) (_ : True) := Reads.u8.bind
    (fun asset : AssetDefinition => UInt8.ofNat (utf8 asset.ticker).length)
    (fun (length : UInt8) _ => Reads.guarded (badLength length)
      (fun (_ : ¬refused length) => reads_readTicker badText badAsset id kind length.toNat))
    (by
      intro length asset isValid
      rw [isValid.2.1, UInt8.ofNat_toNat])
  have whole := kinds.bind AssetDefinition.kind tickers (by
    intro kind asset isValid
    exact isValid.2.2.2.2.1)
  rw [bind_assoc] at whole
  refine whole.congr ?_ (fun _ _ => rfl)
  intro asset
  constructor
  · intro isValid
    rcases isValid with ⟨_, _, _, _, isId, _, built⟩
    exact ⟨isId, built⟩
  · intro isValid
    have size := ticker_of_built isValid.2
    have exactSize : (UInt8.ofNat (utf8 asset.ticker).length).toNat = (utf8 asset.ticker).length :=
      UInt8.toNat_ofNat_of_lt' (Nat.lt_of_le_of_lt size.2 (by decide))
    have accepted := accepts (UInt8.ofNat (utf8 asset.ticker).length)
      (exactSize.symm ▸ size.1) (exactSize.symm ▸ size.2)
    exact ⟨trivial, trivial, accepted, exactSize.symm, isValid.1, rfl, isValid.2⟩

end
end Noxis.Codec
