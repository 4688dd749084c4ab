import Mathlib
import Demarcation.Proofs.ScoreOrder

/-!
The order of floating-point numbers. Each has a sign and a place, and one is below another if its place is
(`lt_iff_placeOf`). Shares and ratios are numbers (`isNaN_share`, `signOf_floatRatio`), and what is no number has no
sign. Two zeros share a place, but a ratio is never the negative one, so ratios of one place are equal
(`floatRatio_eq_of_placeOf_eq`).
-/

namespace Demarcation.FloatOrder

open Float.Model.UnpackedFloat
open Float.Model (Format UnpackedFloat)

section Places

def placeOf : UnpackedFloat → Int ×ₗ Int ×ₗ Int
  | .notANumber | .zero _ => toLex (0, toLex (0, 0))
  | .infinity s => toLex (s.apply 2, toLex (0, 0))
  | .finite s m e _ => toLex (s.apply 1, toLex (s.apply e, s.apply m))

def signOf : UnpackedFloat → Option Sign
  | .notANumber => none
  | .infinity s | .zero s | .finite s _ _ _ => some s

theorem isNaN_eq_false_iff {u : UnpackedFloat} : u.isNaN = false ↔ ∃ s, signOf u = some s := by
  cases u <;> simp [isNaN, signOf]

theorem unpacked_lt_iff (u v : UnpackedFloat) :
    u.lt v = true ↔ u.isNaN = false ∧ v.isNaN = false ∧ placeOf u < placeOf v := by
  rcases u with ⟨_ | _⟩ | _ | ⟨_⟩ | ⟨_ | _, m, e, _⟩ <;> rcases v with ⟨_ | _⟩ | _ | ⟨_⟩ | ⟨_ | _, n, f, _⟩ <;>
    simp [UnpackedFloat.lt, UnpackedFloat.compare, isNaN, placeOf, Sign.apply, Prod.Lex.toLex_lt_toLex,
      Ordering.swap_then, Ordering.then_eq_lt, compare_lt_iff_lt, compare_gt_iff_gt]
  all_goals decide

theorem lt_iff_placeOf {x y : Float} :
    Scalar.lt x y = true ↔
      x.isNaN = false ∧ y.isNaN = false ∧ placeOf x.toModel.unpack < placeOf y.toModel.unpack :=
  (decide_eq_true_iff.trans decide_eq_true_iff).trans (unpacked_lt_iff _ _)

theorem compare_swap (u v : UnpackedFloat) : v.compare u = (u.compare v).map Ordering.swap := by
  rcases u with ⟨_ | _⟩ | _ | ⟨_⟩ | ⟨_ | _, m, e, _⟩ <;> rcases v with ⟨_ | _⟩ | _ | ⟨_⟩ | ⟨_ | _, n, f, _⟩ <;>
    simp [UnpackedFloat.compare, Ordering.swap_then, Int.compare_swap, Nat.compare_swap]
  all_goals rfl

theorem exists_compare_eq {u v : UnpackedFloat} (hu : u.isNaN = false) (hv : v.isNaN = false) :
    ∃ o, u.compare v = some o := by
  rcases u with ⟨_ | _⟩ | _ | ⟨_⟩ | ⟨_ | _, m, e, _⟩ <;> rcases v with ⟨_ | _⟩ | _ | ⟨_⟩ | ⟨_ | _, n, f, _⟩ <;>
    simp_all [UnpackedFloat.compare, isNaN]

theorem le_of_not_lt {x y : Float} (hx : x.isNaN = false) (hy : y.isNaN = false) (h : Scalar.lt x y = false) : y ≤ x := by
  obtain ⟨o, ho⟩ := exists_compare_eq hx hy
  have hnot : x.toModel.unpack.lt y.toModel.unpack = false := by
    rw [← Bool.not_eq_true] at h ⊢
    exact fun hlt => h (decide_eq_true (decide_eq_true hlt))
  have hle : y.toModel.unpack.le x.toModel.unpack = true := by
    rw [UnpackedFloat.le, compare_swap x.toModel.unpack, ho]
    rw [UnpackedFloat.lt, ho] at hnot
    cases o <;> first | rfl | cases hnot
  exact decide_eq_true hle

theorem eq_of_placeOf_eq {u v : UnpackedFloat} (hu : signOf u = some .positive) (hv : signOf v = some .positive)
    (h : placeOf u = placeOf v) : u = v := by
  cases u <;> cases v <;> simp_all [signOf, placeOf, Sign.apply]

end Places

section Fields

variable {b c : BitVec Format.binary64.numBits}

theorem eq_of_fields (hs : unpackSign b = unpackSign c) (he : unpackExponent b = unpackExponent c)
    (hm : unpackMantissa b = unpackMantissa c) : b = c := by
  apply BitVec.eq_of_getLsbD_eq
  intro i hi
  have hbits : Format.binary64.numBits = 64 := rfl
  rcases Nat.lt_or_ge i 52 with hlow | hlow
  · have hbit := congrArg (BitVec.getLsbD · i) hm
    simpa [unpackMantissa, Format.binary64, hlow] using hbit
  · rcases Nat.lt_or_ge i 63 with hmid | hmid
    · have hbit := congrArg (BitVec.getLsbD · (i - 52)) he
      have hlt : i - 52 < 11 := by omega
      have hsum : 52 + (i - 52) = i := by omega
      simpa [unpackExponent, Format.binary64, hlt, hsum] using hbit
    · have hbit := congrArg (BitVec.getLsbD · 0) hs
      obtain rfl : i = 63 := by omega
      simpa [unpackSign, Format.binary64] using hbit

theorem ofBitVec_injective {v w : BitVec 1} (h : Sign.ofBitVec v = Sign.ofBitVec w) : v = w := by
  have hinv : ∀ v : BitVec 1, (Sign.ofBitVec v).toBitVec = v := by decide
  rw [← hinv v, h, hinv]

theorem mantissa_lt (b : BitVec Format.binary64.numBits) : (unpackMantissa b).toNat < 2 ^ 52 :=
  (unpackMantissa b).isLt

inductive Decodes (b : BitVec Format.binary64.numBits) : UnpackedFloat → Prop
  | infinity {s : Sign} (hs : .ofBitVec (unpackSign b) = s) (he : unpackExponent b = -1#11)
      (hm : unpackMantissa b = 0#52) : Decodes b (.infinity s)
  | notANumber (he : unpackExponent b = -1#11) (hm : unpackMantissa b ≠ 0#52) : Decodes b .notANumber
  | zero {s : Sign} (hs : .ofBitVec (unpackSign b) = s) (he : unpackExponent b = 0#11)
      (hm : unpackMantissa b = 0#52) : Decodes b (.zero s)
  | subnormal {s : Sign} {m : Nat} {h : 0 < m} (hs : .ofBitVec (unpackSign b) = s) (he : unpackExponent b = 0#11)
      (hm : (unpackMantissa b).toNat = m) : Decodes b (.finite s m (-1074) h)
  | normal {s : Sign} {m : Nat} {e : Int} {h : 0 < m} (hs : .ofBitVec (unpackSign b) = s)
      (he : (unpackExponent b).toNat = e + 1075) (hm : 2 ^ 52 + (unpackMantissa b).toNat = m) :
      Decodes b (.finite s m e h)

theorem decodes_unpack (b : BitVec Format.binary64.numBits) : Decodes b (unpack .binary64 b) := by
  rw [unpack]
  dsimp only
  split
  · rename_i he
    split
    · exact .infinity rfl he ‹_›
    · exact .notANumber he ‹_›
  · split
    · rename_i he
      split
      · exact .zero rfl he ‹_›
      · rw [he]
        exact .subnormal rfl he rfl
    · refine .normal rfl ?_ ?_
      · have hbias : (Format.binary64.exponentBias : Int) = 1023 := rfl
        have hbits : (Format.binary64.mantissaBitsWithoutImplicit : Int) = 52 := rfl
        omega
      · rw [BitVec.toNat_append, ← Nat.shiftLeft_add_eq_or_of_lt (mantissa_lt b)]
        rfl

theorem Decodes.eq {u : UnpackedFloat} (hb : Decodes b u) (hc : Decodes c u) (hvb : Format.binary64.Valid b)
    (hvc : Format.binary64.Valid c) : b = c := by
  cases hb with
  | infinity hs he hm =>
    cases hc with
    | infinity hs' he' hm' =>
      exact eq_of_fields (ofBitVec_injective (hs.trans hs'.symm)) (he.trans he'.symm) (hm.trans hm'.symm)
  | notANumber he hm =>
    cases hc with
    | notANumber he' hm' => exact (hvb.eq_packedNaN he hm).trans (hvc.eq_packedNaN he' hm').symm
  | zero hs he hm =>
    cases hc with
    | zero hs' he' hm' =>
      exact eq_of_fields (ofBitVec_injective (hs.trans hs'.symm)) (he.trans he'.symm) (hm.trans hm'.symm)
  | subnormal hs he hm =>
    cases hc with
    | subnormal hs' he' hm' =>
      apply eq_of_fields (ofBitVec_injective (hs.trans hs'.symm)) (he.trans he'.symm)
      exact BitVec.eq_of_toNat_eq (hm.trans hm'.symm)
    | normal hs' he' hm' =>
      have hlt := mantissa_lt b
      omega
  | normal hs he hm =>
    cases hc with
    | subnormal hs' he' hm' =>
      have hlt := mantissa_lt c
      omega
    | normal hs' he' hm' =>
      apply eq_of_fields (ofBitVec_injective (hs.trans hs'.symm))
      · apply BitVec.eq_of_toNat_eq
        omega
      · apply BitVec.eq_of_toNat_eq
        omega

theorem unpack_injective {x y : Float} (h : x.toModel.unpack = y.toModel.unpack) : x = y := by
  obtain ⟨⟨⟨b⟩, hb⟩⟩ := x
  obtain ⟨⟨⟨c⟩, hc⟩⟩ := y
  have hc' : Decodes c (unpack .binary64 b) := by
    rw [show unpack .binary64 b = unpack .binary64 c from h]
    exact decodes_unpack c
  obtain rfl : b = c := (decodes_unpack b).eq hc' hb hc
  rfl

end Fields

section Signs

variable {u : UnpackedFloat} {s t : Sign}

theorem signOf_unpack_packComponents (s : Sign) {e : BitVec 11} {m : BitVec 52} (h : e = -1#11 → m = 0#52) :
    signOf (unpack .binary64 (packComponents .binary64 s e m)) = some s := by
  have hs : Sign.ofBitVec (unpackSign (packComponents .binary64 s e m)) = s := by
    simp only [unpackSign, packComponents, BitVec.extractLsb]
    rw [BitVec.extractLsb'_append_eq_of_le (by omega), BitVec.extractLsb'_append_eq_of_le (by omega)]
    cases s <;> rfl
  rw [unpack]
  simp only [unpackMantissa_packComponents, unpackExponent_packComponents, hs]
  split
  · rename_i he
    rw [if_pos (h he)]
    rfl
  · split
    · split <;> rfl
    · rfl

theorem signOf_unpack_pack (u : UnpackedFloat) : signOf (Float.Model.pack u).unpack = signOf u := by
  change signOf (unpack .binary64 (pack .binary64 u)) = signOf u
  cases u with
  | notANumber => rfl
  | infinity s => exact signOf_unpack_packComponents s fun _ => rfl
  | zero s => exact signOf_unpack_packComponents s fun _ => rfl
  | finite s m e hm =>
    rw [pack]
    dsimp only
    split
    · exact signOf_unpack_packComponents s fun _ => rfl
    · rename_i hfits
      split
      · apply signOf_unpack_packComponents
        intro h
        have hfield := congrArg BitVec.toNat h
        rw [BitVec.toNat_ofNat] at hfield
        change _ % 2048 = 2047 at hfield
        change ¬ 2048 ≤ _ + 1 at hfits
        omega
      · apply signOf_unpack_packComponents
        intro h
        exact absurd h (by decide)

theorem isNaN_pack (h : signOf u = some s) : (⟨.pack u⟩ : Float).isNaN = false :=
  isNaN_eq_false_iff.2 ⟨s, (signOf_unpack_pack u).trans h⟩

theorem signOf_roundWithAccuracy (spec : Format) (s : Sign) (m : Nat) (e : Int) (a : Accuracy) :
    signOf (roundWithAccuracy spec s m e a) = some s := by
  rw [roundWithAccuracy]
  dsimp only
  split <;> rfl

theorem signOf_div_finite (spec : Format) {n : Nat} {f : Int} (hn : 0 < n) (hu : signOf u = some s) :
    signOf (.div spec u (.finite t n f hn)) = some (s / t) := by
  cases u with
  | notANumber => cases hu
  | infinity r =>
    cases hu
    rfl
  | zero r =>
    cases hu
    rfl
  | finite r m e hm =>
    cases hu
    exact signOf_roundWithAccuracy ..

theorem signOf_ofScientific (spec : Format) (m : Nat) (e : Int) :
    signOf (.ofScientific spec m e) = some .positive := by
  rw [UnpackedFloat.ofScientific]
  split
  · rfl
  · split
    · rfl
    · split
      · rfl
      · split
        · exact signOf_roundWithAccuracy ..
        · exact signOf_roundWithAccuracy ..

theorem exists_signOf_ofNat (spec : Format) (n : Nat) : ∃ s, signOf (.ofNat spec n) = some s := by
  rw [UnpackedFloat.ofNat, UnpackedFloat.ofInt, UnpackedFloat.normalize]
  split
  · exact ⟨_, signOf_roundWithAccuracy ..⟩
  · exact ⟨_, rfl⟩
  · exact ⟨_, signOf_roundWithAccuracy ..⟩

end Signs

section Ratios

theorem signOf_floatRatio (m n : Nat) : signOf (floatRatio m n).toModel.unpack = some .positive := by
  rw [floatRatio, signOf_unpack_pack]
  split
  · exact signOf_roundWithAccuracy ..
  · rfl

theorem floatRatio_eq_of_placeOf_eq {m n m' n' : Nat}
    (h : placeOf (floatRatio m n).toModel.unpack = placeOf (floatRatio m' n').toModel.unpack) :
    floatRatio m n = floatRatio m' n' :=
  unpack_injective (eq_of_placeOf_eq (signOf_floatRatio m n) (signOf_floatRatio m' n') h)

end Ratios

section Shares

theorem isNaN_millionths (m : Nat) : (Float.ofScientific m true 6).isNaN = false := by
  rw [Float.ofScientific]
  split
  · -- The divisor is the entry for the sixth power of ten.
    obtain ⟨n, f, hn, hden⟩ : ∃ n f hn,
        Float.exactlyRepresentablePowersOfTen[6].toModel.unpack = .finite .positive n f hn := ⟨_, _, _, rfl⟩
    obtain ⟨s, hs⟩ := exists_signOf_ofNat .binary64 m.toUInt64.toNat
    apply isNaN_pack
    rw [hden]
    exact signOf_div_finite _ hn ((signOf_unpack_pack _).trans hs)
  · exact isNaN_pack (signOf_ofScientific ..)

theorem isNaN_neg {x : Float} (h : x.isNaN = false) : (-x).isNaN = false := by
  obtain ⟨s, hs⟩ := isNaN_eq_false_iff.1 h
  have hneg : signOf x.toModel.unpack.neg = some (-s) := by
    generalize x.toModel.unpack = u at hs
    cases u with
    | notANumber => cases hs
    | infinity | zero | finite =>
      cases hs
      rfl
  exact isNaN_pack hneg

theorem isNaN_roundFloat {x : Float} (h : x.isNaN = false) : (Decimal.roundFloat 6 x).isNaN = false := by
  rw [Decimal.roundFloat]
  split
  · exact h
  · dsimp only
    split
    · exact isNaN_neg (isNaN_millionths _)
    · exact isNaN_millionths _

theorem isNaN_clamp (x : Float) : (Scalar.clamp x).isNaN = false := by
  rw [Scalar.clamp, Scalar.max]
  split
  · rename_i h
    exact (lt_iff_placeOf.1 h).2.1
  · rfl

theorem isNaN_share (x : Float) : (Scalar.share x).isNaN = false := isNaN_roundFloat (isNaN_clamp x)

end Shares

instance : LawfulScalar Float where
  Place := Int ×ₗ Int ×ₗ Int
  IsNumber x := x.isNaN = false
  place x := placeOf x.toModel.unpack
  lt_iff := lt_iff_placeOf
  isNumber_share := isNaN_share
  isNumber_ratio m n := isNaN_eq_false_iff.2 ⟨_, signOf_floatRatio m n⟩
  ratio_eq_of_place_eq := floatRatio_eq_of_placeOf_eq
  share_one := by decide +kernel

end Demarcation.FloatOrder
