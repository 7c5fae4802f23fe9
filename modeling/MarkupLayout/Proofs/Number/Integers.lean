import Mathlib
import MarkupLayout.Number.Exact

/-!
# Integers among the doubles

The exact form of a double is what its bits unpack to. An integer of at most 53 bits that a double
denotes leads back to that double, except that both zeros denote the same.
-/

namespace MarkupLayout.Number

open Float.Model Float.Model.UnpackedFloat

def Exact.ofUnpacked : UnpackedFloat → Exact
  | .infinity sign => .infinite (sign == .negative)
  | .notANumber => .notANumber
  | .zero sign => .finite (sign == .negative) 0 (-1074)
  | .finite sign significand exponent _ => .finite (sign == .negative) significand exponent

theorem toNat_leading_one (fraction : BitVec 52) : (1#1 ++ fraction).toNat = 2 ^ 52 + fraction.toNat := by
  rw [BitVec.toNat_append, ← Nat.shiftLeft_add_eq_or_of_lt fraction.isLt]
  rfl

theorem Exact.ofFloat_eq (x : Float) : ofFloat x = ofUnpacked x.toModel.unpack := by
  obtain ⟨⟨bits, hValid⟩⟩ := x
  have hExponent : (@unpackExponent .binary64 bits.toBitVec).toNat =
      bits.toNat / 0x10000000000000 % 2048 := by
    rw [unpackExponent_def, BitVec.extractLsb'_toNat, Nat.shiftRight_eq_div_pow]
    rfl
  have hFraction : (@unpackMantissa .binary64 bits.toBitVec).toNat =
      bits.toNat % 0x10000000000000 := by
    rw [unpackMantissa_def, BitVec.extractLsb'_toNat, Nat.shiftRight_zero]
    rfl
  have hSign : (Sign.ofBitVec (@unpackSign .binary64 bits.toBitVec) == .negative) =
      (bits.toNat / 0x8000000000000000 == 1) := by
    have hBit : (@unpackSign .binary64 bits.toBitVec).toNat = bits.toNat / 0x8000000000000000 := by
      rw [unpackSign_def, BitVec.extractLsb'_toNat, Nat.shiftRight_eq_div_pow]
      exact Nat.mod_eq_of_lt (Nat.div_lt_of_lt_mul bits.toNat_lt)
    have hOne (bit : BitVec 1) : (Sign.ofBitVec bit == .negative) = (bit.toNat == 1) := by
      decide +revert
    rw [← hBit, hOne]
  have hTop (biased : BitVec 11) : biased.toNat = 2047 ↔ biased = -1#11 := by
    rw [← BitVec.toNat_inj]
    rfl
  have hZero {width : Nat} (digits : BitVec width) : digits.toNat = 0 ↔ digits = BitVec.ofNat width 0 := by
    rw [← BitVec.toNat_inj, BitVec.toNat_zero]
  have hBits : (Float.ofModel ⟨bits, hValid⟩).toBits = bits := rfl
  have hUnpacked : (Float.ofModel ⟨bits, hValid⟩).toModel.unpack =
    UnpackedFloat.unpack .binary64 bits.toBitVec := rfl
  rw [hUnpacked, UnpackedFloat.unpack]
  simp only [ofFloat, hBits, ← hExponent, ← hFraction, ← hSign, hTop, hZero]
  split
  · split <;> rfl
  · split
    · next hLeast =>
      split
      · next hNone =>
        rw [hNone]
        rfl
      · rw [hLeast]
        rfl
    · rw [ofUnpacked, toNat_leading_one]
      rfl

theorem Exact.shape_of_ofFloat {x : Float} {negative : Bool} {significand : Nat} {exponent : Int}
    (h : ofFloat x = .finite negative significand exponent) : -1074 ≤ exponent ∧ exponent ≤ 971 ∧
      (significand.log2 = 52 ∨ significand < 2 ^ 52 ∧ exponent = -1074) := by
  have hBiased : x.toBits.toNat / 0x10000000000000 % 2048 < 2048 := Nat.mod_lt _ (by decide)
  have hFraction : x.toBits.toNat % 0x10000000000000 < 2 ^ 52 := Nat.mod_lt _ (by decide)
  rw [ofFloat] at h
  split at h
  · split at h <;> cases h
  · split at h
    · cases h
      exact ⟨by decide, by decide, Or.inr ⟨hFraction, rfl⟩⟩
    · cases h
      refine ⟨by omega, by omega, Or.inl ?_⟩
      exact (Nat.log2_eq_iff (by omega)).mpr ⟨by omega, by omega⟩

theorem Exact.shape_of_unpack {x : Float} {sign : Sign} {significand : Nat} {exponent : Int}
    {hPos : 0 < significand} (h : x.toModel.unpack = .finite sign significand exponent hPos) :
    -1074 ≤ exponent ∧ exponent ≤ 971 ∧
      (significand.log2 = 52 ∨ significand < 2 ^ 52 ∧ exponent = -1074) := by
  have hExact : ofFloat x = .finite (sign == .negative) significand exponent := by
    rw [ofFloat_eq, h, ofUnpacked]
  exact shape_of_ofFloat hExact

theorem log2_mul_two_pow {n : Nat} (h : n ≠ 0) (shift : Nat) : (n * 2 ^ shift).log2 = n.log2 + shift := by
  obtain ⟨hLower, hUpper⟩ := (Nat.log2_eq_iff h).mp rfl
  have hPower : 0 < 2 ^ shift := Nat.two_pow_pos shift
  refine (Nat.log2_eq_iff (Nat.mul_ne_zero h hPower.ne')).mpr ⟨?_, ?_⟩
  · rw [Nat.pow_add]
    exact Nat.mul_le_mul_right _ hLower
  · rw [Nat.add_right_comm, Nat.pow_add]
    exact Nat.mul_lt_mul_of_pos_right hUpper hPower

theorem log2_add_of_log2_mul {n shift bits : Nat} (hPos : 0 < n * 2 ^ shift)
    (hLog : (n * 2 ^ shift).log2 = bits) : n.log2 + shift = bits := by
  rw [← log2_mul_two_pow (Nat.pos_of_mul_pos_right hPos).ne', hLog]

theorem targetExponent_eq (significand : Nat) (exponent : Int) :
    Format.binary64.targetExponent (totalExponent significand exponent) =
      max (exponent + significand.log2 - 52) (-1074) := by
  have hBits : Format.binary64.mantissaBits = 53 := rfl
  have hMin : Format.binary64.minExponent = -1074 := rfl
  rw [Format.targetExponent, totalExponent, hBits, hMin]
  omega

theorem shiftRight_mul_two_pow (significand shift : Nat) :
    (⟨significand * 2 ^ shift, false, false⟩ : ExtendedMantissa) >>> shift = ⟨significand, false, false⟩ := by
  change shift.repeat ExtendedMantissa.shiftRightOne _ = _
  induction shift generalizing significand with
  | zero => rw [Nat.pow_zero, Nat.mul_one, Nat.repeat]
  | succ shift ih =>
    rw [Nat.repeat, Nat.pow_succ', ← Nat.mul_assoc, ih]
    simp [ExtendedMantissa.shiftRightOne]

section Normal

variable {significand : Nat} {exponent : Int} (hPos : 0 < significand) (hLog : significand.log2 = 52)
  (hLeast : -1074 ≤ exponent)

include hPos hLog hLeast

theorem shiftToTargetExponent_exact (shift : Nat) :
    shiftToTargetExponent .binary64 (significand * 2 ^ shift) (exponent - shift) .exact =
      (⟨significand, false, false⟩, exponent) := by
  have hTarget : Format.binary64.targetExponent
      (totalExponent (significand * 2 ^ shift) (exponent - shift)) = exponent := by
    rw [targetExponent_eq, log2_mul_two_pow hPos.ne', hLog]
    omega
  have hShift : (exponent - (exponent - shift)).toNat = shift := by omega
  rw [shiftToTargetExponent, hTarget, shiftToExponent, hShift, ExtendedMantissa.ofMantissaAndAccuracy,
    shiftRight_mul_two_pow, Int.sub_add_cancel]

theorem roundWithAccuracy_exact (sign : Sign) (shift : Nat) :
    roundWithAccuracy .binary64 sign (significand * 2 ^ shift) (exponent - shift) .exact =
      .finite sign significand exponent hPos := by
  have hAgain := shiftToTargetExponent_exact hPos hLog hLeast 0
  rw [Nat.pow_zero, Nat.mul_one, Int.natCast_zero, Int.sub_zero] at hAgain
  rw [roundWithAccuracy, shiftToTargetExponent_exact hPos hLog hLeast]
  have hRounded : ExtendedMantissa.roundedMantissa ⟨significand, false, false⟩ = significand := rfl
  simp only [hRounded, hAgain, hPos.ne', dif_neg, not_false_eq_true]

theorem unpack_pack (sign : Sign) (hMost : exponent ≤ 971) :
    (Float.Model.pack (.finite sign significand exponent hPos)).unpack =
      .finite sign significand exponent hPos := by
  obtain ⟨hLower, hUpper⟩ := (Nat.log2_eq_iff hPos.ne').mp hLog
  obtain ⟨biased, hBiased⟩ : ∃ biased : Nat, exponent = biased - 1075 := ⟨(exponent + 1075).toNat, by omega⟩
  have hPack : UnpackedFloat.pack .binary64 (.finite sign significand exponent hPos) =
      packComponents .binary64 sign (BitVec.ofNat 11 biased) (BitVec.ofNat 52 significand) := by
    have hSum : (exponent + Format.binary64.exponentBias + Format.binary64.mantissaBitsWithoutImplicit).toNat =
        biased := by
      change (exponent + (1023 : Nat) + (52 : Nat)).toNat = biased
      omega
    rw [UnpackedFloat.pack]
    simp only [hSum, hLog]
    rw [if_neg (by omega)]
    exact if_pos rfl
  have hNat : (BitVec.ofNat 11 biased).toNat = biased := Nat.mod_eq_of_lt (by omega)
  have hTop : BitVec.ofNat 11 biased ≠ -1#11 := by
    intro h
    have hAll : biased = 2047 := hNat.symm.trans (congrArg BitVec.toNat h)
    omega
  have hZero : BitVec.ofNat 11 biased ≠ 0#11 := by
    intro h
    have hNone : biased = 0 := hNat.symm.trans (congrArg BitVec.toNat h)
    omega
  have hSignificand : (1#1 ++ BitVec.ofNat 52 significand).toNat = significand := by
    rw [toNat_leading_one, BitVec.toNat_ofNat]
    omega
  have hExponent : ((BitVec.ofNat 11 biased).toNat : Int) - ((1023 : Nat) + (52 : Nat)) = exponent := by
    rw [hNat]
    omega
  change UnpackedFloat.unpack .binary64 (UnpackedFloat.pack .binary64 _) = _
  rw [hPack, UnpackedFloat.unpack]
  simp only [unpackMantissa_packComponents, unpackExponent_packComponents, unpackSign_packComponents,
    Sign.ofBitVec_toBitVec, if_neg hTop, if_neg hZero, UnpackedFloat.finite.injEq, true_and]
  exact ⟨hSignificand, hExponent⟩

end Normal

theorem round_exact (sign : Sign) {n shift : Nat} (hPos : 0 < n * 2 ^ shift)
    (hLog : (n * 2 ^ shift).log2 = 52) :
    UnpackedFloat.round .binary64 sign n 0 = .finite sign (n * 2 ^ shift) (-shift) hPos := by
  have hSum := log2_add_of_log2_mul hPos hLog
  have hTarget : Format.binary64.targetExponent (totalExponent n 0) = -shift := by
    rw [targetExponent_eq]
    omega
  have hExact := roundWithAccuracy_exact hPos hLog (by omega : -1074 ≤ -(shift : Int)) sign 0
  rw [Nat.pow_zero, Nat.mul_one, Int.natCast_zero, Int.sub_zero] at hExact
  rw [UnpackedFloat.round, hTarget]
  simp only [decreaseExponent, Int.zero_sub, Int.neg_neg, Int.toNat_natCast, Nat.shiftLeft_eq, hExact]

theorem unpack_toFloat {n shift : Nat} (hPos : 0 < n * 2 ^ shift) (hLog : (n * 2 ^ shift).log2 = 52) :
    n.toUInt64.toFloat.toModel.unpack = .finite .positive (n * 2 ^ shift) (-shift) hPos := by
  have hSum := log2_add_of_log2_mul hPos hLog
  have hSome : 0 < n := Nat.pos_of_mul_pos_right hPos
  have hNat : n.toUInt64.toNat = n := by
    have hSmall : n < 2 ^ 53 := (Nat.log2_lt hSome.ne').mp (by omega)
    exact Nat.mod_eq_of_lt (by omega)
  have hRound : UnpackedFloat.ofUInt64 .binary64 n.toUInt64 =
      .finite .positive (n * 2 ^ shift) (-shift) hPos := by
    rw [UnpackedFloat.ofUInt64, UnpackedFloat.ofNat, UnpackedFloat.ofInt, UnpackedFloat.normalize, hNat,
      Int.compare_eq_gt.mpr (Int.natCast_pos.mpr hSome)]
    exact round_exact .positive hPos hLog
  change (Float.Model.pack (UnpackedFloat.ofUInt64 .binary64 n.toUInt64)).unpack = _
  rw [hRound]
  exact unpack_pack hPos hLog (by omega) .positive (by omega)

theorem unpack_ofNat {n shift : Nat} (hPos : 0 < n * 2 ^ shift) (hLog : (n * 2 ^ shift).log2 = 52) :
    (Float.ofNat n).toModel.unpack = .finite .positive (n * 2 ^ shift) (-shift) hPos := by
  have hSum := log2_add_of_log2_mul hPos hLog
  have hSmall : n < 2 ^ 53 := (Nat.log2_lt (Nat.pos_of_mul_pos_right hPos).ne').mp (by omega)
  have hFast : Float.ofNat n = n.toUInt64.toFloat * Float.ofBits 0x3FF0000000000000 := by
    change Float.ofScientific n false 0 = _
    rw [Float.ofScientific, dif_pos ⟨hSmall, by decide⟩]
    rfl
  have hOne : (Float.ofBits 0x3FF0000000000000).toModel.unpack =
      .finite .positive (2 ^ 52) (-52) (by decide) := by
    rfl
  have hExact := roundWithAccuracy_exact hPos hLog (by omega : -1074 ≤ -(shift : Int)) .positive 52
  rw [hFast]
  change (Float.Model.pack (UnpackedFloat.mul .binary64 n.toUInt64.toFloat.toModel.unpack
    (Float.ofBits 0x3FF0000000000000).toModel.unpack)).unpack = _
  rw [unpack_toFloat hPos hLog, hOne]
  change (Float.Model.pack (roundWithAccuracy .binary64 .positive (n * 2 ^ shift * 2 ^ 52)
    (-shift - (52 : Nat)) .exact)).unpack = _
  rw [hExact]
  exact unpack_pack hPos hLog (by omega) .positive (by omega)

theorem eq_of_unpack_eq {x y : Float} (h : x.toModel.unpack = y.toModel.unpack) : x = y := by
  rw [← Float.toBits_inj, ← UInt64.toBitVec_inj]
  exact (unpack_inj_of_valid x.toModel.valid y.toModel.valid).mp h

/-- Apart from the zeros, a double that denotes an integer is a power of two times a significand, and the
size of the integer is their product. -/
theorem unpack_of_integer? {x : Float} {n : Int} (h : integer? x = some n) :
    (∃ sign, x.toModel.unpack = .zero sign ∧ n = 0) ∨
      ∃ sign significand exponent hPos, ∃ size : Nat,
        x.toModel.unpack = .finite sign significand exponent hPos ∧ n = sign.apply size ∧
          significand * 2 ^ exponent.toNat = size * 2 ^ (-exponent).toNat := by
  have hApply (sign : Sign) (size : Nat) :
      (if sign == .negative then -(size : Int) else size) = sign.apply size := by
    cases sign <;> rfl
  rw [integer?, Exact.ofFloat_eq] at h
  cases hUnpack : x.toModel.unpack with
  | infinity sign =>
    rw [hUnpack] at h
    cases h
  | notANumber =>
    rw [hUnpack] at h
    cases h
  | zero sign =>
    rw [hUnpack] at h
    cases sign <;> exact Or.inl ⟨_, rfl, (Option.some.inj h).symm⟩
  | finite sign significand exponent hPos =>
    refine Or.inr ⟨sign, significand, exponent, hPos, ?_⟩
    rw [hUnpack, Exact.ofUnpacked] at h
    simp only [hApply] at h
    split at h
    · next hWhole =>
      refine ⟨significand <<< exponent.toNat, rfl, (Option.some.inj h).symm, ?_⟩
      rw [Nat.shiftLeft_eq, Int.toNat_of_nonpos (by omega : -exponent ≤ 0), Nat.pow_zero, Nat.mul_one]
    · next hFraction =>
      split at h
      · next hDivides =>
        refine ⟨significand / 1 <<< (-exponent).toNat, rfl, (Option.some.inj h).symm, ?_⟩
        rw [Nat.one_shiftLeft] at hDivides ⊢
        rw [Int.toNat_of_nonpos (by omega : exponent ≤ 0), Nat.pow_zero, Nat.mul_one,
          Nat.div_mul_cancel (Nat.dvd_of_mod_eq_zero hDivides)]
      · cases h

theorem exponent_le_zero {significand size : Nat} {exponent : Int}
    (hNormal : significand.log2 = 52 ∨ significand < 2 ^ 52 ∧ exponent = -1074) (hPos : 0 < significand)
    (hSize : significand * 2 ^ exponent.toNat = size * 2 ^ (-exponent).toNat) (hSmall : size < 2 ^ 53) :
    exponent ≤ 0 := by
  by_contra hAbove
  obtain hLog | ⟨-, hMin⟩ := hNormal
  · obtain ⟨up, hUp⟩ : ∃ up, exponent.toNat = up + 1 := ⟨exponent.toNat - 1, by omega⟩
    have hLower : 2 ^ 52 ≤ significand := hLog ▸ Nat.log2_self_le hPos.ne'
    have hPower : 0 < 2 ^ up := Nat.two_pow_pos up
    have hLarge : 2 ^ 52 * (1 * 2) ≤ significand * (2 ^ up * 2) :=
      Nat.mul_le_mul hLower (Nat.mul_le_mul_right 2 hPower)
    rw [hUp, Int.toNat_of_nonpos (by omega : -exponent ≤ 0), Nat.pow_zero, Nat.mul_one, Nat.pow_succ] at hSize
    omega
  · omega

theorem unpack_of_small_integer {x : Float} {n : Int} (h : integer? x = some n) (hNonzero : n ≠ 0)
    (hSmall : n.natAbs < 2 ^ 53) : ∃ sign shift hPos,
      x.toModel.unpack = .finite sign (n.natAbs * 2 ^ shift) (-(shift : Nat)) hPos ∧
        n = sign.apply n.natAbs ∧ (n.natAbs * 2 ^ shift).log2 = 52 := by
  rcases unpack_of_integer? h with
    ⟨-, -, hZero⟩ | ⟨sign, significand, exponent, hPos, size, hUnpack, hSign, hSize⟩
  · exact absurd hZero hNonzero
  have hAbs : n.natAbs = size := by
    rw [hSign]
    cases sign
    · exact Int.natAbs_neg _
    · rfl
  rw [hAbs] at hSmall ⊢
  have hSome : 0 < size := by omega
  obtain ⟨-, -, hNormal⟩ := Exact.shape_of_unpack hUnpack
  have hExponent := exponent_le_zero hNormal hPos hSize hSmall
  rw [Int.toNat_of_nonpos hExponent, Nat.pow_zero, Nat.mul_one] at hSize
  obtain ⟨shift, rfl⟩ : ∃ shift : Nat, exponent = -shift := ⟨(-exponent).toNat, by omega⟩
  rw [Int.neg_neg, Int.toNat_natCast] at hSize
  subst hSize
  refine ⟨sign, shift, hPos, hUnpack, hSign, hNormal.resolve_right ?_⟩
  rintro ⟨hSubnormal, hMin⟩
  have hShift : 2 ^ 52 ≤ 2 ^ shift := Nat.pow_le_pow_right (by decide) (by omega)
  have hLarge : 1 * 2 ^ 52 ≤ size * 2 ^ shift := Nat.mul_le_mul hSome hShift
  omega

theorem ofInt_eq_of_integer? {x : Float} {n : Int} (h : integer? x = some n) (hNonzero : n ≠ 0)
    (hSmall : n.natAbs < 2 ^ 53) : Float.ofInt n = x := by
  obtain ⟨sign, shift, hPos, hUnpack, hSign, hLog⟩ := unpack_of_small_integer h hNonzero hSmall
  have hNat := unpack_ofNat hPos hLog
  refine eq_of_unpack_eq ?_
  rw [hUnpack]
  cases sign with
  | positive =>
    have hInt : Float.ofInt n = Float.ofNat n.natAbs := by
      conv_lhs => rw [hSign]
      rfl
    rw [hInt, hNat]
  | negative =>
    have hInt : Float.ofInt n = -Float.ofNat n.natAbs := by
      obtain ⟨size, rfl⟩ := Int.eq_negSucc_of_lt_zero (by rw [hSign, Sign.apply]; omega : n < 0)
      rfl
    rw [hInt]
    change (Float.Model.pack (Float.ofNat n.natAbs).toModel.unpack.neg).unpack = _
    rw [hNat]
    have hSum := log2_add_of_log2_mul hPos hLog
    exact unpack_pack hPos hLog (by omega) .negative (by omega)

theorem ofInt_beq_of_integer? {x : Float} {n : Int} (h : integer? x = some n)
    (hSmall : n.natAbs < 2 ^ 53) : Float.ofInt n == x := by
  by_cases hZero : n = 0
  · subst hZero
    rcases unpack_of_integer? h with
      ⟨sign, hUnpack, -⟩ | ⟨sign, significand, exponent, hPos, size, -, hSign, hSize⟩
    · have hNone : (Float.ofInt 0).toModel.unpack = .zero .positive := rfl
      change UnpackedFloat.beq (Float.ofInt 0).toModel.unpack x.toModel.unpack = true
      rw [hNone, hUnpack]
      rfl
    · have hSome : 0 < significand * 2 ^ exponent.toNat := Nat.mul_pos hPos (Nat.two_pow_pos _)
      have hNone : size = 0 := by
        cases sign <;> simp only [Sign.apply] at hSign <;> omega
      rw [hSize, hNone, Nat.zero_mul] at hSome
      exact absurd hSome (Nat.lt_irrefl 0)
  · rw [ofInt_eq_of_integer? h hZero hSmall, Float.beq_self_iff]
    rintro rfl
    cases h

end MarkupLayout.Number
