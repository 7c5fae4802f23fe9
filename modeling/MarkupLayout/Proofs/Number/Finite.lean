import MarkupLayout.Proofs.Number.Integers

/-!
# Finite doubles

A rounded value is finite if its leading bit is below the greatest one of the doubles. So is every
integer of 64 bits, the negative of a finite double, its product with another one unless that
overflows, and its quotient by a power of ten.
-/

namespace MarkupLayout.Number

open Float.Model Float.Model.UnpackedFloat

theorem isFinite_unpack_packComponents (sign : Sign) {biased : BitVec 11} (h : biased ≠ -1#11)
    (fraction : BitVec 52) :
    (UnpackedFloat.unpack .binary64 (packComponents .binary64 sign biased fraction)).isFinite := by
  rw [UnpackedFloat.unpack]
  simp only [unpackMantissa_packComponents, unpackExponent_packComponents, if_neg h]
  split
  · split <;> rfl
  · rfl

theorem isFinite_pack_zero (sign : Sign) : (Float.Model.pack (.zero sign)).unpack.isFinite := by
  cases sign <;> rfl

theorem isFinite_pack (sign : Sign) {significand : Nat} {exponent : Int} (hPos : 0 < significand)
    (hMost : exponent ≤ 971) :
    (Float.Model.pack (.finite sign significand exponent hPos)).unpack.isFinite := by
  obtain ⟨biased, hSum, hBiased⟩ : ∃ biased, (exponent + Format.binary64.exponentBias +
      Format.binary64.mantissaBitsWithoutImplicit).toNat = biased ∧ biased < 2047 := by
    refine ⟨_, rfl, ?_⟩
    change (exponent + (1023 : Nat) + (52 : Nat)).toNat < 2047
    omega
  change (UnpackedFloat.unpack .binary64 (UnpackedFloat.pack .binary64 _)).isFinite = true
  rw [UnpackedFloat.pack]
  simp only [hSum]
  rw [if_neg (by omega)]
  split
  · refine isFinite_unpack_packComponents sign ?_ _
    intro h
    have hNat : (BitVec.ofNat 11 biased).toNat = biased := Nat.mod_eq_of_lt (by omega)
    exact absurd (hNat.symm.trans (congrArg BitVec.toNat h)) hBiased.ne
  · exact isFinite_unpack_packComponents sign (by decide) _

theorem isInf_pack (sign : Sign) {significand : Nat} {exponent : Int} (hPos : 0 < significand)
    (hMore : 971 < exponent) : (Float.Model.pack (.finite sign significand exponent hPos)).unpack.isInf := by
  change (UnpackedFloat.unpack .binary64 (UnpackedFloat.pack .binary64 _)).isInf = true
  have hBiased : 2 ^ Format.binary64.exponentBits ≤ (exponent + Format.binary64.exponentBias +
      Format.binary64.mantissaBitsWithoutImplicit).toNat + 1 := by
    change 2048 ≤ (exponent + (1023 : Nat) + (52 : Nat)).toNat + 1
    omega
  rw [UnpackedFloat.pack]
  simp only [if_pos hBiased]
  cases sign <;> rfl

theorem mantissa_shiftRight (m : ExtendedMantissa) (shift : Nat) :
    (m >>> shift).mantissa = m.mantissa / 2 ^ shift := by
  change (shift.repeat ExtendedMantissa.shiftRightOne m).mantissa = m.mantissa / 2 ^ shift
  induction shift with
  | zero => exact (Nat.div_one _).symm
  | succ shift ih =>
    rw [Nat.repeat, Nat.pow_succ, ← Nat.div_div_eq_div_mul, ← ih]
    rfl

theorem roundedMantissa_mem (m : ExtendedMantissa) :
    m.mantissa ≤ m.roundedMantissa ∧ m.roundedMantissa ≤ m.mantissa + 1 := by
  obtain ⟨mantissa, roundBit, stickyBit⟩ := m
  cases roundBit <;> cases stickyBit <;>
    simp [ExtendedMantissa.roundedMantissa, ExtendedMantissa.accuracy, Accuracy.roundToNearestEven]
  omega

theorem shiftToTargetExponent_eq (significand : Nat) (exponent : Int) (accuracy : Accuracy) :
    ∃ shift : Nat, (shift : Int) = max 0 (max ((significand.log2 : Int) - 52) (-1074 - exponent)) ∧
      (shiftToTargetExponent .binary64 significand exponent accuracy).1.mantissa = significand / 2 ^ shift ∧
      (shiftToTargetExponent .binary64 significand exponent accuracy).2 = exponent + shift := by
  have hMantissa : (ExtendedMantissa.ofMantissaAndAccuracy significand accuracy).mantissa = significand := by
    rcases accuracy with _ | (_ | _ | _) <;> rfl
  rw [shiftToTargetExponent, shiftToExponent, targetExponent_eq]
  refine ⟨_, ?_, (mantissa_shiftRight _ _).trans (congrArg (· / _) hMantissa), rfl⟩
  omega

theorem div_two_pow_lt {n shift : Nat} (h : n.log2 ≤ shift + 52) : n / 2 ^ shift < 2 ^ 53 := by
  refine Nat.div_lt_of_lt_mul ?_
  rw [← Nat.pow_add]
  exact Nat.lt_log2_self.trans_le (Nat.pow_le_pow_right (by decide) (by omega))

theorem log2_le_of_le_two_pow {n bits : Nat} (h : n ≤ 2 ^ bits) : n.log2 ≤ bits := by
  rw [Nat.log2_eq_log_two]
  exact (Nat.log_mono_right h).trans (Nat.log_pow (by decide) bits).le

/-- A value is rounded to a finite double if it is below half the least power of two beyond them. -/
theorem isFinite_roundWithAccuracy (sign : Sign) {significand : Nat} {exponent : Int} (accuracy : Accuracy)
    (hExponent : exponent ≤ 970) (hSize : exponent + significand.log2 ≤ 1022) :
    (Float.Model.pack (roundWithAccuracy .binary64 sign significand exponent accuracy)).unpack.isFinite := by
  obtain ⟨first, hFirst, hMantissa, hFirstExponent⟩ := shiftToTargetExponent_eq significand exponent accuracy
  rw [roundWithAccuracy]
  generalize shiftToTargetExponent .binary64 significand exponent accuracy = shifted
    at hMantissa hFirstExponent ⊢
  obtain ⟨mantissa, shiftedExponent⟩ := shifted
  obtain ⟨second, hSecond, -, hSecondExponent⟩ :=
    shiftToTargetExponent_eq mantissa.roundedMantissa shiftedExponent .exact
  dsimp only at hMantissa hFirstExponent hSecondExponent ⊢
  split
  · exact isFinite_pack_zero sign
  · refine isFinite_pack sign _ ?_
    have hBits : mantissa.mantissa < 2 ^ 53 := hMantissa ▸ div_two_pow_lt (by omega)
    have hRounded := (roundedMantissa_mem mantissa).2
    have hLog : mantissa.roundedMantissa.log2 ≤ 53 := log2_le_of_le_two_pow (by omega)
    omega

theorem log2_div_two_pow (n shift : Nat) : (n / 2 ^ shift).log2 = n.log2 - shift := by
  rw [Nat.log2_eq_log_two, Nat.log2_eq_log_two, Nat.log_div_base_pow]

theorem roundWithAccuracy_normal (sign : Sign) {significand : Nat} {exponent : Int} (accuracy : Accuracy)
    (hBits : 52 ≤ significand.log2) (hLeast : -1022 ≤ exponent + significand.log2) :
    ∃ rounded place hPos,
      roundWithAccuracy .binary64 sign significand exponent accuracy = .finite sign rounded place hPos ∧
      rounded.log2 = 52 ∧ exponent + significand.log2 ≤ place + 52 ∧
      place + 51 ≤ exponent + significand.log2 := by
  obtain ⟨first, hFirst, hMantissa, hFirstExponent⟩ := shiftToTargetExponent_eq significand exponent accuracy
  rw [roundWithAccuracy]
  generalize shiftToTargetExponent .binary64 significand exponent accuracy = shifted
    at hMantissa hFirstExponent ⊢
  obtain ⟨mantissa, shiftedExponent⟩ := shifted
  obtain ⟨second, hSecond, hFinal, hSecondExponent⟩ :=
    shiftToTargetExponent_eq mantissa.roundedMantissa shiftedExponent .exact
  dsimp only at hMantissa hFirstExponent hFinal hSecondExponent ⊢
  obtain ⟨hLower, hUpper⟩ := roundedMantissa_mem mantissa
  have hLog : mantissa.mantissa.log2 = 52 := by
    rw [hMantissa, log2_div_two_pow]
    omega
  have hLogLower : 52 ≤ mantissa.roundedMantissa.log2 := by
    rw [← hLog, Nat.log2_eq_log_two, Nat.log2_eq_log_two]
    exact Nat.log_mono_right hLower
  have hLogUpper : mantissa.roundedMantissa.log2 ≤ 53 := by
    refine log2_le_of_le_two_pow (hUpper.trans ?_)
    exact Nat.succ_le_of_lt (hMantissa ▸ div_two_pow_lt (by omega))
  have hLogFinal : (mantissa.roundedMantissa / 2 ^ second).log2 = 52 := by
    rw [log2_div_two_pow]
    omega
  rw [hFinal, hSecondExponent]
  have hSome : mantissa.roundedMantissa / 2 ^ second ≠ 0 := by
    intro hNone
    rw [hNone] at hLogFinal
    cases hLogFinal
  refine ⟨_, _, Nat.pos_of_ne_zero hSome, dif_neg hSome, hLogFinal, ?_, ?_⟩ <;> omega

theorem isFinite_ofNat {n : Nat} (h : n < 2 ^ 64) : (Float.ofNat n).isFinite := by
  by_cases hSmall : n < 2 ^ 53
  · rcases Nat.eq_zero_or_pos n with rfl | hPos
    · rfl
    · have hLog : n.log2 ≤ 52 := Nat.le_of_lt_succ ((Nat.log2_lt hPos.ne').mpr hSmall)
      have hFull : (n * 2 ^ (52 - n.log2)).log2 = 52 := by
        rw [log2_mul_two_pow hPos.ne']
        omega
      change (Float.ofNat n).toModel.unpack.isFinite = true
      rw [unpack_ofNat (Nat.mul_pos hPos (Nat.two_pow_pos _)) hFull]
      rfl
  · have hSlow : Float.ofNat n = .ofModel (.ofScientific n 0) := by
      change Float.ofScientific n false 0 = _
      rw [Float.ofScientific, dif_neg (fun hFast => hSmall hFast.1)]
      rfl
    have hLog : (n <<< 53 * 10 ^ 0).log2 ≤ 200 := by
      refine log2_le_of_le_two_pow ?_
      rw [Nat.shiftLeft_eq]
      omega
    have hFinite := isFinite_roundWithAccuracy (.positive * .positive) .exact
      (by decide : (-53 + 0 : Int) ≤ 970) (by omega : -53 + 0 + ((n <<< 53 * 10 ^ 0).log2 : Int) ≤ 1022)
    rw [hSlow]
    change (Float.Model.pack (UnpackedFloat.ofScientific .binary64 n 0)).unpack.isFinite = true
    have hBits : (2 : Int) ^ Format.binary64.exponentBits = 2048 := rfl
    rw [UnpackedFloat.ofScientific, dif_neg (by omega : n ≠ 0), if_neg (by decide), if_neg (by omega),
      if_pos (Int.le_refl 0)]
    exact hFinite

/-- A finite double is a zero or has a leading bit below the greatest one. -/
theorem unpack_of_isFinite {x : Float} (h : x.isFinite) : (∃ sign, x.toModel.unpack = .zero sign) ∨
    ∃ sign significand exponent hPos, x.toModel.unpack = .finite sign significand exponent hPos ∧
      exponent ≤ 971 ∧ significand.log2 ≤ 52 := by
  have hUnpacked : x.toModel.unpack.isFinite = true := h
  cases hUnpack : x.toModel.unpack with
  | infinity sign =>
    rw [hUnpack] at hUnpacked
    cases hUnpacked
  | notANumber =>
    rw [hUnpack] at hUnpacked
    cases hUnpacked
  | zero sign => exact Or.inl ⟨sign, rfl⟩
  | finite sign significand exponent hPos =>
    obtain ⟨-, hMost, hBits⟩ := Exact.shape_of_unpack hUnpack
    refine Or.inr ⟨sign, significand, exponent, hPos, rfl, hMost, ?_⟩
    obtain hLog | ⟨hSubnormal, -⟩ := hBits
    · exact hLog.le
    · exact log2_le_of_le_two_pow hSubnormal.le

theorem isFinite_neg {x : Float} (h : x.isFinite) : (-x).isFinite := by
  change (Float.Model.pack x.toModel.unpack.neg).unpack.isFinite = true
  obtain ⟨sign, hUnpack⟩ | ⟨sign, significand, exponent, hPos, hUnpack, hMost, -⟩ := unpack_of_isFinite h
  · rw [hUnpack]
    cases sign <;> rfl
  · rw [hUnpack]
    exact isFinite_pack _ hPos hMost

theorem isFinite_ofInt {n : Int} (h : n.natAbs < 2 ^ 64) : (Float.ofInt n).isFinite := by
  cases n with
  | ofNat size => exact isFinite_ofNat h
  | negSucc size => exact isFinite_neg (isFinite_ofNat h)

theorem beq_self_of_isFinite {x : Float} (h : x.isFinite) : x == x := by
  rw [Float.beq_self_iff]
  rintro rfl
  cases h

theorem isFinite_pack_of_not_isInf (sign : Sign) {significand : Nat} {exponent : Int} (accuracy : Accuracy)
    (h : (Float.Model.pack
      (roundWithAccuracy .binary64 sign significand exponent accuracy)).unpack.isInf = false) :
    (Float.Model.pack (roundWithAccuracy .binary64 sign significand exponent accuracy)).unpack.isFinite := by
  rw [roundWithAccuracy] at h ⊢
  dsimp only at h ⊢
  split at h
  · next hNone =>
    rw [dif_pos hNone]
    exact isFinite_pack_zero sign
  · next hSome =>
    rw [dif_neg hSome]
    rcases le_or_gt (shiftToTargetExponent .binary64 _ _ .exact).2 971 with hMost | hMore
    · exact isFinite_pack sign _ hMost
    · rw [isInf_pack sign _ hMore] at h
      cases h

theorem isFinite_mul {x y : Float} (hx : x.isFinite) (hy : y.isFinite) (h : (x * y).isInf = false) :
    (x * y).isFinite := by
  change (Float.Model.pack (x.toModel.unpack.mul .binary64 y.toModel.unpack)).unpack.isInf = false at h
  change (Float.Model.pack (x.toModel.unpack.mul .binary64 y.toModel.unpack)).unpack.isFinite = true
  obtain ⟨sign, hUnpack⟩ | ⟨sign, significand, exponent, hPos, hUnpack, -⟩ := unpack_of_isFinite hx <;>
  obtain ⟨sign', hUnpack'⟩ | ⟨sign', significand', exponent', hPos', hUnpack', -⟩ := unpack_of_isFinite hy <;>
  rw [hUnpack, hUnpack'] at h ⊢
  · exact isFinite_pack_zero _
  · exact isFinite_pack_zero _
  · exact isFinite_pack_zero _
  · exact isFinite_pack_of_not_isInf _ _ h

/-- Finite, and at least two in size. -/
def atLeastTwo : UnpackedFloat → Bool
  | .finite _ significand exponent _ => 1 ≤ exponent + significand.log2
  | _ => false

theorem isFinite_of_atLeastTwo {x : Float} (h : atLeastTwo x.toModel.unpack) : x.isFinite := by
  change x.toModel.unpack.isFinite = true
  cases hUnpack : x.toModel.unpack with
  | finite => rfl
  | zero | infinity | notANumber =>
    rw [hUnpack] at h
    cases h

theorem log2_div_le (n : Nat) {divisor : Nat} (h : 0 < divisor) :
    (n / divisor).log2 ≤ n.log2 - divisor.log2 := by
  have hQuotient : n / divisor ≤ n / 2 ^ divisor.log2 :=
    Nat.div_le_div_left (Nat.log2_self_le h.ne') (Nat.two_pow_pos _)
  rw [← log2_div_two_pow, Nat.log2_eq_log_two, Nat.log2_eq_log_two]
  exact Nat.log_mono_right hQuotient

theorem isFinite_div {x y : Float} (hx : x.isFinite) (hy : atLeastTwo y.toModel.unpack) :
    (x / y).isFinite := by
  change (Float.Model.pack (x.toModel.unpack.div .binary64 y.toModel.unpack)).unpack.isFinite = true
  cases hDivisor : y.toModel.unpack with
  | zero | infinity | notANumber =>
    rw [hDivisor] at hy
    cases hy
  | finite sign' significand' exponent' hPos' =>
    rw [hDivisor] at hy
    have hLarge : 1 ≤ exponent' + significand'.log2 := of_decide_eq_true hy
    obtain ⟨sign, hUnpack⟩ | ⟨sign, significand, exponent, hPos, hUnpack, hMost, hBits⟩ :=
      unpack_of_isFinite hx
    · rw [hUnpack]
      exact isFinite_pack_zero _
    · rw [hUnpack]
      obtain ⟨target, hTarget⟩ : ∃ target, min (exponent - exponent') (max (significand.log2 + 1 + exponent -
          (significand'.log2 + 1 + exponent') - 53) (-1074)) = target := ⟨_, rfl⟩
      obtain ⟨shift, hShift⟩ : ∃ shift : Nat, (exponent - exponent' - target).toNat = shift := ⟨_, rfl⟩
      have hCore : divCore .binary64 significand exponent significand' exponent' =
          (significand <<< shift / significand', target,
            accuracyOfFraction (significand <<< shift % significand') significand') := by
        rw [← hShift, ← hTarget]
        rfl
      have hQuotient := log2_div_le (significand <<< shift) hPos'
      rw [Nat.shiftLeft_eq, log2_mul_two_pow hPos.ne'] at hQuotient
      rw [UnpackedFloat.div, hCore]
      refine isFinite_roundWithAccuracy _ _ (by omega) ?_
      rw [Nat.shiftLeft_eq]
      omega

theorem unpack_powerOfTen {power : Nat} (hSlow : 22 < power) (hLess : power < 308) :
    ∃ rounded place hPos, (Float.ofScientific 1 false power).toModel.unpack =
      .finite .positive rounded place hPos ∧ 1 ≤ place + rounded.log2 := by
  have hSome : 10 ^ power ≠ 0 := (Nat.pow_pos (by decide)).ne'
  have hLower : 3 ≤ (10 ^ power).log2 := by
    refine (Nat.le_log2 hSome).mpr ?_
    exact (by decide : 2 ^ 3 ≤ 10 ^ 1).trans (Nat.pow_le_pow_right (by decide) (by omega))
  have hUpper : (10 ^ power).log2 ≤ 1022 := by
    refine log2_le_of_le_two_pow ?_
    exact (Nat.pow_le_pow_right (by decide) (by omega)).trans (by decide +kernel : 10 ^ 307 ≤ 2 ^ 1022)
  have hLog : (1 <<< 53 * 10 ^ power).log2 = (10 ^ power).log2 + 53 := by
    rw [Nat.one_shiftLeft, Nat.mul_comm, log2_mul_two_pow hSome]
  obtain ⟨rounded, place, hPos, hRound, hBits, hBelow, hAbove⟩ :=
    roundWithAccuracy_normal (.positive * .positive) .exact (by omega : 52 ≤ (1 <<< 53 * 10 ^ power).log2)
      (by omega : -1022 ≤ (-53 + 0 : Int) + (1 <<< 53 * 10 ^ power).log2)
  have hPower : Float.ofScientific 1 false power = .ofModel (.ofScientific 1 power) := by
    rw [Float.ofScientific, dif_neg (by omega)]
    rfl
  have hModel : UnpackedFloat.ofScientific .binary64 1 power =
      roundWithAccuracy .binary64 (.positive * .positive) (1 <<< 53 * 10 ^ power) (-53 + 0) .exact := by
    have hExponentBits : (2 : Int) ^ Format.binary64.exponentBits = 2048 := rfl
    rw [UnpackedFloat.ofScientific, dif_neg (by decide), if_neg (by omega), if_neg (by omega),
      if_pos (by omega)]
    rfl
  refine ⟨rounded, place, hPos, ?_, by omega⟩
  rw [hPower]
  change (Float.Model.pack (UnpackedFloat.ofScientific .binary64 1 power)).unpack = _
  rw [hModel, hRound]
  exact unpack_pack hPos hBits (by omega) _ (by omega)

theorem atLeastTwo_powerOfTen {power : Nat} (hFirst : 0 < power) (hLast : power ≤ 308) :
    atLeastTwo (Float.ofScientific 1 false power).toModel.unpack := by
  -- the first powers are exact, and 10 ^ 308 has the leading bit of the greatest double: both are computed
  have hSmall : ∀ power < 22, atLeastTwo (Float.ofScientific 1 false (power + 1)).toModel.unpack := by
    decide +kernel
  have hGreatest : atLeastTwo (Float.ofScientific 1 false 308).toModel.unpack := by
    decide +kernel
  rcases Nat.lt_or_ge 22 power with hSlow | hFast
  · rcases Nat.eq_or_lt_of_le hLast with rfl | hLess
    · exact hGreatest
    · obtain ⟨rounded, place, hPos, hPower, hLarge⟩ := unpack_powerOfTen hSlow hLess
      rw [hPower]
      exact decide_eq_true hLarge
  · obtain ⟨power, rfl⟩ := Nat.exists_eq_succ_of_ne_zero hFirst.ne'
    exact hSmall power (by omega)

theorem isFinite_powerOfTen {power : Nat} (h : power ≤ 308) : (Float.ofScientific 1 false power).isFinite := by
  rcases Nat.eq_zero_or_pos power with rfl | hPos
  · rfl
  · exact isFinite_of_atLeastTwo (atLeastTwo_powerOfTen hPos h)

end MarkupLayout.Number
