import Mathlib
import RadioMesh.Floating.Binary64

/-!
Rounding to binary64. The nearest number to a ratio depends on the ratio alone and not on the fraction that it is given
as, the sign does not change its magnitude, and a number of the format is the nearest to itself.
-/

namespace RadioMesh.Binary64

/-! ### Fractions of one ratio -/

section Ratio
variable {num den num' den' : Nat}

theorem roundDiv_mul (num den : Nat) {c : Nat} (hc : 0 < c) : roundDiv (c * num) (c * den) = roundDiv num den := by
  have hlt : 2 * (c * (num % den)) < c * den ↔ 2 * (num % den) < den := by
    rw [Nat.mul_left_comm]
    exact Nat.mul_lt_mul_left hc
  have heq : 2 * (c * (num % den)) = c * den ↔ 2 * (num % den) = den := by
    rw [Nat.mul_left_comm]
    exact Nat.mul_right_inj (Nat.ne_of_gt hc)
  simp only [roundDiv, Nat.mul_div_mul_left _ _ hc, Nat.mul_mod_mul_left, hlt, heq]

theorem roundDiv_mul_self (n : Nat) {den : Nat} (hden : 0 < den) : roundDiv (n * den) den = n := by
  rw [roundDiv, Nat.mul_mod_left, Nat.mul_div_cancel n hden, if_pos (.inl (by omega))]

theorem roundDiv_congr (h : num * den' = num' * den) (hden : 0 < den) (hden' : 0 < den') :
    roundDiv num den = roundDiv num' den' := by
  rw [← roundDiv_mul num den hden', ← roundDiv_mul num' den' hden, Nat.mul_comm den' num, h, Nat.mul_comm den' den,
    Nat.mul_comm den num']

theorem scale_den_pos (num : Nat) (hden : 0 < den) (e : Int) : 0 < (scale num den e).2 := by
  unfold scale
  split
  · exact hden
  · rw [Nat.shiftLeft_eq]
    exact Nat.mul_pos hden (Nat.two_pow_pos _)

theorem scale_num_eq_zero_iff {e : Int} : (scale num den e).1 = 0 ↔ num = 0 := by
  unfold scale
  split
  · rw [Nat.shiftLeft_eq, Nat.mul_eq_zero, or_iff_left (Nat.ne_of_gt (Nat.two_pow_pos _))]
  · exact Iff.rfl

theorem scale_congr (h : num * den' = num' * den) (e : Int) :
    (scale num den e).1 * (scale num' den' e).2 = (scale num' den' e).1 * (scale num den e).2 := by
  unfold scale
  split
  · rw [Nat.shiftLeft_eq, Nat.shiftLeft_eq, Nat.mul_right_comm, h, Nat.mul_right_comm]
  · rw [Nat.shiftLeft_eq, Nat.shiftLeft_eq, ← Nat.mul_assoc, h, Nat.mul_assoc]

theorem scale_ratio (num den : Nat) (e : Int) :
    ((scale num den e).1 : ℚ) / (scale num den e).2 = (num : ℚ) / den * 2 ^ e := by
  unfold scale
  split
  · next he =>
    obtain ⟨k, rfl⟩ := Int.eq_ofNat_of_zero_le he
    simp only [Nat.shiftLeft_eq, Int.toNat_natCast, Nat.cast_mul, Nat.cast_pow, Nat.cast_ofNat, zpow_natCast]
    ring
  · next he =>
    obtain ⟨k, hk⟩ := Int.eq_ofNat_of_zero_le (show 0 ≤ -e by omega)
    obtain rfl : e = -(k : Int) := by omega
    simp only [Nat.shiftLeft_eq, neg_neg, Int.toNat_natCast, Nat.cast_mul, Nat.cast_pow, Nat.cast_ofNat, zpow_neg,
      zpow_natCast]
    rw [div_mul_eq_div_div, div_eq_mul_inv _ ((2 : ℚ) ^ k)]

theorem le_scale_iff (num : Nat) (hden : 0 < den) (k : Int) :
    (scale num den (-k)).2 ≤ (scale num den (-k)).1 ↔ (2 : ℚ) ^ k ≤ (num : ℚ) / den := by
  have hscaled : (0 : ℚ) < (scale num den (-k)).2 := by exact_mod_cast scale_den_pos num hden (-k)
  have hpow : (0 : ℚ) < 2 ^ k := by positivity
  have hratio : ((scale num den (-k)).1 : ℚ) / (scale num den (-k)).2 = num / den / 2 ^ k := by
    rw [scale_ratio, zpow_neg, div_eq_mul_inv _ ((2 : ℚ) ^ k)]
  rw [← one_le_div₀ hpow, ← hratio, one_le_div₀ hscaled, Nat.cast_le]

/-- The positions of the highest bits bracket a ratio up to a factor of two. -/
theorem ratio_bracket (hnum : 0 < num) (hden : 0 < den) :
    (2 : ℚ) ^ ((num.log2 : Int) - den.log2 - 1) ≤ (num : ℚ) / den ∧
      (num : ℚ) / den < 2 ^ ((num.log2 : Int) - den.log2 + 1) := by
  have hnumLow : (2 : ℚ) ^ num.log2 ≤ num := by exact_mod_cast Nat.log2_self_le (Nat.ne_of_gt hnum)
  have hnumHigh : (num : ℚ) < 2 ^ (num.log2 + 1) := by exact_mod_cast Nat.lt_log2_self
  have hdenLow : (2 : ℚ) ^ den.log2 ≤ den := by exact_mod_cast Nat.log2_self_le (Nat.ne_of_gt hden)
  have hdenHigh : (den : ℚ) < 2 ^ (den.log2 + 1) := by exact_mod_cast Nat.lt_log2_self
  have hpos : (0 : ℚ) < den := by exact_mod_cast hden
  have hlow : (2 : ℚ) ^ ((num.log2 : Int) - den.log2 - 1) * 2 ^ (den.log2 + 1) = 2 ^ num.log2 := by
    rw [← zpow_natCast (2 : ℚ) (den.log2 + 1), ← zpow_add₀ two_ne_zero, ← zpow_natCast]
    congr 1
    omega
  have hhigh : (2 : ℚ) ^ ((num.log2 : Int) - den.log2 + 1) * 2 ^ den.log2 = 2 ^ (num.log2 + 1) := by
    rw [← zpow_natCast (2 : ℚ) den.log2, ← zpow_add₀ two_ne_zero, ← zpow_natCast]
    congr 1
    omega
  constructor
  · rw [le_div_iff₀ hpos]
    calc (2 : ℚ) ^ ((num.log2 : Int) - den.log2 - 1) * den
        ≤ 2 ^ ((num.log2 : Int) - den.log2 - 1) * 2 ^ (den.log2 + 1) := by gcongr
      _ = 2 ^ num.log2 := hlow
      _ ≤ num := hnumLow
  · rw [div_lt_iff₀ hpos]
    calc (num : ℚ) < 2 ^ (num.log2 + 1) := hnumHigh
      _ = 2 ^ ((num.log2 : Int) - den.log2 + 1) * 2 ^ den.log2 := hhigh.symm
      _ ≤ 2 ^ ((num.log2 : Int) - den.log2 + 1) * den := by gcongr

theorem floorLog2_eq_log (hnum : 0 < num) (hden : 0 < den) : floorLog2 num den = Int.log 2 ((num : ℚ) / den) := by
  have hratio : (0 : ℚ) < (num : ℚ) / den := div_pos (by exact_mod_cast hnum) (by exact_mod_cast hden)
  have hle (k : Int) : (2 : ℚ) ^ k ≤ (num : ℚ) / den ↔ k ≤ Int.log 2 ((num : ℚ) / den) :=
    Int.zpow_le_iff_le_log (by decide) hratio
  have hlt (k : Int) : (num : ℚ) / den < 2 ^ k ↔ Int.log 2 ((num : ℚ) / den) < k :=
    Int.lt_zpow_iff_log_lt (by decide) hratio
  obtain ⟨hlow, hhigh⟩ := ratio_bracket hnum hden
  rw [hle] at hlow
  rw [hlt] at hhigh
  simp only [floorLog2, le_scale_iff num hden, hle]
  split
  · omega
  · omega

/-- Equal ratios have the same nearest number. -/
theorem ofRatio_congr (negative : Bool) (h : num * den' = num' * den) (hden : 0 < den) (hden' : 0 < den') :
    ofRatio negative num den = ofRatio negative num' den' := by
  have hzero : num = 0 ↔ num' = 0 := by
    constructor
    · rintro rfl
      exact (Nat.mul_eq_zero.1 (h.symm.trans (Nat.zero_mul den'))).resolve_right (Nat.ne_of_gt hden)
    · rintro rfl
      exact (Nat.mul_eq_zero.1 (h.trans (Nat.zero_mul den))).resolve_right (Nat.ne_of_gt hden')
  by_cases hnum : num = 0
  · rw [ofRatio, ofRatio, if_pos hnum, if_pos (hzero.1 hnum)]
  · have hnum' : num' ≠ 0 := fun h' => hnum (hzero.2 h')
    have hratio : (num : ℚ) / den = num' / den' := by
      rw [div_eq_div_iff (by exact_mod_cast Nat.ne_of_gt hden) (by exact_mod_cast Nat.ne_of_gt hden')]
      exact_mod_cast h
    have hlog : floorLog2 num den = floorLog2 num' den' := by
      rw [floorLog2_eq_log (Nat.pos_of_ne_zero hnum) hden, floorLog2_eq_log (Nat.pos_of_ne_zero hnum') hden', hratio]
    have hround (e : Int) : roundDiv (scale num den e).1 (scale num den e).2 =
        roundDiv (scale num' den' e).1 (scale num' den' e).2 :=
      roundDiv_congr (scale_congr h e) (scale_den_pos num hden e) (scale_den_pos num' hden' e)
    simp only [ofRatio, if_neg hnum, if_neg hnum', hlog, hround]

end Ratio

/-! ### Magnitudes -/

theorem magnitude_lt {n : Nat} (h : n ≤ 2047 * implicitBit) : n < signBit :=
  Nat.lt_of_le_of_lt h (by decide)

theorem ofMagnitude_injective {negative : Bool} {n n' : Nat} (hn : n ≤ 2047 * implicitBit)
    (hn' : n' ≤ 2047 * implicitBit) (h : ofMagnitude negative n = ofMagnitude negative n') : n = n' := by
  have hlt := magnitude_lt hn
  have hlt' := magnitude_lt hn'
  have hbits := congrArg (·.bits.toNat) h
  simp only [ofMagnitude, UInt64.toNat_ofNat', signBit] at hlt hlt' hbits
  cases negative <;> simp only [Bool.false_eq_true, if_false, if_true] at hbits <;> omega

/-- The sign of a ratio is that of the nearest number and does nothing else. -/
theorem exists_ofRatio (num den : Nat) :
    ∃ n ≤ 2047 * implicitBit, ∀ negative, ofRatio negative num den = ofMagnitude negative n := by
  by_cases hnum : num = 0
  · exact ⟨0, Nat.zero_le _, fun negative => if_pos hnum⟩
  · simp only [ofRatio, if_neg hnum]
    split
    · exact ⟨_, Nat.le_refl _, fun _ => rfl⟩
    · next hfinite => exact ⟨_, Nat.le_of_not_le hfinite, fun _ => rfl⟩

/-! ### Numbers of the format -/

/-- A pattern is made up of its fields. -/
theorem ofMagnitude_fields (x : Binary64) :
    ofMagnitude (x.bits.toNat / signBit == 1)
      (x.bits.toNat / implicitBit % 2048 * implicitBit + x.bits.toNat % implicitBit) = x := by
  have hlt := x.bits.toNat_lt
  obtain ⟨bits⟩ := x
  refine congrArg mk (UInt64.toNat_inj.1 ?_)
  dsimp only at hlt ⊢
  rw [UInt64.toNat_ofNat', signBit, implicitBit]
  by_cases hsign : bits.toNat / 0x8000000000000000 = 1
  · rw [if_pos (beq_iff_eq.2 hsign)]
    omega
  · rw [if_neg (beq_iff_eq.not.2 hsign)]
    omega

/-- A finite number by its mantissa and exponent: either the exponent is the least one, or the mantissa is full. -/
theorem of_view_finite {x : Binary64} {negative : Bool} {m : Nat} {e : Int} (h : x.view = .finite negative m e) :
    -1074 ≤ e ∧ e ≤ 971 ∧ m < 2 * implicitBit ∧ (e = -1074 ∨ implicitBit ≤ m) ∧
      x = ofMagnitude negative ((e + 1074).toNat * implicitBit + m) := by
  have hfields := x.ofMagnitude_fields
  have hfield : x.bits.toNat / implicitBit % 2048 < 2048 := Nat.mod_lt _ (by decide)
  have hfraction : x.bits.toNat % implicitBit < implicitBit := Nat.mod_lt _ (by decide)
  unfold view at h
  dsimp only at h
  generalize x.bits.toNat / implicitBit % 2048 = field at h hfields hfield
  generalize x.bits.toNat % implicitBit = fraction at h hfields hfraction
  generalize (x.bits.toNat / signBit == 1) = sign at h hfields
  split at h
  · split at h <;> cases h
  · next hnotMax =>
    split at h
    · next hzero =>
      cases h
      refine ⟨by omega, by omega, by omega, .inl rfl, ?_⟩
      rw [← hfields, hzero]
      rfl
    · next hnotZero =>
      cases h
      have hmagnitude : ((field : Int) - 1075 + 1074).toNat * implicitBit + (fraction + implicitBit) =
          field * implicitBit + fraction := by
        obtain ⟨k, rfl⟩ := Nat.exists_eq_succ_of_ne_zero hnotZero
        rw [show (((k + 1 : Nat) : Int) - 1075 + 1074).toNat = k by omega, Nat.succ_mul]
        omega
      refine ⟨by omega, by omega, by omega, .inr (Nat.le_add_left _ _), ?_⟩
      rw [hmagnitude, hfields]

theorem of_view_infinite {x : Binary64} {negative : Bool} (h : x.view = .infinite negative) :
    x = infinity negative := by
  have hfields := x.ofMagnitude_fields
  unfold view at h
  dsimp only at h
  generalize x.bits.toNat / implicitBit % 2048 = field at h hfields
  generalize x.bits.toNat % implicitBit = fraction at h hfields
  generalize (x.bits.toNat / signBit == 1) = sign at h hfields
  split at h
  · next hmax =>
    split at h
    · next hzero =>
      cases h
      rw [← hfields, hmax, hzero]
      rfl
    · cases h
  · split at h <;> cases h

theorem floorLog2_scale {m : Nat} (hm : m ≠ 0) (e : Int) :
    floorLog2 (scale m 1 e).1 (scale m 1 e).2 = m.log2 + e := by
  have hpow : (0 : ℚ) < 2 ^ e := by positivity
  have hpos : (0 : ℚ) < m := by exact_mod_cast Nat.pos_of_ne_zero hm
  have hden : 0 < (scale m 1 e).2 := scale_den_pos m Nat.one_pos e
  have hratio : ((scale m 1 e).1 : ℚ) / (scale m 1 e).2 = m * 2 ^ e := by
    rw [scale_ratio, Nat.cast_one, div_one]
  have hnum : 0 < (scale m 1 e).1 := Nat.pos_of_ne_zero (scale_num_eq_zero_iff.not.2 hm)
  have hlow : (2 : ℚ) ^ ((m.log2 : Int) + e) ≤ m * 2 ^ e := by
    rw [zpow_add₀ two_ne_zero, zpow_natCast]
    have hself : (2 : ℚ) ^ m.log2 ≤ m := by exact_mod_cast Nat.log2_self_le hm
    gcongr
  have hhigh : (m : ℚ) * 2 ^ e < 2 ^ ((m.log2 : Int) + e + 1) := by
    rw [add_right_comm, zpow_add₀ two_ne_zero, ← Nat.cast_succ, zpow_natCast]
    have hself : (m : ℚ) < 2 ^ (m.log2 + 1) := by exact_mod_cast Nat.lt_log2_self
    gcongr
  have hge := (Int.zpow_le_iff_le_log (b := 2) (by decide) (mul_pos hpos hpow)).1 hlow
  have hlt := (Int.lt_zpow_iff_log_lt (b := 2) (by decide) (mul_pos hpos hpow)).1 hhigh
  rw [floorLog2_eq_log hnum hden, hratio]
  omega

/-- The exponent at which a number of the format is rounded is its own. -/
theorem exponent_of_view {m : Nat} {e : Int} (hm : m ≠ 0) (hlt : m < 2 * implicitBit) (he : -1074 ≤ e)
    (hfull : e = -1074 ∨ implicitBit ≤ m) :
    max (-1074) (floorLog2 (scale m 1 e).1 (scale m 1 e).2 - 52) = e := by
  have hlog : m.log2 < 53 := (Nat.log2_lt hm).2 hlt
  rw [floorLog2_scale hm]
  rcases hfull with hleast | hfull
  · omega
  · have hlog' : 52 ≤ m.log2 := (Nat.le_log2 hm).2 hfull
    omega

/-- Scaling back and forth multiplies both parts alike. -/
theorem roundDiv_scale_scale (m : Nat) (e : Int) :
    roundDiv (scale (scale m 1 e).1 (scale m 1 e).2 (-e)).1 (scale (scale m 1 e).1 (scale m 1 e).2 (-e)).2 = m := by
  have hden : 0 < (scale m 1 e).2 := scale_den_pos m Nat.one_pos e
  have hden' := scale_den_pos (scale m 1 e).1 hden (-e)
  have hratio : ((scale (scale m 1 e).1 (scale m 1 e).2 (-e)).1 : ℚ) / (scale (scale m 1 e).1 (scale m 1 e).2 (-e)).2 =
      m / 1 := by
    rw [scale_ratio, scale_ratio, Nat.cast_one, mul_assoc, ← zpow_add₀ two_ne_zero, add_neg_cancel, zpow_zero, mul_one]
  rw [div_eq_div_iff (by exact_mod_cast Nat.ne_of_gt hden') one_ne_zero] at hratio
  have hself : roundDiv m 1 = m := by simpa using roundDiv_mul_self m Nat.one_pos
  exact (roundDiv_congr (by exact_mod_cast hratio) hden' Nat.one_pos).trans hself

/-- A number of the format is the nearest to itself. -/
theorem ofScaled_of_view {x : Binary64} {negative : Bool} {m : Nat} {e : Int} (h : x.view = .finite negative m e) :
    ofScaled negative m e = x := by
  obtain ⟨hleast, hmost, hlt, hfull, hx⟩ := of_view_finite h
  have hbound : (e + 1074).toNat ≤ 2045 := by omega
  have hfinite : ¬2047 * implicitBit ≤ (e + 1074).toNat * implicitBit + m := by
    have hmul := Nat.mul_le_mul_right implicitBit hbound
    omega
  by_cases hm : m = 0
  · have he : e = -1074 := hfull.resolve_right (by rw [hm]; decide)
    have hzero : ofScaled negative 0 (-1074) = zero negative := by
      simp only [ofScaled, ofRatio, if_pos (scale_num_eq_zero_iff.2 rfl)]
    rw [hx, he, hm, hzero]
    rfl
  · have hnum : (scale m 1 e).1 ≠ 0 := scale_num_eq_zero_iff.not.2 hm
    simp only [ofScaled, ofRatio, if_neg hnum, exponent_of_view hm hlt hleast hfull, roundDiv_scale_scale,
      if_neg hfinite]
    exact hx.symm

end RadioMesh.Binary64
