import RadioMesh.Floating.Writing
import RadioMesh.Proofs.Floating.Rounding

/-!
Decimals. The number that is read does not depend on how a decimal is spelled out, and what is written in positional
notation is read as digits and exponent.
-/

namespace RadioMesh.Floating

open Binary64

/-! ### Digits -/

theorem digitsValue_eq (cs : List Char) : digitsValue cs = Nat.ofDigitChars 10 cs 0 :=
  Nat.ofDigitChars_eq_foldl.symm

@[simp] theorem digitsValue_decimalDigits (n : Nat) : digitsValue (decimalDigits n) = n := by
  rw [digitsValue_eq, decimalDigits, Nat.ofDigitChars_ten_toDigits]

theorem digitsValue_zeros_append (k : Nat) (cs : List Char) : digitsValue (zeros k ++ cs) = digitsValue cs := by
  rw [digitsValue_eq, digitsValue_eq, zeros, Nat.ofDigitChars_append, Nat.ofDigitChars_replicate_zero, Nat.mul_zero]

theorem digitsValue_append_zeros (cs : List Char) (k : Nat) :
    digitsValue (cs ++ zeros k) = digitsValue cs * 10 ^ k := by
  rw [digitsValue_eq, digitsValue_eq, zeros, Nat.ofDigitChars_append, Nat.ofDigitChars_replicate_zero, Nat.mul_comm]

theorem isDigit_of_mem_zeros {k : Nat} {c : Char} (h : c ∈ zeros k) : c.isDigit = true := by
  rw [List.eq_of_mem_replicate h]
  rfl

/-- One more digit for ten times the number. -/
theorem length_toDigits_mul_ten {n : Nat} (hn : n ≠ 0) :
    (Nat.toDigits 10 (n * 10)).length = (Nat.toDigits 10 n).length + 1 := by
  rw [Nat.toDigits_of_base_le (by decide) (by omega), List.length_append, Nat.mul_div_cancel n (by decide)]
  rfl

/-! ### Digits and exponent -/

theorem ofDecimal_eq (negative : Bool) (digits : Nat) (exponent : Int) : ofDecimal negative digits exponent =
    if digits = 0 ∨ (Nat.toDigits 10 digits).length + exponent < -400 then .zero negative
    else if 400 < (Nat.toDigits 10 digits).length + exponent then .infinity negative
    else .ofRatio negative (digits * 10 ^ exponent.toNat) (10 ^ (-exponent).toNat) := by
  simp only [ofDecimal, Nat.pow_eq]
  split
  · rfl
  · split
    · rfl
    · split
      · rw [show (-exponent).toNat = 0 by omega, Nat.pow_zero]
      · rw [show exponent.toNat = 0 by omega, Nat.pow_zero, Nat.mul_one]

theorem ofDecimal_mul_ten (negative : Bool) (digits : Nat) (exponent : Int) :
    ofDecimal negative (digits * 10) exponent = ofDecimal negative digits (exponent + 1) := by
  by_cases hzero : digits = 0
  · simp [ofDecimal_eq, hzero]
  · have hsize : ((Nat.toDigits 10 (digits * 10)).length : Int) + exponent =
        (Nat.toDigits 10 digits).length + (exponent + 1) := by
      rw [length_toDigits_mul_ten hzero]
      omega
    have hplaces : 1 + exponent.toNat + (-(exponent + 1)).toNat = (exponent + 1).toNat + (-exponent).toNat := by omega
    have hratio : ofRatio negative (digits * 10 * 10 ^ exponent.toNat) (10 ^ (-exponent).toNat) =
        ofRatio negative (digits * 10 ^ (exponent + 1).toNat) (10 ^ (-(exponent + 1)).toNat) := by
      refine ofRatio_congr negative ?_ (Nat.pow_pos (by decide)) (Nat.pow_pos (by decide))
      calc digits * 10 * 10 ^ exponent.toNat * 10 ^ (-(exponent + 1)).toNat
          = digits * 10 ^ (1 + exponent.toNat + (-(exponent + 1)).toNat) := by ring
        _ = digits * 10 ^ ((exponent + 1).toNat + (-exponent).toNat) := by rw [hplaces]
        _ = digits * 10 ^ (exponent + 1).toNat * 10 ^ (-exponent).toNat := by ring
    simp only [ofDecimal_eq, hsize, hratio, Nat.mul_eq_zero, OfNat.ofNat_ne_zero, or_false]

theorem ofDecimal_mul_pow (negative : Bool) (digits k : Nat) (exponent : Int) :
    ofDecimal negative (digits * 10 ^ k) exponent = ofDecimal negative digits (exponent + k) := by
  induction k generalizing exponent with
  | zero => simp
  | succ k ih =>
    rw [pow_succ, ← Nat.mul_assoc, ofDecimal_mul_ten, ih, Nat.cast_succ, add_assoc, add_comm (1 : Int)]

/-- The sign of a decimal does nothing but to be the sign of the number. -/
theorem exists_ofDecimal (digits : Nat) (exponent : Int) :
    ∃ n ≤ 2047 * implicitBit, ∀ negative, ofDecimal negative digits exponent = ofMagnitude negative n := by
  simp only [ofDecimal_eq]
  split
  · exact ⟨0, Nat.zero_le _, fun _ => rfl⟩
  · split
    · exact ⟨_, Nat.le_refl _, fun _ => rfl⟩
    · exact exists_ofRatio _ _

theorem ofDecimal_of_positive {digits num den : Nat} {exponent : Int}
    (h : ofDecimal false digits exponent = ofRatio false num den) (negative : Bool) :
    ofDecimal negative digits exponent = ofRatio negative num den := by
  obtain ⟨n, hn, hdecimal⟩ := exists_ofDecimal digits exponent
  obtain ⟨n', hn', hratio⟩ := exists_ofRatio num den
  rw [hdecimal, hratio] at h ⊢
  rw [ofMagnitude_injective hn hn' h]

end RadioMesh.Floating
