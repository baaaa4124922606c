import Mathlib
import RadioMesh.Wire.Varint

/-!
Numbers of up to 64 bits are read back as they were written, whatever follows them, and `size` is the
length of what is written.
-/

namespace RadioMesh.Wire.Varint

theorem readFrom?_write {index n : Nat} (hi : index ≤ 9) (hn : n < 2 ^ (64 - 7 * index)) (rest : Bytes) :
    readFrom? index (write n ++ rest) = some (n, rest) := by
  induction n using Nat.strongRecOn generalizing index with
  | _ n ih =>
    rw [write]
    split
    · next hlt =>
      have hb : (UInt8.ofNat n).toNat = n := by rw [UInt8.toNat_ofNat']; omega
      have hsmall : UInt8.ofNat n < 128 := by rw [UInt8.lt_iff_toNat_lt, hb]; exact hlt
      have htenth : ¬(index = 9 ∧ 2 ≤ UInt8.ofNat n) := by
        rintro ⟨rfl, hle⟩
        have hn' : n < 2 := by simpa using hn
        rw [UInt8.le_iff_toNat_le, hb] at hle
        exact Nat.not_le_of_lt hn' hle
      rw [List.singleton_append, readFrom?, if_pos hsmall, if_neg htenth, hb]
    · next hge =>
      have hb : (UInt8.ofNat (n % 128 + 128)).toNat = n % 128 + 128 := by rw [UInt8.toNat_ofNat']; omega
      have hlarge : ¬UInt8.ofNat (n % 128 + 128) < 128 := by
        rw [UInt8.lt_iff_toNat_lt, hb, show (128 : UInt8).toNat = 128 from rfl]
        omega
      -- The tenth byte holds one bit, so a number that goes on has not come to it.
      have hindex : index < 9 := by
        rcases Nat.lt_or_eq_of_le hi with h | rfl
        · exact h
        · have hn' : n < 2 := by simpa using hn
          omega
      have hrest : n / 128 < 2 ^ (64 - 7 * (index + 1)) := by
        rw [Nat.div_lt_iff_lt_mul (by decide), show (128 : Nat) = 2 ^ 7 from rfl, ← Nat.pow_add]
        rwa [show 64 - 7 * (index + 1) + 7 = 64 - 7 * index by omega]
      rw [List.cons_append, readFrom?, if_neg hlarge, if_neg (Nat.ne_of_lt hindex),
        ih (n / 128) (by omega) hindex hrest]
      simp only [Option.some.injEq, Prod.mk.injEq, and_true]
      omega

theorem read?_write {n : Nat} (hn : n < 2 ^ 64) (rest : Bytes) : read? (write n ++ rest) = some (n, rest) :=
  readFrom?_write (by decide) hn rest

theorem log2_div_two_pow {n k : Nat} (hn : 2 ^ k ≤ n) : (n / 2 ^ k).log2 + k = n.log2 := by
  have hlog : Nat.log 2 (n / 2 ^ k) = Nat.log 2 n - k := Nat.log_div_base_pow 2 n k
  have hle : k ≤ Nat.log 2 n := Nat.le_log_of_pow_le (by decide) hn
  rw [Nat.log2_eq_log_two, Nat.log2_eq_log_two, hlog]
  omega

theorem length_write (n : Nat) : (write n).length = size n := by
  induction n using Nat.strongRecOn with
  | _ n ih =>
    rw [write]
    split
    · next hlt =>
      have : n.log2 < 7 := by
        rcases Nat.eq_zero_or_pos n with rfl | hpos
        · decide
        · exact (Nat.log2_lt (Nat.ne_of_gt hpos)).2 hlt
      rw [List.length_singleton, size]
      omega
    · next hge =>
      have : (n / 128).log2 + 7 = n.log2 := log2_div_two_pow (k := 7) (Nat.le_of_not_lt hge)
      rw [List.length_cons, ih (n / 128) (by omega), size, size]
      omega

end RadioMesh.Wire.Varint
