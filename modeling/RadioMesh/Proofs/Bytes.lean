import Mathlib
import RadioMesh.Bytes

/-!
Words are read back from their bytes and bytes from their words, and the bytes of an ASCII text are its characters.
-/

namespace RadioMesh.Bytes

/-- The bytes of a word are its digits. -/
theorem toNat_word32 (a b c d : UInt8) :
    (word32 a b c d).toNat = a.toNat + 2 ^ 8 * b.toNat + 2 ^ 16 * c.toNat + 2 ^ 24 * d.toNat := by
  have ha := a.toNat_lt
  have hb := b.toNat_lt
  have hc := c.toNat_lt
  have hd := d.toNat_lt
  have hadd {low n : Nat} (hlow : low < 2 ^ n) (high : Nat) : low ||| high <<< n = low + 2 ^ n * high := by
    rw [Nat.or_comm, ← Nat.shiftLeft_add_eq_or_of_lt hlow, Nat.shiftLeft_eq, Nat.add_comm, Nat.mul_comm]
  have hshift (x : UInt8) {n : Nat} (hn : n ≤ 24) : x.toNat <<< n % 2 ^ 32 = x.toNat <<< n := by
    have hx := x.toNat_lt
    have hpow : 2 ^ n ≤ 2 ^ 24 := Nat.pow_le_pow_right (by decide) hn
    refine Nat.mod_eq_of_lt ?_
    rw [Nat.shiftLeft_eq]
    nlinarith
  simp only [word32, UInt32.toNat_or, UInt32.toNat_shiftLeft, UInt8.toNat_toUInt32, UInt32.reduceToNat, Nat.reduceMod]
  rw [hshift b (by decide), hshift c (by decide), hshift d (by decide), hadd ha,
    hadd (show a.toNat + 2 ^ 8 * b.toNat < 2 ^ 16 by omega),
    hadd (show a.toNat + 2 ^ 8 * b.toNat + 2 ^ 16 * c.toNat < 2 ^ 24 by omega)]

theorem word32_ofWord32 (w : UInt32) :
    word32 w.toUInt8 (w >>> 8).toUInt8 (w >>> 16).toUInt8 (w >>> 24).toUInt8 = w := by
  have hw := w.toNat_lt
  apply UInt32.toNat_inj.1
  simp only [toNat_word32, UInt32.toNat_toUInt8, UInt32.toNat_shiftRight, UInt32.reduceToNat, Nat.reduceMod,
    Nat.shiftRight_eq_div_pow]
  omega

theorem ofWord32_word32 (a b c d : UInt8) : ofWord32 (word32 a b c d) = [a, b, c, d] := by
  have ha := a.toNat_lt
  have hb := b.toNat_lt
  have hc := c.toNat_lt
  have hd := d.toNat_lt
  simp only [ofWord32, List.cons.injEq, and_true, ← UInt8.toNat_inj, UInt32.toNat_toUInt8, UInt32.toNat_shiftRight,
    toNat_word32, UInt32.reduceToNat, Nat.reduceMod, Nat.shiftRight_eq_div_pow]
  omega

theorem ofWord64_toUInt64 (w : UInt32) : ofWord64 w.toUInt64 = ofWord32 w ++ List.replicate 4 0 := by
  have hlow : w.toUInt64.toUInt32 = w := UInt32.toUInt32_toUInt64 w
  have hhigh : (w.toUInt64 >>> 32).toUInt32 = 0 := by
    have hw := w.toNat_lt
    apply UInt32.toNat_inj.1
    simp only [UInt64.toNat_toUInt32, UInt64.toNat_shiftRight, UInt32.toNat_toUInt64, UInt64.reduceToNat,
      UInt32.reduceToNat, Nat.reduceMod, Nat.shiftRight_eq_div_pow]
    omega
  rw [ofWord64, hlow, hhigh]
  rfl

theorem ofWord32_injective : Function.Injective ofWord32 := by
  intro a b h
  simp only [ofWord32, List.cons.injEq] at h
  obtain ⟨h0, h1, h2, h3, -⟩ := h
  rw [← word32_ofWord32 a, ← word32_ofWord32 b, h0, h1, h2, h3]

theorem low_or_high (w : UInt64) : w.toUInt32.toUInt64 ||| (w >>> 32).toUInt32.toUInt64 <<< 32 = w := by
  apply UInt64.toBitVec_inj.1
  show (w.toBitVec.setWidth 32).setWidth 64 ||| ((w.toBitVec >>> 32).setWidth 32).setWidth 64 <<< 32 =
    w.toBitVec
  apply BitVec.eq_of_getLsbD_eq
  intro i hi
  simp only [BitVec.getLsbD_or, BitVec.getLsbD_shiftLeft, BitVec.getLsbD_setWidth, BitVec.getLsbD_ushiftRight]
  rcases Nat.lt_or_ge i 32 with h | h
  · simp [h, hi]
  · simp [hi, show ¬i < 32 by omega, show i - 32 < 32 by omega, show i - 32 < 64 by omega,
      show 32 + (i - 32) = i by omega]

/-! ### Text -/

theorem ofString_ofList (cs : List Char) : ofString (String.ofList cs) = cs.flatMap String.utf8EncodeChar := by
  show (String.ofList cs).toByteArray.data.toList = _
  rw [String.toByteArray_ofList]
  simp [List.utf8Encode]

theorem utf8EncodeChar_ascii {b : UInt8} (hb : b < 128) :
    String.utf8EncodeChar (Char.ofNat b.toNat) = [b] := by
  revert b
  decide +kernel

theorem ofString_ascii {bs : Bytes} (h : ∀ b ∈ bs, b < 128) :
    ofString (String.ofList (bs.map fun b => Char.ofNat b.toNat)) = bs := by
  rw [ofString_ofList, List.flatMap_map]
  induction bs with
  | nil => rfl
  | cons b bs ih =>
    rw [List.flatMap_cons, utf8EncodeChar_ascii (h b List.mem_cons_self),
      ih fun b' hb' => h b' (List.mem_cons_of_mem b hb'), List.singleton_append]

end RadioMesh.Bytes
