import Mathlib
import RadioMesh.Cipher.Aes
import RadioMesh.Proofs.Cipher.Block

/-!
The cipher of a key is one to one, as each step of a round is: bytes are substituted by an inverse and a map with an
inverse, rows are turned, columns come back when they are mixed four times, and a key xored twice is gone.
-/

namespace RadioMesh.Cipher.Aes

/-! ### Bytes as numbers

The kernel multiplies numbers far faster than bytes, so the one fact that is checked byte by byte is checked on them.
-/

def doubleNat (n : Nat) : Nat :=
  2 * n ^^^ 0x11B * (n / 128)

/-- The product, of which `count` bits of the second factor are left. -/
def timesNat : Nat → Nat → Nat → Nat
  | 0, _, _ => 0
  | count + 1, a, b => a * (b % 2) ^^^ timesNat count (doubleNat a) (b / 2)

def inverseNat (b : Nat) : Nat :=
  let b2 := timesNat 8 b b
  let b4 := timesNat 8 b2 b2
  let b8 := timesNat 8 b4 b4
  let b16 := timesNat 8 b8 b8
  let b32 := timesNat 8 b16 b16
  let b64 := timesNat 8 b32 b32
  timesNat 8 (timesNat 8 b64 b64)
    (timesNat 8 (timesNat 8 b64 b32) (timesNat 8 (timesNat 8 b16 b8) (timesNat 8 b4 b2)))

theorem toNat_double (b : UInt8) : (double b).toNat = doubleNat b.toNat := by
  revert b
  decide +kernel

theorem toNat_timesBits (count : Nat) (a : UInt8) (b : Nat) :
    (timesBits a ((List.range count).map fun i => b.testBit i)).toNat = timesNat count a.toNat b := by
  induction count generalizing a b with
  | zero => rfl
  | succ count ih =>
    have hbits : (fun i => b.testBit i) ∘ Nat.succ = fun i => (b / 2).testBit i := by
      funext i
      exact Nat.testBit_succ b i
    have hfirst : (if b.testBit 0 then a else 0).toNat = a.toNat * (b % 2) := by
      rcases Nat.mod_two_eq_zero_or_one b with h | h <;> simp [Nat.testBit_zero, h]
    rw [List.range_succ_eq_map, List.map_cons, List.map_map, hbits, timesBits, timesNat, UInt8.toNat_xor, hfirst, ih,
      toNat_double]

theorem toNat_times (a b : UInt8) : (times a b).toNat = timesNat 8 a.toNat b.toNat :=
  toNat_timesBits 8 a b.toNat

theorem toNat_inverse (b : UInt8) : (inverse b).toNat = inverseNat b.toNat := by
  simp only [inverse, square, toNat_times, inverseNat]

theorem inverseNat_inverseNat : ∀ n < 256, inverseNat (inverseNat n) = n := by
  decide +kernel

/-! ### Substitution -/

theorem inverse_inverse (b : UInt8) : inverse (inverse b) = b := by
  rw [← UInt8.toNat_inj, toNat_inverse, toNat_inverse, inverseNat_inverseNat b.toNat b.toNat_lt]

/-- What takes the affine map back. -/
def unaffine (b : UInt8) : UInt8 :=
  rotate b 1 ^^^ rotate b 3 ^^^ rotate b 6 ^^^ 0x05

theorem unaffine_affine (b : UInt8) : unaffine (affine b) = b := by
  revert b
  decide +kernel

theorem substitute_eq (b : UInt8) : substitute b = affine (inverse b) := by
  rw [substitute, substitution, Vector.get_ofFn]
  congr 2
  exact UInt8.ofNat_toNat

theorem substitute_injective : Function.Injective substitute := by
  intro a b h
  rw [substitute_eq, substitute_eq] at h
  have hinverse := congrArg unaffine h
  rw [unaffine_affine, unaffine_affine] at hinverse
  rw [← inverse_inverse a, ← inverse_inverse b, hinverse]

theorem map_substitute_injective : Function.Injective fun s : Block => s.map substitute := by
  intro a b h
  refine Vector.ext fun i hi => substitute_injective ?_
  have hget := congrArg (fun s : Block => s[i]) h
  simpa only [Vector.getElem_map] using hget

/-! ### Rows and columns -/

/-- Thirteen times a place is the place that its byte comes from. -/
theorem get_shiftRows (s : Block) (i : Fin 16) : (shiftRows s).get (13 * i) = s.get i := by
  rw [shiftRows, Vector.get_ofFn]
  congr 1
  revert i
  decide

theorem shiftRows_injective : Function.Injective shiftRows := by
  intro a b h
  refine Vector.ext fun i hi => ?_
  have hget := get_shiftRows a ⟨i, hi⟩
  rw [h, get_shiftRows] at hget
  exact hget.symm

def column (s : Block) (j : Fin 4) : Fin 4 → UInt8 :=
  fun k => s.get ⟨4 * j + k, by omega⟩

theorem column_injective {a b : Block} (h : ∀ j, column a j = column b j) : a = b := by
  refine Vector.ext fun i hi => ?_
  have hget := congrFun (h ⟨i / 4, by omega⟩) ⟨i % 4, by omega⟩
  simp only [column, Nat.div_add_mod] at hget
  exact hget

def mixColumn {n : Nat} [NeZero n] (c : Fin n → UInt8) : Fin n → UInt8 :=
  fun k => double (c k) ^^^ (double (c (k + 1)) ^^^ c (k + 1)) ^^^ c (k + 2) ^^^ c (k + 3)

theorem get_column (s : Block) (j k m : Fin 4) :
    s.get (Fin.ofNat 16 (4 * ((4 * j.val + k.val) / 4) + (4 * j.val + k.val + m.val) % 4)) = column s j (k + m) := by
  rw [column]
  congr 1
  revert j k m
  decide

theorem column_mixColumns (s : Block) (j : Fin 4) : column (mixColumns s) j = mixColumn (column s j) := by
  funext k
  rw [column, mixColumns, Vector.get_ofFn, mixColumn, ← get_column s j k 1, ← get_column s j k 2, ← get_column s j k 3,
    ← add_zero k, ← get_column s j k 0, add_zero]
  rfl

theorem double_eq (b : UInt8) : double b = b <<< 1 ^^^ b >>> 7 * (0x1B : UInt8) := by
  revert b
  decide +kernel

theorem shiftRight_seven (b : UInt8) : b >>> 7 = 0 ∨ b >>> 7 = 1 := by
  revert b
  decide +kernel

theorem double_xor (a b : UInt8) : double (a ^^^ b) = double a ^^^ double b := by
  have hhigh : (a >>> 7 ^^^ b >>> 7) * (0x1B : UInt8) = a >>> 7 * (0x1B : UInt8) ^^^ b >>> 7 * (0x1B : UInt8) := by
    rcases shiftRight_seven a with ha | ha <;> rcases shiftRight_seven b with hb | hb <;> rw [ha, hb] <;> rfl
  rw [double_eq, double_eq, double_eq, UInt8.shiftLeft_xor, UInt8.shiftRight_xor, hhigh]
  ac_rfl

/-- The sum of the bytes of a column. -/
def total {n : Nat} [NeZero n] (c : Fin n → UInt8) : UInt8 :=
  c 0 ^^^ c 1 ^^^ c 2 ^^^ c 3

theorem total_eq (c : Fin 4 → UInt8) (k : Fin 4) : total c = c k ^^^ c (k + 1) ^^^ c (k + 2) ^^^ c (k + 3) := by
  unfold total
  fin_cases k
  · rfl
  · show _ = c 1 ^^^ c 2 ^^^ c 3 ^^^ c 0
    ac_rfl
  · show _ = c 2 ^^^ c 3 ^^^ c 0 ^^^ c 1
    ac_rfl
  · show _ = c 3 ^^^ c 0 ^^^ c 1 ^^^ c 2
    ac_rfl

theorem mixColumn_eq (c : Fin 4 → UInt8) (k : Fin 4) :
    mixColumn c k = c k ^^^ total c ^^^ double (c k ^^^ c (k + 1)) := by
  calc mixColumn c k =
      c (k + 1) ^^^ c (k + 2) ^^^ c (k + 3) ^^^ (double (c k) ^^^ double (c (k + 1))) := by
        rw [mixColumn]
        ac_rfl
    _ = c k ^^^ total c ^^^ double (c k ^^^ c (k + 1)) := by
        have hother : c k ^^^ total c = c (k + 1) ^^^ c (k + 2) ^^^ c (k + 3) := by
          rw [total_eq c k, ← xor_cancel (c (k + 1) ^^^ c (k + 2) ^^^ c (k + 3)) (c k)]
          ac_rfl
        rw [hother, double_xor]

/-- Neighbours in a mixed column differ as they did, and by a multiple of what is two places apart. -/
theorem mixColumn_xor_next (c : Fin 4 → UInt8) (k : Fin 4) :
    mixColumn c k ^^^ mixColumn c (k + 1) = c k ^^^ c (k + 1) ^^^ double (c k ^^^ c (k + 2)) := by
  have hnext : k + 1 + 1 = k + 2 := add_assoc k 1 1
  have hdouble : double (c k ^^^ c (k + 2)) = double (c k ^^^ c (k + 1)) ^^^ double (c (k + 1) ^^^ c (k + 2)) := by
    rw [← double_xor, ← xor_cancel (c k ^^^ c (k + 2)) (c (k + 1))]
    ac_rfl
  rw [mixColumn_eq, mixColumn_eq, hnext, hdouble,
    ← xor_cancel (c k ^^^ c (k + 1) ^^^ (double (c k ^^^ c (k + 1)) ^^^ double (c (k + 1) ^^^ c (k + 2)))) (total c)]
  ac_rfl

/-- Mixing keeps the sum of a column. -/
theorem total_mixColumn (c : Fin 4 → UInt8) : total (mixColumn c) = total c := by
  have hfirst := mixColumn_xor_next c 0
  have hlast := mixColumn_xor_next c 2
  have hback : c 2 ^^^ c 0 = c 0 ^^^ c 2 := UInt8.xor_comm _ _
  calc total (mixColumn c) =
      (mixColumn c 0 ^^^ mixColumn c (0 + 1)) ^^^ (mixColumn c 2 ^^^ mixColumn c (2 + 1)) := by
        rw [total, UInt8.xor_assoc (mixColumn c 0 ^^^ mixColumn c 1)]
        rfl
    _ = (c 0 ^^^ c 1 ^^^ double (c 0 ^^^ c 2)) ^^^ (c 2 ^^^ c 3 ^^^ double (c 2 ^^^ c 0)) := by
        rw [hfirst, hlast]
        rfl
    _ = c 0 ^^^ c 1 ^^^ c 2 ^^^ c 3 ^^^ double (c 0 ^^^ c 2) ^^^ double (c 0 ^^^ c 2) := by
        rw [hback]
        ac_rfl
    _ = total c := xor_cancel _ _

/-- A column that is mixed twice. -/
theorem mixColumn_mixColumn (c : Fin 4 → UInt8) (k : Fin 4) :
    mixColumn (mixColumn c) k = c k ^^^ double (double (c k ^^^ c (k + 2))) := by
  rw [mixColumn_eq, mixColumn_xor_next, total_mixColumn, mixColumn_eq, double_xor (c k ^^^ c (k + 1))]
  rw [← xor_cancel (c k ^^^ double (double (c k ^^^ c (k + 2)))) (total c ^^^ double (c k ^^^ c (k + 1)))]
  ac_rfl

theorem mixColumn_four (c : Fin 4 → UInt8) : mixColumn (mixColumn (mixColumn (mixColumn c))) = c := by
  funext k
  have hsame : k + 2 + 2 = k := by
    rw [add_assoc]
    exact add_zero k
  have hdiffer : mixColumn (mixColumn c) k ^^^ mixColumn (mixColumn c) (k + 2) = c k ^^^ c (k + 2) := by
    rw [mixColumn_mixColumn, mixColumn_mixColumn, hsame, UInt8.xor_comm (c (k + 2)) (c k)]
    generalize double (double (c k ^^^ c (k + 2))) = both
    rw [← xor_cancel (c k ^^^ c (k + 2)) both]
    ac_rfl
  rw [mixColumn_mixColumn, hdiffer, mixColumn_mixColumn, xor_cancel]

theorem mixColumns_injective : Function.Injective mixColumns := by
  intro a b h
  refine column_injective fun j => ?_
  have hcolumn := congrArg (column · j) h
  rw [column_mixColumns, column_mixColumns] at hcolumn
  rw [← mixColumn_four (column a j), ← mixColumn_four (column b j), hcolumn]

/-! ### Rounds -/

theorem rounds_injective (keys : List Block) : Function.Injective (rounds keys) := by
  induction keys with
  | nil => exact fun _ _ h => h
  | cons key keys ih =>
    cases keys with
    | nil => exact (Block.xor_injective key).comp (shiftRows_injective.comp map_substitute_injective)
    | cons next keys =>
      exact ih.comp ((Block.xor_injective key).comp
        (mixColumns_injective.comp (shiftRows_injective.comp map_substitute_injective)))

/-- No two blocks have one image. -/
theorem cipher_injective (key : Bytes) : Function.Injective (cipher key) := by
  intro a b h
  unfold cipher encryptWith at h
  split at h
  · exact h
  · exact Block.xor_injective _ (rounds_injective _ h)

end RadioMesh.Cipher.Aes
