import RadioMesh.Proofs.Bytes
import RadioMesh.Text.Base64

/-!
Base64 is read back as it was written. What is written consists of whole groups of four symbols, all of
them from the alphabet or padding.
-/

namespace RadioMesh.Text.Base64

/-! ### Symbols -/

/-- What a written text consists of. -/
def IsSymbol (b : UInt8) : Prop :=
  (∃ n < 64, b = symbol n) ∨ b = pad

theorem value?_symbol : ∀ n < 64, value? (symbol n) = some n := by
  decide

theorem symbol_ne_pad : ∀ n < 64, symbol n ≠ pad := by
  decide

theorem IsSymbol.of_forall {P : UInt8 → Prop} (hsymbol : ∀ n < 64, P (symbol n)) (hpad : P pad) {b : UInt8}
    (hb : IsSymbol b) : P b := by
  rcases hb with ⟨n, hn, rfl⟩ | rfl
  · exact hsymbol n hn
  · exact hpad

theorem sextet_symbol {n : Nat} (hn : n < 64) (offset : Nat) : sextet offset (symbol n) = .ok n := by
  rw [sextet, value?_symbol n hn]

theorem isSymbol_of_mem_symbols {bs : Bytes} {b : UInt8} (hb : b ∈ symbols bs) : IsSymbol b := by
  have hsym : ∀ n, n < 64 → IsSymbol (symbol n) := fun n hn => .inl ⟨n, hn, rfl⟩
  induction bs using symbols.induct with
  | case1 => cases hb
  | case2 a =>
    have := a.toNat_lt
    simp only [symbols, List.mem_cons, List.not_mem_nil, or_false] at hb
    rcases hb with rfl | rfl | rfl | rfl
    · exact hsym _ (by omega)
    · exact hsym _ (by omega)
    · exact .inr rfl
    · exact .inr rfl
  | case3 a b =>
    have := a.toNat_lt
    have := b.toNat_lt
    simp only [symbols, List.mem_cons, List.not_mem_nil, or_false] at hb
    rcases hb with rfl | rfl | rfl | rfl
    · exact hsym _ (by omega)
    · exact hsym _ (by omega)
    · exact hsym _ (by omega)
    · exact .inr rfl
  | case4 a b c rest ih =>
    have := a.toNat_lt
    have := b.toNat_lt
    have := c.toNat_lt
    simp only [symbols, List.mem_cons] at hb
    rcases hb with rfl | rfl | rfl | rfl | hb
    · exact hsym _ (by omega)
    · exact hsym _ (by omega)
    · exact hsym _ (by omega)
    · exact hsym _ (by omega)
    · exact ih hb

theorem length_symbols_mod (bs : Bytes) : (symbols bs).length % 4 = 0 := by
  induction bs using symbols.induct with
  | case1 => rfl
  | case2 => simp only [symbols, List.length_cons, List.length_nil]
  | case3 => simp only [symbols, List.length_cons, List.length_nil]
  | case4 a b c rest ih =>
    simp only [symbols, List.length_cons]
    omega

/-! ### Groups -/

theorem byte_ofNat {n : Nat} {a : UInt8} (h : n = a.toNat) : UInt8.ofNat n = a := by
  rw [h, UInt8.ofNat_toNat]

theorem innerGroup_symbols (offset : Nat) (a b c : UInt8) :
    let n := (a.toNat * 256 + b.toNat) * 256 + c.toNat
    innerGroup offset (symbol (n / 262144)) (symbol (n / 4096 % 64)) (symbol (n / 64 % 64)) (symbol (n % 64)) =
      .ok [a, b, c] := by
  intro n
  have ha := a.toNat_lt
  have hb := b.toNat_lt
  have hc := c.toNat_lt
  have hn : ((n / 262144 * 64 + n / 4096 % 64) * 64 + n / 64 % 64) * 64 + n % 64 = n := by omega
  rw [innerGroup, sextet_symbol (by omega), sextet_symbol (by omega), sextet_symbol (by omega),
    sextet_symbol (by omega)]
  show Except.ok [UInt8.ofNat (_ / 65536), UInt8.ofNat (_ / 256 % 256), UInt8.ofNat (_ % 256)] = _
  rw [hn, byte_ofNat (a := a) (by omega), byte_ofNat (a := b) (by omega), byte_ofNat (a := c) (by omega)]

theorem lastGroup_symbols_one (offset : Nat) (a : UInt8) :
    lastGroup offset (symbol (a.toNat * 16 / 64)) (symbol (a.toNat * 16 % 64)) pad pad = .ok [a] := by
  have ha := a.toNat_lt
  have hn : a.toNat * 16 / 64 * 64 + a.toNat * 16 % 64 = a.toNat * 16 := by omega
  rw [lastGroup, sextet_symbol (by omega), sextet_symbol (by omega)]
  show (if _ % 16 = 0 then Except.ok [UInt8.ofNat (_ / 16)] else _) = _
  rw [hn, if_pos (by omega), byte_ofNat (a := a) (by omega)]

theorem lastGroup_symbols_two (offset : Nat) (a b : UInt8) :
    let n := (a.toNat * 256 + b.toNat) * 4
    lastGroup offset (symbol (n / 4096)) (symbol (n / 64 % 64)) (symbol (n % 64)) pad = .ok [a, b] := by
  intro n
  have ha := a.toNat_lt
  have hb := b.toNat_lt
  have hn : (n / 4096 * 64 + n / 64 % 64) * 64 + n % 64 = n := by omega
  rw [lastGroup, sextet_symbol (by omega), sextet_symbol (by omega), sextet_symbol (by omega)]
  show (if symbol (n % 64) = pad then _ else
    if _ % 4 = 0 then Except.ok [UInt8.ofNat (_ / 1024), UInt8.ofNat (_ / 4 % 256)] else _) = _
  rw [if_neg (symbol_ne_pad _ (by omega)), hn, if_pos (by omega), byte_ofNat (a := a) (by omega),
    byte_ofNat (a := b) (by omega)]

theorem lastGroup_symbols_three (offset : Nat) (a b c : UInt8) :
    let n := (a.toNat * 256 + b.toNat) * 256 + c.toNat
    lastGroup offset (symbol (n / 262144)) (symbol (n / 4096 % 64)) (symbol (n / 64 % 64)) (symbol (n % 64)) =
      .ok [a, b, c] := by
  intro n
  have ha := a.toNat_lt
  have hb := b.toNat_lt
  have hc := c.toNat_lt
  rw [lastGroup, sextet_symbol (by omega), sextet_symbol (by omega), sextet_symbol (by omega)]
  show (if symbol (n / 64 % 64) = pad then _ else if symbol (n % 64) = pad then _ else innerGroup _ _ _ _ _) = _
  rw [if_neg (symbol_ne_pad _ (by omega)), if_neg (symbol_ne_pad _ (by omega))]
  exact innerGroup_symbols offset a b c

/-! ### Texts -/

theorem decodeAt_symbols (offset : Nat) (bs : Bytes) : decodeAt offset (symbols bs) = .ok bs := by
  induction bs using symbols.induct generalizing offset with
  | case1 => rfl
  | case2 a => exact lastGroup_symbols_one offset a
  | case3 a b => exact lastGroup_symbols_two offset a b
  | case4 a b c rest ih =>
    cases hrest : symbols rest with
    | nil =>
      have hempty : rest = [] := by
        have h := ih offset
        rw [hrest] at h
        exact (Except.ok.inj h).symm
      rw [hempty]
      exact lastGroup_symbols_three offset a b c
    | cons s ss =>
      rw [symbols, hrest]
      show (innerGroup offset _ _ _ _ >>= fun head => decodeAt (offset + 4) (s :: ss) >>= fun tail =>
        pure (head ++ tail)) = _
      rw [innerGroup_symbols, ← hrest, ih (offset + 4)]
      rfl

theorem ofString_encode (bs : Bytes) : Bytes.ofString (encode bs) = symbols bs :=
  Bytes.ofString_ascii fun _ hb =>
    (isSymbol_of_mem_symbols hb).of_forall (P := fun b => b < 128) (by decide) (by decide)

theorem decode_encode (bs : Bytes) : decode (encode bs) = .ok bs := by
  rw [decode, ofString_encode, decodeAt_symbols]

theorem encode_eq_empty_iff {bs : Bytes} : encode bs = "" ↔ bs = [] := by
  constructor
  · intro h
    have hdecode := decode_encode bs
    rw [h] at hdecode
    exact (Except.ok.inj hdecode).symm
  · rintro rfl
    rfl

end RadioMesh.Text.Base64
