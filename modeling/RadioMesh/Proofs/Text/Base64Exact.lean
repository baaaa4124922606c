import RadioMesh.Proofs.Direct
import RadioMesh.Proofs.Text.Base64
import RadioMesh.Text.Utf8

/-!
Every byte string has one form in base64. What is read is what writing would have given, so padding stands nowhere but
at the end and the last symbol holds no bits that no byte takes.
-/

namespace RadioMesh.Text.Base64

variable {offset : Nat} {a b c d : UInt8} {bs ss : Bytes}

/-! ### Groups -/

theorem symbol_of_value? {n : Nat} (h : value? b = some n) : n < 64 ∧ b = symbol n := by
  have hall : ∀ b : UInt8, ∀ n ∈ value? b, n < 64 ∧ b = symbol n := by decide +kernel
  exact hall b n h

theorem exists_of_sextet_bind {β : Type} {f : Nat → Except Fault β} {x : β} (h : sextet offset b >>= f = .ok x) :
    ∃ n < 64, b = symbol n ∧ f n = .ok x := by
  obtain ⟨n, hn, hf⟩ := exists_of_bind_eq_ok h
  unfold sextet at hn
  split at hn
  · next hvalue =>
    cases hn
    obtain ⟨hlt, hb⟩ := symbol_of_value? hvalue
    exact ⟨n, hlt, hb, hf⟩
  · cases hn

theorem symbols_of_innerGroup (h : innerGroup offset a b c d = .ok bs) :
    ∃ x y z, bs = [x, y, z] ∧ [a, b, c, d] = symbols [x, y, z] := by
  obtain ⟨i, hi, ha, h⟩ := exists_of_sextet_bind h
  obtain ⟨j, hj, hb, h⟩ := exists_of_sextet_bind h
  obtain ⟨k, hk, hc, h⟩ := exists_of_sextet_bind h
  obtain ⟨l, hl, hd, h⟩ := exists_of_sextet_bind h
  cases h
  refine ⟨_, _, _, rfl, ?_⟩
  simp only [symbols, UInt8.toNat_ofNat', List.cons.injEq, and_true, ha, hb, hc, hd]
  refine ⟨?_, ?_, ?_, ?_⟩ <;> congr 1 <;> omega

theorem symbols_of_lastGroup (h : lastGroup offset a b c d = .ok bs) : [a, b, c, d] = symbols bs := by
  obtain ⟨i, hi, ha, h⟩ := exists_of_sextet_bind h
  obtain ⟨j, hj, hb, h⟩ := exists_of_sextet_bind h
  split at h
  · next hc =>
    split at h
    · next hd =>
      dsimp only at h
      split at h
      · cases h
        simp only [symbols, UInt8.toNat_ofNat', List.cons.injEq, and_true, ha, hb, hc, hd]
        refine ⟨?_, ?_⟩ <;> congr 1 <;> omega
      · cases h
    · cases h
  · obtain ⟨k, hk, hc, h⟩ := exists_of_sextet_bind h
    split at h
    · next hd =>
      dsimp only at h
      split at h
      · cases h
        simp only [symbols, UInt8.toNat_ofNat', List.cons.injEq, and_true, ha, hb, hc, hd]
        refine ⟨?_, ?_, ?_⟩ <;> congr 1 <;> omega
      · cases h
    · obtain ⟨x, y, z, rfl, hsymbols⟩ := symbols_of_innerGroup h
      exact hsymbols

/-! ### Texts -/

theorem eq_symbols_of_decodeAt (h : decodeAt offset ss = .ok bs) : ss = symbols bs := by
  induction offset, ss using decodeAt.induct generalizing bs with
  | case1 =>
    cases h
    rfl
  | case2 _ a b c d => exact symbols_of_lastGroup h
  | case3 offset a b c d rest hrest ih =>
    rw [decodeAt] at h
    · obtain ⟨head, hhead, h⟩ := exists_of_bind_eq_ok h
      obtain ⟨tail, htail, h⟩ := exists_of_bind_eq_ok h
      cases h
      obtain ⟨x, y, z, rfl, hsymbols⟩ := symbols_of_innerGroup hhead
      rw [ih htail]
      exact congrArg (· ++ symbols tail) hsymbols
    · exact hrest
  | case4 offset short hnil hfour hmore =>
    rw [decodeAt] at h
    · cases h
    · exact hnil
    · exact hfour
    · exact hmore

/-- A text is read as the one byte string that it is written for. -/
theorem decode_eq_ok_iff {s : String} : decode s = .ok bs ↔ s = encode bs := by
  constructor
  · intro h
    have hbytes : Bytes.ofString s = Bytes.ofString (encode bs) :=
      (eq_symbols_of_decodeAt h).trans (ofString_encode bs).symm
    have htext := Utf8.decode?_ofString s
    rw [hbytes, Utf8.decode?_ofString] at htext
    exact (Option.some.inj htext).symm
  · rintro rfl
    exact decode_encode bs

/-! ### Padding -/

theorem pad_ne_symbol {n : Nat} (hn : n < 64) : pad ≠ symbol n :=
  (symbol_ne_pad n hn).symm

/-- What is written is symbols of the alphabet, and then as much padding as the last group lacks. -/
theorem exists_symbols_eq_append (bs : Bytes) :
    ∃ body k, symbols bs = body ++ List.replicate k pad ∧ pad ∉ body ∧ k ≤ 2 := by
  induction bs using symbols.induct with
  | case1 => exact ⟨[], 0, rfl, List.not_mem_nil, by decide⟩
  | case2 a =>
    have ha := a.toNat_lt
    refine ⟨[_, _], 2, rfl, ?_, le_rfl⟩
    simp only [List.mem_cons, List.not_mem_nil, or_false, not_or]
    exact ⟨pad_ne_symbol (by omega), pad_ne_symbol (by omega)⟩
  | case3 a b =>
    have ha := a.toNat_lt
    have hb := b.toNat_lt
    refine ⟨[_, _, _], 1, rfl, ?_, by decide⟩
    simp only [List.mem_cons, List.not_mem_nil, or_false, not_or]
    exact ⟨pad_ne_symbol (by omega), pad_ne_symbol (by omega), pad_ne_symbol (by omega)⟩
  | case4 a b c rest ih =>
    have ha := a.toNat_lt
    have hb := b.toNat_lt
    have hc := c.toNat_lt
    obtain ⟨body, k, hrest, hbody, hk⟩ := ih
    refine ⟨_ :: _ :: _ :: _ :: body, k, by rw [symbols, hrest]; rfl, ?_, hk⟩
    simp only [List.mem_cons, not_or]
    exact ⟨pad_ne_symbol (by omega), pad_ne_symbol (by omega), pad_ne_symbol (by omega), pad_ne_symbol (by omega),
      hbody⟩

/-- Padding stands behind two symbols of the last group or behind three, and nothing but padding follows it. -/
theorem pad_at_end {front back : Bytes} (h : symbols bs = front ++ pad :: back) :
    2 ≤ front.length % 4 ∧ ∀ s ∈ back, s = pad := by
  obtain ⟨body, k, hbody, hpad, hk⟩ := exists_symbols_eq_append bs
  have hlength := length_symbols_mod bs
  obtain ⟨more, -, hmore⟩ : ∃ more, front = body ++ more ∧ List.replicate k pad = more ++ pad :: back := by
    rcases List.append_eq_append_iff.1 (hbody.symm.trans h) with hfront | ⟨more, hmore, hback⟩
    · exact hfront
    · -- A body that reaches into the padding would have some of it.
      cases more with
      | nil => exact ⟨[], by rw [hmore, List.append_nil, List.append_nil], hback.symm⟩
      | cons s more =>
        rw [(List.cons.inj hback).1, hmore] at hpad
        exact absurd (List.mem_append_right _ List.mem_cons_self) hpad
  have hback : back.length + 1 ≤ k := by
    have hsize := congrArg List.length hmore
    rw [List.length_replicate, List.length_append, List.length_cons] at hsize
    omega
  rw [h, List.length_append, List.length_cons] at hlength
  refine ⟨by omega, fun s hs => ?_⟩
  have hs' : s ∈ List.replicate k pad := hmore ▸ List.mem_append_right _ (List.mem_cons_of_mem _ hs)
  exact List.eq_of_mem_replicate hs'

/-! ### The last group -/

theorem exists_last_group {front : Bytes} (h : symbols bs = front ++ [a, b, c, d]) :
    ∃ last, symbols last = [a, b, c, d] := by
  induction bs using symbols.induct generalizing front with
  | case4 x y z rest ih =>
    have hlength := length_symbols_mod rest
    have hsize := congrArg List.length h
    simp only [symbols, List.length_cons, List.length_append, List.length_nil] at hsize
    rcases front with _ | ⟨_, _ | ⟨_, _ | ⟨_, _ | ⟨_, front⟩⟩⟩⟩
    · exact ⟨_, h⟩
    · simp only [List.length_cons, List.length_nil] at hsize
      omega
    · simp only [List.length_cons, List.length_nil] at hsize
      omega
    · simp only [List.length_cons, List.length_nil] at hsize
      omega
    · exact ih (congrArg (List.drop 4) h)
  | _ =>
    have hsize := congrArg List.length h
    simp only [symbols, List.length_cons, List.length_append, List.length_nil] at hsize
    have hfront : front = [] := List.length_eq_zero_iff.1 (by omega)
    exact ⟨_, hfront ▸ h⟩

theorem eq_of_symbol_eq {m n : Nat} (hm : m < 64) (hn : n < 64) (h : symbol m = symbol n) : m = n := by
  have hvalue := value?_symbol m hm
  rw [h, value?_symbol n hn] at hvalue
  exact (Option.some.inj hvalue).symm

/-- The last symbol in front of two signs of padding holds four bits that no byte takes. -/
theorem mod_eq_zero_of_two_pads {front : Bytes} {n : Nat} (hn : n < 64)
    (h : symbols bs = front ++ [a, symbol n, pad, pad]) : n % 16 = 0 := by
  obtain ⟨last, hlast⟩ := exists_last_group h
  match last, hlast with
  | [x], hlast =>
    simp only [symbols, List.cons.injEq, and_true] at hlast
    have hvalue := eq_of_symbol_eq (by omega) hn hlast.2
    omega
  | [x, y], hlast =>
    simp only [symbols, List.cons.injEq, and_true] at hlast
    exact absurd hlast.2.2 (symbol_ne_pad _ (by omega))
  | x :: y :: z :: rest, hlast =>
    simp only [symbols, List.cons.injEq] at hlast
    exact absurd hlast.2.2.1 (symbol_ne_pad _ (by omega))

theorem mod_eq_zero_of_one_pad {front : Bytes} {n : Nat} (hn : n < 64)
    (h : symbols bs = front ++ [a, b, symbol n, pad]) : n % 4 = 0 := by
  obtain ⟨last, hlast⟩ := exists_last_group h
  match last, hlast with
  | [x], hlast =>
    simp only [symbols, List.cons.injEq, and_true] at hlast
    exact absurd hlast.2.2 (pad_ne_symbol hn)
  | [x, y], hlast =>
    simp only [symbols, List.cons.injEq, and_true] at hlast
    have hvalue := eq_of_symbol_eq (by omega) hn hlast.2.2
    omega
  | x :: y :: z :: rest, hlast =>
    simp only [symbols, List.cons.injEq] at hlast
    exact absurd hlast.2.2.2.1 (symbol_ne_pad _ (by omega))

end RadioMesh.Text.Base64
