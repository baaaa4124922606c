import Mathlib.Data.List.Basic
import Mathlib.Data.List.TakeDrop
import Mathlib.Data.List.TakeWhile
import RadioMesh.Text.Blank
import RadioMesh.Text.Number

/-!
Rows of characters of one kind. A row is read up to the first character of another kind, a whole number is read from
its digits, and a text without blanks is its own trimmed form.
-/

namespace RadioMesh.Text

section Span

variable {α : Type} {p : α → Bool} {as : List α}

theorem span_eq_self (h : ∀ a ∈ as, p a = true) : as.span p = (as, []) := by
  rw [List.span_eq_takeWhile_dropWhile, List.takeWhile_eq_self_iff.mpr h, List.dropWhile_eq_nil_iff.mpr h]

/-- A row of characters of one kind ends where one of another kind stands. -/
theorem span_append_cons {b : α} (h : ∀ a ∈ as, p a = true) (hb : p b = false) (rest : List α) :
    (as ++ b :: rest).span p = (as, b :: rest) := by
  rw [List.span_eq_takeWhile_dropWhile, List.takeWhile_append_of_pos h, List.dropWhile_append_of_pos h]
  simp [hb]

end Span

/-! ### Digits -/

theorem ne_of_digits {cs : List Char} (digits : ∀ c ∈ cs, c.isDigit = true) {x : Char} (hx : x.isDigit = false)
    {c : Char} (hc : c ∈ cs) : c ≠ x := by
  rintro rfl
  rw [digits c hc] at hx
  exact absurd hx (by decide)

theorem digits_toDigits (n : Nat) : ∀ c ∈ Nat.toDigits 10 n, c.isDigit = true :=
  fun _ hc => Nat.isDigit_of_mem_toDigits (by decide) (by decide) hc

namespace Number

theorem foldlM_append {cs : List Char} (digits : ∀ c ∈ cs, c.isDigit = true) {n : Nat}
    (h : Nat.ofDigitChars 10 cs n < UInt32.size) : cs.foldlM append n = .ok (Nat.ofDigitChars 10 cs n) := by
  induction cs generalizing n with
  | nil => rfl
  | cons c cs ih =>
    have hgrows (k : Nat) : k ≤ Nat.ofDigitChars 10 cs k := by
      rw [Nat.ofDigitChars_eq_ofDigitChars_zero]
      have hpow : 0 < 10 ^ cs.length := Nat.pow_pos (by decide)
      exact Nat.le_add_right_of_le (Nat.le_mul_of_pos_left k hpow)
    rw [Nat.ofDigitChars_cons] at h ⊢
    have hone : append n c = .ok (10 * n + (c.toNat - 48)) := by
      rw [append, if_pos (digits c List.mem_cons_self)]
      exact if_pos (Nat.lt_of_le_of_lt (hgrows _) h)
    rw [List.foldlM_cons, hone]
    exact ih (fun c' hc' => digits c' (List.mem_cons_of_mem c hc')) h

theorem read_toString (z : UInt32) : read (toString z.toNat) = .ok z := by
  have digits := digits_toDigits z.toNat
  have hvalue : Nat.ofDigitChars 10 (Nat.toDigits 10 z.toNat) 0 = z.toNat := Nat.ofDigitChars_ten_toDigits
  have hfold := foldlM_append digits (hvalue ▸ z.toNat_lt)
  have hne := Nat.toDigits_ne_nil (b := 10) (n := z.toNat)
  rw [read, Nat.toString_eq_ofList_toDigits, String.toList_ofList]
  generalize Nat.toDigits 10 z.toNat = cs at *
  split
  · exact absurd rfl hne
  · exact absurd rfl (ne_of_digits digits (x := '+') rfl List.mem_cons_self)
  · obtain ⟨c, cs, rfl⟩ := List.exists_cons_of_ne_nil hne
    show ((c :: cs).foldlM append 0).map UInt32.ofNat = .ok z
    rw [hfold, hvalue]
    exact congrArg Except.ok UInt32.ofNat_toNat

end Number

/-! ### Blanks -/

theorem dropWhile_isBlank {cs : List Char} (h : ∀ c ∈ cs, isBlank c = false) : cs.dropWhile isBlank = cs := by
  cases cs with
  | nil => rfl
  | cons c cs =>
    rw [List.dropWhile_cons_of_neg]
    rw [h c List.mem_cons_self]
    exact Bool.false_ne_true

theorem trimmed_eq_self {cs : List Char} (h : ∀ c ∈ cs, isBlank c = false) : trimmed cs = cs := by
  rw [trimmed, dropWhile_isBlank h, dropWhile_isBlank fun c hc => h c (List.mem_reverse.1 hc), List.reverse_reverse]

/-- What stands between blanks is their trimmed form. -/
theorem trimmed_append {lead cs trail : List Char} (hlead : ∀ c ∈ lead, isBlank c = true)
    (h : ∀ c ∈ cs, isBlank c = false) (htrail : ∀ c ∈ trail, isBlank c = true) :
    trimmed (lead ++ (cs ++ trail)) = cs := by
  rw [trimmed, List.dropWhile_append_of_pos hlead]
  cases cs with
  | nil =>
    rw [List.nil_append, List.dropWhile_eq_nil_iff.mpr htrail]
    rfl
  | cons c cs =>
    have hfirst : (c :: cs ++ trail).dropWhile isBlank = c :: cs ++ trail :=
      List.dropWhile_cons_of_neg (Bool.eq_false_iff.mp (h c List.mem_cons_self))
    rw [hfirst, List.reverse_append, List.dropWhile_append_of_pos fun c hc => htrail c (List.mem_reverse.1 hc),
      dropWhile_isBlank fun c hc => h c (List.mem_reverse.1 hc), List.reverse_reverse]

end RadioMesh.Text
