import RadioMesh.Proofs.Floating.Reading
import RadioMesh.Toml.Token

/-!
Whole numbers and truth values are read back up to the end of their line. A row of digits without a zero in
front is a whole number and nothing else: no date, for which it lacks the dashes, and no decimal, for which it
lacks the point.
-/

namespace RadioMesh.Toml

namespace Token

theorem split_append_newline {cs : List Char} (h : ∀ c ∈ cs, isTokenChar c = true) (rest : List Char) :
    split (cs ++ '\n' :: rest) = (cs, '\n' :: rest) := by
  have hend : isTokenChar '\n' = false := rfl
  simp only [split, Text.span_append_cons h hend]
  rfl

/-! ### Rows of digits -/

section Digits

variable {cs : List Char} (digits : ∀ c ∈ cs, c.isDigit = true)
include digits

theorem ungrouped?_digits (hne : cs ≠ []) : ungrouped? Char.isDigit cs = some cs := by
  induction cs with
  | nil => exact absurd rfl hne
  | cons c cs ih =>
    simp only [List.mem_cons, forall_eq_or_imp] at digits
    cases cs with
    | nil => simp [ungrouped?, digits.1]
    | cons d ds =>
      have hd : d ≠ '_' := Text.ne_of_digits digits.2 rfl List.mem_cons_self
      simp [ungrouped?, hd, digits.1, ih digits.2 (List.cons_ne_nil d ds)]

theorem isDatetime_digits : isDatetime cs = false := by
  have htime : afterTime? cs = none := by
    unfold afterTime?
    split
    · exact absurd rfl (Text.ne_of_digits digits (x := ':') rfl (by simp))
    · rfl
  have hdate : isDate (cs.take 10) = false := by
    have digits : ∀ c ∈ cs.take 10, c.isDigit = true := fun c hc => digits c (List.mem_of_mem_take hc)
    unfold isDate
    split
    · rename_i h
      rw [h] at digits
      exact absurd rfl (Text.ne_of_digits digits (x := '-') rfl (by simp))
    · rfl
  simp [isDatetime, htime, hdate]

theorem isDecimal_digits : isDecimal cs = false := by
  have hall : ∀ c ∈ cs, (decide (c ≠ '.') && !isExponentMark c) = true := fun c hc => by
    have hdot := Text.ne_of_digits digits (x := '.') rfl hc
    have hlower := Text.ne_of_digits digits (x := 'e') rfl hc
    have hupper := Text.ne_of_digits digits (x := 'E') rfl hc
    simp [isExponentMark, hdot, hlower, hupper]
  have hspan : cs.span (fun c => decide (c ≠ '.') && !isExponentMark c) = (cs, []) := Text.span_eq_self hall
  simp only [isDecimal, Floating.signOf_digits digits, hspan, Bool.and_false]

theorem integer?_digits (hne : cs ≠ []) (zero : cs.head? = some '0' → cs = ['0']) :
    integer? cs = inRange? (numeral 10 cs) := by
  have hx : ∀ ds, cs ≠ '0' :: 'x' :: ds := fun ds h => by simp [h] at zero
  have ho : ∀ ds, cs ≠ '0' :: 'o' :: ds := fun ds h => by simp [h] at zero
  have hb : ∀ ds, cs ≠ '0' :: 'b' :: ds := fun ds h => by simp [h] at zero
  have hwhole : wholeDigits? cs = some cs := by
    simp only [wholeDigits?, ungrouped?_digits digits hne, Option.bind_eq_bind, Option.bind_some]
    exact if_neg fun h => h.2 (zero h.1)
  rw [integer?]
  · simp [Floating.signOf_digits digits, hwhole, Binary64.signed]
  all_goals assumption

theorem value?_digits (hne : cs ≠ []) (zero : cs.head? = some '0' → cs = ['0']) {n : Int}
    (h : inRange? (numeral 10 cs) = some n) : value? cs = some (.integer n) := by
  have hletter : ∀ x : Char, x.isDigit = false → x ∉ cs := fun x hx hc => Text.ne_of_digits digits hx hc rfl
  have htrue : cs ≠ ['t', 'r', 'u', 'e'] := fun h => hletter 't' rfl (by simp [h])
  have hfalse : cs ≠ ['f', 'a', 'l', 's', 'e'] := fun h => hletter 'f' rfl (by simp [h])
  have hinf : cs ≠ ['i', 'n', 'f'] := fun h => hletter 'i' rfl (by simp [h])
  have hnan : cs ≠ ['n', 'a', 'n'] := fun h => hletter 'n' rfl (by simp [h])
  simp [value?, htrue, hfalse, isDatetime_digits digits, decimal?, isDecimal_digits digits, namedFloat?,
    Floating.signOf_digits digits, hinf, hnan, integer?_digits digits hne zero, h]

theorem numeral_digits (n : Nat) :
    cs.foldl (fun n c => 10 * n + (Bytes.hexValue? c).getD 0) n = Nat.ofDigitChars 10 cs n := by
  induction cs generalizing n with
  | nil => rfl
  | cons c cs ih =>
    simp only [List.mem_cons, forall_eq_or_imp] at digits
    have hc : '0' ≤ c ∧ c ≤ '9' := by simpa [Char.isDigit, Char.le_def] using digits.1
    rw [List.foldl_cons, ih digits.2, Bytes.hexValue?, if_pos hc]
    rfl

end Digits

/-! ### What is written -/

theorem toDigits_zero_first (n : Nat) (h : (Nat.toDigits 10 n).head? = some '0') : Nat.toDigits 10 n = ['0'] := by
  induction n using Nat.strongRecOn with
  | ind n ih =>
    by_cases hn : n < 10
    · rw [Nat.toDigits_of_lt_base hn] at h ⊢
      simpa using h
    · -- The digits in front are those of a smaller number, which is not zero.
      rw [Nat.toDigits_of_base_le (by decide) (by omega),
        List.head?_append_of_ne_nil _ Nat.toDigits_ne_nil] at h
      have hzero := ih (n / 10) (by omega) h
      have hvalue := Nat.ofDigitChars_ten_toDigits (n := n / 10)
      rw [hzero] at hvalue
      have : n / 10 = 0 := hvalue.symm
      omega

theorem read?_number {n : Nat} (h : (n : Int) ≤ Int64.maxValue.toInt) (rest : List Char) :
    read? ((toString n).toList ++ '\n' :: rest) = some (.integer n, '\n' :: rest) := by
  have hdigits := Text.digits_toDigits n
  have hrange : inRange? (numeral 10 (Nat.toDigits 10 n)) = some (n : Int) := by
    rw [numeral, numeral_digits hdigits, Nat.ofDigitChars_ten_toDigits, inRange?, if_pos]
    exact ⟨Int.le_trans (by decide) (Int.natCast_nonneg n), h⟩
  have htoken : ∀ c ∈ Nat.toDigits 10 n, isTokenChar c = true := fun c hc => by
    simp [isTokenChar, Char.isAlphanum, hdigits c hc]
  rw [Nat.toString_eq_ofList_toDigits, String.toList_ofList, read?, split_append_newline htoken]
  simp [value?_digits hdigits Nat.toDigits_ne_nil (toDigits_zero_first n) hrange]

theorem read?_truth (b : Bool) (rest : List Char) :
    read? ((toString b).toList ++ '\n' :: rest) = some (.boolean b, '\n' :: rest) := by
  have htoken : (toString b).toList.all isTokenChar = true := by cases b <;> rfl
  rw [read?, split_append_newline (List.all_eq_true.mp htoken)]
  cases b <;> rfl

end Token

end RadioMesh.Toml
