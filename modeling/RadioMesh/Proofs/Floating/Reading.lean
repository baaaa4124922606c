import RadioMesh.Floating.Writing
import RadioMesh.Proofs.Text.Rows

/-!
Rows of digits, with a point among them or without, are read as the number that they spell.
-/

namespace RadioMesh.Floating

open Text

/-! ### Signs -/

theorem signOf_digits_append {cs : List Char} (digits : ∀ c ∈ cs, c.isDigit = true) (hne : cs ≠ [])
    (rest : List Char) : signOf (cs ++ rest) = (false, cs ++ rest) := by
  obtain ⟨c, cs, rfl⟩ := List.exists_cons_of_ne_nil hne
  have hm : c ≠ '-' := ne_of_digits digits rfl List.mem_cons_self
  have hp : c ≠ '+' := ne_of_digits digits rfl List.mem_cons_self
  simp [signOf, hm, hp]

theorem signOf_digits {cs : List Char} (digits : ∀ c ∈ cs, c.isDigit = true) : signOf cs = (false, cs) := by
  cases cs with
  | nil => rfl
  | cons c cs => simpa using signOf_digits_append digits (List.cons_ne_nil c cs) []

theorem signOf_minus {cs : List Char} (h : signOf cs = (false, cs)) (negative : Bool) :
    signOf (minus negative ++ cs) = (negative, cs) := by
  cases negative with
  | false => exact h
  | true => rfl

theorem read_of_signOf {cs rest : List Char} {negative : Bool} {x : Binary64} (hsign : signOf cs = (negative, rest))
    (hne : cs ≠ []) (hx : ofDigits? negative rest = some x) : read (String.ofList cs) = .ok x := by
  unfold read
  rw [String.toList_ofList]
  split
  · exact absurd rfl hne
  · simp only [hsign, hx]
    rfl

/-! ### Digits and a point -/

section Digits

variable {whole part : List Char} (hwhole : ∀ c ∈ whole, c.isDigit = true) (hne : whole ≠ [])
include hwhole hne

theorem read_whole (negative : Bool) :
    read (String.ofList (minus negative ++ whole)) = .ok (ofDecimal negative (digitsValue whole) 0) := by
  refine read_of_signOf (signOf_minus (signOf_digits hwhole) negative) (List.append_ne_nil_of_right_ne_nil _ hne) ?_
  simp only [ofDigits?, span_eq_self hwhole]
  simp [fraction, exponent?, hne]

theorem read_point (hpart : ∀ c ∈ part, c.isDigit = true) (negative : Bool) :
    read (String.ofList (minus negative ++ (whole ++ '.' :: part))) =
      .ok (ofDecimal negative (digitsValue (whole ++ part)) (-part.length)) := by
  have hpoint : Char.isDigit '.' = false := rfl
  have hsign := signOf_digits_append hwhole hne ('.' :: part)
  refine read_of_signOf (signOf_minus hsign negative) (by simp) ?_
  simp only [ofDigits?, span_append_cons hwhole hpoint, fraction, span_eq_self hpart]
  simp [exponent?, hne]

end Digits

end RadioMesh.Floating
