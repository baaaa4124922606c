import RadioMesh.Proofs.Bytes
import RadioMesh.Text.Percent

/-!
Percent escapes are undone: a text is read back from what is written for it, whatever its characters, and what is
written has none of the marks that part the pieces of a URI.
-/

namespace RadioMesh.Text.Percent

/-! ### Escaped bytes -/

def digitByte (n : Nat) : UInt8 :=
  UInt8.ofNat (digit n).toNat

theorem bytes_escaped : ∀ b : UInt8, (escaped b).flatMap String.utf8EncodeChar =
    if isPlain b then [b] else [37, digitByte (b.toNat / 16), digitByte (b.toNat % 16)] := by
  decide +kernel

theorem escape?_digits : ∀ b : UInt8, escape? 37 (digitByte (b.toNat / 16)) (digitByte (b.toNat % 16)) = some b := by
  decide +kernel

theorem ne_percent_of_isPlain : ∀ b : UInt8, isPlain b = true → b ≠ 37 := by
  decide +kernel

/-- The marks between the pieces of a URI, and the one that is read as a blank. -/
def marks : List Char :=
  ['+', ',', ';', '=', '?', '&']

theorem escaped_all_unmarked : ∀ b : UInt8, (escaped b).all (fun c => decide (c ∉ marks)) = true := by
  decide +kernel

theorem escaped_of_isPlain {b : UInt8} (h : isPlain b = true) : escaped b = [Char.ofNat b.toNat] :=
  if_pos h

theorem lt_of_isPlain : ∀ b : UInt8, isPlain b = true → b < 128 := by
  decide +kernel

/-! ### Reading what is written -/

theorem unescape_cons_of_ne {a : UInt8} (h : a ≠ 37) (rest : Bytes) : unescape (a :: rest) = a :: unescape rest := by
  have hnone (x y : UInt8) : escape? a x y = none := by
    unfold escape?
    split
    · exact if_neg h
    · rfl
  match rest with
  | [] => rfl
  | [_] => rfl
  | x :: y :: rest => rw [unescape, hnone]

theorem unescape_escaped (b : UInt8) (rest : Bytes) :
    unescape ((escaped b).flatMap String.utf8EncodeChar ++ rest) = b :: unescape rest := by
  rw [bytes_escaped]
  split
  · next hplain => exact unescape_cons_of_ne (ne_percent_of_isPlain b hplain) rest
  · show unescape (37 :: digitByte (b.toNat / 16) :: digitByte (b.toNat % 16) :: rest) = _
    rw [unescape, escape?_digits]

theorem unescape_ofString_encode (s : String) : unescape (Bytes.ofString (encode s)) = Bytes.ofString s := by
  rw [encode, Bytes.ofString_ofList, List.flatMap_assoc]
  induction Bytes.ofString s with
  | nil => rfl
  | cons b bs ih => rw [List.flatMap_cons, unescape_escaped, ih]

theorem decode_encode (s : String) : decode (encode s) = .ok s := by
  rw [decode, unescape_ofString_encode, Utf8.decode, Utf8.decode?_ofString]

/-! ### The characters that are written -/

theorem not_mem_encode {mark : Char} (h : mark ∈ marks) (s : String) : mark ∉ (encode s).toList := by
  intro hmark
  rw [encode, String.toList_ofList] at hmark
  obtain ⟨b, -, hb⟩ := List.mem_flatMap.1 hmark
  exact of_decide_eq_true (List.all_eq_true.1 (escaped_all_unmarked b) mark hb) h

/-- A text of plain characters stands for itself. -/
theorem encode_eq_self {s : String} (h : ∀ c ∈ s.toList, ∃ b, isPlain b = true ∧ c = Char.ofNat b.toNat) :
    encode s = s := by
  have hself : ∀ c ∈ s.toList, (String.utf8EncodeChar c).flatMap escaped = [c] := fun c hc => by
    obtain ⟨b, hplain, rfl⟩ := h c hc
    rw [Bytes.utf8EncodeChar_ascii (lt_of_isPlain b hplain), List.flatMap_singleton, escaped_of_isPlain hplain]
  have hbytes : Bytes.ofString s = s.toList.flatMap String.utf8EncodeChar := by
    rw [← Bytes.ofString_ofList, String.ofList_toList]
  rw [encode, hbytes, List.flatMap_assoc, List.flatMap_congr hself, List.flatMap_singleton', String.ofList_toList]

end RadioMesh.Text.Percent
