import RadioMesh.Geo.Uri
import RadioMesh.Proofs.Floating.Writing
import RadioMesh.Proofs.Text.Percent

/-!
The pieces of a location's text. What is written between two marks has neither of them, so a text falls apart into the
pieces that it was put together from, and each piece is read as what it was written for.
-/

namespace RadioMesh

/-! ### Written numbers -/

namespace Floating

theorem toNat_of_isNumeral {c : Char} (h : isNumeral c = true) :
    48 ≤ c.toNat ∧ c.toNat ≤ 57 ∨ 65 ≤ c.toNat ∧ c.toNat ≤ 90 ∨ 97 ≤ c.toNat ∧ c.toNat ≤ 122 ∨ c.toNat = 45 ∨
      c.toNat = 46 := by
  simp only [isNumeral, Char.isAlphanum, Char.isAlpha, Char.isUpper, Char.isLower, Char.isDigit, Bool.or_eq_true,
    Bool.and_eq_true, decide_eq_true_eq, beq_iff_eq] at h
  rcases h with (((⟨hlow, hhigh⟩ | ⟨hlow, hhigh⟩) | ⟨hlow, hhigh⟩) | rfl) | rfl
  · exact .inr (.inl ⟨hlow, hhigh⟩)
  · exact .inr (.inr (.inl ⟨hlow, hhigh⟩))
  · exact .inl ⟨hlow, hhigh⟩
  · exact .inr (.inr (.inr (.inl rfl)))
  · exact .inr (.inr (.inr (.inr rfl)))

theorem isBlank_of_isNumeral {c : Char} (h : isNumeral c = true) : Text.isBlank c = false := by
  have hrange := toNat_of_isNumeral h
  simp only [Text.isBlank, Bool.or_eq_false_iff, Bool.and_eq_false_iff, decide_eq_false_iff_not, beq_eq_false_iff_ne]
  omega

theorem exists_plain_of_isNumeral {c : Char} (h : isNumeral c = true) :
    ∃ b, Text.Percent.isPlain b = true ∧ c = Char.ofNat b.toNat := by
  have hrange := toNat_of_isNumeral h
  have hbyte : (UInt8.ofNat c.toNat).toNat = c.toNat := UInt8.toNat_ofNat_of_lt' (by rw [UInt8.size]; omega)
  refine ⟨UInt8.ofNat c.toNat, ?_, by rw [hbyte, Char.ofNat_toNat]⟩
  simp only [Text.Percent.isPlain, Bool.or_eq_true, Bool.and_eq_true, decide_eq_true_eq, beq_iff_eq,
    UInt8.le_iff_toNat_le, ← UInt8.toNat_inj, hbyte, UInt8.reduceToNat]
  omega

end Floating

namespace GeoUri

open Text.Percent

section Numeral
variable {s : String} (h : ∀ c ∈ s.toList, Floating.isNumeral c = true)
include h

theorem encode_numeral : encode s = s :=
  encode_eq_self fun c hc => Floating.exists_plain_of_isNumeral (h c hc)

theorem readNumber_numeral (which : GeoNumber) {x : Binary64} (hread : Floating.read s = .ok x) :
    readNumber which s = .ok x := by
  have htrim : Text.trim s = s := by
    rw [Text.trim, Text.trimmed_eq_self fun c hc => Floating.isBlank_of_isNumeral (h c hc), String.ofList_toList]
  rw [readNumber, htrim, hread]
  rfl

theorem not_mem_numeral {mark : Char} (hmark : Floating.isNumeral mark = false) : mark ∉ s.toList := fun hc => by
  rw [h mark hc] at hmark
  cases hmark

end Numeral

/-! ### Pieces between marks -/

section Marks
variable {mark : Char} {cs : List Char} (h : mark ∉ cs)
include h

theorem unmarked : ∀ c ∈ cs, decide (c ≠ mark) = true :=
  fun _ hc => decide_eq_true fun heq => h (heq ▸ hc)

theorem cut_eq_self : cut mark cs = (cs, none) := by
  rw [cut, Text.span_eq_self (unmarked h)]
  rfl

theorem cut_append_cons (rest : List Char) : cut mark (cs ++ mark :: rest) = (cs, some rest) := by
  rw [cut, Text.span_append_cons (unmarked h) (decide_eq_false (not_not_intro rfl))]
  rfl

theorem split_eq_self : split mark cs = [cs] := by
  induction cs with
  | nil => rfl
  | cons c cs ih =>
    obtain ⟨hc, hcs⟩ := not_or.1 (List.mem_cons.not.1 h)
    rw [split, if_neg (Ne.symm hc), ih hcs]

theorem split_append_cons (rest : List Char) : split mark (cs ++ mark :: rest) = cs :: split mark rest := by
  induction cs with
  | nil => exact if_pos rfl
  | cons c cs ih =>
    obtain ⟨hc, hcs⟩ := not_or.1 (List.mem_cons.not.1 h)
    rw [List.cons_append, split, if_neg (Ne.symm hc), ih hcs]

theorem split_pieces {pieces : List (List Char)} (hpieces : ∀ p ∈ pieces, mark ∉ p) :
    split mark (cs ++ pieces.flatMap (mark :: ·)) = cs :: pieces := by
  induction pieces generalizing cs with
  | nil => rw [List.flatMap_nil, List.append_nil, split_eq_self h]
  | cons p pieces ih =>
    obtain ⟨hp, hrest⟩ := List.forall_mem_cons.1 hpieces
    rw [List.flatMap_cons, List.cons_append, split_append_cons h, ih hp hrest]

theorem not_mem_pieces {other : Char} (hne : mark ≠ other) {pieces : List (List Char)}
    (hpieces : ∀ p ∈ pieces, mark ∉ p) : mark ∉ cs ++ pieces.flatMap (other :: ·) := by
  simp only [List.mem_append, List.mem_flatMap, List.mem_cons, not_or, not_exists, not_and]
  exact ⟨h, fun p hp => ⟨hne, hpieces p hp⟩⟩

end Marks

theorem toList_intercalate_cons (s : String) (ss : List String) :
    ("&".intercalate (s :: ss)).toList = s.toList ++ (ss.map String.toList).flatMap ('&' :: ·) := by
  induction ss generalizing s with
  | nil => simp
  | cons s' ss ih =>
    rw [String.intercalate_cons_of_ne_nil (List.cons_ne_nil s' ss), String.toList_append, String.toList_append, ih,
      List.map_cons, List.flatMap_cons, List.append_assoc]
    rfl

/-! ### Names and values -/

theorem unescape_encode (s : String) : unescape (encode s).toList = .ok s := by
  have hblanks : (encode s).toList.map (fun c => if c = '+' then ' ' else c) = (encode s).toList :=
    (List.map_congr_left fun c hc => if_neg fun heq =>
      not_mem_encode (by decide) s (heq ▸ hc)).trans (List.map_id' _)
  rw [unescape, hblanks, String.ofList_toList, decode_encode]
  rfl

theorem toList_pair (name value : String) :
    (pair name value).toList = (encode name).toList ++ '=' :: (encode value).toList := by
  simp [pair]

theorem pair_ne_nil (name value : String) : (pair name value).toList ≠ [] := by
  rw [toList_pair]
  exact List.append_ne_nil_of_right_ne_nil _ (List.cons_ne_nil _ _)

theorem not_mem_pair {mark : Char} (h : mark ∈ marks) (hne : mark ≠ '=') (name value : String) :
    mark ∉ (pair name value).toList := by
  rw [toList_pair, List.mem_append, List.mem_cons]
  rintro (hname | heq | hvalue)
  · exact not_mem_encode h name hname
  · exact hne heq
  · exact not_mem_encode h value hvalue

theorem readPair_pair (name value : String) : readPair (pair name value).toList = .ok (name, value) := by
  rw [readPair, toList_pair, cut_append_cons (not_mem_encode (by decide) name)]
  simp only [unescape_encode, Option.getD_some]
  rfl

end GeoUri

end RadioMesh
