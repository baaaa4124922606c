import RadioMesh.NodeId
import RadioMesh.Proofs.Bytes

/-!
Which texts name a node. A node has many names, with the mark or without, in either case, with zeros in front or not;
the one that is written for it is the longest of them in lower case.
-/

namespace RadioMesh

/-! ### Digits -/

/-- A character that stands for a hexadecimal digit, in either case. -/
def WritesDigit (c : Char) (d : Nat) : Prop :=
  d < 16 ∧ (c = Nat.digitChar d ∨ c = (Nat.digitChar d).toUpper)

namespace Bytes

theorem hexDigit_eq : ∀ d < 16, hexDigit d = Nat.digitChar d := by
  decide

theorem toNat_of_hexValue? {c : Char} {d : Nat} (h : hexValue? c = some d) : c.toNat < 103 := by
  have hle {c c' : Char} (h : c ≤ c') : c.toNat ≤ c'.toNat := h
  unfold hexValue? at h
  split at h
  · next hc => exact (hle hc.2).trans_lt (by decide)
  · split at h
    · next hc => exact (hle hc.2).trans_lt (by decide)
    · split at h
      · next hc => exact (hle hc.2).trans_lt (by decide)
      · cases h

theorem hexValue?_eq_some_iff {c : Char} {d : Nat} : hexValue? c = some d ↔ WritesDigit c d := by
  constructor
  · have hascii : ∀ n < 103, ∀ d ∈ hexValue? (Char.ofNat n),
        d < 16 ∧ (Char.ofNat n = Nat.digitChar d ∨ Char.ofNat n = (Nat.digitChar d).toUpper) := by
      decide +kernel
    intro h
    have hwrites := hascii c.toNat (toNat_of_hexValue? h)
    rw [Char.ofNat_toNat] at hwrites
    exact hwrites d h
  · have hlower : ∀ d < 16, hexValue? (Nat.digitChar d) = some d := by decide
    have hupper : ∀ d < 16, hexValue? (Nat.digitChar d).toUpper = some d := by decide
    rintro ⟨hd, rfl | rfl⟩
    · exact hlower d hd
    · exact hupper d hd

end Bytes

/-! ### Reading -/

namespace NodeId

variable {s : String} {cs : List Char} {ds : List Nat} {n : NodeId}

/-- The number of a row of digits, the first one counting most. -/
def digitsValue (ds : List Nat) : Nat :=
  Nat.ofDigits 16 ds.reverse

theorem digitsValue_eq_foldl (ds : List Nat) : digitsValue ds = ds.foldl (fun n d => 16 * n + d) 0 := by
  rw [digitsValue, Nat.ofDigits_eq_foldr, List.foldr_reverse]
  simp only [Nat.cast_id, Nat.add_comm]

theorem lt_of_writes (h : List.Forall₂ WritesDigit cs ds) : ∀ d ∈ ds, d < 16 := by
  induction h with
  | nil => exact fun _ hd => nomatch hd
  | cons hc _ ih => exact List.forall_mem_cons.2 ⟨hc.1, ih⟩

theorem digitsValue_lt (h : ∀ d ∈ ds, d < 16) (hlength : ds.length ≤ 8) : digitsValue ds < UInt32.size := by
  have hlt := Nat.ofDigits_lt_base_pow_length (b := 16) (l := ds.reverse) (by decide) fun d hd =>
    h d (List.mem_reverse.1 hd)
  rw [List.length_reverse] at hlt
  exact hlt.trans_le (Nat.pow_le_pow_right (by decide) hlength)

theorem foldlM_eq_some_iff {n v : Nat} :
    cs.foldlM (fun n c => (Bytes.hexValue? c).map fun d => 16 * n + d) n = some v ↔
      ∃ ds, List.Forall₂ WritesDigit cs ds ∧ v = ds.foldl (fun n d => 16 * n + d) n := by
  induction cs generalizing n with
  | nil =>
    simp only [List.forall₂_nil_left_iff, exists_eq_left, List.foldl_nil, List.foldlM_nil]
    exact ⟨fun h => (Option.some.inj h).symm, fun h => congrArg some h.symm⟩
  | cons c cs ih =>
    rw [List.foldlM_cons, Option.bind_eq_bind, Option.bind_eq_some_iff]
    simp only [Option.map_eq_some_iff, Bytes.hexValue?_eq_some_iff]
    constructor
    · rintro ⟨_, ⟨d, hd, rfl⟩, hrest⟩
      obtain ⟨ds, hds, rfl⟩ := ih.1 hrest
      exact ⟨d :: ds, .cons hd hds, rfl⟩
    · rintro ⟨_, hds, rfl⟩
      cases hds with
      | cons hd hds => exact ⟨_, ⟨_, hd, rfl⟩, ih.2 ⟨_, hds, rfl⟩⟩

theorem digitsValue?_eq_some_iff {v : Nat} :
    digitsValue? cs = some v ↔ ∃ ds, List.Forall₂ WritesDigit cs ds ∧ v = digitsValue ds := by
  simp only [digitsValue?, foldlM_eq_some_iff, digitsValue_eq_foldl]

/-- A text without one mark in front, if there is one. -/
def unmarked : List Char → List Char
  | '!' :: rest => rest
  | cs => cs

/-- One to eight digits, with or without the mark in front. -/
structure Spells (s : String) (ds : List Nat) : Prop where
  digits : List.Forall₂ WritesDigit (unmarked s.toList) ds
  pos : 1 ≤ ds.length
  length : ds.length ≤ 8

theorem ofText?_eq_some_iff : ofText? s = some n ↔ ∃ ds, Spells s ds ∧ digitsValue ds = n.value.toNat := by
  have hread : ofText? s = if unmarked s.toList = [] ∨ 8 < (unmarked s.toList).length then none
      else (digitsValue? (unmarked s.toList)).map fun n => ⟨UInt32.ofNat n⟩ := rfl
  rw [hread]
  constructor
  · intro h
    split at h
    · cases h
    · next hlength =>
      obtain ⟨v, hv, rfl⟩ := Option.map_eq_some_iff.1 h
      obtain ⟨ds, hds, rfl⟩ := digitsValue?_eq_some_iff.1 hv
      rw [not_or, hds.length_eq, ← List.length_eq_zero_iff, hds.length_eq] at hlength
      have hle : ds.length ≤ 8 := by omega
      refine ⟨ds, ⟨hds, by omega, hle⟩, ?_⟩
      exact (UInt32.toNat_ofNat_of_lt' (digitsValue_lt (lt_of_writes hds) hle)).symm
  · rintro ⟨ds, ⟨hds, hpos, hle⟩, hvalue⟩
    rw [if_neg (by rw [not_or, hds.length_eq, ← List.length_eq_zero_iff, hds.length_eq]; omega),
      digitsValue?_eq_some_iff.2 ⟨ds, hds, rfl⟩, hvalue, Option.map_some, UInt32.ofNat_toNat]

/-! ### Writing -/

/-- The eight digits of a node, as numbers. -/
def nibbles (n : NodeId) : List Nat :=
  n.bytes.flatMap fun b => [b.toNat / 16, b.toNat % 16]

theorem lt_of_mem_nibbles (n : NodeId) : ∀ d ∈ n.nibbles, d < 16 := by
  intro d hd
  obtain ⟨b, -, hb⟩ := List.mem_flatMap.1 hd
  have hlt := b.toNat_lt
  simp only [List.mem_cons, List.not_mem_nil, or_false] at hb
  omega

theorem length_nibbles (n : NodeId) : n.nibbles.length = 8 := rfl

theorem digitsValue_nibbles (n : NodeId) : digitsValue n.nibbles = n.value.toNat := by
  have hlt := n.value.toNat_lt
  rw [digitsValue_eq_foldl]
  simp only [nibbles, bytes, Bytes.ofWord32, List.reverse_cons, List.reverse_nil, List.nil_append, List.cons_append,
    List.flatMap_cons, List.flatMap_nil, List.foldl_cons, List.foldl_nil, UInt32.toNat_toUInt8,
    UInt32.toNat_shiftRight, UInt32.reduceToNat, Nat.reduceMod, Nat.shiftRight_eq_div_pow]
  omega

theorem toList_text (n : NodeId) : n.text.toList = '!' :: n.nibbles.map Nat.digitChar := by
  rw [text, String.toList_ofList, digits, nibbles, List.map_flatMap]
  refine congrArg _ (List.flatMap_congr fun b _ => ?_)
  have hb := b.toNat_lt
  rw [Bytes.hexDigit_eq _ (by omega), Bytes.hexDigit_eq _ (by omega)]
  rfl

theorem spells_text (n : NodeId) : Spells n.text n.nibbles := by
  refine ⟨?_, n.length_nibbles ▸ by decide, n.length_nibbles.le⟩
  rw [toList_text]
  show List.Forall₂ WritesDigit (n.nibbles.map Nat.digitChar) n.nibbles
  rw [List.forall₂_map_left_iff, List.forall₂_same]
  exact fun d hd => ⟨n.lt_of_mem_nibbles d hd, .inl rfl⟩

theorem ofText?_text (n : NodeId) : ofText? n.text = some n :=
  ofText?_eq_some_iff.2 ⟨_, n.spells_text, n.digitsValue_nibbles⟩

/-- The digits that are written are those that were read, behind zeros that fill them up to eight. -/
theorem nibbles_of_spells (h : Spells s ds) (hvalue : digitsValue ds = n.value.toNat) :
    n.nibbles = List.replicate (8 - ds.length) 0 ++ ds := by
  have hds := lt_of_writes h.digits
  have hlength := h.length
  refine List.reverse_injective (Nat.ofDigits_inj_of_len_eq (b := 16) (by decide) ?_ ?_ ?_ ?_)
  · rw [List.length_reverse, List.length_reverse, length_nibbles, List.length_append, List.length_replicate]
    omega
  · exact fun d hd => n.lt_of_mem_nibbles d (List.mem_reverse.1 hd)
  · intro d hd
    rcases List.mem_append.1 (List.mem_reverse.1 hd) with hzero | hd
    · rw [List.eq_of_mem_replicate hzero]
      decide
    · exact hds d hd
  · rw [List.reverse_append, List.reverse_replicate, Nat.ofDigits_append_replicate_zero]
    exact n.digitsValue_nibbles.trans hvalue.symm

/-- A text names a node exactly if it is one to eight hexadecimal digits of the node's number, in either case, behind
one mark or none. What is written for a node is the mark and its eight digits in lower case, which name it; so a name
that is read and written again gets its zeros and its lower case, and no two nodes are written alike. -/
theorem names_exact :
    (∀ s n, ofText? s = some n ↔ ∃ ds, Spells s ds ∧ digitsValue ds = n.value.toNat) ∧
    (∀ n : NodeId, ofText? n.text = some n ∧ ∃ ds, n.text.toList = '!' :: ds.map Nat.digitChar ∧ ds.length = 8 ∧
      (∀ d ∈ ds, d < 16) ∧ digitsValue ds = n.value.toNat) ∧
    (∀ s n, ofText? s = some n → ∃ ds, Spells s ds ∧
      n.text.toList = '!' :: (List.replicate (8 - ds.length) 0 ++ ds).map Nat.digitChar) ∧
    Function.Injective text := by
  refine ⟨fun s n => ofText?_eq_some_iff, fun n => ⟨n.ofText?_text, n.nibbles, n.toList_text, n.length_nibbles,
    n.lt_of_mem_nibbles, n.digitsValue_nibbles⟩, fun s n h => ?_, fun n n' h => ?_⟩
  · obtain ⟨ds, hspells, hvalue⟩ := ofText?_eq_some_iff.1 h
    exact ⟨ds, hspells, by rw [toList_text, nibbles_of_spells hspells hvalue]⟩
  · have hread := n.ofText?_text
    rw [h, ofText?_text] at hread
    exact (Option.some.inj hread).symm

/-- Four digits in both cases without the mark, and what is written for them. -/
theorem names_exact_mixedCase :
    ofText? "1a2B" = some ⟨0x1A2B⟩ ∧ ofText? (text ⟨0x1A2B⟩) = some ⟨0x1A2B⟩ ∧
      ∃ ds, Spells "1a2B" ds ∧
        (text ⟨0x1A2B⟩).toList = '!' :: (List.replicate (8 - ds.length) 0 ++ ds).map Nat.digitChar := by
  have hread : ofText? "1a2B" = some ⟨0x1A2B⟩ := by decide +kernel
  obtain ⟨-, hwritten, hagain, -⟩ := names_exact
  exact ⟨hread, (hwritten ⟨0x1A2B⟩).1, hagain _ _ hread⟩

example : ofText? "!!1a2b" = none ∧ ofText? "!+1a2b" = none ∧ ofText? "123456789" = none := by
  decide +kernel

end NodeId

end RadioMesh
