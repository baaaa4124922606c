import RadioMesh.Proofs.Wire.Varint
import RadioMesh.Wire.Schema

/-!
How long values, fields and messages are at most. A number takes a byte for every seven bits, and a field takes its
key besides its value; what a message takes is bounded field by field.
-/

namespace RadioMesh.Wire

/-! ### Numbers and lengths -/

theorem Varint.size_le_of_lt {n k : Nat} (hk : 0 < k) (h : n < 2 ^ (7 * k)) : Varint.size n ≤ k := by
  have hlog : n.log2 < 7 * k := by
    rcases Nat.eq_zero_or_pos n with rfl | hpos
    · rw [Nat.log2_zero]
      omega
    · exact (Nat.log2_lt (Nat.ne_of_gt hpos)).2 h
  rw [Varint.size]
  omega

theorem Varint.size_le {n : Nat} (h : n < 2 ^ 64) : Varint.size n ≤ 10 :=
  size_le_of_lt (by decide) (Nat.lt_trans h (by decide))

theorem Varint.size_mono {n k : Nat} (h : n ≤ k) : Varint.size n ≤ Varint.size k := by
  have hlog : Nat.log 2 n ≤ Nat.log 2 k := Nat.log_mono_right h
  rw [← Nat.log2_eq_log_two, ← Nat.log2_eq_log_two] at hlog
  exact Nat.add_le_add_right (Nat.div_le_div_right hlog) 1

theorem delimitedSize_mono {n k : Nat} (h : n ≤ k) : delimitedSize n ≤ delimitedSize k :=
  Nat.add_le_add (Varint.size_mono h) h

/-! ### Values -/

namespace Scalar

theorem size_put_uint32_le (v : UInt32) : (uint32.put v).size ≤ 5 := by
  refine Varint.size_le_of_lt (by decide) ?_
  rw [UInt32.toNat_toUInt64]
  exact Nat.lt_trans v.toNat_lt (by decide)

/-- Negative numbers take ten bytes. -/
theorem size_put_int32_le (v : Int32) : (int32.put v).size ≤ 10 :=
  Varint.size_le (UInt64.toNat_lt _)

theorem size_put_bool_le (v : Bool) : (bool.put v).size ≤ 1 := by
  cases v <;> decide

theorem size_put_bytes_le {v : Bytes} {n : Nat} (h : v.length ≤ n) : (bytes.put v).size ≤ delimitedSize n :=
  delimitedSize_mono h

theorem size_put_text_le {v : String} {n : Nat} (h : v.utf8ByteSize ≤ n) : (text.put v).size ≤ delimitedSize n :=
  delimitedSize_mono h

theorem foldr_size_le {α : Type} {s : Scalar α} {k : Nat} (hk : ∀ v, (s.put v).size ≤ k) (vs : List α) :
    vs.foldr (fun v n => (s.put v).size + n) 0 ≤ k * vs.length := by
  induction vs with
  | nil => exact Nat.zero_le _
  | cons v vs ih =>
    have hv := hk v
    rw [List.foldr_cons, List.length_cons, Nat.mul_succ]
    omega

end Scalar

/-! ### Fields -/

namespace Field

variable {M N α : Type} {m : M} {number k : Nat} {name : String} {s : Scalar α}

theorem length_plain_le {get : M → α} {set : α → M → M} (h : (s.put (get m)).size ≤ k) :
    (plain number name s get set).length m ≤ keySize number + k := by
  show (if _ then 0 else _) ≤ _
  split
  · exact Nat.zero_le _
  · exact Nat.add_le_add_left h _

theorem length_plain_omitted_le {get : M → α} {set : α → M → M} (h : s.omits (get m) = true) :
    (plain number name s get set).length m ≤ 0 :=
  Nat.le_of_eq (if_pos h)

theorem length_optional_le {get : M → Option α} {set : Option α → M → M} (h : ∀ v ∈ get m, (s.put v).size ≤ k) :
    (optional number name s get set).length m ≤ keySize number + k := by
  show (get m).elim 0 _ ≤ _
  cases hv : get m with
  | none => exact Nat.zero_le _
  | some v => exact Nat.add_le_add_left (h v hv) _

theorem length_packed_le {get : M → List α} {set : List α → M → M} (h : ∀ v, (s.put v).size ≤ k) :
    (packed number name s get set).length m ≤ keySize number + delimitedSize (k * (get m).length) := by
  show (if _ then 0 else _) ≤ _
  split
  · exact Nat.zero_le _
  · exact Nat.add_le_add_left (delimitedSize_mono (Scalar.foldr_size_le h (get m))) _

theorem length_messages_le {s : Schema N} {get : M → List N} {set : List N → M → M}
    (h : ∀ v ∈ get m, delimitedSize (s.encodedLength v) ≤ k) :
    (messages number name s get set).length m ≤ (keySize number + k) * (get m).length := by
  show (get m).foldr _ 0 ≤ _
  generalize get m = vs at h
  induction vs with
  | nil => exact Nat.zero_le _
  | cons v vs ih =>
    have hv := h v List.mem_cons_self
    have hvs := ih fun w hw => h w (List.mem_cons_of_mem v hw)
    rw [List.foldr_cons, List.length_cons, Nat.mul_succ]
    omega

end Field

/-! ### Messages -/

theorem Schema.encodedLength_le {M : Type} {m : M} {s : Schema M} {ks : List Nat}
    (h : List.Forall₂ (fun f k => f.length m ≤ k) s.fields ks) : s.encodedLength m ≤ ks.sum := by
  rw [encodedLength]
  generalize s.fields = fs at h
  induction h with
  | nil => exact Nat.le_refl 0
  | cons hf _ ih =>
    rw [List.foldr_cons, List.sum_cons]
    exact Nat.add_le_add hf ih

end RadioMesh.Wire
