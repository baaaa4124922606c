import RadioMesh.Proofs.Bytes
import RadioMesh.Proofs.Wire.Varint
import RadioMesh.Wire.Record

/-!
Records are read back as they were written. A record that can be written has a field number that a key
holds, and its payload is no group and not longer than a length can say.
-/

namespace RadioMesh.Wire

/-- A field number that fits a key. -/
def IsFieldNumber (number : Nat) : Prop :=
  0 < number ∧ number < 2 ^ 29

/-- No group, and no longer than a length of 64 bits can say. -/
def Payload.Sound : Payload → Prop
  | .bytes b => b.length < 2 ^ 64
  | .group => False
  | _ => True

structure Record.Sound (r : Record) : Prop where
  number : IsFieldNumber r.number
  payload : r.payload.Sound

/-! ### Keys -/

theorem Form.ofCode?_code (form : Form) : Form.ofCode? form.code = some form := by
  cases form <;> rfl

theorem Form.code_le (form : Form) : form.code ≤ 5 := by
  cases form <;> decide

theorem readKey?_writeKey {number : Nat} (hn : IsFieldNumber number) (form : Form) (rest : Bytes) :
    readKey? (writeKey number form ++ rest) = some ((number, form), rest) := by
  have hcode := form.code_le
  have hsize : UInt32.size = 2 ^ 32 := rfl
  obtain ⟨hpos, hlt⟩ := hn
  have hread := Varint.read?_write (show 8 * number + form.code < 2 ^ 64 by omega) rest
  have hmod : (8 * number + form.code) % 8 = form.code := by omega
  have hdiv : (8 * number + form.code) / 8 = number := by omega
  have hfits : 8 * number + form.code < UInt32.size ∧ 8 ≤ 8 * number + form.code := by omega
  rw [readKey?, writeKey, hread]
  simp only [hmod, hdiv, Form.ofCode?_code, if_pos hfits]

theorem length_writeKey (number : Nat) (form : Form) : (writeKey number form).length = keySize number := by
  have hcode := form.code_le
  rw [writeKey, Varint.length_write, keySize, Varint.size, Varint.size]
  rcases Nat.eq_zero_or_pos number with rfl | hpos
  · cases form <;> decide
  · rw [← Varint.log2_div_two_pow (show 2 ^ 3 ≤ 8 * number + form.code by omega),
      ← Varint.log2_div_two_pow (show 2 ^ 3 ≤ 8 * number by omega),
      show (8 * number + form.code) / 2 ^ 3 = 8 * number / 2 ^ 3 by omega]

/-! ### Payloads -/

theorem take?_append (a b : Bytes) : take? a.length (a ++ b) = some (a, b) := by
  simp [take?]

theorem readWord32?_ofWord32 (w : UInt32) (rest : Bytes) :
    readWord32? (Bytes.ofWord32 w ++ rest) = some (w, rest) := by
  show some (Bytes.word32 _ _ _ _, rest) = _
  rw [Bytes.word32_ofWord32]

theorem readWord64?_ofWord64 (w : UInt64) (rest : Bytes) :
    readWord64? (Bytes.ofWord64 w ++ rest) = some (w, rest) := by
  rw [readWord64?, Bytes.ofWord64, List.append_assoc, readWord32?_ofWord32]
  simp only [Option.bind_eq_bind, Option.bind_some, readWord32?_ofWord32, Bytes.low_or_high, Option.pure_def]

theorem readBytes?_write {b : Bytes} (hb : b.length < 2 ^ 64) (rest : Bytes) :
    readBytes? (Varint.write b.length ++ b ++ rest) = some (b, rest) := by
  rw [readBytes?, List.append_assoc, Varint.read?_write hb]
  exact take?_append b rest

theorem readPlain?_content {p : Payload} (hp : p.Sound) (rest : Bytes) :
    readPlain? p.form (p.content ++ rest) = some (p, rest) := by
  cases p with
  | varint n =>
    simp only [Payload.form, Payload.content, readPlain?, Varint.read?_write n.toNat_lt, Option.map_some,
      UInt64.ofNat_toNat]
  | fixed64 w => simp only [Payload.form, Payload.content, readPlain?, readWord64?_ofWord64, Option.map_some]
  | bytes b => simp only [Payload.form, Payload.content, readPlain?, readBytes?_write hp, Option.map_some]
  | group => exact hp.elim
  | fixed32 w => simp only [Payload.form, Payload.content, readPlain?, readWord32?_ofWord32, Option.map_some]

theorem length_content (p : Payload) : p.content.length = p.size := by
  cases p with
  | varint n => exact Varint.length_write _
  | fixed64 w => rfl
  | bytes b => rw [Payload.content, List.length_append, Varint.length_write]; rfl
  | group => rfl
  | fixed32 w => rfl

/-! ### Records -/

theorem Record.Sound.write_eq {r : Record} (h : r.Sound) :
    r.write = writeKey r.number r.payload.form ++ r.payload.content := by
  have hne : r.payload ≠ .group := fun hg => by
    have := h.payload
    rw [hg] at this
    exact this
  rw [Record.write, if_neg hne, List.append_nil]

theorem Record.Sound.readRecord?_write {r : Record} (h : r.Sound) (depth : Nat) (rest : Bytes) :
    readRecord? depth (r.write ++ rest) = some (r, rest) := by
  have hplain := readPlain?_content h.payload rest
  have hform : r.payload.form ≠ .groupStart := fun hg => by
    rw [hg] at hplain
    cases hplain
  rw [h.write_eq, List.append_assoc, readRecord?, readKey?_writeKey h.number]
  split
  · next heq => cases heq
  · next heq =>
    simp only [Option.some.injEq, Prod.mk.injEq] at heq
    exact absurd heq.1.2 hform
  · next heq =>
    simp only [Option.some.injEq, Prod.mk.injEq] at heq
    obtain ⟨⟨rfl, rfl⟩, rfl⟩ := heq
    rw [hplain, Option.map_some]

theorem records?_of_readRecord? {depth : Nat} {bs rest : Bytes} {r : Record}
    (h : readRecord? depth bs = some (r, rest)) : records? depth bs = (records? depth rest).map (r :: ·) := by
  cases bs with
  | nil => exact absurd (length_lt_of_readRecord? h) (Nat.not_lt_zero _)
  | cons b bs =>
    rw [records?]
    split
    · next h' => rw [h] at h'; cases h'
    · next h' =>
      rw [h] at h'
      cases h'
      rfl

theorem records?_flatMap_write {rs : List Record} (h : ∀ r ∈ rs, r.Sound) (depth : Nat) :
    records? depth (rs.flatMap Record.write) = some rs := by
  induction rs with
  | nil => rw [List.flatMap_nil, records?]
  | cons r rs ih =>
    have hr := h r List.mem_cons_self
    rw [List.flatMap_cons, records?_of_readRecord? (hr.readRecord?_write depth _),
      ih fun r' hr' => h r' (List.mem_cons_of_mem r hr'), Option.map_some]

/-! ### Packed payloads -/

theorem readPacked?_of_readPlain? {form : Form} {bs rest : Bytes} {p : Payload}
    (h : readPlain? form bs = some (p, rest)) : readPacked? form bs = (readPacked? form rest).map (p :: ·) := by
  cases bs with
  | nil => exact absurd (length_lt_of_readPlain? h) (Nat.not_lt_zero _)
  | cons b bs =>
    rw [readPacked?]
    split
    · next h' => rw [h] at h'; cases h'
    · next h' =>
      rw [h] at h'
      cases h'
      rfl

theorem readPacked?_flatMap_content {form : Form} {ps : List Payload} (hs : ∀ p ∈ ps, p.Sound)
    (hf : ∀ p ∈ ps, p.form = form) : readPacked? form (ps.flatMap Payload.content) = some ps := by
  induction ps with
  | nil => rw [List.flatMap_nil, readPacked?]
  | cons p ps ih =>
    have hp := readPlain?_content (hs p List.mem_cons_self) (ps.flatMap Payload.content)
    rw [hf p List.mem_cons_self] at hp
    rw [List.flatMap_cons, readPacked?_of_readPlain? hp,
      ih (fun q hq => hs q (List.mem_cons_of_mem p hq)) fun q hq => hf q (List.mem_cons_of_mem p hq),
      Option.map_some]

end RadioMesh.Wire
