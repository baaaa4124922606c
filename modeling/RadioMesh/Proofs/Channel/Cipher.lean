import RadioMesh.Channel.Cipher
import RadioMesh.Proofs.Cipher.Block
import RadioMesh.Proofs.Message.Length

/-!
Data that was covered with a channel's key is read with the same key.
-/

namespace RadioMesh

/-- A key that covers data, or none. -/
def IsChannelKey (key : Bytes) : Prop :=
  key.length = 0 ∨ key.length = 16 ∨ key.length = 32

theorem applyKey_symm {key data covered : Bytes} {id sender : UInt32}
    (h : applyKey key data id sender = .ok covered) : applyKey key covered id sender = .ok data := by
  unfold applyKey at h ⊢
  split at h
  · next hnil =>
    cases h
    exact if_pos hnil
  · next hnil =>
    split at h
    · next hlength =>
      cases h
      rw [if_neg hnil, if_pos hlength, Cipher.counterMode_counterMode]
    · cases h

theorem isChannelKey_of_applyKey {key data covered : Bytes} {id sender : UInt32}
    (h : applyKey key data id sender = .ok covered) : IsChannelKey key := by
  unfold applyKey at h
  split at h
  · next hnil => exact .inl (List.length_eq_zero_iff.2 hnil)
  · split at h
    · next hlength => exact .inr hlength
    · cases h

theorem exists_applyKey {key : Bytes} (hkey : IsChannelKey key) (data : Bytes) (id sender : UInt32) :
    ∃ covered, applyKey key data id sender = .ok covered ∧ applyKey key covered id sender = .ok data := by
  have hcovered : ∃ covered, applyKey key data id sender = .ok covered := by
    unfold applyKey
    by_cases hnil : key = []
    · exact ⟨data, if_pos hnil⟩
    · have hlength : key.length = 16 ∨ key.length = 32 :=
        hkey.resolve_left fun h => hnil (List.length_eq_zero_iff.1 h)
      rw [if_neg hnil, if_pos hlength]
      exact ⟨_, rfl⟩
  obtain ⟨covered, hcovered⟩ := hcovered
  exact ⟨covered, hcovered, applyKey_symm hcovered⟩

theorem applyKey_of_not_isChannelKey {key : Bytes} (hkey : ¬IsChannelKey key) (data : Bytes) (id sender : UInt32) :
    applyKey key data id sender = .error (.keyLength key.length) := by
  have hne : key ≠ [] := fun hnil => hkey (.inl (List.length_eq_zero_iff.2 hnil))
  have hlength : ¬(key.length = 16 ∨ key.length = 32) := fun h => hkey (.inr h)
  rw [applyKey, if_neg hne, if_neg hlength]

theorem applyKey_eq_error_iff {key data : Bytes} {id sender : UInt32} {e : CryptoError} :
    applyKey key data id sender = .error e ↔ ¬IsChannelKey key ∧ e = .keyLength key.length := by
  by_cases hkey : IsChannelKey key
  · obtain ⟨covered, hcovered, -⟩ := exists_applyKey hkey data id sender
    rw [hcovered]
    exact ⟨(nomatch ·), fun h => absurd hkey h.1⟩
  · rw [applyKey_of_not_isChannelKey hkey]
    exact ⟨fun h => by cases h; exact ⟨hkey, rfl⟩, fun h => by rw [h.2]⟩

/-! ### Data records -/

theorem Port.ofNumber?_number (p : Port) : Port.ofNumber? p.number = some p := by
  cases p <;> rfl

namespace Data

open Wire

theorem port_ne_unknown_iff {data : Data} :
    data.port ≠ .unknown ↔ data.portNumber ≠ 0 ∧ ∃ port : Port, port.number = data.portNumber := by
  rw [port]
  constructor
  · intro hknown
    cases hport : Port.ofNumber? data.portNumber with
    | none => exact absurd (by rw [hport]; rfl) hknown
    | some known =>
      have hnumber := List.find?_some hport
      refine ⟨fun hzero => hknown ?_, known, eq_of_beq hnumber⟩
      rw [hzero]
      rfl
  · rintro ⟨hzero, known, hnumber⟩ hunknown
    rw [← hnumber, Port.ofNumber?_number, Option.getD_some] at hunknown
    rw [← hnumber, hunknown] at hzero
    exact hzero rfl

theorem read_eq_ok_iff {plain : Bytes} {data : Data} :
    read plain = .ok data ↔ schema.decode? plain = some data ∧ data.port ≠ .unknown := by
  rw [read]
  cases schema.decode? plain with
  | none => simp
  | some decoded =>
    by_cases hport : decoded.port = .unknown
    · simp only [if_pos hport, Option.some.injEq, reduceCtorEq, false_iff, not_and, not_not]
      exact fun h => h ▸ hport
    · simp only [if_neg hport, Except.ok.injEq, Option.some.injEq]
      exact ⟨fun h => ⟨h, h ▸ hport⟩, fun h => h.1⟩

theorem read_encode {d : Data} (hport : d.port ≠ .unknown) (hlength : d.payload.length < 2 ^ 60) :
    read (schema.encode d) = .ok d := by
  have hle := length_encode_le (d := d) (by omega)
  have hdecode := roundTrips.decode?_encode (by decide) (m := d) (by omega)
  exact read_eq_ok_iff.2 ⟨hdecode, hport⟩

end Data

end RadioMesh
