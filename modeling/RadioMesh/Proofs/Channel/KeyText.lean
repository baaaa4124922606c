import RadioMesh.Channel.Basic
import RadioMesh.Proofs.Text.Base64
import RadioMesh.Proofs.Text.Rows

/-!
A channel's key text makes the same channel again, but for one key: the default key with a zero as its last
byte is shortened to that zero, which stands for no key.
-/

namespace RadioMesh

namespace Key

open Text.Base64

/-! ### Written keys are read as they are -/

theorem forall_mem_encode {P : Char → Prop} (hsymbol : ∀ n < 64, P (Char.ofNat (symbol n).toNat))
    (hpad : P (Char.ofNat pad.toNat)) (bs : Bytes) : ∀ c ∈ (encode bs).toList, P c := by
  intro c hc
  rw [encode, String.toList_ofList] at hc
  obtain ⟨b, hb, rfl⟩ := List.mem_map.1 hc
  exact (isSymbol_of_mem_symbols hb).of_forall (P := fun b => P (Char.ofNat b.toNat)) hsymbol hpad

theorem missingPadding_encode (bs : Bytes) : missingPadding (encode bs).toList = [] := by
  have hsize : (String.ofList (encode bs).toList).utf8ByteSize % 4 = 0 := by
    rw [String.ofList_toList, ← length_symbols_mod bs, ← ofString_encode]
    rfl
  rw [missingPadding, hsize]
  rfl

theorem normalized_encode (bs : Bytes) : normalized (encode bs) = encode bs := by
  have htrimmed : Text.trimmed (encode bs).toList = (encode bs).toList :=
    Text.trimmed_eq_self (forall_mem_encode (by decide) (by decide) bs)
  have hsame : ∀ c ∈ (encode bs).toList, standardSymbol c = c :=
    forall_mem_encode (P := fun c => standardSymbol c = c) (by decide) (by decide) bs
  have hstandard : (encode bs).toList.map standardSymbol = (encode bs).toList :=
    (List.map_congr_left hsame).trans (List.map_id' _)
  simp only [normalized, htrimmed, hstandard, missingPadding_encode, List.append_nil, String.ofList_toList]

theorem parse_encode (bs : Bytes) : parse (encode bs) = .ok bs := by
  rw [parse, normalized_encode, decode_encode]
  rfl

/-! ### Short forms -/

theorem length_expand_ne_one (index : UInt8) : (expand index).length ≠ 1 := by
  rw [expand]
  split
  · exact Nat.zero_ne_one
  · exact (by decide : 16 ≠ 1)

theorem length_expanded_ne_one (key : Bytes) : (expanded key).length ≠ 1 := by
  unfold expanded
  split
  · next index => exact length_expand_ne_one index
  · next h =>
    intro hone
    obtain ⟨index, rfl⟩ := List.length_eq_one_iff.1 hone
    exact h index rfl

theorem expanded_of_length_ne_one {key : Bytes} (h : key.length ≠ 1) : expanded key = key := by
  unfold expanded
  split
  · exact absurd rfl h
  · rfl

/-- The keys that one byte stands for. -/
theorem exists_last_byte {key : Bytes} (h : key.length = 16 ∧ key.take 15 = defaultPrefix) :
    ∃ index, key.drop 15 = [index] ∧ key = defaultPrefix ++ [index] := by
  obtain ⟨index, hindex⟩ := List.length_eq_one_iff.1 (show (key.drop 15).length = 1 by
    rw [List.length_drop, h.1])
  refine ⟨index, hindex, ?_⟩
  rw [← h.2, ← hindex, List.take_append_drop]

theorem expanded_shortened {key : Bytes} (hlength : key.length ≠ 1) (hzero : key ≠ defaultPrefix ++ [0]) :
    expanded (shortened key) = key := by
  rw [shortened]
  split
  · next h =>
    obtain ⟨index, hdrop, rfl⟩ := exists_last_byte h
    have hindex : index ≠ 0 := fun h0 => hzero (by rw [h0])
    rw [hdrop]
    exact if_neg hindex
  · exact expanded_of_length_ne_one hlength

theorem shortened_ne_nil {key : Bytes} (h : key ≠ []) : shortened key ≠ [] := by
  rw [shortened]
  split
  · next h' =>
    obtain ⟨index, hdrop, -⟩ := exists_last_byte h'
    rw [hdrop]
    exact List.cons_ne_nil index []
  · exact h

end Key

namespace ChannelDef

theorem exists_key_of_ofKeyText {name : String} {key : Option String} {c : ChannelDef}
    (h : ofKeyText name key = .ok c) : ∃ written, c = ⟨name, Key.expanded written⟩ := by
  unfold ofKeyText at h
  split at h
  · exact ⟨[], (Except.ok.inj h).symm⟩
  · next text =>
    split at h
    · exact ⟨[], (Except.ok.inj h).symm⟩
    · cases hparse : Key.parse text with
      | error e => rw [hparse] at h; cases h
      | ok written =>
        rw [hparse] at h
        exact ⟨written, (Except.ok.inj h).symm⟩

/-- What a channel's key text makes, whatever the key. -/
theorem ofKeyText_keyText (name : String) (c : ChannelDef) :
    ofKeyText name (some c.keyText) = .ok ⟨name, if c.key = [] then [] else Key.expanded (Key.shortened c.key)⟩ := by
  rw [keyText, Key.compact?]
  by_cases hempty : c.key = []
  · rw [if_pos hempty, if_pos hempty]
    rfl
  · rw [if_neg hempty, if_neg hempty, Option.getD_some]
    show (if _ = "" then _ else _) = _
    rw [if_neg fun h => Key.shortened_ne_nil hempty (Text.Base64.encode_eq_empty_iff.1 h), Key.parse_encode]
    rfl

theorem keyText_restores_iff {name : String} {key : Option String} {c : ChannelDef}
    (h : ofKeyText name key = .ok c) :
    (ofKeyText name (some c.keyText) = .ok c ↔ c.key ≠ Key.defaultPrefix ++ [0]) ∧
      (c.key = Key.defaultPrefix ++ [0] →
        c.isEncrypted = true ∧ ofKeyText name (some c.keyText) = .ok (unencrypted name)) := by
  obtain ⟨written, hc⟩ := exists_key_of_ofKeyText h
  have hname : c.name = name := by rw [hc]
  have hlength : c.key.length ≠ 1 := by rw [hc]; exact Key.length_expanded_ne_one written
  clear h hc
  subst hname
  have hzero : c.key = Key.defaultPrefix ++ [0] →
      c.isEncrypted = true ∧ ofKeyText c.name (some c.keyText) = .ok (unencrypted c.name) := fun hkey => by
    rw [ofKeyText_keyText, isEncrypted, hkey]
    exact ⟨rfl, rfl⟩
  refine ⟨⟨fun hrestored hkey => ?_, fun hkey => ?_⟩, hzero⟩
  · obtain ⟨hencrypted, hclear⟩ := hzero hkey
    rw [hrestored] at hclear
    rw [Except.ok.inj hclear] at hencrypted
    exact absurd hencrypted Bool.false_ne_true
  · rw [ofKeyText_keyText]
    by_cases hempty : c.key = []
    · rw [if_pos hempty, ← hempty]
    · rw [if_neg hempty, Key.expanded_shortened hlength hkey]

/-- The full text of the key that is lost. -/
def zeroKeyText : String := "1PG7OiApB1nwvP+rz05pAA=="

theorem keyText_restores_iff_zero :
    ofKeyText "LongFast" (some zeroKeyText) = .ok ⟨"LongFast", Key.defaultPrefix ++ [0]⟩ ∧
      ofKeyText "LongFast" (some (ChannelDef.keyText ⟨"LongFast", Key.defaultPrefix ++ [0]⟩)) =
        .ok (unencrypted "LongFast") := by
  have hmade : ofKeyText "LongFast" (some zeroKeyText) = .ok ⟨"LongFast", Key.defaultPrefix ++ [0]⟩ := by
    decide +kernel
  exact ⟨hmade, ((keyText_restores_iff hmade).2 rfl).2⟩

theorem keyText_loses_key : ¬∀ (name : String) (key : Option String) (c : ChannelDef),
    ofKeyText name key = .ok c → ofKeyText name (some c.keyText) = .ok c := fun h => by
  have hmade : ofKeyText "LongFast" (some zeroKeyText) = .ok ⟨"LongFast", Key.defaultPrefix ++ [0]⟩ := by
    decide +kernel
  have hrestored := h _ _ _ hmade
  rw [ofKeyText_keyText] at hrestored
  exact absurd (congrArg ChannelDef.key (Except.ok.inj hrestored)) (by decide)

end ChannelDef

end RadioMesh
