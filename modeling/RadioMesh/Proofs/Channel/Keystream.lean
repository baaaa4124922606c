import RadioMesh.Proofs.Channel.Cipher
import RadioMesh.Proofs.Cipher.Aes
import RadioMesh.Proofs.Direct

/-!
What a channel's key puts over data. Each byte is xored with one that only the key, the packet, its sender and the
byte's place decide, and no two packets share a block of these: their counters run in parts of the first block that the
counting of the other does not reach, and the cipher of a key is one to one.
-/

namespace RadioMesh

/-! ### Words in a block -/

namespace Bytes

theorem bigEndian_ofWord32_lt (w : UInt32) : Cipher.bigEndian (ofWord32 w) < 2 ^ 32 := by
  have h := Cipher.bigEndian_lt (ofWord32 w)
  rwa [show (ofWord32 w).length = 4 from rfl] at h

theorem bigEndian_ofWord32_inj {a b : UInt32}
    (h : Cipher.bigEndian (ofWord32 a) = Cipher.bigEndian (ofWord32 b)) : a = b :=
  ofWord32_injective (Cipher.bigEndian_inj rfl h)

end Bytes

/-! ### Counters -/

/-- Packet and sender are digits of the first block, each in front of one that is zero. -/
theorem toNat_counterBlock (id sender : UInt32) :
    (counterBlock id sender).toNat =
      Cipher.bigEndian (Bytes.ofWord32 id) * 2 ^ 96 + Cipher.bigEndian (Bytes.ofWord32 sender) * 2 ^ 32 := by
  have hlength (w : UInt32) : (Bytes.ofWord32 w).length = 4 := rfl
  rw [counterBlock, Bytes.ofWord64_toUInt64, Cipher.Block.toNat_ofBytes (by simp [hlength]), Cipher.bigEndian_append,
    Cipher.bigEndian_append, Cipher.bigEndian_replicate_zero]
  simp only [List.length_append, List.length_replicate, hlength]
  ring

theorem toNat_advance_counterBlock (id sender : UInt32) {i : Nat} (hi : i < 2 ^ 32) :
    ((counterBlock id sender).advance i).toNat =
      Cipher.bigEndian (Bytes.ofWord32 id) * 2 ^ 96 + Cipher.bigEndian (Bytes.ofWord32 sender) * 2 ^ 32 + i := by
  have hid := Bytes.bigEndian_ofWord32_lt id
  have hsender := Bytes.bigEndian_ofWord32_lt sender
  rw [Cipher.Block.toNat_advance, toNat_counterBlock]
  omega

/-- No counting leads from one packet's blocks to another's. -/
theorem advance_counterBlock_inj {id sender id' sender' : UInt32} {i j : Nat} (hi : i < 2 ^ 32) (hj : j < 2 ^ 32) :
    (counterBlock id sender).advance i = (counterBlock id' sender').advance j ↔
      id = id' ∧ sender = sender' ∧ i = j := by
  constructor
  · intro h
    have hnumber := congrArg Cipher.Block.toNat h
    rw [toNat_advance_counterBlock id sender hi, toNat_advance_counterBlock id' sender' hj] at hnumber
    have hsender := Bytes.bigEndian_ofWord32_lt sender
    have hsender' := Bytes.bigEndian_ofWord32_lt sender'
    exact ⟨Bytes.bigEndian_ofWord32_inj (by omega), Bytes.bigEndian_ofWord32_inj (by omega), by omega⟩
  · rintro ⟨rfl, rfl, rfl⟩
    rfl

/-- The bound is the last that holds: after as many blocks, the counter goes into the sender. -/
example : (counterBlock 0 0).advance (2 ^ 32) = counterBlock 0 0x01000000 := by decide

theorem nonce_inj {id sender extra id' sender' extra' : UInt32} :
    Direct.nonce id sender extra = Direct.nonce id' sender' extra' ↔
      id = id' ∧ sender = sender' ∧ extra = extra' := by
  constructor
  · intro h
    obtain ⟨hfront, -⟩ := List.append_inj h rfl
    obtain ⟨hfront, hsender⟩ := List.append_inj hfront rfl
    obtain ⟨hid, hextra⟩ := List.append_inj hfront rfl
    exact ⟨Bytes.ofWord32_injective hid, Bytes.ofWord32_injective hsender, Bytes.ofWord32_injective hextra⟩
  · rintro ⟨rfl, rfl, rfl⟩
    rfl

/-! ### Data under a key -/

/-- The block that is put over block `i` of a packet's data. -/
def maskBlock (key : Bytes) (id sender : UInt32) (i : Nat) : Cipher.Block :=
  Cipher.Aes.cipher key ((counterBlock id sender).advance i)

/-- The byte that is put over byte `k`. -/
def maskByte (key : Bytes) (id sender : UInt32) : Nat → UInt8 :=
  Cipher.streamByte (Cipher.Aes.cipher key) (counterBlock id sender)

theorem applyKey_eq_counterMode {key : Bytes} (hkey : key.length = 16 ∨ key.length = 32) (data : Bytes)
    (id sender : UInt32) :
    applyKey key data id sender =
      .ok (Cipher.counterMode (Cipher.Aes.cipher key) (counterBlock id sender) data) := by
  have hne : key ≠ [] := List.ne_nil_of_length_pos (by omega)
  rw [applyKey, if_neg hne, if_pos hkey]

theorem applyKey_eq_mapIdx {key : Bytes} (hkey : key.length = 16 ∨ key.length = 32) (data : Bytes)
    (id sender : UInt32) :
    applyKey key data id sender = .ok (data.mapIdx fun k b => b ^^^ maskByte key id sender k) := by
  rw [applyKey_eq_counterMode hkey, Cipher.counterMode_eq_mapIdx]
  rfl

theorem applyKey_take {key data covered : Bytes} {id sender : UInt32} (hkey : key.length = 16 ∨ key.length = 32)
    (h : applyKey key data id sender = .ok covered) (n : Nat) :
    applyKey key (data.take n) id sender = .ok (covered.take n) := by
  rw [applyKey_eq_counterMode hkey] at h ⊢
  cases h
  rw [Cipher.counterMode_take]

/-- What data under a key is to the data. -/
structure Covers (key : Bytes) (id sender : UInt32) (data covered : Bytes) : Prop where
  length : covered.length = data.length
  clear : key = [] → covered = data
  byte : key ≠ [] → ∀ k, covered[k]? = data[k]?.map (· ^^^ maskByte key id sender k)
  front : ∀ n, applyKey key (data.take n) id sender = .ok (covered.take n)
  back : applyKey key covered id sender = .ok data

theorem covers_of_applyKey {key data covered : Bytes} {id sender : UInt32}
    (h : applyKey key data id sender = .ok covered) : Covers key id sender data covered := by
  have hback := applyKey_symm h
  rcases isChannelKey_of_applyKey h with hzero | hkey
  · obtain rfl := List.length_eq_zero_iff.1 hzero
    cases h
    exact ⟨rfl, fun _ => rfl, fun hne => absurd rfl hne, fun _ => rfl, hback⟩
  · have hfront := applyKey_take hkey h
    have hne : key ≠ [] := List.ne_nil_of_length_pos (by omega)
    rw [applyKey_eq_mapIdx hkey] at h
    cases h
    exact ⟨List.length_mapIdx, fun hnil => absurd hnil hne, fun _ _ => List.getElem?_mapIdx, hfront, hback⟩

/-- Keys of three lengths cover all data, and all others are refused for their length. -/
theorem applyKey_stream (key : Bytes) (id sender : UInt32) :
    (∀ data, (∃ covered, applyKey key data id sender = .ok covered) ↔
      key.length = 0 ∨ key.length = 16 ∨ key.length = 32) ∧
    (∀ data e, applyKey key data id sender = .error e ↔
      ¬(key.length = 0 ∨ key.length = 16 ∨ key.length = 32) ∧ e = .keyLength key.length) ∧
    ∀ data covered, applyKey key data id sender = .ok covered → Covers key id sender data covered := by
  refine ⟨fun data => ⟨?_, fun hkey => ?_⟩, fun data e => applyKey_eq_error_iff, fun data covered => covers_of_applyKey⟩
  · rintro ⟨covered, hcovered⟩
    exact isChannelKey_of_applyKey hcovered
  · obtain ⟨covered, hcovered, -⟩ := exists_applyKey hkey data id sender
    exact ⟨covered, hcovered⟩

/-! ### Two packets -/

/-- Two blocks that are put over data under one key are one only if packet, sender and number are. -/
theorem maskBlock_inj {key : Bytes} {id sender id' sender' : UInt32} {i j : Nat} (hi : i < 2 ^ 32) (hj : j < 2 ^ 32) :
    maskBlock key id sender i = maskBlock key id' sender' j ↔ id = id' ∧ sender = sender' ∧ i = j :=
  (Cipher.Aes.cipher_injective key).eq_iff.trans (advance_counterBlock_inj hi hj)

/-- What is put over a packet's data comes from blocks that no other packet's data gets, and no other sealed packet has
its nonce. -/
theorem keystreams_apart {key : Bytes} (hkey : key.length = 16 ∨ key.length = 32) (id sender id' sender' : UInt32)
    {i j : Nat} (hi : i < 2 ^ 32) (hj : j < 2 ^ 32) :
    (∀ data, applyKey key data id sender = .ok (data.mapIdx fun k b =>
      b ^^^ (maskBlock key id sender (k / 16)).get ⟨k % 16, Nat.mod_lt k (by decide)⟩)) ∧
    ((counterBlock id sender).advance i = (counterBlock id' sender').advance j ↔
      id = id' ∧ sender = sender' ∧ i = j) ∧
    (maskBlock key id sender i = maskBlock key id' sender' j ↔ id = id' ∧ sender = sender' ∧ i = j) ∧
    ∀ extra extra', Direct.nonce id sender extra = Direct.nonce id' sender' extra' ↔
      id = id' ∧ sender = sender' ∧ extra = extra' :=
  ⟨fun data => applyKey_eq_mapIdx hkey data id sender, advance_counterBlock_inj hi hj, maskBlock_inj hi hj,
    fun _ _ => nonce_inj⟩

/-- The last block of one sender's packet and the first of the next sender's. -/
theorem keystreams_apart_next :
    Key.default.length = 16 ∧
      (counterBlock 1 0).advance (2 ^ 32 - 1) ≠ (counterBlock 1 0x01000000).advance 0 ∧
      maskBlock Key.default 1 0 (2 ^ 32 - 1) ≠ maskBlock Key.default 1 0x01000000 0 := by
  have hkey : Key.default.length = 16 := rfl
  obtain ⟨-, hblock, hmask, -⟩ :=
    keystreams_apart (.inl hkey) 1 0 1 0x01000000 (i := 2 ^ 32 - 1) (j := 0) (by decide) (by decide)
  have hsender : (0 : UInt32) ≠ 0x01000000 := by decide
  exact ⟨hkey, fun h => hsender (hblock.1 h).2.1, fun h => hsender (hmask.1 h).2.1⟩

end RadioMesh
