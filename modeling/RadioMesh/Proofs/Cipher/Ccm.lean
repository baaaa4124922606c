import Mathlib
import RadioMesh.Cipher.Ccm
import RadioMesh.Proofs.Cipher.Block

/-!
What sealing makes of a text, byte by byte. The cover starts behind the block that masks the tag and counts in the last
two bytes of a block, as no text has more blocks than that; the tag is the chain of all blocks of the text. Opening
computes the text and the tag anew, so it accepts what sealing makes of some text, and nothing else.
-/

namespace RadioMesh.Cipher.Ccm

variable (encrypt : Block → Block) (nonce : Bytes)

theorem cover_cover (text : Bytes) : cover encrypt nonce (cover encrypt nonce text) = text :=
  counterMode_counterMode _ _ _

theorem length_cover (text : Bytes) : (cover encrypt nonce text).length = text.length :=
  length_xorBytes (length_le_keystream _ _ _)

theorem length_tag (text : Bytes) : (tag encrypt nonce text).length = tagLength := by
  rw [tag, List.length_take, Vector.length_toList]
  rfl

/-! ### The cover -/

/-- The block with number `i`: a form byte, the nonce, and the number in two bytes. -/
def numbered (i : Nat) : Block :=
  Block.ofBytes (0x01 :: nonce ++ [UInt8.ofNat (i / 256), UInt8.ofNat (i % 256)])

variable {nonce} in
/-- Counting does not reach the nonce. -/
theorem advance_counterStart (hnonce : nonce.length = 13) {i : Nat} (hi : i < 65536) :
    (counterStart nonce).advance i = numbered nonce i := by
  have hstart : (counterStart nonce).toNat = bigEndian (0x01 :: nonce) * 65536 := by
    rw [counterStart, Block.toNat_ofBytes (by simp [hnonce])]
    simp [hnonce]
  have hnumbered : (numbered nonce i).toNat = bigEndian (0x01 :: nonce) * 65536 + i := by
    rw [numbered, Block.toNat_ofBytes (by simp [hnonce]), bigEndian_append]
    simp [hnonce, bigEndian]
    omega
  have hlt := (numbered nonce i).toNat_lt
  refine Block.toNat_inj ?_
  rw [Block.toNat_advance, hstart, hnumbered] at *
  exact Nat.mod_eq_of_lt hlt

variable {nonce} in
/-- Each byte is covered by a byte of the image of a block behind number 0. -/
theorem cover_eq_mapIdx (hnonce : nonce.length = 13) {text : Bytes} (htext : text.length ≤ maxLength) :
    cover encrypt nonce text = text.mapIdx fun k b =>
      b ^^^ (encrypt (numbered nonce (k / 16 + 1))).get ⟨k % 16, Nat.mod_lt k (by decide)⟩ := by
  have hmax : maxLength = 65535 := rfl
  rw [cover, counterMode_eq_mapIdx]
  refine List.ext_getElem? fun k => ?_
  rw [List.getElem?_mapIdx, List.getElem?_mapIdx]
  rcases Nat.lt_or_ge k text.length with hin | hout
  · rw [streamByte, Block.advance_advance, Nat.add_comm 1, advance_counterStart hnonce (by omega)]
  · rw [List.getElem?_eq_none hout, Option.map_none, Option.map_none]

/-! ### The tag -/

/-- Block `i` of a text, filled up with zeros if the text ends in it. -/
def textBlock (text : Bytes) (i : Nat) : Block :=
  Block.ofBytes (text.drop (16 * i))

/-- The chain over the first blocks of a text: each block is xored to what the chain has come to, and the sum is
enciphered. -/
def chain (text : Bytes) : Nat → Block
  | 0 => encrypt (opening nonce text.length)
  | i + 1 => encrypt ((chain text i).xor (textBlock text i))

theorem textBlock_succ (text : Bytes) (i : Nat) : textBlock text (i + 1) = textBlock (text.drop 16) i := by
  rw [textBlock, textBlock, List.drop_drop, Nat.mul_succ, Nat.add_comm]

theorem blocks_eq_map (text : Bytes) :
    blocks text = (List.range ((text.length + 15) / 16)).map (textBlock text) := by
  fun_induction blocks text with
  | case1 => rfl
  | case2 b rest ih =>
    have hcount : ((b :: rest).length + 15) / 16 = ((rest.drop 15).length + 15) / 16 + 1 := by
      rw [List.length_cons, List.length_drop]
      omega
    have hrest : textBlock (b :: rest) ∘ Nat.succ = textBlock (rest.drop 15) := by
      funext i
      exact textBlock_succ (b :: rest) i
    rw [ih, hcount, List.range_succ_eq_map, List.map_cons, List.map_map, hrest]
    rfl

theorem checksum_eq_chain (text : Bytes) :
    checksum encrypt nonce text = chain encrypt nonce text ((text.length + 15) / 16) := by
  have hchain (count : Nat) : ((List.range count).map (textBlock text)).foldl (fun sum b => encrypt (sum.xor b))
      (encrypt (opening nonce text.length)) = chain encrypt nonce text count := by
    induction count with
    | zero => rfl
    | succ count ih =>
      rw [List.range_succ, List.map_append, List.foldl_append, ih]
      rfl
  rw [checksum, blocks_eq_map, hchain]

/-! ### Sealing and opening -/

variable {encrypt nonce}

theorem open?_of_seal? {text body mark : Bytes} (h : seal? encrypt nonce text = some (body, mark)) :
    open? encrypt nonce body mark = some text := by
  rw [seal?] at h
  split at h
  · next hlength =>
    cases h
    rw [open?, cover_cover, length_cover, if_pos ⟨hlength, rfl⟩]
  · cases h

theorem seal?_of_open? {text body mark : Bytes} (h : open? encrypt nonce body mark = some text) :
    seal? encrypt nonce text = some (body, mark) := by
  rw [open?] at h
  split at h
  · next haccepted =>
    obtain ⟨hlength, hmark⟩ := haccepted
    cases h
    rw [seal?, cover_cover, length_cover, if_pos hlength, hmark]
  · cases h

/-- A body is opened with one mark only. -/
theorem open?_eq_none {text body mark mark' : Bytes} (h : open? encrypt nonce body mark = some text)
    (hne : mark' ≠ mark) : open? encrypt nonce body mark' = none := by
  rw [open?] at h ⊢
  split at h
  · next haccepted => exact if_neg fun haccepted' => hne (haccepted'.2.symm.trans haccepted.2)
  · cases h

/-- What a text becomes under a nonce: the cover and the mark that shows that nobody changed it. -/
structure Seals (encrypt : Block → Block) (nonce text body mark : Bytes) : Prop where
  fits : text.length ≤ maxLength
  /-- Each byte of the text is xored with the byte at its place of the images of the blocks from number 1 on. -/
  body : body = text.mapIdx fun k b =>
    b ^^^ (encrypt (numbered nonce (k / 16 + 1))).get ⟨k % 16, Nat.mod_lt k (by decide)⟩
  /-- The chain over the whole text is xored with the image of block 0, of which eight bytes are kept. -/
  mark : mark = ((chain encrypt nonce text ((text.length + 15) / 16)).xor (encrypt (numbered nonce 0))).toList.take 8

theorem seal?_eq_some_iff (hnonce : nonce.length = 13) {text body mark : Bytes} :
    seal? encrypt nonce text = some (body, mark) ↔ Seals encrypt nonce text body mark := by
  have hfirst : counterStart nonce = numbered nonce 0 := by
    rw [← advance_counterStart hnonce (by decide)]
    exact (counterStart nonce).advance_zero.symm
  constructor
  · intro h
    rw [seal?] at h
    split at h
    · next hfits =>
      cases h
      exact ⟨hfits, cover_eq_mapIdx encrypt hnonce hfits, by rw [tag, checksum_eq_chain, hfirst]; rfl⟩
    · cases h
  · rintro ⟨hfits, rfl, rfl⟩
    rw [seal?, if_pos hfits, cover_eq_mapIdx encrypt hnonce hfits, tag, checksum_eq_chain, hfirst]
    rfl

end RadioMesh.Cipher.Ccm
