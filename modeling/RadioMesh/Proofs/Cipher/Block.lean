import Mathlib
import RadioMesh.Cipher.Block

/-!
Blocks are numbers of sixteen digits, and counting up from a block is counting. Counter mode xors each byte of the data
with a byte that only its place decides, so it takes back what it did, whatever the function on blocks.
-/

namespace RadioMesh.Cipher

/-! ### Numbers, most significant byte first -/

/-- The number that bytes are. -/
def bigEndian (bs : Bytes) : Nat :=
  bs.foldl (fun n b => n * 256 + b.toNat) 0

theorem foldl_bigEndian (n : Nat) (bs : Bytes) :
    bs.foldl (fun n b => n * 256 + b.toNat) n = n * 256 ^ bs.length + bigEndian bs := by
  induction bs generalizing n with
  | nil => simp [bigEndian]
  | cons b bs ih =>
    rw [bigEndian, List.foldl_cons, List.foldl_cons, ih, ih (0 * 256 + b.toNat), List.length_cons, pow_succ]
    ring

theorem bigEndian_append (bs cs : Bytes) :
    bigEndian (bs ++ cs) = bigEndian bs * 256 ^ cs.length + bigEndian cs := by
  rw [bigEndian, List.foldl_append, foldl_bigEndian]
  rfl

theorem bigEndian_cons (b : UInt8) (bs : Bytes) :
    bigEndian (b :: bs) = b.toNat * 256 ^ bs.length + bigEndian bs := by
  have h := bigEndian_append [b] bs
  simpa [bigEndian] using h

theorem bigEndian_replicate_zero (count : Nat) : bigEndian (List.replicate count 0) = 0 := by
  induction count with
  | zero => rfl
  | succ count ih => rw [List.replicate_succ, bigEndian_cons, ih, UInt8.toNat_zero, Nat.zero_mul]

theorem bigEndian_lt (bs : Bytes) : bigEndian bs < 256 ^ bs.length := by
  induction bs with
  | nil => exact Nat.one_pos
  | cons b bs ih =>
    have hb := b.toNat_lt
    rw [bigEndian_cons, List.length_cons, pow_succ]
    nlinarith

/-- Bytes in a given number are known by the number they are. -/
theorem bigEndian_inj {bs cs : Bytes} (hlength : bs.length = cs.length) (h : bigEndian bs = bigEndian cs) :
    bs = cs := by
  induction bs generalizing cs with
  | nil => exact (List.length_eq_zero_iff.1 hlength.symm).symm
  | cons b bs ih =>
    obtain _ | ⟨c, cs⟩ := cs
    · cases hlength
    have hlength' : bs.length = cs.length := Nat.succ.inj hlength
    have hbs := bigEndian_lt bs
    have hcs := bigEndian_lt cs
    rw [bigEndian_cons, bigEndian_cons, hlength'] at h
    rw [hlength'] at hbs
    have hpos : 0 < 256 ^ cs.length := Nat.pow_pos (by omega)
    -- The first bytes are the quotients, so they agree, and what is left agrees as well.
    have hb : b.toNat = c.toNat := by
      have hquotient := congrArg (· / 256 ^ cs.length) h
      simpa [Nat.mul_comm, Nat.mul_add_div hpos, Nat.div_eq_of_lt hbs, Nat.div_eq_of_lt hcs] using hquotient
    rw [hb] at h
    rw [UInt8.toNat_inj.1 hb, ih hlength' (Nat.add_left_cancel h)]

/-! ### Blocks -/

theorem xor_cancel (a b : UInt8) : a ^^^ b ^^^ b = a := by
  rw [UInt8.xor_assoc, UInt8.xor_self, UInt8.xor_zero]

namespace Block

theorem toNat_eq (b : Block) : b.toNat = bigEndian b.toList := rfl

theorem toNat_lt (b : Block) : b.toNat < 2 ^ 128 := by
  have h := bigEndian_lt b.toList
  rwa [Vector.length_toList] at h

theorem toNat_inj {a b : Block} (h : a.toNat = b.toNat) : a = b :=
  Vector.toList_inj.1 (bigEndian_inj (by rw [Vector.length_toList, Vector.length_toList]) h)

theorem toNat_ofNat (n : Nat) : (ofNat n).toNat = n % 2 ^ 128 := by
  -- The last bytes of the block are the last digits of the number.
  have hlast (count : Nat) :
      bigEndian (List.ofFn fun i : Fin count => UInt8.ofNat (n >>> (8 * (count - 1 - i.val)))) = n % 256 ^ count := by
    induction count with
    | zero => exact (Nat.mod_one n).symm
    | succ count ih =>
      have htail : (fun i : Fin count => UInt8.ofNat (n >>> (8 * (count + 1 - 1 - i.succ.val)))) =
          fun i : Fin count => UInt8.ofNat (n >>> (8 * (count - 1 - i.val))) := by
        funext i
        rw [Fin.val_succ, Nat.add_sub_cancel, Nat.sub_sub, Nat.add_comm 1 i.val]
      have hfirst : (UInt8.ofNat (n >>> (8 * (count + 1 - 1 - (0 : Fin (count + 1)).val)))).toNat =
          n / 256 ^ count % 256 := by
        simp [Nat.shiftRight_eq_div_pow, pow_mul]
      rw [List.ofFn_succ, bigEndian_cons, htail, ih, hfirst, List.length_ofFn, Nat.mod_pow_succ, Nat.mul_comm, add_comm]
  have h := hlast 16
  rwa [toNat_eq, ofNat, Vector.toList_ofFn]

theorem toNat_advance (start : Block) (i : Nat) : (start.advance i).toNat = (start.toNat + i) % 2 ^ 128 :=
  toNat_ofNat _

theorem advance_zero (start : Block) : start.advance 0 = start :=
  toNat_inj ((toNat_advance start 0).trans (Nat.mod_eq_of_lt start.toNat_lt))

theorem advance_advance (start : Block) (i j : Nat) : (start.advance i).advance j = start.advance (i + j) := by
  refine toNat_inj ?_
  rw [toNat_advance, toNat_advance, toNat_advance, Nat.mod_add_mod, Nat.add_assoc]

theorem toList_ofBytes {bs : Bytes} (h : bs.length ≤ 16) :
    (ofBytes bs).toList = bs ++ List.replicate (16 - bs.length) 0 := by
  refine List.ext_getElem (by simp; omega) fun i hi _ => ?_
  have hi' : i < 16 := by simpa using hi
  by_cases hin : i < bs.length
  · simp [ofBytes, hin]
  · simp [ofBytes, hin, List.getElem_append]

/-- Bytes that are missing count as zeros. -/
theorem toNat_ofBytes {bs : Bytes} (h : bs.length ≤ 16) :
    (ofBytes bs).toNat = bigEndian bs * 256 ^ (16 - bs.length) := by
  rw [toNat_eq, toList_ofBytes h, bigEndian_append, List.length_replicate, bigEndian_replicate_zero, Nat.add_zero]

theorem xor_xor (b key : Block) : (b.xor key).xor key = b := by
  refine Vector.ext fun i hi => ?_
  rw [xor, xor, Vector.getElem_zipWith, Vector.getElem_zipWith, xor_cancel]

theorem xor_injective (key : Block) : Function.Injective fun b : Block => b.xor key := by
  intro a b h
  rw [← xor_xor a key, ← xor_xor b key, show a.xor key = b.xor key from h]

end Block

/-! ### Counter mode -/

theorem length_keystream (encrypt : Block → Block) (start : Block) (blocks : Nat) :
    (keystream encrypt start blocks).length = 16 * blocks := by
  rw [keystream, List.length_flatMap]
  simp [Nat.mul_comm]

theorem length_xorBytes {a b : Bytes} (h : a.length ≤ b.length) : (xorBytes a b).length = a.length := by
  rw [xorBytes, List.length_zipWith, Nat.min_eq_left h]

theorem xorBytes_xorBytes {a b : Bytes} (h : a.length ≤ b.length) : xorBytes (xorBytes a b) b = a := by
  induction a generalizing b with
  | nil => rfl
  | cons x a ih =>
    cases b with
    | nil => exact absurd h (Nat.not_succ_le_zero _)
    | cons y b =>
      show (x ^^^ y ^^^ y) :: xorBytes (xorBytes a b) b = x :: a
      rw [ih (Nat.le_of_succ_le_succ h), xor_cancel]

theorem length_le_keystream (encrypt : Block → Block) (start : Block) (data : Bytes) :
    data.length ≤ (keystream encrypt start ((data.length + 15) / 16)).length := by
  rw [length_keystream]
  omega

theorem counterMode_counterMode (encrypt : Block → Block) (start : Block) (data : Bytes) :
    counterMode encrypt start (counterMode encrypt start data) = data := by
  have hle := length_le_keystream encrypt start data
  rw [counterMode, counterMode, length_xorBytes hle, xorBytes_xorBytes hle]

/-! ### Byte by byte -/

/-- Byte `k` of the keystream. -/
def streamByte (encrypt : Block → Block) (start : Block) (k : Nat) : UInt8 :=
  (encrypt (start.advance (k / 16))).get ⟨k % 16, Nat.mod_lt k (by decide)⟩

section Bytewise
variable (encrypt : Block → Block) (start : Block)

theorem keystream_succ (blocks : Nat) :
    keystream encrypt start (blocks + 1) =
      keystream encrypt start blocks ++ (encrypt (start.advance blocks)).toList := by
  simp only [keystream, List.range_succ, List.flatMap_append, List.flatMap_singleton]

theorem getElem?_keystream {blocks k : Nat} (h : k < 16 * blocks) :
    (keystream encrypt start blocks)[k]? = some (streamByte encrypt start k) := by
  induction blocks with
  | zero => omega
  | succ blocks ih =>
    rw [keystream_succ]
    rcases Nat.lt_or_ge k (16 * blocks) with hbefore | hlast
    · rw [List.getElem?_append_left (by rwa [length_keystream]), ih hbefore]
    · have hdiv : k / 16 = blocks := by omega
      have hmod : k % 16 = k - 16 * blocks := by omega
      rw [List.getElem?_append_right (by rwa [length_keystream]), length_keystream, streamByte, hdiv]
      simp [hmod, Vector.get, show k - 16 * blocks < 16 by omega]

theorem counterMode_eq_mapIdx (data : Bytes) :
    counterMode encrypt start data = data.mapIdx fun k b => b ^^^ streamByte encrypt start k := by
  refine List.ext_getElem? fun k => ?_
  rw [counterMode, xorBytes, List.getElem?_zipWith, List.getElem?_mapIdx]
  rcases Nat.lt_or_ge k data.length with hin | hout
  · rw [getElem?_keystream encrypt start (by omega), List.getElem?_eq_getElem hin]
    rfl
  · rw [List.getElem?_eq_none hout]
    rfl

/-- The front of the data is covered by the front of the result. -/
theorem counterMode_take (data : Bytes) (n : Nat) :
    counterMode encrypt start (data.take n) = (counterMode encrypt start data).take n := by
  rw [counterMode_eq_mapIdx, counterMode_eq_mapIdx]
  refine List.ext_getElem? fun k => ?_
  simp only [List.getElem?_mapIdx, List.getElem?_take]
  split <;> rfl

end Bytewise

end RadioMesh.Cipher
