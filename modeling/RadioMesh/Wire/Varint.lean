import RadioMesh.Bytes

/-!
Whole numbers in as few bytes as they need: seven bits a byte, lowest first, the high bit set on all
bytes but the last. Reading takes ten bytes at most and refuses what does not fit 64 bits.
-/

namespace RadioMesh.Wire.Varint

def write (n : Nat) : Bytes :=
  if n < 128 then [UInt8.ofNat n] else UInt8.ofNat (n % 128 + 128) :: write (n / 128)
termination_by n

/-- The number in front, and what follows it. `index` bytes of it have been taken before. -/
def readFrom? : Nat → Bytes → Option (Nat × Bytes)
  | _, [] => none
  | index, b :: rest =>
    if b < 128 then
      if index = 9 ∧ 2 ≤ b then none else some (b.toNat, rest)
    else if index = 9 then none
    else
      match readFrom? (index + 1) rest with
      | none => none
      | some (n, after) => some (n * 128 + (b.toNat - 128), after)

def read? (bs : Bytes) : Option (Nat × Bytes) :=
  readFrom? 0 bs

/-- The bytes that `write` takes, by the position of the highest bit. -/
def size (n : Nat) : Nat :=
  n.log2 / 7 + 1

/-! ### Reading takes something -/

theorem length_lt_of_readFrom? {index : Nat} {bs rest : Bytes} {n : Nat}
    (h : readFrom? index bs = some (n, rest)) : rest.length < bs.length := by
  induction bs generalizing index n rest with
  | nil => simp [readFrom?] at h
  | cons b bs ih =>
    unfold readFrom? at h
    split at h
    · split at h
      · cases h
      · simp only [Option.some.injEq, Prod.mk.injEq] at h
        simp [← h.2]
    · split at h
      · cases h
      · split at h
        · cases h
        · next hr =>
          simp only [Option.some.injEq, Prod.mk.injEq] at h
          have := ih hr
          rw [← h.2, List.length_cons]
          omega

theorem length_lt_of_read? {bs rest : Bytes} {n : Nat} (h : read? bs = some (n, rest)) :
    rest.length < bs.length :=
  length_lt_of_readFrom? h

end RadioMesh.Wire.Varint
