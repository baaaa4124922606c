/-!
Packet IDs. The low ten bits count the allocations of one generator, the others are random, and 0 is no
ID. A pass that makes 0 has its low bits 0, so the next one cannot make it.
-/

namespace RadioMesh

structure PacketIds where
  counter : UInt32
deriving DecidableEq, Repr, Inhabited

namespace PacketIds

/-- Bits of an ID that count. -/
def counterBits : UInt32 := 10

def counterMask : UInt32 := 0x3FF

/-- The ID of a counter value and a random word. -/
def compose (counter word : UInt32) : UInt32 :=
  counter &&& counterMask ||| (word >>> counterBits) <<< counterBits

/-- The next ID in at most so many passes, each of which takes a random word. -/
def within? : (passes : Nat) → PacketIds → (Nat → UInt32) → Option (UInt32 × PacketIds)
  | 0, _, _ => none
  | passes + 1, g, words =>
    let counter := g.counter + 1
    let id := compose counter (words 0)
    if id = 0 then within? passes ⟨counter⟩ fun i => words (i + 1) else some (id, ⟨counter⟩)

/-- Passes that are always enough. -/
def maxPasses : Nat := 2

theorem low_compose (counter word : UInt32) : compose counter word &&& counterMask = counter &&& counterMask := by
  apply UInt32.toBitVec_inj.1
  have h : (0x3FF#32 : BitVec 32) = BitVec.setWidth 32 (BitVec.allOnes 10) := by decide
  show (counter.toBitVec &&& 0x3FF#32 ||| (word.toBitVec >>> 10#32) <<< 10#32) &&& 0x3FF#32 =
    counter.toBitVec &&& 0x3FF#32
  apply BitVec.eq_of_getLsbD_eq
  intro i hi
  have hs : (10#32 : BitVec 32).toNat = 10 := rfl
  simp only [BitVec.shiftLeft_eq', BitVec.ushiftRight_eq', hs, h, BitVec.getLsbD_and, BitVec.getLsbD_or,
    BitVec.getLsbD_shiftLeft, BitVec.getLsbD_setWidth, BitVec.getLsbD_allOnes]
  by_cases h10 : i < 10 <;> simp [h10]

theorem compose_succ_ne_zero {counter word : UInt32} (h : compose counter word = 0) (word' : UInt32) :
    compose (counter + 1) word' ≠ 0 := by
  intro h'
  have h₁ : counter &&& counterMask = 0 := by rw [← low_compose counter word, h]; rfl
  have h₂ : (counter + 1) &&& counterMask = 0 := by rw [← low_compose (counter + 1) word', h']; rfl
  have e₁ := congrArg UInt32.toNat h₁
  have e₂ := congrArg UInt32.toNat h₂
  rw [UInt32.toNat_and] at e₁ e₂
  have hm : counterMask.toNat = 2 ^ 10 - 1 := rfl
  rw [hm, Nat.and_two_pow_sub_one_eq_mod] at e₁ e₂
  rw [UInt32.toNat_add] at e₂
  have h0 : (0 : UInt32).toNat = 0 := rfl
  have h1 : (1 : UInt32).toNat = 1 := rfl
  rw [h0] at e₁ e₂
  rw [h1] at e₂
  omega

theorem isSome_within? (g : PacketIds) (words : Nat → UInt32) : (within? maxPasses g words).isSome = true := by
  simp only [maxPasses, within?]
  split
  · next h =>
    rw [if_neg (compose_succ_ne_zero h _)]
    rfl
  · rfl

/-- The next ID. It takes the first two random words at most. -/
def next (g : PacketIds) (words : Nat → UInt32) : UInt32 × PacketIds :=
  (within? maxPasses g words).get (isSome_within? g words)

end PacketIds

end RadioMesh
