import RadioMesh.Bytes
import RadioMesh.Floating.Binary64

/-!
Binary32 numbers, which the radio schema carries, by their bit patterns. Nothing is computed in the
format itself: what is needed of a signal-to-noise ratio is whether it is zero and how many quarters it
has.
-/

namespace RadioMesh

/-- A binary32 number. Two numbers are equal when their bits are, so NaN payloads count. -/
structure Binary32 where
  bits : UInt32
deriving DecidableEq, Repr

namespace Binary32

def signBit : Nat := 0x80000000

/-- The leading bit of a mantissa, which the pattern does not hold; the exponent's field starts here. -/
def implicitBit : Nat := 0x800000

def zero : Binary32 := ⟨0⟩

/-- Equal to zero as a number: either sign. -/
def isZero (x : Binary32) : Bool :=
  x.bits &&& 0x7FFFFFFF == 0

def isNaN (x : Binary32) : Bool :=
  0x7F800000 < x.bits &&& 0x7FFFFFFF

/-- The bits in hexadecimal; all NaNs are written alike. -/
def pattern (x : Binary32) : String :=
  if x.isNaN then "nan" else Bytes.hex (Bytes.ofWord32 x.bits).reverse

def ofPattern? (s : String) : Option Binary32 :=
  if s = "nan" then some ⟨0x7FC00000⟩
  else
    match Bytes.ofHex? s with
    | some [a, b, c, d] => some ⟨Bytes.word32 d c b a⟩
    | _ => none

/-- Whole quarters of the number, cut toward zero and clamped to 32 bits; NaN has none. -/
def quarters (x : Binary32) : Int32 :=
  let b := x.bits.toNat
  let negative := b / signBit == 1
  let field : Nat := b / implicitBit % 256
  let fraction : Nat := b % implicitBit
  if field = 255 then
    (if fraction ≠ 0 then 0 else if negative then -2147483648 else 2147483647)
  else
    let m := if field = 0 then fraction else fraction + implicitBit
    let e : Int := if field = 0 then -149 else (field : Int) - 150
    let (n, d) := Binary64.scale (4 * m) 1 e
    Binary64.clampInt32 (Binary64.signed negative (n / d))

/-- The magnitude of a 32-bit integer rounded to the 24 bits of a binary32 mantissa, ties to even. -/
def roundNat (n : Nat) : Nat :=
  let excess := n.log2 + 1 - 24
  Binary64.roundDiv n (1 <<< excess) <<< excess

end Binary32

end RadioMesh
