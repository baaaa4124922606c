import RadioMesh.Bytes

/-!
Binary64 numbers by their bit patterns: the value a pattern stands for, the pattern nearest to a ratio,
and the few operations that locations need. Nearest means to the closest number of the format, ties to
the even mantissa.
-/

namespace RadioMesh

/-- A binary64 number. Two numbers are equal when their bits are. -/
structure Binary64 where
  bits : UInt64
deriving DecidableEq, Repr

namespace Binary64

def signBit : Nat := 0x8000000000000000

/-- The leading bit of a mantissa, which the pattern does not hold; the exponent's field starts here. -/
def implicitBit : Nat := 0x10000000000000

/-- What a pattern stands for: a finite number is `mantissa * 2 ^ exponent` with a sign. -/
inductive View
  | nan
  | infinite (negative : Bool)
  | finite (negative : Bool) (mantissa : Nat) (exponent : Int)
deriving DecidableEq, Repr

def view (x : Binary64) : View :=
  let b := x.bits.toNat
  let negative := b / signBit == 1
  let field : Nat := b / implicitBit % 2048
  let fraction : Nat := b % implicitBit
  if field = 2047 then (if fraction = 0 then .infinite negative else .nan)
  else if field = 0 then .finite negative fraction (-1074)
  else .finite negative (fraction + implicitBit) ((field : Int) - 1075)

def nan : Binary64 :=
  ⟨0x7FF8000000000000⟩

/-! ### Patterns as text -/

/-- The bits in hexadecimal; all NaNs are written alike. -/
def pattern (x : Binary64) : String :=
  match x.view with
  | .nan => "nan"
  | _ => Bytes.hex (Bytes.ofWord64 x.bits).reverse

def ofPattern? (s : String) : Option Binary64 :=
  if s = "nan" then some nan
  else
    match Bytes.ofHex? s with
    | some [a, b, c, d, e, f, g, h] =>
      some ⟨(Bytes.word32 d c b a).toUInt64 <<< 32 ||| (Bytes.word32 h g f e).toUInt64⟩
    | _ => none

/-! ### Rounding -/

/-- The integer nearest to `num / den`, a tie going to the even one. -/
def roundDiv (num den : Nat) : Nat :=
  let q := num / den
  let r := num % den
  if 2 * r < den ∨ (2 * r = den ∧ q % 2 = 0) then q else q + 1

/-- `num / den` times `2 ^ e` is `(scale num den e).1 / (scale num den e).2`. -/
def scale (num den : Nat) (e : Int) : Nat × Nat :=
  if 0 ≤ e then (num <<< e.toNat, den) else (num, den <<< (-e).toNat)

/-- The largest `k` with `2 ^ k ≤ num / den`, for positive `num` and `den`. -/
def floorLog2 (num den : Nat) : Int :=
  let k := (num.log2 : Int) - den.log2
  let (n, d) := scale num den (-k)
  if d ≤ n then k else k - 1

def ofMagnitude (negative : Bool) (magnitude : Nat) : Binary64 :=
  ⟨UInt64.ofNat ((if negative then signBit else 0) + magnitude)⟩

def infinity (negative : Bool) : Binary64 :=
  ofMagnitude negative (2047 * implicitBit)

def zero (negative : Bool) : Binary64 :=
  ofMagnitude negative 0

/-- The number nearest to `num / den`. The mantissa may round up to the next power of two; the carry
then runs into the exponent field, which is what the next number's pattern is. -/
def ofRatio (negative : Bool) (num den : Nat) : Binary64 :=
  if num = 0 then zero negative
  else
    let e := max (-1074) (floorLog2 num den - 52)
    let (n, d) := scale num den (-e)
    let magnitude := (e + 1074).toNat * implicitBit + roundDiv n d
    if 2047 * implicitBit ≤ magnitude then infinity negative else ofMagnitude negative magnitude

/-- The number nearest to `mantissa * 2 ^ exponent`. -/
def ofScaled (negative : Bool) (mantissa : Nat) (exponent : Int) : Binary64 :=
  let (n, d) := scale mantissa 1 exponent
  ofRatio negative n d

/-! ### Arithmetic with whole numbers -/

/-- The product with a positive whole number, itself a number of the format. -/
def timesNat (x : Binary64) (factor : Nat) : Binary64 :=
  match x.view with
  | .nan => nan
  | .infinite negative => infinity negative
  | .finite negative m e => ofScaled negative (m * factor) e

/-- The product with a 32-bit integer, itself a number of the format. -/
def timesInt (x : Binary64) (k : Int32) : Binary64 :=
  match x.view with
  | .nan => nan
  | .infinite negative => if k = 0 then nan else infinity (negative != decide (k < 0))
  | .finite negative m e => ofScaled (negative != decide (k < 0)) (m * k.toInt.natAbs) e

/-- The nearest 32-bit integer to a whole number: what lies outside goes to the nearer end. -/
def clampInt32 (n : Int) : Int32 :=
  if n < -2147483648 then -2147483648 else if 2147483647 < n then 2147483647 else Int32.ofInt n

def signed (negative : Bool) (n : Nat) : Int :=
  if negative then -n else n

/-- The whole part, as a 32-bit integer; NaN gives 0. -/
def truncateInt32 (x : Binary64) : Int32 :=
  match x.view with
  | .nan => 0
  | .infinite negative => if negative then -2147483648 else 2147483647
  | .finite negative m e =>
    let (n, d) := scale m 1 e
    clampInt32 (signed negative (n / d))

/-- The nearest whole number, a half going away from zero, as a 32-bit integer; NaN gives 0. -/
def roundInt32 (x : Binary64) : Int32 :=
  match x.view with
  | .nan => 0
  | .infinite negative => if negative then -2147483648 else 2147483647
  | .finite negative m e =>
    let (n, d) := scale m 1 e
    clampInt32 (signed negative ((2 * n + d) / (2 * d)))

/-! ### Comparison with whole numbers -/

def isZero (x : Binary64) : Bool :=
  match x.view with
  | .finite _ m _ => m == 0
  | _ => false

/-- At least a positive whole number. NaN is not. -/
def atLeast (x : Binary64) (bound : Nat) : Bool :=
  match x.view with
  | .nan => false
  | .infinite negative => !negative
  | .finite negative m e =>
    let (n, d) := scale m 1 e
    !negative && decide (bound * d ≤ n)

end Binary64

end RadioMesh
