import RadioMesh.Floating.Reading

/-!
Writing a binary64 number in positional notation: with a fixed number of places, or with the fewest
digits that read back as the number and, of those, the nearest to it.
-/

namespace RadioMesh.Floating

def decimalDigits (n : Nat) : List Char :=
  Nat.toDigits 10 n

def zeros (n : Nat) : List Char :=
  List.replicate n '0'

def minus (negative : Bool) : List Char :=
  if negative then ['-'] else []

/-- `n / 10 ^ places` with all its places. -/
def withPlaces (n places : Nat) : List Char :=
  let ds := decimalDigits n
  let ds := zeros (places + 1 - ds.length) ++ ds
  let whole := ds.take (ds.length - places)
  if places = 0 then whole else whole ++ '.' :: ds.drop (ds.length - places)

/-- `digits * 10 ^ exponent` without an exponent. -/
def positional (digits : Nat) (exponent : Int) : List Char :=
  if 0 ≤ exponent then decimalDigits digits ++ zeros exponent.toNat
  else withPlaces digits (-exponent).toNat

def nameOf (negative : Bool) : List Char :=
  minus negative ++ ['i', 'n', 'f']

/-! ### Fixed places -/

def fixed (places : Nat) (x : Binary64) : String :=
  match x.view with
  | .nan => "NaN"
  | .infinite negative => String.ofList (nameOf negative)
  | .finite negative m e =>
    let (n, d) := Binary64.scale m 1 e
    String.ofList (minus negative ++ withPlaces (Binary64.roundDiv (n * Nat.pow 10 places) d) places)

/-! ### Fewest digits -/

/-- The largest `k` with `10 ^ k ≤ num / den`, for positive `num` and `den`. -/
def floorLog10 (num den : Nat) : Int :=
  if den ≤ num then ((decimalDigits (num / den)).length : Int) - 1
  else -((decimalDigits ((den - 1) / num)).length : Int)

/-- The one of the two neighbours of `num / den` on the grid `10 ^ k` that reads back as `x`; the
nearer if both do, and of two that are equally near the larger. -/
def onGrid? (x : Binary64) (num den : Nat) (k : Int) : Option Nat :=
  let (n, d) := if 0 ≤ k then (num, den * Nat.pow 10 k.toNat) else (num * Nat.pow 10 (-k).toNat, den)
  let low := n / d
  let lowReads := ofDecimal false low k == x
  let highReads := ofDecimal false (low + 1) k == x
  if lowReads ∧ (2 * (n % d) < d ∨ ¬highReads) then some low
  else if highReads then some (low + 1)
  else none

/-- Trailing zeros moved into the exponent. -/
def normalized : Nat → Nat → Int → Nat × Int
  | 0, digits, e => (digits, e)
  | fuel + 1, digits, e => if digits % 10 = 0 then normalized fuel (digits / 10) (e + 1) else (digits, e)

/-- Digits and exponent of the shortest decimal that reads back as the positive number `x`, which is
`num / den` with a power of two below. Seventeen digits are always enough; the exact expansion stands
behind them. -/
def shortestOf (x : Binary64) (num den : Nat) : Nat × Int :=
  let top := floorLog10 num den
  let ofCount (i : Nat) : Option (Nat × Int) :=
    (onGrid? x num den (top - i)).map fun n => (n, top - i)
  match (List.range 17).findSome? ofCount with
  | some (n, k) => normalized 20 n k
  | none => (num * Nat.pow 5 den.log2, -(den.log2 : Int))

def shortest (x : Binary64) : String :=
  match x.view with
  | .nan => "NaN"
  | .infinite negative => String.ofList (nameOf negative)
  | .finite negative m e =>
    if m = 0 then String.ofList (minus negative ++ ['0'])
    else
      let (n, d) := Binary64.scale m 1 e
      let (digits, k) := shortestOf (Binary64.ofRatio false n d) n d
      String.ofList (minus negative ++ positional digits k)

end RadioMesh.Floating
