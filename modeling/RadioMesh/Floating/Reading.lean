import RadioMesh.Floating.Binary64

/-!
Reading a decimal number: an optional sign, then digits with an optional point and an optional
exponent, or `inf`, `infinity` or `nan` in any case. The result is the nearest binary64 number.
-/

namespace RadioMesh.Floating

/-- Why a text is no number. -/
inductive Fault
  | empty
  | invalid
deriving DecidableEq, Repr

def Fault.message : Fault → String
  | .empty => "cannot parse float from empty string"
  | .invalid => "invalid float literal"

/-- The value of a row of decimal digits. -/
def digitsValue (cs : List Char) : Nat :=
  cs.foldl (fun n c => 10 * n + (c.toNat - 48)) 0

/-- The value of an exponent's digits, which stops growing long after every number has left the
format's range. -/
def exponentValue (cs : List Char) : Nat :=
  cs.foldl (fun n c => if n < 65536 then 10 * n + (c.toNat - 48) else n) 0

/-- The number nearest to `digits * 10 ^ exponent`. -/
def ofDecimal (negative : Bool) (digits : Nat) (exponent : Int) : Binary64 :=
  let size := (Nat.toDigits 10 digits).length + exponent
  if digits = 0 ∨ size < -400 then .zero negative
  else if 400 < size then .infinity negative
  else if 0 ≤ exponent then .ofRatio negative (digits * Nat.pow 10 exponent.toNat) 1
  else .ofRatio negative digits (Nat.pow 10 (-exponent).toNat)

/-- The sign before a number and what follows it. -/
def signOf : List Char → Bool × List Char
  | '-' :: rest => (true, rest)
  | '+' :: rest => (false, rest)
  | cs => (false, cs)

/-- The digits after a point, if there is one, and what follows. -/
def fraction : List Char → List Char × List Char
  | '.' :: rest => rest.span Char.isDigit
  | cs => ([], cs)

/-- The exponent that ends a number. -/
def exponent? : List Char → Option Int
  | [] => some 0
  | e :: rest =>
    let (negative, digits) := signOf rest
    if (e = 'e' ∨ e = 'E') ∧ digits ≠ [] ∧ digits.all Char.isDigit then
      some (Binary64.signed negative (exponentValue digits))
    else none

def ofDigits? (negative : Bool) (cs : List Char) : Option Binary64 := do
  let (whole, rest) := cs.span Char.isDigit
  let (part, rest) := fraction rest
  let e ← exponent? rest
  if whole = [] ∧ part = [] then none
  else some (ofDecimal negative (digitsValue (whole ++ part)) (e - part.length))

def ofName? (negative : Bool) (cs : List Char) : Option Binary64 :=
  match String.ofList (cs.map Char.toLower) with
  | "inf" => some (.infinity negative)
  | "infinity" => some (.infinity negative)
  | "nan" => some .nan
  | _ => none

def read (s : String) : Except Fault Binary64 :=
  match s.toList with
  | [] => .error .empty
  | cs =>
    let (negative, rest) := signOf cs
    match ofDigits? negative rest <|> ofName? negative rest with
    | some x => .ok x
    | none => .error .invalid

end RadioMesh.Floating
