import RadioMesh.Bytes
import RadioMesh.Floating.Reading
import RadioMesh.Toml.Value

/-!
Values that are written without quotes: numbers, dates and times, and truth values. Each is a row of letters,
digits and a few signs; a date and a time of day may also have a blank between them.
-/

namespace RadioMesh.Toml.Token

def isTokenChar (c : Char) : Bool :=
  c.isAlphanum || c == '+' || c == '-' || c == '.' || c == '_' || c == ':'

/-! ### Numbers -/

/-- Digits without the underscores between them. -/
def ungrouped? (isDigit : Char → Bool) : List Char → Option (List Char)
  | [] => none
  | [c] => if isDigit c then some [c] else none
  | c :: '_' :: rest => if isDigit c then (ungrouped? isDigit rest).map (c :: ·) else none
  | c :: rest => if isDigit c then (ungrouped? isDigit rest).map (c :: ·) else none

/-- Decimal digits of a whole number, which has no zeros in front. -/
def wholeDigits? (cs : List Char) : Option (List Char) := do
  let ds ← ungrouped? Char.isDigit cs
  if ds.head? = some '0' ∧ ds ≠ ['0'] then none else some ds

/-- The number of digits in a base. -/
def numeral (base : Nat) (ds : List Char) : Nat :=
  ds.foldl (fun n c => base * n + (Bytes.hexValue? c).getD 0) 0

def isDigitOf (base : Nat) (c : Char) : Bool :=
  (Bytes.hexValue? c).any (· < base)

/-- Whole numbers have 64 bits. -/
def inRange? (n : Int) : Option Int :=
  if Int64.minValue.toInt ≤ n ∧ n ≤ Int64.maxValue.toInt then some n else none

def basedInteger? (base : Nat) (cs : List Char) : Option Int := do
  let ds ← ungrouped? (isDigitOf base) cs
  inRange? (numeral base ds)

def integer? : List Char → Option Int
  | '0' :: 'x' :: cs => basedInteger? 16 cs
  | '0' :: 'o' :: cs => basedInteger? 8 cs
  | '0' :: 'b' :: cs => basedInteger? 2 cs
  | cs => do
    let (negative, digits) := Floating.signOf cs
    let ds ← wholeDigits? digits
    inRange? (Binary64.signed negative (numeral 10 ds))

def isExponent : List Char → Bool
  | [] => true
  | _ :: cs => (ungrouped? Char.isDigit (Floating.signOf cs).2).isSome

def isExponentMark (c : Char) : Bool := c == 'e' || c == 'E'

/-- Digits with a point, an exponent, or both. -/
def isDecimal (cs : List Char) : Bool :=
  let (whole, rest) := (Floating.signOf cs).2.span fun c => c ≠ '.' && !isExponentMark c
  (wholeDigits? whole).isSome &&
    match rest with
    | [] => false
    | '.' :: rest =>
      let (part, rest) := rest.span fun c => !isExponentMark c
      (ungrouped? Char.isDigit part).isSome && isExponent rest
    | rest => isExponent rest

/-- The nearest number. One that is too large is none, though a negative one may be infinite. -/
def decimal? (cs : List Char) : Option Binary64 :=
  if isDecimal cs then
    match Floating.read (String.ofList (cs.filter (· ≠ '_'))) with
    | .ok x => if x = .infinity false then none else some x
    | .error _ => none
  else none

def namedFloat? (cs : List Char) : Option Binary64 :=
  let (negative, name) := Floating.signOf cs
  if name = ['i', 'n', 'f'] then some (.infinity negative)
  else if name = ['n', 'a', 'n'] then some .nan
  else none

/-! ### Dates and times -/

/-- Two digits. -/
def pair? (a b : Char) : Option Nat :=
  if a.isDigit && b.isDigit then some (numeral 10 [a, b]) else none

def isLeapYear (year : Nat) : Bool :=
  year % 4 == 0 && (year % 100 ≠ 0 || year % 400 == 0)

def daysIn (year month : Nat) : Nat :=
  if month = 2 then (if isLeapYear year then 29 else 28)
  else if month = 4 ∨ month = 6 ∨ month = 9 ∨ month = 11 then 30
  else 31

def isDate : List Char → Bool
  | [a, b, c, d, '-', e, f, '-', g, h] =>
    match pair? a b, pair? c d, pair? e f, pair? g h with
    | some century, some year, some month, some day =>
      1 ≤ month && month ≤ 12 && 1 ≤ day && day ≤ daysIn (100 * century + year) month
    | _, _, _, _ => false
  | _ => false

/-- Hours and minutes of a day. -/
def isClock (a b c d : Char) : Bool :=
  (pair? a b).any (· ≤ 23) && (pair? c d).any (· ≤ 59)

/-- What follows the fraction of a second, if there is one. -/
def afterFraction? : List Char → Option (List Char)
  | '.' :: rest =>
    let (digits, rest) := rest.span Char.isDigit
    if digits = [] then none else some rest
  | rest => some rest

/-- What follows a time of day. A minute may have a leap second. -/
def afterTime? : List Char → Option (List Char)
  | a :: b :: ':' :: c :: d :: ':' :: e :: f :: rest =>
    if isClock a b c d && (pair? e f).any (· ≤ 60) then afterFraction? rest else none
  | _ => none

def isOffset : List Char → Bool
  | [] => true
  | ['Z'] => true
  | ['z'] => true
  | [s, a, b, ':', c, d] => (s == '+' || s == '-') && isClock a b c d
  | _ => false

/-- A time of day behind a date, which may tell its distance from universal time. -/
def isTimeOfDate : List Char → Bool
  | [] => true
  | c :: rest => (c == 'T' || c == 't' || c == ' ') && (afterTime? rest).any isOffset

def isDatetime (cs : List Char) : Bool :=
  afterTime? cs == some [] || (isDate (cs.take 10) && isTimeOfDate (cs.drop 10))

/-! ### Any of them -/

def value? (cs : List Char) : Option Value :=
  if cs = ['t', 'r', 'u', 'e'] then some (.boolean true)
  else if cs = ['f', 'a', 'l', 's', 'e'] then some (.boolean false)
  else if isDatetime cs then some (.datetime (String.ofList cs))
  else
    ((decimal? cs <|> namedFloat? cs).map .float) <|> (integer? cs).map .integer

/-- The token that a text starts with, and what follows. -/
def split (cs : List Char) : List Char × List Char :=
  let (token, rest) := cs.span isTokenChar
  match rest with
  | ' ' :: c :: rest' =>
    if isDate token ∧ c.isDigit then
      let (time, rest) := (c :: rest').span isTokenChar
      (token ++ ' ' :: time, rest)
    else (token, rest)
  | rest => (token, rest)

def read? (cs : List Char) : Option (Value × List Char) :=
  let (token, rest) := split cs
  (value? token).map fun v => (v, rest)

end RadioMesh.Toml.Token
