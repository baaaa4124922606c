import RadioMesh.Bytes

/-!
Base64 with the standard alphabet and required padding. Reading is strict: it accepts what writing
produces and nothing else, and otherwise names the first symbol at fault and its offset.
-/

namespace RadioMesh.Text.Base64

def pad : UInt8 := 61

/-- The symbol of a six-bit value. -/
def symbol (n : Nat) : UInt8 :=
  if n < 26 then UInt8.ofNat (65 + n)
  else if n < 52 then UInt8.ofNat (71 + n)
  else if n < 62 then UInt8.ofNat (n - 4)
  else if n = 62 then 43
  else 47

/-- The six-bit value of a symbol. -/
def value? (b : UInt8) : Option Nat :=
  let n := b.toNat
  if 65 ≤ n ∧ n ≤ 90 then some (n - 65)
  else if 97 ≤ n ∧ n ≤ 122 then some (n - 71)
  else if 48 ≤ n ∧ n ≤ 57 then some (n + 4)
  else if n = 43 then some 62
  else if n = 47 then some 63
  else none

/-! ### Writing -/

def symbols : Bytes → Bytes
  | [] => []
  | [a] =>
    let n := a.toNat * 16
    [symbol (n / 64), symbol (n % 64), pad, pad]
  | [a, b] =>
    let n := (a.toNat * 256 + b.toNat) * 4
    [symbol (n / 4096), symbol (n / 64 % 64), symbol (n % 64), pad]
  | a :: b :: c :: rest =>
    let n := (a.toNat * 256 + b.toNat) * 256 + c.toNat
    symbol (n / 262144) :: symbol (n / 4096 % 64) :: symbol (n / 64 % 64) :: symbol (n % 64) :: symbols rest

def encode (bs : Bytes) : String :=
  String.ofList ((symbols bs).map fun b => Char.ofNat b.toNat)

/-! ### Reading -/

inductive Fault
  /-- A symbol outside the alphabet, or padding where it may not stand. -/
  | symbol (byte : UInt8) (offset : Nat)
  /-- The last symbol holds bits that no byte takes. -/
  | lastSymbol (byte : UInt8) (offset : Nat)
  /-- The last group is too short to hold a byte. -/
  | length (symbols : Nat)
  /-- The last group lacks padding. -/
  | padding
deriving DecidableEq, Repr

def Fault.message : Fault → String
  | .symbol byte offset => s!"Invalid symbol {byte.toNat}, offset {offset}."
  | .lastSymbol byte offset => s!"Invalid last symbol {byte.toNat}, offset {offset}."
  | .length symbols => s!"Invalid input length: {symbols}"
  | .padding => "Invalid padding"

def sextet (offset : Nat) (b : UInt8) : Except Fault Nat :=
  match value? b with
  | some n => .ok n
  | none => .error (.symbol b offset)

/-- A group of four symbols that more symbols follow. -/
def innerGroup (offset : Nat) (a b c d : UInt8) : Except Fault Bytes := do
  let w ← sextet offset a
  let x ← sextet (offset + 1) b
  let y ← sextet (offset + 2) c
  let z ← sextet (offset + 3) d
  let n := ((w * 64 + x) * 64 + y) * 64 + z
  return [UInt8.ofNat (n / 65536), UInt8.ofNat (n / 256 % 256), UInt8.ofNat (n % 256)]

/-- A last group of four symbols: the last two may be padding, one by one from the end. -/
def lastGroup (offset : Nat) (a b c d : UInt8) : Except Fault Bytes := do
  let w ← sextet offset a
  let x ← sextet (offset + 1) b
  if c = pad then
    if d = pad then
      let n := w * 64 + x
      if n % 16 = 0 then return [UInt8.ofNat (n / 16)] else throw (.lastSymbol b (offset + 1))
    else throw (.symbol pad (offset + 2))
  else
    let y ← sextet (offset + 2) c
    if d = pad then
      let n := (w * 64 + x) * 64 + y
      if n % 4 = 0 then return [UInt8.ofNat (n / 1024), UInt8.ofNat (n / 4 % 256)]
      else throw (.lastSymbol c (offset + 2))
    else innerGroup offset a b c d

/-- What a last group of fewer than four symbols is refused for. -/
def shortGroup (offset : Nat) : List UInt8 → Fault
  | [a] => match value? a with
    | some _ => .length (offset + 1)
    | none => .symbol a offset
  | a :: b :: rest => match value? a, value? b, rest with
    | none, _, _ => .symbol a offset
    | _, none, _ => .symbol b (offset + 1)
    | _, _, c :: _ => if c = pad ∨ (value? c).isSome then .padding else .symbol c (offset + 2)
    | _, _, [] => .padding
  | [] => .padding

def decodeAt (offset : Nat) : Bytes → Except Fault Bytes
  | [] => .ok []
  | [a, b, c, d] => lastGroup offset a b c d
  | a :: b :: c :: d :: rest => do
    let head ← innerGroup offset a b c d
    let tail ← decodeAt (offset + 4) rest
    return head ++ tail
  | short => .error (shortGroup offset short)

def decode (s : String) : Except Fault Bytes :=
  decodeAt 0 (Bytes.ofString s)

end RadioMesh.Text.Base64
