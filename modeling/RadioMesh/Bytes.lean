/-!
Byte strings, and words laid out least significant byte first.
-/

namespace RadioMesh

/-- A byte string. -/
abbrev Bytes := List UInt8

namespace Bytes

/-! ### Little-endian words -/

def ofWord32 (w : UInt32) : Bytes :=
  [w.toUInt8, (w >>> 8).toUInt8, (w >>> 16).toUInt8, (w >>> 24).toUInt8]

def word32 (a b c d : UInt8) : UInt32 :=
  a.toUInt32 ||| b.toUInt32 <<< 8 ||| c.toUInt32 <<< 16 ||| d.toUInt32 <<< 24

def ofWord64 (w : UInt64) : Bytes :=
  ofWord32 w.toUInt32 ++ ofWord32 (w >>> 32).toUInt32

/-! ### Text -/

/-- The UTF-8 form of a text. -/
def ofString (s : String) : Bytes :=
  s.toUTF8.data.toList

/-! ### Hexadecimal digits -/

def hexDigit (n : Nat) : Char :=
  if n < 10 then Char.ofNat (48 + n) else Char.ofNat (87 + n)

/-- The value of a hexadecimal digit, in either case. -/
def hexValue? (c : Char) : Option Nat :=
  if '0' ≤ c ∧ c ≤ '9' then some (c.toNat - 48)
  else if 'a' ≤ c ∧ c ≤ 'f' then some (c.toNat - 87)
  else if 'A' ≤ c ∧ c ≤ 'F' then some (c.toNat - 55)
  else none

/-- Two lower-case digits a byte. -/
def hex (bs : Bytes) : String :=
  String.ofList (bs.flatMap fun b => [hexDigit (b.toNat / 16), hexDigit (b.toNat % 16)])

def ofHexDigits? : List Char → Option Bytes
  | [] => some []
  | [_] => none
  | a :: b :: rest => do
    let x ← hexValue? a
    let y ← hexValue? b
    let r ← ofHexDigits? rest
    return UInt8.ofNat (16 * x + y) :: r

def ofHex? (s : String) : Option Bytes :=
  ofHexDigits? s.toList

end Bytes

end RadioMesh
