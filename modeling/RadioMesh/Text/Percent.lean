import RadioMesh.Text.Utf8

/-!
Percent escapes. Letters, digits, `-`, `.`, `_` and `~` stand for themselves; every other byte of a
text is written as `%` and two upper-case hexadecimal digits. Reading takes escapes with digits of
either case and leaves a `%` that starts none as it is.
-/

namespace RadioMesh.Text.Percent

def isPlain (b : UInt8) : Bool :=
  (48 ≤ b && b ≤ 57) || (65 ≤ b && b ≤ 90) || (97 ≤ b && b ≤ 122) || b == 45 || b == 46 || b == 95 || b == 126

def digit (n : Nat) : Char :=
  if n < 10 then Char.ofNat (48 + n) else Char.ofNat (55 + n)

def escaped (b : UInt8) : List Char :=
  if isPlain b then [Char.ofNat b.toNat] else ['%', digit (b.toNat / 16), digit (b.toNat % 16)]

def encode (s : String) : String :=
  String.ofList ((Bytes.ofString s).flatMap escaped)

def value? (b : UInt8) : Option Nat :=
  Bytes.hexValue? (Char.ofNat b.toNat)

/-- The byte that three bytes spell, if they are an escape. -/
def escape? (a x y : UInt8) : Option UInt8 :=
  match value? x, value? y with
  | some h, some l => if a = 37 then some (UInt8.ofNat (16 * h + l)) else none
  | _, _ => none

/-- The bytes that a text with escapes stands for. -/
def unescape : Bytes → Bytes
  | a :: x :: y :: rest =>
    match escape? a x y with
    | some b => b :: unescape rest
    | none => a :: unescape (x :: y :: rest)
  | short => short

def decode (s : String) : Except Utf8.Fault String :=
  Utf8.decode (unescape (Bytes.ofString s))

end RadioMesh.Text.Percent
