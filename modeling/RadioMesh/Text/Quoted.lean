import RadioMesh.Text.Extending
import RadioMesh.Text.Unprintable

/-!
Text between double quotes for a reader of logs: the quote, the backslash and the common controls are
written with a backslash, what cannot be seen alone by its code point, and all else as it is.
-/

namespace RadioMesh.Text.Quoted

def inRanges (ranges : List (Nat × Nat)) (n : Nat) : Bool :=
  ranges.any fun (first, last) => first ≤ n && n ≤ last

/-- The letters of the Unicode property `Default_Ignorable_Code_Point`: fillers of Korean syllables. -/
def isFiller (c : Char) : Bool :=
  c == '\u115F' || c == '\u1160' || c == '\u3164' || c == '\uFFA0'

/-- Not visible on its own. A blank is. -/
def isHidden (c : Char) : Bool :=
  c ≠ ' ' && (inRanges unprintableRanges c.toNat || inRanges extendingRanges c.toNat || isFiller c)

def escaped (c : Char) : List Char :=
  if c = '"' then ['\\', '"']
  else if c = '\\' then ['\\', '\\']
  else if c = '\t' then ['\\', 't']
  else if c = '\n' then ['\\', 'n']
  else if c = '\r' then ['\\', 'r']
  else if c = '\x00' then ['\\', '0']
  else if isHidden c then ['\\', 'u', '\x7b'] ++ Nat.toDigits 16 c.toNat ++ ['\x7d']
  else [c]

def quote (s : String) : String :=
  String.ofList ('"' :: s.toList.flatMap escaped ++ ['"'])

end RadioMesh.Text.Quoted
