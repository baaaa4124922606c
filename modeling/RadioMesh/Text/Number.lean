/-!
Reading a whole number of 32 bits: an optional plus sign and decimal digits. The first character at fault
decides what is wrong with a text.
-/

namespace RadioMesh.Text.Number

inductive Fault
  | empty
  | invalidDigit
  | tooLarge
deriving DecidableEq, Repr

def Fault.message : Fault → String
  | .empty => "cannot parse integer from empty string"
  | .invalidDigit => "invalid digit found in string"
  | .tooLarge => "number too large to fit in target type"

/-- One more digit behind a number. -/
def append (n : Nat) (c : Char) : Except Fault Nat :=
  if c.isDigit then
    let n' := 10 * n + (c.toNat - 48)
    if n' < UInt32.size then .ok n' else .error .tooLarge
  else .error .invalidDigit

def readDigits : List Char → Except Fault UInt32
  | [] => .error .invalidDigit
  | cs => (cs.foldlM append 0).map UInt32.ofNat

def read (s : String) : Except Fault UInt32 :=
  match s.toList with
  | [] => .error .empty
  | '+' :: cs => readDigits cs
  | cs => readDigits cs

end RadioMesh.Text.Number
