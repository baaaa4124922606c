import RadioMesh.Bytes

/-!
Reading UTF-8 that may be broken. A machine takes one byte at a time and cuts the input into
characters and faults; a fault is the longest run of bytes that starts like a character and cannot be
one. Valid text is read as itself, each fault of other text as one replacement character.
-/

namespace RadioMesh.Text.Utf8

/-- What a stretch of the input turned out to be. -/
inductive Piece
  | char (c : Char)
  /-- Bytes that no character starts with, and how many they are. -/
  | bad (length : Nat)
  /-- The input ends inside a character, after so many of its bytes. -/
  | cut (length : Nat)
deriving DecidableEq, Repr

/-- Between characters, or inside one: bytes still owed, the range of the next, bytes taken so far and
the bits they gave. -/
inductive State
  | start
  | within (owed : Nat) (low high : UInt8) (taken : Nat) (code : Nat)
deriving DecidableEq, Repr

/-- The machine at the first byte of a character. The range of the second byte leaves out overlong
forms, surrogates and what lies above U+10FFFF. -/
def first (b : UInt8) : List Piece × State :=
  if b < 0x80 then ([.char (Char.ofNat b.toNat)], .start)
  else if 0xC2 ≤ b ∧ b ≤ 0xDF then ([], .within 1 0x80 0xBF 1 (b.toNat - 0xC0))
  else if b = 0xE0 then ([], .within 2 0xA0 0xBF 1 0)
  else if b = 0xED then ([], .within 2 0x80 0x9F 1 0xD)
  else if 0xE1 ≤ b ∧ b ≤ 0xEF then ([], .within 2 0x80 0xBF 1 (b.toNat - 0xE0))
  else if b = 0xF0 then ([], .within 3 0x90 0xBF 1 0)
  else if 0xF1 ≤ b ∧ b ≤ 0xF3 then ([], .within 3 0x80 0xBF 1 (b.toNat - 0xF0))
  else if b = 0xF4 then ([], .within 3 0x80 0x8F 1 4)
  else ([.bad 1], .start)

def step : State → UInt8 → List Piece × State
  | .start, b => first b
  | .within owed low high taken code, b =>
    if low ≤ b ∧ b ≤ high then
      let code := code * 64 + (b.toNat - 0x80)
      if owed = 1 then ([.char (Char.ofNat code)], .start)
      else ([], .within (owed - 1) 0x80 0xBF (taken + 1) code)
    else
      let (out, next) := first b
      (.bad taken :: out, next)

def run : State → Bytes → List Piece
  | .start, [] => []
  | .within _ _ _ taken _, [] => [.cut taken]
  | s, b :: rest =>
    let (out, next) := step s b
    out ++ run next rest

/-- The input cut into characters and faults. -/
def pieces (bs : Bytes) : List Piece :=
  run .start bs

/-- The first fault of a byte string: where it starts, and its length unless the input ends in it. -/
structure Fault where
  index : Nat
  length : Option Nat
deriving DecidableEq, Repr

def firstFault (index : Nat) : List Piece → Fault
  | [] => ⟨index, none⟩
  | .char c :: rest => firstFault (index + c.utf8Size) rest
  | .bad n :: _ => ⟨index, some n⟩
  | .cut _ :: _ => ⟨index, none⟩

def Fault.message : Fault → String
  | ⟨index, some n⟩ => s!"invalid utf-8 sequence of {n} bytes from index {index}"
  | ⟨index, none⟩ => s!"incomplete utf-8 byte sequence from index {index}"

/-- The text a byte string holds. -/
def decode? (bs : Bytes) : Option String :=
  String.fromUTF8? ⟨bs.toArray⟩

theorem decode?_ofString (s : String) : decode? (Bytes.ofString s) = some s := by
  change String.fromUTF8? s.toByteArray = some s
  unfold String.fromUTF8?
  rw [dif_pos s.isValidUTF8]
  rfl

def decode (bs : Bytes) : Except Fault String :=
  match decode? bs with
  | some s => .ok s
  | none => .error (firstFault 0 (pieces bs))

def Piece.shown : Piece → Char
  | .char c => c
  | .bad _ => '\ufffd'
  | .cut _ => '\ufffd'

/-- The text of a byte string, with a replacement character for each fault. -/
def lossy (bs : Bytes) : String :=
  match decode? bs with
  | some s => s
  | none => String.ofList ((pieces bs).map Piece.shown)

end RadioMesh.Text.Utf8
