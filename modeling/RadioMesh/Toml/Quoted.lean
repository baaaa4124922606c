import RadioMesh.Bytes

/-!
Strings in their four notations: between double quotes with escapes, between single quotes as they are,
and both between triple quotes over several lines. A writer takes the notation that needs the fewest
escapes; whatever it takes, reading gives the string back.
-/

namespace RadioMesh.Toml.Quoted

/-! ### Characters -/

/-- Space and tab. -/
def isSpace (c : Char) : Bool := c == ' ' || c == '\t'

/-- What may stand in a line of text: all but the controls, of which the tab may. -/
def isText (c : Char) : Bool :=
  c == '\t' || (0x20 ≤ c.toNat && c.toNat ≠ 0x7F)

/-- A control that no notation shows as it is. -/
def isControl (c : Char) : Bool :=
  !isText c && c ≠ '\n'

/-- The character behind a backslash stands for another one. -/
def escape? (c : Char) : Option Char :=
  if c = 'b' then some '\x08'
  else if c = 't' then some '\t'
  else if c = 'n' then some '\n'
  else if c = 'f' then some '\x0c'
  else if c = 'r' then some '\r'
  else if c = '"' then some '"'
  else if c = '\\' then some '\\'
  else none

/-- The character of a code point in hexadecimal digits. -/
def codePoint? (digits : List Char) : Option Char := do
  let n ← digits.foldlM (fun n c => (Bytes.hexValue? c).map fun d => 16 * n + d) 0
  if n.isValidChar then some (Char.ofNat n) else none

/-! ### Reading -/

/-- A character, if it is one, before what was read. -/
def before (c : Option Char) (taken : Option (List Char × List Char)) : Option (List Char × List Char) := do
  let c ← c
  let (cs, rest) ← taken
  return (c :: cs, rest)

def textChar? (c : Char) : Option Char :=
  if isText c then some c else none

/-- A string with escapes up to its closing quote, and what follows. -/
def basic? : List Char → Option (List Char × List Char)
  | [] => none
  | '"' :: rest => some ([], rest)
  | '\\' :: 'u' :: a :: b :: c :: d :: rest => before (codePoint? [a, b, c, d]) (basic? rest)
  | '\\' :: 'U' :: a :: b :: c :: d :: e :: f :: g :: h :: rest =>
    before (codePoint? [a, b, c, d, e, f, g, h]) (basic? rest)
  | '\\' :: c :: rest => before (escape? c) (basic? rest)
  | c :: rest => before (textChar? c) (basic? rest)

/-- A string without escapes up to its closing quote, and what follows. -/
def literal? : List Char → Option (List Char × List Char)
  | [] => none
  | c :: rest => if c = '\'' then some ([], rest) else before (textChar? c) (literal? rest)

/-- A character of several lines of text. -/
def lineChar? (c : Char) : Option Char :=
  if isText c || c == '\n' then some c else none

/-- Where a reader of lines with escapes stands. A backslash at the end of a line joins what follows,
without the blanks that it starts with. -/
inductive Place
  | inText
  /-- Behind the backslash: the line has to end. -/
  | atEnd
  /-- Behind the end of the line. -/
  | atStart
deriving DecidableEq, Repr

/-- Lines with escapes up to the closing quotes, and what follows. One or two quotes right before the
closing ones belong to the string. -/
def lines? : Place → List Char → Option (List Char × List Char)
  | _, [] => none
  | .atEnd, c :: rest => if c = '\n' then lines? .atStart rest else if isSpace c then lines? .atEnd rest else none
  | place, c :: rest =>
    if place = .atStart ∧ (isSpace c ∨ c = '\n') then lines? .atStart rest
    else
      match c, rest with
      | '"', '"' :: '"' :: '"' :: '"' :: rest => some (['"', '"'], rest)
      | '"', '"' :: '"' :: '"' :: rest => some (['"'], rest)
      | '"', '"' :: '"' :: rest => some ([], rest)
      | '\\', 'u' :: a :: b :: c :: d :: rest => before (codePoint? [a, b, c, d]) (lines? .inText rest)
      | '\\', 'U' :: a :: b :: c :: d :: e :: f :: g :: h :: rest =>
        before (codePoint? [a, b, c, d, e, f, g, h]) (lines? .inText rest)
      | '\\', c :: rest =>
        if c = '\n' then lines? .atStart rest
        else if isSpace c then lines? .atEnd rest
        else before (escape? c) (lines? .inText rest)
      | '\\', [] => none
      | c, rest => before (lineChar? c) (lines? .inText rest)

/-- Lines without escapes up to the closing quotes, and what follows. -/
def literalLines? : List Char → Option (List Char × List Char)
  | [] => none
  | '\'' :: '\'' :: '\'' :: '\'' :: '\'' :: rest => some (['\'', '\''], rest)
  | '\'' :: '\'' :: '\'' :: '\'' :: rest => some (['\''], rest)
  | '\'' :: '\'' :: '\'' :: rest => some ([], rest)
  | c :: rest => before (lineChar? c) (literalLines? rest)

/-- A line's end right behind the opening quotes does not count. -/
def dropLineEnd : List Char → List Char
  | '\n' :: rest => rest
  | cs => cs

/-- A string in any notation, and what follows. -/
def read? : List Char → Option (List Char × List Char)
  | '"' :: '"' :: '"' :: rest => lines? .inText (dropLineEnd rest)
  | '"' :: rest => basic? rest
  | '\'' :: '\'' :: '\'' :: rest => literalLines? (dropLineEnd rest)
  | '\'' :: rest => literal? rest
  | _ => none

/-! ### Writing -/

/-- The longest row of a character. -/
def longestRow (c : Char) (cs : List Char) : Nat :=
  (cs.foldl (fun (row, most) x => if x = c then (row + 1, max most (row + 1)) else (0, most)) (0, 0)).2

/-- Four upper-case digits. -/
def hexDigits (n : Nat) : List Char :=
  [n / 4096, n / 256 % 16, n / 16 % 16, n % 16].map fun d => (Bytes.hexDigit d).toUpper

/-- A character between double quotes. -/
def escaped (c : Char) : List Char :=
  if c = '\x08' then ['\\', 'b']
  else if c = '\t' then ['\\', 't']
  else if c = '\n' then ['\\', 'n']
  else if c = '\x0c' then ['\\', 'f']
  else if c = '\r' then ['\\', 'r']
  else if c = '"' then ['\\', '"']
  else if c = '\\' then ['\\', '\\']
  else if isControl c then '\\' :: 'u' :: hexDigits c.toNat
  else [c]

/-- Lines between triple double quotes: lines end as they do, and of a row of quotes each third is escaped.
The first number counts the quotes right before. -/
def escapedLines : Nat → List Char → List Char
  | _, [] => []
  | quotes, c :: cs =>
    if c = '\n' then c :: escapedLines 0 cs
    else if c = '"' ∧ quotes < 2 then c :: escapedLines (quotes + 1) cs
    else escaped c ++ escapedLines 0 cs

inductive Style
  | basic
  | literal
  | lines
  | literalLines
deriving DecidableEq, Repr

/-- The first style that shows a string without escapes, if there is one. -/
def styleOf (cs : List Char) : Style :=
  let control := cs.any isControl
  let backslash := cs.contains '\\'
  let newline := cs.contains '\n'
  if !control ∧ !backslash ∧ !newline ∧ longestRow '"' cs = 0 then .basic
  else if !control ∧ !newline ∧ longestRow '\'' cs = 0 then .literal
  else if !control ∧ !backslash ∧ longestRow '"' cs ≤ 2 then .lines
  else if !control ∧ longestRow '\'' cs ≤ 2 then .literalLines
  else if newline then .lines
  else .basic

/-- A string of more than one line starts on a line of its own. -/
def opening (cs : List Char) : List Char :=
  if cs.contains '\n' then ['\n'] else []

def write (cs : List Char) : List Char :=
  match styleOf cs with
  | .basic => '"' :: cs.flatMap escaped ++ ['"']
  | .literal => '\'' :: cs ++ ['\'']
  | .lines => ['"', '"', '"'] ++ opening cs ++ escapedLines 0 cs ++ ['"', '"', '"']
  | .literalLines => ['\'', '\'', '\''] ++ opening cs ++ cs ++ ['\'', '\'', '\'']

end RadioMesh.Toml.Quoted
