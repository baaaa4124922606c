import RadioMesh.Toml.Quoted

/-!
Writing documents whose tables hold plain values: a block of lines for each table, its header first, and an
empty line between two blocks.
-/

namespace RadioMesh.Toml

inductive Plain
  | text (s : String)
  | number (n : Nat)
  | truth (b : Bool)
deriving DecidableEq, Repr

/-- What a block is: a table, or one more table of an array. -/
inductive Heading
  | table (path : List String)
  | element (path : List String)
deriving DecidableEq, Repr

structure Block where
  heading : Heading
  settings : List (String × Plain)
deriving DecidableEq, Repr

def Plain.write : Plain → String
  | .text s => String.ofList (Quoted.write s.toList)
  | .number n => toString n
  | .truth b => toString b

/-- Keys in headings are written bare. -/
def Heading.write : Heading → String
  | .table path => "[" ++ String.intercalate "." path ++ "]\n"
  | .element path => "[[" ++ String.intercalate "." path ++ "]]\n"

def Block.write (b : Block) : String :=
  b.heading.write ++ String.join (b.settings.map fun (name, v) => name ++ " = " ++ v.write ++ "\n")

def write (blocks : List Block) : String :=
  String.intercalate "\n" (blocks.map Block.write)

end RadioMesh.Toml
