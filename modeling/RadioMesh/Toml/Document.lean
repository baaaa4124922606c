import RadioMesh.Toml.Statement

/-!
Documents: the statements of a text put together. An assignment belongs to the table whose header came
last, and to the root before all headers.
-/

namespace RadioMesh.Toml

/-- A document so far: its root, and where the open table is. -/
structure Draft where
  root : Fields
  current : List String

namespace Draft

def empty : Draft := ⟨[], []⟩

def add (d : Draft) : Statement → Option Draft
  | .table path name => (d.root.openTable path name).map fun root => ⟨root, path ++ [name]⟩
  | .element path name => (d.root.openElement path name).map fun root => ⟨root, path ++ [name]⟩
  | .assign path name v =>
    (d.root.within .implied (fun origin fields => fields.assign path name v origin) d.current .header).map
      fun root => { d with root := root }

end Draft

/-- Lines that end with a carriage return and a line feed as lines that end with the feed alone. -/
def unifyLines : List Char → List Char
  | '\r' :: '\n' :: rest => '\n' :: unifyLines rest
  | c :: rest => c :: unifyLines rest
  | [] => []

/-- A text without the mark that some editors put in front. -/
def dropMark : List Char → List Char
  | '\ufeff' :: rest => rest
  | cs => cs

/-- The root table of a text. -/
def read? (text : String) : Option Value := do
  let cs := unifyLines (dropMark text.toList)
  let statements ← Statement.readAll? (cs.length + 1) cs
  let d ← statements.foldlM Draft.add Draft.empty
  return .table (fieldValues d.root)

end RadioMesh.Toml
