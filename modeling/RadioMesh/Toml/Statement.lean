import RadioMesh.Toml.Quoted
import RadioMesh.Toml.Table
import RadioMesh.Toml.Token

/-!
The statements of a document: headers of tables and assignments, a line each unless a value takes more.
-/

namespace RadioMesh.Toml

/-- A path of keys ends with a name. -/
inductive Statement
  | table (path : List String) (name : String)
  | element (path : List String) (name : String)
  | assign (path : List String) (name : String) (value : Value)

namespace Statement

open Quoted

/-- How many keys a path may have, and how deep values may be nested. -/
def maxDepth : Nat := 79

/-! ### Between the words -/

def skipSpace (cs : List Char) : List Char :=
  cs.dropWhile isSpace

/-- What follows blanks, ends of lines and comments. A character that no comment may hold is left for the
reader to stumble over. -/
def skipFiller : (inComment : Bool) → List Char → List Char
  | _, [] => []
  | false, c :: rest =>
    if isSpace c ∨ c = '\n' then skipFiller false rest
    else if c = '#' then skipFiller true rest
    else c :: rest
  | true, c :: rest =>
    if c = '\n' then skipFiller false rest
    else if isText c then skipFiller true rest
    else c :: rest

/-- What follows the end of a line, before which a comment may stand. -/
def afterLine? (cs : List Char) : Option (List Char) :=
  let rest := match skipSpace cs with
    | '#' :: rest => rest.dropWhile isText
    | rest => rest
  match rest with
  | [] => some []
  | '\n' :: rest => some rest
  | _ => none

/-- What follows a character that has to be there. -/
def after? (c : Char) : List Char → Option (List Char)
  | [] => none
  | x :: rest => if x = c then some rest else none

/-! ### Keys -/

def isBare (c : Char) : Bool :=
  c.isAlphanum || c == '-' || c == '_'

def key? : List Char → Option (List Char × List Char)
  | '"' :: rest => basic? rest
  | '\'' :: rest => literal? rest
  | cs =>
    let (name, rest) := cs.span isBare
    if name = [] then none else some (name, rest)

/-- At most so many keys with dots between them: those before the last, and the last. -/
def path? : Nat → List Char → Option ((List String × String) × List Char)
  | 0, _ => none
  | room + 1, cs => do
    let (k, rest) ← key? (skipSpace cs)
    let k := String.ofList k
    match skipSpace rest with
    | '.' :: rest => do
      let ((path, name), rest) ← path? room rest
      return ((k :: path, name), rest)
    | rest => return (([], k), rest)

/-! ### Values -/

/-- A key, an equals sign and a value. -/
def assignment? (value? : List Char → Option (Value × List Char)) (cs : List Char) :
    Option ((List String × String × Value) × List Char) := do
  let ((path, name), rest) ← path? maxDepth cs
  let rest ← after? '=' rest
  let (v, rest) ← value? (skipSpace rest)
  return ((path, name, v), rest)

/-- The items of an array up to its closing bracket. A comma may follow the last. -/
def items? (value? : List Char → Option (Value × List Char)) : (fuel : Nat) → List Char →
    Option (List Value × List Char)
  | 0, _ => none
  | fuel + 1, cs =>
    match skipFiller false cs with
    | ']' :: rest => some ([], rest)
    | cs => do
      let (v, rest) ← value? cs
      match skipFiller false rest with
      | ',' :: rest => do
        let (vs, rest) ← items? value? fuel rest
        return (v :: vs, rest)
      | ']' :: rest => return ([v], rest)
      | _ => none

/-- The assignments of a table in braces up to the closing one, the next one first. -/
def inlineFields? (value? : List Char → Option (Value × List Char)) : (fuel : Nat) → Fields → List Char →
    Option (Fields × List Char)
  | 0, _, _ => none
  | fuel + 1, fields, cs => do
    let ((path, name, v), rest) ← assignment? value? cs
    let fields ← fields.assign path name v .header
    match skipSpace rest with
    | ',' :: rest => inlineFields? value? fuel fields rest
    | '}' :: rest => return (fields, rest)
    | _ => none

def inlineTable? (value? : List Char → Option (Value × List Char)) (cs : List Char) :
    Option (Value × List Char) :=
  match skipSpace cs with
  | '}' :: rest => some (.table [], rest)
  | cs => (inlineFields? value? cs.length [] cs).map fun (fields, rest) => (.table (fieldValues fields), rest)

/-- A value that has at most so many levels of arrays and tables. -/
def value? : Nat → List Char → Option (Value × List Char)
  | depth, cs =>
    match cs, depth with
    | '"' :: _, _ => (Quoted.read? cs).map fun (s, rest) => (.string (String.ofList s), rest)
    | '\'' :: _, _ => (Quoted.read? cs).map fun (s, rest) => (.string (String.ofList s), rest)
    | '[' :: rest, depth + 1 => (items? (value? depth) (rest.length + 1) rest).map fun (vs, rest) => (.array vs, rest)
    | '{' :: rest, depth + 1 => inlineTable? (value? depth) rest
    | _, _ => Token.read? cs

/-! ### Statements -/

def header? (make : List String → String → Statement) (closing : List Char) (cs : List Char) :
    Option (Statement × List Char) := do
  let ((path, name), rest) ← path? maxDepth cs
  let rest ← closing.foldlM (fun rest c => after? c rest) rest
  return (make path name, rest)

def read? : List Char → Option (Statement × List Char)
  | '[' :: '[' :: rest => header? .element [']', ']'] rest
  | '[' :: rest => header? .table [']'] rest
  | cs => (assignment? (value? maxDepth) cs).map fun ((path, name, v), rest) => (.assign path name v, rest)

/-- The statements of a text, each on lines of its own. -/
def readAll? : (fuel : Nat) → List Char → Option (List Statement)
  | 0, _ => none
  | fuel + 1, cs =>
    match skipFiller false cs with
    | [] => some []
    | cs => do
      let (s, rest) ← read? cs
      let rest ← afterLine? rest
      let ss ← readAll? fuel rest
      return s :: ss

end Statement

end RadioMesh.Toml
