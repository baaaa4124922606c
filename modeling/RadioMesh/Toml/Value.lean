import RadioMesh.Floating.Binary64

/-!
Values of the configuration language. The tables of a document are one value, its root.
-/

namespace RadioMesh.Toml

inductive Value
  | string (s : String)
  | integer (n : Int)
  | float (x : Binary64)
  | boolean (b : Bool)
  /-- A date, a time of day, or both, as it was written. -/
  | datetime (text : String)
  | array (items : List Value)
  | table (fields : List (String × Value))
deriving Inhabited

end RadioMesh.Toml
