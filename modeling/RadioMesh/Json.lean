import RadioMesh.Floating.Binary64

/-!
JSON values, what messages, events and configurations are shown as to other programs. The fields of an
object keep their order.
-/

namespace RadioMesh

inductive Json
  | null
  | bool (b : Bool)
  | int (n : Int)
  | float (x : Binary64)
  | text (s : String)
  | list (items : List Json)
  | object (fields : List (String × Json))
deriving Inhabited

namespace Json

/-! ### Making values -/

def word (n : UInt32) : Json := .int n.toNat

def int32 (n : Int32) : Json := .int n.toInt

def optional {α : Type} (f : α → Json) : Option α → Json
  | none => .null
  | some a => f a

/-! ### Taking them apart -/

def bool? : Json → Option Bool
  | .bool b => some b
  | _ => none

def int? : Json → Option Int
  | .int n => some n
  | _ => none

def nat? (j : Json) : Option Nat :=
  j.int?.bind Int.toNat?

def word? (j : Json) : Option UInt32 :=
  j.nat?.map UInt32.ofNat

def text? : Json → Option String
  | .text s => some s
  | _ => none

def list? : Json → Option (List Json)
  | .list items => some items
  | _ => none

/-- A field of an object, unless it is null. -/
def field? : Json → String → Option Json
  | .object fields, name =>
    match fields.lookup name with
    | some .null => none
    | v => v
  | _, _ => none

end Json

end RadioMesh
