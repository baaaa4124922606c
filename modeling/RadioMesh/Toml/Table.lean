import RadioMesh.Toml.Value

/-!
Tables under construction. A table comes about by its own header, by the header of a table below it, or by
a key with dots, and this decides what may be added to it later: nothing is defined twice, and no key with
dots reaches into a table that has a header.
-/

namespace RadioMesh.Toml

/-- What a table came about by. -/
inductive Origin
  | header
  /-- The header of a table below. -/
  | implied
  | dotted
deriving DecidableEq, Repr

inductive Node
  | value (v : Value)
  | table (origin : Origin) (fields : List (String × Node))
  /-- An array of tables, of which the last is still open. -/
  | tables (items : List (List (String × Node)))

abbrev Fields := List (String × Node)

namespace Fields

/-- The fields with the one of a name changed. The change is given the field as it was, if it was there, and
may refuse it. -/
def alter (name : String) (change : Option Node → Option Node) : Fields → Option Fields
  | [] => (change none).map fun n => [(name, n)]
  | (k, n) :: rest =>
    if k = name then (change (some n)).map fun n => (k, n) :: rest
    else (alter name change rest).map fun rest => (k, n) :: rest

/-- The fields with those of the table at a path changed. Tables that are missing on the way are made; of an
array the last table is meant. -/
def within (made : Origin) (change : Origin → Fields → Option Fields) : List String → Origin → Fields → Option Fields
  | [], origin, fields => change origin fields
  | k :: path, _, fields =>
    alter k (fun
      | none => (within made change path made []).map (.table made)
      | some (.value _) => none
      | some (.tables items) =>
        items.getLast?.bind fun last =>
          (within made change path .header last).map fun last => .tables (items.dropLast ++ [last])
      | some (.table origin inner) =>
        if made = .dotted ∧ origin = .header then none
        else (within made change path origin inner).map (.table origin)) fields

/-- A name that has no field yet. -/
def addNew (name : String) (v : Value) : Fields → Option Fields :=
  alter name fun
    | none => some (.value v)
    | some _ => none

/-- A value at a key with dots, in a table of an origin. The last table on the way has to be one that such
keys made. -/
def assign (path : List String) (name : String) (v : Value) (origin : Origin) (fields : Fields) : Option Fields :=
  within .dotted (fun origin fields =>
    if (origin = .dotted) = (path = []) then none else addNew name v fields) path origin fields

/-- The header of a table. -/
def openTable (path : List String) (name : String) (fields : Fields) : Option Fields :=
  within .implied (fun _ =>
    alter name fun
      | none => some (.table .header [])
      | some (.table .implied inner) => some (.table .header inner)
      | some _ => none) path .header fields

/-- The header of one more table of an array. -/
def openElement (path : List String) (name : String) (fields : Fields) : Option Fields :=
  within .implied (fun _ =>
    alter name fun
      | none => some (.tables [[]])
      | some (.tables items) => some (.tables (items ++ [[]]))
      | some _ => none) path .header fields

end Fields

/-! ### When all is there -/

mutual

def Node.toValue : Node → Value
  | .value v => v
  | .table _ fields => .table (fieldValues fields)
  | .tables items => .array (itemValues items)

def fieldValues : List (String × Node) → List (String × Value)
  | [] => []
  | (k, n) :: rest => (k, n.toValue) :: fieldValues rest

def itemValues : List (List (String × Node)) → List Value
  | [] => []
  | fields :: rest => .table (fieldValues fields) :: itemValues rest

end

end RadioMesh.Toml
