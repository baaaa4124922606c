import RadioMesh.Floating.Binary32
import RadioMesh.Json
import RadioMesh.Text.Utf8
import RadioMesh.Wire.Record

/-!
Message types as lists of fields. A field says which records a message is written as and what a record
with one of its numbers does to a message. Records of other numbers change nothing, so a reader skips
what it does not know. Writing leaves out plain fields with their default value; reading starts from the
empty message, lets the last record of a scalar win, and lets records of one embedded message add up. For
tools a message is also a JSON object with all its fields by name, in which byte strings are hexadecimal
and floats are their bit patterns.
-/

namespace RadioMesh.Wire

/-! ### Scalars -/

/-- A type of values that stand in one record each. -/
structure Scalar (α : Type) where
  form : Form
  put : α → Payload
  take? : Payload → Option α
  default : α
  /-- The values that a plain field does not write. -/
  omits : α → Bool
  toJson : α → Json
  ofJson? : Json → Option α
  take_put : ∀ v, take? (put v) = some v

namespace Scalar

def uint32 : Scalar UInt32 where
  form := .varint
  put v := .varint v.toUInt64
  take?
    | .varint n => some n.toUInt32
    | _ => none
  default := 0
  omits v := v == 0
  toJson v := .word v
  ofJson? j := j.word?
  take_put v := by simp

def uint64 : Scalar UInt64 where
  form := .varint
  put v := .varint v
  take?
    | .varint n => some n
    | _ => none
  default := 0
  omits v := v == 0
  toJson v := .int v.toNat
  ofJson? j := j.nat?.map UInt64.ofNat
  take_put _ := rfl

/-- A negative number is written with the sign on all 64 bits. -/
def int32 : Scalar Int32 where
  form := .varint
  put v := .varint v.toInt64.toUInt64
  take?
    | .varint n => some n.toUInt32.toInt32
    | _ => none
  default := 0
  omits v := v == 0
  toJson v := .int32 v
  ofJson? j := j.int?.map Int32.ofInt
  take_put v := by
    apply congrArg some
    apply Int32.toBitVec_inj.1
    show BitVec.setWidth 32 (BitVec.signExtend 64 v.toBitVec) = v.toBitVec
    apply BitVec.eq_of_getLsbD_eq
    intro i hi
    rw [BitVec.getLsbD_setWidth, BitVec.getLsbD_signExtend]
    simp [hi, Nat.lt_trans hi (by decide : 32 < 64)]

def bool : Scalar Bool where
  form := .varint
  put v := .varint (if v then 1 else 0)
  take?
    | .varint n => some (n != 0)
    | _ => none
  default := false
  omits v := !v
  toJson v := .bool v
  ofJson? j := j.bool?
  take_put v := by cases v <;> rfl

def fixed32 : Scalar UInt32 where
  form := .fixed32
  put v := .fixed32 v
  take?
    | .fixed32 w => some w
    | _ => none
  default := 0
  omits v := v == 0
  toJson v := .word v
  ofJson? j := j.word?
  take_put _ := rfl

def sfixed32 : Scalar Int32 where
  form := .fixed32
  put v := .fixed32 v.toUInt32
  take?
    | .fixed32 w => some w.toInt32
    | _ => none
  default := 0
  omits v := v == 0
  toJson v := .int32 v
  ofJson? j := j.int?.map Int32.ofInt
  take_put _ := rfl

/-- A plain field leaves out both zeros, so the negative one is read back as the positive one. -/
def float : Scalar Binary32 where
  form := .fixed32
  put v := .fixed32 v.bits
  take?
    | .fixed32 w => some ⟨w⟩
    | _ => none
  default := .zero
  omits v := v.isZero
  toJson v := .text v.pattern
  ofJson? j := j.text?.bind Binary32.ofPattern?
  take_put _ := rfl

def bytes : Scalar Bytes where
  form := .bytes
  put v := .bytes v
  take?
    | .bytes b => some b
    | _ => none
  default := []
  omits v := v.isEmpty
  toJson v := .text v.hex
  ofJson? j := j.text?.bind Bytes.ofHex?
  take_put _ := rfl

def text : Scalar String where
  form := .bytes
  put v := .bytes (Bytes.ofString v)
  take?
    | .bytes b => Text.Utf8.decode? b
    | _ => none
  default := ""
  omits v := v.isEmpty
  toJson v := .text v
  ofJson? j := j.text?
  take_put v := Text.Utf8.decode?_ofString v

end Scalar

/-! ### Fields and message types -/

structure Field (M : Type) where
  name : String
  numbers : List Nat
  records : M → List Record
  /-- The length of the written records, without writing them. -/
  length : M → Nat
  /-- The message behind a record with one of the numbers; `depth` bounds what may be nested in it. -/
  merge? : (depth : Nat) → Record → M → Option M
  toJson : M → Json
  /-- The message with the field set, if the value is one of the field. -/
  ofJson? : Json → M → Option M

structure Schema (M : Type) where
  empty : M
  fields : List (Field M)

namespace Schema

variable {M : Type}

def records (s : Schema M) (m : M) : List Record :=
  s.fields.flatMap (·.records m)

def encode (s : Schema M) (m : M) : Bytes :=
  (s.records m).flatMap Record.write

/-- The length of the encoding, which is made up of those of the fields. -/
def encodedLength (s : Schema M) (m : M) : Nat :=
  s.fields.foldr (fun f n => f.length m + n) 0

def mergeRecord? (s : Schema M) (depth : Nat) (m : M) (r : Record) : Option M :=
  match s.fields.find? (·.numbers.contains r.number) with
  | some field => field.merge? depth r m
  | none => some m

def mergeRecords? (s : Schema M) (depth : Nat) (m : M) (rs : List Record) : Option M :=
  rs.foldlM (s.mergeRecord? depth) m

/-- Levels that may be nested in one another. -/
def maxDepth : Nat := 100

def decode? (s : Schema M) (bs : Bytes) : Option M := do
  let rs ← records? maxDepth bs
  s.mergeRecords? maxDepth s.empty rs

/-- An embedded message read into one that is there already. -/
def mergeEmbedded? (s : Schema M) (depth : Nat) (m : M) : Payload → Option M
  | .bytes b =>
    match depth with
    | 0 => none
    | depth + 1 => do
      let rs ← records? depth b
      s.mergeRecords? depth m rs
  | _ => none

/-! #### As JSON -/

def toJson (s : Schema M) (m : M) : Json :=
  .object (s.fields.map fun f => (f.name, f.toJson m))

/-- The message of an object; what is missing or null keeps its default. -/
def ofJson? (s : Schema M) (j : Json) : Option M :=
  s.fields.foldlM (fun m f =>
    match j.field? f.name with
    | none => some m
    | some v => f.ofJson? v m) s.empty

end Schema

namespace Field

variable {M N α : Type}

/-- Always there, and not written when it has its default value. -/
def plain (number : Nat) (name : String) (s : Scalar α) (get : M → α) (set : α → M → M) : Field M where
  name := name
  numbers := [number]
  records m := if s.omits (get m) then [] else [⟨number, s.put (get m)⟩]
  length m := if s.omits (get m) then 0 else keySize number + (s.put (get m)).size
  merge? _ r m := (s.take? r.payload).map fun v => set v m
  toJson m := s.toJson (get m)
  ofJson? j m := (s.ofJson? j).map fun v => set v m

/-- There or absent. -/
def optional (number : Nat) (name : String) (s : Scalar α) (get : M → Option α) (set : Option α → M → M) :
    Field M where
  name := name
  numbers := [number]
  records m := (get m).toList.map fun v => ⟨number, s.put v⟩
  length m := (get m).elim 0 fun v => keySize number + (s.put v).size
  merge? _ r m := (s.take? r.payload).map fun v => set (some v) m
  toJson m := .optional s.toJson (get m)
  ofJson? j m := (s.ofJson? j).map fun v => set (some v) m

/-- A list, written in one record. A record may also hold a single element. -/
def packed (number : Nat) (name : String) (s : Scalar α) (get : M → List α) (set : List α → M → M) :
    Field M where
  name := name
  numbers := [number]
  records m :=
    if (get m).isEmpty then [] else [⟨number, .bytes ((get m).flatMap fun v => (s.put v).content)⟩]
  length m :=
    if (get m).isEmpty then 0
    else keySize number + delimitedSize ((get m).foldr (fun v n => (s.put v).size + n) 0)
  merge? _ r m :=
    match r.payload with
    | .bytes b => do
      let ps ← readPacked? s.form b
      let vs ← ps.mapM s.take?
      return set (get m ++ vs) m
    | p => (s.take? p).map fun v => set (get m ++ [v]) m
  toJson m := .list ((get m).map s.toJson)
  ofJson? j m := do
    let items ← j.list?
    let vs ← items.mapM s.ofJson?
    return set vs m

/-- An embedded message, there or absent. -/
def message (number : Nat) (name : String) (s : Schema N) (get : M → Option N) (set : Option N → M → M) :
    Field M where
  name := name
  numbers := [number]
  records m := (get m).toList.map fun v => ⟨number, .bytes (s.encode v)⟩
  length m := (get m).elim 0 fun v => keySize number + delimitedSize (s.encodedLength v)
  merge? depth r m :=
    (s.mergeEmbedded? depth ((get m).getD s.empty) r.payload).map fun v => set (some v) m
  toJson m := .optional s.toJson (get m)
  ofJson? j m := (s.ofJson? j).map fun v => set (some v) m

/-- A list of embedded messages, a record each. -/
def messages (number : Nat) (name : String) (s : Schema N) (get : M → List N) (set : List N → M → M) :
    Field M where
  name := name
  numbers := [number]
  records m := (get m).map fun v => ⟨number, .bytes (s.encode v)⟩
  length m := (get m).foldr (fun v n => keySize number + delimitedSize (s.encodedLength v) + n) 0
  merge? depth r m := (s.mergeEmbedded? depth s.empty r.payload).map fun v => set (get m ++ [v]) m
  toJson m := .list ((get m).map s.toJson)
  ofJson? j m := do
    let items ← j.list?
    let vs ← items.mapM s.ofJson?
    return set vs m

end Field

/-! ### Alternatives -/

/-- One alternative of a choice `σ`. -/
structure Alternative (σ : Type) where
  number : Nat
  name : String
  /-- The payload of a value of this alternative. -/
  put? : σ → Option Payload
  /-- The length of that payload, without writing it. -/
  size? : σ → Option Nat
  /-- The value behind a payload, when the choice was made before as given. -/
  take? : (depth : Nat) → Option σ → Payload → Option σ
  toJson? : σ → Option Json
  ofJson? : Json → Option σ

namespace Alternative

variable {σ N α : Type}

def scalar (number : Nat) (name : String) (s : Scalar α) (inject : α → σ) (project? : σ → Option α) :
    Alternative σ where
  number := number
  name := name
  put? v := (project? v).map s.put
  size? v := (project? v).map fun n => (s.put n).size
  take? _ _ p := (s.take? p).map inject
  toJson? v := (project? v).map s.toJson
  ofJson? j := (s.ofJson? j).map inject

def message (number : Nat) (name : String) (s : Schema N) (inject : N → σ) (project? : σ → Option N) :
    Alternative σ where
  number := number
  name := name
  put? v := (project? v).map fun n => .bytes (s.encode n)
  size? v := (project? v).map fun n => delimitedSize (s.encodedLength n)
  take? depth before p := (s.mergeEmbedded? depth ((before.bind project?).getD s.empty) p).map inject
  toJson? v := (project? v).map s.toJson
  ofJson? j := (s.ofJson? j).map inject

end Alternative

/-- At most one of several alternatives; the last record decides. -/
def Field.choice {M σ : Type} (name : String) (alternatives : List (Alternative σ)) (get : M → Option σ)
    (set : Option σ → M → M) : Field M where
  name := name
  numbers := alternatives.map (·.number)
  records m :=
    match get m with
    | none => []
    | some v =>
      (alternatives.findSome? fun a => (a.put? v).map fun p => (⟨a.number, p⟩ : Record)).toList
  length m :=
    match get m with
    | none => 0
    | some v => (alternatives.findSome? fun a => (a.size? v).map fun n => keySize a.number + n).getD 0
  merge? depth r m :=
    match alternatives.find? (·.number == r.number) with
    | none => some m
    | some a => (a.take? depth (get m) r.payload).map fun v => set (some v) m
  toJson m :=
    match get m with
    | none => .null
    | some v => .object (alternatives.filterMap fun a => (a.toJson? v).map fun j => (a.name, j))
  ofJson? j m := do
    let made ← alternatives.findSome? fun a => (j.field? a.name).map a.ofJson?
    made.map fun v => set (some v) m

end RadioMesh.Wire
