import RadioMesh.Bytes

/-!
Node addresses: 32 bits, written as `!` and eight hexadecimal digits. Two addresses are broadcasts and one
stands for no node.
-/

namespace RadioMesh

structure NodeId where
  value : UInt32
deriving DecidableEq, Repr, Inhabited

namespace NodeId

/-- Every node. -/
def broadcast : NodeId := ⟨0xFFFFFFFF⟩

/-- Every node that is reached without a radio. -/
def broadcastNoRadio : NodeId := ⟨1⟩

/-- No node. -/
def unknown : NodeId := ⟨0⟩

def isBroadcast (n : NodeId) : Bool :=
  n == broadcast || n == broadcastNoRadio

/-- All that a relay tells of itself. -/
def lowByte (n : NodeId) : UInt8 :=
  n.value.toUInt8

/-- Most significant byte first. -/
def bytes (n : NodeId) : Bytes :=
  (Bytes.ofWord32 n.value).reverse

/-- An address for a node without a network interface, marked as locally administered. -/
def macAddress (n : NodeId) : Bytes :=
  [0x0A, 0x00] ++ n.bytes

/-- The red, green and blue that a node is drawn with. -/
def color (n : NodeId) : UInt8 × UInt8 × UInt8 :=
  ((n.value >>> 16).toUInt8, (n.value >>> 8).toUInt8, n.value.toUInt8)

/-- The eight digits. -/
def digits (n : NodeId) : List Char :=
  n.bytes.flatMap fun b => [Bytes.hexDigit (b.toNat / 16), Bytes.hexDigit (b.toNat % 16)]

def text (n : NodeId) : String :=
  String.ofList ('!' :: n.digits)

/-- The last four digits. -/
def shortName (n : NodeId) : String :=
  String.ofList (n.digits.drop 4)

def longName (n : NodeId) : String :=
  "Meshtastic " ++ n.shortName

/-! ### Reading -/

/-- The number of a row of hexadecimal digits. -/
def digitsValue? (cs : List Char) : Option Nat :=
  cs.foldlM (fun n c => (Bytes.hexValue? c).map fun d => 16 * n + d) 0

/-- One to eight digits, with or without the mark in front. -/
def ofText? (s : String) : Option NodeId :=
  let cs := match s.toList with
    | '!' :: rest => rest
    | cs => cs
  if cs = [] ∨ 8 < cs.length then none
  else (digitsValue? cs).map fun n => ⟨UInt32.ofNat n⟩

end NodeId

end RadioMesh
