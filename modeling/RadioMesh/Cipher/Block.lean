import RadioMesh.Bytes

/-!
Blocks of sixteen bytes, and counter mode over any function on blocks: the keystream is the image of the
blocks that count up from a first one, read as a number with its most significant byte in front.
-/

namespace RadioMesh.Cipher

abbrev Block := Vector UInt8 16

namespace Block

def zero : Block := Vector.replicate 16 0

def xor (a b : Block) : Block :=
  Vector.zipWith (· ^^^ ·) a b

/-- The first sixteen bytes, with zeros for those that are missing. -/
def ofBytes (bs : Bytes) : Block :=
  Vector.ofFn fun i => bs.getD i 0

/-- The number a block is, most significant byte first. -/
def toNat (b : Block) : Nat :=
  b.toList.foldl (fun n x => n * 256 + x.toNat) 0

/-- The block of a number modulo `2 ^ 128`. -/
def ofNat (n : Nat) : Block :=
  Vector.ofFn fun i => UInt8.ofNat (n >>> (8 * (15 - i.val)))

/-- The block that stands `i` steps after a first one. -/
def advance (start : Block) (i : Nat) : Block :=
  ofNat (start.toNat + i)

end Block

/-! ### Counter mode -/

def keystream (encrypt : Block → Block) (start : Block) (blocks : Nat) : Bytes :=
  (List.range blocks).flatMap fun i => (encrypt (start.advance i)).toList

def xorBytes (a b : Bytes) : Bytes :=
  List.zipWith (· ^^^ ·) a b

/-- Data xored with the keystream. The same call encrypts and decrypts. -/
def counterMode (encrypt : Block → Block) (start : Block) (data : Bytes) : Bytes :=
  xorBytes data (keystream encrypt start ((data.length + 15) / 16))

end RadioMesh.Cipher
