import RadioMesh.Cipher.Block

/-!
The AES block cipher with keys of 16 or 32 bytes. Bytes are elements of the field of 256 elements, the
substitution is computed from the field's inverse, and a key is expanded into one block a round.
-/

namespace RadioMesh.Cipher.Aes

/-! ### The field of bytes -/

def double (b : UInt8) : UInt8 :=
  if b < 0x80 then b <<< 1 else (b <<< 1) ^^^ 0x1B

/-- The product of `a` with the byte whose bits, lowest first, are given. -/
def timesBits (a : UInt8) : List Bool → UInt8
  | [] => 0
  | bit :: bits => (if bit then a else 0) ^^^ timesBits (double a) bits

def times (a b : UInt8) : UInt8 :=
  timesBits a ((List.range 8).map fun i => b.toNat.testBit i)

def square (b : UInt8) : UInt8 := times b b

/-- The 254th power, which is the inverse of every byte but 0. -/
def inverse (b : UInt8) : UInt8 :=
  let b2 := square b
  let b4 := square b2
  let b8 := square b4
  let b16 := square b8
  let b32 := square b16
  let b64 := square b32
  times (square b64) (times (times b64 b32) (times (times b16 b8) (times b4 b2)))

def rotate (b : UInt8) (n : UInt8) : UInt8 :=
  b <<< n ||| b >>> (8 - n)

def affine (b : UInt8) : UInt8 :=
  b ^^^ rotate b 1 ^^^ rotate b 2 ^^^ rotate b 3 ^^^ rotate b 4 ^^^ 0x63

def substitution : Vector UInt8 256 :=
  Vector.ofFn fun i => affine (inverse (UInt8.ofNat i.val))

def substitute (b : UInt8) : UInt8 :=
  substitution.get b.toFin

/-! ### Rounds -/

/-- Row `r` of a block, whose columns lie one after the other, turns by `r` places. -/
def shiftRows (s : Block) : Block :=
  Vector.ofFn fun i => s.get (Fin.ofNat 16 (5 * i.val))

def mixColumns (s : Block) : Block :=
  Vector.ofFn fun i =>
    let column := 4 * (i.val / 4)
    let entry (k : Nat) : UInt8 := s.get (Fin.ofNat 16 (column + (i.val + k) % 4))
    double (entry 0) ^^^ (double (entry 1) ^^^ entry 1) ^^^ entry 2 ^^^ entry 3

def rounds : List Block → Block → Block
  | [], s => s
  | [key], s => (shiftRows (s.map substitute)).xor key
  | key :: keys, s => rounds keys ((mixColumns (shiftRows (s.map substitute))).xor key)

/-! ### Keys -/

abbrev Word := Vector UInt8 4

def words : Bytes → List Word
  | a :: b :: c :: d :: rest => #v[a, b, c, d] :: words rest
  | _ => []

def blocks : List Word → List Block
  | a :: b :: c :: d :: rest => Block.ofBytes (a.toList ++ b.toList ++ c.toList ++ d.toList) :: blocks rest
  | _ => []

def roundConstant (n : Nat) : UInt8 :=
  Nat.repeat double (n - 1) 1

/-- What word `i` takes from the word before it, for a key of `size` words. -/
def mixWord (size i : Nat) (w : Word) : Word :=
  if i % size = 0 then
    #v[substitute (w.get 1) ^^^ roundConstant (i / size), substitute (w.get 2), substitute (w.get 3),
      substitute (w.get 0)]
  else if 6 < size ∧ i % size = 4 then w.map substitute
  else w

/-- `count` more words in front of the expanded key, which is held last word first. -/
def extend (size : Nat) : Nat → List Word → List Word
  | 0, ws => ws
  | count + 1, ws =>
    let last := ws.headD (Vector.replicate 4 0)
    let back := ws.getD (size - 1) (Vector.replicate 4 0)
    extend size count (Vector.zipWith (· ^^^ ·) back (mixWord size ws.length last) :: ws)

/-- One block for each round and one to begin with. -/
def roundKeys (key : Bytes) : List Block :=
  let ws := words key
  blocks (extend ws.length (3 * ws.length + 28) ws.reverse).reverse

def encryptWith (keys : List Block) (b : Block) : Block :=
  match keys with
  | [] => b
  | key :: rest => rounds rest (b.xor key)

/-- The cipher of a key of 16 or 32 bytes. -/
def cipher (key : Bytes) : Block → Block :=
  let keys := roundKeys key
  fun b => encryptWith keys b

end RadioMesh.Cipher.Aes
