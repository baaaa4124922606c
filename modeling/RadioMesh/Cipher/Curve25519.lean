import RadioMesh.Bytes

/-!
Key agreement on Curve25519. A private key is a clamped scalar; a public key is the first coordinate of
that multiple of the base point, and a shared secret the same with the other side's public key for base.
-/

namespace RadioMesh.Cipher.Curve25519

/-- The field has this many elements. -/
def prime : Nat := (1 <<< 255) - 19

def keyLength : Nat := 32

/-! ### Numbers, least significant byte first -/

def ofLittleEndian (bs : Bytes) : Nat :=
  bs.foldr (fun b n => n * 256 + b.toNat) 0

def toLittleEndian : Nat → Nat → Bytes
  | 0, _ => []
  | count + 1, n => UInt8.ofNat (n % 256) :: toLittleEndian count (n / 256)

/-! ### The field -/

def mul (a b : Nat) : Nat := a * b % prime
def add (a b : Nat) : Nat := (a + b) % prime
def sub (a b : Nat) : Nat := (a + prime - b) % prime

/-- Powers by the bits of the exponent, highest first. -/
def pow (a exponent : Nat) : Nat :=
  (List.range 255).foldr
    (fun i acc => let s := mul acc acc; if exponent.testBit i then mul s a else s) 1

def inverse (a : Nat) : Nat := pow a (prime - 2)

/-! ### The ladder -/

/-- Two neighbouring multiples of a point, each as a fraction. -/
structure Rung where
  x2 : Nat
  z2 : Nat
  x3 : Nat
  z3 : Nat

def Rung.swap (r : Rung) : Rung := ⟨r.x3, r.z3, r.x2, r.z2⟩

/-- From `n` and `n + 1` to `2 n` and `2 n + 1`. -/
def Rung.doubleAdd (u : Nat) (r : Rung) : Rung :=
  let a := add r.x2 r.z2
  let aa := mul a a
  let b := sub r.x2 r.z2
  let bb := mul b b
  let e := sub aa bb
  let da := mul (sub r.x3 r.z3) a
  let cb := mul (add r.x3 r.z3) b
  let s := add da cb
  let d := sub da cb
  ⟨mul aa bb, mul e (add aa (mul 121665 e)), mul s s, mul u (mul d d)⟩

def Rung.climb (u scalar bit : Nat) (r : Rung) : Rung :=
  if scalar.testBit bit then (r.swap.doubleAdd u).swap else r.doubleAdd u

/-- The first coordinate of `scalar` times the point with first coordinate `u`. -/
def multiply (scalar u : Nat) : Nat :=
  let r := (List.range 255).foldr (Rung.climb u scalar) ⟨1, 0, u, 1⟩
  mul r.x2 (inverse r.z2)

/-! ### Keys -/

/-- The scalar of a private key: a multiple of eight with bit 254 as its highest. -/
def clamp (n : Nat) : Nat :=
  n % (1 <<< 254) / 8 * 8 + (1 <<< 254)

/-- The shared secret of a private and a public key of 32 bytes. -/
def agree (privateKey publicKey : Bytes) : Bytes :=
  let u := ofLittleEndian publicKey % (1 <<< 255) % prime
  toLittleEndian keyLength (multiply (clamp (ofLittleEndian privateKey)) u)

def basePoint : Bytes := toLittleEndian keyLength 9

def publicKey (privateKey : Bytes) : Bytes :=
  agree privateKey basePoint

end RadioMesh.Cipher.Curve25519
