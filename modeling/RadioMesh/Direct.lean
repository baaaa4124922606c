import RadioMesh.Cipher.Aes
import RadioMesh.Cipher.Ccm
import RadioMesh.Cipher.Curve25519
import RadioMesh.Cipher.Sha256
import RadioMesh.Error

/-!
Sealing for one node: a key that sender and addressee agree on, and authenticated encryption under it. The
sealed form is the covered text, the tag, and four bytes that make the nonce unique.
-/

namespace RadioMesh.Direct

/-- Bytes of the nonce that the sealed form carries. -/
def extraLength : Nat := 4

/-- Bytes that sealing adds. -/
def overhead : Nat := Cipher.Ccm.tagLength + extraLength

def checkLength (key : Bytes) : Except CryptoError Unit :=
  if key.length = Cipher.Curve25519.keyLength then .ok () else .error (.keyLength key.length)

/-- The key of a private and the other side's public key. -/
def sharedKey (privateKey publicKey : Bytes) : Except CryptoError Bytes := do
  checkLength privateKey
  checkLength publicKey
  return Cipher.Sha256.digest (Cipher.Curve25519.agree privateKey publicKey)

def publicKey (privateKey : Bytes) : Except CryptoError Bytes := do
  checkLength privateKey
  return Cipher.Curve25519.publicKey privateKey

def nonce (id sender extra : UInt32) : Bytes :=
  Bytes.ofWord32 id ++ Bytes.ofWord32 extra ++ Bytes.ofWord32 sender ++ [0]

/-- The sealed form of a text under an agreed key, unless the text is too long. -/
def sealWith? (key text : Bytes) (id sender extra : UInt32) : Option Bytes :=
  (Cipher.Ccm.seal? (Cipher.Aes.cipher key) (nonce id sender extra) text).map fun (body, mark) =>
    body ++ mark ++ Bytes.ofWord32 extra

def sealFor (text privateKey publicKey : Bytes) (id sender extra : UInt32) : Except CryptoError Bytes := do
  let key ← sharedKey privateKey publicKey
  match sealWith? key text id sender extra with
  | some b => return b
  | none => throw .authentication

/-- The extra word in the last four bytes. -/
def extraOf : Bytes → UInt32
  | [a, b, c, d] => Bytes.word32 a b c d
  | _ => 0

def openWith? (key sealed : Bytes) (id sender : UInt32) : Option Bytes :=
  let split := sealed.length - overhead
  let body := sealed.take split
  let mark := (sealed.drop split).take Cipher.Ccm.tagLength
  let extra := extraOf (sealed.drop (split + Cipher.Ccm.tagLength))
  Cipher.Ccm.open? (Cipher.Aes.cipher key) (nonce id sender extra) body mark

/-- The text of a sealed form that is addressed to the owner of the private key. -/
def openFrom (sealed privateKey publicKey : Bytes) (id sender : UInt32) : Except CryptoError Bytes := do
  if sealed.length < overhead then throw (.tooShort sealed.length)
  let key ← sharedKey privateKey publicKey
  match openWith? key sealed id sender with
  | some b => return b
  | none => throw .authentication

end RadioMesh.Direct
