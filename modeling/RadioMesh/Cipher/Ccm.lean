import RadioMesh.Cipher.Block

/-!
Counter mode with an authentication tag over any function on blocks: nonces of thirteen bytes, tags of
eight, no additional data. The length of a text takes two bytes of a block, so no longer text is sealed.
-/

namespace RadioMesh.Cipher.Ccm

/-- Bytes in a tag. -/
def tagLength : Nat := 8

/-- The longest text. -/
def maxLength : Nat := 65535

/-- The block that starts the checksum: the form of what follows, the nonce and the length. -/
def opening (nonce : Bytes) (length : Nat) : Block :=
  Block.ofBytes (0x19 :: nonce ++ [UInt8.ofNat (length / 256), UInt8.ofNat (length % 256)])

/-- The block the counter starts from. Its image masks the tag. -/
def counterStart (nonce : Bytes) : Block :=
  Block.ofBytes (0x01 :: nonce)

/-- A text in blocks, the last one filled up with zeros. -/
def blocks (text : Bytes) : List Block :=
  match text with
  | [] => []
  | b :: rest => Block.ofBytes (b :: rest) :: blocks (rest.drop 15)
termination_by text.length
decreasing_by simp only [List.length_drop, List.length_cons]; omega

def checksum (encrypt : Block → Block) (nonce text : Bytes) : Block :=
  (blocks text).foldl (fun sum b => encrypt (sum.xor b)) (encrypt (opening nonce text.length))

def tag (encrypt : Block → Block) (nonce text : Bytes) : Bytes :=
  ((checksum encrypt nonce text).xor (encrypt (counterStart nonce))).toList.take tagLength

/-- The text xored with the keystream behind the block that masks the tag. -/
def cover (encrypt : Block → Block) (nonce text : Bytes) : Bytes :=
  counterMode encrypt ((counterStart nonce).advance 1) text

/-- The covered text and its tag, unless the text is too long. -/
def seal? (encrypt : Block → Block) (nonce text : Bytes) : Option (Bytes × Bytes) :=
  if text.length ≤ maxLength then some (cover encrypt nonce text, tag encrypt nonce text) else none

/-- The text under a cover, if its tag is the given one. -/
def open? (encrypt : Block → Block) (nonce body mark : Bytes) : Option Bytes :=
  let text := cover encrypt nonce body
  if body.length ≤ maxLength ∧ tag encrypt nonce text = mark then some text else none

end RadioMesh.Cipher.Ccm
