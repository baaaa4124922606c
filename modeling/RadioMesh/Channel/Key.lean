import RadioMesh.Error
import RadioMesh.Text.Blank

/-!
Key texts. A key is written in base64; readers also take the URL-safe alphabet, missing padding and blanks
around it. Channel keys have a short form: one byte stands for the default key with another last byte.
-/

namespace RadioMesh.Key

/-- Symbols of the URL-safe alphabet as those of the standard one. -/
def standardSymbol (c : Char) : Char :=
  if c = '-' then '+' else if c = '_' then '/' else c

/-- The padding that fills a text up to a multiple of four bytes. -/
def missingPadding (cs : List Char) : List Char :=
  List.replicate ((4 - (String.ofList cs).utf8ByteSize % 4) % 4) '='

/-- A key text without blanks around it, in the standard alphabet and filled up. -/
def normalized (text : String) : String :=
  let cs := Text.trimmed text.toList
  String.ofList (cs.map standardSymbol ++ missingPadding cs)

def parse (text : String) : Except IdentifierError Bytes :=
  (Text.Base64.decode (normalized text)).mapError .key

/-! ### Short forms of channel keys -/

/-- All but the last byte of the default key. -/
def defaultPrefix : Bytes :=
  [0xd4, 0xf1, 0xbb, 0x3a, 0x20, 0x29, 0x07, 0x59, 0xf0, 0xbc, 0xff, 0xab, 0xcf, 0x4e, 0x69]

/-- The key of the default channel. -/
def default : Bytes := defaultPrefix ++ [0x01]

/-- The key that one byte stands for: none for 0, else the default key with that last byte. -/
def expand (index : UInt8) : Bytes :=
  if index = 0 then [] else defaultPrefix ++ [index]

/-- A key as it was written, with one byte expanded. -/
def expanded : Bytes → Bytes
  | [index] => expand index
  | key => key

/-- A key in its shortest form: one that differs from the default key in its last byte alone is that byte. -/
def shortened (key : Bytes) : Bytes :=
  if key.length = 16 ∧ key.take 15 = defaultPrefix then key.drop 15 else key

/-- The shortest text of a key; none of the empty key. -/
def compact? (key : Bytes) : Option String :=
  if key = [] then none else some (Text.Base64.encode (shortened key))

end RadioMesh.Key
