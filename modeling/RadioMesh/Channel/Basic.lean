import RadioMesh.Channel.Key
import RadioMesh.Text.Quoted

/-!
Channels: a name and the key that its members share. A channel without a key is sent in the clear.
-/

namespace RadioMesh

structure ChannelDef where
  name : String
  key : Bytes
deriving DecidableEq, Repr, Inhabited

namespace ChannelDef

/-- The channel of a name and a key text. An empty text is no key. -/
def ofKeyText (name : String) (key : Option String) : Except IdentifierError ChannelDef :=
  match key with
  | none => .ok ⟨name, []⟩
  | some text => if text = "" then .ok ⟨name, []⟩ else (Key.parse text).map fun k => ⟨name, Key.expanded k⟩

def defaultName : String := "LongFast"

/-- The name under which packets travel that are sealed for one node. -/
def directName : String := "PKI"

/-- The public channel that every radio starts with. -/
def defaultChannel : ChannelDef := ⟨defaultName, Key.default⟩

def unencrypted (name : String) : ChannelDef := ⟨name, []⟩

def isEncrypted (c : ChannelDef) : Bool := !c.key.isEmpty

/-- The shortest text of the key; empty without one. -/
def keyText (c : ChannelDef) : String :=
  (Key.compact? c.key).getD ""

/-- The key text, if there is a key. -/
def keyText? (c : ChannelDef) : Option String :=
  if c.isEncrypted then some c.keyText else none

def xorAll (bs : Bytes) : UInt8 :=
  bs.foldl (· ^^^ ·) 0

/-- What a packet tells of its channel: all bytes of name and key xored together. -/
def hashOf (name : String) (key : Bytes) : UInt8 :=
  xorAll (Bytes.ofString name) ^^^ xorAll key

def hash (c : ChannelDef) : UInt8 :=
  hashOf c.name c.key

/-- For logs, without the key. -/
def summary (c : ChannelDef) : String :=
  "ChannelDef \x7b name: " ++ Text.Quoted.quote c.name ++ ", encrypted: " ++ toString c.isEncrypted ++ " \x7d"

end ChannelDef

end RadioMesh
