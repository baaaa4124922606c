import RadioMesh.Client.Transmit

/-!
Making the data of an incoming packet readable: as it is, by the keys of the two nodes, or by the keys of
the channels. Channel keys are tried in an order that depends on the packet and on the names of the channels,
and the first key that makes data of it is the packet's.
-/

namespace RadioMesh

/-- A packet whose data can be read, with the channel that made it so. -/
structure Received where
  packet : MeshPacket
  data : Data
  channel : ChannelDef
  protection : Protection
  gateway : NodeId
  source : PacketSource
deriving DecidableEq, Repr

namespace Received

def sender (r : Received) : NodeId := ⟨r.packet.sender⟩

def dest (r : Received) : NodeId := ⟨r.packet.dest⟩

/-- Answers are sealed when the packet was, or came in under the name of sealed packets. -/
def replyProtection (r : Received) : Protection :=
  if r.protection = .direct ∨ r.channel.name = ChannelDef.directName then .direct else .channelKey

end Received

/-- The node that a packet was heard through. What the link says counts most; a packet that took no hop and
has its sender's mark for relay comes from the sender; otherwise the relay's mark is all there is. -/
def Delivery.via (d : Delivery) : NodeId :=
  match d.gateway with
  | some g => g
  | none =>
    if d.packet.hopStart = d.packet.hopLimit ∧ d.packet.relayNode &&& 0xFF = d.packet.sender &&& 0xFF then
      ⟨d.packet.sender⟩
    else ⟨d.packet.relayNode⟩

namespace Client

/-! ### Keys of nodes -/

/-- Whether a packet may be sealed for a node of the bridge. -/
def mayBeDirect (c : Client) (d : Delivery) : Bool :=
  let dest : NodeId := ⟨d.packet.dest⟩
  (d.packet.pkiEncrypted || d.channel == some ChannelDef.directName || d.packet.channel == 0) &&
    !dest.isBroadcast && c.isManaged dest

/-- The sender's public key: the one that the packet carries, or else the one that is known. -/
def senderKey (c : Client) (p : MeshPacket) : Except MeshError Bytes :=
  if p.publicKey.length = Cipher.Curve25519.keyLength then .ok p.publicKey else c.publicKey ⟨p.sender⟩

def openDirect (c : Client) (p : MeshPacket) (covered : Bytes) : Except MeshError Data := do
  let publicKey ← c.senderKey p
  let privateKey ← c.privateKey ⟨p.dest⟩
  let plain ← (Direct.openFrom covered privateKey publicKey p.id p.sender).mapError .crypto
  (Data.read plain).mapError .crypto

/-! ### Keys of channels -/

/-- The channels that a packet may belong to: the joined ones and the primary one. -/
def candidates (c : Client) : List ChannelDef :=
  if c.primary ∈ c.channelList then c.channelList else c.channelList ++ [c.primary]

/-- The place of a channel among the candidates: the name that the link gave counts more than the hash. -/
def rank (p : MeshPacket) (name : Option String) (c : ChannelDef) : Nat :=
  (if some c.name = name then 0 else 2) + (if c.hash.toUInt32 = p.channel then 0 else 1)

/-- The candidates by rank, those of one rank in the order they had. -/
def ranked (p : MeshPacket) (name : Option String) (cs : List ChannelDef) : List ChannelDef :=
  (List.range 4).flatMap fun r => cs.filter fun c => rank p name c = r

def readWith? (p : MeshPacket) (covered : Bytes) (channel : ChannelDef) : Option (Data × ChannelDef) :=
  match applyKey channel.key covered p.id p.sender with
  | .error _ => none
  | .ok plain =>
    match Data.read plain with
    | .error _ => none
    | .ok d => some (d, channel)

def openWithChannels? (c : Client) (p : MeshPacket) (covered : Bytes) (name : Option String) :
    Option (Data × ChannelDef) :=
  (ranked p name c.candidates).findSome? (readWith? p covered)

/-! ### Packets -/

/-- The channel of a readable packet. -/
def namedChannel (c : Client) : Option String → ChannelDef
  | some name => (c.channel? name).getD (.unencrypted name)
  | none => c.primary

def open? (c : Client) (d : Delivery) : Option Received :=
  let received (data : Data) (channel : ChannelDef) (protection : Protection) : Received :=
    ⟨d.packet, data, channel, protection, d.via, d.source⟩
  match d.packet.body with
  | none => none
  | some (.decoded data) => some (received data (c.namedChannel d.channel) .none)
  | some (.encrypted covered) =>
    let direct := if c.mayBeDirect d then (c.openDirect d.packet covered).toOption else none
    match direct with
    | some data => some (received data (.unencrypted ChannelDef.directName) .direct)
    | none =>
      (c.openWithChannels? d.packet covered d.channel).map fun (data, channel) =>
        received data channel .channelKey

end Client

end RadioMesh
