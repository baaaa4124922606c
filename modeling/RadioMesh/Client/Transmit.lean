import RadioMesh.Channel.Cipher
import RadioMesh.Client.Basic
import RadioMesh.Direct

/-!
From an application payload to packets on the links: the payload is checked, wrapped, protected and offered
to every link at once. A payload that is refused before it reaches the links changes nothing but the
counter of packet IDs.
-/

namespace RadioMesh

/-- How a payload is protected. -/
inductive Protection
  /-- In the clear. -/
  | none
  /-- By the channel's key. -/
  | channelKey
  /-- Sealed for its addressee. -/
  | direct
deriving DecidableEq, Repr

structure PacketInfo where
  port : Port
  protection : Protection
  sender : NodeId
  dest : NodeId
  requestId : UInt32 := 0
  replyId : UInt32 := 0
  wantAck : Bool := false
  wantResponse : Bool := false
  emoji : Bool := false
deriving DecidableEq, Repr

/-- The tier of a packet by its port, and by what it asks for. -/
def PacketInfo.priority (info : PacketInfo) : Priority :=
  match info.port with
  | .routing => .ack
  | .textMessage => .high
  | .admin => .high
  | _ =>
    if info.requestId ≠ 0 then .response
    else if info.wantAck then .reliable
    else .default

/-- A payload to be sent on a channel. -/
structure Submission where
  channel : ChannelDef
  payload : Bytes
  info : PacketInfo
deriving DecidableEq, Repr

/-- The most bytes of an encoded data record that a radio takes. -/
def maxDataLength : Nat := 233

/-- The most bytes of a payload. -/
def maxPayloadLength : Nat := maxDataLength - 1

/-! ### The data record -/

/-- The sender is content with brokers; the second bit asks for a response. -/
def bitfield (wantResponse : Bool) : UInt32 :=
  if wantResponse then 3 else 1

def Submission.data (s : Submission) : Data where
  portNumber := s.info.port.number
  payload := s.payload
  wantResponse := s.info.wantResponse
  requestId := s.info.requestId
  replyId := s.info.replyId
  emoji := if s.info.emoji then 1 else 0
  bitfield := some (bitfield s.info.wantResponse)

namespace Client

/-- Only managed nodes send, and no more than fits. -/
def check (c : Client) (s : Submission) : Except MeshError Unit :=
  if !c.isManaged s.info.sender then .error (.unmanagedNode s.info.sender)
  else if maxPayloadLength < s.payload.length then .error (.payloadTooLarge maxPayloadLength s.payload.length)
  else .ok ()

/-- A packet without its body. Sending for another node costs a hop. -/
def header (c : Client) (epoch : UInt32) (s : Submission) (id : UInt32) : MeshPacket where
  id := id
  sender := s.info.sender.value
  dest := s.info.dest.value
  hopLimit := c.hopLimit
  hopStart := if s.info.sender = c.nodeId then c.hopLimit else c.hopLimit + 1
  wantAck := s.info.wantAck
  rxTime := epoch
  priority := s.info.priority.number

/-- A packet and the name of the channel it travels under. -/
structure Outgoing where
  channel : String
  packet : MeshPacket
deriving DecidableEq, Repr

/-- A packet with its body, sealed with a random word if it is sealed. -/
def protect (c : Client) (s : Submission) (p : MeshPacket) (extra : UInt32) : Except MeshError Outgoing :=
  match s.info.protection with
  | .none => .ok ⟨s.channel.name, { p with body := some (.decoded s.data) }⟩
  | .channelKey => do
    let covered ← (applyKey s.channel.key (Data.schema.encode s.data) p.id p.sender).mapError .crypto
    return ⟨s.channel.name,
      { p with channel := s.channel.hash.toUInt32, body := some (.encrypted covered) }⟩
  | .direct =>
    if s.info.dest.isBroadcast then .error .unsupportedEncryption
    else do
      let privateKey ← c.privateKey s.info.sender
      let publicKey ← c.publicKey s.info.dest
      let own ← (Direct.publicKey privateKey).mapError .crypto
      let text := Data.schema.encode s.data
      let covered ← (Direct.sealFor text privateKey publicKey p.id p.sender extra).mapError .crypto
      return ⟨ChannelDef.directName,
        { p with pkiEncrypted := true, publicKey := own, body := some (.encrypted covered) }⟩

/-! ### Links -/

/-- The faults of the links that refuse, in the order of the links. -/
def refusals (links : List Link) : List TransportError :=
  links.filterMap (·.fault)

/-- The packet on every link that accepts it. -/
def accepted (links : List Link) (o : Outgoing) : List Effect :=
  (links.zipIdx.filter fun (l, _) => l.fault.isNone).map fun (_, i) => .sent i o.channel o.packet

/-- An offer succeeds when a link accepts it. -/
def fanOut (links : List Link) : Except MeshError Unit :=
  if links.isEmpty then .error .noTransports
  else if (refusals links).length = links.length then .error (.allTransportsFailed (refusals links))
  else .ok ()

/-- Random words that a transmission may use: two for its ID and one for its seal. -/
def wordsUsed : Nat := 3

/-- A submission on its way. The value is the packet's ID. -/
def transmit (c : Client) (m : Moment) (s : Submission) : Step (Except MeshError UInt32) :=
  match c.check s with
  | .error e => .still c (.error e)
  | .ok () =>
    let (id, packetIds) := c.packetIds.next m.words
    let c' := { c with packetIds := packetIds }
    match c.protect s (c.header m.epoch s id) (m.words 2) with
    | .error e => .still c' (.error e)
    | .ok o => ⟨c', accepted c.links o, (fanOut c.links).map fun () => id⟩

end Client

end RadioMesh
