import RadioMesh.Message.Code
import RadioMesh.Wire.Schema

/-!
Packets as they travel between radios, the application data inside them and the wrapper that a broker
puts around them.
-/

namespace RadioMesh

open Wire

/-- An application payload with its port and what it refers to. -/
structure Data where
  portNumber : Int32 := 0
  payload : Bytes := []
  wantResponse : Bool := false
  dest : UInt32 := 0
  source : UInt32 := 0
  requestId : UInt32 := 0
  replyId : UInt32 := 0
  emoji : UInt32 := 0
  bitfield : Option UInt32 := none
deriving DecidableEq, Repr, Inhabited

def Data.schema : Schema Data where
  empty := {}
  fields := [
    .plain 1 "portnum" .int32 (·.portNumber) fun v m => { m with portNumber := v },
    .plain 2 "payload" .bytes (·.payload) fun v m => { m with payload := v },
    .plain 3 "want_response" .bool (·.wantResponse) fun v m => { m with wantResponse := v },
    .plain 4 "dest" .fixed32 (·.dest) fun v m => { m with dest := v },
    .plain 5 "source" .fixed32 (·.source) fun v m => { m with source := v },
    .plain 6 "request_id" .fixed32 (·.requestId) fun v m => { m with requestId := v },
    .plain 7 "reply_id" .fixed32 (·.replyId) fun v m => { m with replyId := v },
    .plain 8 "emoji" .fixed32 (·.emoji) fun v m => { m with emoji := v },
    .optional 9 "bitfield" .uint32 (·.bitfield) fun v m => { m with bitfield := v }]

/-- The port of a payload; a number that no port has counts as the unknown port. -/
def Data.port (d : Data) : Port :=
  (Port.ofNumber? d.portNumber).getD .unknown

/-- What a packet carries: readable data or its encrypted form. -/
inductive Body
  | decoded (data : Data)
  | encrypted (bytes : Bytes)
deriving DecidableEq, Repr

def Body.data? : Body → Option Data
  | .decoded d => some d
  | .encrypted _ => none

def Body.encrypted? : Body → Option Bytes
  | .decoded _ => none
  | .encrypted b => some b

/-- A packet. The channel is the channel's hash for encrypted packets and an index for readable ones; the
relay is the low byte of the node that sent it on last. -/
structure MeshPacket where
  sender : UInt32 := 0
  dest : UInt32 := 0
  channel : UInt32 := 0
  body : Option Body := none
  id : UInt32 := 0
  rxTime : UInt32 := 0
  rxSnr : Binary32 := .zero
  hopLimit : UInt32 := 0
  wantAck : Bool := false
  priority : Int32 := 0
  rxRssi : Int32 := 0
  delayed : Int32 := 0
  viaMqtt : Bool := false
  hopStart : UInt32 := 0
  publicKey : Bytes := []
  pkiEncrypted : Bool := false
  nextHop : UInt32 := 0
  relayNode : UInt32 := 0
  txAfter : UInt32 := 0
  transportMechanism : Int32 := 0
deriving DecidableEq, Repr, Inhabited

def MeshPacket.schema : Schema MeshPacket where
  empty := {}
  fields := [
    .plain 1 "from" .fixed32 (·.sender) fun v m => { m with sender := v },
    .plain 2 "to" .fixed32 (·.dest) fun v m => { m with dest := v },
    .plain 3 "channel" .uint32 (·.channel) fun v m => { m with channel := v },
    .choice "payload_variant"
      [.message 4 "decoded" Data.schema .decoded Body.data?,
        .scalar 5 "encrypted" .bytes .encrypted Body.encrypted?]
      (·.body) fun v m => { m with body := v },
    .plain 6 "id" .fixed32 (·.id) fun v m => { m with id := v },
    .plain 7 "rx_time" .fixed32 (·.rxTime) fun v m => { m with rxTime := v },
    .plain 8 "rx_snr" .float (·.rxSnr) fun v m => { m with rxSnr := v },
    .plain 9 "hop_limit" .uint32 (·.hopLimit) fun v m => { m with hopLimit := v },
    .plain 10 "want_ack" .bool (·.wantAck) fun v m => { m with wantAck := v },
    .plain 11 "priority" .int32 (·.priority) fun v m => { m with priority := v },
    .plain 12 "rx_rssi" .int32 (·.rxRssi) fun v m => { m with rxRssi := v },
    .plain 13 "delayed" .int32 (·.delayed) fun v m => { m with delayed := v },
    .plain 14 "via_mqtt" .bool (·.viaMqtt) fun v m => { m with viaMqtt := v },
    .plain 15 "hop_start" .uint32 (·.hopStart) fun v m => { m with hopStart := v },
    .plain 16 "public_key" .bytes (·.publicKey) fun v m => { m with publicKey := v },
    .plain 17 "pki_encrypted" .bool (·.pkiEncrypted) fun v m => { m with pkiEncrypted := v },
    .plain 18 "next_hop" .uint32 (·.nextHop) fun v m => { m with nextHop := v },
    .plain 19 "relay_node" .uint32 (·.relayNode) fun v m => { m with relayNode := v },
    .plain 20 "tx_after" .uint32 (·.txAfter) fun v m => { m with txAfter := v },
    .plain 21 "transport_mechanism" .int32 (·.transportMechanism) fun v m => { m with transportMechanism := v }]

def MeshPacket.data? (p : MeshPacket) : Option Data :=
  p.body.bind Body.data?

def MeshPacket.encrypted? (p : MeshPacket) : Option Bytes :=
  p.body.bind Body.encrypted?

/-- A packet with the channel it belongs to and the node that brought it to the broker. -/
structure ServiceEnvelope where
  packet : Option MeshPacket := none
  channelId : String := ""
  gatewayId : String := ""
deriving DecidableEq, Repr, Inhabited

def ServiceEnvelope.schema : Schema ServiceEnvelope where
  empty := {}
  fields := [
    .message 1 "packet" MeshPacket.schema (·.packet) fun v m => { m with packet := v },
    .plain 2 "channel_id" .text (·.channelId) fun v m => { m with channelId := v },
    .plain 3 "gateway_id" .text (·.gatewayId) fun v m => { m with gatewayId := v }]

end RadioMesh
