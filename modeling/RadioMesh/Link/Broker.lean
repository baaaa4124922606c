import RadioMesh.Channel.Basic
import RadioMesh.Link.Basic
import RadioMesh.Store.NameMap

/-!
The link to a message broker. Packets travel wrapped with their channel and the node that brought them; the
channels a bridge joined are remembered for every connection to come, and sealed packets have one of their
own.
-/

namespace RadioMesh

/-- How to reach a broker, and as whom. -/
structure BrokerSettings where
  host : String
  port : UInt16
  username : Option String
  password : Option String
  rootTopic : String
  clientId : String
  tls : Bool
  nodeId : NodeId
deriving DecidableEq, Repr

/-- A link to a broker that is not connected. -/
structure BrokerLink where
  nodeId : NodeId
  /-- Every channel that was ever joined. -/
  channels : NameMap Unit

namespace BrokerLink

def name : String := "mqtt"

def ofNode (nodeId : NodeId) : BrokerLink :=
  ⟨nodeId, NameMap.empty.insert ChannelDef.directName ()⟩

def addChannel (l : BrokerLink) (channel : String) : BrokerLink :=
  { l with channels := l.channels.insert channel () }

/-- In name order. -/
def joined (l : BrokerLink) : List String := l.channels.keys

def wrap (l : BrokerLink) (channel : String) (p : MeshPacket) : ServiceEnvelope :=
  { packet := some p, channelId := channel, gatewayId := l.nodeId.text }

def isConnected (_ : BrokerLink) : Bool := false

def send (_ : BrokerLink) (_channel : String) (_p : MeshPacket) : Except TransportError Unit :=
  .error (.notConnected name)

end BrokerLink

end RadioMesh
