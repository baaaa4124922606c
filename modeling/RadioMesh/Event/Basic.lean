import RadioMesh.Floating.Binary64
import RadioMesh.NodeId
import RadioMesh.Traceroute.Tracker

/-!
What a client tells its owner: packets that came in, by what they mean, and changes of its own state.
-/

namespace RadioMesh

/-- What is known of a packet besides its content. -/
structure Envelope where
  channel : String
  channelKey : Option String
  sender : NodeId
  dest : NodeId
  /-- The node that the packet was heard through. -/
  via : NodeId
  timestamp : UInt32
  packetId : UInt32
  wantAck : Bool
  wantResponse : Bool
  /-- No hop was taken on the way. -/
  isNeighbor : Bool
  viaMqtt : Bool
deriving DecidableEq, Repr

def Envelope.isDirect (e : Envelope) : Bool :=
  !e.dest.isBroadcast

/-- A node's position in degrees. -/
structure Location where
  latitude : Binary64
  longitude : Binary64
  altitude : Option Int32
  groundSpeed : Option UInt32
  groundTrack : Option UInt32
  precisionBits : UInt32
deriving DecidableEq, Repr

/-- A marker on the map; one that is expired was deleted by its sender. -/
structure Landmark where
  id : UInt32
  latitude : Option Binary64
  longitude : Option Binary64
  name : String
  description : String
  icon : Option Char
  lockedTo : NodeId
  expire : UInt32
  expired : Bool
deriving DecidableEq, Repr

structure NodeInfo where
  longName : String
  shortName : String
  publicKey : Option String
  hardware : Int32
  role : Int32
  isUnmessagable : Bool
deriving DecidableEq, Repr

structure MapEntry where
  longName : String
  shortName : String
  role : Int32
  hardware : Int32
  firmwareVersion : String
  region : Int32
  modemPreset : Int32
  hasDefaultChannel : Bool
  latitude : Binary64
  longitude : Binary64
  altitude : Int32
  positionPrecision : UInt32
  onlineLocalNodes : UInt32
deriving DecidableEq, Repr

/-- The answer to a traceroute, with the request it answers if that was still waiting. -/
structure TracerouteResult where
  requestId : UInt32
  route : List NodeId
  snrTowards : List Int32
  routeBack : List NodeId
  snrBack : List Int32
  pending : Option PendingTraceroute
deriving DecidableEq, Repr

/-- Whether the mesh can be reached over any link. -/
inductive ConnectionState
  | connected (restarted : Bool)
  | lost
deriving DecidableEq, Repr

inductive MeshEvent
  | message (envelope : Envelope) (text : String) (replyId : UInt32)
  | reaction (envelope : Envelope) (emoji : String) (replyId : UInt32)
  | location (envelope : Envelope) (place : Location)
  | waypoint (envelope : Envelope) (mark : Landmark)
  | nodeInfo (envelope : Envelope) (info : NodeInfo)
  | mapReport (envelope : Envelope) (entry : MapEntry)
  | traceroute (envelope : Envelope) (result : TracerouteResult)
  | ack (envelope : Envelope) (requestId : UInt32) (reason : Int32)
  | channelJoined (channel : String) (key : Option String)
  | connection (state : ConnectionState)
deriving DecidableEq, Repr

namespace MeshEvent

def envelope? : MeshEvent → Option Envelope
  | .message e _ _ | .reaction e _ _ | .location e _ | .waypoint e _ | .nodeInfo e _ | .mapReport e _
  | .traceroute e _ | .ack e _ _ => some e
  | .channelJoined _ _ | .connection _ => none

def kind : MeshEvent → String
  | .message _ _ _ => "message"
  | .reaction _ _ _ => "reaction"
  | .location _ _ => "location"
  | .waypoint _ _ => "waypoint"
  | .nodeInfo _ _ => "node_info"
  | .mapReport _ _ => "map_report"
  | .traceroute _ _ => "traceroute"
  | .ack _ _ _ => "ack"
  | .channelJoined _ _ => "channel_joined"
  | .connection _ => "connection_state"

/-- An acknowledgement without an error. -/
def isSuccess : MeshEvent → Bool
  | .ack _ _ reason => reason == 0
  | _ => false

end MeshEvent

end RadioMesh
