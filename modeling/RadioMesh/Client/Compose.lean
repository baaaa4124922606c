import RadioMesh.Client.Transmit
import RadioMesh.Geo.Uri
import RadioMesh.Message.Node
import RadioMesh.Message.Route

/-!
What a client can be asked to send, and the payload, channel and packet data that each request comes to.
Announcements go out on the primary channel, answers on the channel of what they answer.
-/

namespace RadioMesh

inductive Request
  | bytes (channel : ChannelDef) (payload : Bytes) (info : PacketInfo)
  | message (sender dest : NodeId) (channel : ChannelDef) (text : String) (replyId : UInt32) (direct : Bool)
  | reaction (sender dest : NodeId) (channel : ChannelDef) (target : UInt32) (emoji : String) (direct : Bool)
  | nodeInfo (sender dest : NodeId) (longName shortName : String) (wantResponse : Bool)
      (publicKey : Option Bytes)
  /-- The timestamp is in seconds since the beginning of 1970. -/
  | position (sender dest : NodeId) (place : GeoUri) (timestamp : Int) (wantResponse : Bool)
  | waypoint (sender dest : NodeId) (channel : ChannelDef) (waypoint : Waypoint)
  | deleteWaypoint (sender dest : NodeId) (channel : ChannelDef) (id : UInt32)
  | mapReport (sender : NodeId) (longName shortName : String) (place : GeoUri) (onlineNodes : UInt32)
  | telemetry (sender dest : NodeId)
  | telemetryResponse (sender dest : NodeId) (channel : ChannelDef) (protection : Protection)
      (requestId : UInt32)
  | hostMetrics (sender dest : NodeId)
  | hostMetricsResponse (sender dest : NodeId) (channel : ChannelDef) (protection : Protection)
      (requestId : UInt32)
  | neighborInfo (sender : NodeId) (neighbors : List NodeId) (interval : UInt32)
  | neighborInfoResponse (sender dest : NodeId) (neighbors : List NodeId) (interval : UInt32)
      (channel : ChannelDef) (protection : Protection) (requestId : UInt32)
  | ack (sender dest : NodeId) (packetId : UInt32)
  | nack (dest : NodeId) (packetId : UInt32)
  | traceroute (sender dest : NodeId) (channel : ChannelDef)

/-- The most bytes of a long name. -/
def maxLongName : Nat := 39

/-- The most bytes of a short name. -/
def maxShortName : Nat := 4

/-- The most neighbors that a radio tells of. -/
def maxNeighbors : Nat := 10

/-! ### Payloads -/

/-- Addresses that a node may tell of as neighbors of another one. -/
def isNeighborAddress (sender node : NodeId) : Bool :=
  node ≠ sender && 1 < node.value

/-- The first neighbors of a list, without the sender itself and the lowest addresses. -/
def neighborInfo (sender : NodeId) (neighbors : List NodeId) (interval : UInt32) : NeighborInfo where
  nodeId := sender.value
  lastSentById := sender.value
  broadcastIntervalSecs := interval
  neighbors :=
    ((neighbors.filter (isNeighborAddress sender)).take maxNeighbors).map fun n => { nodeId := n.value }

/-- A position that is told at one time and was taken at another. Times beyond 32 bits wrap. -/
def position (epoch : UInt32) (place : GeoUri) (timestamp : Int) : Position where
  latitude := some place.latitudeFixed
  longitude := some place.longitudeFixed
  altitude := place.altitude.map (·.roundInt32)
  time := epoch
  timestamp := UInt32.ofInt timestamp
  precisionBits := place.precisionBits

/-- A waypoint that has expired, which deletes the one with its ID. -/
def expiredWaypoint (id : UInt32) : Waypoint where
  id := id
  expire := 1

/-- Five volts, as a binary32 number. -/
def fiveVolts : Binary32 := ⟨0x40A00000⟩

/-- A bridge runs on mains power, which a battery level above 100 says. -/
def mainsPowered : UInt32 := 101

namespace Client

def deviceTelemetry (c : Client) (m : Moment) : Telemetry where
  time := m.epoch
  measurement := some (.device
    { batteryLevel := some mainsPowered
      voltage := some fiveVolts
      uptimeSeconds := some (c.uptime m.now).toSeconds })

/-- The bridge itself is a base that takes no messages; other nodes are mute. -/
def roleOf (c : Client) (node : NodeId) : Role :=
  if node = c.nodeId then .clientBase else .clientMute

def user (c : Client) (sender : NodeId) (longName shortName : String) (publicKey : Option Bytes) : User where
  id := sender.text
  longName := longName
  shortName := shortName
  macAddress := sender.macAddress
  hardware := Hardware.privateHw.number
  role := (c.roleOf sender).number
  publicKey := publicKey.getD []
  isUnmessagable := if sender = c.nodeId then some true else none

def mapReport (c : Client) (sender : NodeId) (longName shortName : String) (place : GeoUri)
    (onlineNodes : UInt32) : MapReport :=
  let preset := ModemPreset.ofChannelName? c.primary.name
  { longName := longName
    shortName := shortName
    role := (c.roleOf sender).number
    hardware := Hardware.privateHw.number
    region := Region.us.number
    modemPreset := (preset.map (·.number)).getD 0
    hasDefaultChannel := preset.isSome
    latitude := place.latitudeFixed
    longitude := place.longitudeFixed
    altitude := (place.altitude.map (·.truncateInt32)).getD 0
    positionPrecision := place.precisionBits
    onlineLocalNodes := onlineNodes }

/-- Relays add themselves when they forward, so a bridge that sends for another node is the first hop. -/
def firstRoute (c : Client) (sender : NodeId) : RouteDiscovery :=
  if sender = c.nodeId then {} else { route := [c.nodeId.value], snrTowards := [0] }

/-! ### Requests -/

/-- Whether a node announced itself too short a time ago to do it again. -/
def isGuarded (c : Client) (now : Instant) (node : NodeId) : Bool :=
  (c.nodeInfoSent.get? node).any fun sent => now - sent < c.nodeInfoGuard

def checkNodeInfo (c : Client) (now : Instant) (sender : NodeId) (longName shortName : String) :
    Except MeshError Unit :=
  if maxLongName < longName.utf8ByteSize then .error (.invalidArgument (.longName maxLongName))
  else if maxShortName < shortName.utf8ByteSize then .error (.invalidArgument (.shortName maxShortName))
  else if c.isGuarded now sender then .error (.sentTooRecently sender)
  else .ok ()

def textInfo (sender dest : NodeId) (direct : Bool) : PacketInfo where
  port := .textMessage
  protection := if direct then .direct else .channelKey
  sender := sender
  dest := dest

/-- A packet of the bridge's own kinds, under the channel's key. -/
def keyedInfo (port : Port) (sender dest : NodeId) : PacketInfo where
  port := port
  protection := .channelKey
  sender := sender
  dest := dest

def answerInfo (port : Port) (protection : Protection) (sender dest : NodeId) (requestId : UInt32) :
    PacketInfo where
  port := port
  protection := protection
  sender := sender
  dest := dest
  requestId := requestId

/-- A response can be asked of one node alone. -/
def asking (info : PacketInfo) (wantResponse : Bool) : PacketInfo :=
  { info with wantResponse := wantResponse && !info.dest.isBroadcast }

/-- What a request comes to. -/
def compose (c : Client) (m : Moment) : Request → Except MeshError Submission
  | .bytes channel payload info => .ok ⟨channel, payload, info⟩
  | .message sender dest channel text replyId direct =>
    .ok ⟨channel, Bytes.ofString text, { textInfo sender dest direct with replyId := replyId }⟩
  | .reaction sender dest channel target emoji direct =>
    .ok ⟨channel, Bytes.ofString emoji, { textInfo sender dest direct with replyId := target, emoji := true }⟩
  | .nodeInfo sender dest longName shortName wantResponse publicKey => do
    c.checkNodeInfo m.now sender longName shortName
    return ⟨c.primary, User.schema.encode (c.user sender longName shortName publicKey),
      asking (keyedInfo .nodeinfo sender dest) wantResponse⟩
  | .position sender dest place timestamp wantResponse =>
    .ok ⟨c.primary, Position.schema.encode (RadioMesh.position m.epoch place timestamp),
      asking (keyedInfo .position sender dest) wantResponse⟩
  | .waypoint sender dest channel waypoint =>
    .ok ⟨channel, Waypoint.schema.encode waypoint, keyedInfo .waypoint sender dest⟩
  | .deleteWaypoint sender dest channel id =>
    .ok ⟨channel, Waypoint.schema.encode (expiredWaypoint id), keyedInfo .waypoint sender dest⟩
  | .mapReport sender longName shortName place onlineNodes =>
    if place.latitude.isZero || place.longitude.isZero then .error (.invalidArgument .location)
    else .ok ⟨c.primary, MapReport.schema.encode (c.mapReport sender longName shortName place onlineNodes),
      { port := .mapReport, protection := .none, sender := sender, dest := .broadcast }⟩
  | .telemetry sender dest =>
    .ok ⟨c.primary, Telemetry.schema.encode (c.deviceTelemetry m), keyedInfo .telemetry sender dest⟩
  | .telemetryResponse sender dest channel protection requestId =>
    .ok ⟨channel, Telemetry.schema.encode (c.deviceTelemetry m),
      answerInfo .telemetry protection sender dest requestId⟩
  | .hostMetrics sender dest => do
    let host ← c.directory.host.mapError .hostMetrics
    return ⟨c.primary, Telemetry.schema.encode ⟨m.epoch, some (.host host)⟩,
      keyedInfo .telemetry sender dest⟩
  | .hostMetricsResponse sender dest channel protection requestId => do
    let host ← c.directory.host.mapError .hostMetrics
    return ⟨channel, Telemetry.schema.encode ⟨m.epoch, some (.host host)⟩,
      answerInfo .telemetry protection sender dest requestId⟩
  | .neighborInfo sender neighbors interval =>
    .ok ⟨c.primary, NeighborInfo.schema.encode (RadioMesh.neighborInfo sender neighbors interval),
      keyedInfo .neighborinfo sender .broadcastNoRadio⟩
  | .neighborInfoResponse sender dest neighbors interval channel protection requestId =>
    .ok ⟨channel, NeighborInfo.schema.encode (RadioMesh.neighborInfo sender neighbors interval),
      answerInfo .neighborinfo protection sender dest requestId⟩
  | .ack sender dest packetId =>
    .ok ⟨c.primary, Routing.schema.encode (.ofError .delivered),
      answerInfo .routing .channelKey sender dest packetId⟩
  | .nack dest packetId =>
    .ok ⟨c.primary, Routing.schema.encode (.ofError .gotNak),
      answerInfo .routing .channelKey c.nodeId dest packetId⟩
  | .traceroute sender dest channel =>
    .ok ⟨channel, RouteDiscovery.schema.encode (c.firstRoute sender),
      { keyedInfo .traceroute sender dest with wantResponse := true }⟩

end Client

end RadioMesh
