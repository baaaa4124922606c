import RadioMesh.Client.Open
import RadioMesh.Geo.Uri
import RadioMesh.Message.Node
import RadioMesh.Message.Route

/-!
What the data of a packet means: something to tell the owner, a request to answer, the answer to a
traceroute, or nothing. Data that is no message of its port means nothing.
-/

namespace RadioMesh

inductive Meaning
  | event (event : MeshEvent)
  | tracerouteRequest (route : RouteDiscovery)
  | tracerouteResponse (route : RouteDiscovery)
  | telemetryRequest (telemetry : Telemetry)
  | neighborInfoRequest (info : NeighborInfo)
  | nothing
deriving DecidableEq, Repr

def Received.envelope (r : Received) (epoch : UInt32) : Envelope where
  channel := r.channel.name
  channelKey := r.channel.keyText?
  sender := r.sender
  dest := r.dest
  via := r.gateway
  timestamp := if r.packet.rxTime ≠ 0 then r.packet.rxTime else epoch
  packetId := r.packet.id
  wantAck := r.packet.wantAck
  wantResponse := r.data.wantResponse
  isNeighbor := r.packet.hopStart ≠ 0 && r.packet.hopStart == r.packet.hopLimit
  viaMqtt := r.packet.viaMqtt || r.source == .mqtt

namespace Meaning

/-- The character of a code point; 0 is none. -/
def icon? (n : UInt32) : Option Char :=
  if n ≠ 0 ∧ n.toNat.isValidChar then some (Char.ofNat n.toNat) else none

def ofText (e : Envelope) (d : Data) : Meaning :=
  let text := Text.Utf8.lossy d.payload
  if d.emoji ≠ 0 then .event (.reaction e text d.replyId) else .event (.message e text d.replyId)

/-- A position without both coordinates says nothing. -/
def ofPosition (e : Envelope) (p : Position) : Meaning :=
  match p.latitude, p.longitude with
  | some lat, some lon =>
    .event (.location e
      { latitude := GeoUri.degrees lat
        longitude := GeoUri.degrees lon
        altitude := p.altitude
        groundSpeed := p.groundSpeed
        groundTrack := p.groundTrack
        precisionBits := p.precisionBits })
  | _, _ => .nothing

def ofUser (e : Envelope) (u : User) : Meaning :=
  .event (.nodeInfo e
    { longName := u.longName
      shortName := u.shortName
      publicKey := if u.publicKey = [] then none else some (Text.Base64.encode u.publicKey)
      hardware := u.hardware
      role := u.role
      isUnmessagable := u.isUnmessagable.getD false })

def ofMapReport (e : Envelope) (r : MapReport) : Meaning :=
  .event (.mapReport e
    { longName := r.longName
      shortName := r.shortName
      role := r.role
      hardware := r.hardware
      firmwareVersion := r.firmwareVersion
      region := r.region
      modemPreset := r.modemPreset
      hasDefaultChannel := r.hasDefaultChannel
      latitude := GeoUri.degrees r.latitude
      longitude := GeoUri.degrees r.longitude
      altitude := r.altitude
      positionPrecision := r.positionPrecision
      onlineLocalNodes := r.onlineLocalNodes })

def ofWaypoint (e : Envelope) (epoch : UInt32) (w : Waypoint) : Meaning :=
  .event (.waypoint e
    { id := w.id
      latitude := w.latitude.map GeoUri.degrees
      longitude := w.longitude.map GeoUri.degrees
      name := w.name
      description := w.description
      icon := icon? w.icon
      lockedTo := ⟨w.lockedTo⟩
      expire := w.expire
      expired := w.expire ≠ 0 && w.expire ≤ epoch })

def ofRoute (d : Data) (r : RouteDiscovery) : Meaning :=
  if d.requestId = 0 then .tracerouteRequest r else .tracerouteResponse r

def ofRouting (e : Envelope) (d : Data) (r : Routing) : Meaning :=
  match r.note with
  | some (.error reason) => if d.requestId ≠ 0 then .event (.ack e d.requestId reason) else .nothing
  | _ => .nothing

/-- The meaning of a message, if a payload is one. -/
def ofPayload {M : Type} (s : Wire.Schema M) (d : Data) (meaning : M → Meaning) : Meaning :=
  match s.decode? d.payload with
  | some m => meaning m
  | none => .nothing

/-- The meaning of data that came in under an envelope. Only what is addressed to one node asks for an
answer. -/
def ofData (e : Envelope) (epoch : UInt32) (d : Data) : Meaning :=
  let asks := d.wantResponse && !e.dest.isBroadcast
  match d.port with
  | .textMessage => ofText e d
  | .position => ofPayload Position.schema d (ofPosition e)
  | .nodeinfo => ofPayload User.schema d (ofUser e)
  | .mapReport => ofPayload MapReport.schema d (ofMapReport e)
  | .waypoint => ofPayload Waypoint.schema d (ofWaypoint e epoch)
  | .traceroute => ofPayload RouteDiscovery.schema d (ofRoute d)
  | .telemetry => ofPayload Telemetry.schema d fun t => if asks then .telemetryRequest t else .nothing
  | .neighborinfo => ofPayload NeighborInfo.schema d fun n => if asks then .neighborInfoRequest n else .nothing
  | .routing => ofPayload Routing.schema d (ofRouting e d)
  | _ => .nothing

end Meaning

end RadioMesh
