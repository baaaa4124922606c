import RadioMesh.Event.Basic
import RadioMesh.Json
import RadioMesh.Link.Basic

/-!
Events as JSON objects: the kind under `type`, then the fields.
-/

namespace RadioMesh

/-- A node's number. -/
def NodeId.toJson (n : NodeId) : Json := .word n.value

open Json

def PacketSource.toJson (s : PacketSource) : Json := .text s.name

def Envelope.toJson (e : Envelope) : Json :=
  .object [
    ("channel", .text e.channel),
    ("channel_key", optional .text e.channelKey),
    ("from", NodeId.toJson e.sender),
    ("to", NodeId.toJson e.dest),
    ("via", NodeId.toJson e.via),
    ("timestamp", word e.timestamp),
    ("packet_id", word e.packetId),
    ("want_ack", .bool e.wantAck),
    ("want_response", .bool e.wantResponse),
    ("is_neighbor", .bool e.isNeighbor),
    ("via_mqtt", .bool e.viaMqtt)]

def PendingTraceroute.toJson (p : PendingTraceroute) : Json :=
  .object [
    ("from", NodeId.toJson p.sender),
    ("target", NodeId.toJson p.target),
    ("channel", .text p.channel),
    ("context", .text p.context)]

namespace MeshEvent

/-- The fields besides the kind and the envelope. -/
def fields : MeshEvent → List (String × Json)
  | .message _ content replyId => [("text", .text content), ("reply_id", word replyId)]
  | .reaction _ emoji replyId => [("emoji", .text emoji), ("reply_id", word replyId)]
  | .location _ place => [
    ("latitude", .float place.latitude),
    ("longitude", .float place.longitude),
    ("altitude", optional int32 place.altitude),
    ("ground_speed", optional word place.groundSpeed),
    ("ground_track", optional word place.groundTrack),
    ("precision_bits", word place.precisionBits)]
  | .waypoint _ mark => [
    ("id", word mark.id),
    ("latitude", optional .float mark.latitude),
    ("longitude", optional .float mark.longitude),
    ("name", .text mark.name),
    ("description", .text mark.description),
    ("icon", optional (fun c => .text (String.ofList [c])) mark.icon),
    ("locked_to", NodeId.toJson mark.lockedTo),
    ("expire", word mark.expire),
    ("expired", .bool mark.expired)]
  | .nodeInfo _ info => [
    ("long_name", .text info.longName),
    ("short_name", .text info.shortName),
    ("public_key", optional .text info.publicKey),
    ("hw_model", int32 info.hardware),
    ("role", int32 info.role),
    ("is_unmessagable", .bool info.isUnmessagable)]
  | .mapReport _ entry => [
    ("long_name", .text entry.longName),
    ("short_name", .text entry.shortName),
    ("role", int32 entry.role),
    ("hw_model", int32 entry.hardware),
    ("firmware_version", .text entry.firmwareVersion),
    ("region", int32 entry.region),
    ("modem_preset", int32 entry.modemPreset),
    ("has_default_channel", .bool entry.hasDefaultChannel),
    ("latitude", .float entry.latitude),
    ("longitude", .float entry.longitude),
    ("altitude", int32 entry.altitude),
    ("position_precision", word entry.positionPrecision),
    ("num_online_local_nodes", word entry.onlineLocalNodes)]
  | .traceroute _ result => [
    ("request_id", word result.requestId),
    ("route", .list (result.route.map NodeId.toJson)),
    ("snr_towards", .list (result.snrTowards.map int32)),
    ("route_back", .list (result.routeBack.map NodeId.toJson)),
    ("snr_back", .list (result.snrBack.map int32)),
    ("pending", optional PendingTraceroute.toJson result.pending)]
  | .ack _ requestId reason => [("request_id", word requestId), ("error_reason", int32 reason)]
  | .channelJoined channel key => [("channel", .text channel), ("key", optional .text key)]
  | .connection (.connected restarted) => [("state", .text "connected"), ("restarted", .bool restarted)]
  | .connection .lost => [("state", .text "connection_lost")]

def toJson (e : MeshEvent) : Json :=
  let envelope := e.envelope?.toList.map fun env => ("envelope", env.toJson)
  .object (("type", .text e.kind) :: envelope ++ e.fields)

end MeshEvent

end RadioMesh
