import RadioMesh.Client.Classify
import RadioMesh.Client.Send
import RadioMesh.Traceroute.Path

/-!
Answers that a client gives by itself, and the answers to its own traceroutes. Requests are answered on
behalf of managed nodes only; telemetry and neighbor lists are answered once a period for each node.
-/

namespace RadioMesh

/-- A radio asks for neighbors with one neighbor that is all zero, which is no request. -/
def NeighborInfo.isProbe (n : NeighborInfo) : Bool :=
  match n.neighbors with
  | [x] => x.nodeId == 0 && x.snr.isZero
  | _ => false

namespace RouteDiscovery

/-- The bridge as a hop of a route that ends at another node. -/
def addBridge (r : RouteDiscovery) (own : NodeId) : Direction → RouteDiscovery
  | .towards => (r.addNodeIfMissing own 0 .towards).addNodeIfMissing own 0 .back
  | .back => r.addNodeIfMissing own 0 .back

/-- A route at its end: hops that did not tell of themselves, the node the packet was heard through, the
bridge if the packet is for another node, and the last ratio. -/
def complete (r : RouteDiscovery) (received : Received) (own : NodeId) (dir : Direction) : RouteDiscovery :=
  let r := r.insertUnknownHops received.packet.hopStart received.packet.hopLimit dir
  let r := r.addGateway received.gateway received.sender received.packet.rxSnr dir
  let r := if received.dest = own then r else r.addBridge own dir
  r.addFinalSnr dir

end RouteDiscovery

/-- What a client does about a packet. -/
inductive Reaction
  | none
  | event (event : MeshEvent)
  | answers (requests : List Request)

namespace Client

/-! ### Traceroutes -/

/-- The completed route as an answer, after an acknowledgement if one is asked for. -/
def answerTraceroute (c : Client) (r : Received) (route : RouteDiscovery) : Reaction :=
  if r.dest.isBroadcast || !c.isManaged r.dest then .none
  else
    let ack : List Request := if r.packet.wantAck then [.ack r.dest r.sender r.packet.id] else []
    let payload := RouteDiscovery.schema.encode (route.complete r c.nodeId .towards)
    let info := answerInfo .traceroute r.replyProtection r.dest r.sender r.packet.id
    .answers (ack ++ [.bytes r.channel payload info])

/-- The route of an answer that came in, with the request that waited for it. -/
def tracerouteEvent (c : Client) (r : Received) (route : RouteDiscovery) (e : Envelope) : Client × MeshEvent :=
  let route := if c.isManaged r.dest then route.complete r c.nodeId .back else route
  let (pending, traceroutes) := c.traceroutes.take r.data.requestId
  (c.withTraceroutes traceroutes,
    .traceroute e
      { requestId := r.data.requestId
        route := route.route.map .mk
        snrTowards := route.snrTowards
        routeBack := route.routeBack.map .mk
        snrBack := route.snrBack
        pending := pending })

/-! ### Telemetry and neighbors -/

/-- The request behind the throttle, if the node may answer. -/
def throttled (c : Client) (kind : RequestKind) (now : Instant) (node : NodeId) (requests : List Request) :
    Client × Reaction :=
  let (passes, throttle) := c.throttle.pass kind now node
  if passes then ({ c with throttle := throttle }, .answers requests) else (c, .none)

/-- The answer to a telemetry request: metrics of the device unless those of the machine are asked for. Other
kinds have none. -/
def telemetryAnswer (r : Received) (t : Telemetry) : List Request :=
  match t.measurement with
  | none => [.telemetryResponse r.dest r.sender r.channel r.replyProtection r.packet.id]
  | some (.device _) => [.telemetryResponse r.dest r.sender r.channel r.replyProtection r.packet.id]
  | some (.host _) => [.hostMetricsResponse r.dest r.sender r.channel r.replyProtection r.packet.id]
  | some _ => []

def answerTelemetry (c : Client) (now : Instant) (r : Received) (t : Telemetry) : Client × Reaction :=
  if c.isManaged r.dest then c.throttled .telemetry now r.dest (telemetryAnswer r t) else (c, .none)

def answerNeighborInfo (c : Client) (now : Instant) (r : Received) (n : NeighborInfo) : Client × Reaction :=
  if c.isManaged r.dest && !n.isProbe then
    c.throttled .neighborInfo now r.dest
      [.neighborInfoResponse r.dest r.sender (c.directory.neighbors r.dest) c.neighborInterval r.channel
        r.replyProtection r.packet.id]
  else (c, .none)

/-! ### Any packet -/

def react (c : Client) (m : Moment) (r : Received) : Client × Reaction :=
  let e := r.envelope m.epoch
  match Meaning.ofData e m.epoch r.data with
  | .event event => (c, .event event)
  | .tracerouteRequest route => (c, c.answerTraceroute r route)
  | .tracerouteResponse route =>
    let (c', event) := c.tracerouteEvent r route e
    (c', .event event)
  | .telemetryRequest t => c.answerTelemetry m.now r t
  | .neighborInfoRequest n => c.answerNeighborInfo m.now r n
  | .nothing => (c, .none)

end Client

end RadioMesh
