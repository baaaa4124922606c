import RadioMesh.Channel.Basic
import RadioMesh.Event.Basic
import RadioMesh.Link.Basic
import RadioMesh.Message.Telemetry
import RadioMesh.PacketId
import RadioMesh.Store.NameMap
import RadioMesh.Store.Seen
import RadioMesh.Store.Throttle

/-!
The state of a client: what it was set up with, what it remembers, the channels it joined, its links and
those whom it asks about nodes. A step takes a client and gives the client behind it, what the step did to
the outside, and a value.
-/

namespace RadioMesh

/-! ### Settings -/

structure Settings where
  nodeId : NodeId
  hopLimit : UInt32
  neighborInterval : Duration
  dedupTtl : Duration
  requestThrottle : Duration
  tracerouteCooldown : Duration
  tracerouteTimeout : Duration
  nodeInfoGuard : Duration
  maintenanceInterval : Duration
deriving DecidableEq, Repr

namespace Settings

def defaultHopLimit : UInt32 := 3

/-- Twelve hours, and some more so that nodes drift apart. -/
def defaultNeighborInterval : Duration := .seconds (12 * 60 * 60 + 31)

def defaultNodeInfoGuard : Duration := .minutes 5

def defaultMaintenanceInterval : Duration := .seconds 30

def ofNode (nodeId : NodeId) : Settings where
  nodeId := nodeId
  hopLimit := defaultHopLimit
  neighborInterval := defaultNeighborInterval
  dedupTtl := SeenPackets.defaultTtl
  requestThrottle := RequestThrottle.defaultPeriod
  tracerouteCooldown := TracerouteTracker.defaultCooldown
  tracerouteTimeout := TracerouteTracker.defaultTimeout
  nodeInfoGuard := defaultNodeInfoGuard
  maintenanceInterval := defaultMaintenanceInterval

end Settings

/-! ### Who is asked about nodes -/

/-- What a client's owner knows: which nodes belong to the bridge, key texts of nodes, whom a node hears, and
how the machine is. -/
structure Directory where
  isManaged : NodeId → Bool
  publicKey : NodeId → Option String
  privateKey : NodeId → Option String
  neighbors : NodeId → List NodeId
  host : Except String HostMetrics

/-- Only the bridge itself is known. -/
def Directory.ofNode (nodeId : NodeId) : Directory where
  isManaged node := node == nodeId
  publicKey _ := none
  privateKey _ := none
  neighbors _ := []
  host := .error "no disk mounted at /"

/-! ### Clients -/

structure Client where
  nodeId : NodeId
  startedAt : Instant
  hopLimit : UInt32
  /-- In seconds. -/
  neighborInterval : UInt32
  nodeInfoGuard : Duration
  maintenanceInterval : Duration
  packetIds : PacketIds
  seen : SeenPackets
  throttle : RequestThrottle
  traceroutes : TracerouteTracker
  /-- When each node last announced itself. -/
  nodeInfoSent : Ledger NodeId Instant
  channels : NameMap ChannelDef
  primary : ChannelDef
  links : List Link
  directory : Directory
  /-- The names of the links that reported a start and no loss since. -/
  up : List String
  everConnected : Bool
  /-- Since when the client looks after its stores by itself. -/
  maintainedSince : Option Instant

namespace Client

/-- The most hops a radio grants. -/
def maxHops : UInt32 := 7

/-- One hop is left for the bridge. -/
def clampHopLimit (hopLimit : UInt32) : UInt32 :=
  min hopLimit (maxHops - 1)

def ofSettings (s : Settings) (m : Moment) : Client where
  nodeId := s.nodeId
  startedAt := m.now
  hopLimit := clampHopLimit s.hopLimit
  neighborInterval := s.neighborInterval.toSeconds
  nodeInfoGuard := s.nodeInfoGuard
  maintenanceInterval := s.maintenanceInterval
  packetIds := ⟨m.words 0⟩
  seen := .ofTtl s.dedupTtl
  throttle := .ofPeriod s.requestThrottle
  traceroutes := .ofTimes s.tracerouteCooldown s.tracerouteTimeout
  nodeInfoSent := ∅
  channels := ∅
  primary := .defaultChannel
  links := []
  directory := .ofNode s.nodeId
  up := []
  everConnected := false
  maintainedSince := none

def isManaged (c : Client) (node : NodeId) : Bool :=
  c.directory.isManaged node

def uptime (c : Client) (now : Instant) : Duration :=
  now - c.startedAt

def channel? (c : Client) (name : String) : Option ChannelDef :=
  c.channels.get? name

/-- The joined channels in name order. -/
def channelList (c : Client) : List ChannelDef :=
  c.channels.values

def setHopLimit (c : Client) (hopLimit : UInt32) : Client :=
  { c with hopLimit := clampHopLimit hopLimit }

def setNeighborInterval (c : Client) (interval : Duration) : Client :=
  { c with neighborInterval := interval.toSeconds }

def isConnected (c : Client) : Bool :=
  c.links.any (·.connected)

def pendingTraceroutes (c : Client) : Nat :=
  c.traceroutes.pending.size

/-- The key of a node, by a source of key texts. -/
def keyFrom (source : NodeId → Option String) (node : NodeId) : Except MeshError Bytes :=
  match (source node).filter (· ≠ "") with
  | none => .error (.keyUnavailable node)
  | some text => (Key.parse text).mapError .identifier

def publicKey (c : Client) (node : NodeId) : Except MeshError Bytes :=
  keyFrom c.directory.publicKey node

def privateKey (c : Client) (node : NodeId) : Except MeshError Bytes :=
  keyFrom c.directory.privateKey node

end Client

/-! ### Steps -/

/-- What a step does to the outside; links are named by their place. -/
inductive Effect
  | sent (link : Nat) (channel : String) (packet : MeshPacket)
  | event (event : MeshEvent)
  | joined (link : Nat) (channel : String)
  | stopped (link : Nat)
deriving DecidableEq, Repr

structure Step (α : Type) where
  client : Client
  effects : List Effect
  value : α

/-- A step that does nothing. -/
def Step.still {α : Type} (c : Client) (value : α) : Step α := ⟨c, [], value⟩

/-- One step after the other. -/
def Step.andThen {α β : Type} (s : Step α) (next : Client → α → Step β) : Step β :=
  let t := next s.client s.value
  ⟨t.client, s.effects ++ t.effects, t.value⟩

end RadioMesh
