import RadioMesh.Client.Basic
import RadioMesh.Link.Broker

/-!
Configurations of a bridge: its node, its channels, its links and its logs. A configuration that passes the
check gives the settings of a client and of a broker link.
-/

namespace RadioMesh

/-! ### Sections -/

structure NodeConfig where
  id : String
  longName : String := ""
  shortName : String := ""
  privateKey : Option String := none
  publicKey : Option String := none
deriving DecidableEq, Repr

structure ChannelConfig where
  name : String
  key : Option String := none
deriving DecidableEq, Repr

structure MeshConfig where
  hopLimit : UInt32 := Settings.defaultHopLimit
  primaryChannel : String := ChannelDef.defaultName
  channels : List ChannelConfig := [⟨ChannelDef.defaultName, some "AQ=="⟩]
  /-- In seconds. -/
  neighborInterval : UInt64 := UInt64.ofNat (Settings.defaultNeighborInterval / 1000)
deriving DecidableEq, Repr

structure BrokerConfig where
  enabled : Bool
  host : String
  port : UInt16 := 1883
  username : Option String := none
  password : Option String := none
  rootTopic : String := "msh/US/2/e"
  /-- The node's ID stands in for an empty one. -/
  clientId : String := ""
  tls : Bool := false
deriving DecidableEq, Repr

structure MulticastConfig where
  enabled : Bool
  group : String := "224.0.0.69"
  port : UInt16 := 4403
  localAddress : Option String := none
deriving DecidableEq, Repr

structure LoggingConfig where
  level : String
  format : String
  output : String
  filePath : String
deriving DecidableEq, Repr

/-- What holds without a section of this kind. -/
def BrokerConfig.absent : BrokerConfig where
  enabled := false
  host := "mqtt.meshtastic.org"
  username := some "meshdev"
  password := some "large4cats"

def MulticastConfig.absent : MulticastConfig where
  enabled := true

def LoggingConfig.absent : LoggingConfig where
  level := "info"
  format := "pretty"
  output := "stdout"
  filePath := "./logs/meshbridge.log"

structure Config where
  node : NodeConfig
  mesh : MeshConfig := {}
  broker : BrokerConfig := .absent
  multicast : MulticastConfig := .absent
  logging : LoggingConfig := .absent
deriving DecidableEq, Repr

namespace Config

/-! ### What a configuration means -/

def nodeId (c : Config) : Except ConfigError NodeId :=
  match NodeId.ofText? c.node.id with
  | some n => .ok n
  | none => .error (.identifier (.nodeId c.node.id))

def ofChannel (c : ChannelConfig) : Except ConfigError ChannelDef :=
  (ChannelDef.ofKeyText c.name c.key).mapError .identifier

def channelDefs (c : Config) : Except ConfigError (List ChannelDef) :=
  c.mesh.channels.mapM ofChannel

/-- The first channel of the primary name. -/
def primaryDef (c : Config) : Except ConfigError ChannelDef := do
  let ds ← c.channelDefs
  match ds.find? (·.name = c.mesh.primaryChannel) with
  | some d => return d
  | none => throw .primaryMissing

def settings (c : Config) : Except ConfigError Settings := do
  let nodeId ← c.nodeId
  return { Settings.ofNode nodeId with
    hopLimit := c.mesh.hopLimit
    neighborInterval := .seconds c.mesh.neighborInterval.toNat }

def brokerSettings (c : Config) : Except ConfigError BrokerSettings := do
  let nodeId ← c.nodeId
  return {
    host := c.broker.host
    port := c.broker.port
    username := c.broker.username
    password := c.broker.password
    rootTopic := c.broker.rootTopic
    clientId := if c.broker.clientId = "" then nodeId.text else c.broker.clientId
    tls := c.broker.tls
    nodeId := nodeId }

/-- What would only fail when the bridge runs is refused. -/
def check (c : Config) : Except ConfigError Unit := do
  let _ ← c.nodeId
  let _ ← c.channelDefs
  if !c.mesh.channels.any (·.name = c.mesh.primaryChannel) then
    throw (.primaryNotListed c.mesh.primaryChannel)
  if c.broker.enabled && c.broker.host = "" then throw .noHost

/-! ### New configurations -/

/-- A configuration for a new node with a random ID and no key. Bit 28 keeps the ID out of the reserved low
numbers. -/
def ofWord (word : UInt32) : Config :=
  let id : NodeId := ⟨word ||| 0x10000000⟩
  { node :=
      { id := id.text
        longName := id.longName
        shortName := id.shortName } }

/-- A configuration for a new node with a random ID and a random key. -/
def ofWords (words : Nat → UInt32) : Config :=
  let c := ofWord (words 0)
  let key := (List.range 8).flatMap fun i => Bytes.ofWord32 (words (i + 1))
  { c with node := { c.node with privateKey := some (Text.Base64.encode key) } }

end Config

end RadioMesh
