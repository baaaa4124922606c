import RadioMesh.Config.Basic
import RadioMesh.Json

/-!
Configurations as JSON objects, section by section.
-/

namespace RadioMesh

open Json

def NodeConfig.toJson (c : NodeConfig) : Json :=
  .object [
    ("id", .text c.id),
    ("long_name", .text c.longName),
    ("short_name", .text c.shortName),
    ("private_key", optional .text c.privateKey),
    ("public_key", optional .text c.publicKey)]

def ChannelConfig.toJson (c : ChannelConfig) : Json :=
  .object [("name", .text c.name), ("key", optional .text c.key)]

def MeshConfig.toJson (c : MeshConfig) : Json :=
  .object [
    ("hop_limit", word c.hopLimit),
    ("primary_channel", .text c.primaryChannel),
    ("channels", .list (c.channels.map ChannelConfig.toJson)),
    ("neighbor_broadcast_interval_secs", .int c.neighborInterval.toNat)]

def BrokerConfig.toJson (c : BrokerConfig) : Json :=
  .object [
    ("enabled", .bool c.enabled),
    ("host", .text c.host),
    ("port", .int c.port.toNat),
    ("username", optional .text c.username),
    ("password", optional .text c.password),
    ("root_topic", .text c.rootTopic),
    ("client_id", .text c.clientId),
    ("tls", .bool c.tls)]

def MulticastConfig.toJson (c : MulticastConfig) : Json :=
  .object [
    ("enabled", .bool c.enabled),
    ("group", .text c.group),
    ("port", .int c.port.toNat),
    ("interface", optional .text c.localAddress)]

def LoggingConfig.toJson (c : LoggingConfig) : Json :=
  .object [
    ("level", .text c.level),
    ("format", .text c.format),
    ("output", .text c.output),
    ("file_path", .text c.filePath)]

def Config.toJson (c : Config) : Json :=
  .object [
    ("node", c.node.toJson),
    ("mesh", c.mesh.toJson),
    ("mqtt", c.broker.toJson),
    ("multicast", c.multicast.toJson),
    ("logging", c.logging.toJson)]

def BrokerSettings.toJson (s : BrokerSettings) : Json :=
  .object [
    ("host", .text s.host),
    ("port", .int s.port.toNat),
    ("username", optional .text s.username),
    ("password", optional .text s.password),
    ("root_topic", .text s.rootTopic),
    ("client_id", .text s.clientId),
    ("tls", .bool s.tls),
    ("node_id", word s.nodeId.value)]

end RadioMesh
