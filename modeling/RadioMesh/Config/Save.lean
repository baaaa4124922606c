import RadioMesh.Config.Load
import RadioMesh.Toml.Block

/-!
Configurations as documents: a block for each section and for each channel, without the settings that are
absent.
-/

namespace RadioMesh.Config

open Toml (Block Plain)

def maybeText (name : String) (s : Option String) : List (String × Plain) :=
  s.toList.map fun s => (name, .text s)

def nodeBlock (c : NodeConfig) : Block where
  heading := .table ["node"]
  settings := [("id", .text c.id), ("long_name", .text c.longName), ("short_name", .text c.shortName)] ++
    maybeText "private_key" c.privateKey ++ maybeText "public_key" c.publicKey

/-- All settings but the channels. -/
def meshBlock (c : MeshConfig) : Block where
  heading := .table ["mesh"]
  settings := [
    ("hop_limit", .number c.hopLimit.toNat),
    ("primary_channel", .text c.primaryChannel),
    ("neighbor_broadcast_interval_secs", .number c.neighborInterval.toNat)]

def channelBlock (c : ChannelConfig) : Block where
  heading := .element ["mesh", "channels"]
  settings := ("name", .text c.name) :: maybeText "key" c.key

def brokerBlock (c : BrokerConfig) : Block where
  heading := .table ["mqtt"]
  settings := [("enabled", .truth c.enabled), ("host", .text c.host), ("port", .number c.port.toNat)] ++
    maybeText "username" c.username ++ maybeText "password" c.password ++
    [("root_topic", .text c.rootTopic), ("client_id", .text c.clientId), ("tls", .truth c.tls)]

def multicastBlock (c : MulticastConfig) : Block where
  heading := .table ["multicast"]
  settings := [("enabled", .truth c.enabled), ("group", .text c.group), ("port", .number c.port.toNat)] ++
    maybeText "interface" c.localAddress

def loggingBlock (c : LoggingConfig) : Block where
  heading := .table ["logging"]
  settings := [("level", .text c.level), ("format", .text c.format), ("output", .text c.output),
    ("file_path", .text c.filePath)]

/-- The blocks of a configuration. A list without channels would be a setting of its own, which is left out here: one of
the channels of a configuration that was loaded is the primary one. -/
def blocks (c : Config) : List Block :=
  nodeBlock c.node :: meshBlock c.mesh :: c.mesh.channels.map channelBlock ++
    [brokerBlock c.broker, multicastBlock c.multicast, loggingBlock c.logging]

def text (c : Config) : String :=
  Toml.write c.blocks

/-- What goes into the file of a configuration. Numbers of a document have 63 bits and a sign, and of the
numbers in a configuration only the interval may be too large. -/
def save (c : Config) : Except ConfigError String :=
  if c.mesh.neighborInterval.toNat ≤ Int64.maxValue.toInt then .ok c.text else .error .unwritable

/-- The configuration in a file and what is in the file afterwards. A missing file gets a new configuration. -/
def loadOrCreate (stored : Option String) (words : Nat → UInt32) : Except ConfigError (Config × String) :=
  match stored with
  | some text => (ofText text).map fun c => (c, text)
  | none =>
    let c := ofWords words
    c.save.map fun text => (c, text)

end RadioMesh.Config
