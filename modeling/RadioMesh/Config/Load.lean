import RadioMesh.Config.Basic
import RadioMesh.Toml.Document

/-!
Configurations from documents. A section is a table of settings by name, or a list of its settings in their
order; names that mean nothing are passed over. A setting of the wrong type spoils the document.
-/

namespace RadioMesh.Config

open Toml (Value)

/-! ### Settings -/

def text? : Value → Option String
  | .string s => some s
  | _ => none

def truth? : Value → Option Bool
  | .boolean b => some b
  | _ => none

/-- A number below a limit. -/
def number? (limit : Nat) : Value → Option Nat
  | .integer n => n.toNat?.filter (· < limit)
  | _ => none

def word16? (v : Value) : Option UInt16 :=
  (number? UInt16.size v).map UInt16.ofNat

def word32? (v : Value) : Option UInt32 :=
  (number? UInt32.size v).map UInt32.ofNat

def word64? (v : Value) : Option UInt64 :=
  (number? UInt64.size v).map UInt64.ofNat

def list? {α : Type} (read : Value → Option α) : Value → Option (List α)
  | .array items => items.mapM read
  | _ => none

/-! ### Sections -/

/-- A section's settings by place and name. A date is a section without settings. -/
def section? : Value → Option (Nat → String → Option Value)
  | .table fields => some fun _ name => fields.lookup name
  | .array items => some fun place _ => items[place]?
  | .datetime _ => some fun _ _ => none
  | _ => none

/-- A setting, or what holds without it. -/
def orElse {α : Type} (v : Option Value) (read : Value → Option α) (absent : α) : Option α :=
  match v with
  | none => some absent
  | some v => read v

/-- A setting that may be missing. -/
def maybe {α : Type} (v : Option Value) (read : Value → Option α) : Option (Option α) :=
  orElse v (fun v => (read v).map some) none

def node? (v : Value) : Option NodeConfig := do
  let get ← section? v
  let id ← (get 0 "id").bind text?
  let longName ← orElse (get 1 "long_name") text? ""
  let shortName ← orElse (get 2 "short_name") text? ""
  let privateKey ← maybe (get 3 "private_key") text?
  let publicKey ← maybe (get 4 "public_key") text?
  return ⟨id, longName, shortName, privateKey, publicKey⟩

def channel? (v : Value) : Option ChannelConfig := do
  let get ← section? v
  let name ← (get 0 "name").bind text?
  let key ← maybe (get 1 "key") text?
  return ⟨name, key⟩

def mesh? (v : Value) : Option MeshConfig := do
  let get ← section? v
  let absent : MeshConfig := {}
  let hopLimit ← orElse (get 0 "hop_limit") word32? absent.hopLimit
  let primaryChannel ← orElse (get 1 "primary_channel") text? absent.primaryChannel
  let channels ← orElse (get 2 "channels") (list? channel?) absent.channels
  let neighborInterval ← orElse (get 3 "neighbor_broadcast_interval_secs") word64? absent.neighborInterval
  return ⟨hopLimit, primaryChannel, channels, neighborInterval⟩

def broker? (v : Value) : Option BrokerConfig := do
  let get ← section? v
  let enabled ← (get 0 "enabled").bind truth?
  let host ← (get 1 "host").bind text?
  let absent : BrokerConfig := { enabled := enabled, host := host }
  let port ← orElse (get 2 "port") word16? absent.port
  let username ← maybe (get 3 "username") text?
  let password ← maybe (get 4 "password") text?
  let rootTopic ← orElse (get 5 "root_topic") text? absent.rootTopic
  let clientId ← orElse (get 6 "client_id") text? absent.clientId
  let tls ← orElse (get 7 "tls") truth? absent.tls
  return ⟨enabled, host, port, username, password, rootTopic, clientId, tls⟩

def multicast? (v : Value) : Option MulticastConfig := do
  let get ← section? v
  let enabled ← (get 0 "enabled").bind truth?
  let absent : MulticastConfig := { enabled := enabled }
  let group ← orElse (get 1 "group") text? absent.group
  let port ← orElse (get 2 "port") word16? absent.port
  let localAddress ← maybe (get 3 "interface") text?
  return ⟨enabled, group, port, localAddress⟩

def logging? (v : Value) : Option LoggingConfig := do
  let get ← section? v
  let level ← (get 0 "level").bind text?
  let format ← (get 1 "format").bind text?
  let output ← (get 2 "output").bind text?
  let filePath ← (get 3 "file_path").bind text?
  return ⟨level, format, output, filePath⟩

/-! ### Documents -/

def ofRoot? (root : Value) : Option Config := do
  let get ← section? root
  let node ← (get 0 "node").bind node?
  let mesh ← (get 1 "mesh").bind mesh?
  let broker ← orElse (get 2 "mqtt") broker? .absent
  let multicast ← orElse (get 3 "multicast") multicast? .absent
  let logging ← orElse (get 4 "logging") logging? .absent
  return ⟨node, mesh, broker, multicast, logging⟩

def ofText (text : String) : Except ConfigError Config :=
  match (Toml.read? text).bind ofRoot? with
  | none => .error .document
  | some c => c.check.map fun () => c

/-- The configuration in a file, which may be missing. -/
def load : Option String → Except ConfigError Config
  | none => .error (.io "No such file or directory (os error 2)")
  | some text => ofText text

end RadioMesh.Config
