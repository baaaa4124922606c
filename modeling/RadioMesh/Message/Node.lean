import RadioMesh.Wire.Schema

/-!
What a node tells about itself and its surroundings: who it is, where it is, what it marks on the map
and whom it hears.
-/

namespace RadioMesh

open Wire

/-- A node's identity. -/
structure User where
  id : String := ""
  longName : String := ""
  shortName : String := ""
  macAddress : Bytes := []
  hardware : Int32 := 0
  isLicensed : Bool := false
  role : Int32 := 0
  publicKey : Bytes := []
  isUnmessagable : Option Bool := none
deriving DecidableEq, Repr, Inhabited

def User.schema : Schema User where
  empty := {}
  fields := [
    .plain 1 "id" .text (·.id) fun v m => { m with id := v },
    .plain 2 "long_name" .text (·.longName) fun v m => { m with longName := v },
    .plain 3 "short_name" .text (·.shortName) fun v m => { m with shortName := v },
    .plain 4 "macaddr" .bytes (·.macAddress) fun v m => { m with macAddress := v },
    .plain 5 "hw_model" .int32 (·.hardware) fun v m => { m with hardware := v },
    .plain 6 "is_licensed" .bool (·.isLicensed) fun v m => { m with isLicensed := v },
    .plain 7 "role" .int32 (·.role) fun v m => { m with role := v },
    .plain 8 "public_key" .bytes (·.publicKey) fun v m => { m with publicKey := v },
    .optional 9 "is_unmessagable" .bool (·.isUnmessagable) fun v m => { m with isUnmessagable := v }]

/-- A node's position, in units of 1e-7 degrees and in meters. -/
structure Position where
  latitude : Option Int32 := none
  longitude : Option Int32 := none
  altitude : Option Int32 := none
  time : UInt32 := 0
  timestamp : UInt32 := 0
  groundSpeed : Option UInt32 := none
  groundTrack : Option UInt32 := none
  precisionBits : UInt32 := 0
deriving DecidableEq, Repr, Inhabited

def Position.schema : Schema Position where
  empty := {}
  fields := [
    .optional 1 "latitude_i" .sfixed32 (·.latitude) fun v m => { m with latitude := v },
    .optional 2 "longitude_i" .sfixed32 (·.longitude) fun v m => { m with longitude := v },
    .optional 3 "altitude" .int32 (·.altitude) fun v m => { m with altitude := v },
    .plain 4 "time" .fixed32 (·.time) fun v m => { m with time := v },
    .plain 7 "timestamp" .fixed32 (·.timestamp) fun v m => { m with timestamp := v },
    .optional 15 "ground_speed" .uint32 (·.groundSpeed) fun v m => { m with groundSpeed := v },
    .optional 16 "ground_track" .uint32 (·.groundTrack) fun v m => { m with groundTrack := v },
    .plain 23 "precision_bits" .uint32 (·.precisionBits) fun v m => { m with precisionBits := v }]

/-- A marker on the map. It is gone after the time `expire`, which 0 puts off for ever; the icon is a code
point. -/
structure Waypoint where
  id : UInt32 := 0
  latitude : Option Int32 := none
  longitude : Option Int32 := none
  expire : UInt32 := 0
  lockedTo : UInt32 := 0
  name : String := ""
  description : String := ""
  icon : UInt32 := 0
deriving DecidableEq, Repr, Inhabited

def Waypoint.schema : Schema Waypoint where
  empty := {}
  fields := [
    .plain 1 "id" .uint32 (·.id) fun v m => { m with id := v },
    .optional 2 "latitude_i" .sfixed32 (·.latitude) fun v m => { m with latitude := v },
    .optional 3 "longitude_i" .sfixed32 (·.longitude) fun v m => { m with longitude := v },
    .plain 4 "expire" .uint32 (·.expire) fun v m => { m with expire := v },
    .plain 5 "locked_to" .uint32 (·.lockedTo) fun v m => { m with lockedTo := v },
    .plain 6 "name" .text (·.name) fun v m => { m with name := v },
    .plain 7 "description" .text (·.description) fun v m => { m with description := v },
    .plain 8 "icon" .fixed32 (·.icon) fun v m => { m with icon := v }]

/-- A node that another one hears directly. -/
structure Neighbor where
  nodeId : UInt32 := 0
  snr : Binary32 := .zero
  lastRxTime : UInt32 := 0
  broadcastIntervalSecs : UInt32 := 0
deriving DecidableEq, Repr, Inhabited

def Neighbor.schema : Schema Neighbor where
  empty := {}
  fields := [
    .plain 1 "node_id" .uint32 (·.nodeId) fun v m => { m with nodeId := v },
    .plain 2 "snr" .float (·.snr) fun v m => { m with snr := v },
    .plain 3 "last_rx_time" .fixed32 (·.lastRxTime) fun v m => { m with lastRxTime := v },
    .plain 4 "node_broadcast_interval_secs" .uint32 (·.broadcastIntervalSecs) fun v m =>
      { m with broadcastIntervalSecs := v }]

/-- The neighbors of a node, and how often it tells of them. -/
structure NeighborInfo where
  nodeId : UInt32 := 0
  lastSentById : UInt32 := 0
  broadcastIntervalSecs : UInt32 := 0
  neighbors : List Neighbor := []
deriving DecidableEq, Repr, Inhabited

def NeighborInfo.schema : Schema NeighborInfo where
  empty := {}
  fields := [
    .plain 1 "node_id" .uint32 (·.nodeId) fun v m => { m with nodeId := v },
    .plain 2 "last_sent_by_id" .uint32 (·.lastSentById) fun v m => { m with lastSentById := v },
    .plain 3 "node_broadcast_interval_secs" .uint32 (·.broadcastIntervalSecs) fun v m =>
      { m with broadcastIntervalSecs := v },
    .messages 4 "neighbors" Neighbor.schema (·.neighbors) fun v m => { m with neighbors := v }]

/-- What a node reports to public maps. -/
structure MapReport where
  longName : String := ""
  shortName : String := ""
  role : Int32 := 0
  hardware : Int32 := 0
  firmwareVersion : String := ""
  region : Int32 := 0
  modemPreset : Int32 := 0
  hasDefaultChannel : Bool := false
  latitude : Int32 := 0
  longitude : Int32 := 0
  altitude : Int32 := 0
  positionPrecision : UInt32 := 0
  onlineLocalNodes : UInt32 := 0
  hasOptedReportLocation : Bool := false
deriving DecidableEq, Repr, Inhabited

def MapReport.schema : Schema MapReport where
  empty := {}
  fields := [
    .plain 1 "long_name" .text (·.longName) fun v m => { m with longName := v },
    .plain 2 "short_name" .text (·.shortName) fun v m => { m with shortName := v },
    .plain 3 "role" .int32 (·.role) fun v m => { m with role := v },
    .plain 4 "hw_model" .int32 (·.hardware) fun v m => { m with hardware := v },
    .plain 5 "firmware_version" .text (·.firmwareVersion) fun v m => { m with firmwareVersion := v },
    .plain 6 "region" .int32 (·.region) fun v m => { m with region := v },
    .plain 7 "modem_preset" .int32 (·.modemPreset) fun v m => { m with modemPreset := v },
    .plain 8 "has_default_channel" .bool (·.hasDefaultChannel) fun v m => { m with hasDefaultChannel := v },
    .plain 9 "latitude_i" .sfixed32 (·.latitude) fun v m => { m with latitude := v },
    .plain 10 "longitude_i" .sfixed32 (·.longitude) fun v m => { m with longitude := v },
    .plain 11 "altitude" .int32 (·.altitude) fun v m => { m with altitude := v },
    .plain 12 "position_precision" .uint32 (·.positionPrecision) fun v m => { m with positionPrecision := v },
    .plain 13 "num_online_local_nodes" .uint32 (·.onlineLocalNodes) fun v m => { m with onlineLocalNodes := v },
    .plain 14 "has_opted_report_location" .bool (·.hasOptedReportLocation) fun v m =>
      { m with hasOptedReportLocation := v }]

/-- A message of a store-and-forward server, of which only the kind is read. -/
structure StoreAndForward where
  kind : Int32 := 0
deriving DecidableEq, Repr, Inhabited

def StoreAndForward.schema : Schema StoreAndForward where
  empty := {}
  fields := [.plain 1 "rr" .int32 (·.kind) fun v m => { m with kind := v }]

end RadioMesh
