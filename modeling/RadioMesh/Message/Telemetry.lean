import RadioMesh.Wire.Schema

/-!
Measurements: of a node's device and of the machine it runs on. Other kinds are told apart and not looked
into.
-/

namespace RadioMesh

open Wire

structure DeviceMetrics where
  batteryLevel : Option UInt32 := none
  voltage : Option Binary32 := none
  channelUtilization : Option Binary32 := none
  airUtilTx : Option Binary32 := none
  uptimeSeconds : Option UInt32 := none
deriving DecidableEq, Repr, Inhabited

def DeviceMetrics.schema : Schema DeviceMetrics where
  empty := {}
  fields := [
    .optional 1 "battery_level" .uint32 (·.batteryLevel) fun v m => { m with batteryLevel := v },
    .optional 2 "voltage" .float (·.voltage) fun v m => { m with voltage := v },
    .optional 3 "channel_utilization" .float (·.channelUtilization) fun v m => { m with channelUtilization := v },
    .optional 4 "air_util_tx" .float (·.airUtilTx) fun v m => { m with airUtilTx := v },
    .optional 5 "uptime_seconds" .uint32 (·.uptimeSeconds) fun v m => { m with uptimeSeconds := v }]

/-- Measurements of a machine; load averages are in hundredths. -/
structure HostMetrics where
  uptimeSeconds : UInt32 := 0
  freeMemory : UInt64 := 0
  diskFree1 : UInt64 := 0
  diskFree2 : Option UInt64 := none
  diskFree3 : Option UInt64 := none
  load1 : UInt32 := 0
  load5 : UInt32 := 0
  load15 : UInt32 := 0
  userString : Option String := none
deriving DecidableEq, Repr, Inhabited

def HostMetrics.schema : Schema HostMetrics where
  empty := {}
  fields := [
    .plain 1 "uptime_seconds" .uint32 (·.uptimeSeconds) fun v m => { m with uptimeSeconds := v },
    .plain 2 "freemem_bytes" .uint64 (·.freeMemory) fun v m => { m with freeMemory := v },
    .plain 3 "diskfree1_bytes" .uint64 (·.diskFree1) fun v m => { m with diskFree1 := v },
    .optional 4 "diskfree2_bytes" .uint64 (·.diskFree2) fun v m => { m with diskFree2 := v },
    .optional 5 "diskfree3_bytes" .uint64 (·.diskFree3) fun v m => { m with diskFree3 := v },
    .plain 6 "load1" .uint32 (·.load1) fun v m => { m with load1 := v },
    .plain 7 "load5" .uint32 (·.load5) fun v m => { m with load5 := v },
    .plain 8 "load15" .uint32 (·.load15) fun v m => { m with load15 := v },
    .optional 9 "user_string" .text (·.userString) fun v m => { m with userString := v }]

/-- Measurements that are not looked into. -/
structure OpaqueMetrics where
deriving DecidableEq, Repr, Inhabited

def OpaqueMetrics.schema : Schema OpaqueMetrics where
  empty := {}
  fields := []

inductive Measurement
  | device (m : DeviceMetrics)
  | environment (m : OpaqueMetrics)
  | airQuality (m : OpaqueMetrics)
  | power (m : OpaqueMetrics)
  | localStats (m : OpaqueMetrics)
  | health (m : OpaqueMetrics)
  | host (m : HostMetrics)
deriving DecidableEq, Repr

namespace Measurement

def device? : Measurement → Option DeviceMetrics
  | .device m => some m
  | _ => none

def environment? : Measurement → Option OpaqueMetrics
  | .environment m => some m
  | _ => none

def airQuality? : Measurement → Option OpaqueMetrics
  | .airQuality m => some m
  | _ => none

def power? : Measurement → Option OpaqueMetrics
  | .power m => some m
  | _ => none

def localStats? : Measurement → Option OpaqueMetrics
  | .localStats m => some m
  | _ => none

def health? : Measurement → Option OpaqueMetrics
  | .health m => some m
  | _ => none

def host? : Measurement → Option HostMetrics
  | .host m => some m
  | _ => none

end Measurement

structure Telemetry where
  time : UInt32 := 0
  measurement : Option Measurement := none
deriving DecidableEq, Repr, Inhabited

def Telemetry.schema : Schema Telemetry where
  empty := {}
  fields := [
    .plain 1 "time" .fixed32 (·.time) fun v m => { m with time := v },
    .choice "variant"
      [.message 2 "device_metrics" DeviceMetrics.schema .device Measurement.device?,
        .message 3 "environment_metrics" OpaqueMetrics.schema .environment Measurement.environment?,
        .message 4 "air_quality_metrics" OpaqueMetrics.schema .airQuality Measurement.airQuality?,
        .message 5 "power_metrics" OpaqueMetrics.schema .power Measurement.power?,
        .message 6 "local_stats" OpaqueMetrics.schema .localStats Measurement.localStats?,
        .message 7 "health_metrics" OpaqueMetrics.schema .health Measurement.health?,
        .message 8 "host_metrics" HostMetrics.schema .host Measurement.host?]
      (·.measurement) fun v m => { m with measurement := v }]

end RadioMesh
