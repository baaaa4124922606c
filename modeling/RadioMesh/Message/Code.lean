/-!
The numbered codes of the radio schema. Messages carry the numbers, of which a code knows some: the
lists below hold every known code once, with its number and its name.
-/

namespace RadioMesh

/-! ### Port -/

/-- What an application payload is. -/
inductive Port
  | unknown
  | textMessage
  | remoteHardware
  | position
  | nodeinfo
  | routing
  | admin
  | textMessageCompressed
  | waypoint
  | audio
  | detectionSensor
  | alert
  | reply
  | ipTunnel
  | paxcounter
  | serial
  | storeForward
  | rangeTest
  | telemetry
  | zps
  | simulator
  | traceroute
  | neighborinfo
  | atakPlugin
  | mapReport
  | powerstress
  | privateApp
  | atakForwarder
  | max
deriving DecidableEq, Repr

namespace Port

def all : List Port :=
  [.unknown, .textMessage, .remoteHardware, .position, .nodeinfo, .routing, .admin,
    .textMessageCompressed, .waypoint, .audio, .detectionSensor, .alert, .reply, .ipTunnel,
    .paxcounter, .serial, .storeForward, .rangeTest, .telemetry, .zps, .simulator, .traceroute,
    .neighborinfo, .atakPlugin, .mapReport, .powerstress, .privateApp, .atakForwarder, .max]

def number : Port → Int32
  | .unknown => 0
  | .textMessage => 1
  | .remoteHardware => 2
  | .position => 3
  | .nodeinfo => 4
  | .routing => 5
  | .admin => 6
  | .textMessageCompressed => 7
  | .waypoint => 8
  | .audio => 9
  | .detectionSensor => 10
  | .alert => 11
  | .reply => 32
  | .ipTunnel => 33
  | .paxcounter => 34
  | .serial => 64
  | .storeForward => 65
  | .rangeTest => 66
  | .telemetry => 67
  | .zps => 68
  | .simulator => 69
  | .traceroute => 70
  | .neighborinfo => 71
  | .atakPlugin => 72
  | .mapReport => 73
  | .powerstress => 74
  | .privateApp => 256
  | .atakForwarder => 257
  | .max => 511

def name : Port → String
  | .unknown => "UnknownApp"
  | .textMessage => "TextMessageApp"
  | .remoteHardware => "RemoteHardwareApp"
  | .position => "PositionApp"
  | .nodeinfo => "NodeinfoApp"
  | .routing => "RoutingApp"
  | .admin => "AdminApp"
  | .textMessageCompressed => "TextMessageCompressedApp"
  | .waypoint => "WaypointApp"
  | .audio => "AudioApp"
  | .detectionSensor => "DetectionSensorApp"
  | .alert => "AlertApp"
  | .reply => "ReplyApp"
  | .ipTunnel => "IpTunnelApp"
  | .paxcounter => "PaxcounterApp"
  | .serial => "SerialApp"
  | .storeForward => "StoreForwardApp"
  | .rangeTest => "RangeTestApp"
  | .telemetry => "TelemetryApp"
  | .zps => "ZpsApp"
  | .simulator => "SimulatorApp"
  | .traceroute => "TracerouteApp"
  | .neighborinfo => "NeighborinfoApp"
  | .atakPlugin => "AtakPlugin"
  | .mapReport => "MapReportApp"
  | .powerstress => "PowerstressApp"
  | .privateApp => "PrivateApp"
  | .atakForwarder => "AtakForwarder"
  | .max => "Max"

def ofNumber? (n : Int32) : Option Port :=
  all.find? (·.number == n)

end Port

/-! ### Priority -/

/-- How urgent a packet is to the radios that forward it. -/
inductive Priority
  | unset
  | min
  | background
  | default
  | reliable
  | response
  | high
  | alert
  | ack
  | max
deriving DecidableEq, Repr

namespace Priority

def all : List Priority :=
  [.unset, .min, .background, .default, .reliable, .response, .high, .alert, .ack, .max]

def number : Priority → Int32
  | .unset => 0
  | .min => 1
  | .background => 10
  | .default => 64
  | .reliable => 70
  | .response => 80
  | .high => 100
  | .alert => 110
  | .ack => 120
  | .max => 127

def name : Priority → String
  | .unset => "Unset"
  | .min => "Min"
  | .background => "Background"
  | .default => "Default"
  | .reliable => "Reliable"
  | .response => "Response"
  | .high => "High"
  | .alert => "Alert"
  | .ack => "Ack"
  | .max => "Max"

def ofNumber? (n : Int32) : Option Priority :=
  all.find? (·.number == n)

end Priority

/-! ### RoutingError -/

/-- Why a packet could not be delivered, or that it was. -/
inductive RoutingError
  | delivered
  | noRoute
  | gotNak
  | timeout
  | noInterface
  | maxRetransmit
  | noChannel
  | tooLarge
  | noResponse
  | dutyCycleLimit
  | badRequest
  | notAuthorized
  | pkiFailed
  | pkiUnknownPubkey
deriving DecidableEq, Repr

namespace RoutingError

def all : List RoutingError :=
  [.delivered, .noRoute, .gotNak, .timeout, .noInterface, .maxRetransmit, .noChannel, .tooLarge,
    .noResponse, .dutyCycleLimit, .badRequest, .notAuthorized, .pkiFailed, .pkiUnknownPubkey]

def number : RoutingError → Int32
  | .delivered => 0
  | .noRoute => 1
  | .gotNak => 2
  | .timeout => 3
  | .noInterface => 4
  | .maxRetransmit => 5
  | .noChannel => 6
  | .tooLarge => 7
  | .noResponse => 8
  | .dutyCycleLimit => 9
  | .badRequest => 32
  | .notAuthorized => 33
  | .pkiFailed => 34
  | .pkiUnknownPubkey => 35

def name : RoutingError → String
  | .delivered => "None"
  | .noRoute => "NoRoute"
  | .gotNak => "GotNak"
  | .timeout => "Timeout"
  | .noInterface => "NoInterface"
  | .maxRetransmit => "MaxRetransmit"
  | .noChannel => "NoChannel"
  | .tooLarge => "TooLarge"
  | .noResponse => "NoResponse"
  | .dutyCycleLimit => "DutyCycleLimit"
  | .badRequest => "BadRequest"
  | .notAuthorized => "NotAuthorized"
  | .pkiFailed => "PkiFailed"
  | .pkiUnknownPubkey => "PkiUnknownPubkey"

def ofNumber? (n : Int32) : Option RoutingError :=
  all.find? (·.number == n)

end RoutingError

/-! ### Role -/

/-- The part a node plays in the mesh. -/
inductive Role
  | client
  | clientMute
  | router
  | routerClient
  | repeater
  | tracker
  | sensor
  | tak
  | clientHidden
  | lostAndFound
  | takTracker
  | routerLate
  | clientBase
deriving DecidableEq, Repr

namespace Role

def all : List Role :=
  [.client, .clientMute, .router, .routerClient, .repeater, .tracker, .sensor, .tak, .clientHidden,
    .lostAndFound, .takTracker, .routerLate, .clientBase]

def number : Role → Int32
  | .client => 0
  | .clientMute => 1
  | .router => 2
  | .routerClient => 3
  | .repeater => 4
  | .tracker => 5
  | .sensor => 6
  | .tak => 7
  | .clientHidden => 8
  | .lostAndFound => 9
  | .takTracker => 10
  | .routerLate => 11
  | .clientBase => 12

def name : Role → String
  | .client => "Client"
  | .clientMute => "ClientMute"
  | .router => "Router"
  | .routerClient => "RouterClient"
  | .repeater => "Repeater"
  | .tracker => "Tracker"
  | .sensor => "Sensor"
  | .tak => "Tak"
  | .clientHidden => "ClientHidden"
  | .lostAndFound => "LostAndFound"
  | .takTracker => "TakTracker"
  | .routerLate => "RouterLate"
  | .clientBase => "ClientBase"

def ofNumber? (n : Int32) : Option Role :=
  all.find? (·.number == n)

end Role

/-! ### Hardware -/

/-- The kind of device a node runs on. -/
inductive Hardware
  | unset
  | tloraV2
  | tloraV1
  | tloraV211p6
  | tbeam
  | heltecV20
  | tbeamV0p7
  | tEcho
  | tloraV11p3
  | rak4631
  | heltecV21
  | heltecV1
  | privateHw
deriving DecidableEq, Repr

namespace Hardware

def all : List Hardware :=
  [.unset, .tloraV2, .tloraV1, .tloraV211p6, .tbeam, .heltecV20, .tbeamV0p7, .tEcho, .tloraV11p3,
    .rak4631, .heltecV21, .heltecV1, .privateHw]

def number : Hardware → Int32
  | .unset => 0
  | .tloraV2 => 1
  | .tloraV1 => 2
  | .tloraV211p6 => 3
  | .tbeam => 4
  | .heltecV20 => 5
  | .tbeamV0p7 => 6
  | .tEcho => 7
  | .tloraV11p3 => 8
  | .rak4631 => 9
  | .heltecV21 => 10
  | .heltecV1 => 11
  | .privateHw => 255

def name : Hardware → String
  | .unset => "Unset"
  | .tloraV2 => "TloraV2"
  | .tloraV1 => "TloraV1"
  | .tloraV211p6 => "TloraV211p6"
  | .tbeam => "Tbeam"
  | .heltecV20 => "HeltecV20"
  | .tbeamV0p7 => "TbeamV0p7"
  | .tEcho => "TEcho"
  | .tloraV11p3 => "TloraV11p3"
  | .rak4631 => "Rak4631"
  | .heltecV21 => "HeltecV21"
  | .heltecV1 => "HeltecV1"
  | .privateHw => "PrivateHw"

def ofNumber? (n : Int32) : Option Hardware :=
  all.find? (·.number == n)

end Hardware

/-! ### Region -/

/-- The radio region, which fixes frequencies and limits. -/
inductive Region
  | unset
  | us
  | eu433
  | eu868
  | cn
  | jp
  | anz
  | kr
  | tw
  | ru
  | india
  | nz865
  | th
  | lora24
  | ua433
  | ua868
  | my433
  | my919
  | sg923
deriving DecidableEq, Repr

namespace Region

def all : List Region :=
  [.unset, .us, .eu433, .eu868, .cn, .jp, .anz, .kr, .tw, .ru, .india, .nz865, .th, .lora24,
    .ua433, .ua868, .my433, .my919, .sg923]

def number : Region → Int32
  | .unset => 0
  | .us => 1
  | .eu433 => 2
  | .eu868 => 3
  | .cn => 4
  | .jp => 5
  | .anz => 6
  | .kr => 7
  | .tw => 8
  | .ru => 9
  | .india => 10
  | .nz865 => 11
  | .th => 12
  | .lora24 => 13
  | .ua433 => 14
  | .ua868 => 15
  | .my433 => 16
  | .my919 => 17
  | .sg923 => 18

def name : Region → String
  | .unset => "Unset"
  | .us => "Us"
  | .eu433 => "Eu433"
  | .eu868 => "Eu868"
  | .cn => "Cn"
  | .jp => "Jp"
  | .anz => "Anz"
  | .kr => "Kr"
  | .tw => "Tw"
  | .ru => "Ru"
  | .india => "In"
  | .nz865 => "Nz865"
  | .th => "Th"
  | .lora24 => "Lora24"
  | .ua433 => "Ua433"
  | .ua868 => "Ua868"
  | .my433 => "My433"
  | .my919 => "My919"
  | .sg923 => "Sg923"

def ofNumber? (n : Int32) : Option Region :=
  all.find? (·.number == n)

end Region

/-! ### ModemPreset -/

/-- A named set of modem parameters. -/
inductive ModemPreset
  | longFast
  | longSlow
  | veryLongSlow
  | mediumSlow
  | mediumFast
  | shortSlow
  | shortFast
  | longModerate
  | shortTurbo
deriving DecidableEq, Repr

namespace ModemPreset

def all : List ModemPreset :=
  [.longFast, .longSlow, .veryLongSlow, .mediumSlow, .mediumFast, .shortSlow, .shortFast,
    .longModerate, .shortTurbo]

def number : ModemPreset → Int32
  | .longFast => 0
  | .longSlow => 1
  | .veryLongSlow => 2
  | .mediumSlow => 3
  | .mediumFast => 4
  | .shortSlow => 5
  | .shortFast => 6
  | .longModerate => 7
  | .shortTurbo => 8

def name : ModemPreset → String
  | .longFast => "LongFast"
  | .longSlow => "LongSlow"
  | .veryLongSlow => "VeryLongSlow"
  | .mediumSlow => "MediumSlow"
  | .mediumFast => "MediumFast"
  | .shortSlow => "ShortSlow"
  | .shortFast => "ShortFast"
  | .longModerate => "LongModerate"
  | .shortTurbo => "ShortTurbo"

def ofNumber? (n : Int32) : Option ModemPreset :=
  all.find? (·.number == n)

/-- The letters and digits of a channel name, in lower case. -/
def key (name : String) : String :=
  String.ofList ((name.toList.filter fun c => c.isAlphanum).map Char.toLower)

/-- The preset whose default channel has this name, in whatever case and with whatever marks between
its letters. -/
def ofChannelName? (channel : String) : Option ModemPreset :=
  all.find? fun preset => key preset.name == key channel

end ModemPreset

end RadioMesh
