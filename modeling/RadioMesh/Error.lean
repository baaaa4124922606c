import RadioMesh.Floating.Reading
import RadioMesh.NodeId
import RadioMesh.Text.Base64
import RadioMesh.Text.Number
import RadioMesh.Text.Utf8

/-!
What can go wrong, by cause, and the wording of each cause.
-/

namespace RadioMesh

/-! ### Identifiers, keys and locations -/

/-- A number that a location is written with. -/
inductive GeoNumber
  | latitude
  | longitude
  | altitude
  | uncertainty
deriving DecidableEq, Repr

def GeoNumber.name : GeoNumber → String
  | .latitude => "latitude"
  | .longitude => "longitude"
  | .altitude => "altitude"
  | .uncertainty => "u= uncertainty"

inductive GeoFault
  | scheme
  | coordinateCount
  | number (which : GeoNumber) (fault : Floating.Fault)
  | zoom (fault : Text.Number.Fault)
  | text (fault : Text.Utf8.Fault)
deriving DecidableEq, Repr

def GeoFault.message : GeoFault → String
  | .scheme => "must start with 'geo:'"
  | .coordinateCount => "expected 2 or 3 coordinates"
  | .number which fault => s!"invalid {which.name}: {fault.message}"
  | .zoom fault => s!"invalid zoom level: {fault.message}"
  | .text fault => fault.message

inductive IdentifierError
  | nodeId (text : String)
  | key (fault : Text.Base64.Fault)
  | geo (fault : GeoFault)
deriving DecidableEq, Repr

def IdentifierError.message : IdentifierError → String
  | .nodeId text => s!"Invalid node ID '{text}': expected up to 8 hex digits with optional '!' prefix"
  | .key fault => s!"Invalid base64 key: {fault.message}"
  | .geo fault => s!"Invalid geo URI: {fault.message}"

/-! ### Protection of payloads -/

inductive CryptoError
  | keyLength (bytes : Nat)
  | tooShort (bytes : Nat)
  | authentication
  | payload
  | noPayload
deriving DecidableEq, Repr

def CryptoError.message : CryptoError → String
  | .keyLength n => s!"Invalid key length: {n} bytes"
  | .tooShort n => s!"Ciphertext too short: {n} bytes"
  | .authentication => "PKI authentication failed"
  | .payload => "Decrypted payload is not a valid Data record"
  | .noPayload => "Packet carries no payload"

/-! ### Links -/

inductive TransportError
  | notConnected (link : String)
  | io (reason : String)
deriving DecidableEq, Repr

def TransportError.message : TransportError → String
  | .notConnected link => s!"{link} transport is not connected"
  | .io reason => s!"IO error: {reason}"

/-! ### Operations of a client -/

/-- What is wrong with an argument. -/
inductive ArgumentFault
  | longName (max : Nat)
  | shortName (max : Nat)
  | location
deriving DecidableEq, Repr

def ArgumentFault.message : ArgumentFault → String
  | .longName n => s!"long name must be at most {n} bytes"
  | .shortName n => s!"short name must be at most {n} bytes"
  | .location => "a valid location is required"

inductive MeshError
  | unmanagedNode (node : NodeId)
  | payloadTooLarge (max actual : Nat)
  | unsupportedEncryption
  | invalidArgument (fault : ArgumentFault)
  | sentTooRecently (node : NodeId)
  | keyUnavailable (node : NodeId)
  | hostMetrics (reason : String)
  | crypto (error : CryptoError)
  | identifier (error : IdentifierError)
  | noTransports
  | allTransportsFailed (errors : List TransportError)
deriving DecidableEq, Repr

def MeshError.message : MeshError → String
  | .unmanagedNode node => s!"from node is not managed by this bridge: {node.text}"
  | .payloadTooLarge max actual =>
    s!"message is too large for meshtastic network: max({max}) sent({actual})"
  | .unsupportedEncryption => "unsupported encryption mode for this operation"
  | .invalidArgument fault => s!"invalid argument: {fault.message}"
  | .sentTooRecently node => s!"node info for {node.text} was sent too recently"
  | .keyUnavailable node => s!"no key available for {node.text}"
  | .hostMetrics reason => s!"host metrics unavailable: {reason}"
  | .crypto error => s!"crypto error: {error.message}"
  | .identifier error => s!"identifier error: {error.message}"
  | .noTransports => "no transports registered"
  | .allTransportsFailed errors =>
    "all transports failed: " ++ String.intercalate "; " (errors.map TransportError.message)

/-! ### Configuration -/

inductive ConfigError
  /-- No text could be read. -/
  | io (reason : String)
  /-- The text is no document, or a document of another shape. -/
  | document
  /-- A number has no place in a document. -/
  | unwritable
  | identifier (error : IdentifierError)
  | primaryNotListed (name : String)
  | primaryMissing
  | noHost
deriving DecidableEq, Repr

def ConfigError.message : ConfigError → String
  | .io reason => s!"IO error: {reason}"
  | .document => "TOML parse error"
  | .unwritable => "TOML serialization error"
  | .identifier error => s!"Identifier error: {error.message}"
  | .primaryNotListed name => s!"Configuration error: primary channel '{name}' is not in the channel list"
  | .primaryMissing => "Configuration error: primary channel missing"
  | .noHost => "Configuration error: mqtt.host must be set"

end RadioMesh
