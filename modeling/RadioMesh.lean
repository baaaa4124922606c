import RadioMesh.Bytes
import RadioMesh.Channel.Basic
import RadioMesh.Channel.Cipher
import RadioMesh.Channel.Key
import RadioMesh.Cipher.Aes
import RadioMesh.Cipher.Block
import RadioMesh.Cipher.Ccm
import RadioMesh.Cipher.Curve25519
import RadioMesh.Cipher.Sha256
import RadioMesh.Client.Answer
import RadioMesh.Client.Basic
import RadioMesh.Client.Calls
import RadioMesh.Client.Classify
import RadioMesh.Client.Compose
import RadioMesh.Client.Connection
import RadioMesh.Client.Maintenance
import RadioMesh.Client.Open
import RadioMesh.Client.Overlap
import RadioMesh.Client.Receive
import RadioMesh.Client.Run
import RadioMesh.Client.Send
import RadioMesh.Client.Shutdown
import RadioMesh.Client.Transmit
import RadioMesh.CommandLine
import RadioMesh.Config.Basic
import RadioMesh.Config.Json
import RadioMesh.Config.Load
import RadioMesh.Config.Save
import RadioMesh.Direct
import RadioMesh.Error
import RadioMesh.Event.Basic
import RadioMesh.Event.Json
import RadioMesh.Floating.Binary32
import RadioMesh.Floating.Binary64
import RadioMesh.Floating.Reading
import RadioMesh.Floating.Writing
import RadioMesh.Geo.Precision
import RadioMesh.Geo.Uri
import RadioMesh.Json
import RadioMesh.Link.Basic
import RadioMesh.Link.Broker
import RadioMesh.Link.Multicast
import RadioMesh.Main
import RadioMesh.Message.Code
import RadioMesh.Message.Node
import RadioMesh.Message.Packet
import RadioMesh.Message.Route
import RadioMesh.Message.Telemetry
import RadioMesh.Moment
import RadioMesh.NodeId
import RadioMesh.PacketId
import RadioMesh.Proofs.Bytes
import RadioMesh.Proofs.Channel.Cipher
import RadioMesh.Proofs.Channel.KeyGrammar
import RadioMesh.Proofs.Channel.KeyText
import RadioMesh.Proofs.Channel.Keystream
import RadioMesh.Proofs.Cipher.Aes
import RadioMesh.Proofs.Cipher.Block
import RadioMesh.Proofs.Cipher.Ccm
import RadioMesh.Proofs.Client.Alike
import RadioMesh.Proofs.Client.Announcements
import RadioMesh.Proofs.Client.AnswerMatching
import RadioMesh.Proofs.Client.Answers
import RadioMesh.Proofs.Client.CallSteps
import RadioMesh.Proofs.Client.ChannelDelivery
import RadioMesh.Proofs.Client.Connected
import RadioMesh.Proofs.Client.DirectDelivery
import RadioMesh.Proofs.Client.FanOut
import RadioMesh.Proofs.Client.Forgetting
import RadioMesh.Proofs.Client.Gateways
import RadioMesh.Proofs.Client.Handling
import RadioMesh.Proofs.Client.Joins
import RadioMesh.Proofs.Client.KeySearch
import RadioMesh.Proofs.Client.LateAnswers
import RadioMesh.Proofs.Client.NeighborInterval
import RadioMesh.Proofs.Client.NeighborLists
import RadioMesh.Proofs.Client.OnAir
import RadioMesh.Proofs.Client.Overlap
import RadioMesh.Proofs.Client.Payloads
import RadioMesh.Proofs.Client.Primary
import RadioMesh.Proofs.Client.Reception
import RadioMesh.Proofs.Client.RecordLength
import RadioMesh.Proofs.Client.Rejected
import RadioMesh.Proofs.Client.Setup
import RadioMesh.Proofs.Client.Slots
import RadioMesh.Proofs.Client.Spacing
import RadioMesh.Proofs.Client.Stores
import RadioMesh.Proofs.Client.Subscriptions
import RadioMesh.Proofs.Client.TracerouteRequests
import RadioMesh.Proofs.Client.TracerouteSteps
import RadioMesh.Proofs.Client.Traceroutes
import RadioMesh.Proofs.Client.Transmission
import RadioMesh.Proofs.Client.Unanswered
import RadioMesh.Proofs.Client.Upkeep
import RadioMesh.Proofs.Client.Waiting
import RadioMesh.Proofs.Client.WayBack
import RadioMesh.Proofs.Config.RoundTrip
import RadioMesh.Proofs.Config.Usable
import RadioMesh.Proofs.Direct
import RadioMesh.Proofs.Direct.Sealing
import RadioMesh.Proofs.Floating.Writing
import RadioMesh.Proofs.Geo.RoundTrip
import RadioMesh.Proofs.Message.Layout
import RadioMesh.Proofs.Message.Length
import RadioMesh.Proofs.Message.RoundTrip
import RadioMesh.Proofs.NodeId
import RadioMesh.Proofs.PacketId
import RadioMesh.Proofs.Store.Expiry
import RadioMesh.Proofs.Store.Throttle
import RadioMesh.Proofs.Text.Base64Exact
import RadioMesh.Proofs.Traceroute.Completion
import RadioMesh.Proofs.Traceroute.Path
import RadioMesh.Proofs.Traceroute.Placeholders
import RadioMesh.Proofs.Traceroute.Requests
import RadioMesh.Proofs.Traceroute.Slots
import RadioMesh.Proofs.Wire.Layout
import RadioMesh.Proofs.Wire.Record
import RadioMesh.Proofs.Wire.Schema
import RadioMesh.Proofs.Wire.Spelling
import RadioMesh.Store.Ledger
import RadioMesh.Store.NameMap
import RadioMesh.Store.Seen
import RadioMesh.Store.Throttle
import RadioMesh.Text.Base64
import RadioMesh.Text.Blank
import RadioMesh.Text.Extending
import RadioMesh.Text.Number
import RadioMesh.Text.Percent
import RadioMesh.Text.Quoted
import RadioMesh.Text.Unprintable
import RadioMesh.Text.Utf8
import RadioMesh.Toml.Block
import RadioMesh.Toml.Document
import RadioMesh.Toml.Quoted
import RadioMesh.Toml.Statement
import RadioMesh.Toml.Table
import RadioMesh.Toml.Token
import RadioMesh.Toml.Value
import RadioMesh.Traceroute.Path
import RadioMesh.Traceroute.Tracker
import RadioMesh.Wire.Record
import RadioMesh.Wire.Schema
import RadioMesh.Wire.Varint
