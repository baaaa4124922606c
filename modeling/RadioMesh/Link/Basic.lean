import RadioMesh.Error
import RadioMesh.Message.Packet

/-!
Links to the mesh, and the packets that come in over them.
-/

namespace RadioMesh

/-- The kind of link that a packet came in over. -/
inductive PacketSource
  | mqtt
  | udp
  | localLink
deriving DecidableEq, Repr

def PacketSource.name : PacketSource → String
  | .mqtt => "mqtt"
  | .udp => "udp"
  | .localLink => "local"

/-- A packet with what its link knows about it: the channel's name and the node that took it up. -/
structure Delivery where
  packet : MeshPacket
  channel : Option String
  gateway : Option NodeId
  source : PacketSource
deriving DecidableEq, Repr

/-- What a link reports about itself. -/
inductive LinkReport
  | started
  | restarted
  | lost
deriving DecidableEq, Repr

/-- A link as its owner sees it. While it has a fault it neither starts nor accepts packets. -/
structure Link where
  name : String
  connected : Bool := false
  fault : Option TransportError := none
deriving DecidableEq, Repr, Inhabited

/-- A link accepts a packet or refuses it with its fault. -/
def Link.accept (l : Link) : Except TransportError Unit :=
  match l.fault with
  | none => .ok ()
  | some fault => .error fault

end RadioMesh
