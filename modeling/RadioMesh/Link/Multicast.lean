import RadioMesh.Link.Basic

/-!
The link to a multicast group in the local network. A datagram is a packet and nothing else, so the group
carries every channel.
-/

namespace RadioMesh.MulticastLink

def name : String := "udp"

/-- What a machine knows about its way to the group. -/
inductive Reach
  | routed
  | unreachable
deriving DecidableEq, Repr

def datagram (p : MeshPacket) : Bytes :=
  MeshPacket.schema.encode p

/-- The datagram on its way, or the fault of a machine that has none. -/
def send (reach : Reach) (p : MeshPacket) : Except TransportError Bytes :=
  match reach with
  | .routed => .ok (datagram p)
  | .unreachable => .error (.io "Network is unreachable (os error 101)")

end RadioMesh.MulticastLink
