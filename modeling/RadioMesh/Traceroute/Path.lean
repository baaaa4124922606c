import RadioMesh.Message.Route
import RadioMesh.NodeId

/-!
A route as it is written down while a traceroute passes: one list of nodes and one of signal-to-noise
ratios for each direction.
-/

namespace RadioMesh

inductive Direction
  | towards
  | back
deriving DecidableEq, Repr

/-- The ratio of a hop that nobody measured. -/
def unknownSnr : Int32 := -128

namespace RouteDiscovery

def nodes (r : RouteDiscovery) : Direction → List UInt32
  | .towards => r.route
  | .back => r.routeBack

def snrs (r : RouteDiscovery) : Direction → List Int32
  | .towards => r.snrTowards
  | .back => r.snrBack

/-- The lists of one direction replaced. -/
def withLists (r : RouteDiscovery) (dir : Direction) (nodes : List UInt32) (snrs : List Int32) : RouteDiscovery :=
  match dir with
  | .towards => { r with route := nodes, snrTowards := snrs }
  | .back => { r with routeBack := nodes, snrBack := snrs }

def pad {α : Type} (length : Nat) (filler : α) (xs : List α) : List α :=
  xs ++ List.replicate (length - xs.length) filler

/-- Placeholders for hops that the hop counts tell of and the route does not, and unknown ratios for all
nodes that have none. Counts that cannot be right change nothing. -/
def insertUnknownHops (r : RouteDiscovery) (hopStart hopLimit : UInt32) (dir : Direction) : RouteDiscovery :=
  if hopStart = 0 ∨ hopStart < hopLimit then r
  else
    let nodes := pad (hopStart.toNat - hopLimit.toNat) NodeId.broadcast.value (r.nodes dir)
    r.withLists dir nodes (pad nodes.length unknownSnr (r.snrs dir))

def addNodeIfMissing (r : RouteDiscovery) (node : NodeId) (snr : Int32) (dir : Direction) : RouteDiscovery :=
  if node.value ∈ r.nodes dir then r
  else r.withLists dir (r.nodes dir ++ [node.value]) (r.snrs dir ++ [snr])

/-- The node that the packet was heard through, unless it is not known or the sender itself. -/
def addGateway (r : RouteDiscovery) (gateway sender : NodeId) (rxSnr : Binary32) (dir : Direction) :
    RouteDiscovery :=
  if gateway = .unknown ∨ gateway = sender then r else r.addNodeIfMissing gateway rxSnr.quarters dir

/-- One more ratio without a node: the last hop's. -/
def addFinalSnr (r : RouteDiscovery) (dir : Direction) : RouteDiscovery :=
  r.withLists dir (r.nodes dir) (r.snrs dir ++ [0])

/-! ### For readers -/

/-- Quarters of a decibel with two places, taken from the nearest binary32 number. -/
def decibels (quarters : Int32) : String :=
  let n := Binary32.roundNat quarters.toInt.natAbs
  let places := n % 4 * 25
  (if quarters < 0 then "-" else "") ++ toString (n / 4) ++ "." ++ (if places = 0 then "00" else toString places)

def snrText : Option Int32 → String
  | some s => if s = unknownSnr then "?dB" else decibels s ++ "dB"
  | none => "?dB"

/-- The hops from one end to the other, each node with its ratio. The last ratio belongs to the end. -/
def text (r : RouteDiscovery) (origin dest : NodeId) (dir : Direction) : String :=
  let hops := (r.nodes dir).mapIdx fun i hop =>
    (NodeId.mk hop).text ++ " (" ++ snrText (r.snrs dir)[i]? ++ ") --> "
  origin.text ++ " --> " ++ String.join hops ++ dest.text ++ " (" ++ snrText (r.snrs dir).getLast? ++ ")"

end RouteDiscovery

end RadioMesh
