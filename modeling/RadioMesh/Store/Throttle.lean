import RadioMesh.Moment
import RadioMesh.NodeId
import RadioMesh.Store.Ledger

/-!
Spacing of automatic answers: for each node and each kind of request, one answer a period.
-/

namespace RadioMesh

/-- A kind of request that is answered on behalf of a node. -/
inductive RequestKind
  | telemetry
  | neighborInfo
deriving DecidableEq, Repr

/-- The period, and for each kind of request when each node was last let through. -/
structure RequestThrottle where
  period : Duration
  telemetry : Ledger NodeId Instant
  neighborInfo : Ledger NodeId Instant

namespace RequestThrottle

def answered (t : RequestThrottle) : RequestKind → Ledger NodeId Instant
  | .telemetry => t.telemetry
  | .neighborInfo => t.neighborInfo

def defaultPeriod : Duration := .minutes 3

def ofPeriod (period : Duration) : RequestThrottle := ⟨period, ∅, ∅⟩

def isCooling (t : RequestThrottle) (now stamp : Instant) : Bool :=
  now - stamp < t.period

def isBlocked (t : RequestThrottle) (kind : RequestKind) (now : Instant) (node : NodeId) : Bool :=
  ((t.answered kind).get? node).any (t.isCooling now)

/-- The period of a node begins. -/
def start (t : RequestThrottle) (kind : RequestKind) (now : Instant) (node : NodeId) : RequestThrottle :=
  match kind with
  | .telemetry => { t with telemetry := t.telemetry.insert node now }
  | .neighborInfo => { t with neighborInfo := t.neighborInfo.insert node now }

/-- Whether a node may answer, and the throttle behind that. A node that is let through starts a period. -/
def pass (t : RequestThrottle) (kind : RequestKind) (now : Instant) (node : NodeId) : Bool × RequestThrottle :=
  if t.isBlocked kind now node then (false, t) else (true, t.start kind now node)

/-- Without the periods that are over. -/
def purge (t : RequestThrottle) (now : Instant) : RequestThrottle :=
  { t with
    telemetry := t.telemetry.filter fun _ stamp => t.isCooling now stamp
    neighborInfo := t.neighborInfo.filter fun _ stamp => t.isCooling now stamp }

def size (t : RequestThrottle) : Nat :=
  t.telemetry.size + t.neighborInfo.size

end RequestThrottle

end RadioMesh
