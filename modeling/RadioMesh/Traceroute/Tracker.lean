import RadioMesh.Moment
import RadioMesh.NodeId
import RadioMesh.Store.Ledger

/-!
Bookkeeping of the traceroutes a bridge sends: a cooldown for each pair of nodes, and the requests that wait
for their answer.
-/

namespace RadioMesh

/-- A traceroute that waits for its answer. The context is the caller's own note on it. -/
structure PendingTraceroute where
  sender : NodeId
  target : NodeId
  channel : String
  context : String
  sentAt : Instant
deriving DecidableEq, Repr

structure TracerouteTracker where
  cooldown : Duration
  timeout : Duration
  /-- When each pair of nodes last took its slot. -/
  lastSent : Ledger (NodeId × NodeId) Instant
  pending : Ledger UInt32 PendingTraceroute

namespace TracerouteTracker

def defaultCooldown : Duration := .seconds 30

def defaultTimeout : Duration := .seconds 60

def ofTimes (cooldown timeout : Duration) : TracerouteTracker := ⟨cooldown, timeout, ∅, ∅⟩

/-! ### Slots -/

/-- How long a pair still has to wait, if it has to. -/
def remaining? (t : TracerouteTracker) (now : Instant) (sender target : NodeId) : Option Duration :=
  ((t.lastSent.get? (sender, target)).bind fun sent => Duration.left? t.cooldown (now - sent)).filter (· ≠ 0)

/-- The slot of a pair, taken now, or how long it has to wait. -/
def acquire (t : TracerouteTracker) (now : Instant) (sender target : NodeId) :
    Except Duration TracerouteTracker :=
  match (t.lastSent.get? (sender, target)).filter fun sent => now - sent < t.cooldown with
  | some sent => .error (t.cooldown - (now - sent))
  | none => .ok { t with lastSent := t.lastSent.insert (sender, target) now }

/-- The slot of a pair given back. -/
def release (t : TracerouteTracker) (sender target : NodeId) : TracerouteTracker :=
  { t with lastSent := t.lastSent.erase (sender, target) }

/-! ### Requests -/

def add (t : TracerouteTracker) (id : UInt32) (request : PendingTraceroute) : TracerouteTracker :=
  { t with pending := t.pending.insert id request }

/-- The request that a packet ID belongs to, which then waits no more. -/
def take (t : TracerouteTracker) (id : UInt32) : Option PendingTraceroute × TracerouteTracker :=
  (t.pending.get? id, { t with pending := t.pending.erase id })

/-- Without requests that waited for the whole timeout and slots taken two cooldowns ago. -/
def purge (t : TracerouteTracker) (now : Instant) : TracerouteTracker :=
  { t with
    pending := t.pending.filter fun _ request => now - request.sentAt < t.timeout
    lastSent := t.lastSent.filter fun _ sent => now - sent < 2 * t.cooldown }

end TracerouteTracker

end RadioMesh
