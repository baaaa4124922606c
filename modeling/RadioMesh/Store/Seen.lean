import RadioMesh.Moment
import RadioMesh.NodeId
import RadioMesh.Store.Ledger

/-!
Packets that were seen lately. The same packet comes in over more than one link; it counts as new again
after a fixed time. Packets without an ID are never recorded.
-/

namespace RadioMesh

structure SeenPackets where
  ttl : Duration
  seen : Ledger UInt64 Instant

namespace SeenPackets

/-- What a packet is remembered by: its sender above its ID. -/
def key (sender : NodeId) (id : UInt32) : UInt64 :=
  sender.value.toUInt64 <<< 32 ||| id.toUInt64

/-- Packets are remembered this long unless told otherwise. -/
def defaultTtl : Duration := .hours 2

def ofTtl (ttl : Duration) : SeenPackets := ⟨ttl, ∅⟩

/-- Still remembered, having been recorded at `stamp`. -/
def isFresh (s : SeenPackets) (now stamp : Instant) : Bool :=
  now - stamp < s.ttl

def isDuplicate (s : SeenPackets) (now : Instant) (sender : NodeId) (id : UInt32) : Bool :=
  id ≠ 0 && (s.seen.get? (key sender id)).any (s.isFresh now)

/-- Whether a packet is a duplicate, and what is remembered with it. A duplicate does not prolong the time
of the packet it repeats. -/
def record (s : SeenPackets) (now : Instant) (sender : NodeId) (id : UInt32) : Bool × SeenPackets :=
  if id = 0 then (false, s)
  else if s.isDuplicate now sender id then (true, s)
  else (false, { s with seen := s.seen.insert (key sender id) now })

/-- Without what is no longer remembered. -/
def purge (s : SeenPackets) (now : Instant) : SeenPackets :=
  { s with seen := s.seen.filter fun _ stamp => s.isFresh now stamp }

end SeenPackets

end RadioMesh
