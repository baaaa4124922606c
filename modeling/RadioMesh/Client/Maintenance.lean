import RadioMesh.Client.Basic

/-!
Looking after the stores: what is too old to matter is dropped, at fixed intervals while the client is
connected and whenever the owner asks for it.
-/

namespace RadioMesh.Client

def maintain (c : Client) (now : Instant) : Client :=
  { c with
    seen := c.seen.purge now
    throttle := c.throttle.purge now
    traceroutes := c.traceroutes.purge now
    nodeInfoSent := c.nodeInfoSent.filter fun _ sent => now - sent < c.nodeInfoGuard }

/-- The moments after `since` and up to `stop` that lie whole intervals after `start`. -/
def ticks (start interval since stop : Instant) : List Instant :=
  if interval = 0 then []
  else
    let before := (since - start) / interval
    let after := (stop - start) / interval
    (List.range (after - before)).map fun i => start + (before + 1 + i) * interval

/-- Time passes, and a client that is connected maintains itself meanwhile. -/
def elapse (c : Client) (since stop : Instant) : Client :=
  match c.maintainedSince with
  | none => c
  | some start => (ticks start c.maintenanceInterval since stop).foldl maintain c

end RadioMesh.Client
