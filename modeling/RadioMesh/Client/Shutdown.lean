import RadioMesh.Client.Connection

/-!
The end of a bridge: its client is disconnected, and its background tasks are told to stop and waited for,
all at once and not for ever.
-/

namespace RadioMesh

/-- How long tasks may take to stop. -/
def gracePeriod : Duration := .seconds 10

/-- What became of the background tasks. -/
structure ShutdownReport where
  /-- All of them were told to stop. -/
  told : Bool
  /-- All of them stopped in time. -/
  drained : Bool
deriving DecidableEq, Repr

/-- The client stopped with its tasks, of which is known how long each takes to stop. -/
def Client.shutdown (c : Client) (tasks : List Duration) : Step ShutdownReport :=
  c.disconnect.andThen fun c () => .still c ⟨true, tasks.all (· ≤ gracePeriod)⟩

end RadioMesh
