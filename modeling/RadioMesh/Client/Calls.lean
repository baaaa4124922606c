import RadioMesh.Client.Overlap

/-!
Traceroutes with a context that are under way at the same time, each at its own stage. The calls of one pair of
nodes share one slot, and the slot does not say which of them took it.
-/

namespace RadioMesh

/-- The nodes that a call goes between. -/
def TracerouteCall.pair (call : TracerouteCall) : NodeId × NodeId :=
  (call.sender, call.target)

/-- What can happen while calls are under way. -/
inductive Turn
  /-- A call takes a step. -/
  | call (i : Nat) (step : CallStep)
  | deliver (delivery : Delivery)
  | maintain
deriving DecidableEq, Repr

namespace Client

/-- The value is how far each call has come. -/
def turn (c : Client) (m : Moment) (calls : Nat → TracerouteCall) (stages : Nat → CallStage) :
    Turn → Step (Nat → CallStage)
  | .call i s =>
    (c.callStep m (calls i) (stages i) s).andThen fun c stage => .still c fun j => if j = i then stage else stages j
  | .deliver d => (c.receive m d).andThen fun c () => .still c stages
  | .maintain => .still (c.maintain m.now) stages

/-- The turns in their order, each at its moment. -/
def interleave (c : Client) (calls : Nat → TracerouteCall) (stages : Nat → CallStage) :
    List (Moment × Turn) → Step (Nat → CallStage)
  | [] => .still c stages
  | (m, x) :: rest => (c.turn m calls stages x).andThen fun c stages => c.interleave calls stages rest

end Client

end RadioMesh
