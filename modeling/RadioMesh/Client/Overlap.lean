import RadioMesh.Client.Maintenance
import RadioMesh.Client.Receive

/-!
A traceroute with a context, step by step. Links take their time to reply to an offer, and meanwhile packets
come in and the client looks after its stores. The call notes what it waits for when every link has replied.
-/

namespace RadioMesh

/-- What the owner asks for. -/
structure TracerouteCall where
  sender : NodeId
  target : NodeId
  channel : ChannelDef
  context : String
deriving DecidableEq, Repr

/-- What a link made of an offer so far. -/
inductive Reply
  | awaited
  | accepted
  | refused (fault : TransportError)
deriving DecidableEq, Repr

/-- How far a call has come. -/
inductive CallStage
  | started
  /-- The slot of the pair is taken. -/
  | acquired
  /-- The packet was offered to the links. -/
  | offered (out : Client.Outgoing) (replies : List Reply)
  /-- Nothing of the offer is awaited any more. -/
  | joined (result : Except MeshError UInt32)
  | returned (outcome : Except MeshError Client.TracerouteOutcome)

inductive CallStep
  | acquire
  | offer
  /-- A link accepts the packet or refuses it with a fault. -/
  | reply (link : Nat) (fault : Option TransportError)
  | join
  | conclude
deriving DecidableEq, Repr

/-- What can happen while a call is under way. -/
inductive Move
  | call (step : CallStep)
  | deliver (delivery : Delivery)
  | maintain
deriving DecidableEq, Repr

namespace Reply

def ofFault : Option TransportError → Reply
  | none => accepted
  | some fault => refused fault

def fault? : Reply → Option TransportError
  | refused fault => some fault
  | _ => none

/-- The result of an offer that every link replied to. -/
def gather? (replies : List Reply) : Option (Except MeshError Unit) :=
  if awaited ∈ replies then none
  else if replies.isEmpty then some (.error .noTransports)
  else
    let faults := replies.filterMap fault?
    if faults.length = replies.length then some (.error (.allTransportsFailed faults)) else some (.ok ())

end Reply

namespace Client

/-- A submission made ready for the links. -/
def pack (c : Client) (m : Moment) (s : Submission) : Client × Except MeshError Outgoing :=
  match c.check s with
  | .error e => (c, .error e)
  | .ok () =>
    let (id, packetIds) := c.packetIds.next m.words
    ({ c with packetIds := packetIds }, c.protect s (c.header m.epoch s id) (m.words 2))

/-- The next step of a call. A step that is not the next one does nothing. -/
def callStep (c : Client) (m : Moment) (call : TracerouteCall) : CallStage → CallStep → Step CallStage
  | .started, .acquire =>
    match c.acquireSlot m.now call.sender call.target with
    | .error wait => .still c (.returned (.ok (.rateLimited wait)))
    | .ok c' => .still c' .acquired
  | .acquired, .offer =>
    match c.compose m (.traceroute call.sender call.target call.channel) with
    | .error e => .still c (.joined (.error e))
    | .ok s =>
      match c.pack m s with
      | (c', .error e) => .still c' (.joined (.error e))
      | (c', .ok o) => .still c' (.offered o (c.links.map fun _ => .awaited))
  | .offered o replies, .reply i fault =>
    if replies[i]? = some .awaited then
      let stage := CallStage.offered o (replies.set i (.ofFault fault))
      match fault with
      | none => ⟨c, [.sent i o.channel o.packet], stage⟩
      | some _ => .still c stage
    else .still c (.offered o replies)
  | .offered o replies, .join =>
    match Reply.gather? replies with
    | none => .still c (.offered o replies)
    | some result => .still c (.joined (result.map fun () => o.packet.id))
  | .joined result, .conclude =>
    let (c', outcome) :=
      c.concludeTraceroute m.now call.sender call.target call.channel.name call.context result
    .still c' (.returned outcome)
  | stage, _ => .still c stage

def move (c : Client) (m : Moment) (call : TracerouteCall) (stage : CallStage) : Move → Step CallStage
  | .call s => c.callStep m call stage s
  | .deliver d => (c.receive m d).andThen fun c () => .still c stage
  | .maintain => .still (c.maintain m.now) stage

/-- The moves in their order, each at its moment. The value is how far the call has come. -/
def overlap (c : Client) (call : TracerouteCall) (stage : CallStage) : List (Moment × Move) → Step CallStage
  | [] => .still c stage
  | (m, x) :: rest => (c.move m call stage x).andThen fun c stage => c.overlap call stage rest

end Client

end RadioMesh
