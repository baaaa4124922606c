import RadioMesh.Client.Connection
import RadioMesh.Client.Maintenance
import RadioMesh.Client.Receive

/-!
Everything that can happen to a client, and runs: what a client does when one thing happens after the
other. Time passes between the actions of a run; within an action it stands still.
-/

namespace RadioMesh

/-- A call of the owner, an arrival, or a change of a link. -/
inductive Action
  | receive (delivery : Delivery)
  | send (request : Request)
  | requestTraceroute (sender target : NodeId) (channel : ChannelDef) (context : String)
  | addChannel (channel : ChannelDef)
  | addChannelText (name : String) (key : Option String)
  | setPrimary (channel : ChannelDef)
  | addLink (link : Link)
  | setFault (link : Nat) (fault : Option TransportError)
  | report (link : Nat) (report : LinkReport)
  | connect
  | disconnect
  | maintain
  | setHopLimit (hopLimit : UInt32)
  | setNeighborInterval (interval : Duration)
  | setDirectory (directory : Directory)

/-- What the owner gets back. -/
inductive Answer
  | done
  | sent (id : UInt32)
  | rateLimited (retryIn : Duration)
  | refused (error : MeshError)
deriving DecidableEq, Repr

namespace Answer

def ofSend : Except MeshError UInt32 → Answer
  | .ok id => .sent id
  | .error e => .refused e

def ofTraceroute : Except MeshError Client.TracerouteOutcome → Answer
  | .ok (.sent id) => .sent id
  | .ok (.rateLimited wait) => .rateLimited wait
  | .error e => .refused e

def ofCall : Except MeshError Unit → Answer
  | .ok () => .done
  | .error e => .refused e

end Answer

/-- The same step with its value changed. -/
def Step.map {α β : Type} (f : α → β) (s : Step α) : Step β :=
  ⟨s.client, s.effects, f s.value⟩

namespace Client

def act (c : Client) (m : Moment) : Action → Step Answer
  | .receive d => (c.receive m d).map fun () => .done
  | .send r => (c.send m r).map .ofSend
  | .requestTraceroute sender target channel context =>
    (c.requestTraceroute m sender target channel context).map .ofTraceroute
  | .addChannel d => (c.addChannel d).map fun () => .done
  | .addChannelText name key => (c.addChannelText name key).map .ofCall
  | .setPrimary d => (c.setPrimary d).map fun () => .done
  | .addLink l => .still (c.addLink l) .done
  | .setFault i fault => .still (c.modifyLink i fun l => { l with fault := fault }) .done
  | .report i r => (c.report i r).map fun () => .done
  | .connect => (c.connect m.now).map .ofCall
  | .disconnect => c.disconnect.map fun () => .done
  | .maintain => .still (c.maintain m.now) .done
  | .setHopLimit n => .still (c.setHopLimit n) .done
  | .setNeighborInterval d => .still (c.setNeighborInterval d) .done
  | .setDirectory d => .still { c with directory := d } .done

/-- The actions in their order, each at its moment. The value has the answer to each. -/
def run (c : Client) : List (Moment × Action) → Step (List Answer)
  | [] => .still c []
  | (m, a) :: rest =>
    (c.act m a).andThen fun c answer => (c.run rest).map fun answers => answer :: answers

end Client

end RadioMesh
