import RadioMesh.Client.Compose

/-!
Sending what a client is asked to send. An announcement that was sent starts a time in which its node makes
no other. A traceroute with a context takes the slot of its pair first, and either waits for its answer or
gives the slot back.
-/

namespace RadioMesh.Client

/-- A node has announced itself. -/
def noteAnnounced (c : Client) (now : Instant) (node : NodeId) : Client :=
  { c with nodeInfoSent := c.nodeInfoSent.insert node now }

/-- What a request that was sent leaves behind. -/
def noteSent (c : Client) (now : Instant) : Request → Client
  | .nodeInfo sender _ _ _ _ _ => c.noteAnnounced now sender
  | _ => c

/-- A request composed and transmitted. The value is the packet's ID. -/
def send (c : Client) (m : Moment) (r : Request) : Step (Except MeshError UInt32) :=
  match c.compose m r with
  | .error e => .still c (.error e)
  | .ok s =>
    let t := c.transmit m s
    match t.value with
    | .error e => ⟨t.client, t.effects, .error e⟩
    | .ok id => ⟨t.client.noteSent m.now r, t.effects, .ok id⟩

/-! ### Traceroutes with a context -/

inductive TracerouteOutcome
  | sent (id : UInt32)
  | rateLimited (retryIn : Duration)
deriving DecidableEq, Repr

def withTraceroutes (c : Client) (t : TracerouteTracker) : Client :=
  { c with traceroutes := t }

/-- The slot of a pair, or how long it has to wait. -/
def acquireSlot (c : Client) (now : Instant) (sender target : NodeId) : Except Duration Client :=
  (c.traceroutes.acquire now sender target).map c.withTraceroutes

def releaseSlot (c : Client) (sender target : NodeId) : Client :=
  c.withTraceroutes (c.traceroutes.release sender target)

def awaitAnswer (c : Client) (id : UInt32) (request : PendingTraceroute) : Client :=
  c.withTraceroutes (c.traceroutes.add id request)

/-- What follows the transmission of a traceroute whose slot was taken. -/
def concludeTraceroute (c : Client) (now : Instant) (sender target : NodeId) (channel context : String) :
    Except MeshError UInt32 → Client × Except MeshError TracerouteOutcome
  | .ok id =>
    (c.awaitAnswer id ⟨sender, target, channel, context, now⟩, .ok (.sent id))
  | .error e => (c.releaseSlot sender target, .error e)

def requestTraceroute (c : Client) (m : Moment) (sender target : NodeId) (channel : ChannelDef)
    (context : String) : Step (Except MeshError TracerouteOutcome) :=
  match c.acquireSlot m.now sender target with
  | .error wait => .still c (.ok (.rateLimited wait))
  | .ok c' =>
    let t := c'.send m (.traceroute sender target channel)
    let (c'', outcome) := t.client.concludeTraceroute m.now sender target channel.name context t.value
    ⟨c'', t.effects, outcome⟩

end RadioMesh.Client
