import RadioMesh.Client.Basic

/-!
Channels and links. Every link is told of every channel: of the joined ones when the client connects, of
others as they are joined. The owner is told when the first link comes up and when the last one is lost,
links of one name counting as one.
-/

namespace RadioMesh.Client

/-! ### Channels -/

/-- All links told of a channel. -/
def announce (c : Client) (channel : String) : List Effect :=
  (List.range c.links.length).map fun i => .joined i channel

/-- A channel joined, or given a new key. What was joined before stays as it is. -/
def addChannel (c : Client) (d : ChannelDef) : Step Unit :=
  if c.channel? d.name = some d then .still c ()
  else
    ⟨{ c with channels := c.channels.insert d.name d },
      .event (.channelJoined d.name d.keyText?) :: c.announce d.name, ()⟩

/-- A channel joined by its name and key text. -/
def addChannelText (c : Client) (name : String) (key : Option String) : Step (Except MeshError Unit) :=
  match ChannelDef.ofKeyText name key with
  | .error e => .still c (.error (.identifier e))
  | .ok d => (c.addChannel d).andThen fun c' () => .still c' (.ok ())

/-- A channel joined and used for announcements. -/
def setPrimary (c : Client) (d : ChannelDef) : Step Unit :=
  (c.addChannel d).andThen fun c' () => .still { c' with primary := d } ()

/-! ### Reports of links -/

def addLink (c : Client) (l : Link) : Client :=
  { c with links := c.links ++ [l] }

def modifyLink (c : Client) (i : Nat) (f : Link → Link) : Client :=
  { c with links := c.links.modify i f }

def comeUp (c : Client) (name : String) : Step Unit :=
  let c' := { c with up := if name ∈ c.up then c.up else name :: c.up }
  if c.up.isEmpty then
    ⟨{ c' with everConnected := true }, [.event (.connection (.connected c.everConnected))], ()⟩
  else .still c' ()

def goDown (c : Client) (name : String) : Step Unit :=
  let rest := c.up.filter (· ≠ name)
  let c' := { c with up := rest }
  if name ∈ c.up ∧ rest.isEmpty then ⟨c', [.event (.connection .lost)], ()⟩ else .still c' ()

/-- What a link of a name reports. -/
def hear (c : Client) (name : String) : LinkReport → Step Unit
  | .started => c.comeUp name
  | .restarted => c.comeUp name
  | .lost => c.goDown name

/-- A link's own state changes, and it reports that. -/
def report (c : Client) (i : Nat) (r : LinkReport) : Step Unit :=
  match c.links[i]? with
  | none => .still c ()
  | some l => (c.modifyLink i fun l => { l with connected := r ≠ .lost }).hear l.name r

/-! ### Connecting -/

/-- A link told of all joined channels and started. The value is its fault, if it has one. -/
def startLink (c : Client) (i : Nat) : Step (Option TransportError) :=
  let joins := c.channels.keys.map fun name => Effect.joined i name
  match c.links[i]? with
  | none => .still c none
  | some l =>
    match l.accept with
    | .error fault => ⟨c, joins, some fault⟩
    | .ok () => Step.andThen ⟨c, joins, ()⟩ fun c () => (c.report i .started).andThen fun c () => .still c none

def startLinks (c : Client) : List Nat → Step (List TransportError)
  | [] => .still c []
  | i :: rest =>
    (c.startLink i).andThen fun c fault =>
      (c.startLinks rest).andThen fun c faults => .still c (fault.toList ++ faults)

/-- All links started. One that starts is enough, and the client then looks after its stores. -/
def connect (c : Client) (now : Instant) : Step (Except MeshError Unit) :=
  if c.links.isEmpty then .still c (.error .noTransports)
  else
    (c.startLinks (List.range c.links.length)).andThen fun c faults =>
      if faults.length = c.links.length then .still c (.error (.allTransportsFailed faults))
      else .still { c with maintainedSince := c.maintainedSince <|> some now } (.ok ())

/-- All links stopped, which is not a loss. -/
def disconnect (c : Client) : Step Unit :=
  ⟨{ c with
      links := c.links.map fun l => { l with connected := false }
      up := []
      maintainedSince := none },
    (List.range c.links.length).map .stopped, ()⟩

end RadioMesh.Client
