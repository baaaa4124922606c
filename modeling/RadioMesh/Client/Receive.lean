import RadioMesh.Client.Answer

/-!
Packets that come in. A packet that was seen lately, or that claims to come from a node of the bridge, is
dropped before anything else is done with it.
-/

namespace RadioMesh.Client

/-- Requests sent one after the other, whatever becomes of each. -/
def sendAll (c : Client) (m : Moment) : List Request → Step Unit
  | [] => .still c ()
  | r :: rest => (c.send m r).andThen fun c' _ => c'.sendAll (m.skip wordsUsed) rest

def perform (c : Client) (m : Moment) : Reaction → Step Unit
  | .none => .still c ()
  | .event e => ⟨c, [.event e], ()⟩
  | .answers requests => c.sendAll m requests

/-- Whether a packet gets past the door, with the packet remembered. -/
def enter (c : Client) (now : Instant) (p : MeshPacket) : Bool × Client :=
  let (duplicate, seen) := c.seen.record now ⟨p.sender⟩ p.id
  (!duplicate && !c.isManaged ⟨p.sender⟩, { c with seen := seen })

def receive (c : Client) (m : Moment) (d : Delivery) : Step Unit :=
  let (entered, c) := c.enter m.now d.packet
  if entered then
    match c.open? d with
    | none => .still c ()
    | some r =>
      let (c', reaction) := c.react m r
      c'.perform m reaction
  else .still c ()

end RadioMesh.Client
