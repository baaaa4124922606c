import RadioMesh.Proofs.Client.Forgetting
import RadioMesh.Proofs.Client.KeySearch

/-!
Packets that nothing can be made of: they are empty, or no key opens them, or what is in them is no message of its
port. A client does nothing about them, and all that stays of them is that they came in.
-/

namespace RadioMesh

/-! ### Malformed data -/

/-- The payload is no message of its port. Other ports than these have no messages that could be malformed. -/
def Data.isMalformed (d : Data) : Bool :=
  match d.port with
  | .position => (Position.schema.decode? d.payload).isNone
  | .nodeinfo => (User.schema.decode? d.payload).isNone
  | .mapReport => (MapReport.schema.decode? d.payload).isNone
  | .waypoint => (Waypoint.schema.decode? d.payload).isNone
  | .traceroute => (RouteDiscovery.schema.decode? d.payload).isNone
  | .telemetry => (Telemetry.schema.decode? d.payload).isNone
  | .neighborinfo => (NeighborInfo.schema.decode? d.payload).isNone
  | .routing => (Routing.schema.decode? d.payload).isNone
  | .storeForward => (StoreAndForward.schema.decode? d.payload).isNone
  | _ => false

namespace Meaning

theorem ofPayload_of_isNone {M : Type} {s : Wire.Schema M} {d : Data} {meaning : M → Meaning}
    (h : (s.decode? d.payload).isNone = true) : ofPayload s d meaning = .nothing := by
  rw [ofPayload, Option.isNone_iff_eq_none.1 h]

theorem ofData_of_isMalformed {d : Data} (h : d.isMalformed = true) (e : Envelope) (epoch : UInt32) :
    ofData e epoch d = .nothing := by
  rw [Data.isMalformed] at h
  cases hport : d.port with
  | position | nodeinfo | mapReport | waypoint | traceroute | telemetry | neighborinfo | routing =>
    rw [hport] at h
    rw [ofData, hport]
    exact ofPayload_of_isNone h
  | storeForward => rw [ofData, hport]
  | _ =>
    rw [hport] at h
    cases h

end Meaning

namespace Client

variable {c : Client} {d : Delivery}

/-- Nothing can be made of a delivery. -/
inductive Rejected (c : Client) (d : Delivery) : Prop
  | empty (hbody : d.packet.body = none)
  | covered {covered : Bytes} (hbody : d.packet.body = some (.encrypted covered)) (hdirect : c.NotDirect d)
    (hkeys : ∀ channel data, c.IsCandidate channel → ¬channel.Reads d.packet covered data)
  | malformed {r : Received} (hopen : c.open? d = some r) (hmalformed : r.data.isMalformed = true)

theorem open?_of_no_key {covered : Bytes} (hbody : d.packet.body = some (.encrypted covered)) (hdirect : c.NotDirect d)
    (hkeys : ∀ channel data, c.IsCandidate channel → ¬channel.Reads d.packet covered data) : c.open? d = none := by
  rw [open?_of_not_direct hbody hdirect, Option.map_eq_none_iff, ← Option.not_isSome_iff_eq_none,
    isSome_openWithChannels?_iff]
  rintro ⟨channel, data, hcandidate, hreads⟩
  exact hkeys channel data hcandidate hreads

theorem Rejected.receive (h : c.Rejected d) (m : Moment) : c.receive m d = .still (c.enter m.now d.packet).2 () := by
  cases h with
  | empty hbody =>
    refine receive_of_not_open ?_
    rw [open?, hbody]
  | covered hbody hdirect hkeys => exact receive_of_not_open (open?_of_no_key hbody hdirect hkeys)
  | @malformed r hopen hmalformed =>
    cases henter : (c.enter m.now d.packet).1 with
    | false => exact receive_of_not_enter henter
    | true =>
      have hreact : (c.enter m.now d.packet).2.react m r = ((c.enter m.now d.packet).2, .none) := by
        rw [react, Meaning.ofData_of_isMalformed hmalformed]
      rw [receive_of_enter henter hopen, hreact]
      rfl

/-- A client does nothing about a packet that it can make nothing of, and it is the same client as before but for
knowing that the packet came in. A packet without an ID leaves not even that behind. Whatever happens later, the client
does what it would have done without it, unless the same packet comes in again. -/
theorem rejected_leaves_no_trace (c : Client) (m : Moment) (d : Delivery) (h : c.Rejected d) :
    let sender : NodeId := ⟨d.packet.sender⟩
    let c' := (c.receive m d).client
    (c.receive m d).effects = [] ∧ (d.packet.id = 0 → c' = c) ∧
    c'.forget sender d.packet.id = c.forget sender d.packet.id ∧
    ∀ later : List (Moment × Action), (∀ x ∈ later, ¬x.2.Brings sender d.packet.id) →
      (c'.run later).effects = (c.run later).effects ∧ (c'.run later).value = (c.run later).value ∧
      (c'.run later).client.forget sender d.packet.id = (c.run later).client.forget sender d.packet.id := by
  intro sender c'
  have hclient : c' = (c.enter m.now d.packet).2 := congrArg Step.client (h.receive m)
  have hforget : c'.forget sender d.packet.id = c.forget sender d.packet.id := by
    rw [hclient]
    show { c with seen := (c.seen.record m.now sender d.packet.id).2.without sender d.packet.id } = _
    rw [SeenPackets.without_record_self]
    rfl
  refine ⟨congrArg Step.effects (h.receive m), fun hid => ?_, hforget, fun later hlater => ?_⟩
  · rw [hclient]
    show { c with seen := (c.seen.record m.now sender d.packet.id).2 } = c
    rw [hid, SeenPackets.record_of_zero]
  · have hrun : (c'.run later).forget sender d.packet.id = (c.run later).forget sender d.packet.id := by
      rw [← ignoresPacket_run hlater c', ← ignoresPacket_run hlater c, hforget]
    obtain ⟨hlast, heffects, hvalue⟩ := Step.mk.inj hrun
    exact ⟨heffects, hvalue, hlast⟩

/-- What pretends to answer a traceroute leaves the request waiting for the answer. -/
theorem rejected_leaves_no_trace_traceroute :
    let m : Moment := ⟨0, 0, fun _ => 0⟩
    let request : PendingTraceroute := ⟨⟨16⟩, ⟨32⟩, "LongFast", "", 0⟩
    let own := ofSettings (.ofNode ⟨16⟩) m
    let c := own.awaitAnswer 5 request
    let answer (id : UInt32) (payload : Bytes) : Delivery :=
      let data : Data := { portNumber := Port.traceroute.number, requestId := 5, payload := payload }
      ⟨{ sender := 32, dest := 16, id := id, body := some (.decoded data) }, none, none, .udp⟩
    let c' := (c.receive m (answer 9 [0xFF])).client
    (c.receive m (answer 9 [0xFF])).effects = [] ∧ c'.traceroutes.pending.get? 5 = some request ∧
      (c'.run [(m, .receive (answer 10 []))]).effects = (c.run [(m, .receive (answer 10 []))]).effects := by
  intro m request own c answer c'
  have hrejected : c.Rejected (answer 9 [0xFF]) := .malformed rfl (by cbv)
  obtain ⟨hnothing, -, hforget, hlater⟩ := rejected_leaves_no_trace c m (answer 9 [0xFF]) hrejected
  refine ⟨hnothing, congrArg (fun c : Client => c.traceroutes.pending.get? 5) hforget,
    (hlater [(m, .receive (answer 10 []))] fun x hx => ?_).1⟩
  cases List.mem_singleton.1 hx
  exact fun h => absurd h.2 (by decide)

end Client

end RadioMesh
