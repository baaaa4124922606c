import RadioMesh.Proofs.Client.LinkNotices
import RadioMesh.Proofs.Client.Outgoing
import RadioMesh.Proofs.Client.Reception

/-!
What a client does about one packet that comes in: it tells the owner of it, or it answers it, never both. An
answer goes back from the node that was asked to the one that asked.
-/

namespace RadioMesh

/-- The requests that a reaction makes. -/
def Reaction.requests : Reaction → List Request
  | .answers requests => requests
  | _ => []

/-- Data of these ports is a request or nothing. -/
theorem Meaning.isRequest_ofData (e : Envelope) (epoch : UInt32) {data : Data}
    (hport : data.port = .telemetry ∨ data.port = .neighborinfo) :
    Meaning.ofData e epoch data = .nothing ∨ (∃ t, Meaning.ofData e epoch data = .telemetryRequest t) ∨
      ∃ n, Meaning.ofData e epoch data = .neighborInfoRequest n := by
  rcases hport with hport | hport
  · simp only [Meaning.ofData, hport, Meaning.ofPayload]
    split
    · split
      · exact .inr (.inl ⟨_, rfl⟩)
      · exact .inl rfl
    · exact .inl rfl
  · simp only [Meaning.ofData, hport, Meaning.ofPayload]
    split
    · split
      · exact .inr (.inr ⟨_, rfl⟩)
      · exact .inl rfl
    · exact .inl rfl

/-- Answers go from the node that a packet was for to the one it came from. -/
theorem Received.AnsweredBy.back {r : Received} {q : Request} (h : r.AnsweredBy q) {c : Client} {m : Moment}
    {s : Submission} (hcompose : c.compose m q = .ok s) : s.info.sender = r.dest ∧ s.info.dest = r.sender := by
  cases h with
  | hostMetrics =>
    obtain ⟨host, -, hs⟩ := exists_of_bind_eq_ok hcompose
    cases hs
    exact ⟨rfl, rfl⟩
  | _ =>
    cases hcompose
    exact ⟨rfl, rfl⟩

namespace Client

/-- The packets that a client builds when a packet comes in. -/
def builtFor (c : Client) (m : Moment) (d : Delivery) : List Outgoing :=
  let (entered, c) := c.enter m.now d.packet
  if entered then
    match c.open? d with
    | none => []
    | some r =>
      let (c', reaction) := c.react m r
      c'.built m reaction.requests
  else []

/-- A packet that goes back to where a delivery came from, on behalf of the managed node that it was for. -/
structure GoesBack (c : Client) (d : Delivery) (o : Outgoing) : Prop where
  sender : o.packet.sender = d.packet.dest
  dest : o.packet.dest = d.packet.sender
  managed : c.isManaged ⟨d.packet.dest⟩ = true
  addressed : (NodeId.mk d.packet.dest).isBroadcast = false
  remote : c.isManaged ⟨d.packet.sender⟩ = false
  data : ∃ channel data, c.Conveys channel data o.packet o.channel ∧ data.requestId = d.packet.id ∧
    data.wantResponse = false

variable {c : Client} {m : Moment} {d : Delivery} {r : Received}

/-! ### Requests of a reaction -/

theorem throttled_snd (kind : RequestKind) (now : Instant) (node : NodeId) (requests : List Request) :
    (c.throttled kind now node requests).2 = .none ∨ (c.throttled kind now node requests).2 = .answers requests := by
  rw [throttled]
  dsimp only
  split
  · exact .inr rfl
  · exact .inl rfl

theorem mem_of_mem_throttled {kind : RequestKind} {now : Instant} {node : NodeId} {requests : List Request} {q : Request}
    (hq : q ∈ (c.throttled kind now node requests).2.requests) : q ∈ requests := by
  rcases throttled_snd (c := c) kind now node requests with hnone | hanswers
  · rw [hnone] at hq
    cases hq
  · rwa [hanswers] at hq

theorem eq_of_mem_answerTraceroute {route : RouteDiscovery} {q : Request}
    (hq : q ∈ (c.answerTraceroute r route).requests) :
    (r.packet.wantAck = true ∧ q = .ack r.dest r.sender r.packet.id) ∨
      q = .bytes r.channel (RouteDiscovery.schema.encode (route.complete r c.nodeId .towards))
        (answerInfo .traceroute r.replyProtection r.dest r.sender r.packet.id) := by
  rw [answerTraceroute] at hq
  split at hq
  · cases hq
  · rcases List.mem_append.1 hq with hack | hroute
    · split at hack
      · next hwant => exact .inl ⟨hwant, List.mem_singleton.1 hack⟩
      · cases hack
    · exact .inr (List.mem_singleton.1 hroute)

/-- The answers of a client to a packet, by what the packet means. -/
inductive AnswersWith (c : Client) (r : Received) : Meaning → Request → Prop
  | ack (route : RouteDiscovery) (hack : r.packet.wantAck = true) :
    AnswersWith c r (.tracerouteRequest route) (.ack r.dest r.sender r.packet.id)
  | route (route : RouteDiscovery) : AnswersWith c r (.tracerouteRequest route)
      (.bytes r.channel (RouteDiscovery.schema.encode (route.complete r c.nodeId .towards))
        (answerInfo .traceroute r.replyProtection r.dest r.sender r.packet.id))
  | telemetry (t : Telemetry) : AnswersWith c r (.telemetryRequest t)
      (.telemetryResponse r.dest r.sender r.channel r.replyProtection r.packet.id)
  | hostMetrics (t : Telemetry) : AnswersWith c r (.telemetryRequest t)
      (.hostMetricsResponse r.dest r.sender r.channel r.replyProtection r.packet.id)
  | neighbors (n : NeighborInfo) : AnswersWith c r (.neighborInfoRequest n)
      (.neighborInfoResponse r.dest r.sender (c.directory.neighbors r.dest) c.neighborInterval r.channel
        r.replyProtection r.packet.id)

theorem answersWith_of_mem_react {q : Request} (hq : q ∈ (c.react m r).2.requests) :
    c.AnswersWith r (Meaning.ofData (r.envelope m.epoch) m.epoch r.data) q := by
  unfold react at hq
  dsimp only at hq
  generalize Meaning.ofData (r.envelope m.epoch) m.epoch r.data = meaning at hq ⊢
  cases meaning with
  | tracerouteRequest route =>
    rcases eq_of_mem_answerTraceroute hq with ⟨hack, rfl⟩ | rfl
    · exact .ack route hack
    · exact .route route
  | telemetryRequest t =>
    dsimp only at hq
    rw [answerTelemetry] at hq
    split at hq
    · rcases eq_of_mem_telemetryAnswer (mem_of_mem_throttled hq) with rfl | rfl
      · exact .telemetry t
      · exact .hostMetrics t
    · cases hq
  | neighborInfoRequest n =>
    dsimp only at hq
    rw [answerNeighborInfo] at hq
    split at hq
    · cases List.mem_singleton.1 (mem_of_mem_throttled hq)
      exact .neighbors n
    · cases hq
  | _ => cases hq

theorem length_requests_throttled_le {kind : RequestKind} {now : Instant} {node : NodeId} {requests : List Request}
    (h : requests.length ≤ 1) : (c.throttled kind now node requests).2.requests.length ≤ 1 := by
  rcases throttled_snd (c := c) kind now node requests with hnone | hanswers
  · simp [hnone, Reaction.requests]
  · simpa [hanswers, Reaction.requests] using h

theorem throttled_ne_event {kind : RequestKind} {now : Instant} {node : NodeId} {requests : List Request}
    (event : MeshEvent) : (c.throttled kind now node requests).2 ≠ .event event := by
  rcases throttled_snd (c := c) kind now node requests with hnone | hanswers
  · simp [hnone]
  · simp [hanswers]

theorem length_telemetryAnswer_le (r : Received) (t : Telemetry) : (telemetryAnswer r t).length ≤ 1 := by
  rw [telemetryAnswer]
  split <;> simp

/-- Only a traceroute that asks for an acknowledgement is answered twice. -/
theorem react_requests (c : Client) (m : Moment) (r : Received) :
    (c.react m r).2.requests.length ≤ 1 ∨
      ∃ route q, Meaning.ofData (r.envelope m.epoch) m.epoch r.data = .tracerouteRequest route ∧
        r.packet.wantAck = true ∧ (c.react m r).2.requests = [.ack r.dest r.sender r.packet.id, q] := by
  unfold react
  dsimp only
  cases Meaning.ofData (r.envelope m.epoch) m.epoch r.data with
  | event event => exact .inl (Nat.zero_le 1)
  | tracerouteResponse route => exact .inl (Nat.zero_le 1)
  | nothing => exact .inl (Nat.zero_le 1)
  | tracerouteRequest route =>
    dsimp only
    rw [answerTraceroute]
    split
    · exact .inl (Nat.zero_le 1)
    · cases hack : r.packet.wantAck with
      | false => exact .inl (Nat.le_refl 1)
      | true => exact .inr ⟨route, _, rfl, rfl, rfl⟩
  | telemetryRequest t =>
    left
    dsimp only
    rw [answerTelemetry]
    split
    · exact length_requests_throttled_le (length_telemetryAnswer_le r t)
    · exact Nat.zero_le 1
  | neighborInfoRequest n =>
    left
    dsimp only
    rw [answerNeighborInfo]
    split
    · exact length_requests_throttled_le (Nat.le_refl 1)
    · exact Nat.zero_le 1

/-- Telemetry and neighbor lists are answered or left alone. -/
theorem react_ne_event (hport : r.data.port = .telemetry ∨ r.data.port = .neighborinfo) (event : MeshEvent) :
    (c.react m r).2 ≠ .event event := by
  rcases Meaning.isRequest_ofData (r.envelope m.epoch) m.epoch hport with h | ⟨t, h⟩ | ⟨n, h⟩
  · simp [react, h]
  · simp only [react, h, answerTelemetry]
    split
    · exact throttled_ne_event event
    · exact Reaction.noConfusion
  · simp only [react, h, answerNeighborInfo]
    split
    · exact throttled_ne_event event
    · exact Reaction.noConfusion

/-! ### Deliveries -/

theorem receive_handled (c : Client) (m : Moment) (d : Delivery) :
    (c.receive m d = .still (c.enter m.now d.packet).2 () ∧ c.builtFor m d = []) ∨
      ∃ r, c.open? d = some r ∧ c.isManaged ⟨d.packet.sender⟩ = false ∧
        let reaction := (c.enter m.now d.packet).2.react m r
        c.receive m d = reaction.1.perform m reaction.2 ∧ c.builtFor m d = reaction.1.built m reaction.2.requests := by
  cases henter : (c.enter m.now d.packet).1 with
  | false =>
    refine .inl ⟨receive_of_not_enter henter, ?_⟩
    simp only [builtFor, henter, Bool.false_eq_true, if_false]
  | true =>
    cases hopen : c.open? d with
    | none =>
      have hopen' : (c.enter m.now d.packet).2.open? d = none := hopen
      refine .inl ⟨receive_of_not_open hopen, ?_⟩
      simp only [builtFor, henter, hopen', if_true]
    | some r =>
      have hopen' : (c.enter m.now d.packet).2.open? d = some r := hopen
      refine .inr ⟨r, rfl, ((enter_fst c m.now d.packet).1 henter).2, receive_of_enter henter hopen', ?_⟩
      simp only [builtFor, henter, hopen', if_true]

theorem Reacts.sameSetup {e : Envelope} {reaction : Client × Reaction} (h : c.Reacts e r reaction) :
    c.SameSetup reaction.1 := by
  cases h <;> exact ⟨rfl, rfl, rfl, rfl⟩

theorem Reacts.links {e : Envelope} {reaction : Client × Reaction} (h : c.Reacts e r reaction) :
    reaction.1.links = c.links := by
  cases h <;> rfl

theorem sameSetup_enter (c : Client) (now : Instant) (p : MeshPacket) : c.SameSetup (c.enter now p).2 :=
  ⟨rfl, rfl, rfl, rfl⟩

/-- What is told, and otherwise what is built, is all that a delivery does. -/
theorem receive_effects (c : Client) (m : Moment) (d : Delivery) :
    (c.builtFor m d = [] ∧
      ∃ events : List MeshEvent, events.length ≤ 1 ∧ (c.receive m d).effects = events.map .event) ∨
    ((c.builtFor m d).length ≤ 2 ∧ (c.receive m d).effects = (c.builtFor m d).flatMap (accepted c.links)) := by
  rcases c.receive_handled m d with ⟨hstill, hnone⟩ | ⟨r, -, -, hreceive, hbuilt⟩
  · exact .inl ⟨hnone, [], Nat.zero_le 1, by rw [hstill]; rfl⟩
  have hreacts := reacts (c.enter m.now d.packet).2 m r
  have hlinks : ((c.enter m.now d.packet).2.react m r).1.links = c.links := hreacts.links
  have hrequests := react_requests (c.enter m.now d.packet).2 m r
  rw [hreceive, hbuilt]
  generalize (c.enter m.now d.packet).2.react m r = reaction at hreacts hlinks hrequests
  obtain ⟨c', reaction⟩ := reaction
  cases reaction with
  | none => exact .inl ⟨rfl, [], Nat.zero_le 1, rfl⟩
  | event event => exact .inl ⟨rfl, [event], Nat.le_refl 1, rfl⟩
  | answers requests =>
    right
    constructor
    · refine (length_built_le c' m requests).trans ?_
      rcases hrequests with hone | ⟨_, _, -, -, htwo⟩
      · exact hone.trans (by decide)
      · rw [show requests = _ from htwo]
        exact Nat.le_refl 2
    · rw [← show c'.links = c.links from hlinks]
      exact sendAll_effects c' m requests

/-- What is built answers the packet. -/
theorem goesBack_of_mem {o : Outgoing} (ho : o ∈ c.builtFor m d) : c.GoesBack d o := by
  rcases c.receive_handled m d with ⟨-, hnone⟩ | ⟨r, hopen, hremote, -, hbuilt⟩
  · simp [hnone] at ho
  have hpacket := (opens_of_open? hopen).packet
  have hreacts := reacts (c.enter m.now d.packet).2 m r
  have hstate := (c.sameSetup_enter m.now d.packet).trans hreacts.sameSetup
  rw [hbuilt] at ho
  generalize (c.enter m.now d.packet).2.react m r = reaction at ho hreacts hstate
  cases hreacts with
  | none => cases ho
  | event _ _ => cases ho
  | traceroute _ _ _ => cases ho
  | answers hasks hdest hmanaged hanswers =>
    -- Another answer may have been sent before, which leaves the keys and the channels as they were.
    obtain ⟨q, hq, c', m', hsetup, hbuilt⟩ := exists_of_mem_built ho
    obtain ⟨s, hcompose, hpack⟩ := exists_of_built? hbuilt
    obtain ⟨-, hcarries⟩ := carries_of_pack hpack
    obtain ⟨hsender, hdest'⟩ := (hanswers q hq).back hcompose
    have hanswer := (hanswers q hq).answers hcompose
    rw [Received.dest, hpacket] at hdest hmanaged hsender
    rw [Received.sender, hpacket] at hdest'
    have hconveys := (hstate.trans hsetup).conveys hcarries.conveys
    have hid : s.data.requestId = d.packet.id := by
      rw [← hpacket]
      exact hanswer.requestId
    exact
      { sender := by rw [hcarries.sender, hsender]
        dest := by rw [hcarries.dest, hdest']
        managed := hmanaged
        addressed := hdest
        remote := hremote
        data := ⟨s.channel, s.data, hconveys, hid, hanswer.wantResponse⟩ }

/-- Two packets are an acknowledgement and the route that was asked for. -/
theorem ack_of_builtFor_pair {first second : Outgoing} (h : c.builtFor m d = [first, second]) :
    d.packet.wantAck = true ∧
      (∃ r route, c.open? d = some r ∧ Meaning.ofData (r.envelope m.epoch) m.epoch r.data = .tracerouteRequest route) ∧
      ∃ data, c.Conveys c.primary data first.packet first.channel ∧ data.port = .routing ∧
        data.payload = Routing.schema.encode (.ofError .delivered) := by
  rcases c.receive_handled m d with ⟨-, hnone⟩ | ⟨r, hopen, -, -, hbuilt⟩
  · simp [hnone] at h
  have hpacket := (opens_of_open? hopen).packet
  have hsetup := (c.sameSetup_enter m.now d.packet).trans (reacts (c.enter m.now d.packet).2 m r).sameSetup
  rw [hbuilt] at h
  rcases react_requests (c.enter m.now d.packet).2 m r with hone | ⟨route, q, hmeaning, hack, hrequests⟩
  · have hlength := length_built_le ((c.enter m.now d.packet).2.react m r).1 m
      ((c.enter m.now d.packet).2.react m r).2.requests
    rw [h] at hlength
    exact absurd (hlength.trans hone) (by simp)
  · rw [hrequests] at h
    obtain ⟨s, hcompose, hpack⟩ := exists_of_built? (built?_of_built_pair h)
    obtain ⟨-, hcarries⟩ := carries_of_pack hpack
    cases hcompose
    have hconveys := hsetup.conveys hcarries.conveys
    rw [hsetup.primary] at hconveys
    exact ⟨hpacket ▸ hack, ⟨r, route, hopen, hmeaning⟩, _, hconveys, rfl, rfl⟩

/-- The owner hears nothing of telemetry and neighbor lists. -/
theorem events_eq_nil (hopen : c.open? d = some r) (hport : r.data.port = .telemetry ∨ r.data.port = .neighborinfo) :
    (c.receive m d).events = [] := by
  refine List.eq_nil_iff_forall_not_mem.2 fun event hevent => ?_
  rw [Step.mem_events] at hevent
  rcases c.receive_handled m d with ⟨hstill, -⟩ | ⟨r', hopen', -, hreceive, -⟩
  · rw [hstill] at hevent
    cases hevent
  · cases hopen.symm.trans hopen'
    have hreact := react_ne_event (c := (c.enter m.now d.packet).2) (m := m) hport
    rw [hreceive] at hevent
    generalize (c.enter m.now d.packet).2.react m r = reaction at hevent hreact
    obtain ⟨c', reaction⟩ := reaction
    cases reaction with
    | none => cases hevent
    | event told => exact hreact told rfl
    | answers requests => exact not_mem_sendAll hevent

/-- A delivery is told or answered, never both. Answers go back from the managed node that was asked and carry the
ID of the packet; only a traceroute that wants an acknowledgement gets two, the acknowledgement first. -/
theorem receive_reaction (c : Client) (m : Moment) (d : Delivery) :
    ((c.builtFor m d = [] ∧
      ∃ events : List MeshEvent, events.length ≤ 1 ∧ (c.receive m d).effects = events.map .event) ∨
      ((c.builtFor m d).length ≤ 2 ∧ (c.receive m d).effects = (c.builtFor m d).flatMap (accepted c.links))) ∧
    (∀ o ∈ c.builtFor m d, c.GoesBack d o) ∧
    (∀ first second, c.builtFor m d = [first, second] →
      d.packet.wantAck = true ∧
      (∃ r route, c.open? d = some r ∧ Meaning.ofData (r.envelope m.epoch) m.epoch r.data = .tracerouteRequest route) ∧
      ∃ data, c.Conveys c.primary data first.packet first.channel ∧ data.port = .routing ∧
        data.payload = Routing.schema.encode (.ofError .delivered)) ∧
    ∀ r, c.open? d = some r → r.data.port = .telemetry ∨ r.data.port = .neighborinfo →
      (c.receive m d).events = [] := by
  refine ⟨c.receive_effects m d, fun o => goesBack_of_mem, fun _ _ => ack_of_builtFor_pair, fun _ => events_eq_nil⟩

/-- A traceroute that asks for an acknowledgement gets it, and the route after it. -/
theorem receive_reaction_traceroute :
    let m : Moment := ⟨0, 0, fun _ => 0⟩
    let c := after (.ofNode ⟨256⟩) m [(m, .addLink { name := "udp" })]
    let data : Data := { portNumber := Port.traceroute.number }
    let p : MeshPacket := { sender := 16, dest := 256, id := 5, wantAck := true, body := some (.decoded data) }
    let d : Delivery := ⟨p, none, none, .udp⟩
    ∃ first second, c.builtFor m d = [first, second] ∧ c.GoesBack d first ∧ c.GoesBack d second ∧
      ∃ data, c.Conveys c.primary data first.packet first.channel ∧ data.port = .routing := by
  intro m c data p d
  obtain ⟨first, second, hbuilt⟩ := List.length_eq_two.1 (show (c.builtFor m d).length = 2 by decide +kernel)
  obtain ⟨-, hback, hpair, -⟩ := receive_reaction c m d
  obtain ⟨-, -, data, hconveys, hport, -⟩ := hpair first second hbuilt
  refine ⟨first, second, hbuilt, hback first ?_, hback second ?_, data, hconveys, hport⟩
  · simp [hbuilt]
  · simp [hbuilt]

end Client

end RadioMesh
