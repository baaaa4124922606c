import RadioMesh.Proofs.Client.Duplicates
import RadioMesh.Proofs.Client.Transmission

/-!
What a delivery can lead to, said once for all packets: how its data was made readable, what the data can
mean, and what the client does about it. Events tell the packet's own envelope, and packets go out only as
answers that carry the ID of the packet that asked for them.
-/

namespace RadioMesh

/-! ### Meanings -/

/-- The meanings that data can have under an envelope. -/
inductive Meaning.Fits (e : Envelope) (d : Data) : Meaning → Prop
  | event {event : MeshEvent} (henvelope : event.envelope? = some e)
    (hroute : ∀ result, event ≠ .traceroute e result) : Fits e d (.event event)
  | tracerouteRequest (route : RouteDiscovery) (hport : d.port = .traceroute) (hid : d.requestId = 0) :
    Fits e d (.tracerouteRequest route)
  | tracerouteResponse (route : RouteDiscovery) (hport : d.port = .traceroute) (hid : d.requestId ≠ 0) :
    Fits e d (.tracerouteResponse route)
  | telemetryRequest (t : Telemetry) (hwant : d.wantResponse = true) (hdest : e.dest.isBroadcast = false) :
    Fits e d (.telemetryRequest t)
  | neighborInfoRequest (n : NeighborInfo) (hwant : d.wantResponse = true) (hdest : e.dest.isBroadcast = false) :
    Fits e d (.neighborInfoRequest n)
  | nothing : Fits e d .nothing

namespace Meaning

variable {e : Envelope} {d : Data}

theorem Fits.ofPayload {M : Type} (s : Wire.Schema M) {meaning : M → Meaning} (h : ∀ m, Fits e d (meaning m)) :
    Fits e d (ofPayload s d meaning) := by
  rw [Meaning.ofPayload]
  split
  · exact h _
  · exact .nothing

theorem fits_ofText : Fits e d (ofText e d) := by
  rw [ofText]
  split
  · exact .event rfl fun _ => MeshEvent.noConfusion
  · exact .event rfl fun _ => MeshEvent.noConfusion

theorem fits_ofPosition (p : Position) : Fits e d (ofPosition e p) := by
  unfold ofPosition
  split
  · exact .event rfl fun _ => MeshEvent.noConfusion
  · exact .nothing

theorem fits_ofRoute (hport : d.port = .traceroute) (r : RouteDiscovery) : Fits e d (ofRoute d r) := by
  rw [ofRoute]
  split
  · next hid => exact .tracerouteRequest r hport hid
  · next hid => exact .tracerouteResponse r hport hid

theorem ofData_traceroute {epoch : UInt32} {path : RouteDiscovery} (hport : d.port = .traceroute)
    (hpath : RouteDiscovery.schema.decode? d.payload = some path) : ofData e epoch d = ofRoute d path := by
  rw [ofData, hport]
  show Meaning.ofPayload RouteDiscovery.schema d (ofRoute d) = _
  rw [Meaning.ofPayload, hpath]

theorem fits_ofRouting (r : Routing) : Fits e d (ofRouting e d r) := by
  unfold ofRouting
  split
  · split
    · exact .event rfl fun _ => MeshEvent.noConfusion
    · exact .nothing
  · exact .nothing

/-- Only data that asks, sent to one node, is a request. -/
theorem fits_of_asks {M : Type} {meaning : M → Meaning}
    (h : d.wantResponse = true → e.dest.isBroadcast = false → ∀ m, Fits e d (meaning m)) (m : M) :
    Fits e d (if (d.wantResponse && !e.dest.isBroadcast) = true then meaning m else .nothing) := by
  split
  · next hasks =>
    rw [Bool.and_eq_true, Bool.not_eq_true'] at hasks
    exact h hasks.1 hasks.2 m
  · exact .nothing

theorem fits_ofData (e : Envelope) (epoch : UInt32) (d : Data) : Fits e d (ofData e epoch d) := by
  unfold ofData
  dsimp only
  split
  · exact fits_ofText
  · exact .ofPayload _ fits_ofPosition
  · exact .ofPayload _ fun u => .event rfl fun _ => MeshEvent.noConfusion
  · exact .ofPayload _ fun r => .event rfl fun _ => MeshEvent.noConfusion
  · exact .ofPayload _ fun w => .event rfl fun _ => MeshEvent.noConfusion
  · next hport => exact .ofPayload _ (fits_ofRoute hport)
  · exact .ofPayload _ (fits_of_asks fun hwant hdest t => .telemetryRequest t hwant hdest)
  · exact .ofPayload _ (fits_of_asks fun hwant hdest n => .neighborInfoRequest n hwant hdest)
  · exact .ofPayload _ fits_ofRouting
  · exact .nothing

end Meaning

/-! ### Packets that are opened -/

namespace Client

/-- The ways in which the data of a delivery is made readable. -/
inductive Opens (c : Client) (d : Delivery) : Received → Prop
  | clear {data : Data} (hbody : d.packet.body = some (.decoded data)) :
    Opens c d ⟨d.packet, data, c.namedChannel d.channel, .none, d.via, d.source⟩
  | direct {covered : Bytes} {data : Data} (hbody : d.packet.body = some (.encrypted covered))
    (hmay : c.mayBeDirect d = true) (hopen : c.openDirect d.packet covered = .ok data) :
    Opens c d ⟨d.packet, data, .unencrypted ChannelDef.directName, .direct, d.via, d.source⟩
  | keyed {covered : Bytes} {data : Data} {channel : ChannelDef} (hbody : d.packet.body = some (.encrypted covered))
    (hchannel : channel ∈ c.candidates) (hread : readWith? d.packet covered channel = some (data, channel)) :
    Opens c d ⟨d.packet, data, channel, .channelKey, d.via, d.source⟩

variable {c : Client} {d : Delivery} {r : Received}

theorem mem_of_mem_ranked {p : MeshPacket} {name : Option String} {cs : List ChannelDef} {channel : ChannelDef}
    (h : channel ∈ ranked p name cs) : channel ∈ cs := by
  obtain ⟨rank, -, hmem⟩ := List.mem_flatMap.1 h
  exact (List.mem_filter.1 hmem).1

theorem readWith?_snd {p : MeshPacket} {covered : Bytes} {channel channel' : ChannelDef} {data : Data}
    (h : readWith? p covered channel = some (data, channel')) : channel' = channel := by
  unfold readWith? at h
  split at h
  · cases h
  · split at h
    · cases h
    · cases h
      rfl

theorem openDirect_eq_ok {covered plain privateKey publicKey : Bytes} {data : Data} {p : MeshPacket}
    (hpublic : c.senderKey p = .ok publicKey) (hprivate : c.privateKey ⟨p.dest⟩ = .ok privateKey)
    (hplain : Direct.openFrom covered privateKey publicKey p.id p.sender = .ok plain)
    (hread : Data.read plain = .ok data) : c.openDirect p covered = .ok data := by
  simp only [openDirect, hpublic, hprivate, hplain, hread, bind, Except.bind, Except.mapError]

theorem opens_of_open? (h : c.open? d = some r) : c.Opens d r := by
  unfold open? at h
  dsimp only at h
  split at h
  · cases h
  · next hbody =>
    cases h
    exact .clear hbody
  · next covered hbody =>
    split at h
    · next data hdirect =>
      cases h
      split at hdirect
      · next hmay =>
        cases hopen : c.openDirect d.packet covered with
        | error e =>
          rw [hopen] at hdirect
          cases hdirect
        | ok data' =>
          rw [hopen] at hdirect
          cases hdirect
          exact .direct hbody hmay hopen
      · cases hdirect
    · obtain ⟨⟨data, channel⟩, hfound, hr⟩ := Option.map_eq_some_iff.1 h
      cases hr
      obtain ⟨channel', hmem, hread⟩ := List.exists_of_findSome?_eq_some hfound
      cases readWith?_snd hread
      exact .keyed hbody (mem_of_mem_ranked hmem) hread

theorem Opens.packet (h : c.Opens d r) : r.packet = d.packet := by
  cases h with
  | clear _ => rfl
  | direct _ _ _ => rfl
  | keyed _ _ _ => rfl

end Client

/-! ### Answers -/

/-- The requests that answer a packet. -/
inductive Received.AnsweredBy (r : Received) : Request → Prop
  | ack : r.AnsweredBy (.ack r.dest r.sender r.packet.id)
  | route (path : RouteDiscovery) :
    r.AnsweredBy (.bytes r.channel (RouteDiscovery.schema.encode path)
      (Client.answerInfo .traceroute r.replyProtection r.dest r.sender r.packet.id))
  | telemetry : r.AnsweredBy (.telemetryResponse r.dest r.sender r.channel r.replyProtection r.packet.id)
  | hostMetrics : r.AnsweredBy (.hostMetricsResponse r.dest r.sender r.channel r.replyProtection r.packet.id)
  | neighbors (nodes : List NodeId) (interval : UInt32) :
    r.AnsweredBy (.neighborInfoResponse r.dest r.sender nodes interval r.channel r.replyProtection r.packet.id)

/-- A submission that answers a packet: it carries the packet's ID back and asks for nothing. -/
structure Submission.Answers (s : Submission) (c : Client) (r : Received) : Prop where
  port : s.info.port ≠ .unknown
  requestId : s.info.requestId = r.packet.id
  wantResponse : s.info.wantResponse = false
  path : s.info.port = .traceroute → ∃ path, s.payload = RouteDiscovery.schema.encode path
  /-- Acknowledgements are announcements; all else goes back the way the packet came. -/
  channel : (s.channel = c.primary ∧ s.info.protection = .channelKey) ∨
    (s.channel = r.channel ∧ s.info.protection = r.replyProtection)

theorem Received.AnsweredBy.answers {r : Received} {q : Request} (h : r.AnsweredBy q) {c : Client} {m : Moment}
    {s : Submission} (hcompose : c.compose m q = .ok s) : s.Answers c r := by
  cases h with
  | ack =>
    cases hcompose
    exact ⟨Port.noConfusion, rfl, rfl, Port.noConfusion, .inl ⟨rfl, rfl⟩⟩
  | route path =>
    cases hcompose
    exact ⟨Port.noConfusion, rfl, rfl, fun _ => ⟨path, rfl⟩, .inr ⟨rfl, rfl⟩⟩
  | telemetry =>
    cases hcompose
    exact ⟨Port.noConfusion, rfl, rfl, Port.noConfusion, .inr ⟨rfl, rfl⟩⟩
  | hostMetrics =>
    obtain ⟨host, -, hs⟩ := exists_of_bind_eq_ok hcompose
    cases hs
    exact ⟨Port.noConfusion, rfl, rfl, Port.noConfusion, .inr ⟨rfl, rfl⟩⟩
  | neighbors nodes interval =>
    cases hcompose
    exact ⟨Port.noConfusion, rfl, rfl, Port.noConfusion, .inr ⟨rfl, rfl⟩⟩

namespace Client

/-! ### Reactions -/

/-- What a client can do about a packet, with the state it is in then. -/
inductive Reacts (c : Client) (e : Envelope) (r : Received) : Client × Reaction → Prop
  | none : Reacts c e r (c, .none)
  | event {event : MeshEvent} (henvelope : event.envelope? = some e)
    (hroute : ∀ result, event ≠ .traceroute e result) : Reacts c e r (c, .event event)
  | traceroute {result : TracerouteResult} (hid : r.data.requestId ≠ 0)
    (hresult : result.requestId = r.data.requestId)
    (hpending : result.pending = c.traceroutes.pending.get? r.data.requestId) :
    Reacts c e r (c.withTraceroutes (c.traceroutes.take r.data.requestId).2, .event (.traceroute e result))
  | answers {requests : List Request} {throttle : RequestThrottle}
    (hasks : (r.data.port = .traceroute ∧ r.data.requestId = 0) ∨ r.data.wantResponse = true)
    (hdest : r.dest.isBroadcast = false) (hmanaged : c.isManaged r.dest = true)
    (hanswers : ∀ q ∈ requests, r.AnsweredBy q) :
    Reacts c e r ({ c with throttle := throttle }, .answers requests)

variable {c : Client} {e : Envelope} {r : Received}

theorem reacts_throttled {requests : List Request} (hwant : r.data.wantResponse = true)
    (hdest : r.dest.isBroadcast = false) (hmanaged : c.isManaged r.dest = true)
    (hanswers : ∀ q ∈ requests, r.AnsweredBy q) (kind : RequestKind) (now : Instant) :
    c.Reacts e r (c.throttled kind now r.dest requests) := by
  rw [throttled]
  dsimp only
  split
  · exact .answers (.inr hwant) hdest hmanaged hanswers
  · exact .none

theorem eq_of_mem_telemetryAnswer {t : Telemetry} {q : Request} (hq : q ∈ telemetryAnswer r t) :
    q = .telemetryResponse r.dest r.sender r.channel r.replyProtection r.packet.id ∨
      q = .hostMetricsResponse r.dest r.sender r.channel r.replyProtection r.packet.id := by
  unfold telemetryAnswer at hq
  split at hq
  · exact .inl (List.mem_singleton.1 hq)
  · exact .inl (List.mem_singleton.1 hq)
  · exact .inr (List.mem_singleton.1 hq)
  · cases hq

theorem answeredBy_of_mem_telemetryAnswer {t : Telemetry} {q : Request} (hq : q ∈ telemetryAnswer r t) :
    r.AnsweredBy q := by
  rcases eq_of_mem_telemetryAnswer hq with rfl | rfl
  · exact .telemetry
  · exact .hostMetrics

theorem reacts_answerTraceroute (route : RouteDiscovery) (hport : r.data.port = .traceroute)
    (hid : r.data.requestId = 0) : c.Reacts e r (c, c.answerTraceroute r route) := by
  rw [answerTraceroute]
  split
  · exact .none
  · next hnot =>
    rw [Bool.not_eq_true, Bool.or_eq_false_iff, Bool.not_eq_false'] at hnot
    refine .answers (.inl ⟨hport, hid⟩) hnot.1 hnot.2 fun q hq => ?_
    rcases List.mem_append.1 hq with hack | hroute
    · split at hack
      · cases List.mem_singleton.1 hack
        exact .ack
      · cases hack
    · cases List.mem_singleton.1 hroute
      exact .route _

theorem reacts (c : Client) (m : Moment) (r : Received) : c.Reacts (r.envelope m.epoch) r (c.react m r) := by
  have hfits := Meaning.fits_ofData (r.envelope m.epoch) m.epoch r.data
  unfold react
  dsimp only
  generalize Meaning.ofData (r.envelope m.epoch) m.epoch r.data = meaning at hfits
  cases hfits with
  | event henvelope hroute => exact .event henvelope hroute
  | tracerouteRequest route hport hid => exact reacts_answerTraceroute route hport hid
  | tracerouteResponse route hport hid => exact .traceroute hid rfl rfl
  | telemetryRequest t hwant hdest =>
    show c.Reacts _ r (c.answerTelemetry m.now r t)
    rw [answerTelemetry]
    split
    · next hmanaged => exact reacts_throttled hwant hdest hmanaged (fun q => answeredBy_of_mem_telemetryAnswer) _ _
    · exact .none
  | neighborInfoRequest n hwant hdest =>
    show c.Reacts _ r (c.answerNeighborInfo m.now r n)
    rw [answerNeighborInfo]
    split
    · next hmanaged =>
      refine reacts_throttled hwant hdest (Bool.and_eq_true_iff.1 hmanaged).1 (fun q hq => ?_) _ _
      cases List.mem_singleton.1 hq
      exact .neighbors _ _
    · exact .none
  | nothing => exact .none

/-! ### Deliveries -/

variable {m : Moment} {d : Delivery}

theorem receive_of_not_open (h : c.open? d = none) : c.receive m d = .still (c.enter m.now d.packet).2 () := by
  -- Packets that were seen do not count when a packet is opened.
  have hopen : (c.enter m.now d.packet).2.open? d = none := h
  cases henter : (c.enter m.now d.packet).1 with
  | false => exact receive_of_not_enter henter
  | true => rw [receive_eq_handle henter, handle, hopen]

theorem receive_cases (c : Client) (m : Moment) (d : Delivery) :
    c.receive m d = .still (c.enter m.now d.packet).2 () ∨
      ∃ r reaction, c.open? d = some r ∧
        (c.enter m.now d.packet).2.Reacts (r.envelope m.epoch) r reaction ∧
        c.receive m d = reaction.1.perform m reaction.2 := by
  cases henter : (c.enter m.now d.packet).1 with
  | false => exact .inl (receive_of_not_enter henter)
  | true =>
    cases hopen : c.open? d with
    | none => exact .inl (receive_of_not_open hopen)
    | some r => exact .inr ⟨r, _, rfl, reacts _ m r, receive_of_enter henter hopen⟩

theorem not_mem_transmit {s : Submission} {event : MeshEvent} : .event event ∉ (c.transmit m s).effects := by
  intro h
  unfold transmit at h
  split at h
  · cases h
  · dsimp only at h
    split at h
    · cases h
    · obtain ⟨⟨l, j⟩, -, hsent⟩ := List.mem_map.1 h
      cases hsent

theorem not_mem_send {q : Request} {event : MeshEvent} : .event event ∉ (c.send m q).effects := by
  intro h
  unfold send at h
  split at h
  · cases h
  · dsimp only at h
    split at h
    · exact not_mem_transmit h
    · exact not_mem_transmit h

theorem not_mem_sendAll {rs : List Request} {event : MeshEvent} : .event event ∉ (c.sendAll m rs).effects := by
  intro h
  induction rs generalizing c m with
  | nil => cases h
  | cons q rs ih =>
    rcases List.mem_append.1 h with hfirst | hrest
    · exact not_mem_send hfirst
    · exact ih hrest

/-- An event of a delivery tells the envelope of the packet. -/
theorem receive_event {event : MeshEvent} (h : .event event ∈ (c.receive m d).effects) :
    ∃ r, c.open? d = some r ∧ event.envelope? = some (r.envelope m.epoch) := by
  rcases c.receive_cases m d with hstill | ⟨r, reaction, hopen, hreacts, hreceive⟩
  · rw [hstill] at h
    cases h
  · rw [hreceive] at h
    refine ⟨r, hopen, ?_⟩
    cases hreacts with
    | none => cases h
    | event henvelope _ =>
      cases List.mem_singleton.1 h
      exact henvelope
    | traceroute _ _ _ =>
      cases List.mem_singleton.1 h
      rfl
    | answers _ _ _ _ => exact absurd h not_mem_sendAll

/-- A packet that goes out on a delivery answers it. -/
theorem receive_sent {i : Nat} {name : String} {p : MeshPacket} (h : .sent i name p ∈ (c.receive m d).effects) :
    ∃ r q c' m', c.open? d = some r ∧ r.AnsweredBy q ∧ c.isManaged r.dest = true ∧ r.dest.isBroadcast = false ∧
      ((r.data.port = .traceroute ∧ r.data.requestId = 0) ∨ r.data.wantResponse = true) ∧
      c.SameSetup c' ∧ .sent i name p ∈ (c'.send m' q).effects := by
  rcases c.receive_cases m d with hstill | ⟨r, reaction, hopen, hreacts, hreceive⟩
  · rw [hstill] at h
    cases h
  · rw [hreceive] at h
    cases hreacts with
    | none => cases h
    | event _ _ => cases List.mem_singleton.1 h
    | traceroute _ _ _ => cases List.mem_singleton.1 h
    | answers hasks hdest hmanaged hanswers =>
      obtain ⟨q, hq, c', m', hsetup, hsent⟩ := sendAll_sent h
      -- Entering and the throttle leave what answers are made from as it was.
      refine ⟨r, q, c', m', hopen, hanswers q hq, hmanaged, hdest, hasks, SameSetup.trans ?_ hsetup, hsent⟩
      exact ⟨rfl, rfl, rfl, rfl⟩

theorem perform_traceroutes (c : Client) (m : Moment) (r : Reaction) :
    (c.perform m r).client.traceroutes = c.traceroutes := by
  obtain ⟨_, _, h⟩ := c.perform_client m r
  rw [h]

/-- A delivery leaves the traceroutes alone, or it answers one: then the one event tells the request that waited
under the answer's ID, and that request waits no more. -/
theorem receive_traceroutes (c : Client) (m : Moment) (d : Delivery) :
    ((∀ e result, .event (.traceroute e result) ∉ (c.receive m d).effects) ∧
      (c.receive m d).client.traceroutes = c.traceroutes) ∨
    ∃ e result, (c.receive m d).effects = [.event (.traceroute e result)] ∧
      result.pending = c.traceroutes.pending.get? result.requestId ∧
      (c.receive m d).client.traceroutes = (c.traceroutes.take result.requestId).2 := by
  rcases c.receive_cases m d with hstill | ⟨r, reaction, -, hreacts, hreceive⟩
  · rw [hstill]
    exact .inl ⟨fun _ _ => List.not_mem_nil, rfl⟩
  · rw [hreceive]
    cases hreacts with
    | none => exact .inl ⟨fun _ _ => List.not_mem_nil, rfl⟩
    | event henvelope hroute =>
      refine .inl ⟨fun e result hmem => ?_, rfl⟩
      cases List.mem_singleton.1 hmem
      cases henvelope
      exact hroute result rfl
    | traceroute _ hresult hpending =>
      refine .inr ⟨_, _, rfl, ?_, ?_⟩
      · rw [hpending, hresult]
        rfl
      · rw [perform_traceroutes, hresult]
        rfl
    | answers _ _ _ _ =>
      refine .inl ⟨fun _ _ => not_mem_sendAll, ?_⟩
      rw [perform_traceroutes]
      rfl

end Client

end RadioMesh
