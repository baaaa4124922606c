import RadioMesh.Proofs.Client.Handling
import RadioMesh.Proofs.Client.Waiting
import RadioMesh.Proofs.Traceroute.Path

/-!
A traceroute between two bridges. One asks on behalf of a node of its own, the other answers on behalf of one of its
nodes, and either completes its way of the route. The answer finds the request that waits for it, and the route that is
told to the owner has one ratio more than it has nodes, there and back.
-/

namespace RadioMesh

/-! ### On the way -/

/-- The same packet further on its way. Hops were taken, and other nodes heard it. -/
structure MeshPacket.RelayOf (p p' : MeshPacket) : Prop where
  id : p'.id = p.id
  sender : p'.sender = p.sender
  dest : p'.dest = p.dest
  channel : p'.channel = p.channel
  wantAck : p'.wantAck = p.wantAck
  body : p'.body = p.body

theorem Submission.SentAs.relay {s : Submission} {p p' : MeshPacket} (h : s.SentAs p) (hrelay : p.RelayOf p') :
    s.SentAs p' := by
  obtain ⟨covered, hbody, hopened⟩ := h.body
  refine ⟨hrelay.sender.trans h.sender, hrelay.dest.trans h.dest, hrelay.channel.trans h.channel, covered,
    hrelay.body.trans hbody, ?_⟩
  rw [hrelay.id, hrelay.sender]
  exact hopened

/-- A delivery that was read with a channel's key. -/
def Delivery.readWith (d : Delivery) (channel : ChannelDef) (data : Data) : Received :=
  ⟨d.packet, data, channel, .channelKey, d.via, d.source⟩

/-- A route that is sent on a channel. -/
def RouteDiscovery.submission (path : RouteDiscovery) (channel : ChannelDef) (info : PacketInfo) : Submission :=
  ⟨channel, schema.encode path, info⟩

/-- A packet that carries a route under a channel's key. -/
structure MeshPacket.CarriesRoute (p : MeshPacket) (channel : ChannelDef) (path : RouteDiscovery) (info : PacketInfo) :
    Prop where
  sentAs : (path.submission channel info).SentAs p
  port : info.port = .traceroute
  fits : (RouteDiscovery.schema.encode path).length ≤ maxPayloadLength

theorem MeshPacket.CarriesRoute.relay {p p' : MeshPacket} {channel : ChannelDef} {path : RouteDiscovery}
    {info : PacketInfo} (h : p.CarriesRoute channel path info) (hrelay : p.RelayOf p') :
    p'.CarriesRoute channel path info :=
  ⟨h.sentAs.relay hrelay, h.port, h.fits⟩

theorem Meaning.ofData_submission {path : RouteDiscovery} {channel : ChannelDef} {info : PacketInfo}
    (hport : info.port = .traceroute) (hlength : (RouteDiscovery.schema.encode path).length ≤ maxPayloadLength)
    (e : Envelope) (epoch : UInt32) : ofData e epoch (path.submission channel info).data =
      if info.requestId = 0 then .tracerouteRequest path else .tracerouteResponse path := by
  have hmax : maxPayloadLength = 232 := rfl
  have hpath : RouteDiscovery.schema.decode? (path.submission channel info).data.payload = some path :=
    RouteDiscovery.roundTrips.decode?_encode (by decide) (by omega)
  rw [ofData_traceroute ((Submission.port_data _).trans hport) hpath]
  rfl

namespace Client

/-- Without a private key nothing is sealed. -/
theorem protection_ne_direct {c : Client} {m : Moment} {r : Request} {s : Submission} {o : Outgoing}
    (hbuilt : c.built? m r = some o) (hcompose : c.compose m r = .ok s)
    (hkeyless : ∀ key, c.privateKey s.info.sender ≠ .ok key) : s.info.protection ≠ .direct := by
  intro hprotection
  obtain ⟨s', hcompose', hpack⟩ := exists_of_built? hbuilt
  cases hcompose.symm.trans hcompose'
  rw [pack, (carries_of_pack hpack).1] at hpack
  dsimp only at hpack
  rw [protect, hprotection] at hpack
  dsimp only at hpack
  split at hpack
  · cases hpack
  · obtain ⟨privateKey, hprivate, -⟩ := exists_of_bind_eq_ok hpack
    exact hkeyless privateKey hprivate

/-- A client lets in a delivery under a channel that it joined, for a node of its own that has no private key. -/
structure TakesUp (c : Client) (now : Instant) (d : Delivery) (channel : ChannelDef) : Prop where
  hears : c.Hears d channel
  fresh : c.seen.isDuplicate now ⟨d.packet.sender⟩ d.packet.id = false
  remote : c.isManaged ⟨d.packet.sender⟩ = false
  managed : c.isManaged ⟨d.packet.dest⟩ = true
  addressed : (NodeId.mk d.packet.dest).isBroadcast = false
  keyless : ∀ key, c.privateKey ⟨d.packet.dest⟩ ≠ .ok key

namespace TakesUp

variable {c : Client} {m : Moment} {d : Delivery} {channel : ChannelDef} {path : RouteDiscovery} {info : PacketInfo}

theorem notDirect (h : c.TakesUp m.now d channel) : c.NotDirect d := by
  intro covered data _ _ hopen
  obtain ⟨publicKey, -, hopen⟩ := exists_of_bind_eq_ok hopen
  obtain ⟨privateKey, hprivate, -⟩ := exists_of_bind_eq_ok hopen
  exact h.keyless privateKey hprivate

theorem receive_eq (h : c.TakesUp m.now d channel) (hnamed : ChannelDef.Named c.channels)
    (hroute : d.packet.CarriesRoute channel path info) :
    let r := d.readWith channel (path.submission channel info).data
    let reaction := (c.enter m.now d.packet).2.react m r
    c.receive m d = reaction.1.perform m reaction.2 := by
  have hknown : (path.submission channel info).info.port ≠ .unknown := by
    show info.port ≠ .unknown
    rw [hroute.port]
    exact Port.noConfusion
  have hopen : (c.enter m.now d.packet).2.open? d = some (d.readWith channel (path.submission channel info).data) :=
    open?_of_hears h.hears hnamed hroute.sentAs hknown hroute.fits h.notDirect
  exact receive_of_enter ((enter_fst c m.now d.packet).2 ⟨h.fresh, h.remote⟩) hopen

/-- A traceroute that is taken up is answered with the completed route, and nothing else is done about it. -/
theorem receive_request (h : c.TakesUp m.now d channel) (hnamed : ChannelDef.Named c.channels)
    (hroute : d.packet.CarriesRoute channel path info) (hid : info.requestId = 0)
    (hack : d.packet.wantAck = false) :
    let r := d.readWith channel (path.submission channel info).data
    c.receive m d = (c.enter m.now d.packet).2.sendAll m
      [.bytes channel (RouteDiscovery.schema.encode (path.complete r c.nodeId .towards))
        (answerInfo .traceroute r.replyProtection r.dest r.sender d.packet.id)] := by
  intro r
  have hmeaning : Meaning.ofData (r.envelope m.epoch) m.epoch r.data = .tracerouteRequest path :=
    (Meaning.ofData_submission hroute.port hroute.fits _ _).trans (if_pos hid)
  have hbroadcast : r.dest.isBroadcast = false := h.addressed
  have hmanaged : (c.enter m.now d.packet).2.isManaged r.dest = true := h.managed
  have hwant : r.packet.wantAck = false := hack
  rw [h.receive_eq hnamed hroute, react, hmeaning]
  dsimp only
  rw [answerTraceroute, hbroadcast, hmanaged, hwant]
  rfl

/-- The answer to a traceroute that is taken up is told with the route completed and the request that waits for it,
which then waits no more. -/
theorem receive_response (h : c.TakesUp m.now d channel) (hnamed : ChannelDef.Named c.channels)
    (hroute : d.packet.CarriesRoute channel path info) (hid : info.requestId ≠ 0) :
    ∃ r : Received, r.packet = d.packet ∧
      (let route := path.complete r c.nodeId .back
      (c.receive m d).effects = [.event (.traceroute (r.envelope m.epoch)
        { requestId := info.requestId
          route := route.route.map .mk
          snrTowards := route.snrTowards
          routeBack := route.routeBack.map .mk
          snrBack := route.snrBack
          pending := c.traceroutes.pending.get? info.requestId })]) ∧
      (c.receive m d).client.traceroutes.pending.get? info.requestId = none := by
  let r := d.readWith channel (path.submission channel info).data
  have hmeaning : Meaning.ofData (r.envelope m.epoch) m.epoch r.data = .tracerouteResponse path :=
    (Meaning.ofData_submission hroute.port hroute.fits _ _).trans (if_neg hid)
  have hmanaged : (c.enter m.now d.packet).2.isManaged r.dest = true := h.managed
  rw [h.receive_eq hnamed hroute, react, hmeaning]
  dsimp only
  refine ⟨r, rfl, ?_⟩
  rw [tracerouteEvent, hmanaged]
  exact ⟨rfl, Ledger.get?_erase_self _ _⟩

/-! ### The answer -/

theorem replyProtection_readWith (d : Delivery) (channel : ChannelDef) (data : Data) :
    (d.readWith channel data).replyProtection =
      if channel.name = ChannelDef.directName then .direct else .channelKey := by
  simp [Received.replyProtection, Delivery.readWith]

/-- The way back of a traceroute, under the channel's key. -/
def wayBack (d : Delivery) : PacketInfo :=
  answerInfo .traceroute .channelKey ⟨d.packet.dest⟩ ⟨d.packet.sender⟩ d.packet.id

variable {j : Nat} {name : String} {q : MeshPacket}

/-- What goes out on a traceroute that is taken up is the completed route under the channel's key. -/
theorem answer_of_sent (h : c.TakesUp m.now d channel) (hnamed : ChannelDef.Named c.channels)
    (hroute : d.packet.CarriesRoute channel path info) (hid : info.requestId = 0) (hack : d.packet.wantAck = false)
    (hout : .sent j name q ∈ (c.receive m d).effects) :
    name = channel.name ∧ ∃ r : Received, r.packet = d.packet ∧
      q.CarriesRoute channel (path.complete r c.nodeId .towards) (wayBack d) := by
  rw [h.receive_request hnamed hroute hid hack, sendAll_effects] at hout
  obtain ⟨o, ho, haccepted⟩ := List.mem_flatMap.1 hout
  obtain ⟨i, hi, -⟩ := exists_of_mem_accepted haccepted
  cases hi
  rw [built, built, List.append_nil, Option.mem_toList] at ho
  have hprotection := protection_ne_direct ho rfl h.keyless
  dsimp only [answerInfo] at hprotection
  rw [replyProtection_readWith] at ho hprotection
  rw [if_neg fun hname => hprotection (if_pos hname)] at ho
  obtain ⟨hname, hsentAs, -, -, hfits⟩ := sentAs_of_built?
    (s := (path.complete (d.readWith channel _) c.nodeId .towards).submission channel (wayBack d)) ho rfl rfl
  exact ⟨hname, d.readWith channel _, rfl, hsentAs, rfl, hfits⟩

/-- An answer that fits is offered to all links. -/
theorem exists_answer (h : c.TakesUp m.now d channel) (hnamed : ChannelDef.Named c.channels)
    (hroute : d.packet.CarriesRoute channel path info) (hid : info.requestId = 0) (hack : d.packet.wantAck = false)
    (hname : channel.name ≠ ChannelDef.directName)
    (hfits : (RouteDiscovery.schema.encode (path.complete (d.readWith channel (path.submission channel info).data)
      c.nodeId .towards)).length ≤ maxPayloadLength) :
    ∃ q, (c.receive m d).effects = accepted c.links ⟨channel.name, q⟩ := by
  obtain ⟨covered, -, hcovered⟩ := hroute.sentAs.body
  let s := (path.complete (d.readWith channel (path.submission channel info).data) c.nodeId .towards).submission channel
    (wayBack d)
  have hcheck : (c.enter m.now d.packet).2.check s = .ok () := check_eq_ok_iff.2 ⟨h.managed, hfits⟩
  rw [h.receive_request hnamed hroute hid hack, replyProtection_readWith, if_neg hname]
  obtain ⟨q, heffects, -, -⟩ := exists_send (m := m) (r := .bytes channel _ _) (s := s) rfl hcheck
    (isChannelKey_of_applyKey hcovered) rfl
  refine ⟨q, ?_⟩
  show _ ++ [] = _
  rw [List.append_nil]
  exact heffects

end TakesUp

/-! ### There and back -/

/-- A route that begins has one node at most, and nothing of the way back. -/
structure Begins (own sender : NodeId) (path : RouteDiscovery) : Prop where
  towards : path.Aligned .towards
  back : path.Aligned .back
  own : sender ≠ own → own.value ∈ path.route
  route : path.route.length ≤ 1
  routeBack : path.routeBack = []
  snrBack : path.snrBack = []

theorem begins_firstRoute (c : Client) (sender : NodeId) : Begins c.nodeId sender (c.firstRoute sender) := by
  unfold firstRoute
  split
  · next hown => exact ⟨rfl, rfl, fun hne => absurd hown hne, Nat.zero_le 1, rfl, rfl⟩
  · exact ⟨rfl, rfl, fun _ => List.mem_singleton_self _, Nat.le_refl 1, rfl, rfl⟩

theorem Begins.short {own sender : NodeId} {path : RouteDiscovery} (h : Begins own sender path) :
    path.Short .towards maxHops.toNat ∧ path.Short .back 0 := by
  have hone : 1 ≤ maxHops.toNat := by decide
  have hnodes : (path.nodes .towards).length ≤ maxHops.toNat := h.route.trans hone
  have hback : path.nodes .back = [] ∧ path.snrs .back = [] := ⟨h.routeBack, h.snrBack⟩
  refine ⟨⟨hnodes, ?_⟩, ?_⟩
  · rwa [show (path.snrs .towards).length = _ from h.towards]
  · rw [RouteDiscovery.Short, hback.1, hback.2]
    exact ⟨Nat.le_refl 0, Nat.le_refl 0⟩

/-- What the owner is told of a traceroute, there and back, between two bridges. -/
structure Closes (result : TracerouteResult) (own other : NodeId) (sender target : NodeId) : Prop where
  towards : result.snrTowards.length = result.route.length + 1
  back : result.snrBack.length = result.routeBack.length + 1
  own : sender ≠ own → own ∈ result.route ∧ own ∈ result.routeBack
  other : target ≠ other → other ∈ result.route ∧ other ∈ result.routeBack

theorem closes_complete {own other sender target : NodeId} {path : RouteDiscovery} (h : Begins own sender path)
    {there back : Received} (hthere : there.dest = target) (hback : back.dest = sender) (requestId : UInt32)
    (pending : Option PendingTraceroute) :
    let route := (path.complete there other .towards).complete back own .back
    Closes ⟨requestId, route.route.map .mk, route.snrTowards, route.routeBack.map .mk, route.snrBack, pending⟩ own other
      sender target := by
  intro route
  obtain ⟨htowards, hreturn, hkept, hother, hown⟩ :=
    RouteDiscovery.complete_complete h.towards h.back there back other own
  rw [hthere] at hother
  rw [hback] at hown
  exact
    { towards := htowards.trans (congrArg (· + 1) (List.length_map _).symm)
      back := hreturn.trans (congrArg (· + 1) (List.length_map _).symm)
      own := fun hne => ⟨List.mem_map_of_mem (hkept _ (h.own hne)), List.mem_map_of_mem (hown hne)⟩
      other := fun hne => ⟨List.mem_map_of_mem (hother hne).1, List.mem_map_of_mem (hother hne).2⟩ }

/-- The request of a traceroute that went out waits in time, whatever happens behind it. -/
theorem waits_of_sent {s : Settings} {m₀ m : Moment} {before later : List (Moment × Action)} {sender target : NodeId}
    {channel : ChannelDef} {context : String} {i : Nat} {name : String} {p : MeshPacket} {now : Instant}
    (hsent : .sent i name p ∈ ((after s m₀ before).requestTraceroute m sender target channel context).effects) :
    let call : Action := .requestTraceroute sender target channel context
    let asked := ((after s m₀ before).act m call).client
    (∀ x ∈ later, x.1.now ≤ now) → now - m.now < s.tracerouteTimeout → .sent p.id ∉ (asked.run later).value →
      ¬Effect.AnswerTold (asked.run later).effects p.id →
      (after s m₀ (before ++ (m, call) :: later)).traceroutes.pending.get? p.id =
        some ⟨sender, target, channel.name, context, m.now⟩ := by
  intro call asked hto htime hvalue htold
  obtain ⟨-, hasks⟩ := asks_of_sent hsent
  have htimeout : asked.traceroutes.timeout = s.tracerouteTimeout := by rw [timeout_act, timeout_after]
  have hrun : after s m₀ (before ++ (m, call) :: later) = (asked.run later).client :=
    run_append_client _ before ((m, call) :: later)
  rw [hrun]
  exact pending_run hasks.noted hto (by rwa [htimeout]) hvalue htold

/-- A traceroute that is taken up by another bridge is answered without an event, and with an answer as long as the
hops that were taken fit on a route. The answer that is taken up in time tells the owner of the whole way, with the
request that was waiting for it, and no request waits under its ID any more. -/
theorem traceroute_between_bridges (sA sB : Settings) (mA₀ mB₀ m mB : Moment)
    (before elsewhere : List (Moment × Action)) (sender target : NodeId) (channel : ChannelDef) (context : String)
    (i : Nat) (name : String) (p : MeshPacket) (dB : Delivery)
    (hsent : .sent i name p ∈ ((after sA mA₀ before).requestTraceroute m sender target channel context).effects)
    (hrelay : p.RelayOf dB.packet) (htakes : (after sB mB₀ elsewhere).TakesUp mB.now dB channel) :
    let asking := after sA mA₀ before
    let call : Action := .requestTraceroute sender target channel context
    let answering := after sB mB₀ elsewhere
    (answering.receive mB dB).events = [] ∧
    (channel.name ≠ ChannelDef.directName →
      dB.packet.hopStart.toNat - dB.packet.hopLimit.toNat ≤ maxHops.toNat →
      ∃ q, (answering.receive mB dB).effects = accepted answering.links ⟨channel.name, q⟩) ∧
    ∀ (j : Nat) (name' : String) (q : MeshPacket), .sent j name' q ∈ (answering.receive mB dB).effects →
      ∀ (later : List (Moment × Action)) (mA : Moment) (dA : Delivery),
        let waiting := after sA mA₀ (before ++ (m, call) :: later)
        q.RelayOf dA.packet → waiting.TakesUp mA.now dA channel →
        (∀ x ∈ later, x.1.now ≤ mA.now) → mA.now - m.now < sA.tracerouteTimeout →
        .sent p.id ∉ ((asking.act m call).client.run later).value →
        ¬Effect.AnswerTold ((asking.act m call).client.run later).effects p.id →
        ∃ e result, (waiting.receive mA dA).effects = [.event (.traceroute e result)] ∧
          e.sender = target ∧ e.dest = sender ∧ result.requestId = p.id ∧
          result.pending = some ⟨sender, target, channel.name, context, m.now⟩ ∧
          Closes result sA.nodeId sB.nodeId sender target ∧
          (waiting.receive mA dA).client.traceroutes.pending.get? p.id = none := by
  intro asking call answering
  obtain ⟨-, hasks⟩ := asks_of_sent hsent
  have hbegins := asking.begins_firstRoute sender
  rw [show asking.nodeId = sA.nodeId from nodeId_after sA mA₀ before] at hbegins
  have hnamed := channels_named_after sB mB₀ elsewhere
  have hnode : answering.nodeId = sB.nodeId := nodeId_after sB mB₀ elsewhere
  have hroute : dB.packet.CarriesRoute channel (asking.firstRoute sender)
      { keyedInfo .traceroute sender target with wantResponse := true } :=
    MeshPacket.CarriesRoute.relay ⟨hasks.sentAs, rfl, hasks.length⟩ hrelay
  have hack : dB.packet.wantAck = false := hrelay.wantAck.trans hasks.wantAck
  have hdest : NodeId.mk dB.packet.dest = target := congrArg NodeId.mk hroute.sentAs.dest
  have hsender : NodeId.mk dB.packet.sender = sender := congrArg NodeId.mk hroute.sentAs.sender
  refine ⟨?_, fun hdirect hhops => ?_, ?_⟩
  · rw [htakes.receive_request hnamed hroute rfl hack]
    exact List.eq_nil_iff_forall_not_mem.2 fun event hevent => not_mem_sendAll (Step.mem_events.1 hevent)
  · refine htakes.exists_answer hnamed hroute rfl hack hdirect ?_
    exact RouteDiscovery.length_encode_complete_le hbegins.short.1 hbegins.short.2 hhops
  · intro j name' q hout later mA dA waiting hrelay' htakes' hto htime hvalue htold
    have hwaits := waits_of_sent hsent hto htime hvalue htold
    -- The answer carries the ID of the packet that was sent, and that ID marks it as an answer.
    obtain ⟨-, there, hthere, hreply⟩ := htakes.answer_of_sent hnamed hroute rfl hack hout
    have hanswer := hreply.relay hrelay'
    have hid : dB.packet.id = p.id := hrelay.id
    have hnonzero : (TakesUp.wayBack dB).requestId ≠ 0 := by
      show dB.packet.id ≠ 0
      rw [hid]
      exact hasks.id
    obtain ⟨back, hback, heffects, hnone⟩ :=
      htakes'.receive_response (channels_named_after sA mA₀ _) hanswer hnonzero
    have hthere' : there.dest = target := by rw [Received.dest, hthere, hdest]
    have hback' : back.dest = sender := by
      rw [Received.dest, hback, ← hsender]
      exact congrArg NodeId.mk hanswer.sentAs.dest
    have hanswerer : back.sender = target := by
      rw [Received.sender, hback, ← hdest]
      exact congrArg NodeId.mk hanswer.sentAs.sender
    have hwaiting : waiting.nodeId = sA.nodeId := nodeId_after sA mA₀ _
    refine ⟨_, _, heffects, hanswerer, hback', hid, ?_, ?_, hid ▸ hnone⟩
    · show waiting.traceroutes.pending.get? dB.packet.id = _
      rw [hid]
      exact hwaits
    · rw [hwaiting, hnode]
      exact closes_complete hbegins hthere' hback' _ _

/-- The bridges 256 and 512, each with one link and one node besides itself. A relay between them stays unknown. -/
theorem traceroute_between_bridges_clear :
    let m : Moment := ⟨0, 0, fun _ => 0⟩
    let clear : ChannelDef := .unencrypted "clear"
    let directory (own other : NodeId) : Directory :=
      { Directory.ofNode own with isManaged := fun node => node == own || node == other }
    let bridge (own other : NodeId) : List (Moment × Action) :=
      [(m, .addLink { name := "udp" }), (m, .addChannel clear), (m, .setDirectory (directory own other))]
    let asking := after (.ofNode ⟨256⟩) m (bridge ⟨256⟩ ⟨272⟩)
    let answering := after (.ofNode ⟨512⟩) m (bridge ⟨512⟩ ⟨528⟩)
    let waiting := after (.ofNode ⟨256⟩) m
      (bridge ⟨256⟩ ⟨272⟩ ++ [(m, .requestTraceroute ⟨272⟩ ⟨528⟩ clear "note")])
    let relayed (p : MeshPacket) : Delivery := ⟨{ p with hopLimit := 2 }, some "clear", none, .udp⟩
    ∃ p q : MeshPacket,
      .sent 0 "clear" p ∈ (asking.requestTraceroute m ⟨272⟩ ⟨528⟩ clear "note").effects ∧
      answering.TakesUp m.now (relayed p) clear ∧ .sent 0 "clear" q ∈ (answering.receive m (relayed p)).effects ∧
      waiting.TakesUp m.now (relayed q) clear ∧
      ∃ e result, (waiting.receive m (relayed q)).effects = [.event (.traceroute e result)] ∧
        result.pending = some ⟨⟨272⟩, ⟨528⟩, "clear", "note", 0⟩ ∧
        Closes result ⟨256⟩ ⟨512⟩ ⟨272⟩ ⟨528⟩ := by
  intro m clear directory bridge asking answering waiting relayed
  let route : Bytes := [18, 9, 10, 4, 0, 1, 0, 0, 18, 1, 0]
  let answer : Bytes := [18, 38, 10, 12, 0, 1, 0, 0, 255, 255, 255, 255, 0, 2, 0, 0, 18, 13, 0, 128, 255, 255, 255,
    255, 255, 255, 255, 255, 1, 0, 0, 26, 4, 0, 2, 0, 0, 34, 1, 0, 53, 1, 0, 0, 0]
  let p : MeshPacket := { sender := 272, dest := 528, channel := 121, id := 1, hopLimit := 3, hopStart := 4,
                          priority := 64, body := some (.encrypted ([8, 70] ++ route ++ [24, 1, 72, 3])) }
  let q : MeshPacket := { sender := 528, dest := 272, channel := 121, id := 1, hopLimit := 3, hopStart := 4,
                          priority := 80, body := some (.encrypted ([8, 70] ++ answer ++ [72, 1])) }
  have hsent : .sent 0 "clear" p ∈ (asking.requestTraceroute m ⟨272⟩ ⟨528⟩ clear "note").effects := by decide +kernel
  have hanswer : .sent 0 "clear" q ∈ (answering.receive m (relayed p)).effects := by decide +kernel
  have hthere : answering.TakesUp m.now (relayed p) clear :=
    ⟨.inl ⟨rfl, rfl⟩, rfl, rfl, rfl, rfl, fun _ hkey => nomatch hkey⟩
  have hkeyless : (waiting.privateKey ⟨272⟩).toOption = none := by decide +kernel
  have hback : waiting.TakesUp m.now (relayed q) clear :=
    ⟨.inl ⟨rfl, by decide +kernel⟩, by decide +kernel, by decide +kernel, by decide +kernel, rfl,
      fun key hkey => nomatch hkeyless.symm.trans (congrArg Except.toOption hkey)⟩
  obtain ⟨-, -, hreturns⟩ := traceroute_between_bridges (.ofNode ⟨256⟩) (.ofNode ⟨512⟩) m m m m (bridge ⟨256⟩ ⟨272⟩)
    (bridge ⟨512⟩ ⟨528⟩) ⟨272⟩ ⟨528⟩ clear "note" 0 "clear" p (relayed p) hsent ⟨rfl, rfl, rfl, rfl, rfl, rfl⟩ hthere
  obtain ⟨e, result, hevent, -, -, -, hpending, hcloses, -⟩ := hreturns 0 "clear" q hanswer [] m (relayed q)
    ⟨rfl, rfl, rfl, rfl, rfl, rfl⟩ hback (fun _ hx => nomatch hx) (by decide) (fun hmem => nomatch hmem)
    (fun ⟨_, _, hmem, _⟩ => nomatch hmem)
  exact ⟨p, q, hsent, hthere, hanswer, hback, e, result, hevent, hpending, hcloses⟩

end Client

end RadioMesh
