import RadioMesh.Proofs.Client.Spacing
import RadioMesh.Proofs.Client.Unanswered

/-!
Which answer a request for a traceroute is told with. An answer takes the request that waits under its ID, from
whatever node to whatever node it goes, and leaves all others alone. So each request is told with its own answer exactly
if no other answer under its ID is let in while it waits.
-/

namespace RadioMesh

/-- A packet from the node that was asked to the node that asked. -/
def PendingTraceroute.OwnAnswer (r : PendingTraceroute) (p : MeshPacket) : Prop :=
  NodeId.mk p.sender = r.target ∧ NodeId.mk p.dest = r.sender

theorem Meaning.exists_of_ofData_eq {e : Envelope} {epoch : UInt32} {data : Data} {route : RouteDiscovery}
    (h : ofData e epoch data = .tracerouteResponse route) :
    data.port = .traceroute ∧ data.requestId ≠ 0 ∧
      RouteDiscovery.schema.decode? data.payload = some route := by
  have hfits := fits_ofData e epoch data
  rw [h] at hfits
  cases hfits with
  | tracerouteResponse route hport hid =>
    refine ⟨hport, hid, ?_⟩
    cases hpath : RouteDiscovery.schema.decode? data.payload with
    | some path =>
      rw [ofData_traceroute hport hpath, ofRoute, if_neg hid] at h
      cases h
      rfl
    | none =>
      have hnothing : ofPayload RouteDiscovery.schema data (ofRoute data) = .nothing := by rw [ofPayload, hpath]
      rw [ofData, hport] at h
      cases hnothing.symm.trans h

namespace Client

variable {c : Client} {m : Moment} {d : Delivery} {a : Action} {id : UInt32} {r : PendingTraceroute}
  {e : Envelope} {result : TracerouteResult}

/-! ### Answers -/

theorem eq_event_of_mem_perform {reaction : Reaction} {event : MeshEvent}
    (h : .event event ∈ (c.perform m reaction).effects) : reaction = .event event := by
  cases reaction with
  | none => cases h
  | event _ =>
    cases List.mem_singleton.1 h
    rfl
  | answers _ => exact absurd h not_mem_sendAll

/-- Only what means an answer to a traceroute is told as one. -/
theorem exists_response_of_react {received : Received} (h : (c.react m received).2 = .event (.traceroute e result)) :
    ∃ route, Meaning.ofData (received.envelope m.epoch) m.epoch received.data = .tracerouteResponse route ∧
      result.requestId = received.data.requestId ∧ e = received.envelope m.epoch := by
  have hfits := Meaning.fits_ofData (received.envelope m.epoch) m.epoch received.data
  unfold react at h
  dsimp only at h
  generalize Meaning.ofData (received.envelope m.epoch) m.epoch received.data = meaning at hfits h ⊢
  cases hfits with
  | event henvelope hroute =>
    cases h
    cases henvelope
    exact absurd rfl (hroute result)
  | tracerouteRequest route _ _ =>
    dsimp only at h
    unfold answerTraceroute at h
    split at h
    · cases h
    · cases h
  | tracerouteResponse route _ _ =>
    cases h
    exact ⟨route, rfl, rfl, rfl⟩
  | telemetryRequest t _ _ =>
    dsimp only [answerTelemetry] at h
    split at h
    · exact absurd h (throttled_ne_event _)
    · cases h
  | neighborInfoRequest n _ _ =>
    dsimp only [answerNeighborInfo] at h
    split at h
    · exact absurd h (throttled_ne_event _)
    · cases h
  | nothing => cases h

/-- What is told as an answer is one, and its envelope is the packet's. -/
theorem answersPacket_of_told (h : .event (.traceroute e result) ∈ (c.receive m d).effects) :
    c.AnswersPacket m d result.requestId ∧ e.sender = ⟨d.packet.sender⟩ ∧ e.dest = ⟨d.packet.dest⟩ := by
  cases henters : (c.enter m.now d.packet).1 with
  | false =>
    rw [receive_of_not_enter henters] at h
    cases h
  | true =>
    cases hopen : c.open? d with
    | none =>
      rw [receive_of_not_open hopen] at h
      cases h
    | some received =>
      rw [receive_of_enter henters (r := received) hopen] at h
      obtain ⟨route, hmeaning, hid, rfl⟩ := exists_response_of_react (eq_event_of_mem_perform h)
      obtain ⟨hport, hne, hroute⟩ := Meaning.exists_of_ofData_eq hmeaning
      have hpacket : received.packet = d.packet := (opens_of_open? hopen).packet
      refine ⟨⟨henters, hid ▸ hne, received, route, hopen, hport, hid.symm, hroute⟩, ?_, ?_⟩
      · exact congrArg (fun p => NodeId.mk p.sender) hpacket
      · exact congrArg (fun p => NodeId.mk p.dest) hpacket

/-! ### Requests that wait -/

/-- Nothing waits under an ID until a request is sent under it. -/
theorem pending_run_eq_none {actions : List (Moment × Action)} (hnone : c.traceroutes.pending.get? id = none)
    (hnew : ∀ r, (id, r) ∉ c.sentRequests actions) : (c.run actions).client.traceroutes.pending.get? id = none := by
  induction actions generalizing c with
  | nil => exact hnone
  | cons x actions ih =>
    obtain ⟨m, a⟩ := x
    have hfirst : ∀ r, c.sentRequest? m a ≠ some (id, r) := fun r hsent =>
      hnew r (List.mem_append_left _ (Option.mem_toList.2 hsent))
    refine ih (Option.eq_none_iff_forall_ne_some.2 fun r hwaits => ?_) fun r hmem =>
      hnew r (List.mem_append_right _ hmem)
    exact nomatch hnone.symm.trans (pending_of_pending_act hfirst hwaits)

/-- Under all IDs but that of the answer, requests wait on. -/
theorem pending_receive_of_ne (h : .event (.traceroute e result) ∈ (c.receive m d).effects)
    (hid : id ≠ result.requestId) :
    (c.receive m d).client.traceroutes.pending.get? id = c.traceroutes.pending.get? id := by
  rcases c.receive_traceroutes m d with ⟨hnone, -⟩ | ⟨e', result', hevent, -, htaken⟩
  · exact absurd h (hnone e result)
  · rw [hevent] at h
    cases List.mem_singleton.1 h
    rw [htaken]
    exact Ledger.get?_erase_of_ne hid _

/-! ### Runs -/

/-- What an answer under an ID comes to behind a run, from whatever node to whatever node it goes. -/
structure TakesRequest (s : Settings) (m₀ : Moment) (actions : List (Moment × Action)) (m : Moment) (d : Delivery)
    (id : UInt32) : Prop where
  /-- It is told, with the packet's sender and destination and with the request that waits under its ID. -/
  told : ∃ e result, ((after s m₀ actions).receive m d).effects = [.event (.traceroute e result)] ∧
    result.requestId = id ∧ e.sender = ⟨d.packet.sender⟩ ∧ e.dest = ⟨d.packet.dest⟩ ∧
    ∀ r, result.pending = some r ↔
      ∃ later, Unanswered s m₀ id r actions later ∧ r.SweptInTime s.tracerouteTimeout later
  others : ∀ id' ≠ id, ((after s m₀ actions).receive m d).client.traceroutes.pending.get? id' =
    (after s m₀ actions).traceroutes.pending.get? id'
  /-- Every later answer under the ID is told without a request, unless another one was sent under it meanwhile. -/
  behind : ∀ later m' d', (∀ r, (id, r) ∉ ((after s m₀ actions).receive m d).client.sentRequests later) →
    (after s m₀ (actions ++ (m, .receive d) :: later)).AnswersPacket m' d' id →
    ∃ e result, ((after s m₀ (actions ++ (m, .receive d) :: later)).receive m' d').effects =
      [.event (.traceroute e result)] ∧ result.requestId = id ∧ result.pending = none

variable {s : Settings} {m₀ : Moment} {actions : List (Moment × Action)}

theorem takesRequest_of_answersPacket (h : (after s m₀ actions).AnswersPacket m d id) :
    TakesRequest s m₀ actions m d id := by
  obtain ⟨e, result, heffects, rfl⟩ := h.exists_effects
  have htold : .event (.traceroute e result) ∈ ((after s m₀ actions).receive m d).effects :=
    heffects ▸ List.mem_singleton_self _
  obtain ⟨hpending, hnone⟩ := pending_of_told htold
  obtain ⟨-, hsender, hdest⟩ := answersPacket_of_told htold
  refine ⟨⟨e, result, heffects, rfl, hsender, hdest, fun r => hpending ▸ pending_after_iff⟩,
    fun id' hid => pending_receive_of_ne htold hid, fun later m' d' hnew hanswer => ?_⟩
  obtain ⟨e', result', heffects', hid⟩ := hanswer.exists_effects
  refine ⟨e', result', heffects', hid, ?_⟩
  have hrun : after s m₀ (actions ++ (m, .receive d) :: later) =
      (((after s m₀ actions).receive m d).client.run later).client := run_append_client _ actions _
  rw [(pending_of_told (heffects' ▸ List.mem_singleton_self _)).1, hid, hrun]
  exact pending_run_eq_none hnone hnew

/-- In a run, all requests are told with answers from the nodes that were asked to the nodes that asked exactly if every
answer that is let in under the ID of a request that waits goes so. For an answer takes the request that waits under
its ID wherever it comes from, and none is left for an answer behind it. -/
theorem requests_told_with_own_answers_iff (s : Settings) (m₀ : Moment) (actions : List (Moment × Action)) :
    ((∀ e result r, .event (.traceroute e result) ∈ ((ofSettings s m₀).run actions).effects →
        result.pending = some r → e.sender = r.target ∧ e.dest = r.sender) ↔
      ∀ earlier m d later id r since, actions = earlier ++ (m, .receive d) :: later →
        (after s m₀ earlier).AnswersPacket m d id → Unanswered s m₀ id r earlier since →
        r.SweptInTime s.tracerouteTimeout since → r.OwnAnswer d.packet) ∧
    ∀ m d id, (after s m₀ actions).AnswersPacket m d id → TakesRequest s m₀ actions m d id := by
  refine ⟨⟨fun hown earlier m d later id r since hactions hanswer hlast hswept => ?_,
    fun hback e result r hevent hpending => ?_⟩, fun m d id => takesRequest_of_answersPacket⟩
  · obtain ⟨e, result, heffects, -, hsender, hdest, htold⟩ := (takesRequest_of_answersPacket hanswer).told
    have hevent : .event (.traceroute e result) ∈ ((ofSettings s m₀).run actions).effects := by
      rw [hactions]
      exact mem_run_of_mem_act (a := .receive d) (heffects ▸ List.mem_singleton_self _)
    obtain ⟨htarget, hasker⟩ := hown e result r hevent ((htold r).2 ⟨since, hlast, hswept⟩)
    exact ⟨hsender.symm.trans htarget, hdest.symm.trans hasker⟩
  · obtain ⟨earlier, m, a, later, rfl, hact⟩ := exists_act_of_mem_run hevent
    obtain ⟨d, rfl, -⟩ := exists_delivery_of_told ⟨e, result, hact, rfl⟩
    obtain ⟨hanswer, hsender, hdest⟩ := answersPacket_of_told hact
    rw [(pending_of_told hact).1] at hpending
    obtain ⟨since, hlast, hswept⟩ := pending_after_iff.1 hpending
    obtain ⟨htarget, hasker⟩ := hback earlier m d later result.requestId r since rfl hanswer hlast hswept
    exact ⟨hsender.trans htarget, hdest.trans hasker⟩

/-- Two requests wait, and the answer to the first one leaves the second one alone. -/
theorem requests_told_with_own_answers_iff_two :
    let m : Moment := ⟨0, 0, fun _ => 0⟩
    let call (target : NodeId) : Action := .requestTraceroute ⟨256⟩ target (.unencrypted "clear") "note"
    let request (target : NodeId) : PendingTraceroute := ⟨⟨256⟩, target, "clear", "note", 0⟩
    let data : Data := { portNumber := Port.traceroute.number, requestId := 1 }
    let answer : MeshPacket := { sender := 768, dest := 256, id := 9, body := some (.decoded data) }
    let d : Delivery := ⟨answer, some "clear", none, .udp⟩
    let actions := [(m, .addLink { name := "udp" }), (m, call ⟨768⟩), (m, call ⟨769⟩)]
    (after (.ofNode ⟨256⟩) m actions).AnswersPacket m d 1 ∧ (request ⟨768⟩).OwnAnswer d.packet ∧
      (∃ e result, ((after (.ofNode ⟨256⟩) m actions).receive m d).effects = [.event (.traceroute e result)] ∧
        e.sender = ⟨768⟩ ∧ e.dest = ⟨256⟩ ∧ result.pending = some (request ⟨768⟩)) ∧
      ((after (.ofNode ⟨256⟩) m actions).receive m d).client.traceroutes.pending.get? 2 = some (request ⟨769⟩) := by
  intro m call request data answer d actions
  have hanswer : (after (.ofNode ⟨256⟩) m actions).AnswersPacket m d 1 :=
    { enters := by decide +kernel
      id_ne_zero := by decide
      opens := ⟨⟨answer, data, .unencrypted "clear", .none, d.via, d.source⟩, {}, by decide +kernel⟩ }
  obtain ⟨⟨e, result, heffects, -, hsender, hdest, htold⟩, hothers, -⟩ :=
    (requests_told_with_own_answers_iff (.ofNode ⟨256⟩) m actions).2 m d 1 hanswer
  have hfirst : (after (.ofNode ⟨256⟩) m actions).traceroutes.pending.get? 1 = some (request ⟨768⟩) := by
    decide +kernel
  have hsecond : (after (.ofNode ⟨256⟩) m actions).traceroutes.pending.get? 2 = some (request ⟨769⟩) := by
    decide +kernel
  have hpending : result.pending = some (request ⟨768⟩) := (htold _).2 (pending_after_iff.1 hfirst)
  exact ⟨hanswer, ⟨rfl, rfl⟩, ⟨e, result, heffects, hsender, hdest, hpending⟩, (hothers 2 (by decide)).trans hsecond⟩

/-- The answer of a node that was not asked, and an answer to a node that did not ask, are told with the request, and
the answer that it waits for is then told without it. -/
theorem request_told_with_other_answer :
    let m : Moment := ⟨0, 0, fun _ => 0⟩
    let call : Action := .requestTraceroute ⟨256⟩ ⟨768⟩ (.unencrypted "clear") "note"
    let data : Data := { portNumber := Port.traceroute.number, requestId := 1 }
    let answer (sender dest id : UInt32) : Delivery :=
      ⟨{ sender := sender, dest := dest, id := id, body := some (.decoded data) }, some "clear", none, .udp⟩
    let c := after (.ofNode ⟨256⟩) m [(m, .addLink { name := "udp" }), (m, call)]
    let request : PendingTraceroute := ⟨⟨256⟩, ⟨768⟩, "clear", "note", 0⟩
    let envelope (sender dest : NodeId) (id : UInt32) : Envelope :=
      ⟨"clear", none, sender, dest, sender, 0, id, false, false, false, false⟩
    let own (pending : Option PendingTraceroute) : Effect :=
      .event (.traceroute (envelope ⟨768⟩ ⟨256⟩ 10) ⟨1, [], [], [], [0], pending⟩)
    (∀ stray ∈ [answer 1024 256 9, answer 768 512 9],
      let c' := (c.receive m stray).client
      ¬request.OwnAnswer stray.packet ∧ c'.traceroutes.pending.get? 1 = none ∧
        own none ∈ (c'.receive m (answer 768 256 10)).effects) ∧
    .event (.traceroute (envelope ⟨1024⟩ ⟨256⟩ 9) ⟨1, [], [], [], [0], some request⟩) ∈
      (c.receive m (answer 1024 256 9)).effects ∧
    .event (.traceroute (envelope ⟨768⟩ ⟨512⟩ 9) ⟨1, [], [], [], [], some request⟩) ∈
      (c.receive m (answer 768 512 9)).effects ∧
    own (some request) ∈ (c.receive m (answer 768 256 10)).effects := by
  unfold PendingTraceroute.OwnAnswer
  decide +kernel

end Client

end RadioMesh
