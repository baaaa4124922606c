import RadioMesh.Proofs.Client.Overlap
import RadioMesh.Proofs.Client.TracerouteSteps

/-!
Requests that wait for the answer to a traceroute, over a run. A request is noted when its packet goes out, and it
waits until its answer is told, a sweep finds it too old, or another packet with its ID takes its place.
-/

namespace RadioMesh

/-! ### Packets under a channel's key -/

theorem Client.sentAs_of_protect {c : Client} {s : Submission} {p : MeshPacket} {extra : UInt32} {o : Client.Outgoing}
    (hprotection : s.info.protection = .channelKey) (hsender : p.sender = s.info.sender.value)
    (hdest : p.dest = s.info.dest.value) (h : c.protect s p extra = .ok o) :
    o.channel = s.channel.name ∧ s.SentAs o.packet ∧ o.packet.id = p.id ∧ o.packet.wantAck = p.wantAck := by
  unfold protect at h
  rw [hprotection] at h
  obtain ⟨covered, hcovered, ho⟩ := exists_of_bind_eq_ok h
  cases ho
  exact ⟨rfl, ⟨hsender, hdest, rfl, covered, rfl, applyKey_symm (eq_ok_of_mapError hcovered)⟩, rfl, rfl⟩

theorem Client.sentAs_of_built? {c : Client} {m : Moment} {r : Request} {s : Submission} {o : Client.Outgoing}
    (hbuilt : c.built? m r = some o) (hcompose : c.compose m r = .ok s)
    (hprotection : s.info.protection = .channelKey) :
    o.channel = s.channel.name ∧ s.SentAs o.packet ∧ o.packet.id ≠ 0 ∧ o.packet.wantAck = s.info.wantAck ∧
      s.payload.length ≤ maxPayloadLength := by
  obtain ⟨s', hcompose', hpack⟩ := exists_of_built? hbuilt
  cases hcompose.symm.trans hcompose'
  have hcheck := (carries_of_pack hpack).1
  rw [pack, hcheck] at hpack
  obtain ⟨hname, hsent, hid, hack⟩ := sentAs_of_protect hprotection rfl rfl hpack
  refine ⟨hname, hsent, ?_, hack, (check_eq_ok_iff.1 hcheck).2⟩
  rw [hid]
  exact PacketIds.next_ne_zero c.packetIds m.words

namespace Client

/-! ### A request is noted -/

/-- A traceroute before it is protected. -/
def tracerouteSubmission (c : Client) (sender target : NodeId) (channel : ChannelDef) : Submission :=
  ⟨channel, RouteDiscovery.schema.encode (c.firstRoute sender),
    { keyedInfo .traceroute sender target with wantResponse := true }⟩

variable {c : Client} {m : Moment} {sender target : NodeId} {channel : ChannelDef} {context : String} {i : Nat}
  {name : String} {p : MeshPacket} {id : UInt32} {record : PendingTraceroute}

/-- A traceroute that went out goes under the channel's key, and its request waits under the packet's ID. -/
structure Asks (c : Client) (m : Moment) (sender target : NodeId) (channel : ChannelDef) (context : String)
    (p : MeshPacket) : Prop where
  sentAs : (c.tracerouteSubmission sender target channel).SentAs p
  id : p.id ≠ 0
  wantAck : p.wantAck = false
  length : (RouteDiscovery.schema.encode (c.firstRoute sender)).length ≤ maxPayloadLength
  noted : (c.requestTraceroute m sender target channel context).client.traceroutes.pending.get? p.id =
    some ⟨sender, target, channel.name, context, m.now⟩

theorem asks_of_sent (h : .sent i name p ∈ (c.requestTraceroute m sender target channel context).effects) :
    name = channel.name ∧ c.Asks m sender target channel context p := by
  unfold requestTraceroute at h
  cases hacquire : c.acquireSlot m.now sender target with
  | error wait =>
    rw [hacquire] at h
    cases h
  | ok c' =>
    obtain ⟨taken, htaken, rfl⟩ := exists_of_acquireSlot hacquire
    rw [hacquire] at h
    have hsent : .sent i name p ∈
        ((c.withTraceroutes taken).send m (.traceroute sender target channel)).effects := h
    have hvalue := send_value_of_sent hsent
    rw [send_effects] at hsent
    obtain ⟨o, ho, haccepted⟩ := List.mem_flatMap.1 hsent
    obtain ⟨j, hj, -⟩ := exists_of_mem_accepted haccepted
    cases hj
    have hbuilt := Option.mem_toList.1 ho
    obtain ⟨hname, hsentAs, hid, hack, hlength⟩ := sentAs_of_built? (s := c.tracerouteSubmission sender target channel)
      hbuilt rfl rfl
    refine ⟨hname, hsentAs, hid, hack, hlength, ?_⟩
    rw [requestTraceroute, hacquire]
    dsimp only
    rw [hvalue]
    exact Ledger.get?_insert_self _ _ _

/-! ### A request waits -/

/-- How long requests wait is fixed when the client is made. -/
theorem timeout_act (c : Client) (m : Moment) (a : Action) :
    (c.act m a).client.traceroutes.timeout = c.traceroutes.timeout :=
  (c.tracerouteStep_act m a).times.2

theorem timeout_after (s : Settings) (m₀ : Moment) (actions : List (Moment × Action)) :
    (after s m₀ actions).traceroutes.timeout = s.tracerouteTimeout := by
  induction actions using List.reverseRecOn with
  | nil => rfl
  | append_singleton actions x ih =>
    rw [after, run_append_singleton, timeout_act]
    exact ih

/-- A call for a traceroute leaves the requests that wait under other IDs alone. -/
theorem pending_requestTraceroute
    (hvalue : (c.requestTraceroute m sender target channel context).value ≠ .ok (.sent id)) :
    (c.requestTraceroute m sender target channel context).client.traceroutes.pending.get? id =
      c.traceroutes.pending.get? id := by
  have hrequests := c.requests m sender target channel context
  generalize c.requestTraceroute m sender target channel context = t at hrequests hvalue ⊢
  cases hrequests with
  | limited _ => rfl
  | sent _ _ htraceroutes =>
    rw [htraceroutes]
    exact Ledger.get?_insert_of_ne (fun hid => hvalue (by rw [hid])) _ _
  | failed _ _ htraceroutes =>
    rw [htraceroutes]
    rfl

/-- A request waits on unless its answer is told or its ID is given to another one, as long as it is in time. -/
theorem pending_act {a : Action} (hwaits : c.traceroutes.pending.get? id = some record)
    (htime : m.now - record.sentAt < c.traceroutes.timeout) (hvalue : (c.act m a).value ≠ .sent id)
    (htold : ¬Effect.AnswerTold (c.act m a).effects id) :
    (c.act m a).client.traceroutes.pending.get? id = some record := by
  by_cases huses : a.UsesStores
  · cases a with
    | receive d =>
      show (c.receive m d).client.traceroutes.pending.get? id = _
      rcases c.receive_traceroutes m d with ⟨-, hsame⟩ | ⟨e, result, hevent, -, htaken⟩
      · rw [hsame, hwaits]
      · have htold' : ¬Effect.AnswerTold (c.receive m d).effects id := htold
        rw [hevent] at htold'
        have hne : id ≠ result.requestId := fun hid => htold' ⟨e, result, List.mem_singleton_self _, hid.symm⟩
        rw [htaken]
        exact (Ledger.get?_erase_of_ne hne _).trans hwaits
    | send r =>
      show (c.send m r).client.traceroutes.pending.get? id = _
      rw [traceroutes_send, hwaits]
    | requestTraceroute sender target channel context =>
      exact (pending_requestTraceroute fun hsent => hvalue (congrArg Answer.ofTraceroute hsent)).trans hwaits
    | maintain =>
      show (c.traceroutes.pending.filter _).get? id = _
      rw [Ledger.get?_filter, hwaits, Option.filter_some, if_pos (decide_eq_true htime)]
    | _ => exact huses.elim
  · have hsame := congrArg (fun stores => stores.traceroutes.pending.get? id) ((ignores_act m huses).stores c)
    exact hsame.trans hwaits

theorem pending_run {actions : List (Moment × Action)} {now : Instant}
    (hwaits : c.traceroutes.pending.get? id = some record) (hto : ∀ x ∈ actions, x.1.now ≤ now)
    (htime : now - record.sentAt < c.traceroutes.timeout) (hvalue : .sent id ∉ (c.run actions).value)
    (htold : ¬Effect.AnswerTold (c.run actions).effects id) :
    (c.run actions).client.traceroutes.pending.get? id = some record := by
  induction actions generalizing c with
  | nil => exact hwaits
  | cons x actions ih =>
    obtain ⟨m, a⟩ := x
    have hle : m.now ≤ now := hto (m, a) List.mem_cons_self
    obtain ⟨htold₁, htold₂⟩ := not_answerTold_append htold
    have hvalue₁ : (c.act m a).value ≠ .sent id := fun hsent => hvalue (List.mem_cons.2 (.inl hsent.symm))
    refine ih (pending_act hwaits ((Nat.sub_le_sub_right hle _).trans_lt htime) hvalue₁ htold₁)
      (fun x hx => hto x (List.mem_cons_of_mem _ hx)) ?_ (fun hmem => hvalue (List.mem_cons_of_mem _ hmem)) htold₂
    rwa [timeout_act]

end Client

end RadioMesh
