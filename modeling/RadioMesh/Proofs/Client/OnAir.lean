import RadioMesh.Proofs.Client.ChannelDelivery
import RadioMesh.Proofs.Client.Reception
import RadioMesh.Proofs.Client.Stores
import RadioMesh.Proofs.PacketId

/-!
What every packet on the links is like, whatever the owner calls and whatever comes in. A step keeps the hop
limit below the most that a radio grants and sends only packets of this kind; a run therefore does, too.
-/

namespace RadioMesh

/-! ### Data records -/

/-- Data that radios take, marked as the sender's consent and the request for a response say. -/
structure Data.Fit (d : Data) : Prop where
  payload : d.payload.length ≤ 232
  bitfield : ∃ bits, d.bitfield = some bits ∧ bits.toNat.testBit 0 = true ∧
    (bits.toNat.testBit 1 = true ↔ d.wantResponse = true)

theorem Submission.fit_data {s : Submission} (h : s.payload.length ≤ maxPayloadLength) : s.data.Fit where
  payload := h
  bitfield := by
    refine ⟨_, rfl, ?_⟩
    show (RadioMesh.bitfield s.info.wantResponse).toNat.testBit 0 = true ∧
      ((RadioMesh.bitfield s.info.wantResponse).toNat.testBit 1 = true ↔ s.info.wantResponse = true)
    cases s.info.wantResponse with
    | false => decide
    | true => decide

/-! ### Packets -/

/-- The channel that a request is about; without one it is about the primary channel. -/
def Request.channelOr (primary : ChannelDef) : Request → ChannelDef
  | .bytes channel _ _ => channel
  | .message _ _ channel _ _ _ => channel
  | .reaction _ _ channel _ _ _ => channel
  | .waypoint _ _ channel _ => channel
  | .deleteWaypoint _ _ channel _ => channel
  | .telemetryResponse _ _ channel _ _ => channel
  | .hostMetricsResponse _ _ channel _ _ => channel
  | .neighborInfoResponse _ _ _ _ channel _ _ => channel
  | .traceroute _ _ channel => channel
  | _ => primary

theorem Received.AnsweredBy.channelOr {r : Received} {q : Request} (h : r.AnsweredBy q) (primary : ChannelDef) :
    q.channelOr primary = primary ∨ q.channelOr primary = r.channel := by
  cases h with
  | ack => exact .inl rfl
  | route _ => exact .inr rfl
  | telemetry => exact .inr rfl
  | hostMetrics => exact .inr rfl
  | neighbors _ _ => exact .inr rfl

namespace Client

/-- A packet as the links get it: for a managed node, with an ID, few enough hops, one more of them granted
at the start if the bridge sends for another node, and fit data in one of the forms. -/
structure OnAir (c : Client) (channel : ChannelDef) (name : String) (p : MeshPacket) : Prop where
  managed : c.isManaged ⟨p.sender⟩ = true
  id : p.id ≠ 0
  hopLimit : p.hopLimit.toNat ≤ 6
  hopStart : p.hopStart.toNat = p.hopLimit.toNat + if NodeId.mk p.sender = c.nodeId then 0 else 1
  hopStart_le : p.hopStart.toNat ≤ 7
  publicKey : p.pkiEncrypted = true → p.publicKey.length = 32
  conveys : ∃ data : Data, data.Fit ∧ c.Conveys channel data p name

/-- The channels on which an action can make a client send. -/
def SendsOn (c : Client) (channel : ChannelDef) : Action → Prop
  | .send r => channel = r.channelOr c.primary
  | .requestTraceroute _ _ requested _ => channel = requested
  | .receive d => channel = c.primary ∨ ∃ r, c.open? d = some r ∧ channel = r.channel
  | _ => False

variable {c c' : Client} {m : Moment} {i : Nat} {name : String} {p : MeshPacket}

theorem compose_channel {r : Request} {s : Submission} (h : c.compose m r = .ok s) :
    s.channel = r.channelOr c.primary := by
  cases r with
  | nodeInfo sender dest longName shortName wantResponse publicKey =>
    obtain ⟨-, -, hs⟩ := exists_of_bind_eq_ok h
    cases hs
    rfl
  | mapReport sender longName shortName place onlineNodes =>
    rw [compose] at h
    split at h
    · cases h
    · cases h
      rfl
  | hostMetrics sender dest =>
    obtain ⟨host, -, hs⟩ := exists_of_bind_eq_ok h
    cases hs
    rfl
  | hostMetricsResponse sender dest channel protection requestId =>
    obtain ⟨host, -, hs⟩ := exists_of_bind_eq_ok h
    cases hs
    rfl
  | _ =>
    cases h
    rfl

theorem Conveys.length_publicKey {channel : ChannelDef} {data : Data} (h : c.Conveys channel data p name)
    (hpki : p.pkiEncrypted = true) : p.publicKey.length = 32 := by
  cases h with
  | clear _ hsealed _ =>
    rw [hsealed] at hpki
    cases hpki
  | keyed _ hsealed _ _ =>
    rw [hsealed] at hpki
    cases hpki
  | sealed _ _ _ _ _ hown _ _ => exact Direct.length_of_publicKey hown

theorem Carries.toNat_hopStart {s : Submission} {id : UInt32} (h : c.Carries s id name p)
    (hlimit : c.hopLimit.toNat ≤ 6) :
    p.hopStart.toNat = p.hopLimit.toNat + if NodeId.mk p.sender = c.nodeId then 0 else 1 := by
  have hsender : NodeId.mk p.sender = s.info.sender := by rw [h.sender]
  rw [h.hopStart, h.hopLimit, hsender]
  split
  · rfl
  · -- The limit is at most 6, so that one more hop does not wrap around.
    rw [UInt32.toNat_add]
    show (c.hopLimit.toNat + 1) % 4294967296 = _
    omega

theorem send_onAir {r : Request} (hlimit : c.hopLimit.toNat ≤ 6) (h : .sent i name p ∈ (c.send m r).effects) :
    c.OnAir (r.channelOr c.primary) name p := by
  obtain ⟨s, hcompose, hcheck, hcarries⟩ := send_sent h
  obtain ⟨hmanaged, hpayload⟩ := check_eq_ok_iff.1 hcheck
  have hhopLimit : p.hopLimit.toNat ≤ 6 := by
    rw [hcarries.hopLimit]
    exact hlimit
  have hhopStart := hcarries.toNat_hopStart hlimit
  refine
    { managed := ?_
      id := ?_
      hopLimit := hhopLimit
      hopStart := hhopStart
      hopStart_le := ?_
      publicKey := hcarries.conveys.length_publicKey
      conveys := ?_ }
  · rw [hcarries.sender]
    exact hmanaged
  · rw [hcarries.id]
    exact PacketIds.next_ne_zero _ _
  · split at hhopStart
    · omega
    · omega
  · rw [← compose_channel hcompose]
    exact ⟨s.data, Submission.fit_data hpayload, hcarries.conveys⟩

theorem SameSetup.onAir (h : c.SameSetup c') {channel : ChannelDef} (hair : c'.OnAir channel name p) :
    c.OnAir channel name p where
  managed := by
    have hmanaged := hair.managed
    rw [isManaged, h.directory] at hmanaged
    exact hmanaged
  id := hair.id
  hopLimit := hair.hopLimit
  hopStart := by rw [hair.hopStart, h.nodeId]
  hopStart_le := hair.hopStart_le
  publicKey := hair.publicKey
  conveys := by
    obtain ⟨data, hfit, hconveys⟩ := hair.conveys
    exact ⟨data, hfit, h.conveys hconveys⟩

theorem SameSetup.send_onAir (h : c.SameSetup c') {r : Request} (hlimit : c.hopLimit.toNat ≤ 6)
    (hsent : .sent i name p ∈ (c'.send m r).effects) : c.OnAir (r.channelOr c.primary) name p := by
  rw [← h.primary]
  rw [← h.hopLimit] at hlimit
  exact h.onAir (Client.send_onAir hlimit hsent)

end Client

/-! ### Steps about channels and links -/

/-- What tells of channels and links alone. -/
def Effect.IsNotice : Effect → Prop
  | .sent _ _ _ => False
  | .event e => e.envelope? = none
  | .joined _ _ => True
  | .stopped _ => True

/-- A step that puts no packet on the links and tells of none. -/
def Step.Silent {α : Type} (s : Step α) : Prop :=
  ∀ e ∈ s.effects, e.IsNotice

namespace Step.Silent

variable {α β : Type} {s : Step α}

theorem still (c : Client) (value : α) : (Step.still c value).Silent :=
  fun _ hmem => nomatch hmem

theorem andThen (h : s.Silent) {next : Client → α → Step β} (hnext : ∀ c value, (next c value).Silent) :
    (s.andThen next).Silent := by
  intro e hmem
  rcases List.mem_append.1 hmem with hfirst | hsecond
  · exact h e hfirst
  · exact hnext _ _ e hsecond

theorem map (h : s.Silent) (f : α → β) : (s.map f).Silent := h

end Step.Silent

namespace Client

theorem silent_addChannel (c : Client) (d : ChannelDef) : (c.addChannel d).Silent := by
  intro e hmem
  rw [addChannel] at hmem
  split at hmem
  · cases hmem
  · rcases List.mem_cons.1 hmem with rfl | hjoined
    · exact rfl
    · obtain ⟨j, -, rfl⟩ := List.mem_map.1 hjoined
      exact trivial

theorem silent_addChannelText (c : Client) (name : String) (key : Option String) :
    (c.addChannelText name key).Silent := by
  unfold addChannelText
  split
  · exact .still _ _
  · exact (silent_addChannel c _).andThen fun _ _ => .still _ _

theorem silent_hear (c : Client) (name : String) (r : LinkReport) : (c.hear name r).Silent := by
  have hup : (c.comeUp name).Silent := by
    intro e hmem
    rw [comeUp] at hmem
    dsimp only at hmem
    split at hmem
    · cases List.mem_singleton.1 hmem
      exact rfl
    · cases hmem
  cases r with
  | started => exact hup
  | restarted => exact hup
  | lost =>
    intro e hmem
    change _ ∈ (c.goDown _).effects at hmem
    rw [goDown] at hmem
    split at hmem
    · cases List.mem_singleton.1 hmem
      exact rfl
    · cases hmem

theorem silent_report (c : Client) (i : Nat) (r : LinkReport) : (c.report i r).Silent := by
  unfold report
  split
  · exact .still _ _
  · exact silent_hear _ _ _

theorem silent_startLink (c : Client) (i : Nat) : (c.startLink i).Silent := by
  have hjoins : ∀ e ∈ c.channels.keys.map fun name => Effect.joined i name, e.IsNotice := by
    intro e hmem
    obtain ⟨_, -, rfl⟩ := List.mem_map.1 hmem
    exact trivial
  unfold startLink
  dsimp only
  split
  · exact .still _ _
  · split
    · exact hjoins
    · refine Step.Silent.andThen (s := ⟨c, _, ()⟩) hjoins fun _ _ => ?_
      exact (silent_report _ _ _).andThen fun _ _ => .still _ _

theorem silent_startLinks (c : Client) (is : List Nat) : (c.startLinks is).Silent := by
  induction is generalizing c with
  | nil => exact .still _ _
  | cons i is ih =>
    exact (silent_startLink c i).andThen fun _ _ => (ih _).andThen fun _ _ => .still _ _

theorem silent_connect (c : Client) (now : Instant) : (c.connect now).Silent := by
  unfold connect
  split
  · exact .still _ _
  · refine (silent_startLinks c _).andThen fun _ _ => ?_
    split
    · exact .still _ _
    · exact .still _ _

theorem silent_disconnect (c : Client) : c.disconnect.Silent := by
  intro e hmem
  obtain ⟨_, -, rfl⟩ := List.mem_map.1 hmem
  exact trivial

/-- Actions that are not about what a client remembers are about channels, links and settings. -/
theorem silent_act (c : Client) (m : Moment) {a : Action} (h : ¬a.UsesStores) : (c.act m a).Silent := by
  cases a with
  | receive d => exact absurd trivial h
  | send r => exact absurd trivial h
  | requestTraceroute sender target channel context => exact absurd trivial h
  | maintain => exact absurd trivial h
  | addChannel d => exact (silent_addChannel c d).map _
  | addChannelText name key => exact (silent_addChannelText c name key).map _
  | setPrimary d => exact ((silent_addChannel c d).andThen fun _ _ => .still _ _).map _
  | report i r => exact (silent_report c i r).map _
  | connect => exact (silent_connect c m.now).map _
  | disconnect => exact (silent_disconnect c).map _
  | _ => exact .still _ _

/-! ### Steps and runs -/

variable {c : Client} {m : Moment} {i : Nat} {name : String} {p : MeshPacket}

/-- What an action puts on the links was sent for a request, by a client with the same settings. -/
theorem act_sent {a : Action} (h : .sent i name p ∈ (c.act m a).effects) :
    ∃ r c' m', c.SameSetup c' ∧ c.SendsOn (r.channelOr c.primary) a ∧ .sent i name p ∈ (c'.send m' r).effects := by
  cases a with
  | send r => exact ⟨r, c, m, ⟨rfl, rfl, rfl, rfl⟩, rfl, h⟩
  | requestTraceroute sender target channel context =>
    obtain ⟨c', hsetup, hsent⟩ := requestTraceroute_sent h
    exact ⟨.traceroute sender target channel, c', m, hsetup, rfl, hsent⟩
  | receive d =>
    obtain ⟨r, q, c', m', hopen, hanswer, -, -, -, hsetup, hsent⟩ := receive_sent h
    refine ⟨q, c', m', hsetup, ?_, hsent⟩
    exact (hanswer.channelOr c.primary).imp_right fun hchannel => ⟨r, hopen, hchannel⟩
  | maintain => cases h
  | _ => exact (silent_act c m id _ h).elim

theorem act_onAir {a : Action} (hlimit : c.hopLimit.toNat ≤ 6) (h : .sent i name p ∈ (c.act m a).effects) :
    ∃ channel, c.SendsOn channel a ∧ c.OnAir channel name p := by
  obtain ⟨r, c', m', hsetup, hchannel, hsent⟩ := act_sent h
  exact ⟨_, hchannel, hsetup.send_onAir hlimit hsent⟩

theorem toNat_clampHopLimit_le (n : UInt32) : (clampHopLimit n).toNat ≤ 6 := by
  have hle : clampHopLimit n ≤ 6 := by
    rw [clampHopLimit]
    exact Std.min_le_right
  exact UInt32.le_iff_toNat_le.1 hle

theorem hopLimit_after (s : Settings) (m₀ : Moment) (actions : List (Moment × Action)) :
    (after s m₀ actions).hopLimit.toNat ≤ 6 := by
  induction actions using List.reverseRecOn with
  | nil => exact toNat_clampHopLimit_le s.hopLimit
  | append_singleton actions x ih =>
    rw [after, run_append_singleton, (act_frame _ _ _).hopLimit]
    unfold hopLimitAfter
    split
    · exact toNat_clampHopLimit_le _
    · exact ih

theorem run_onAir (s : Settings) (m₀ : Moment) (actions : List (Moment × Action)) (i : Nat) (name : String)
    (p : MeshPacket) (h : .sent i name p ∈ ((ofSettings s m₀).run actions).effects) :
    ∃ earlier m a later channel, actions = earlier ++ (m, a) :: later ∧ (after s m₀ earlier).nodeId = s.nodeId ∧
      (after s m₀ earlier).SendsOn channel a ∧ (after s m₀ earlier).OnAir channel name p := by
  obtain ⟨earlier, m, a, later, hactions, hsent⟩ := exists_act_of_mem_run h
  obtain ⟨channel, hchannel, hair⟩ := act_onAir (hopLimit_after s m₀ earlier) hsent
  exact ⟨earlier, m, a, later, channel, hactions, nodeId_after s m₀ earlier, hchannel, hair⟩

/-- A greeting on the default channel for a node that is not the bridge, with more hops asked for than there
are. -/
theorem run_onAir_greeting :
    let m : Moment := ⟨0, 0, fun _ => 0⟩
    let start := ofSettings (.ofNode ⟨16⟩) m
    let earlier : List (Moment × Action) := [(m, .addLink { name := "udp" }), (m, .setHopLimit 0xFFFFFFFF),
      (m, .setDirectory { Directory.ofNode ⟨16⟩ with isManaged := fun _ => true })]
    let actions := earlier ++ [(m, .send (.message ⟨17⟩ .broadcast .defaultChannel "hello" 0 false))]
    ∃ p, .sent 0 "LongFast" p ∈ (start.run actions).effects ∧
      ∃ before m' a later channel, actions = before ++ (m', a) :: later ∧
        (after (.ofNode ⟨16⟩) m before).nodeId = ⟨16⟩ ∧ (after (.ofNode ⟨16⟩) m before).SendsOn channel a ∧
        (after (.ofNode ⟨16⟩) m before).OnAir channel "LongFast" p := by
  intro m start earlier actions
  have hkey : IsChannelKey ChannelDef.defaultChannel.key := .inr (.inl rfl)
  obtain ⟨p, heffects, -, -⟩ := exists_send (c := (start.run earlier).client) (m := m)
    (r := .message ⟨17⟩ .broadcast .defaultChannel "hello" 0 false) rfl rfl hkey rfl
  have hsent : .sent 0 "LongFast" p ∈ (start.run actions).effects := by
    show _ ∈ ((start.run earlier).client.send m _).effects ++ []
    rw [heffects]
    exact List.mem_singleton_self _
  exact ⟨p, hsent, run_onAir (.ofNode ⟨16⟩) m actions 0 "LongFast" p hsent⟩

end Client

end RadioMesh
