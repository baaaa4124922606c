import RadioMesh.Proofs.Client.Handling

/-!
The way that answers take. An answer is sealed if the packet that asked was sealed or came in under the name of
sealed packets; otherwise it travels under the key and the name of the channel that made the packet readable,
whatever channel is the primary one. Acknowledgements of traceroutes are sent apart from the answers.
-/

namespace RadioMesh

namespace Received

variable {r : Received} {q : Request}

theorem replyProtection_eq_direct_iff :
    r.replyProtection = .direct ↔ r.protection = .direct ∨ r.channel.name = ChannelDef.directName := by
  rw [replyProtection]
  split
  · next h => exact iff_of_true rfl h
  · next h => exact iff_of_false Protection.noConfusion h

theorem replyProtection_ne_none : r.replyProtection ≠ .none := by
  rw [replyProtection]
  split
  · exact Protection.noConfusion
  · exact Protection.noConfusion

/-- All that answers a packet but an acknowledgement takes the packet's channel and its protection. -/
theorem AnsweredBy.way (h : r.AnsweredBy q) (hack : q ≠ .ack r.dest r.sender r.packet.id) {c : Client} {m : Moment}
    {s : Submission} (hcompose : c.compose m q = .ok s) :
    s.channel = r.channel ∧ s.info.protection = r.replyProtection := by
  cases h with
  | ack => exact absurd rfl hack
  | hostMetrics =>
    obtain ⟨host, -, hs⟩ := exists_of_bind_eq_ok hcompose
    cases hs
    exact ⟨rfl, rfl⟩
  | _ =>
    cases hcompose
    exact ⟨rfl, rfl⟩

end Received

namespace Client

variable {c : Client} {m : Moment} {d : Delivery} {r : Received} {o : Outgoing}

/-- A packet that goes back the way another one came, with its ID. -/
structure Retraces (c : Client) (r : Received) (o : Outgoing) : Prop where
  data : ∃ data, c.Conveys r.channel data o.packet o.channel ∧ data.requestId = r.packet.id
  covered : ∃ covered, o.packet.body = some (.encrypted covered)
  sealed_iff : o.packet.pkiEncrypted = true ↔ r.protection = .direct ∨ r.channel.name = ChannelDef.directName

/-- The acknowledgement of a traceroute that asks for it. -/
structure AcksTraceroute (c : Client) (m : Moment) (r : Received) (o : Outgoing) : Prop where
  wantAck : r.packet.wantAck = true
  meaning : ∃ route, Meaning.ofData (r.envelope m.epoch) m.epoch r.data = .tracerouteRequest route
  built : ∃ c' m', c.SameSetup c' ∧ c'.built? m' (.ack r.dest r.sender r.packet.id) = some o

/-! ### Forms -/

theorem form_of_protect {s : Submission} {p : MeshPacket} {extra : UInt32} (hclear : p.pkiEncrypted = false)
    (h : c.protect s p extra = .ok o) :
    (o.packet.pkiEncrypted = true ↔ s.info.protection = .direct) ∧
      (s.info.protection ≠ .none → ∃ covered, o.packet.body = some (.encrypted covered)) := by
  unfold protect at h
  cases hprotection : s.info.protection with
  | none =>
    rw [hprotection] at h
    cases h
    exact ⟨by simp [hclear], fun hne => absurd rfl hne⟩
  | channelKey =>
    rw [hprotection] at h
    obtain ⟨covered, -, ho⟩ := exists_of_bind_eq_ok h
    cases ho
    exact ⟨by simp [hclear], fun _ => ⟨covered, rfl⟩⟩
  | direct =>
    rw [hprotection] at h
    dsimp only at h
    split at h
    · cases h
    · obtain ⟨_, -, h⟩ := exists_of_bind_eq_ok h
      obtain ⟨_, -, h⟩ := exists_of_bind_eq_ok h
      obtain ⟨_, -, h⟩ := exists_of_bind_eq_ok h
      obtain ⟨covered, -, ho⟩ := exists_of_bind_eq_ok h
      cases ho
      exact ⟨by simp, fun _ => ⟨covered, rfl⟩⟩

theorem form_of_pack {s : Submission} (h : (c.pack m s).2 = .ok o) :
    (o.packet.pkiEncrypted = true ↔ s.info.protection = .direct) ∧
      (s.info.protection ≠ .none → ∃ covered, o.packet.body = some (.encrypted covered)) := by
  have hcheck := (carries_of_pack h).1
  rw [pack, hcheck] at h
  exact form_of_protect rfl h

theorem retraces_of_built? {q : Request} (hanswer : r.AnsweredBy q) (hack : q ≠ .ack r.dest r.sender r.packet.id)
    (hbuilt : c.built? m q = some o) : c.Retraces r o := by
  obtain ⟨s, hcompose, hpack⟩ := exists_of_built? hbuilt
  obtain ⟨hchannel, hprotection⟩ := hanswer.way hack hcompose
  obtain ⟨hsealed, hcovered⟩ := form_of_pack hpack
  have hconveys := (carries_of_pack hpack).2.conveys
  rw [hchannel] at hconveys
  exact
    { data := ⟨s.data, hconveys, (hanswer.answers hcompose).requestId⟩
      covered := hcovered (hprotection ▸ Received.replyProtection_ne_none)
      sealed_iff := by rw [hsealed, hprotection, Received.replyProtection_eq_direct_iff] }

theorem SameSetup.retraces {c' : Client} (h : c.SameSetup c') (hback : c'.Retraces r o) : c.Retraces r o := by
  obtain ⟨data, hconveys, hid⟩ := hback.data
  exact { hback with data := ⟨data, h.conveys hconveys, hid⟩ }

/-! ### Reactions -/

/-- Only a traceroute that asks for it is acknowledged. -/
theorem asks_of_ack_mem {sender dest : NodeId} {id : UInt32} (h : .ack sender dest id ∈ (c.react m r).2.requests) :
    r.packet.wantAck = true ∧
      ∃ route, Meaning.ofData (r.envelope m.epoch) m.epoch r.data = .tracerouteRequest route := by
  have hanswers := answersWith_of_mem_react h
  generalize Meaning.ofData (r.envelope m.epoch) m.epoch r.data = meaning at hanswers
  cases hanswers with
  | ack route hack => exact ⟨hack, route, rfl⟩

/-- What is built for a delivery goes back the way the delivery came, acknowledgements apart. -/
theorem retraces_of_mem (ho : o ∈ c.builtFor m d) :
    ∃ r, c.open? d = some r ∧ (c.AcksTraceroute m r o ∨ c.Retraces r o) := by
  rcases c.receive_handled m d with ⟨-, hnone⟩ | ⟨r, hopen, -, -, hbuilt⟩
  · simp [hnone] at ho
  refine ⟨r, hopen, ?_⟩
  have hreacts := reacts (c.enter m.now d.packet).2 m r
  have hstate := (c.sameSetup_enter m.now d.packet).trans hreacts.sameSetup
  have hasks : .ack r.dest r.sender r.packet.id ∈ ((c.enter m.now d.packet).2.react m r).2.requests → _ :=
    asks_of_ack_mem
  rw [hbuilt] at ho
  generalize (c.enter m.now d.packet).2.react m r = reaction at ho hreacts hstate hasks
  obtain ⟨q, hq, c', m', hsetup, hbuilt⟩ := exists_of_mem_built ho
  by_cases hack : q = .ack r.dest r.sender r.packet.id
  · subst hack
    obtain ⟨hwant, hmeaning⟩ := hasks hq
    exact .inl ⟨hwant, hmeaning, c', m', hstate.trans hsetup, hbuilt⟩
  · cases hreacts with
    | answers _ _ _ hanswers =>
      exact .inr ((hstate.trans hsetup).retraces (retraces_of_built? (hanswers q hq) hack hbuilt))
    | _ => cases hq

theorem mem_builtFor_of_sent {i : Nat} {name : String} {p : MeshPacket}
    (h : .sent i name p ∈ (c.receive m d).effects) : ⟨name, p⟩ ∈ c.builtFor m d := by
  rcases c.receive_effects m d with ⟨-, events, -, heffects⟩ | ⟨-, heffects⟩
  · rw [heffects] at h
    obtain ⟨event, -, hevent⟩ := List.mem_map.1 h
    cases hevent
  · rw [heffects] at h
    obtain ⟨o, ho, haccepted⟩ := List.mem_flatMap.1 h
    obtain ⟨j, hsent, -⟩ := exists_of_mem_accepted haccepted
    cases hsent
    exact ho

/-- What goes out on a delivery was built for it, and all that is built for it but the acknowledgement of a
traceroute goes back the way the delivery came. -/
theorem answers_retrace (c : Client) (m : Moment) (d : Delivery) :
    (∀ i name p, .sent i name p ∈ (c.receive m d).effects → ⟨name, p⟩ ∈ c.builtFor m d) ∧
      ∀ o ∈ c.builtFor m d, ∃ r, c.open? d = some r ∧ (c.AcksTraceroute m r o ∨ c.Retraces r o) :=
  ⟨fun _ _ _ => mem_builtFor_of_sent, fun _ => retraces_of_mem⟩

/-- A traceroute that came in on a joined channel is answered there, and not on the primary one. -/
theorem answers_retrace_joined :
    let m : Moment := ⟨0, 0, fun _ => 0⟩
    let p : MeshPacket :=
      { sender := 16, dest := 256, id := 5, body := some (.decoded { portNumber := Port.traceroute.number }) }
    let d : Delivery := ⟨p, some "clear", none, .udp⟩
    let c := after (.ofNode ⟨256⟩) m [(m, .addLink { name := "udp" }), (m, .addChannel (.unencrypted "clear"))]
    ∃ r o, c.open? d = some r ∧ c.builtFor m d = [o] ∧ c.Retraces r o ∧ o.channel = "clear" ∧
      c.primary.name = "LongFast" := by
  intro m p d c
  have hnames : (c.builtFor m d).map (·.channel) = ["clear"] := by decide +kernel
  obtain ⟨o, hbuilt, hname⟩ := List.map_eq_singleton_iff.1 hnames
  obtain ⟨-, hway⟩ := answers_retrace c m d
  obtain ⟨r, hopen, hack | hback⟩ := hway o (by simp [hbuilt])
  · have hwant := hack.wantAck
    cases hopen
    cases hwant
  · exact ⟨r, o, hopen, hbuilt, hback, hname, rfl⟩

/-- The acknowledgement of a traceroute goes out on the primary channel though the traceroute came in on another
one, and what came in unsealed under the name of sealed packets is answered sealed. -/
theorem answers_stray :
    let m : Moment := ⟨0, 0, fun _ => 0⟩
    let data : Data := { portNumber := Port.traceroute.number }
    let p : MeshPacket := { sender := 16, dest := 256, id := 5, wantAck := true, body := some (.decoded data) }
    let c := after (.ofNode ⟨256⟩) m [(m, .addLink { name := "udp" }), (m, .addChannel (.unencrypted "clear"))]
    let known : Directory :=
      { Directory.ofNode ⟨256⟩ with
        publicKey := fun _ => some (Text.Base64.encode (Cipher.Curve25519.publicKey (List.replicate 32 0x11)))
        privateKey := fun _ => some (Text.Base64.encode (List.replicate 32 0x22)) }
    let c' := after (.ofNode ⟨256⟩) m [(m, .addLink { name := "udp" }), (m, .setDirectory known)]
    (∃ r, c.open? ⟨p, some "clear", none, .udp⟩ = some r ∧ r.protection = .none ∧ r.channel.name = "clear" ∧
      ∃ o ∈ c.builtFor m ⟨p, some "clear", none, .udp⟩, o.channel = "LongFast") ∧
    ∃ r, c'.open? ⟨p, some "PKI", none, .udp⟩ = some r ∧ r.protection = .none ∧
      ∃ o ∈ c'.builtFor m ⟨p, some "PKI", none, .udp⟩, o.packet.pkiEncrypted = true := by
  intro m data p c known c'
  refine ⟨⟨_, rfl, rfl, rfl, ?_⟩, _, rfl, rfl, ?_⟩
  · decide +kernel
  · decide +kernel

end Client

end RadioMesh
