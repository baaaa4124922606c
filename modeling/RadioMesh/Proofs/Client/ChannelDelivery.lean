import RadioMesh.Proofs.Client.Channels
import RadioMesh.Proofs.Client.Duplicates
import RadioMesh.Proofs.Client.Outgoing
import RadioMesh.Proofs.Client.Told

/-!
From one client to another over a channel. What a client sends under the key of a channel, a client that
joined the channel hears as the one event that it tells. The first half is about the sender, who covers the
data and marks the packet with the channel's hash; the second about the receiver, who tries that channel
first and reads with its key what was covered.
-/

namespace RadioMesh

/-! ### The sender -/

/-- A packet that a submission went out as under the channel's key. -/
structure Submission.SentAs (s : Submission) (p : MeshPacket) : Prop where
  sender : p.sender = s.info.sender.value
  dest : p.dest = s.info.dest.value
  channel : p.channel = s.channel.hash.toUInt32
  body : ∃ covered, p.body = some (.encrypted covered) ∧
    applyKey s.channel.key covered p.id p.sender = .ok (Data.schema.encode s.data)

namespace Client

theorem exists_protect {c : Client} {s : Submission} {p : MeshPacket} (hkey : IsChannelKey s.channel.key)
    (hprotection : s.info.protection = .channelKey) (hsender : p.sender = s.info.sender.value)
    (hdest : p.dest = s.info.dest.value) (extra : UInt32) :
    ∃ q, c.protect s p extra = .ok ⟨s.channel.name, q⟩ ∧ s.SentAs q := by
  obtain ⟨covered, hcovered, hopened⟩ := exists_applyKey hkey (Data.schema.encode s.data) p.id p.sender
  refine ⟨{ p with channel := s.channel.hash.toUInt32, body := some (.encrypted covered) }, ?_, ?_⟩
  · rw [protect, hprotection]
    dsimp only
    rw [hcovered]
    rfl
  · exact ⟨hsender, hdest, rfl, covered, rfl, hopened⟩

theorem exists_send {c : Client} {m : Moment} {r : Request} {s : Submission} (hcompose : c.compose m r = .ok s)
    (hcheck : c.check s = .ok ()) (hkey : IsChannelKey s.channel.key)
    (hprotection : s.info.protection = .channelKey) :
    ∃ q, (c.send m r).effects = accepted c.links ⟨s.channel.name, q⟩ ∧
      (c.send m r).value = (fanOut c.links).map (fun () => q.id) ∧ s.SentAs q := by
  obtain ⟨q, hprotect, hsent⟩ := exists_protect (c := c) (p := c.header m.epoch s (c.packetIds.next m.words).1)
    hkey hprotection rfl rfl (m.words 2)
  have hbuilt := built?_of_protect hcompose hcheck hprotect
  exact ⟨q, send_effects_of_built? hbuilt, send_value hbuilt, hsent⟩

end Client

/-! ### The receiver -/

/-- What is received when the key of a channel opens a delivery. -/
def Delivery.keyed (d : Delivery) (data : Data) (channel : ChannelDef) : Received :=
  ⟨d.packet, data, channel, .channelKey, d.via, d.source⟩

namespace Client

/-- A delivery under the name of a channel that the client joined, or without a name at a client that has no
other channel. -/
def Hears (c : Client) (d : Delivery) (channel : ChannelDef) : Prop :=
  (d.channel = some channel.name ∧ c.channel? channel.name = some channel) ∨
    (d.channel = none ∧ c.candidates = [channel])

variable {c : Client} {d : Delivery} {s : Submission}

theorem exists_candidates_eq (c : Client) : ∃ others, c.candidates = c.channelList ++ others := by
  rw [candidates]
  split
  · exact ⟨[], (List.append_nil _).symm⟩
  · exact ⟨_, rfl⟩

theorem Hears.exists_ranked_eq (h : c.Hears d s.channel) (hnamed : ChannelDef.Named c.channels)
    (hsent : s.SentAs d.packet) : ∃ rest, ranked d.packet d.channel c.candidates = s.channel :: rest := by
  rcases h with ⟨hname, hjoined⟩ | ⟨-, honly⟩
  · obtain ⟨others, hcandidates⟩ := c.exists_candidates_eq
    rw [hcandidates]
    refine exists_ranked_eq_cons ?_ ?_ fun other hother hrank => ?_
    · exact List.mem_map_of_mem (NameMap.mem_entries_of_get? hjoined)
    · rw [rank, if_pos hname.symm, if_pos hsent.channel.symm]
    · -- A channel of rank 0 has the name of the delivery, which is joined once.
      have hsame : some other.name = d.channel := by
        by_contra hother
        rw [rank, if_neg hother] at hrank
        omega
      rw [hname] at hsame
      exact hnamed.eq_of_name hjoined hother (Option.some.inj hsame)
  · rw [honly, ranked_singleton]
    exact ⟨[], rfl⟩

theorem readWith?_of_sentAs {p : MeshPacket} {covered : Bytes}
    (hopened : applyKey s.channel.key covered p.id p.sender = .ok (Data.schema.encode s.data))
    (hport : s.info.port ≠ .unknown) (hlength : s.payload.length ≤ maxPayloadLength) :
    readWith? p covered s.channel = some (s.data, s.channel) := by
  rw [readWith?, hopened]
  dsimp only
  rw [Submission.read_encode_data hport hlength]

/-- Keys of nodes do not open the packet. -/
def NotDirect (c : Client) (d : Delivery) : Prop :=
  ∀ covered data, d.packet.body = some (.encrypted covered) → c.mayBeDirect d = true →
    c.openDirect d.packet covered ≠ .ok data

/-- What goes to all nodes is sealed for none. -/
theorem notDirect_of_isBroadcast (c : Client) (h : (NodeId.mk d.packet.dest).isBroadcast = true) : c.NotDirect d :=
  fun _ _ _ hmay => by
    simp only [mayBeDirect, h, Bool.not_true, Bool.and_false, Bool.false_and] at hmay
    cases hmay

theorem open?_of_not_direct {covered : Bytes} (hbody : d.packet.body = some (.encrypted covered))
    (hdirect : c.NotDirect d) :
    c.open? d = (c.openWithChannels? d.packet covered d.channel).map fun (data, channel) => d.keyed data channel := by
  have hnone : (if c.mayBeDirect d = true then (c.openDirect d.packet covered).toOption else none) = none := by
    split
    · next hmay =>
      cases hopen : c.openDirect d.packet covered with
      | error e => rfl
      | ok data => exact absurd hopen (hdirect covered data hbody hmay)
    · rfl
  rw [open?, hbody]
  dsimp only
  rw [hnone]
  rfl

theorem open?_of_hears (h : c.Hears d s.channel) (hnamed : ChannelDef.Named c.channels)
    (hsent : s.SentAs d.packet) (hport : s.info.port ≠ .unknown) (hlength : s.payload.length ≤ maxPayloadLength)
    (hdirect : c.NotDirect d) :
    c.open? d = some ⟨d.packet, s.data, s.channel, .channelKey, d.via, d.source⟩ := by
  obtain ⟨covered, hbody, hopened⟩ := hsent.body
  obtain ⟨rest, hranked⟩ := h.exists_ranked_eq hnamed hsent
  have hkeys : c.openWithChannels? d.packet covered d.channel = some (s.data, s.channel) := by
    rw [openWithChannels?, hranked, List.findSome?_cons, readWith?_of_sentAs hopened hport hlength]
  rw [open?_of_not_direct hbody hdirect, hkeys]
  rfl

theorem receive_effects_of_event {m : Moment} {r : Received} {event : MeshEvent}
    (hnew : c.seen.isDuplicate m.now ⟨d.packet.sender⟩ d.packet.id = false)
    (hmanaged : c.isManaged ⟨d.packet.sender⟩ = false) (hopen : c.open? d = some r)
    (hmeaning : Meaning.ofData (r.envelope m.epoch) m.epoch r.data = .event event) :
    (c.receive m d).effects = [.event event] := by
  have henter : (c.enter m.now d.packet).1 = true := (enter_fst c m.now d.packet).2 ⟨hnew, hmanaged⟩
  have hopen' : (c.enter m.now d.packet).2.open? d = some r := hopen
  have hreact : (c.enter m.now d.packet).2.react m r = ((c.enter m.now d.packet).2, .event event) := by
    rw [react, hmeaning]
  rw [receive_of_enter henter hopen', hreact]
  rfl

/-! ### From one to the other -/

theorem channel_delivery (sending : Client) (m : Moment) (r : Request) (t : Told)
    (htold : sending.told? m.now r = some t) (hkey : IsChannelKey t.channel.key)
    (hmanaged : sending.isManaged t.sender = true) (hlength : t.payload.length ≤ maxPayloadLength) :
    ∃ p : MeshPacket,
      (sending.send m r).effects = accepted sending.links ⟨t.channel.name, p⟩ ∧
      (sending.send m r).value = (fanOut sending.links).map (fun () => p.id) ∧
      p.sender = t.sender.value ∧ p.dest = t.dest.value ∧
      ∀ (s : Settings) (m₀ : Moment) (actions : List (Moment × Action)) (m' : Moment) (d : Delivery),
        let hearing := after s m₀ actions
        d.packet = p → hearing.Hears d t.channel → hearing.isManaged t.sender = false →
        hearing.seen.isDuplicate m'.now t.sender p.id = false → hearing.NotDirect d →
        ∃ e : Envelope, (hearing.receive m' d).effects = [.event (t.event e m'.epoch)] ∧
          e.channel = t.channel.name ∧ e.channelKey = t.channel.keyText? ∧ e.sender = t.sender ∧
          e.dest = t.dest ∧ e.packetId = p.id := by
  obtain ⟨s, hcompose, htells⟩ := exists_tells htold
  have hpayload : s.payload.length ≤ maxPayloadLength := by
    rw [htells.payload]
    exact hlength
  have hcheck : sending.check s = .ok () :=
    check_eq_ok_iff.2 ⟨by rw [htells.sender]; exact hmanaged, hpayload⟩
  obtain ⟨p, heffects, hvalue, hsent⟩ :=
    exists_send hcompose hcheck (by rw [htells.channel]; exact hkey) htells.protection
  have hsender : NodeId.mk p.sender = t.sender := by rw [hsent.sender, htells.sender]
  have hdest : NodeId.mk p.dest = t.dest := by rw [hsent.dest, htells.dest]
  refine ⟨p, ?_, hvalue, ?_, ?_, ?_⟩
  · rw [heffects, htells.channel]
  · rw [← hsender]
  · rw [← hdest]
  intro s' m₀ actions m' d hearing hd hhears hunmanaged hnew hdirect
  subst hd
  rw [← hsender] at hunmanaged hnew
  rw [← htells.channel] at hhears
  have hopen := open?_of_hears hhears (channels_named_after s' m₀ actions) hsent htells.port hpayload hdirect
  have hmax : maxPayloadLength = 232 := rfl
  have hmeaning := htells.meaning (by omega)
    (Received.envelope ⟨d.packet, s.data, s.channel, .channelKey, d.via, d.source⟩ m'.epoch) m'.epoch
  refine ⟨_, receive_effects_of_event hnew hunmanaged hopen hmeaning, ?_, ?_, hsender, hdest, rfl⟩
  · rw [← htells.channel]
    rfl
  · rw [← htells.channel]
    rfl

/-- A greeting to all on the default channel. -/
theorem channel_delivery_greeting :
    let m : Moment := ⟨0, 0, fun _ => 0⟩
    let sending := (ofSettings (.ofNode ⟨16⟩) m).addLink { name := "udp" }
    let hearing := after (.ofNode ⟨17⟩) m [(m, .addChannel .defaultChannel)]
    ∃ p e, (sending.send m (.message ⟨16⟩ .broadcast .defaultChannel "hello" 0 false)).effects =
        [.sent 0 "LongFast" p] ∧
      (hearing.receive m ⟨p, some "LongFast", none, .udp⟩).effects = [.event (.message e "hello" 0)] ∧
      e.sender = ⟨16⟩ := by
  intro m sending hearing
  obtain ⟨p, heffects, -, -, hdest, hheard⟩ := channel_delivery sending m
    (.message ⟨16⟩ .broadcast .defaultChannel "hello" 0 false)
    (.message ⟨16⟩ .broadcast .defaultChannel "hello" 0) rfl (.inr (.inl rfl)) rfl (by decide)
  have hjoined : hearing.Hears ⟨p, some "LongFast", none, .udp⟩ .defaultChannel := .inl ⟨rfl, rfl⟩
  have hnew : hearing.seen.isDuplicate m.now ⟨16⟩ p.id = false := Bool.and_false _
  have hdirect : hearing.NotDirect ⟨p, some "LongFast", none, .udp⟩ := fun _ _ _ hmay => by
    have hbroadcast : (NodeId.mk p.dest).isBroadcast = true := by rw [hdest]; rfl
    simp only [mayBeDirect, hbroadcast, Bool.not_true, Bool.and_false, Bool.false_and] at hmay
    cases hmay
  obtain ⟨e, hevent, -, -, hsender, -, -⟩ := hheard (.ofNode ⟨17⟩) m _ m _ rfl hjoined rfl hnew hdirect
  exact ⟨p, e, heffects, hevent, hsender⟩

end Client

end RadioMesh
