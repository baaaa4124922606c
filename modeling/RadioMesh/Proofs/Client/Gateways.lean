import RadioMesh.Proofs.Client.Reception
import RadioMesh.Proofs.Traceroute.Placeholders

/-!
The node that a packet was heard through, where its link names none. A relay marks a packet with the low byte of its
address, in a field that has room for a whole one. The mark is compared with the sender's as a byte and told as the
whole field, so the gateway is what the mark stands for exactly if the field has no more in it than the byte.
-/

namespace RadioMesh

open scoped List

/-! ### Marks -/

theorem NodeId.lowByte_eq_iff (n n' : NodeId) : n.lowByte = n'.lowByte ↔ n.value &&& 0xFF = n'.value &&& 0xFF := by
  have hmask : ∀ x : UInt32, (x &&& 0xFF).toNat = x.toNat % 2 ^ 8 := fun x =>
    (UInt32.toNat_and x 0xFF).trans (Nat.and_two_pow_sub_one_eq_mod x.toNat 8)
  rw [lowByte, lowByte, ← UInt8.toNat_inj, ← UInt32.toNat_inj, UInt32.toNat_toUInt8, UInt32.toNat_toUInt8, hmask,
    hmask]

/-- The address of a low byte is the whole address if there is nothing above the byte. -/
theorem NodeId.eq_lowByte_iff {n : NodeId} : n = ⟨n.lowByte.toUInt32⟩ ↔ n.value < 256 := by
  obtain ⟨value⟩ := n
  rw [NodeId.mk.injEq, lowByte, ← UInt32.toNat_inj, UInt8.toNat_toUInt32, UInt32.toNat_toUInt8,
    UInt32.lt_iff_toNat_lt]
  show value.toNat = value.toNat % 256 ↔ value.toNat < 256
  omega

namespace MeshPacket

/-- A packet that took no hop and has its sender's mark. -/
def Unrelayed (p : MeshPacket) : Prop :=
  p.hopStart = p.hopLimit ∧ (NodeId.mk p.relayNode).lowByte = (NodeId.mk p.sender).lowByte

instance (p : MeshPacket) : Decidable p.Unrelayed :=
  inferInstanceAs (Decidable (_ ∧ _))

/-- What a packet tells by itself of the node it was heard through: the sender, or a relay's low byte. -/
def heardThrough (p : MeshPacket) : NodeId :=
  if p.Unrelayed then ⟨p.sender⟩ else ⟨(NodeId.mk p.relayNode).lowByte.toUInt32⟩

/-- Addresses that a packet can tell of: the sender's, and those with a low byte only. -/
def Tells (p : MeshPacket) (n : NodeId) : Prop :=
  n = ⟨p.sender⟩ ∨ n.value < 256

instance (p : MeshPacket) (n : NodeId) : Decidable (p.Tells n) :=
  inferInstanceAs (Decidable (_ ∨ _))

end MeshPacket

/-! ### Gateways -/

namespace Delivery

variable {d : Delivery}

theorem via_of_no_gateway (h : d.gateway = none) :
    d.via = if d.packet.Unrelayed then ⟨d.packet.sender⟩ else ⟨d.packet.relayNode⟩ := by
  have hunrelayed : (d.packet.hopStart = d.packet.hopLimit ∧ d.packet.relayNode &&& 0xFF = d.packet.sender &&& 0xFF) ↔
      d.packet.Unrelayed :=
    and_congr_right' (NodeId.lowByte_eq_iff ⟨d.packet.relayNode⟩ ⟨d.packet.sender⟩).symm
  rw [via, h]
  exact if_congr hunrelayed rfl rfl

theorem via_of_unrelayed (h : d.gateway = none) (hunrelayed : d.packet.Unrelayed) : d.via = ⟨d.packet.sender⟩ := by
  rw [via_of_no_gateway h, if_pos hunrelayed]

theorem via_of_relayed (h : d.gateway = none) (hrelayed : ¬d.packet.Unrelayed) : d.via = ⟨d.packet.relayNode⟩ := by
  rw [via_of_no_gateway h, if_neg hrelayed]

theorem via_eq_heardThrough_iff (h : d.gateway = none) :
    d.via = d.packet.heardThrough ↔ d.packet.Unrelayed ∨ d.packet.relayNode < 256 := by
  rw [MeshPacket.heardThrough]
  by_cases hunrelayed : d.packet.Unrelayed
  · rw [via_of_unrelayed h hunrelayed, if_pos hunrelayed]
    exact iff_of_true rfl (.inl hunrelayed)
  · rw [via_of_relayed h hunrelayed, if_neg hunrelayed, or_iff_right hunrelayed]
    exact NodeId.eq_lowByte_iff

theorem via_eq_sender_iff (h : d.gateway = none) :
    d.via = ⟨d.packet.sender⟩ ↔ d.packet.Unrelayed ∨ d.packet.relayNode = d.packet.sender := by
  by_cases hunrelayed : d.packet.Unrelayed
  · exact iff_of_true (via_of_unrelayed h hunrelayed) (.inl hunrelayed)
  · rw [via_of_relayed h hunrelayed, or_iff_right hunrelayed, NodeId.mk.injEq]

theorem tells_via_iff (h : d.gateway = none) :
    d.packet.Tells d.via ↔
      d.packet.Unrelayed ∨ d.packet.relayNode = d.packet.sender ∨ d.packet.relayNode < 256 := by
  rw [MeshPacket.Tells, via_eq_sender_iff h]
  by_cases hunrelayed : d.packet.Unrelayed
  · exact iff_of_true (.inl (.inl hunrelayed)) (.inl hunrelayed)
  · rw [via_of_relayed h hunrelayed, or_assoc]

end Delivery

/-! ### Where gateways are told -/

theorem Client.gateway_of_open? {c : Client} {d : Delivery} {r : Received} (h : c.open? d = some r) :
    r.gateway = d.via := by
  cases opens_of_open? h with
  | clear _ => rfl
  | direct _ _ _ => rfl
  | keyed _ _ _ => rfl

theorem Client.via_of_event {c : Client} {m : Moment} {d : Delivery} {event : MeshEvent} {e : Envelope}
    (hevent : .event event ∈ (c.receive m d).effects) (henvelope : event.envelope? = some e) : e.via = d.via := by
  obtain ⟨r, hopen, htold⟩ := receive_event hevent
  cases henvelope.symm.trans htold
  exact gateway_of_open? hopen

namespace RouteDiscovery

theorem nodes_addGateway (r : RouteDiscovery) (gateway sender : NodeId) (rxSnr : Binary32) (dir : Direction) :
    (r.addGateway gateway sender rxSnr dir).nodes dir = r.nodes dir ++
      if gateway = .unknown ∨ gateway = sender ∨ gateway.value ∈ r.nodes dir then [] else [gateway.value] := by
  rw [addGateway]
  by_cases hskipped : gateway = .unknown ∨ gateway = sender
  · rw [if_pos hskipped, if_pos (or_assoc.1 (.inl hskipped)), List.append_nil]
  · rw [if_neg hskipped, addNodeIfMissing]
    by_cases hmem : gateway.value ∈ r.nodes dir
    · rw [if_pos hmem, if_pos (.inr (.inr hmem)), List.append_nil]
    · rw [if_neg hmem, if_neg fun hany => (or_assoc.2 hany).elim hskipped hmem, nodes_withLists_self]

theorem mem_of_mem_complete {r : RouteDiscovery} {received : Received} {own : NodeId} {dir dir' : Direction}
    {n : UInt32} (h : n ∈ (r.complete received own dir).nodes dir') :
    n ∈ r.nodes dir' ∨ n = NodeId.broadcast.value ∨ n = own.value ∨ n = received.gateway.value := by
  by_cases hdir : dir' = dir
  · subst hdir
    obtain ⟨more, hmore, hnodes⟩ := r.exists_nodes_complete received own dir'
    rw [hnodes] at h
    rcases List.mem_append.1 h with hold | hadded
    · rcases List.mem_append.1 hold with hkept | hplaceholder
      · exact .inl hkept
      · exact .inr (.inl (List.eq_of_mem_replicate hplaceholder))
    · rcases List.mem_pair.1 (hmore.subset hadded) with hgateway | hown
      · exact .inr (.inr (.inr hgateway))
      · exact .inr (.inr (.inl hown))
  · obtain ⟨more, hmore, hnodes⟩ := r.exists_nodes_complete_other received own hdir
    rw [hnodes] at h
    rcases List.mem_append.1 h with hkept | hown
    · exact .inl hkept
    · exact .inr (.inr (.inl (List.mem_singleton.1 (hmore.subset hown))))

end RouteDiscovery

/-- The gateway of a packet whose link names none is what the packet tells of it exactly if the packet comes from the
sender or has no more than a byte for its relay's mark. Events and routes tell that gateway. -/
theorem gateway_known_iff {d : Delivery} (h : d.gateway = none) :
    let p := d.packet
    (d.via = p.heardThrough ↔ p.Unrelayed ∨ p.relayNode < 256) ∧
    (d.via = ⟨p.sender⟩ ↔ p.Unrelayed ∨ p.relayNode = p.sender) ∧
    (p.Tells d.via ↔ p.Unrelayed ∨ p.relayNode = p.sender ∨ p.relayNode < 256) ∧
    (∀ c m event e, .event event ∈ (Client.receive c m d).effects → event.envelope? = some e → e.via = d.via) ∧
    ∀ c r, Client.open? c d = some r → ∀ (route : RouteDiscovery) dir,
      ((route.addGateway r.gateway r.sender p.rxSnr dir).nodes dir = route.nodes dir ++
        if d.via = .unknown ∨ d.via = ⟨p.sender⟩ ∨ d.via.value ∈ route.nodes dir then [] else [d.via.value]) ∧
      ∀ own dir', ∀ n ∈ (route.complete r own dir).nodes dir',
        n ∈ route.nodes dir' ∨ n = NodeId.broadcast.value ∨ n = own.value ∨ n = d.via.value := by
  intro p
  refine ⟨Delivery.via_eq_heardThrough_iff h, Delivery.via_eq_sender_iff h, Delivery.tells_via_iff h,
    fun c m event e => Client.via_of_event, fun c r hopen route dir => ?_⟩
  have hgateway : r.gateway = d.via := Client.gateway_of_open? hopen
  have hsender : r.sender = ⟨p.sender⟩ := by rw [Received.sender, (Client.opens_of_open? hopen).packet]
  rw [← hgateway, ← hsender]
  exact ⟨route.nodes_addGateway r.gateway r.sender p.rxSnr dir, fun own dir' n => RouteDiscovery.mem_of_mem_complete⟩

/-- A text that one relay passed on under its mark. -/
theorem gateway_known_relayed :
    let data : Data := { portNumber := Port.textMessage.number, payload := [104, 105] }
    let p : MeshPacket :=
      { sender := 16, dest := 256, id := 7, hopStart := 3, hopLimit := 2, relayNode := 120, body := some (.decoded data) }
    let d : Delivery := ⟨p, some "clear", none, .udp⟩
    let m : Moment := ⟨0, 0, fun _ => 0⟩
    let c : Client := .ofSettings (.ofNode ⟨256⟩) m
    let e : Envelope := ⟨"clear", none, ⟨16⟩, ⟨256⟩, d.via, 0, 7, false, false, false, false⟩
    d.gateway = none ∧ (c.receive m d).effects = [.event (.message e "hi" 0)] ∧ e.via = p.heardThrough ∧
      p.Tells e.via ∧ e.via ≠ ⟨p.sender⟩ := by
  intro data p d m c e
  have hevent : (c.receive m d).effects = [.event (.message e "hi" 0)] := by decide +kernel
  obtain ⟨hheard, hsender, htells, hvia, -⟩ := gateway_known_iff (d := d) rfl
  have hunrelayed : ¬p.Unrelayed := by decide
  have htold : e.via = d.via := hvia c m _ e (hevent ▸ List.mem_singleton_self _) rfl
  rw [htold]
  refine ⟨rfl, hevent, hheard.2 (.inr (by decide)), htells.2 (.inr (.inr (by decide))), fun h => ?_⟩
  rcases hsender.1 h with hdirect | hsame
  · exact hunrelayed hdirect
  · exact absurd hsame (by decide)

/-- A relay that marks a packet with more than a byte is told as a node by its whole mark, in the event and on the
route. -/
theorem gateway_invented :
    let data : Data := { portNumber := Port.textMessage.number, payload := [104, 105] }
    let p : MeshPacket :=
      { sender := 16, dest := 256, id := 7, hopStart := 3, hopLimit := 2, relayNode := 0x12345678
        body := some (.decoded data) }
    let d : Delivery := ⟨p, some "clear", none, .udp⟩
    let m : Moment := ⟨0, 0, fun _ => 0⟩
    let c : Client := .ofSettings (.ofNode ⟨256⟩) m
    let e : Envelope := ⟨"clear", none, ⟨16⟩, ⟨256⟩, ⟨0x12345678⟩, 0, 7, false, false, false, false⟩
    let r : RouteDiscovery := {}
    d.gateway = none ∧ d.via = ⟨0x12345678⟩ ∧ ¬p.Tells d.via ∧ p.heardThrough = ⟨0x78⟩ ∧
      (c.receive m d).effects = [.event (.message e "hi" 0)] ∧
      (r.addGateway d.via ⟨p.sender⟩ p.rxSnr .towards).route = [0x12345678] := by
  decide +kernel

end RadioMesh
