import RadioMesh.Proofs.Client.OnAir
import RadioMesh.Proofs.Client.Payloads
import RadioMesh.Proofs.Message.RoundTrip

/-!
Which neighbors a node tells of. A list of ten is filled in order with the addresses that the test lets through. The
test knows two of the three addresses that are reserved, so the list is as it should be exactly if no place before the
end of it falls to the third.
-/

namespace RadioMesh

/-! ### First places -/

section Places
variable {α : Type}

/-- Two lists are filled alike with and without a test exactly if all that gets a place without it passes it. -/
theorem take_filter_eq_take_iff {p : α → Bool} {n : Nat} {l : List α} :
    (l.filter p).take n = l.take n ↔ ∀ x ∈ l.take n, p x = true := by
  induction l generalizing n with
  | nil => simp
  | cons x l ih =>
    cases n with
    | zero => simp
    | succ n =>
      cases hx : p x with
      | true => simp [hx, ih]
      | false =>
        refine iff_of_false (fun h => ?_) fun h => ?_
        · have hmem : x ∈ (l.filter p).take (n + 1) := by
            rw [List.filter_cons_of_neg (Bool.eq_false_iff.1 hx)] at h
            rw [h]
            exact List.mem_cons_self
          exact Bool.eq_false_iff.1 hx (List.mem_filter.1 (List.mem_of_mem_take hmem)).2
        · exact Bool.eq_false_iff.1 hx (h x List.mem_cons_self)

theorem mem_take_append_cons_iff {x : α} {n : Nat} {front rest : List α} (hx : x ∉ front) :
    x ∈ (front ++ x :: rest).take n ↔ front.length < n := by
  rw [List.take_append, List.mem_append, or_iff_right fun h => hx (List.mem_of_mem_take h)]
  cases hleft : n - front.length with
  | zero => exact iff_of_false List.not_mem_nil (Nat.not_lt.2 (Nat.le_of_sub_eq_zero hleft))
  | succ k => exact iff_of_true List.mem_cons_self (by omega)

end Places

/-! ### Addresses -/

namespace NodeId

/-- Addresses of no node of its own: that of no node, and the two broadcasts. -/
def isReserved (n : NodeId) : Bool :=
  n == unknown || n.isBroadcast

theorem isReserved_iff {n : NodeId} :
    n.isReserved = true ↔ n.value = 0 ∨ n.value = 1 ∨ n.value = 0xFFFFFFFF := by
  obtain ⟨value⟩ := n
  simp [isReserved, isBroadcast, unknown, broadcast, broadcastNoRadio, or_comm]

/-- Above the lowest two addresses one is left that is reserved. -/
theorem one_lt_value_iff {n : NodeId} : 1 < n.value ↔ n.isReserved = false ∨ n = broadcast := by
  obtain ⟨value⟩ := n
  rw [← Bool.not_eq_true, isReserved_iff]
  have hlast : (⟨value⟩ : NodeId) = broadcast ↔ value = 0xFFFFFFFF := by simp [broadcast]
  rw [hlast]
  simp only [UInt32.lt_iff_toNat_lt, ← UInt32.toNat_inj]
  have hlt := value.toNat_lt
  show 1 < value.toNat ↔ ¬(value.toNat = 0 ∨ value.toNat = 1 ∨ value.toNat = 4294967295) ∨ value.toNat = 4294967295
  omega

end NodeId

/-- A node that another one may have for a neighbor. -/
def isEligible (sender node : NodeId) : Bool :=
  node ≠ sender && !node.isReserved

theorem isEligible_iff {sender node : NodeId} :
    isEligible sender node = true ↔ node ≠ sender ∧ node.isReserved = false := by
  simp [isEligible]

/-- The test of neighbors does not look for the broadcast to every node. -/
theorem isNeighborAddress_iff {sender node : NodeId} : isNeighborAddress sender node = true ↔
    isEligible sender node = true ∨ node = .broadcast ∧ sender ≠ .broadcast := by
  have htest : isNeighborAddress sender node = true ↔ node ≠ sender ∧ 1 < node.value := by simp [isNeighborAddress]
  rw [htest, NodeId.one_lt_value_iff, isEligible_iff, and_or_left, and_comm (a := node = .broadcast)]
  refine or_congr_right ⟨fun ⟨hne, hnode⟩ => ⟨hnode ▸ hne.symm, hnode⟩, fun ⟨hne, hnode⟩ => ⟨?_, hnode⟩⟩
  rw [hnode]
  exact hne.symm

/-! ### Lists -/

/-- The first ten that the test lets through. -/
def toldNeighbors (sender : NodeId) (nodes : List NodeId) : List NodeId :=
  (nodes.filter (isNeighborAddress sender)).take maxNeighbors

/-- The first ten that are neighbors. -/
def properNeighbors (sender : NodeId) (nodes : List NodeId) : List NodeId :=
  (nodes.filter (isEligible sender)).take maxNeighbors

section Lists
variable {sender : NodeId} {nodes : List NodeId}

theorem map_neighborInfo (sender : NodeId) (nodes : List NodeId) (interval : UInt32) :
    (neighborInfo sender nodes interval).neighbors.map (fun x => NodeId.mk x.nodeId) = toldNeighbors sender nodes := by
  rw [neighborInfo, List.map_map]
  exact List.map_id' _

theorem filter_isEligible (sender : NodeId) (nodes : List NodeId) :
    (nodes.filter (isNeighborAddress sender)).filter (isEligible sender) = nodes.filter (isEligible sender) := by
  rw [List.filter_filter]
  refine List.filter_congr fun node _ => ?_
  cases heligible : isEligible sender node with
  | true => rw [Bool.true_and, isNeighborAddress_iff.2 (.inl heligible)]
  | false => rfl

theorem isEligible_broadcast (sender : NodeId) : isEligible sender .broadcast = false := by
  simp [isEligible, NodeId.isReserved, NodeId.isBroadcast]

/-- The list is as it should be unless it has the broadcast in it. -/
theorem toldNeighbors_eq_iff : toldNeighbors sender nodes = properNeighbors sender nodes ↔
    .broadcast ∉ toldNeighbors sender nodes := by
  rw [eq_comm, properNeighbors, ← filter_isEligible, toldNeighbors, take_filter_eq_take_iff]
  constructor
  · intro hall hmem
    exact Bool.false_ne_true ((isEligible_broadcast sender).symm.trans (hall _ hmem))
  · intro hnot node hnode
    rcases isNeighborAddress_iff.1 (List.mem_filter.1 (List.mem_of_mem_take hnode)).2 with heligible | ⟨rfl, -⟩
    · exact heligible
    · exact absurd hnode hnot

/-- The broadcast is among the neighbors told if fewer than ten stand in front of it. -/
theorem broadcast_mem_toldNeighbors_iff : .broadcast ∈ toldNeighbors sender nodes ↔ sender ≠ .broadcast ∧
    ∃ front rest, nodes = front ++ .broadcast :: rest ∧ .broadcast ∉ front ∧
      (front.filter (isEligible sender)).length < maxNeighbors := by
  -- In front of the first broadcast the test is right.
  have hfront : ∀ front : List NodeId, .broadcast ∉ front →
      front.filter (isNeighborAddress sender) = front.filter (isEligible sender) := by
    intro front hnot
    refine List.filter_congr fun node hnode => Bool.eq_iff_iff.2 (isNeighborAddress_iff.trans (or_iff_left ?_))
    rintro ⟨rfl, -⟩
    exact hnot hnode
  have hplace : ∀ front rest, .broadcast ∉ front → sender ≠ .broadcast →
      (.broadcast ∈ toldNeighbors sender (front ++ .broadcast :: rest) ↔
        (front.filter (isEligible sender)).length < maxNeighbors) := by
    intro front rest hnot hsender
    have hpasses : isNeighborAddress sender .broadcast = true := isNeighborAddress_iff.2 (.inr ⟨rfl, hsender⟩)
    rw [toldNeighbors, List.filter_append, List.filter_cons_of_pos hpasses, hfront front hnot]
    exact mem_take_append_cons_iff fun h => hnot (List.mem_filter.1 h).1
  constructor
  · intro hmem
    obtain ⟨hnodes, hpasses⟩ := List.mem_filter.1 (List.mem_of_mem_take hmem)
    have hsender : sender ≠ .broadcast := by
      rintro rfl
      simp [isNeighborAddress] at hpasses
    obtain ⟨front, rest, rfl, hnot⟩ := List.eq_append_cons_of_mem hnodes
    exact ⟨hsender, front, rest, rfl, hnot, (hplace front rest hnot hsender).1 hmem⟩
  · rintro ⟨hsender, front, rest, rfl, hnot, hlength⟩
    exact (hplace front rest hnot hsender).2 hlength

theorem not_isReserved_toldNeighbors_iff :
    (∀ node ∈ toldNeighbors sender nodes, node.isReserved = false) ↔ .broadcast ∉ toldNeighbors sender nodes := by
  constructor
  · intro hall hmem
    cases hall _ hmem
  · intro hnot node hnode
    rcases isNeighborAddress_iff.1 (List.mem_filter.1 (List.mem_of_mem_take hnode)).2 with heligible | ⟨rfl, -⟩
    · exact (isEligible_iff.1 heligible).2
    · exact absurd hnode hnot

/-- Without the broadcast, what is told begins the proper list. -/
theorem filter_toldNeighbors_prefix (sender : NodeId) (nodes : List NodeId) :
    (toldNeighbors sender nodes).filter (isEligible sender) <+: properNeighbors sender nodes := by
  have hbegins := (List.take_prefix maxNeighbors (nodes.filter (isNeighborAddress sender))).filter (isEligible sender)
  rw [filter_isEligible] at hbegins
  refine List.prefix_take_iff.2 ⟨hbegins, (List.length_filter_le _ _).trans ?_⟩
  exact List.length_take_le _ _

theorem of_mem_toldNeighbors {node : NodeId} (h : node ∈ toldNeighbors sender nodes) :
    node ∈ nodes ∧ node ≠ sender ∧ (node.isReserved = true → node = .broadcast) := by
  obtain ⟨hnode, hpasses⟩ := List.mem_filter.1 (List.mem_of_mem_take h)
  refine ⟨hnode, ?_⟩
  rcases isNeighborAddress_iff.1 hpasses with heligible | ⟨rfl, hsender⟩
  · obtain ⟨hne, hnot⟩ := isEligible_iff.1 heligible
    exact ⟨hne, fun hreserved => absurd hreserved (Bool.eq_false_iff.1 hnot)⟩
  · exact ⟨hsender.symm, fun _ => rfl⟩

end Lists

/-! ### Packets -/

/-- Requests to tell of neighbors, by itself or as an answer. -/
inductive Request.TellsNeighbors (sender : NodeId) (nodes : List NodeId) (interval : UInt32) : Request → Prop
  | unasked : TellsNeighbors sender nodes interval (.neighborInfo sender nodes interval)
  | asked (dest : NodeId) (channel : ChannelDef) (protection : Protection) (requestId : UInt32) :
    TellsNeighbors sender nodes interval
      (.neighborInfoResponse sender dest nodes interval channel protection requestId)

theorem NeighborInfo.decode?_encode_neighborInfo (sender : NodeId) (nodes : List NodeId) (interval : UInt32) :
    NeighborInfo.schema.decode? (NeighborInfo.schema.encode (neighborInfo sender nodes interval)) =
      some (neighborInfo sender nodes interval) := by
  have hlength : (NeighborInfo.schema.encode (neighborInfo sender nodes interval)).length < 2 ^ 64 :=
    (Client.length_encode_neighborInfo_le sender nodes interval).trans_lt (by decide)
  have hsettled : (neighborInfo sender nodes interval).settled = neighborInfo sender nodes interval := by
    rw [settled, neighborInfo, List.map_map]
    rfl
  rw [(NeighborInfo.roundTrips.readsBack (by decide) _).2 hlength, hsettled]

/-- What is read from a packet of either kind is the list that it was made of. -/
theorem Request.TellsNeighbors.conveys {sender : NodeId} {nodes : List NodeId} {interval : UInt32} {r : Request}
    (h : r.TellsNeighbors sender nodes interval) {c : Client} {m : Moment} {i : Nat} {name : String} {p : MeshPacket}
    (hsent : .sent i name p ∈ (c.send m r).effects) : ∃ data, c.Conveys (r.channelOr c.primary) data p name ∧
      data.port = .neighborinfo ∧
      NeighborInfo.schema.decode? data.payload = some (RadioMesh.neighborInfo sender nodes interval) := by
  obtain ⟨s, hcompose, -, hcarries⟩ := Client.send_sent hsent
  refine ⟨s.data, Client.compose_channel hcompose ▸ hcarries.conveys, ?_⟩
  cases h with
  | unasked =>
    cases hcompose
    exact ⟨rfl, NeighborInfo.decode?_encode_neighborInfo sender nodes interval⟩
  | asked dest channel protection requestId =>
    cases hcompose
    exact ⟨rfl, NeighborInfo.decode?_encode_neighborInfo sender nodes interval⟩

/-- A node tells of the first ten neighbors that are proper, exactly unless the broadcast to every node comes before ten
of them: then the broadcast takes a place in the list. What is told is what is read from the packets. -/
theorem neighbors_proper_iff (sender : NodeId) (nodes : List NodeId) (interval : UInt32) :
    let info := neighborInfo sender nodes interval
    let told := info.neighbors.map fun x => NodeId.mk x.nodeId
    (told = properNeighbors sender nodes ↔ ¬(sender ≠ .broadcast ∧
      ∃ front rest, nodes = front ++ .broadcast :: rest ∧ .broadcast ∉ front ∧
        (front.filter (isEligible sender)).length < maxNeighbors)) ∧
    (told = properNeighbors sender nodes ↔ ∀ node ∈ told, node.isReserved = false) ∧
    told.filter (isEligible sender) <+: properNeighbors sender nodes ∧
    (∀ node ∈ told, node ∈ nodes ∧ node ≠ sender ∧ (node.isReserved = true → node = .broadcast)) ∧
    ∀ r : Request, r.TellsNeighbors sender nodes interval → ∀ c m i name p,
      .sent i name p ∈ (Client.send c m r).effects → ∃ data, c.Conveys (r.channelOr c.primary) data p name ∧
        data.port = .neighborinfo ∧ NeighborInfo.schema.decode? data.payload = some info := by
  intro info told
  have htold : told = toldNeighbors sender nodes := map_neighborInfo sender nodes interval
  rw [htold]
  refine ⟨?_, ?_, filter_toldNeighbors_prefix sender nodes, fun node => of_mem_toldNeighbors,
    fun r htells c m i name p => htells.conveys⟩
  · rw [toldNeighbors_eq_iff, broadcast_mem_toldNeighbors_iff]
  · rw [toldNeighbors_eq_iff, not_isReserved_toldNeighbors_iff]

/-- Two neighbors among addresses of other kinds, told by a packet. -/
theorem neighbors_proper_two :
    let nodes : List NodeId := [⟨257⟩, .unknown, ⟨256⟩, .broadcastNoRadio, ⟨258⟩]
    let m : Moment := ⟨0, 0, fun _ => 0⟩
    let primary : ChannelDef := .unencrypted "clear"
    let c := Client.after (.ofNode ⟨256⟩) m [(m, .addLink { name := "udp" }), (m, .setPrimary primary)]
    let p : MeshPacket :=
      { sender := 256, dest := 1, channel := 121, id := 1, hopLimit := 3, priority := 64, hopStart := 3
        body := some (.encrypted [8, 71, 18, 19, 8, 128, 2, 16, 128, 2, 24, 132, 7, 34, 3, 8, 129, 2, 34, 3, 8, 130, 2,
          72, 1]) }
    (neighborInfo ⟨256⟩ nodes 900).neighbors.map (fun x => NodeId.mk x.nodeId) = properNeighbors ⟨256⟩ nodes ∧
      properNeighbors ⟨256⟩ nodes = [⟨257⟩, ⟨258⟩] ∧
      .sent 0 "clear" p ∈ (c.send m (.neighborInfo ⟨256⟩ nodes 900)).effects ∧
      ∃ data, c.Conveys primary data p "clear" ∧ data.port = .neighborinfo ∧
        NeighborInfo.schema.decode? data.payload = some (neighborInfo ⟨256⟩ nodes 900) := by
  intro nodes m primary c p
  obtain ⟨-, hproper, -, -, hconveys⟩ := neighbors_proper_iff ⟨256⟩ nodes 900
  have hsent : .sent 0 "clear" p ∈ (c.send m (.neighborInfo ⟨256⟩ nodes 900)).effects := by decide +kernel
  exact ⟨hproper.2 (by decide), by decide, hsent, hconveys _ .unasked c m 0 "clear" p hsent⟩

/-- A list with nothing but the broadcast in it, and one of ten neighbors with the broadcast in front, of which the
last one gets no place. -/
theorem neighbors_tell_broadcast :
    let crowd : List NodeId := .broadcast :: (List.range 10).map fun i => ⟨UInt32.ofNat (512 + i)⟩
    (neighborInfo ⟨256⟩ [.broadcast] 900).neighbors = [{ nodeId := 0xFFFFFFFF }] ∧
      NodeId.broadcast.isReserved = true ∧ properNeighbors ⟨256⟩ [.broadcast] = [] ∧
      (neighborInfo ⟨256⟩ crowd 900).neighbors.map (fun x => NodeId.mk x.nodeId) ≠ properNeighbors ⟨256⟩ crowd ∧
      ⟨521⟩ ∈ properNeighbors ⟨256⟩ crowd ∧
      ⟨521⟩ ∉ (neighborInfo ⟨256⟩ crowd 900).neighbors.map fun x => NodeId.mk x.nodeId := by
  decide

end RadioMesh
