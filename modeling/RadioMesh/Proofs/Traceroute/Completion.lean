import RadioMesh.Proofs.Traceroute.Path

/-!
What the bookkeeping adds to a route. Whatever a step adds stands behind what was there, no node is named twice but
the placeholder, and a node never comes without its ratio. So a ratio of a completed route belongs to the node at its
place, as it did before.
-/

namespace RadioMesh

/-- The hop counts of a packet can be right. -/
def MeshPacket.CountsHops (p : MeshPacket) : Prop :=
  p.hopStart ≠ 0 ∧ p.hopLimit ≤ p.hopStart

theorem MeshPacket.countsHops_iff {p : MeshPacket} : p.CountsHops ↔ ¬(p.hopStart = 0 ∨ p.hopStart < p.hopLimit) := by
  rw [CountsHops, not_or, UInt32.not_lt]

namespace RouteDiscovery

/-! ### What a step adds -/

/-- No node of a direction is named twice, but for the placeholder. -/
def Distinct (r : RouteDiscovery) (dir : Direction) : Prop :=
  ((r.nodes dir).filter (· ≠ NodeId.broadcast.value)).Nodup

/-- A route that another one was made into by additions at the end of one direction. -/
structure Appends (dir : Direction) (r r' : RouteDiscovery) : Prop where
  nodes : r.nodes dir <+: r'.nodes dir
  snrs : r.snrs dir <+: r'.snrs dir
  distinct : r.Distinct dir → r'.Distinct dir

namespace Appends

variable {dir : Direction} {r r' r'' : RouteDiscovery}

theorem refl (dir : Direction) (r : RouteDiscovery) : Appends dir r r :=
  ⟨List.prefix_refl _, List.prefix_refl _, id⟩

theorem trans (h : Appends dir r r') (h' : Appends dir r' r'') : Appends dir r r'' :=
  ⟨h.nodes.trans h'.nodes, h.snrs.trans h'.snrs, fun hdistinct => h'.distinct (h.distinct hdistinct)⟩

/-- Additions to another direction are none to this one. -/
theorem of_extends {dir' : Direction} (h : Extends dir' r r') (hne : dir ≠ dir') : Appends dir r r' := by
  have hnodes := h.nodes dir hne
  have hsnrs := h.snrs dir hne
  refine ⟨by rw [hnodes], by rw [hsnrs], fun hdistinct => ?_⟩
  rwa [Distinct, hnodes]

theorem withLists {nodes : List UInt32} {snrs : List Int32}
    (hdistinct : r.Distinct dir → ((r.nodes dir ++ nodes).filter (· ≠ NodeId.broadcast.value)).Nodup) :
    Appends dir r (r.withLists dir (r.nodes dir ++ nodes) (r.snrs dir ++ snrs)) where
  nodes := by
    rw [nodes_withLists_self]
    exact List.prefix_append _ _
  snrs := by
    rw [snrs_withLists_self]
    exact List.prefix_append _ _
  distinct h := by
    rw [Distinct, nodes_withLists_self]
    exact hdistinct h

end Appends

variable {dir : Direction}

/-- Placeholders are the one node that may be named again. -/
theorem appends_insertUnknownHops (r : RouteDiscovery) (hopStart hopLimit : UInt32) (dir : Direction) :
    Appends dir r (r.insertUnknownHops hopStart hopLimit dir) := by
  unfold insertUnknownHops
  split
  · exact .refl dir r
  · refine .withLists fun hdistinct => ?_
    have hplaceholders (n : Nat) :
        (List.replicate n NodeId.broadcast.value).filter (· ≠ NodeId.broadcast.value) = [] := by
      rw [List.filter_replicate_of_neg (by simp)]
    rw [List.filter_append, hplaceholders, List.append_nil]
    exact hdistinct

theorem appends_addNodeIfMissing (r : RouteDiscovery) (node : NodeId) (snr : Int32) (dir : Direction) :
    Appends dir r (r.addNodeIfMissing node snr dir) := by
  unfold addNodeIfMissing
  split
  · exact .refl dir r
  · next hmissing =>
    refine .withLists fun hdistinct => ?_
    rw [List.filter_append, List.nodup_append]
    refine ⟨hdistinct, (List.nodup_singleton node.value).filter _, fun n hn n' hn' heq => ?_⟩
    have hnode : n' = node.value := List.mem_singleton.1 (List.mem_of_mem_filter hn')
    exact hmissing (hnode ▸ heq ▸ List.mem_of_mem_filter hn)

theorem appends_addGateway (r : RouteDiscovery) (gateway sender : NodeId) (rxSnr : Binary32) (dir : Direction) :
    Appends dir r (r.addGateway gateway sender rxSnr dir) := by
  unfold addGateway
  split
  · exact .refl dir r
  · exact appends_addNodeIfMissing r gateway _ dir

theorem appends_addBridge (r : RouteDiscovery) (own : NodeId) (dir : Direction) :
    Appends dir r (r.addBridge own dir) := by
  cases dir with
  | towards =>
    exact (appends_addNodeIfMissing r own 0 .towards).trans
      (.of_extends (extends_addNodeIfMissing _ own 0 .back) Direction.noConfusion)
  | back => exact appends_addNodeIfMissing r own 0 .back

theorem appends_addFinalSnr (r : RouteDiscovery) (dir : Direction) : Appends dir r (r.addFinalSnr dir) where
  nodes := by rw [addFinalSnr_nodes]
  snrs := by
    rw [addFinalSnr_snrs_self]
    exact List.prefix_append _ _
  distinct h := by rwa [Distinct, addFinalSnr_nodes]

theorem appends_hopped (r : RouteDiscovery) (received : Received) (own : NodeId) (dir : Direction) :
    Appends dir (r.heard received dir) (r.hopped received own dir) := by
  unfold hopped
  split
  · exact .refl dir _
  · exact appends_addBridge _ own dir

/-- What follows the placeholders. -/
theorem appends_complete (r : RouteDiscovery) (received : Received) (own : NodeId) (dir : Direction) :
    Appends dir (r.heard received dir) (r.complete received own dir) := by
  rw [complete_eq]
  exact (r.appends_hopped received own dir).trans (appends_addFinalSnr _ dir)

/-! ### Placeholders -/

section Placeholders
variable {r : RouteDiscovery} {received : Received}

theorem insertUnknownHops_of_countsHops {hopStart hopLimit : UInt32} (h : ¬(hopStart = 0 ∨ hopStart < hopLimit)) :
    r.insertUnknownHops hopStart hopLimit dir =
      let nodes := pad (hopStart.toNat - hopLimit.toNat) NodeId.broadcast.value (r.nodes dir)
      r.withLists dir nodes (pad nodes.length unknownSnr (r.snrs dir)) :=
  if_neg h

/-- Nodes that have no ratio get one, if the hop counts can be right. -/
theorem aligned_insertUnknownHops (h : r.Aligned dir ∨
    (r.snrs dir).length ≤ (r.nodes dir).length ∧ received.packet.CountsHops) :
    (r.insertUnknownHops received.packet.hopStart received.packet.hopLimit dir).Aligned dir := by
  rcases h with haligned | ⟨hle, hcounts⟩
  · exact (r.extends_insertUnknownHops _ _ dir).aligned haligned
  · rw [insertUnknownHops_of_countsHops (MeshPacket.countsHops_iff.1 hcounts), Aligned, nodes_withLists_self,
      snrs_withLists_self, length_pad, length_pad]
    omega

/-- And it is the one that says that nobody measured. -/
theorem getElem?_snrs_insertUnknownHops (hcounts : received.packet.CountsHops) {i : Nat}
    (hfrom : (r.snrs dir).length ≤ i) (hto : i < (r.nodes dir).length) :
    ((r.insertUnknownHops received.packet.hopStart received.packet.hopLimit dir).snrs dir)[i]? = some unknownSnr := by
  rw [insertUnknownHops_of_countsHops (MeshPacket.countsHops_iff.1 hcounts), snrs_withLists_self, length_pad, pad,
    List.getElem?_append_right hfrom, List.getElem?_replicate_of_lt]
  omega

theorem le_length_nodes_insertUnknownHops (hcounts : received.packet.CountsHops) :
    received.packet.hopStart.toNat - received.packet.hopLimit.toNat ≤
      ((r.insertUnknownHops received.packet.hopStart received.packet.hopLimit dir).nodes dir).length := by
  rw [insertUnknownHops_of_countsHops (MeshPacket.countsHops_iff.1 hcounts), nodes_withLists_self, length_pad]
  exact Nat.le_max_right _ _

/-- All that is done to a route once the placeholders are there. -/
theorem appends_insertUnknownHops_complete (r : RouteDiscovery) (received : Received) (own : NodeId)
    (dir : Direction) :
    Appends dir (r.insertUnknownHops received.packet.hopStart received.packet.hopLimit dir)
      (r.complete received own dir) :=
  (appends_addGateway _ _ _ _ dir).trans (r.appends_complete received own dir)

end Placeholders

/-! ### Completed routes -/

/-- A route that another one is completed to in one direction, when a packet comes in at a bridge. -/
structure Completed (r : RouteDiscovery) (received : Received) (own : NodeId) (dir : Direction)
    (r' : RouteDiscovery) : Prop where
  nodes : r.nodes dir <+: r'.nodes dir
  snrs : r.snrs dir <+: r'.snrs dir
  length : (r'.snrs dir).length = (r'.nodes dir).length + 1
  /-- Nodes that had no ratio have the one that says that nobody measured. -/
  unknown : ∀ i, (r.snrs dir).length ≤ i → i < (r.nodes dir).length → (r'.snrs dir)[i]? = some unknownSnr
  hops : received.packet.CountsHops →
    received.packet.hopStart.toNat - received.packet.hopLimit.toNat ≤ (r'.nodes dir).length
  gateway : received.gateway ≠ .unknown → received.gateway ≠ received.sender →
    received.gateway.value ∈ r'.nodes dir
  bridge : received.dest ≠ own → own.value ∈ r'.nodes dir
  distinct : r.Distinct dir → r'.Distinct dir
  /-- The other direction stays as it is, unless the bridge is a hop of the way there: then it is one of the way back
  as well. -/
  other : ∀ dir' ≠ dir, if dir = .towards ∧ received.dest ≠ own ∧ own.value ∉ r.nodes dir' then
      r'.nodes dir' = r.nodes dir' ++ [own.value] ∧ r'.snrs dir' = r.snrs dir' ++ [0]
    else r'.nodes dir' = r.nodes dir' ∧ r'.snrs dir' = r.snrs dir'

section Completed
variable {r : RouteDiscovery} {received : Received} {own : NodeId}

theorem mem_addGateway {gateway sender : NodeId} (hknown : gateway ≠ .unknown) (hother : gateway ≠ sender)
    (rxSnr : Binary32) : gateway.value ∈ (r.addGateway gateway sender rxSnr dir).nodes dir := by
  rw [addGateway, if_neg (not_or.2 ⟨hknown, hother⟩)]
  exact mem_addNodeIfMissing r gateway _ dir

theorem mem_addBridge (r : RouteDiscovery) (own : NodeId) (dir : Direction) :
    own.value ∈ (r.addBridge own dir).nodes dir := by
  cases dir with
  | towards => exact mem_addBridge_towards r own
  | back => exact mem_addBridge_back r own .back

/-- The bridge in the direction that is not completed. -/
theorem addBridge_other (r : RouteDiscovery) (own : NodeId) (dir : Direction) : ∀ dir' ≠ dir,
    if dir = .towards ∧ own.value ∉ r.nodes dir' then
      (r.addBridge own dir).nodes dir' = r.nodes dir' ++ [own.value] ∧
        (r.addBridge own dir).snrs dir' = r.snrs dir' ++ [0]
    else (r.addBridge own dir).nodes dir' = r.nodes dir' ∧ (r.addBridge own dir).snrs dir' = r.snrs dir' := by
  intro dir' hne
  cases dir with
  | back =>
    rw [if_neg (by simp)]
    exact ⟨(r.extends_addNodeIfMissing own 0 .back).nodes dir' hne,
      (r.extends_addNodeIfMissing own 0 .back).snrs dir' hne⟩
  | towards =>
    cases dir' with
    | towards => exact absurd rfl hne
    | back =>
      have hnodes := (r.extends_addNodeIfMissing own 0 .towards).nodes .back hne
      have hsnrs := (r.extends_addNodeIfMissing own 0 .towards).snrs .back hne
      by_cases hmem : own.value ∈ r.nodes .back
      · rw [if_neg fun h => h.2 hmem, addBridge, addNodeIfMissing, if_pos (hnodes ▸ hmem)]
        exact ⟨hnodes, hsnrs⟩
      · rw [if_pos ⟨rfl, hmem⟩, addBridge, addNodeIfMissing.eq_1 (r.addNodeIfMissing own 0 .towards),
          if_neg (hnodes.symm ▸ hmem), nodes_withLists_self, snrs_withLists_self, hnodes, hsnrs]
        exact ⟨rfl, rfl⟩

theorem complete_other (r : RouteDiscovery) (received : Received) (own : NodeId) (dir : Direction) :
    ∀ dir' ≠ dir, if dir = .towards ∧ received.dest ≠ own ∧ own.value ∉ r.nodes dir' then
      (r.complete received own dir).nodes dir' = r.nodes dir' ++ [own.value] ∧
        (r.complete received own dir).snrs dir' = r.snrs dir' ++ [0]
    else (r.complete received own dir).nodes dir' = r.nodes dir' ∧
      (r.complete received own dir).snrs dir' = r.snrs dir' := by
  intro dir' hne
  have hnodes := (r.extends_heard received dir).nodes dir' hne
  have hsnrs := (r.extends_heard received dir).snrs dir' hne
  rw [complete_eq, addFinalSnr_nodes, addFinalSnr_snrs_of_ne _ hne, hopped]
  by_cases hdest : received.dest = own
  · rw [if_neg fun h => h.2.1 hdest, if_pos hdest]
    exact ⟨hnodes, hsnrs⟩
  · have hbridge := (r.heard received dir).addBridge_other own dir dir' hne
    rw [hnodes, hsnrs] at hbridge
    rw [if_neg hdest]
    simpa only [ne_eq, hdest, not_false_eq_true, true_and] using hbridge

/-- Once the placeholders are there, no node comes without its ratio. -/
theorem aligned_hopped
    (h : (r.insertUnknownHops received.packet.hopStart received.packet.hopLimit dir).Aligned dir) :
    (r.hopped received own dir).Aligned dir := by
  have hheard : (r.heard received dir).Aligned dir := (extends_addGateway _ _ _ _ dir).aligned h
  unfold hopped
  split
  · exact hheard
  · exact (grows_addBridge _ own dir).aligned dir hheard

/-- A route with a ratio for each node, or with at most as many ratios as nodes and hop counts that can be right, is
completed so that each ratio belongs to its node. -/
theorem completed_complete (dir : Direction) (h : r.Aligned dir ∨
    (r.snrs dir).length ≤ (r.nodes dir).length ∧ received.packet.CountsHops) :
    r.Completed received own dir (r.complete received own dir) := by
  have hpadded := r.appends_insertUnknownHops received.packet.hopStart received.packet.hopLimit dir
  have hrest := r.appends_insertUnknownHops_complete received own dir
  have hafter := r.appends_complete received own dir
  have hwhole := hpadded.trans hrest
  have haligned : (r.hopped received own dir).Aligned dir := aligned_hopped (aligned_insertUnknownHops h)
  exact {
    nodes := hwhole.nodes
    snrs := hwhole.snrs
    length := by
      rw [complete_eq, addFinalSnr_nodes, addFinalSnr_snrs_self, List.length_append, haligned]
      rfl
    unknown := by
      intro i hfrom hto
      obtain ⟨-, hcounts⟩ := h.resolve_left fun ha => absurd hfrom (Nat.not_le.2 (ha ▸ hto))
      have hget := getElem?_snrs_insertUnknownHops hcounts hfrom hto
      obtain ⟨hi, -⟩ := List.getElem?_eq_some_iff.1 hget
      obtain ⟨more, hmore⟩ := hrest.snrs
      rw [← hmore, List.getElem?_append_left hi, hget]
    hops := fun hcounts => (le_length_nodes_insertUnknownHops hcounts).trans hrest.nodes.length_le
    gateway := fun hknown hother => hafter.nodes.subset (mem_addGateway hknown hother _)
    bridge := fun hdest => by
      rw [complete_eq, addFinalSnr_nodes, hopped, if_neg hdest]
      exact mem_addBridge _ own dir
    distinct := hwhole.distinct
    other := r.complete_other received own dir }

/-- A traceroute for another node that two hops relayed in silence and a gateway took up. -/
theorem completed_complete_gateway :
    let p : MeshPacket := { sender := 16, dest := 32, hopStart := 3, hopLimit := 1 }
    let received : Received := ⟨p, default, .defaultChannel, .channelKey, ⟨48⟩, .udp⟩
    let r : RouteDiscovery := { route := [64], snrTowards := [] }
    p.CountsHops ∧ r.Completed received ⟨80⟩ .towards (r.complete received ⟨80⟩ .towards) ∧
      (r.complete received ⟨80⟩ .towards).route = [64, 0xFFFFFFFF, 48, 80] ∧
      (r.complete received ⟨80⟩ .towards).snrTowards = [-128, -128, 0, 0, 0] ∧
      (r.complete received ⟨80⟩ .towards).routeBack = [80] ∧ (r.complete received ⟨80⟩ .towards).snrBack = [0] := by
  intro p received r
  have hcounts : p.CountsHops := ⟨by decide, by decide⟩
  have hcompleted : r.Completed received ⟨80⟩ .towards (r.complete received ⟨80⟩ .towards) :=
    completed_complete .towards (.inr ⟨Nat.zero_le _, hcounts⟩)
  exact ⟨hcounts, hcompleted, by decide, by decide, by decide, by decide⟩

end Completed

end RouteDiscovery

end RadioMesh
