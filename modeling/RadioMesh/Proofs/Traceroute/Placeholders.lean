import RadioMesh.Proofs.Traceroute.Completion

/-!
How far one packet makes a route grow. Its hop counts are any two words, and there are as many placeholders as they
tell of hops that the route lacks. Those stay within what a radio grants only if the counts do. Besides them a
completed direction gets at most the gateway and the bridge, in that order.
-/

namespace RadioMesh.RouteDiscovery

open scoped List

/-! ### How many are missing -/

/-- Hops that the hop counts tell of and a route does not. Counts that cannot be right tell of none. -/
def missingHops (r : RouteDiscovery) (hopStart hopLimit : UInt32) (dir : Direction) : Nat :=
  hopStart.toNat - hopLimit.toNat - (r.nodes dir).length

/-- Nodes without a ratio, the placeholders among them. -/
def missingSnrs (r : RouteDiscovery) (hopStart hopLimit : UInt32) (dir : Direction) : Nat :=
  if hopStart = 0 ∨ hopStart < hopLimit then 0
  else (r.nodes dir).length + r.missingHops hopStart hopLimit dir - (r.snrs dir).length

/-- Placeholders and unknown ratios at the end of one direction. -/
def withPlaceholders (r : RouteDiscovery) (dir : Direction) (hops snrs : Nat) : RouteDiscovery :=
  r.withLists dir (r.nodes dir ++ List.replicate hops NodeId.broadcast.value)
    (r.snrs dir ++ List.replicate snrs unknownSnr)

section Counts
variable {r : RouteDiscovery} {dir : Direction} {hopStart hopLimit : UInt32}

theorem missingHops_le_iff {granted : Nat} :
    r.missingHops hopStart hopLimit dir ≤ granted ↔
      hopStart.toNat ≤ hopLimit.toNat + (r.nodes dir).length + granted := by
  rw [missingHops]
  omega

theorem missingSnrs_le : r.missingSnrs hopStart hopLimit dir ≤
    (r.nodes dir).length - (r.snrs dir).length + r.missingHops hopStart hopLimit dir := by
  unfold missingSnrs
  split <;> omega

theorem nodes_withPlaceholders (r : RouteDiscovery) (dir : Direction) (hops snrs : Nat) :
    (r.withPlaceholders dir hops snrs).nodes dir =
      r.nodes dir ++ List.replicate hops NodeId.broadcast.value :=
  nodes_withLists_self ..

/-- The lists tell how many were added. -/
theorem withPlaceholders_hops_inj {hops hops' snrs snrs' : Nat}
    (h : r.withPlaceholders dir hops snrs = r.withPlaceholders dir hops' snrs') : hops = hops' := by
  have hlength := congrArg (fun r' => (r'.nodes dir).length) h
  simpa only [nodes_withPlaceholders, List.length_append, List.length_replicate, Nat.add_left_cancel_iff] using hlength

theorem insertUnknownHops_eq (r : RouteDiscovery) (hopStart hopLimit : UInt32) (dir : Direction) :
    r.insertUnknownHops hopStart hopLimit dir =
      r.withPlaceholders dir (r.missingHops hopStart hopLimit dir) (r.missingSnrs hopStart hopLimit dir) := by
  by_cases hcounts : hopStart = 0 ∨ hopStart < hopLimit
  · have hnone : r.missingHops hopStart hopLimit dir = 0 := by
      rcases hcounts with rfl | hlt
      · rw [missingHops, UInt32.toNat_zero, Nat.zero_sub, Nat.zero_sub]
      · rw [missingHops, Nat.sub_eq_zero_of_le (UInt32.lt_iff_toNat_lt.1 hlt).le, Nat.zero_sub]
    rw [insertUnknownHops, if_pos hcounts, hnone, missingSnrs, if_pos hcounts, withPlaceholders, List.replicate_zero,
      List.replicate_zero, List.append_nil, List.append_nil]
    cases dir <;> rfl
  · rw [insertUnknownHops_of_countsHops hcounts, missingSnrs, if_neg hcounts]
    simp only [pad, List.length_append, List.length_replicate]
    rfl

end Counts

/-! ### What a completed direction gets besides -/

/-- The direction that is completed. -/
theorem exists_nodes_complete (r : RouteDiscovery) (received : Received) (own : NodeId) (dir : Direction) :
    ∃ more, more <+ [received.gateway.value, own.value] ∧ (r.complete received own dir).nodes dir =
      r.nodes dir ++ List.replicate (r.missingHops received.packet.hopStart received.packet.hopLimit dir)
        NodeId.broadcast.value ++ more := by
  obtain ⟨gateway, hgateway, hheard⟩ := exists_nodes_addGateway
    (r.insertUnknownHops received.packet.hopStart received.packet.hopLimit dir) received.gateway received.sender
    received.packet.rxSnr dir
  obtain ⟨bridge, hbridge, hhopped⟩ := r.exists_nodes_hopped received own dir dir
  refine ⟨gateway ++ bridge, hgateway.append hbridge, ?_⟩
  rw [complete_eq, addFinalSnr_nodes, hhopped, heard, hheard, insertUnknownHops_eq, nodes_withPlaceholders,
    List.append_assoc]

/-- The other one. -/
theorem exists_nodes_complete_other (r : RouteDiscovery) (received : Received) (own : NodeId)
    {dir dir' : Direction} (hne : dir' ≠ dir) :
    ∃ more, more <+ [own.value] ∧ (r.complete received own dir).nodes dir' = r.nodes dir' ++ more := by
  rw [complete_eq, addFinalSnr_nodes, ← (r.extends_heard received dir).nodes dir' hne]
  exact exists_nodes_hopped r received own dir dir'

/-- One packet adds at most as many placeholders as a radio grants hops, and at most as many unknown ratios besides
those of nodes that had none, exactly if its counts tell of at most that many hops more than there are nodes. The
completed direction gets them and at most the gateway and the bridge, and the other one at most the bridge. -/
theorem placeholders_granted_iff (r : RouteDiscovery) (received : Received) (own : NodeId) (dir : Direction) :
    let p := received.packet
    let granted := Client.maxHops.toNat
    ((∃ hops ≤ granted, ∃ snrs ≤ (r.nodes dir).length - (r.snrs dir).length + granted,
        r.insertUnknownHops p.hopStart p.hopLimit dir = r.withPlaceholders dir hops snrs) ↔
      p.hopStart.toNat ≤ p.hopLimit.toNat + (r.nodes dir).length + granted) ∧
    (∃ more, more <+ [received.gateway.value, own.value] ∧ (r.complete received own dir).nodes dir =
      r.nodes dir ++ List.replicate (r.missingHops p.hopStart p.hopLimit dir) NodeId.broadcast.value ++ more) ∧
    ∀ dir' ≠ dir, ∃ more, more <+ [own.value] ∧
      (r.complete received own dir).nodes dir' = r.nodes dir' ++ more := by
  intro p granted
  refine ⟨⟨?_, fun hcounts => ?_⟩, r.exists_nodes_complete received own dir,
    fun dir' hne => r.exists_nodes_complete_other received own hne⟩
  · rintro ⟨hops, hhops, snrs, -, hpadded⟩
    rw [insertUnknownHops_eq] at hpadded
    exact missingHops_le_iff.1 (withPlaceholders_hops_inj hpadded ▸ hhops)
  · have hhops := missingHops_le_iff.2 hcounts
    exact ⟨_, hhops, _, missingSnrs_le.trans (Nat.add_le_add_left hhops _), insertUnknownHops_eq ..⟩

/-- As far as a packet may make a route grow: seven silent hops, the gateway and the bridge. -/
theorem placeholders_granted_seven :
    let p : MeshPacket := { sender := 16, dest := 32, hopStart := 7 }
    let received : Received := ⟨p, default, .defaultChannel, .channelKey, ⟨48⟩, .udp⟩
    let r : RouteDiscovery := {}
    (∃ hops ≤ 7, ∃ snrs ≤ 7, r.insertUnknownHops 7 0 .towards = r.withPlaceholders .towards hops snrs) ∧
      (r.complete received ⟨80⟩ .towards).route = List.replicate 7 0xFFFFFFFF ++ [48, 80] ∧
      ∃ more, more <+ [80] ∧ (r.complete received ⟨80⟩ .towards).routeBack = [] ++ more := by
  intro p received r
  obtain ⟨hwithin, -, hother⟩ := placeholders_granted_iff r received ⟨80⟩ .towards
  exact ⟨hwithin.2 (by decide), by decide, hother .back Direction.noConfusion⟩

/-- One hop more than a radio grants is written down as well, and as many as a word can tell of. -/
theorem placeholders_not_granted :
    let p : MeshPacket := { sender := 16, dest := 32, hopStart := 8 }
    let received : Received := ⟨p, default, .defaultChannel, .channelKey, ⟨48⟩, .udp⟩
    let r : RouteDiscovery := {}
    ¬(∃ hops ≤ Client.maxHops.toNat, ∃ snrs ≤ 0 + Client.maxHops.toNat,
        r.insertUnknownHops 8 0 .towards = r.withPlaceholders .towards hops snrs) ∧
      (r.complete received ⟨80⟩ .towards).route.length = Client.maxHops.toNat + 3 ∧
      (r.insertUnknownHops 0xFFFFFFFF 0 .towards).route.length = 0xFFFFFFFF := by
  intro p received r
  refine ⟨?_, by decide, ?_⟩
  · rintro ⟨hops, hhops, snrs, -, hpadded⟩
    rw [insertUnknownHops_eq] at hpadded
    have hmissing : 8 = hops := withPlaceholders_hops_inj hpadded
    have hgranted : Client.maxHops.toNat = 7 := rfl
    omega
  · -- the list is too long to be evaluated
    have hnodes := congrArg List.length (nodes_withPlaceholders r .towards
      (r.missingHops 0xFFFFFFFF 0 .towards) (r.missingSnrs 0xFFFFFFFF 0 .towards))
    have hmissing : r.missingHops 0xFFFFFFFF 0 .towards = 0xFFFFFFFF := by decide
    rw [← insertUnknownHops_eq, List.length_append, List.length_replicate, hmissing] at hnodes
    exact hnodes.trans (Nat.zero_add _)

end RadioMesh.RouteDiscovery
