import RadioMesh.Client.Answer
import RadioMesh.Proofs.Channel.Cipher

/-!
Routes on their way. Each step of the bookkeeping adds to one direction, keeps the nodes that were there, and keeps a
ratio for each node. Only the last ratio of a direction is one without a node, and it is added when that direction is
completed.
-/

namespace RadioMesh.RouteDiscovery

open scoped List

/-! ### One direction -/

section Lists
variable (r : RouteDiscovery) (dir : Direction) (nodes : List UInt32) (snrs : List Int32)

@[simp] theorem nodes_withLists_self : (r.withLists dir nodes snrs).nodes dir = nodes := by
  cases dir <;> rfl

@[simp] theorem snrs_withLists_self : (r.withLists dir nodes snrs).snrs dir = snrs := by
  cases dir <;> rfl

variable {dir} {dir' : Direction}

theorem nodes_withLists_of_ne (h : dir' ≠ dir) : (r.withLists dir nodes snrs).nodes dir' = r.nodes dir' := by
  cases dir <;> cases dir'
  · exact absurd rfl h
  · rfl
  · rfl
  · exact absurd rfl h

theorem snrs_withLists_of_ne (h : dir' ≠ dir) : (r.withLists dir nodes snrs).snrs dir' = r.snrs dir' := by
  cases dir <;> cases dir'
  · exact absurd rfl h
  · rfl
  · rfl
  · exact absurd rfl h

end Lists

/-- Every node of a direction has its ratio. -/
def Aligned (r : RouteDiscovery) (dir : Direction) : Prop :=
  (r.snrs dir).length = (r.nodes dir).length

/-- A route that another one was made into by steps in one direction. -/
structure Extends (dir : Direction) (r r' : RouteDiscovery) : Prop where
  kept : ∀ n ∈ r.nodes dir, n ∈ r'.nodes dir
  aligned : r.Aligned dir → r'.Aligned dir
  nodes : ∀ dir' ≠ dir, r'.nodes dir' = r.nodes dir'
  snrs : ∀ dir' ≠ dir, r'.snrs dir' = r.snrs dir'

/-- A route that another one was made into by steps in any direction. -/
structure Grows (r r' : RouteDiscovery) : Prop where
  kept : ∀ dir, ∀ n ∈ r.nodes dir, n ∈ r'.nodes dir
  aligned : ∀ dir, r.Aligned dir → r'.Aligned dir

theorem Grows.trans {r r' r'' : RouteDiscovery} (h : r.Grows r') (h' : r'.Grows r'') : r.Grows r'' :=
  ⟨fun dir n hn => h'.kept dir n (h.kept dir n hn), fun dir ha => h'.aligned dir (h.aligned dir ha)⟩

namespace Extends

variable {dir : Direction} {r r' r'' : RouteDiscovery}

theorem refl (dir : Direction) (r : RouteDiscovery) : Extends dir r r :=
  ⟨fun _ h => h, id, fun _ _ => rfl, fun _ _ => rfl⟩

theorem trans (h : Extends dir r r') (h' : Extends dir r' r'') : Extends dir r r'' where
  kept n hn := h'.kept n (h.kept n hn)
  aligned ha := h'.aligned (h.aligned ha)
  nodes dir' hne := (h'.nodes dir' hne).trans (h.nodes dir' hne)
  snrs dir' hne := (h'.snrs dir' hne).trans (h.snrs dir' hne)

theorem withLists {nodes : List UInt32} {snrs : List Int32} (hkept : ∀ n ∈ r.nodes dir, n ∈ nodes)
    (haligned : r.Aligned dir → snrs.length = nodes.length) : Extends dir r (r.withLists dir nodes snrs) where
  kept n hn := by
    rw [nodes_withLists_self]
    exact hkept n hn
  aligned ha := by
    rw [Aligned, nodes_withLists_self, snrs_withLists_self]
    exact haligned ha
  nodes _ hne := nodes_withLists_of_ne r nodes snrs hne
  snrs _ hne := snrs_withLists_of_ne r nodes snrs hne

theorem grows (h : Extends dir r r') : r.Grows r' := by
  refine ⟨fun dir' n hn => ?_, fun dir' ha => ?_⟩
  · by_cases hdir : dir' = dir
    · subst hdir
      exact h.kept n hn
    · rwa [h.nodes dir' hdir]
  · by_cases hdir : dir' = dir
    · subst hdir
      exact h.aligned ha
    · rwa [Aligned, h.nodes dir' hdir, h.snrs dir' hdir]

end Extends

/-! ### Steps -/

theorem length_pad {α : Type} (length : Nat) (filler : α) (xs : List α) :
    (pad length filler xs).length = max xs.length length := by
  rw [pad, List.length_append, List.length_replicate]
  omega

variable {r : RouteDiscovery} {dir : Direction}

theorem extends_insertUnknownHops (r : RouteDiscovery) (hopStart hopLimit : UInt32) (dir : Direction) :
    Extends dir r (r.insertUnknownHops hopStart hopLimit dir) := by
  unfold insertUnknownHops
  split
  · exact .refl dir r
  · refine .withLists (fun n hn => List.mem_append_left _ hn) fun ha => ?_
    rw [length_pad, length_pad, show (r.snrs dir).length = _ from ha]
    omega

theorem extends_addNodeIfMissing (r : RouteDiscovery) (node : NodeId) (snr : Int32) (dir : Direction) :
    Extends dir r (r.addNodeIfMissing node snr dir) := by
  unfold addNodeIfMissing
  split
  · exact .refl dir r
  · refine .withLists (fun n hn => List.mem_append_left _ hn) fun ha => ?_
    rw [List.length_append, List.length_append, show (r.snrs dir).length = _ from ha]
    rfl

theorem mem_addNodeIfMissing (r : RouteDiscovery) (node : NodeId) (snr : Int32) (dir : Direction) :
    node.value ∈ (r.addNodeIfMissing node snr dir).nodes dir := by
  unfold addNodeIfMissing
  split
  · next h => exact h
  · rw [nodes_withLists_self]
    exact List.mem_append_right _ (List.mem_singleton_self _)

theorem extends_addGateway (r : RouteDiscovery) (gateway sender : NodeId) (rxSnr : Binary32) (dir : Direction) :
    Extends dir r (r.addGateway gateway sender rxSnr dir) := by
  unfold addGateway
  split
  · exact .refl dir r
  · exact extends_addNodeIfMissing r gateway _ dir

/-! ### A direction at its end -/

theorem addFinalSnr_nodes (r : RouteDiscovery) (dir dir' : Direction) :
    (r.addFinalSnr dir).nodes dir' = r.nodes dir' := by
  unfold addFinalSnr
  by_cases h : dir' = dir
  · subst h
    rw [nodes_withLists_self]
  · rw [nodes_withLists_of_ne _ _ _ h]

theorem addFinalSnr_snrs_self (r : RouteDiscovery) (dir : Direction) :
    (r.addFinalSnr dir).snrs dir = r.snrs dir ++ [0] := by
  rw [addFinalSnr, snrs_withLists_self]

theorem addFinalSnr_snrs_of_ne (r : RouteDiscovery) {dir dir' : Direction} (h : dir' ≠ dir) :
    (r.addFinalSnr dir).snrs dir' = r.snrs dir' :=
  snrs_withLists_of_ne _ _ _ h

/-- A route with the hops that were silent and the node that the packet was heard through. -/
def heard (r : RouteDiscovery) (received : Received) (dir : Direction) : RouteDiscovery :=
  (r.insertUnknownHops received.packet.hopStart received.packet.hopLimit dir).addGateway received.gateway
    received.sender received.packet.rxSnr dir

theorem extends_heard (r : RouteDiscovery) (received : Received) (dir : Direction) :
    Extends dir r (r.heard received dir) :=
  (extends_insertUnknownHops r _ _ dir).trans (extends_addGateway _ _ _ _ dir)

/-- A route with all its hops. -/
def hopped (r : RouteDiscovery) (received : Received) (own : NodeId) (dir : Direction) : RouteDiscovery :=
  if received.dest = own then r.heard received dir else (r.heard received dir).addBridge own dir

theorem complete_eq (r : RouteDiscovery) (received : Received) (own : NodeId) (dir : Direction) :
    r.complete received own dir = (r.hopped received own dir).addFinalSnr dir := rfl

theorem grows_addBridge (r : RouteDiscovery) (own : NodeId) (dir : Direction) : r.Grows (r.addBridge own dir) := by
  cases dir with
  | towards =>
    exact (extends_addNodeIfMissing r own 0 .towards).grows.trans (extends_addNodeIfMissing _ own 0 .back).grows
  | back => exact (extends_addNodeIfMissing r own 0 .back).grows

theorem mem_addBridge_back (r : RouteDiscovery) (own : NodeId) (dir : Direction) :
    own.value ∈ (r.addBridge own dir).nodes .back := by
  cases dir with
  | towards => exact mem_addNodeIfMissing _ own 0 .back
  | back => exact mem_addNodeIfMissing r own 0 .back

theorem mem_addBridge_towards (r : RouteDiscovery) (own : NodeId) :
    own.value ∈ (r.addBridge own .towards).nodes .towards :=
  (extends_addNodeIfMissing _ own 0 .back).grows.kept .towards _ (mem_addNodeIfMissing r own 0 .towards)

theorem grows_hopped (r : RouteDiscovery) (received : Received) (own : NodeId) (dir : Direction) :
    r.Grows (r.hopped received own dir) := by
  have hheard := (extends_heard r received dir).grows
  unfold hopped
  split
  · exact hheard
  · exact hheard.trans (grows_addBridge _ own dir)

variable {received : Received} {own : NodeId}

theorem kept_complete (r : RouteDiscovery) (received : Received) (own : NodeId) (dir dir' : Direction) {n : UInt32}
    (hn : n ∈ r.nodes dir') : n ∈ (r.complete received own dir).nodes dir' := by
  rw [complete_eq, addFinalSnr_nodes]
  exact (grows_hopped r received own dir).kept dir' n hn

/-- The direction that is completed has one ratio more than it has nodes. -/
theorem length_snrs_complete (received : Received) (own : NodeId) (h : r.Aligned dir) :
    ((r.complete received own dir).snrs dir).length = ((r.complete received own dir).nodes dir).length + 1 := by
  have haligned : (r.hopped received own dir).Aligned dir := (grows_hopped r received own dir).aligned dir h
  rw [Aligned] at haligned
  rw [complete_eq, addFinalSnr_nodes, addFinalSnr_snrs_self, List.length_append, haligned]
  rfl

/-- The other one stays in step. -/
theorem aligned_complete {dir' : Direction} (hne : dir' ≠ dir) (h : r.Aligned dir') :
    (r.complete received own dir).Aligned dir' := by
  rw [Aligned, complete_eq, addFinalSnr_nodes, addFinalSnr_snrs_of_ne _ hne]
  exact (grows_hopped r received own dir).aligned dir' h

/-- The bridge is a hop of a route that ends at another node. -/
theorem own_mem_complete_back (dir : Direction) (h : received.dest ≠ own) :
    own.value ∈ (r.complete received own dir).nodes .back := by
  rw [complete_eq, addFinalSnr_nodes, hopped, if_neg h]
  exact mem_addBridge_back _ own dir

theorem own_mem_complete_towards (h : received.dest ≠ own) :
    own.value ∈ (r.complete received own .towards).nodes .towards := by
  rw [complete_eq, addFinalSnr_nodes, hopped, if_neg h]
  exact mem_addBridge_towards _ own

/-- The way back leaves the way there as it is. -/
theorem towards_complete_back (r : RouteDiscovery) (received : Received) (own : NodeId) :
    (r.complete received own .back).nodes .towards = r.nodes .towards ∧
      (r.complete received own .back).snrs .towards = r.snrs .towards := by
  have hne : Direction.towards ≠ .back := Direction.noConfusion
  have hhopped : Extends .back r (r.hopped received own .back) := by
    unfold hopped
    split
    · exact extends_heard r received .back
    · exact (extends_heard r received .back).trans (extends_addNodeIfMissing _ own 0 .back)
  rw [complete_eq, addFinalSnr_nodes, addFinalSnr_snrs_of_ne _ hne]
  exact ⟨hhopped.nodes _ hne, hhopped.snrs _ hne⟩

/-- A route there, completed at its end, and back, completed where it began. Both bridges are on it both ways if they
are hops, and either way has one ratio more than it has nodes. -/
theorem complete_complete (hthere : r.Aligned .towards) (hback : r.Aligned .back) (there back : Received)
    (own own' : NodeId) :
    let r' := (r.complete there own .towards).complete back own' .back
    r'.snrTowards.length = r'.route.length + 1 ∧ r'.snrBack.length = r'.routeBack.length + 1 ∧
      (∀ n ∈ r.route, n ∈ r'.route) ∧ (there.dest ≠ own → own.value ∈ r'.route ∧ own.value ∈ r'.routeBack) ∧
      (back.dest ≠ own' → own'.value ∈ r'.routeBack) := by
  intro r'
  obtain ⟨hnodes, hsnrs⟩ := (r.complete there own .towards).towards_complete_back back own'
  have htowards := length_snrs_complete there own hthere
  have hreturn : (r.complete there own .towards).Aligned .back := aligned_complete Direction.noConfusion hback
  have hkept : ∀ dir {n}, n ∈ (r.complete there own .towards).nodes dir → n ∈ r'.nodes dir :=
    fun dir _ hn => kept_complete _ back own' .back dir hn
  rw [← hnodes, ← hsnrs] at htowards
  exact ⟨htowards, length_snrs_complete back own' hreturn,
    fun n hn => hkept .towards (kept_complete r there own .towards .towards hn),
    fun hne => ⟨hkept .towards (own_mem_complete_towards hne),
      hkept .back (own_mem_complete_back .towards hne)⟩,
    own_mem_complete_back .back⟩

/-! ### What is added -/

theorem exists_nodes_addNodeIfMissing (r : RouteDiscovery) (node : NodeId) (snr : Int32) (dir : Direction) :
    ∃ more, more <+ [node.value] ∧ (r.addNodeIfMissing node snr dir).nodes dir = r.nodes dir ++ more := by
  unfold addNodeIfMissing
  split
  · exact ⟨[], List.nil_sublist _, (List.append_nil _).symm⟩
  · exact ⟨[node.value], List.Sublist.refl _, nodes_withLists_self ..⟩

theorem exists_nodes_addGateway (r : RouteDiscovery) (gateway sender : NodeId) (rxSnr : Binary32) (dir : Direction) :
    ∃ more, more <+ [gateway.value] ∧ (r.addGateway gateway sender rxSnr dir).nodes dir = r.nodes dir ++ more := by
  unfold addGateway
  split
  · exact ⟨[], List.nil_sublist _, (List.append_nil _).symm⟩
  · exact exists_nodes_addNodeIfMissing r gateway _ dir

/-- The bridge takes at most one place in either direction. -/
theorem exists_nodes_addBridge (r : RouteDiscovery) (own : NodeId) (dir dir' : Direction) :
    ∃ more, more <+ [own.value] ∧ (r.addBridge own dir).nodes dir' = r.nodes dir' ++ more := by
  have hback : Direction.back ≠ .towards := Direction.noConfusion
  cases dir with
  | towards =>
    have hthere := r.extends_addNodeIfMissing own 0 .towards
    cases dir' with
    | towards =>
      rw [addBridge, (extends_addNodeIfMissing _ own 0 .back).nodes .towards hback.symm]
      exact exists_nodes_addNodeIfMissing r own 0 .towards
    | back =>
      rw [← hthere.nodes .back hback]
      exact exists_nodes_addNodeIfMissing _ own 0 .back
  | back =>
    cases dir' with
    | towards =>
      rw [addBridge, (r.extends_addNodeIfMissing own 0 .back).nodes .towards hback.symm]
      exact ⟨[], List.nil_sublist _, (List.append_nil _).symm⟩
    | back => exact exists_nodes_addNodeIfMissing r own 0 .back

theorem exists_nodes_hopped (r : RouteDiscovery) (received : Received) (own : NodeId) (dir dir' : Direction) :
    ∃ more, more <+ [own.value] ∧
      (r.hopped received own dir).nodes dir' = (r.heard received dir).nodes dir' ++ more := by
  unfold hopped
  split
  · exact ⟨[], List.nil_sublist _, (List.append_nil _).symm⟩
  · exact exists_nodes_addBridge _ own dir dir'

/-! ### Lengths -/

/-- A direction with no more than a number of nodes and of ratios. -/
def Short (dir : Direction) (k : Nat) (r : RouteDiscovery) : Prop :=
  (r.nodes dir).length ≤ k ∧ (r.snrs dir).length ≤ k

theorem Extends.short {dir dir' : Direction} {r' : RouteDiscovery} {k : Nat} (h : Extends dir r r') (hne : dir' ≠ dir)
    (hshort : r.Short dir' k) : r'.Short dir' k := by
  rwa [Short, h.nodes dir' hne, h.snrs dir' hne]

section Short
variable {k : Nat}

theorem short_insertUnknownHops {hopStart hopLimit : UInt32} (h : r.Short dir k)
    (hhops : hopStart.toNat - hopLimit.toNat ≤ k) : (r.insertUnknownHops hopStart hopLimit dir).Short dir k := by
  obtain ⟨hnodes, hsnrs⟩ := h
  unfold insertUnknownHops
  split
  · exact ⟨hnodes, hsnrs⟩
  · rw [Short, nodes_withLists_self, snrs_withLists_self, length_pad, length_pad]
    omega

theorem short_addNodeIfMissing (node : NodeId) (snr : Int32) (h : r.Short dir k) :
    (r.addNodeIfMissing node snr dir).Short dir (k + 1) := by
  obtain ⟨hnodes, hsnrs⟩ := h
  unfold addNodeIfMissing
  split
  · exact ⟨Nat.le_succ_of_le hnodes, Nat.le_succ_of_le hsnrs⟩
  · rw [Short, nodes_withLists_self, snrs_withLists_self, List.length_append, List.length_append]
    exact ⟨Nat.succ_le_succ hnodes, Nat.succ_le_succ hsnrs⟩

theorem short_heard (h : r.Short dir k)
    (hhops : received.packet.hopStart.toNat - received.packet.hopLimit.toNat ≤ k) :
    (r.heard received dir).Short dir (k + 1) := by
  have hpadded := short_insertUnknownHops h hhops
  unfold heard addGateway
  split
  · exact ⟨Nat.le_succ_of_le hpadded.1, Nat.le_succ_of_le hpadded.2⟩
  · exact short_addNodeIfMissing _ _ hpadded

/-- The gateway and the bridge take a place each on the way there, the bridge takes one on the way back, and the last
ratio takes one. -/
theorem short_complete_towards {j : Nat} (h : r.Short .towards k) (hback : r.Short .back j)
    (hhops : received.packet.hopStart.toNat - received.packet.hopLimit.toNat ≤ k) :
    (r.complete received own .towards).Short .towards (k + 3) ∧
      (r.complete received own .towards).Short .back (j + 1) := by
  have hne : Direction.back ≠ .towards := Direction.noConfusion
  have hheard := short_heard h hhops
  have hheardBack := (r.extends_heard received .towards).short hne hback
  have hhopped : (r.hopped received own .towards).Short .towards (k + 2) ∧
      (r.hopped received own .towards).Short .back (j + 1) := by
    unfold hopped
    split
    · exact ⟨⟨Nat.le_succ_of_le hheard.1, Nat.le_succ_of_le hheard.2⟩,
        ⟨Nat.le_succ_of_le hheardBack.1, Nat.le_succ_of_le hheardBack.2⟩⟩
    · have hthere := (extends_addNodeIfMissing (r.heard received .towards) own 0 .towards).short hne hheardBack
      exact ⟨(extends_addNodeIfMissing _ own 0 .back).short hne.symm (short_addNodeIfMissing own 0 hheard),
        short_addNodeIfMissing own 0 hthere⟩
  obtain ⟨⟨hnodes, hsnrs⟩, hreturn⟩ := hhopped
  refine ⟨?_, ?_⟩
  · rw [Short, complete_eq, addFinalSnr_nodes, addFinalSnr_snrs_self, List.length_append]
    exact ⟨Nat.le_succ_of_le hnodes, Nat.succ_le_succ hsnrs⟩
  · rwa [Short, complete_eq, addFinalSnr_nodes, addFinalSnr_snrs_of_ne _ hne]

theorem length_encode_le_of_short {j : Nat} (h : r.Short .towards k) (hback : r.Short .back j) :
    (schema.encode r).length ≤ 4 + Wire.delimitedSize (4 * k) + Wire.delimitedSize (10 * k) +
      Wire.delimitedSize (4 * j) + Wire.delimitedSize (10 * j) := by
  have hmono {n n' : Nat} (i : Nat) (hle : n ≤ n') : Wire.delimitedSize (i * n) ≤ Wire.delimitedSize (i * n') :=
    Wire.delimitedSize_mono (Nat.mul_le_mul_left i hle)
  have hroute := hmono 4 h.1
  have htowards := hmono 10 h.2
  have hrouteBack := hmono 4 hback.1
  have hsnrBack := hmono 10 hback.2
  have hlength := length_encode_le r
  simp only [nodes, snrs] at hroute htowards hrouteBack hsnrBack
  omega

/-- As many hops as a radio grants fit a packet. -/
theorem length_encode_complete_le (h : r.Short .towards Client.maxHops.toNat) (hback : r.Short .back 0)
    (hhops : received.packet.hopStart.toNat - received.packet.hopLimit.toNat ≤ Client.maxHops.toNat) :
    (schema.encode (r.complete received own .towards)).length ≤ maxPayloadLength := by
  have hshort : (r.complete received own .towards).Short .towards (Client.maxHops.toNat + 3) ∧
      (r.complete received own .towards).Short .back 1 := short_complete_towards h hback hhops
  obtain ⟨hthere, hreturn⟩ := hshort
  exact (length_encode_le_of_short hthere hreturn).trans (by decide)

end Short

end RadioMesh.RouteDiscovery
