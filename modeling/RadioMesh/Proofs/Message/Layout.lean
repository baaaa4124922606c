import RadioMesh.Message.Node
import RadioMesh.Message.Packet
import RadioMesh.Message.Route
import RadioMesh.Message.Telemetry
import RadioMesh.Proofs.Wire.Layout

/-!
The records of every message may be laid out freely: radios of other versions add fields, write them in another
order and do not pack their lists.
-/

namespace RadioMesh

open Wire

/-! ### Field by field -/

theorem Data.orderly : Data.schema.Orderly := ⟨by decide, by simp [schema]⟩

theorem User.orderly : User.schema.Orderly := ⟨by decide, by simp [schema]⟩

theorem Position.orderly : Position.schema.Orderly := ⟨by decide, by simp [schema]⟩

theorem Waypoint.orderly : Waypoint.schema.Orderly := ⟨by decide, by simp [schema]⟩

theorem Neighbor.orderly : Neighbor.schema.Orderly := ⟨by decide, by simp [schema]⟩

theorem NeighborInfo.orderly : NeighborInfo.schema.Orderly := ⟨by decide, by simp [schema]⟩

theorem MapReport.orderly : MapReport.schema.Orderly := ⟨by decide, by simp [schema]⟩

theorem DeviceMetrics.orderly : DeviceMetrics.schema.Orderly := ⟨by decide, by simp [schema]⟩

theorem HostMetrics.orderly : HostMetrics.schema.Orderly := ⟨by decide, by simp [schema]⟩

theorem OpaqueMetrics.orderly : OpaqueMetrics.schema.Orderly := ⟨by decide, by simp [schema]⟩

theorem Telemetry.orderly : Telemetry.schema.Orderly := ⟨by decide, by simp [schema]⟩

theorem RouteDiscovery.orderly : RouteDiscovery.schema.Orderly := ⟨by decide, by simp [schema]⟩

theorem Routing.orderly : Routing.schema.Orderly := ⟨by decide, by simp [schema]⟩

theorem MeshPacket.orderly : MeshPacket.schema.Orderly := ⟨by decide, by simp [schema]⟩

theorem ServiceEnvelope.orderly : ServiceEnvelope.schema.Orderly := ⟨by decide, by simp [schema]⟩

theorem StoreAndForward.orderly : StoreAndForward.schema.Orderly := ⟨by decide, by simp [schema]⟩

/-! ### Lists and embedded messages -/

theorem RouteDiscovery.repeats :
    schema.Repeats 1 .fixed32 ∧ schema.Repeats 2 .varint ∧ schema.Repeats 3 .fixed32 ∧ schema.Repeats 4 .varint := by
  refine ⟨.packed (List.mem_of_getElem? (i := 0) rfl) rfl (by decide) ?_ ?_ ?_,
    .packed (List.mem_of_getElem? (i := 1) rfl) rfl (by decide) ?_ ?_ ?_,
    .packed (List.mem_of_getElem? (i := 2) rfl) rfl (by decide) ?_ ?_ ?_,
    .packed (List.mem_of_getElem? (i := 3) rfl) rfl (by decide) ?_ ?_ ?_⟩ <;>
  intros <;> rfl

theorem ServiceEnvelope.embeds_packet : schema.Embeds 1 MeshPacket.schema :=
  ⟨⟨_, List.mem_of_getElem? (i := 0) rfl, .message⟩, MeshPacket.orderly⟩

theorem MeshPacket.embeds_data : schema.Embeds 4 Data.schema :=
  ⟨⟨_, List.mem_of_getElem? (i := 3) rfl, .choice (List.mem_of_getElem? (i := 0) rfl)⟩, Data.orderly⟩

theorem NeighborInfo.embeds_neighbor : schema.Embeds 4 Neighbor.schema :=
  ⟨⟨_, List.mem_of_getElem? (i := 3) rfl, .messages⟩, Neighbor.orderly⟩

theorem Routing.embeds_route : schema.Embeds 1 RouteDiscovery.schema ∧ schema.Embeds 2 RouteDiscovery.schema :=
  ⟨⟨⟨_, List.mem_of_getElem? (i := 0) rfl, .choice (List.mem_of_getElem? (i := 0) rfl)⟩, RouteDiscovery.orderly⟩,
    ⟨⟨_, List.mem_of_getElem? (i := 0) rfl, .choice (List.mem_of_getElem? (i := 1) rfl)⟩, RouteDiscovery.orderly⟩⟩

theorem Telemetry.embeds_metrics :
    schema.Embeds 2 DeviceMetrics.schema ∧ (∀ n ∈ [3, 4, 5, 6, 7], schema.Embeds n OpaqueMetrics.schema) ∧
      schema.Embeds 8 HostMetrics.schema := by
  refine ⟨⟨⟨_, List.mem_of_getElem? (i := 1) rfl, .choice (List.mem_of_getElem? (i := 0) rfl)⟩, DeviceMetrics.orderly⟩,
    ?_, ⟨_, List.mem_of_getElem? (i := 1) rfl, .choice (List.mem_of_getElem? (i := 6) rfl)⟩, HostMetrics.orderly⟩
  simp only [List.forall_mem_cons, List.not_mem_nil, false_imp_iff, implies_true, and_true]
  exact ⟨⟨⟨_, List.mem_of_getElem? (i := 1) rfl, .choice (List.mem_of_getElem? (i := 1) rfl)⟩, OpaqueMetrics.orderly⟩,
    ⟨⟨_, List.mem_of_getElem? (i := 1) rfl, .choice (List.mem_of_getElem? (i := 2) rfl)⟩, OpaqueMetrics.orderly⟩,
    ⟨⟨_, List.mem_of_getElem? (i := 1) rfl, .choice (List.mem_of_getElem? (i := 3) rfl)⟩, OpaqueMetrics.orderly⟩,
    ⟨⟨_, List.mem_of_getElem? (i := 1) rfl, .choice (List.mem_of_getElem? (i := 4) rfl)⟩, OpaqueMetrics.orderly⟩,
    ⟨⟨_, List.mem_of_getElem? (i := 1) rfl, .choice (List.mem_of_getElem? (i := 5) rfl)⟩, OpaqueMetrics.orderly⟩⟩

/-! ### All messages -/

theorem messages_ignoreLayout :
    (MeshPacket.schema.IgnoresLayout ∧
      Data.schema.IgnoresLayout ∧
      ServiceEnvelope.schema.IgnoresLayout ∧
      User.schema.IgnoresLayout ∧
      Position.schema.IgnoresLayout ∧
      RouteDiscovery.schema.IgnoresLayout ∧
      Routing.schema.IgnoresLayout ∧
      Waypoint.schema.IgnoresLayout ∧
      NeighborInfo.schema.IgnoresLayout ∧
      Neighbor.schema.IgnoresLayout ∧
      Telemetry.schema.IgnoresLayout ∧
      DeviceMetrics.schema.IgnoresLayout ∧
      HostMetrics.schema.IgnoresLayout ∧
      MapReport.schema.IgnoresLayout ∧
      StoreAndForward.schema.IgnoresLayout ∧
      OpaqueMetrics.schema.IgnoresLayout) ∧
    (RouteDiscovery.schema.Repeats 1 .fixed32 ∧ RouteDiscovery.schema.Repeats 2 .varint ∧
      RouteDiscovery.schema.Repeats 3 .fixed32 ∧ RouteDiscovery.schema.Repeats 4 .varint) ∧
    ServiceEnvelope.schema.Embeds 1 MeshPacket.schema ∧
    MeshPacket.schema.Embeds 4 Data.schema ∧
    NeighborInfo.schema.Embeds 4 Neighbor.schema ∧
    (Routing.schema.Embeds 1 RouteDiscovery.schema ∧ Routing.schema.Embeds 2 RouteDiscovery.schema) ∧
    Telemetry.schema.Embeds 2 DeviceMetrics.schema ∧
    (∀ n ∈ [3, 4, 5, 6, 7], Telemetry.schema.Embeds n OpaqueMetrics.schema) ∧
    Telemetry.schema.Embeds 8 HostMetrics.schema :=
  ⟨⟨MeshPacket.orderly.ignoresLayout, Data.orderly.ignoresLayout, ServiceEnvelope.orderly.ignoresLayout,
      User.orderly.ignoresLayout, Position.orderly.ignoresLayout, RouteDiscovery.orderly.ignoresLayout,
      Routing.orderly.ignoresLayout, Waypoint.orderly.ignoresLayout, NeighborInfo.orderly.ignoresLayout,
      Neighbor.orderly.ignoresLayout, Telemetry.orderly.ignoresLayout, DeviceMetrics.orderly.ignoresLayout,
      HostMetrics.orderly.ignoresLayout, MapReport.orderly.ignoresLayout, StoreAndForward.orderly.ignoresLayout,
      OpaqueMetrics.orderly.ignoresLayout⟩,
    RouteDiscovery.repeats, ServiceEnvelope.embeds_packet, MeshPacket.embeds_data, NeighborInfo.embeds_neighbor,
    Routing.embeds_route, Telemetry.embeds_metrics⟩

/-- A reply with two nodes on its route. Behind a group that is not known, with the nodes in a record each and a
field that is not known between them, it is read as it was. -/
theorem messages_ignoreLayout_reply :
    let packed : Bytes := [10, 8, 1, 0, 0, 0, 2, 0, 0, 0]
    let single : Bytes := [13, 1, 0, 0, 0, 56, 128, 0, 13, 2, 0, 0, 0]
    let group : Bytes := [75, 27, 28, 32, 5, 76]
    Routing.schema.decode? (18 :: 10 :: packed) = some ⟨some (.reply { route := [1, 2] })⟩ ∧
      Routing.schema.decode? (group ++ 18 :: 13 :: single) = some ⟨some (.reply { route := [1, 2] })⟩ := by
  intro packed single group
  have hread : Routing.schema.decode? (18 :: 10 :: packed) = some ⟨some (.reply { route := [1, 2] })⟩ := by
    decide +kernel
  refine ⟨hread, ?_⟩
  obtain ⟨⟨-, -, -, -, -, -, hrouting, -⟩, ⟨hroute, -⟩, -, -, -, ⟨-, hembeds⟩, -⟩ := messages_ignoreLayout
  have hspells : Spells Schema.maxDepth [⟨2, .bytes packed⟩] (18 :: 10 :: packed) :=
    records?_eq_some_iff.1 (by decide +kernel)
  have hspells' : Spells Schema.maxDepth [⟨9, .group⟩, ⟨2, .bytes single⟩] (group ++ 18 :: 13 :: single) :=
    records?_eq_some_iff.1 (by decide +kernel)
  rw [← hread]
  refine (hrouting.decode?_eq _ _ _ _ hspells hspells' ?_).symm
  -- The nodes are grouped in another way first, then the field between them is added, then the group in front.
  have hnodes : PackedSpells .fixed32 [.fixed32 1, .fixed32 2] [1, 0, 0, 0, 2, 0, 0, 0] :=
    readPacked?_eq_some_iff.1 (by decide +kernel)
  have hpacked : Elements 1 .fixed32 [⟨1, .bytes [1, 0, 0, 0, 2, 0, 0, 0]⟩] [.fixed32 1, .fixed32 2] :=
    .packed hnodes .nil
  have hsingle : Elements 1 .fixed32 [⟨1, .fixed32 1⟩, ⟨1, .fixed32 2⟩] [.fixed32 1, .fixed32 2] :=
    .single rfl (.single rfl .nil)
  have hunknown : Relaid RouteDiscovery.schema 99 [] [⟨7, .varint 0⟩] := .added (by decide)
  have hgroup : Relaid Routing.schema Schema.maxDepth [] [⟨9, .group⟩] := .added (by decide)
  have hinner : Relaid RouteDiscovery.schema 99 [⟨1, .bytes [1, 0, 0, 0, 2, 0, 0, 0]⟩]
      [⟨1, .fixed32 1⟩, ⟨7, .varint 0⟩, ⟨1, .fixed32 2⟩] :=
    (Relaid.regrouped hroute hpacked hsingle).trans (hunknown.within [⟨1, .fixed32 1⟩] [⟨1, .fixed32 2⟩])
  have hinside : Relaid Routing.schema Schema.maxDepth [⟨2, .bytes packed⟩] [⟨2, .bytes single⟩] :=
    .inside hembeds (records?_eq_some_iff.1 (by decide +kernel)) (records?_eq_some_iff.1 (by decide +kernel)) hinner
  exact hinside.trans (hgroup.within [] [⟨2, .bytes single⟩])

end RadioMesh
