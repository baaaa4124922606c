import RadioMesh.Message.Node
import RadioMesh.Message.Packet
import RadioMesh.Message.Route
import RadioMesh.Message.Telemetry
import RadioMesh.Proofs.Wire.Schema

/-!
Every message is read back from its encoding. Only a negative zero in a field that is always there is lost:
such a field leaves out both zeros, so what comes back is the positive one.
-/

namespace RadioMesh

open Wire

/-! ### What is read back -/

namespace Binary32

def negativeZero : Binary32 := ⟨0x80000000⟩

/-- The number itself, but zero for the negative zero. -/
def withoutNegativeZero (x : Binary32) : Binary32 :=
  if x = negativeZero then zero else x

theorem isZero_iff (x : Binary32) : x.isZero = true ↔ x = zero ∨ x = negativeZero := by
  have hlow : (x.bits &&& 0x7FFFFFFF).toNat = x.bits.toNat % 2 ^ 31 := by
    rw [UInt32.toNat_and]
    exact Nat.and_two_pow_sub_one_eq_mod _ 31
  have hlt := x.bits.toNat_lt
  have heq : ∀ w : UInt32, x = ⟨w⟩ ↔ x.bits.toNat = w.toNat := fun w =>
    ⟨fun h => by rw [h], fun h => congrArg mk (UInt32.toNat_inj.1 h)⟩
  have hz : x = zero ↔ x.bits.toNat = 0 := heq 0
  have hn : x = negativeZero ↔ x.bits.toNat = 2 ^ 31 := heq 0x80000000
  rw [isZero, beq_iff_eq, ← UInt32.toNat_inj, hlow, hz, hn]
  show _ = 0 ↔ _
  omega

theorem settle_float (x : Binary32) : Scalar.float.settle x = x.withoutNegativeZero := by
  rw [Scalar.settle, withoutNegativeZero]
  show (if x.isZero = true then zero else x) = _
  by_cases hz : x = zero
  · rw [if_pos ((isZero_iff x).2 (.inl hz)), hz]
    rfl
  · by_cases hn : x = negativeZero
    · rw [if_pos ((isZero_iff x).2 (.inr hn)), if_pos hn]
    · rw [if_neg fun h => ((isZero_iff x).1 h).elim hz hn, if_neg hn]

end Binary32

theorem Wire.Field.Carries.float {M : Type} {depth number : Nat} {name : String} {m a : M} {get : M → Binary32}
    {set : Binary32 → M → M} (hn : IsFieldNumber number) (hset : set .zero a = a) :
    (Field.plain number name .float get set).Carries depth m a (set (get m).withoutNegativeZero a) := by
  rw [← Binary32.settle_float]
  exact .settled hn hset

instance Wire.Field.Copies.float {M : Type} {number : Nat} {name : String} {get : M → Binary32}
    {set : Binary32 → M → M} : (Field.plain number name .float get set).Copies
      (fun m => set (get m).withoutNegativeZero) fun a => set .zero a = a :=
  ⟨fun hn _ _ _ hblank => .float (hn number List.mem_cons_self) hblank⟩

/-- The packet as it is read back. -/
def MeshPacket.settled (p : MeshPacket) : MeshPacket :=
  { p with rxSnr := p.rxSnr.withoutNegativeZero }

def ServiceEnvelope.settled (e : ServiceEnvelope) : ServiceEnvelope :=
  { e with packet := e.packet.map MeshPacket.settled }

def Neighbor.settled (n : Neighbor) : Neighbor :=
  { n with snr := n.snr.withoutNegativeZero }

def NeighborInfo.settled (i : NeighborInfo) : NeighborInfo :=
  { i with neighbors := i.neighbors.map Neighbor.settled }

/-! ### Field by field -/

theorem Data.roundTrips : Data.schema.RoundTrips 0 (fun m => m) :=
  .of_copies (by decide) (by decide) (fun _ => by simp +decide) fun _ => rfl

theorem User.roundTrips : User.schema.RoundTrips 0 (fun m => m) :=
  .of_copies (by decide) (by decide) (fun _ => by simp +decide) fun _ => rfl

theorem Position.roundTrips : Position.schema.RoundTrips 0 (fun m => m) :=
  .of_copies (by decide) (by decide) (fun _ => by simp +decide) fun _ => rfl

theorem Waypoint.roundTrips : Waypoint.schema.RoundTrips 0 (fun m => m) :=
  .of_copies (by decide) (by decide) (fun _ => by simp +decide) fun _ => rfl

theorem MapReport.roundTrips : MapReport.schema.RoundTrips 0 (fun m => m) :=
  .of_copies (by decide) (by decide) (fun _ => by simp +decide) fun _ => rfl

theorem DeviceMetrics.roundTrips : DeviceMetrics.schema.RoundTrips 0 (fun m => m) :=
  .of_copies (by decide) (by decide) (fun _ => by simp +decide) fun _ => rfl

theorem HostMetrics.roundTrips : HostMetrics.schema.RoundTrips 0 (fun m => m) :=
  .of_copies (by decide) (by decide) (fun _ => by simp +decide) fun _ => rfl

theorem OpaqueMetrics.roundTrips : OpaqueMetrics.schema.RoundTrips 0 (fun m => m) :=
  .of_copies (by decide) (by decide) (fun _ => by simp +decide) fun _ => rfl

theorem StoreAndForward.roundTrips : StoreAndForward.schema.RoundTrips 0 (fun m => m) :=
  .of_copies (by decide) (by decide) (fun _ => by simp +decide) fun _ => rfl

theorem RouteDiscovery.roundTrips : RouteDiscovery.schema.RoundTrips 0 (fun m => m) :=
  .of_copies (by decide) (by decide) (fun _ => by simp +decide) fun _ => rfl

theorem Neighbor.roundTrips : Neighbor.schema.RoundTrips 0 Neighbor.settled :=
  .of_copies (by decide) (by decide) (fun _ => by simp +decide) fun _ => rfl

theorem NeighborInfo.roundTrips : NeighborInfo.schema.RoundTrips 1 NeighborInfo.settled :=
  .of_transfers (by decide) fun _ hd _ => by
    repeat refine .field (.plain (by decide) rfl) ?_
    exact .field (.messages Neighbor.roundTrips hd (by decide) rfl (fun _ => rfl) fun _ _ => rfl) .done

theorem Routing.roundTrips : Routing.schema.RoundTrips 1 (fun m => m) :=
  .of_transfers (by decide) fun depth hd r => by
    refine .field (.choice (by decide) (by decide) rfl rfl fun v => ?_) ?_
    cases v with
    | request route => exact ⟨0, _, _, rfl, .message RouteDiscovery.roundTrips hd rfl, rfl⟩
    | reply route => exact ⟨1, _, _, rfl, .message RouteDiscovery.roundTrips hd rfl, rfl⟩
    | error reason => exact ⟨2, _, _, rfl, .scalar rfl, rfl⟩
    exact .done

theorem Telemetry.roundTrips : Telemetry.schema.RoundTrips 1 (fun m => m) :=
  .of_transfers (by decide) fun depth hd t => by
    refine .field (.plain (by decide) rfl) (.field (.choice (by decide) (by decide) rfl rfl fun v => ?_) ?_)
    cases v with
    | device m => exact ⟨0, _, _, rfl, .message DeviceMetrics.roundTrips hd rfl, rfl⟩
    | environment m => exact ⟨1, _, _, rfl, .message OpaqueMetrics.roundTrips hd rfl, rfl⟩
    | airQuality m => exact ⟨2, _, _, rfl, .message OpaqueMetrics.roundTrips hd rfl, rfl⟩
    | power m => exact ⟨3, _, _, rfl, .message OpaqueMetrics.roundTrips hd rfl, rfl⟩
    | localStats m => exact ⟨4, _, _, rfl, .message OpaqueMetrics.roundTrips hd rfl, rfl⟩
    | health m => exact ⟨5, _, _, rfl, .message OpaqueMetrics.roundTrips hd rfl, rfl⟩
    | host m => exact ⟨6, _, _, rfl, .message HostMetrics.roundTrips hd rfl, rfl⟩
    exact .done

theorem MeshPacket.roundTrips : MeshPacket.schema.RoundTrips 1 MeshPacket.settled :=
  .of_transfers (by decide) fun depth hd p => by
    repeat refine .field (.plain (by decide) rfl) ?_
    refine .field (.choice (by decide) (by decide) rfl rfl fun v => ?_) ?_
    cases v with
    | decoded d => exact ⟨0, _, _, rfl, .message Data.roundTrips hd rfl, rfl⟩
    | encrypted b => exact ⟨1, _, _, rfl, .scalar rfl, rfl⟩
    repeat refine .field (.plain (by decide) rfl) ?_
    refine .field (.float (by decide) rfl) ?_
    repeat refine .field (.plain (by decide) rfl) ?_
    exact .done

theorem ServiceEnvelope.roundTrips : ServiceEnvelope.schema.RoundTrips 2 ServiceEnvelope.settled :=
  .of_transfers (by decide) fun _ hd _ => by
    refine .field (.message MeshPacket.roundTrips hd (by decide) rfl rfl) ?_
    repeat refine .field (.plain (by decide) rfl) ?_
    exact .done

/-! ### All messages -/

/-- Messages are as long as their lengths say, and those whose length fits 64 bits are read back, as
`settle` makes them. -/
def Wire.Schema.ReadsBack {M : Type} (s : Schema M) (settle : M → M) : Prop :=
  ∀ m, s.encodedLength m = (s.encode m).length ∧
    ((s.encode m).length < 2 ^ 64 → s.decode? (s.encode m) = some (settle m))

theorem Wire.Schema.RoundTrips.readsBack {M : Type} {s : Schema M} {height : Nat} {settle : M → M}
    (hs : s.RoundTrips height settle) (hd : height ≤ maxDepth) : s.ReadsBack settle :=
  fun m => ⟨hs.length m, hs.decode?_encode hd⟩

theorem messages_readBack :
    MeshPacket.schema.ReadsBack MeshPacket.settled ∧
    Data.schema.ReadsBack (fun m => m) ∧
    ServiceEnvelope.schema.ReadsBack ServiceEnvelope.settled ∧
    User.schema.ReadsBack (fun m => m) ∧
    Position.schema.ReadsBack (fun m => m) ∧
    RouteDiscovery.schema.ReadsBack (fun m => m) ∧
    Routing.schema.ReadsBack (fun m => m) ∧
    Waypoint.schema.ReadsBack (fun m => m) ∧
    NeighborInfo.schema.ReadsBack NeighborInfo.settled ∧
    Neighbor.schema.ReadsBack Neighbor.settled ∧
    Telemetry.schema.ReadsBack (fun m => m) ∧
    DeviceMetrics.schema.ReadsBack (fun m => m) ∧
    HostMetrics.schema.ReadsBack (fun m => m) ∧
    MapReport.schema.ReadsBack (fun m => m) ∧
    StoreAndForward.schema.ReadsBack (fun m => m) :=
  ⟨MeshPacket.roundTrips.readsBack (by decide),
    Data.roundTrips.readsBack (by decide),
    ServiceEnvelope.roundTrips.readsBack (by decide),
    User.roundTrips.readsBack (by decide),
    Position.roundTrips.readsBack (by decide),
    RouteDiscovery.roundTrips.readsBack (by decide),
    Routing.roundTrips.readsBack (by decide),
    Waypoint.roundTrips.readsBack (by decide),
    NeighborInfo.roundTrips.readsBack (by decide),
    Neighbor.roundTrips.readsBack (by decide),
    Telemetry.roundTrips.readsBack (by decide),
    DeviceMetrics.roundTrips.readsBack (by decide),
    HostMetrics.roundTrips.readsBack (by decide),
    MapReport.roundTrips.readsBack (by decide),
    StoreAndForward.roundTrips.readsBack (by decide)⟩

/-- A negative port comes back as it is, a negative zero in front of it does not. -/
theorem messages_readBack_envelope :
    let p : MeshPacket :=
      { sender := 7, rxSnr := .negativeZero, body := some (.decoded { portNumber := -1, bitfield := some 0 }) }
    let e : ServiceEnvelope := { packet := some p, channelId := "é" }
    ServiceEnvelope.schema.decode? (ServiceEnvelope.schema.encode e) =
      some { e with packet := some { p with rxSnr := .zero } } := by
  intro p e
  obtain ⟨hlength, hread⟩ := messages_readBack.2.2.1 e
  exact hread (by rw [← hlength]; decide +kernel)

end RadioMesh
