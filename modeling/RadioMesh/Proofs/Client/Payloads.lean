import RadioMesh.Proofs.Client.FanOut
import RadioMesh.Proofs.Client.Handling
import RadioMesh.Proofs.Traceroute.Path

/-!
Payloads that a client makes itself. Whatever it is asked to tell of a node, of its neighbors or of a route, what it
makes of it fits a packet, so none of these requests fails for its length.
-/

namespace RadioMesh

/-! ### Texts of nodes -/

theorem Bytes.utf8Size_hexDigit : ∀ n < 16, (hexDigit n).utf8Size = 1 := by
  decide

theorem NodeId.utf8ByteSize_text (n : NodeId) : n.text.utf8ByteSize = 9 := by
  have hdigits (bs : Bytes) :
      String.utf8Len (bs.flatMap fun b => [Bytes.hexDigit (b.toNat / 16), Bytes.hexDigit (b.toNat % 16)]) =
        2 * bs.length := by
    induction bs with
    | nil => rfl
    | cons b bs ih =>
      have hb := b.toNat_lt
      rw [List.flatMap_cons, String.utf8Len_append, ih, String.utf8Len_cons, String.utf8Len_cons, String.utf8Len_nil,
        Bytes.utf8Size_hexDigit _ (by omega), Bytes.utf8Size_hexDigit _ (by omega), List.length_cons]
      omega
  rw [text, String.utf8ByteSize_ofList, String.utf8Len_cons, digits, hdigits]
  rfl

theorem NodeId.length_macAddress (n : NodeId) : n.macAddress.length = 6 := rfl

/-- Requests of which the client makes the payload. A public key is as long as nodes have them. -/
inductive Request.Own : Request → Prop
  | nodeInfo {sender dest : NodeId} {longName shortName : String} {wantResponse : Bool} {publicKey : Option Bytes}
    (hkey : ∀ key ∈ publicKey, key.length ≤ 32) :
    Own (.nodeInfo sender dest longName shortName wantResponse publicKey)
  | position (sender dest : NodeId) (place : GeoUri) (timestamp : Int) (wantResponse : Bool) :
    Own (.position sender dest place timestamp wantResponse)
  | deleteWaypoint (sender dest : NodeId) (channel : ChannelDef) (id : UInt32) :
    Own (.deleteWaypoint sender dest channel id)
  | telemetry (sender dest : NodeId) : Own (.telemetry sender dest)
  | telemetryResponse (sender dest : NodeId) (channel : ChannelDef) (protection : Protection) (requestId : UInt32) :
    Own (.telemetryResponse sender dest channel protection requestId)
  | neighborInfo (sender : NodeId) (neighbors : List NodeId) (interval : UInt32) :
    Own (.neighborInfo sender neighbors interval)
  | neighborInfoResponse (sender dest : NodeId) (neighbors : List NodeId) (interval : UInt32) (channel : ChannelDef)
    (protection : Protection) (requestId : UInt32) :
    Own (.neighborInfoResponse sender dest neighbors interval channel protection requestId)
  | ack (sender dest : NodeId) (packetId : UInt32) : Own (.ack sender dest packetId)
  | nack (dest : NodeId) (packetId : UInt32) : Own (.nack dest packetId)
  | traceroute (sender dest : NodeId) (channel : ChannelDef) : Own (.traceroute sender dest channel)

namespace Client

variable {c : Client} {m : Moment}

/-! ### What is made -/

theorem checkNodeInfo_eq_ok {now : Instant} {sender : NodeId} {longName shortName : String}
    (h : c.checkNodeInfo now sender longName shortName = .ok ()) :
    longName.utf8ByteSize ≤ maxLongName ∧ shortName.utf8ByteSize ≤ maxShortName := by
  unfold checkNodeInfo at h
  split at h
  · cases h
  · next hlong =>
    split at h
    · cases h
    · next hshort => exact ⟨Nat.le_of_not_lt hlong, Nat.le_of_not_lt hshort⟩

theorem length_encode_user_le {sender : NodeId} {longName shortName : String} {publicKey : Option Bytes}
    (hlong : longName.utf8ByteSize ≤ maxLongName) (hshort : shortName.utf8ByteSize ≤ maxShortName)
    (hkey : ∀ key ∈ publicKey, key.length ≤ 32) :
    (User.schema.encode (c.user sender longName shortName publicKey)).length ≤ maxPayloadLength := by
  have hlength : (publicKey.getD []).length ≤ 32 := by
    cases publicKey with
    | none => exact Nat.zero_le 32
    | some key => exact hkey key rfl
  exact (User.length_encode_le (u := c.user sender longName shortName publicKey)
    (Nat.le_of_eq sender.utf8ByteSize_text) hlong hshort (Nat.le_of_eq sender.length_macAddress) hlength).trans
    (by decide)

theorem length_encode_neighborInfo_le (sender : NodeId) (neighbors : List NodeId) (interval : UInt32) :
    (NeighborInfo.schema.encode (RadioMesh.neighborInfo sender neighbors interval)).length ≤ maxPayloadLength := by
  have hcount : (RadioMesh.neighborInfo sender neighbors interval).neighbors.length ≤ maxNeighbors := by
    rw [RadioMesh.neighborInfo, List.length_map]
    exact List.length_take_le _ _
  have hbare : ∀ x ∈ (RadioMesh.neighborInfo sender neighbors interval).neighbors,
      ∃ node, x = ({ nodeId := node } : Neighbor) := by
    intro x hx
    obtain ⟨node, -, rfl⟩ := List.mem_map.1 hx
    exact ⟨node.value, rfl⟩
  exact (NeighborInfo.length_encode_le hcount hbare).trans (by decide)

theorem length_encode_firstRoute_le (c : Client) (sender : NodeId) :
    (RouteDiscovery.schema.encode (c.firstRoute sender)).length ≤ maxPayloadLength := by
  have hshort : (c.firstRoute sender).Short .towards 1 ∧ (c.firstRoute sender).Short .back 0 := by
    unfold firstRoute
    split
    · exact ⟨⟨Nat.zero_le 1, Nat.zero_le 1⟩, ⟨Nat.le_refl 0, Nat.le_refl 0⟩⟩
    · exact ⟨⟨Nat.le_refl 1, Nat.le_refl 1⟩, ⟨Nat.le_refl 0, Nat.le_refl 0⟩⟩
  exact (RouteDiscovery.length_encode_le_of_short hshort.1 hshort.2).trans (by decide)

theorem length_payload_le {r : Request} (h : r.Own) {s : Submission} (hcompose : c.compose m r = .ok s) :
    s.payload.length ≤ maxPayloadLength := by
  cases h with
  | nodeInfo hkey =>
    obtain ⟨⟨⟩, hcheck, hs⟩ := exists_of_bind_eq_ok hcompose
    obtain ⟨hlong, hshort⟩ := checkNodeInfo_eq_ok hcheck
    cases hs
    dsimp only
    exact length_encode_user_le hlong hshort hkey
  | position sender dest place timestamp wantResponse =>
    cases hcompose
    exact (Position.length_encode_le _).trans (by decide)
  | deleteWaypoint sender dest channel id =>
    cases hcompose
    have hlength : (Waypoint.schema.encode (expiredWaypoint id)).length ≤ 37 :=
      Waypoint.length_encode_le (Nat.le_refl 0) (Nat.le_refl 0)
    exact hlength.trans (by decide)
  | telemetry sender dest =>
    cases hcompose
    exact (Telemetry.length_encode_device_le _ _).trans (by decide)
  | telemetryResponse sender dest channel protection requestId =>
    cases hcompose
    exact (Telemetry.length_encode_device_le _ _).trans (by decide)
  | neighborInfo sender neighbors interval =>
    cases hcompose
    exact length_encode_neighborInfo_le sender neighbors interval
  | neighborInfoResponse sender dest neighbors interval channel protection requestId =>
    cases hcompose
    exact length_encode_neighborInfo_le sender neighbors interval
  | ack sender dest packetId =>
    cases hcompose
    exact (Routing.length_encode_ofError_le _).trans (by decide)
  | nack dest packetId =>
    cases hcompose
    exact (Routing.length_encode_ofError_le _).trans (by decide)
  | traceroute sender dest channel =>
    cases hcompose
    exact c.length_encode_firstRoute_le sender

/-- Only an announcement is refused before it has a payload. -/
theorem exists_compose {r : Request} (h : r.Own) : (∃ s, c.compose m r = .ok s) ∨
    ∃ sender dest longName shortName wantResponse publicKey e,
      r = .nodeInfo sender dest longName shortName wantResponse publicKey ∧
        c.checkNodeInfo m.now sender longName shortName = .error e := by
  cases h with
  | @nodeInfo sender dest longName shortName wantResponse publicKey hkey =>
    cases hcheck : c.checkNodeInfo m.now sender longName shortName with
    | error e => exact .inr ⟨_, _, _, _, _, _, e, rfl, hcheck⟩
    | ok _ =>
      refine .inl ⟨⟨c.primary, User.schema.encode (c.user sender longName shortName publicKey),
        asking (keyedInfo .nodeinfo sender dest) wantResponse⟩, ?_⟩
      rw [compose, hcheck]
      rfl
  | _ => exact .inl ⟨_, rfl⟩

/-! ### What is refused for its length -/

theorem Refuses.length_lt {s : Submission} {max actual : Nat} (h : c.Refuses s (.payloadTooLarge max actual)) :
    maxPayloadLength < s.payload.length := by
  cases h with
  | tooLarge _ hpayload => exact hpayload
  | privateKey _ _ _ hprivate => cases hprivate
  | publicKey _ _ _ _ hpublic => cases hpublic

theorem transmit_length_lt {s : Submission} {max actual : Nat}
    (h : (c.transmit m s).value = .error (.payloadTooLarge max actual)) : maxPayloadLength < s.payload.length := by
  rcases (c.transmit_outcome m s).other _ h with ⟨_, hfailed⟩ | ⟨-, hrefuses | ⟨hlinks, -⟩⟩
  · cases hfailed
  · exact hrefuses.length_lt
  · cases hlinks

theorem compose_ne_payloadTooLarge (c : Client) (m : Moment) (r : Request) (max actual : Nat) :
    c.compose m r ≠ .error (.payloadTooLarge max actual) := by
  intro h
  cases r with
  | nodeInfo sender dest longName shortName wantResponse publicKey =>
    rcases bind_eq_error_iff.1 h with hcheck | ⟨_, -, h⟩
    · unfold checkNodeInfo at hcheck
      split at hcheck
      · cases hcheck
      · split at hcheck
        · cases hcheck
        · split at hcheck <;> cases hcheck
    · cases h
  | mapReport sender longName shortName place onlineNodes =>
    rw [compose] at h
    split at h <;> cases h
  | hostMetrics sender dest =>
    rcases bind_eq_error_iff.1 h with hhost | ⟨_, -, h⟩
    · obtain ⟨_, -, hcause⟩ := mapError_eq_error_iff.1 hhost
      cases hcause
    · cases h
  | hostMetricsResponse sender dest channel protection requestId =>
    rcases bind_eq_error_iff.1 h with hhost | ⟨_, -, h⟩
    · obtain ⟨_, -, hcause⟩ := mapError_eq_error_iff.1 hhost
      cases hcause
    · cases h
  | _ => cases h

/-- Whoever is told that a payload is too large asked for one that is. -/
theorem send_length_lt {r : Request} {max actual : Nat}
    (h : (c.send m r).value = .error (.payloadTooLarge max actual)) :
    ∃ s, c.compose m r = .ok s ∧ maxPayloadLength < s.payload.length := by
  unfold send at h
  split at h
  · next hcompose =>
    cases h
    exact absurd hcompose (c.compose_ne_payloadTooLarge m r max actual)
  · next s hcompose =>
    dsimp only at h
    split at h
    · next hvalue =>
      cases h
      exact ⟨s, hcompose, transmit_length_lt hvalue⟩
    · cases h

/-! ### Payloads of the client's own -/

/-- A request that does not fail for the length of its payload. -/
structure Fits (c : Client) (m : Moment) (r : Request) : Prop where
  payload : ∀ s, c.compose m r = .ok s → s.payload.length ≤ maxPayloadLength
  value : ∀ max actual, (c.send m r).value ≠ .error (.payloadTooLarge max actual)

theorem fits_of_payload {r : Request} (h : ∀ s, c.compose m r = .ok s → s.payload.length ≤ maxPayloadLength) :
    c.Fits m r where
  payload := h
  value _ _ hvalue := by
    obtain ⟨s, hcompose, hlarge⟩ := send_length_lt hvalue
    exact Nat.not_lt_of_le (h s hcompose) hlarge

theorem fits_own {r : Request} (h : r.Own) : c.Fits m r :=
  fits_of_payload fun _ => length_payload_le h

theorem requestTraceroute_ne_payloadTooLarge (c : Client) (m : Moment) (sender target : NodeId) (channel : ChannelDef)
    (context : String) (max actual : Nat) :
    (c.requestTraceroute m sender target channel context).value ≠ .error (.payloadTooLarge max actual) := by
  intro h
  unfold requestTraceroute at h
  split at h
  · cases h
  · next c' _ =>
    dsimp only at h
    unfold concludeTraceroute at h
    split at h
    · cases h
    · next hvalue =>
      cases h
      exact (fits_own (.traceroute sender target channel)).value max actual hvalue

/-- The answers to a traceroute over no more hops than a radio grants. -/
theorem fits_answerTraceroute {asked : Client} {received : Received} {route : RouteDiscovery}
    (hhops : received.packet.hopStart.toNat ≤ maxHops.toNat) (hthere : route.Short .towards maxHops.toNat)
    (hback : route.Short .back 0) {q : Request} (hq : q ∈ (asked.answerTraceroute received route).requests) :
    c.Fits m q := by
  rcases eq_of_mem_answerTraceroute hq with ⟨-, rfl⟩ | rfl
  · exact fits_own (.ack _ _ _)
  · refine fits_of_payload fun s hcompose => ?_
    cases hcompose
    exact RouteDiscovery.length_encode_complete_le hthere hback (by omega)

/-- What a client makes itself fits, and of that only an announcement is refused before it is made. So do traceroutes
with a context and, whoever sends them, the answers to traceroutes over no more hops than a radio grants. -/
theorem own_payloads_fit (c : Client) (m : Moment) :
    (∀ r : Request, r.Own → c.Fits m r ∧ ((∃ s, c.compose m r = .ok s) ∨
      ∃ sender dest longName shortName wantResponse publicKey e,
        r = .nodeInfo sender dest longName shortName wantResponse publicKey ∧
          c.checkNodeInfo m.now sender longName shortName = .error e)) ∧
    (∀ sender target channel context max actual,
      (c.requestTraceroute m sender target channel context).value ≠ .error (.payloadTooLarge max actual)) ∧
    ∀ (asked : Client) (received : Received) (route : RouteDiscovery), received.packet.hopStart.toNat ≤ 7 →
      route.Short .towards 7 → route.Short .back 0 →
        ∀ q ∈ (asked.answerTraceroute received route).requests, c.Fits m q :=
  ⟨fun _ hown => ⟨fits_own hown, exists_compose hown⟩, c.requestTraceroute_ne_payloadTooLarge m,
    fun _ _ _ hhops hthere hback _ => fits_answerTraceroute hhops hthere hback⟩

/-- A thousand neighbors, and the answer to a traceroute that passed seven nodes. -/
theorem own_payloads_fit_full :
    let m : Moment := ⟨0, 0, fun _ => 0⟩
    let c := after (.ofNode ⟨256⟩) m [(m, .addLink { name := "udp" })]
    let full : RouteDiscovery := { route := List.replicate 7 300, snrTowards := List.replicate 7 unknownSnr }
    let packet : MeshPacket := { sender := 16, dest := 256, id := 5, hopStart := 7, relayNode := 17 }
    let received : Received := ⟨packet, {}, .defaultChannel, .channelKey, ⟨17⟩, .udp⟩
    c.Fits m (.neighborInfo ⟨256⟩ (List.replicate 1000 ⟨300⟩) 900) ∧
      ∃ q, q ∈ (c.answerTraceroute received full).requests ∧ c.Fits m q := by
  intro m c full packet received
  obtain ⟨hown, -, hanswer⟩ := own_payloads_fit c m
  refine ⟨(hown _ (.neighborInfo _ _ _)).1, _, List.mem_singleton_self _, ?_⟩
  exact hanswer c received full (by decide) (by unfold RouteDiscovery.Short; decide)
    (by unfold RouteDiscovery.Short; decide) _ (List.mem_singleton_self _)

end Client

end RadioMesh
