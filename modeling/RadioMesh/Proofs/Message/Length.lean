import RadioMesh.Proofs.Message.RoundTrip
import RadioMesh.Proofs.Wire.Length

/-!
How long the encodings of messages are. Of a data record the length is exact: what stands around the payload depends
on the other fields. Of what a node tells there are bounds, for every value of the numbers.
-/

namespace RadioMesh

open Wire

/-! ### Data records -/

namespace Data

/-- What a word takes that is left out when it is zero. -/
def wordSize (w : UInt32) : Nat :=
  if w = 0 then 0 else 5

/-- What an encoding takes besides the payload: the fields that are written, and the length of the payload. -/
def framing (d : Data) : Nat :=
  (if d.portNumber = 0 then 0 else 1 + (Scalar.int32.put d.portNumber).size) +
    (if d.payload = [] then 0 else 1 + Varint.size d.payload.length) + (if d.wantResponse then 2 else 0) +
    wordSize d.dest + wordSize d.source + wordSize d.requestId + wordSize d.replyId + wordSize d.emoji +
    d.bitfield.elim 0 fun bits => 1 + (Scalar.uint32.put bits).size

theorem length_word {number : Nat} {name : String} {get : Data → UInt32} {set : UInt32 → Data → Data} (d : Data)
    (hnumber : keySize number = 1) :
    (Field.plain number name .fixed32 get set).length d = wordSize (get d) := by
  show (if (get d == 0) = true then 0 else keySize number + 4) = _
  rw [hnumber, wordSize]
  simp only [beq_iff_eq]

theorem length_encode (d : Data) : (schema.encode d).length = d.payload.length + d.framing := by
  have hport : (Field.plain 1 "portnum" .int32 (·.portNumber) fun v (m : Data) => { m with portNumber := v }).length d =
      if d.portNumber = 0 then 0 else 1 + (Scalar.int32.put d.portNumber).size := by
    show (if (d.portNumber == 0) = true then 0 else _) = _
    simp only [beq_iff_eq]
    rfl
  have hpayload : (Field.plain 2 "payload" .bytes (·.payload) fun v (m : Data) => { m with payload := v }).length d =
      (if d.payload = [] then 0 else 1 + Varint.size d.payload.length) + d.payload.length := by
    show (if d.payload.isEmpty = true then 0 else 1 + (Varint.size d.payload.length + d.payload.length)) = _
    cases d.payload with
    | nil => rfl
    | cons b bs => simp [Nat.add_assoc]
  have hresponse : (Field.plain 3 "want_response" .bool (·.wantResponse) fun v (m : Data) =>
      { m with wantResponse := v }).length d = if d.wantResponse then 2 else 0 := by
    show (if (!d.wantResponse) = true then 0 else 1 + (Scalar.bool.put d.wantResponse).size) = _
    cases d.wantResponse <;> rfl
  have hbits : (Field.optional 9 "bitfield" .uint32 (·.bitfield) fun v (m : Data) =>
      { m with bitfield := v }).length d = d.bitfield.elim 0 fun bits => 1 + (Scalar.uint32.put bits).size := rfl
  rw [← roundTrips.length]
  simp only [Schema.encodedLength, schema, List.foldr_cons, List.foldr_nil, hport, hpayload, hresponse, hbits,
    length_word d (rfl : keySize 4 = 1), length_word d (rfl : keySize 5 = 1), length_word d (rfl : keySize 6 = 1),
    length_word d (rfl : keySize 7 = 1), length_word d (rfl : keySize 8 = 1)]
  rw [framing]
  omega

theorem wordSize_le (w : UInt32) : wordSize w ≤ 5 := by
  rw [wordSize]
  split
  · exact Nat.zero_le 5
  · exact Nat.le_refl 5

theorem framing_le {d : Data} {port payload words bits : Nat} (hport : (Scalar.int32.put d.portNumber).size ≤ port)
    (hpayload : Varint.size d.payload.length ≤ payload)
    (hwords : wordSize d.dest + wordSize d.source + wordSize d.requestId + wordSize d.replyId + wordSize d.emoji ≤
      words)
    (hbits : (d.bitfield.elim 0 fun bits => 1 + (Scalar.uint32.put bits).size) ≤ bits) :
    d.framing ≤ 4 + port + payload + words + bits := by
  unfold framing
  split <;> split <;> split <;> omega

theorem length_encode_le {d : Data} (h : d.payload.length < 2 ^ 64) :
    (schema.encode d).length ≤ 55 + d.payload.length := by
  have hdest := wordSize_le d.dest
  have hsource := wordSize_le d.source
  have hrequest := wordSize_le d.requestId
  have hreply := wordSize_le d.replyId
  have hemoji := wordSize_le d.emoji
  have hbits : (d.bitfield.elim 0 fun bits => 1 + (Scalar.uint32.put bits).size) ≤ 6 := by
    cases d.bitfield with
    | none => exact Nat.zero_le 6
    | some bits => exact Nat.add_le_add_left (Scalar.size_put_uint32_le bits) 1
  have hwords : wordSize d.dest + wordSize d.source + wordSize d.requestId + wordSize d.replyId + wordSize d.emoji ≤
      25 := by omega
  have hframing := framing_le (Scalar.size_put_int32_le _) (Varint.size_le h) hwords hbits
  rw [length_encode]
  omega

end Data

/-! ### What a node tells -/

theorem User.length_encode_le {u : User} (hid : u.id.utf8ByteSize ≤ 9) (hlong : u.longName.utf8ByteSize ≤ 39)
    (hshort : u.shortName.utf8ByteSize ≤ 4) (hmac : u.macAddress.length ≤ 6) (hkey : u.publicKey.length ≤ 32) :
    (schema.encode u).length ≤ 126 := by
  rw [← roundTrips.length]
  have hfields : List.Forall₂ (fun f k => f.length u ≤ k) schema.fields [11, 41, 6, 8, 11, 2, 11, 34, 2] :=
    .cons (Field.length_plain_le (Scalar.size_put_text_le hid)) <|
    .cons (Field.length_plain_le (Scalar.size_put_text_le hlong)) <|
    .cons (Field.length_plain_le (Scalar.size_put_text_le hshort)) <|
    .cons (Field.length_plain_le (Scalar.size_put_bytes_le hmac)) <|
    .cons (Field.length_plain_le (Scalar.size_put_int32_le _)) <|
    .cons (Field.length_plain_le (Scalar.size_put_bool_le _)) <|
    .cons (Field.length_plain_le (Scalar.size_put_int32_le _)) <|
    .cons (Field.length_plain_le (Scalar.size_put_bytes_le hkey)) <|
    .cons (Field.length_optional_le fun v _ => Scalar.size_put_bool_le v) .nil
  exact Schema.encodedLength_le hfields

theorem Position.length_encode_le (p : Position) : (schema.encode p).length ≤ 51 := by
  rw [← roundTrips.length]
  have hfields : List.Forall₂ (fun f k => f.length p ≤ k) schema.fields [5, 5, 11, 5, 5, 6, 7, 7] :=
    .cons (Field.length_optional_le (k := 4) fun _ _ => Nat.le_refl 4) <|
    .cons (Field.length_optional_le (k := 4) fun _ _ => Nat.le_refl 4) <|
    .cons (Field.length_optional_le fun v _ => Scalar.size_put_int32_le v) <|
    .cons (Field.length_plain_le (k := 4) (Nat.le_refl 4)) <|
    .cons (Field.length_plain_le (k := 4) (Nat.le_refl 4)) <|
    .cons (Field.length_optional_le fun v _ => Scalar.size_put_uint32_le v) <|
    .cons (Field.length_optional_le fun v _ => Scalar.size_put_uint32_le v) <|
    .cons (Field.length_plain_le (Scalar.size_put_uint32_le _)) .nil
  exact Schema.encodedLength_le hfields

theorem Waypoint.length_encode_le {w : Waypoint} (hname : w.name.utf8ByteSize ≤ 0)
    (hdescription : w.description.utf8ByteSize ≤ 0) : (schema.encode w).length ≤ 37 := by
  rw [← roundTrips.length]
  have hfields : List.Forall₂ (fun f k => f.length w ≤ k) schema.fields [6, 5, 5, 6, 6, 2, 2, 5] :=
    .cons (Field.length_plain_le (Scalar.size_put_uint32_le _)) <|
    .cons (Field.length_optional_le (k := 4) fun _ _ => Nat.le_refl 4) <|
    .cons (Field.length_optional_le (k := 4) fun _ _ => Nat.le_refl 4) <|
    .cons (Field.length_plain_le (Scalar.size_put_uint32_le _)) <|
    .cons (Field.length_plain_le (Scalar.size_put_uint32_le _)) <|
    .cons (Field.length_plain_le (Scalar.size_put_text_le hname)) <|
    .cons (Field.length_plain_le (Scalar.size_put_text_le hdescription)) <|
    .cons (Field.length_plain_le (k := 4) (Nat.le_refl 4)) .nil
  exact Schema.encodedLength_le hfields

/-- A neighbor of which only the address is told. -/
theorem Neighbor.encodedLength_le (node : UInt32) : schema.encodedLength { nodeId := node } ≤ 6 := by
  have hfields : List.Forall₂ (fun f k => f.length { nodeId := node } ≤ k) schema.fields [6, 0, 0, 0] :=
    .cons (Field.length_plain_le (Scalar.size_put_uint32_le _)) <|
    .cons (Field.length_plain_omitted_le (by decide : Scalar.float.omits .zero = true)) <|
    .cons (Field.length_plain_omitted_le rfl) <|
    .cons (Field.length_plain_omitted_le rfl) .nil
  exact Schema.encodedLength_le hfields

theorem NeighborInfo.length_encode_le {n : NeighborInfo} (hcount : n.neighbors.length ≤ 10)
    (hbare : ∀ x ∈ n.neighbors, ∃ node, x = { nodeId := node }) : (schema.encode n).length ≤ 98 := by
  have hneighbor : ∀ x ∈ n.neighbors, delimitedSize (Neighbor.schema.encodedLength x) ≤ 7 := by
    intro x hx
    obtain ⟨node, rfl⟩ := hbare x hx
    exact delimitedSize_mono (Neighbor.encodedLength_le node)
  have hneighbors : (Field.messages 4 "neighbors" Neighbor.schema (·.neighbors) fun v (m : NeighborInfo) =>
      { m with neighbors := v }).length n ≤ 80 :=
    (Field.length_messages_le hneighbor).trans (Nat.mul_le_mul_left 8 hcount)
  have hfields : List.Forall₂ (fun f k => f.length n ≤ k) schema.fields [6, 6, 6, 80] :=
    .cons (Field.length_plain_le (Scalar.size_put_uint32_le _)) <|
    .cons (Field.length_plain_le (Scalar.size_put_uint32_le _)) <|
    .cons (Field.length_plain_le (Scalar.size_put_uint32_le _)) <| .cons hneighbors .nil
  rw [← roundTrips.length]
  exact Schema.encodedLength_le hfields

/-! ### Measurements -/

theorem DeviceMetrics.encodedLength_le (d : DeviceMetrics) : schema.encodedLength d ≤ 27 := by
  have hfields : List.Forall₂ (fun f k => f.length d ≤ k) schema.fields [6, 5, 5, 5, 6] :=
    .cons (Field.length_optional_le fun v _ => Scalar.size_put_uint32_le v) <|
    .cons (Field.length_optional_le (k := 4) fun _ _ => Nat.le_refl 4) <|
    .cons (Field.length_optional_le (k := 4) fun _ _ => Nat.le_refl 4) <|
    .cons (Field.length_optional_le (k := 4) fun _ _ => Nat.le_refl 4) <|
    .cons (Field.length_optional_le fun v _ => Scalar.size_put_uint32_le v) .nil
  exact Schema.encodedLength_le hfields

theorem Telemetry.length_encode_device_le (time : UInt32) (d : DeviceMetrics) :
    (schema.encode ⟨time, some (.device d)⟩).length ≤ 34 := by
  have hdevice : keySize 2 + delimitedSize (DeviceMetrics.schema.encodedLength d) ≤ 29 :=
    Nat.add_le_add_left (delimitedSize_mono d.encodedLength_le) 1
  have hfields : List.Forall₂ (fun f k => f.length ⟨time, some (.device d)⟩ ≤ k) schema.fields [5, 29] :=
    .cons (Field.length_plain_le (k := 4) (Nat.le_refl 4)) <| .cons hdevice .nil
  rw [← roundTrips.length]
  exact Schema.encodedLength_le hfields

/-! ### Routing -/

theorem Routing.length_encode_ofError_le (reason : RoutingError) : (schema.encode (.ofError reason)).length ≤ 11 := by
  have hreason : keySize 3 + (Scalar.int32.put reason.number).size ≤ 11 :=
    Nat.add_le_add_left (Scalar.size_put_int32_le _) 1
  have hfields : List.Forall₂ (fun f k => f.length (.ofError reason) ≤ k) schema.fields [11] :=
    .cons hreason .nil
  rw [← roundTrips.length]
  exact Schema.encodedLength_le hfields

theorem RouteDiscovery.length_encode_le (r : RouteDiscovery) : (schema.encode r).length ≤ 4 +
    delimitedSize (4 * r.route.length) + delimitedSize (10 * r.snrTowards.length) +
    delimitedSize (4 * r.routeBack.length) + delimitedSize (10 * r.snrBack.length) := by
  have hword : ∀ v, (Scalar.fixed32.put v).size ≤ 4 := fun _ => Nat.le_refl 4
  have hfields : List.Forall₂ (fun f k => f.length r ≤ k) schema.fields
      [1 + delimitedSize (4 * r.route.length), 1 + delimitedSize (10 * r.snrTowards.length),
        1 + delimitedSize (4 * r.routeBack.length), 1 + delimitedSize (10 * r.snrBack.length)] :=
    .cons (Field.length_packed_le hword) <|
    .cons (Field.length_packed_le Scalar.size_put_int32_le) <|
    .cons (Field.length_packed_le hword) <|
    .cons (Field.length_packed_le Scalar.size_put_int32_le) .nil
  rw [← roundTrips.length]
  refine (Schema.encodedLength_le hfields).trans (Nat.le_of_eq ?_)
  simp only [List.sum_cons, List.sum_nil]
  omega

end RadioMesh
