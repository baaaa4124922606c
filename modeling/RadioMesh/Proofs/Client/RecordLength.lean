import RadioMesh.Proofs.Client.OnAir

/-!
How long the data records are that go out. What is checked of a submission is its payload. The record around it also
names the port and what the payload refers to, so the longest payloads that pass make records longer than radios take.
-/

namespace RadioMesh

/-! ### Records of submissions -/

theorem Port.size_number_le (port : Port) : (Wire.Scalar.int32.put port.number).size ≤ 2 := by
  cases port <;> decide

namespace Submission

variable {s : Submission}

theorem bits_data (s : Submission) :
    (s.data.bitfield.elim 0 fun bits => 1 + (Wire.Scalar.uint32.put bits).size) = 2 := by
  show 1 + (Wire.Scalar.uint32.put (bitfield s.info.wantResponse)).size = 2
  cases s.info.wantResponse <;> decide

theorem framing_data_le (h : s.payload.length ≤ maxPayloadLength) : s.data.framing ≤ 25 := by
  have hpayload : Wire.Varint.size s.data.payload.length ≤ 2 :=
    Wire.Varint.size_le_of_lt (by decide) (Nat.lt_of_le_of_lt h (by decide))
  have hunused : Data.wordSize s.data.dest + Data.wordSize s.data.source = 0 := rfl
  have hrequest := Data.wordSize_le s.data.requestId
  have hreply := Data.wordSize_le s.data.replyId
  have hemoji := Data.wordSize_le s.data.emoji
  have hport : (Wire.Scalar.int32.put s.data.portNumber).size ≤ 2 := s.info.port.size_number_le
  have hwords : Data.wordSize s.data.dest + Data.wordSize s.data.source + Data.wordSize s.data.requestId +
      Data.wordSize s.data.replyId + Data.wordSize s.data.emoji ≤ 15 := by omega
  exact Data.framing_le hport hpayload hwords (Nat.le_of_eq s.bits_data)

/-- A payload of more than 127 bytes takes two bytes for its length, and the bit field is always there. -/
theorem five_le_framing_data (h : 128 ≤ s.payload.length) : 5 ≤ s.data.framing := by
  have hbits := s.bits_data
  have hsize : Wire.Varint.size 128 ≤ Wire.Varint.size s.data.payload.length := Wire.Varint.size_mono h
  have htwo : Wire.Varint.size 128 = 2 := by decide
  have hpayload : s.data.payload ≠ [] := List.ne_nil_of_length_pos (Nat.lt_of_lt_of_le (by decide) h)
  rw [Data.framing, if_neg hpayload]
  omega

end Submission

/-! ### Records on the links -/

/-- A record and how it relates to the length that radios take. It fits exactly if its payload and what stands around
the payload do: a payload of 208 bytes does in any case, and one of more than 228 bytes does in none. -/
structure Data.Sized (d : Data) : Prop where
  fits_iff : (schema.encode d).length ≤ maxDataLength ↔ d.payload.length + d.framing ≤ maxDataLength
  short : d.payload.length ≤ 208 → (schema.encode d).length ≤ maxDataLength
  long : 228 < d.payload.length → maxDataLength < (schema.encode d).length
  length_le : (schema.encode d).length ≤ maxDataLength + 24

theorem Submission.sized_data {s : Submission} (h : s.payload.length ≤ maxPayloadLength) : s.data.Sized := by
  have hpayload : s.data.payload.length ≤ 232 := h
  have hmax : maxDataLength = 233 := rfl
  have hlength := s.data.length_encode
  have hframing := s.framing_data_le h
  exact
    { fits_iff := by rw [hlength]
      short := fun hshort => by omega
      long := fun hlong => by
        have hleast := s.five_le_framing_data (Nat.le_of_lt (Nat.lt_trans (by decide) hlong))
        omega
      length_le := by omega }

namespace Client

/-- Every packet that goes out carries a record whose length the payload and the other fields decide. -/
theorem run_sized (s : Settings) (m₀ : Moment) (actions : List (Moment × Action)) (i : Nat) (name : String)
    (p : MeshPacket) (h : .sent i name p ∈ ((ofSettings s m₀).run actions).effects) :
    ∃ earlier m a later channel data, actions = earlier ++ (m, a) :: later ∧
      (after s m₀ earlier).SendsOn channel a ∧ (after s m₀ earlier).Conveys channel data p name ∧ data.Sized := by
  obtain ⟨earlier, m, a, later, hactions, hsent⟩ := exists_act_of_mem_run h
  obtain ⟨r, c', m', hsetup, hchannel, hsent⟩ := act_sent hsent
  obtain ⟨submission, hcompose, hcheck, hcarries⟩ := send_sent hsent
  have hpayload := (check_eq_ok_iff.1 hcheck).2
  rw [← hsetup.primary, ← compose_channel hcompose] at hchannel
  exact ⟨earlier, m, a, later, submission.channel, submission.data, hactions, hchannel,
    hsetup.conveys hcarries.conveys, Submission.sized_data hpayload⟩

theorem run_sized_greeting :
    let m : Moment := ⟨0, 0, fun _ => 0⟩
    let earlier : List (Moment × Action) := [(m, .addLink { name := "udp" })]
    let greeting : Action := .send (.message ⟨16⟩ .broadcast .defaultChannel "hello" 0 false)
    let actions := earlier ++ [(m, greeting)]
    ∃ p, .sent 0 "LongFast" p ∈ ((ofSettings (.ofNode ⟨16⟩) m).run actions).effects ∧
      ∃ before m' a later channel data, actions = before ++ (m', a) :: later ∧
        (after (.ofNode ⟨16⟩) m before).SendsOn channel a ∧
        (after (.ofNode ⟨16⟩) m before).Conveys channel data p "LongFast" ∧ data.Sized := by
  intro m earlier greeting actions
  have hkey : IsChannelKey ChannelDef.defaultChannel.key := .inr (.inl rfl)
  obtain ⟨p, heffects, -, -⟩ := exists_send (c := after (.ofNode ⟨16⟩) m earlier) (m := m)
    (r := .message ⟨16⟩ .broadcast .defaultChannel "hello" 0 false) rfl rfl hkey rfl
  have hsent : .sent 0 "LongFast" p ∈ ((ofSettings (.ofNode ⟨16⟩) m).run actions).effects := by
    show _ ∈ ((after (.ofNode ⟨16⟩) m earlier).send m _).effects ++ []
    rw [heffects]
    exact List.mem_singleton_self _
  exact ⟨p, hsent, run_sized (.ofNode ⟨16⟩) m actions 0 "LongFast" p hsent⟩

/-- The longest payload that passes makes a record of six bytes more than a radio takes. -/
theorem record_too_long :
    let m : Moment := ⟨0, 0, fun _ => 0⟩
    let c := after (.ofNode ⟨256⟩) m [(m, .addLink { name := "udp" })]
    let longest : Submission :=
      ⟨.defaultChannel, List.replicate 232 0, keyedInfo .textMessage ⟨256⟩ ⟨768⟩⟩
    ∃ p covered, (c.send m (.bytes longest.channel longest.payload longest.info)).effects = [.sent 0 "LongFast" p] ∧
      p.body = some (.encrypted covered) ∧
      applyKey longest.channel.key (Data.schema.encode longest.data) p.id p.sender = .ok covered ∧
      (Data.schema.encode longest.data).length = maxDataLength + 6 := by
  intro m c longest
  have hkey : IsChannelKey longest.channel.key := .inr (.inl rfl)
  have hpayload : longest.data.payload.length = 232 := List.length_replicate
  have hpresent : longest.data.payload ≠ [] := List.ne_nil_of_length_pos (by omega)
  have hcheck : c.check longest = .ok () := check_eq_ok_iff.2 ⟨rfl, Nat.le_of_eq hpayload⟩
  obtain ⟨p, heffects, -, hsent⟩ := exists_send (c := c) (m := m)
    (r := .bytes longest.channel longest.payload longest.info) rfl hcheck hkey rfl
  obtain ⟨covered, hbody, hopened⟩ := hsent.body
  refine ⟨p, covered, heffects, hbody, applyKey_symm hopened, ?_⟩
  rw [Data.length_encode, Data.framing, if_neg hpresent, hpayload]
  decide

end Client

end RadioMesh
