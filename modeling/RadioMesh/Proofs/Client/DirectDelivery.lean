import RadioMesh.Proofs.Client.Outgoing
import RadioMesh.Proofs.Client.SenderKey

/-!
From one client to another, sealed. The sender seals with its own private key and the key known for the
addressee, and writes its own public key into the packet; the addressee opens with its private key and the key in
the packet. Both come to the same key, and the receiver tells the message under the name of sealed packets.
-/

namespace RadioMesh

/-- A packet that a submission went out as, sealed with a private key for the owner of a public key. -/
structure Submission.SealedAs (s : Submission) (privateKey publicKey : Bytes) (p : MeshPacket) : Prop where
  sender : p.sender = s.info.sender.value
  dest : p.dest = s.info.dest.value
  pkiEncrypted : p.pkiEncrypted = true
  own : p.publicKey = Cipher.Curve25519.publicKey privateKey
  body : ∃ covered extra, p.body = some (.encrypted covered) ∧
    Direct.sealFor (Data.schema.encode s.data) privateKey publicKey p.id p.sender extra = .ok covered

/-- What may be sent can be sealed. -/
theorem Submission.length_encode_data_le {s : Submission} (h : s.payload.length ≤ maxPayloadLength) :
    (Data.schema.encode s.data).length ≤ Cipher.Ccm.maxLength := by
  have hpayload : s.data.payload.length ≤ 232 := h
  have hle := Data.length_encode_le (d := s.data) (by omega)
  have hmax : Cipher.Ccm.maxLength = 65535 := rfl
  omega

namespace Client

/-- A source of key texts has a text for a node that a key is read from. -/
def HasKey (source : NodeId → Option String) (node : NodeId) (key : Bytes) : Prop :=
  ∃ text, source node = some text ∧ Key.parse text = .ok key

theorem HasKey.keyFrom {source : NodeId → Option String} {node : NodeId} {key : Bytes}
    (h : HasKey source node key) (hlength : key.length = 32) : keyFrom source node = .ok key := by
  obtain ⟨text, htext, hparse⟩ := h
  refine keyFrom_of_parse htext hparse ?_
  rintro rfl
  simp at hlength

/-! ### The sender -/

/-- A client can seal a submission with a private key for the owner of a public key. -/
structure CanSeal (c : Client) (s : Submission) (privateKey publicKey : Bytes) : Prop where
  protection : s.info.protection = .direct
  dest : s.info.dest.isBroadcast = false
  managed : c.isManaged s.info.sender = true
  payload : s.payload.length ≤ 232
  hasPrivate : c.privateKey s.info.sender = .ok privateKey
  hasPublic : c.publicKey s.info.dest = .ok publicKey
  privateLength : privateKey.length = 32
  publicLength : publicKey.length = 32

namespace CanSeal

variable {c : Client} {m : Moment} {s : Submission} {privateKey publicKey : Bytes}

theorem exists_protect (h : c.CanSeal s privateKey publicKey) {p : MeshPacket}
    (hsender : p.sender = s.info.sender.value) (hdest : p.dest = s.info.dest.value) (extra : UInt32) :
    ∃ q, c.protect s p extra = .ok ⟨ChannelDef.directName, q⟩ ∧ s.SealedAs privateKey publicKey q := by
  obtain ⟨covered, hcovered⟩ :=
    Direct.exists_sealFor h.privateLength h.publicLength (Submission.length_encode_data_le h.payload) p.id p.sender
      extra
  have hown := Direct.publicKey_eq h.privateLength
  refine ⟨{ p with
      pkiEncrypted := true
      publicKey := Cipher.Curve25519.publicKey privateKey
      body := some (.encrypted covered) }, ?_, hsender, hdest, rfl, rfl, covered, extra, rfl, hcovered⟩
  simp only [protect, h.protection, h.dest, h.hasPrivate, h.hasPublic, hown, hcovered, bind, Except.bind,
    Except.mapError]
  rfl

theorem exists_built? (h : c.CanSeal s privateKey publicKey) {r : Request} (hcompose : c.compose m r = .ok s) :
    ∃ p, c.built? m r = some ⟨ChannelDef.directName, p⟩ ∧ s.SealedAs privateKey publicKey p := by
  obtain ⟨p, hprotect, hsealed⟩ :=
    h.exists_protect (p := c.header m.epoch s (c.packetIds.next m.words).1) rfl rfl (m.words 2)
  exact ⟨p, built?_of_protect hcompose (check_eq_ok_iff.2 ⟨h.managed, h.payload⟩) hprotect, hsealed⟩

end CanSeal

/-! ### The receiver -/

section Receiver
variable {c : Client} {d : Delivery} {s : Submission} {a b : Bytes}

theorem open?_of_sealedAs (hsealed : s.SealedAs a (Cipher.Curve25519.publicKey b) d.packet)
    (hshared : Direct.sharedKey b (Cipher.Curve25519.publicKey a) =
      Direct.sharedKey a (Cipher.Curve25519.publicKey b))
    (hdest : s.info.dest.isBroadcast = false) (hmanaged : c.isManaged s.info.dest = true)
    (hprivate : c.privateKey s.info.dest = .ok b) (hport : s.info.port ≠ .unknown)
    (hpayload : s.payload.length ≤ 232) :
    c.open? d = some ⟨d.packet, s.data, .unencrypted ChannelDef.directName, .direct, d.via, d.source⟩ := by
  obtain ⟨covered, extra, hbody, hcovered⟩ := hsealed.body
  have hto : NodeId.mk d.packet.dest = s.info.dest := by rw [hsealed.dest]
  have hmay : c.mayBeDirect d = true := by
    simp [mayBeDirect, hsealed.pkiEncrypted, hto, hdest, hmanaged]
  have hkey : c.senderKey d.packet = .ok (Cipher.Curve25519.publicKey a) := by
    rw [senderKey, hsealed.own]
    exact if_pos (Direct.length_curve_publicKey a)
  have hread := Submission.read_encode_data hport hpayload
  exact open?_of_sealFor hbody hcovered hread hmay (hto ▸ hprivate) hkey hshared

end Receiver

/-! ### From one to the other -/

/-- What a message to one node comes to. -/
def sealedMessage (sender dest : NodeId) (channel : ChannelDef) (text : String) (replyId : UInt32) : Submission :=
  ⟨channel, Bytes.ofString text, { textInfo sender dest true with replyId := replyId }⟩

/-- Its data is that of the message under a channel's key. -/
theorem ofData_sealedMessage {sender dest : NodeId} {channel : ChannelDef} {text : String} {replyId : UInt32}
    (htext : text.utf8ByteSize ≤ 232) (e : Envelope) (epoch : UInt32) :
    Meaning.ofData e epoch (sealedMessage sender dest channel text replyId).data =
      .event (.message e text replyId) := by
  have htells : Submission.Tells _ (.message sender dest channel text replyId) := .message text replyId
  have hlength : (Bytes.ofString text).length < 2 ^ 64 := Nat.lt_of_le_of_lt htext (by decide)
  exact htells.meaning hlength e epoch

/-- A message sealed by one client is heard by the addressee's client as that message, if the two key agreements
come to the same and no packet of its sender and ID came before, whatever channel the link names. -/
theorem direct_delivery (sending : Client) (m : Moment) (sender dest : NodeId) (channel : ChannelDef)
    (text : String) (replyId : UInt32) (a b : Bytes) (ha : a.length = 32) (hb : b.length = 32)
    (hagree : Cipher.Curve25519.agree a (Cipher.Curve25519.publicKey b) =
      Cipher.Curve25519.agree b (Cipher.Curve25519.publicKey a))
    (hdest : dest.isBroadcast = false) (hmanaged : sending.isManaged sender = true)
    (hprivate : HasKey sending.directory.privateKey sender a)
    (hpublic : HasKey sending.directory.publicKey dest (Cipher.Curve25519.publicKey b))
    (htext : text.utf8ByteSize ≤ 232) :
    ∃ p : MeshPacket,
      (sending.send m (.message sender dest channel text replyId true)).effects =
        accepted sending.links ⟨"PKI", p⟩ ∧
      (sending.send m (.message sender dest channel text replyId true)).value =
        (fanOut sending.links).map (fun () => p.id) ∧
      ∀ (receiving : Client) (m' : Moment) (d : Delivery),
        d.packet = p → receiving.isManaged dest = true → receiving.isManaged sender = false →
        HasKey receiving.directory.privateKey dest b → receiving.seen.isDuplicate m'.now sender p.id = false →
        ∃ e : Envelope, (receiving.receive m' d).effects = [.event (.message e text replyId)] ∧
          e.channel = "PKI" ∧ e.channelKey = none ∧ e.sender = sender ∧ e.dest = dest ∧ e.packetId = p.id := by
  have hcompose : sending.compose m (.message sender dest channel text replyId true) =
      .ok (sealedMessage sender dest channel text replyId) := rfl
  have hseal : sending.CanSeal (sealedMessage sender dest channel text replyId) a (Cipher.Curve25519.publicKey b) :=
    { protection := rfl
      dest := hdest
      managed := hmanaged
      payload := htext
      hasPrivate := hprivate.keyFrom ha
      hasPublic := hpublic.keyFrom (Direct.length_curve_publicKey b)
      privateLength := ha
      publicLength := Direct.length_curve_publicKey b }
  obtain ⟨p, hbuilt, hsealed⟩ := hseal.exists_built? (m := m) hcompose
  refine ⟨p, send_effects_of_built? hbuilt, send_value hbuilt, ?_⟩
  intro receiving m' d hd hmanaged' hremote hholds hnew
  subst hd
  have hsender : NodeId.mk d.packet.sender = sender := by rw [hsealed.sender]; rfl
  have hto : NodeId.mk d.packet.dest = dest := by rw [hsealed.dest]; rfl
  have hopen := open?_of_sealedAs hsealed (Direct.sharedKey_comm ha hb hagree) hdest hmanaged' (hholds.keyFrom hb)
    Port.noConfusion htext
  rw [← hsender] at hremote hnew
  have hevent := receive_effects_of_event hnew hremote hopen (ofData_sealedMessage htext _ _)
  exact ⟨_, hevent, rfl, rfl, hsender, hto, rfl⟩

/-- A greeting from one bridge to another one. -/
theorem direct_delivery_greeting :
    let m : Moment := ⟨0, 0, fun _ => 0⟩
    let a : Bytes := List.replicate 32 0x11
    let b : Bytes := List.replicate 32 0x22
    let known : Directory :=
      { Directory.ofNode ⟨16⟩ with
        publicKey := fun _ => some (Text.Base64.encode (Cipher.Curve25519.publicKey b))
        privateKey := fun _ => some (Text.Base64.encode a) }
    let sending := after (.ofNode ⟨16⟩) m [(m, .addLink { name := "udp" }), (m, .setDirectory known)]
    let receiving := after (.ofNode ⟨256⟩) m [(m, .setDirectory { Directory.ofNode ⟨256⟩ with
      privateKey := fun _ => some (Text.Base64.encode b) })]
    ∃ p e, (sending.send m (.message ⟨16⟩ ⟨256⟩ .defaultChannel "hello" 7 true)).effects = [.sent 0 "PKI" p] ∧
      (receiving.receive m ⟨p, none, none, .udp⟩).effects = [.event (.message e "hello" 7)] ∧ e.channel = "PKI" ∧
      e.sender = ⟨16⟩ := by
  intro m a b known sending receiving
  have hagree : Cipher.Curve25519.agree a (Cipher.Curve25519.publicKey b) =
      Cipher.Curve25519.agree b (Cipher.Curve25519.publicKey a) := by decide +kernel
  have hprivate : HasKey sending.directory.privateKey ⟨16⟩ a := ⟨_, rfl, Key.parse_encode a⟩
  have hpublic : HasKey sending.directory.publicKey ⟨256⟩ (Cipher.Curve25519.publicKey b) :=
    ⟨_, rfl, Key.parse_encode _⟩
  have hholds : HasKey receiving.directory.privateKey ⟨256⟩ b := ⟨_, rfl, Key.parse_encode b⟩
  obtain ⟨p, heffects, -, hheard⟩ := direct_delivery sending m ⟨16⟩ ⟨256⟩ .defaultChannel "hello" 7 a b rfl rfl hagree
    rfl rfl hprivate hpublic (by decide)
  have hnew : receiving.seen.isDuplicate m.now ⟨16⟩ p.id = false := Bool.and_false _
  obtain ⟨e, hevent, hchannel, -, hsender, -, -⟩ := hheard receiving m ⟨p, none, none, .udp⟩ rfl rfl rfl hholds hnew
  exact ⟨p, e, heffects, hevent, hchannel, hsender⟩

end Client

end RadioMesh
