import RadioMesh.Proofs.Channel.KeyText
import RadioMesh.Proofs.Client.ChannelDelivery
import RadioMesh.Proofs.Client.Reception

/-!
Whose key opens a sealed packet. A packet may bring the key of its sender along, and that key counts more
than the one known for the sender: what is accepted as sealed opens with the key in the packet, or with the
known one if the packet has none.
-/

namespace RadioMesh

/-- The key that a packet brings along, or else a known one. -/
def MeshPacket.keyOr (p : MeshPacket) (known : Bytes) : Bytes :=
  if p.publicKey.length = 32 then p.publicKey else known

/-- What is told or sent under the name of sealed packets. -/
def Effect.IsDirect : Effect → Prop
  | .sent _ channel _ => channel = ChannelDef.directName
  | .event told => ∃ e, told.envelope? = some e ∧ e.channel = ChannelDef.directName
  | .joined _ _ => False
  | .stopped _ => False

namespace Client

/-- The body of a delivery opens with the addressee's private key and a public key, and has data in it. -/
def OpensWith (c : Client) (d : Delivery) (publicKey : Bytes) (data : Data) : Prop :=
  ∃ covered privateKey plain, d.packet.body = some (.encrypted covered) ∧
    c.privateKey ⟨d.packet.dest⟩ = .ok privateKey ∧
    Direct.openFrom covered privateKey publicKey d.packet.id d.packet.sender = .ok plain ∧
    Data.read plain = .ok data

variable {c : Client} {d : Delivery} {m : Moment} {known : Bytes}

theorem senderKey_eq {p : MeshPacket} (h : c.publicKey ⟨p.sender⟩ = .ok known) :
    c.senderKey p = .ok (p.keyOr known) := by
  rw [senderKey, MeshPacket.keyOr, h]
  show (if p.publicKey.length = 32 then _ else _) = _
  split
  · rfl
  · rfl

theorem openDirect_eq_ok_iff (h : c.publicKey ⟨d.packet.sender⟩ = .ok known) {covered : Bytes}
    (hbody : d.packet.body = some (.encrypted covered)) {data : Data} :
    c.openDirect d.packet covered = .ok data ↔ c.OpensWith d (d.packet.keyOr known) data := by
  constructor
  · intro hopen
    obtain ⟨publicKey, hpublic, hopen⟩ := exists_of_bind_eq_ok hopen
    obtain ⟨privateKey, hprivate, hopen⟩ := exists_of_bind_eq_ok hopen
    obtain ⟨plain, hplain, hread⟩ := exists_of_bind_eq_ok hopen
    rw [senderKey_eq h] at hpublic
    cases hpublic
    exact ⟨covered, privateKey, plain, hbody, hprivate, eq_ok_of_mapError hplain, eq_ok_of_mapError hread⟩
  · rintro ⟨covered', privateKey, plain, hbody', hprivate, hplain, hread⟩
    rw [hbody] at hbody'
    cases hbody'
    exact openDirect_eq_ok (senderKey_eq h) hprivate hplain hread

theorem open?_of_openDirect {covered : Bytes} {data : Data} (hbody : d.packet.body = some (.encrypted covered))
    (hmay : c.mayBeDirect d = true) (hopen : c.openDirect d.packet covered = .ok data) :
    c.open? d = some ⟨d.packet, data, .unencrypted ChannelDef.directName, .direct, d.via, d.source⟩ := by
  rw [open?, hbody]
  dsimp only
  rw [if_pos hmay, hopen]
  rfl

theorem open?_direct_iff (h : c.publicKey ⟨d.packet.sender⟩ = .ok known) {data : Data} :
    (∃ r, c.open? d = some r ∧ r.protection = .direct ∧ r.data = data) ↔
      c.mayBeDirect d = true ∧ c.OpensWith d (d.packet.keyOr known) data := by
  constructor
  · rintro ⟨r, hopen, hdirect, rfl⟩
    cases opens_of_open? hopen with
    | clear _ => cases hdirect
    | direct hbody hmay hdata => exact ⟨hmay, (openDirect_eq_ok_iff h hbody).1 hdata⟩
    | keyed _ _ _ => cases hdirect
  · rintro ⟨hmay, hopens⟩
    obtain ⟨covered, _, _, hbody, -⟩ := id hopens
    exact ⟨_, open?_of_openDirect hbody hmay ((openDirect_eq_ok_iff h hbody).2 hopens), rfl, rfl⟩

/-- What was sealed for a node is opened by it, if it takes the right key for the sender's. -/
theorem open?_of_sealFor {privateKey publicKey privateKey' publicKey' covered : Bytes} {extra : UInt32} {data : Data}
    (hbody : d.packet.body = some (.encrypted covered))
    (hsealed : Direct.sealFor (Data.schema.encode data) privateKey' publicKey' d.packet.id d.packet.sender extra =
      .ok covered)
    (hread : Data.read (Data.schema.encode data) = .ok data) (hmay : c.mayBeDirect d = true)
    (hprivate : c.privateKey ⟨d.packet.dest⟩ = .ok privateKey) (hpublic : c.senderKey d.packet = .ok publicKey)
    (hagree : Direct.sharedKey privateKey publicKey = Direct.sharedKey privateKey' publicKey') :
    c.open? d = some ⟨d.packet, data, .unencrypted ChannelDef.directName, .direct, d.via, d.source⟩ := by
  refine open?_of_openDirect hbody hmay ?_
  exact openDirect_eq_ok hpublic hprivate (Direct.openFrom_of_sealFor hsealed hagree) hread

/-- A key is that of any text that it is read from. Only the empty text counts as none. -/
theorem keyFrom_of_parse {source : NodeId → Option String} {node : NodeId} {text : String} {key : Bytes}
    (h : source node = some text) (hparse : Key.parse text = .ok key) (hkey : key ≠ []) :
    keyFrom source node = .ok key := by
  have hne : text ≠ "" := by
    rintro rfl
    cases hparse
    exact hkey rfl
  rw [keyFrom, h, Option.filter_some, if_pos (decide_eq_true hne)]
  show (Key.parse text).mapError _ = _
  rw [hparse]
  rfl

theorem keyFrom_encode {source : NodeId → Option String} {node : NodeId} {key : Bytes} (hkey : key ≠ [])
    (h : source node = some (Text.Base64.encode key)) : keyFrom source node = .ok key :=
  keyFrom_of_parse h (Key.parse_encode key) hkey

/-! ### Names of channels -/

/-- Only what was sealed is opened under the name of sealed packets, if no channel has that name. -/
theorem protection_eq_direct {r : Received} {covered : Bytes} (hopen : c.open? d = some r)
    (hbody : d.packet.body = some (.encrypted covered))
    (hnames : ∀ channel ∈ c.candidates, channel.name ≠ ChannelDef.directName)
    (hname : r.channel.name = ChannelDef.directName) : r.protection = .direct := by
  cases opens_of_open? hopen with
  | clear hclear =>
    rw [hbody] at hclear
    cases hclear
  | direct _ _ _ => rfl
  | keyed _ hchannel _ =>
    -- The name would be that of a channel the client tried.
    exact absurd hname (hnames _ hchannel)

theorem primary_mem_candidates (c : Client) : c.primary ∈ c.candidates := by
  rw [candidates]
  split
  · next hmem => exact hmem
  · exact List.mem_append_right _ (List.mem_singleton_self _)

theorem answer_channel_eq {s : Submission} {r : Received} (h : s.Answers c r)
    (hprimary : c.primary.name ≠ ChannelDef.directName)
    (hname : (if s.info.protection = .direct then ChannelDef.directName else s.channel.name) =
      ChannelDef.directName) :
    r.protection = .direct ∨ r.channel.name = ChannelDef.directName := by
  rcases h.channel with ⟨hchannel, hprotection⟩ | ⟨hchannel, hprotection⟩
  · rw [hprotection, if_neg Protection.noConfusion, hchannel] at hname
    exact absurd hname hprimary
  · by_contra hnot
    rw [hprotection, Received.replyProtection, if_neg hnot, if_neg Protection.noConfusion, hchannel] at hname
    exact hnot (.inr hname)

/-- What a client does under the name of sealed packets, it does about a packet that was sealed. -/
theorem exists_open?_of_isDirect {covered : Bytes} {e : Effect} (hbody : d.packet.body = some (.encrypted covered))
    (hnames : ∀ channel ∈ c.candidates, channel.name ≠ ChannelDef.directName) (he : e ∈ (c.receive m d).effects)
    (hdirect : e.IsDirect) : ∃ r, c.open? d = some r ∧ r.protection = .direct := by
  cases e with
  | event told =>
    obtain ⟨r, hopen, henvelope⟩ := receive_event he
    obtain ⟨e, he, hchannel⟩ := hdirect
    rw [henvelope] at he
    cases he
    exact ⟨r, hopen, protection_eq_direct hopen hbody hnames hchannel⟩
  | sent i name p =>
    obtain ⟨r, q, c', m', hopen, hanswer, -, -, -, hsetup, hsent⟩ := receive_sent he
    obtain ⟨s, hcompose, -, hcarries⟩ := send_sent hsent
    have hprimary : c'.primary.name ≠ ChannelDef.directName := by
      rw [hsetup.primary]
      exact hnames _ c.primary_mem_candidates
    refine ⟨r, hopen, ?_⟩
    rcases answer_channel_eq (hanswer.answers hcompose) hprimary (hcarries.under.symm.trans hdirect) with h | h
    · exact h
    · exact protection_eq_direct hopen hbody hnames h
  | joined i name => exact hdirect.elim
  | stopped i => exact hdirect.elim

/-! ### Sealed packets -/

/-- A packet of a node whose key is known is taken for sealed exactly if it opens with the key in it, or with
the known one if it has none; and nothing else that is covered leads to anything under the name of sealed
packets. -/
theorem direct_opens_with_keyOr (c : Client) (m : Moment) (d : Delivery) (known : Bytes)
    (hknown : c.publicKey ⟨d.packet.sender⟩ = .ok known) :
    (∀ data, (∃ r, c.open? d = some r ∧ r.protection = .direct ∧ r.data = data) ↔
      c.mayBeDirect d = true ∧ c.OpensWith d (d.packet.keyOr known) data) ∧
    ∀ covered, d.packet.body = some (.encrypted covered) →
      (∀ channel ∈ c.candidates, channel.name ≠ ChannelDef.directName) →
      ∀ e ∈ (c.receive m d).effects, e.IsDirect → ∃ data, c.OpensWith d (d.packet.keyOr known) data := by
  refine ⟨fun data => open?_direct_iff hknown, fun covered hbody hnames e he hdirect => ?_⟩
  obtain ⟨r, hopen, hprotection⟩ := exists_open?_of_isDirect hbody hnames he hdirect
  exact ⟨r.data, ((open?_direct_iff hknown).1 ⟨r, hopen, hprotection, rfl⟩).2⟩

/-- A packet without a key in it, sealed under the known one. -/
theorem direct_opens_with_keyOr_known :
    let m : Moment := ⟨0, 0, fun _ => 0⟩
    let bridge : Bytes := List.replicate 32 0x11
    let known : Bytes := List.replicate 32 0x33
    let c := after (.ofNode ⟨256⟩) m [(m, .setDirectory { Directory.ofNode ⟨256⟩ with
      publicKey := fun _ => some (Text.Base64.encode known)
      privateKey := fun _ => some (Text.Base64.encode bridge) })]
    let data := (Submission.mk .defaultChannel (Bytes.ofString "hello") (textInfo ⟨16⟩ ⟨256⟩ true)).data
    ∃ d : Delivery, c.publicKey ⟨d.packet.sender⟩ = .ok known ∧
      (∃ r, c.open? d = some r ∧ r.protection = .direct ∧ r.data = data) ∧
      c.OpensWith d (d.packet.keyOr known) data ∧ d.packet.keyOr known = known := by
  intro m bridge known c data
  have hpublic : c.publicKey ⟨16⟩ = .ok known := keyFrom_encode (List.cons_ne_nil _ _) rfl
  have hprivate : c.privateKey ⟨256⟩ = .ok bridge := keyFrom_encode (List.cons_ne_nil _ _) rfl
  have hseals : ∃ covered, Direct.sealFor (Data.schema.encode data) bridge known 7 16 0 = .ok covered :=
    Direct.exists_sealFor rfl rfl (by decide +kernel) 7 16 0
  obtain ⟨covered, hsealed⟩ := hseals
  let p : MeshPacket := { sender := 16, dest := 256, id := 7, pkiEncrypted := true }
  let d : Delivery := ⟨{ p with body := some (.encrypted covered) }, none, none, .udp⟩
  have hread : Data.read (Data.schema.encode data) = .ok data := Data.read_encode (by decide) (by decide +kernel)
  have hopen := open?_of_sealFor (c := c) (d := d) rfl hsealed hread rfl hprivate hpublic rfl
  have haccepted : ∃ r, c.open? d = some r ∧ r.protection = .direct ∧ r.data = data := ⟨_, hopen, rfl, rfl⟩
  exact ⟨d, hpublic, haccepted, (((direct_opens_with_keyOr c m d known hpublic).1 data).1 haccepted).2, rfl⟩

/-- Someone else's packet, sealed under a key that it brings along, is taken for a packet of the node whose key
is known. -/
theorem direct_takes_carried_key :
    let m : Moment := ⟨0, 0, fun _ => 0⟩
    let bridge : Bytes := List.replicate 32 0x11
    let other : Bytes := List.replicate 32 0x22
    let known : Bytes := List.replicate 32 0x33
    let c := after (.ofNode ⟨256⟩) m [(m, .setDirectory { Directory.ofNode ⟨256⟩ with
      publicKey := fun _ => some (Text.Base64.encode known)
      privateKey := fun _ => some (Text.Base64.encode bridge) })]
    let data := (Submission.mk .defaultChannel (Bytes.ofString "hello") (textInfo ⟨16⟩ ⟨256⟩ true)).data
    ∃ bridgeKey otherKey covered, Direct.publicKey bridge = .ok bridgeKey ∧ Direct.publicKey other = .ok otherKey ∧
      Direct.sealFor (Data.schema.encode data) other bridgeKey 7 16 0 = .ok covered ∧
      let p : MeshPacket := { sender := 16, dest := 256, id := 7, pkiEncrypted := true }
      let d : Delivery := ⟨{ p with publicKey := otherKey, body := some (.encrypted covered) }, none, none, .udp⟩
      c.publicKey ⟨16⟩ = .ok known ∧ known.length = 32 ∧ otherKey ≠ known ∧ c.isManaged ⟨256⟩ = true ∧
        ∃ e, (c.receive m d).effects = [.event (.message e "hello" 0)] ∧ e.sender = ⟨16⟩ ∧
          e.channel = ChannelDef.directName := by
  intro m bridge other known c data
  have hpublic : c.publicKey ⟨16⟩ = .ok known := keyFrom_encode (List.cons_ne_nil _ _) rfl
  have hprivate : c.privateKey ⟨256⟩ = .ok bridge := keyFrom_encode (List.cons_ne_nil _ _) rfl
  have hagree : Cipher.Curve25519.agree bridge (Cipher.Curve25519.publicKey other) =
      Cipher.Curve25519.agree other (Cipher.Curve25519.publicKey bridge) := by decide +kernel
  have hkeys : Cipher.Curve25519.publicKey other ≠ known := by decide +kernel
  have hshared : Direct.sharedKey bridge (Cipher.Curve25519.publicKey other) =
      Direct.sharedKey other (Cipher.Curve25519.publicKey bridge) := Direct.sharedKey_comm rfl rfl hagree.symm
  -- From here on the public keys are mere names, so that nothing below computes them again.
  generalize hotherKey : Cipher.Curve25519.publicKey other = otherKey at hkeys hshared
  generalize hbridgeKey : Cipher.Curve25519.publicKey bridge = bridgeKey at hshared
  have hother : Direct.publicKey other = .ok otherKey := hotherKey ▸ Direct.publicKey_eq rfl
  have hbridge : Direct.publicKey bridge = .ok bridgeKey := hbridgeKey ▸ Direct.publicKey_eq rfl
  have hseals : ∃ covered, Direct.sealFor (Data.schema.encode data) other bridgeKey 7 16 0 = .ok covered :=
    Direct.exists_sealFor rfl (Direct.length_of_publicKey hbridge) (by decide +kernel) 7 16 0
  obtain ⟨covered, hsealed⟩ := hseals
  refine ⟨bridgeKey, otherKey, covered, hbridge, hother, hsealed, ?_⟩
  intro p d
  have hread : Data.read (Data.schema.encode data) = .ok data := Data.read_encode (by decide) (by decide +kernel)
  have hsender : c.senderKey d.packet = .ok otherKey := if_pos (Direct.length_of_publicKey hother)
  have hopen := open?_of_sealFor (c := c) (d := d) rfl hsealed hread rfl hprivate hsender hshared
  have htells : Submission.Tells _ (.message ⟨16⟩ ⟨256⟩ .defaultChannel "hello" 0) := .message "hello" 0
  have hmeaning := htells.meaning (by decide +kernel)
  exact ⟨hpublic, rfl, hkeys, rfl, _, receive_effects_of_event rfl rfl hopen (hmeaning _ m.epoch), rfl, rfl⟩

end Client

end RadioMesh
