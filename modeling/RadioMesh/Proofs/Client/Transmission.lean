import RadioMesh.Proofs.Client.Frame
import RadioMesh.Proofs.Direct

/-!
Where the packets on the links come from. Each is the header of a submission with the submission's data in
one of three forms; the submission was composed from a request, and the request was made by the owner or
answers a packet that came in.
-/

namespace RadioMesh

namespace Client

/-! ### Forms of packets -/

/-- Data in a packet that travels under a name: in the clear, under the key of a channel, or sealed for the
addressee. -/
inductive Conveys (c : Client) (channel : ChannelDef) (data : Data) (p : MeshPacket) : String → Prop
  | clear (hchannel : p.channel = 0) (hsealed : p.pkiEncrypted = false) (hbody : p.body = some (.decoded data)) :
    Conveys c channel data p channel.name
  | keyed {covered : Bytes} (hchannel : p.channel = channel.hash.toUInt32) (hsealed : p.pkiEncrypted = false)
    (hcovered : applyKey channel.key (Data.schema.encode data) p.id p.sender = .ok covered)
    (hbody : p.body = some (.encrypted covered)) : Conveys c channel data p channel.name
  | sealed {privateKey publicKey covered : Bytes} {extra : UInt32} (hchannel : p.channel = 0)
    (hsealed : p.pkiEncrypted = true) (hdest : (NodeId.mk p.dest).isBroadcast = false)
    (hprivate : c.privateKey ⟨p.sender⟩ = .ok privateKey) (hpublic : c.publicKey ⟨p.dest⟩ = .ok publicKey)
    (hown : Direct.publicKey privateKey = .ok p.publicKey)
    (hcovered : Direct.sealFor (Data.schema.encode data) privateKey publicKey p.id p.sender extra = .ok covered)
    (hbody : p.body = some (.encrypted covered)) : Conveys c channel data p ChannelDef.directName

theorem Conveys.eq_of_encrypted {c : Client} {channel : ChannelDef} {data : Data} {p : MeshPacket} {name : String}
    {covered : Bytes} (h : c.Conveys channel data p name) (hbody : p.body = some (.encrypted covered))
    (hsealed : p.pkiEncrypted = false) :
    name = channel.name ∧ applyKey channel.key (Data.schema.encode data) p.id p.sender = .ok covered := by
  cases h with
  | clear _ _ hclear =>
    rw [hbody] at hclear
    cases hclear
  | keyed _ _ hcovered hkeyed =>
    rw [hbody] at hkeyed
    cases hkeyed
    exact ⟨rfl, hcovered⟩
  | sealed _ hpki _ _ _ _ _ _ =>
    rw [hsealed] at hpki
    cases hpki

/-- A packet that carries a submission under a name. -/
structure Carries (c : Client) (s : Submission) (id : UInt32) (name : String) (p : MeshPacket) : Prop where
  id : p.id = id
  sender : p.sender = s.info.sender.value
  dest : p.dest = s.info.dest.value
  hopLimit : p.hopLimit = c.hopLimit
  hopStart : p.hopStart = if s.info.sender = c.nodeId then c.hopLimit else c.hopLimit + 1
  under : name = if s.info.protection = .direct then ChannelDef.directName else s.channel.name
  conveys : c.Conveys s.channel s.data p name

theorem carries_of_protect {c : Client} {s : Submission} {epoch id extra : UInt32} {o : Outgoing}
    (h : c.protect s (c.header epoch s id) extra = .ok o) : c.Carries s id o.channel o.packet := by
  unfold protect at h
  split at h
  · next hprotection =>
    cases h
    exact ⟨rfl, rfl, rfl, rfl, rfl, by rw [hprotection]; rfl, .clear rfl rfl rfl⟩
  · next hprotection =>
    obtain ⟨covered, hcovered, ho⟩ := exists_of_bind_eq_ok h
    cases ho
    exact ⟨rfl, rfl, rfl, rfl, rfl, by rw [hprotection]; rfl, .keyed rfl rfl (eq_ok_of_mapError hcovered) rfl⟩
  · next hprotection =>
    split at h
    · cases h
    · next hdest =>
      obtain ⟨privateKey, hprivate, h⟩ := exists_of_bind_eq_ok h
      obtain ⟨publicKey, hpublic, h⟩ := exists_of_bind_eq_ok h
      obtain ⟨own, hown, h⟩ := exists_of_bind_eq_ok h
      obtain ⟨covered, hcovered, ho⟩ := exists_of_bind_eq_ok h
      cases ho
      exact ⟨rfl, rfl, rfl, rfl, rfl, by rw [hprotection]; rfl, .sealed rfl rfl (Bool.eq_false_iff.2 hdest)
        hprivate hpublic (eq_ok_of_mapError hown) (eq_ok_of_mapError hcovered) rfl⟩

/-! ### From a request to the links -/

variable {c : Client} {m : Moment} {i : Nat} {name : String} {p : MeshPacket}

theorem transmit_sent {s : Submission} (h : .sent i name p ∈ (c.transmit m s).effects) :
    c.check s = .ok () ∧ c.Carries s (c.packetIds.next m.words).1 name p := by
  unfold transmit at h
  split at h
  · cases h
  · next hcheck =>
    dsimp only at h
    split at h
    · cases h
    · next o hprotect =>
      refine ⟨hcheck, ?_⟩
      obtain ⟨⟨l, j⟩, -, hsent⟩ := List.mem_map.1 h
      cases hsent
      exact carries_of_protect hprotect

theorem send_sent {r : Request} (h : .sent i name p ∈ (c.send m r).effects) :
    ∃ s, c.compose m r = .ok s ∧ c.check s = .ok () ∧ c.Carries s (c.packetIds.next m.words).1 name p := by
  unfold send at h
  split at h
  · cases h
  · next s hcompose =>
    refine ⟨s, hcompose, transmit_sent (i := i) (m := m) ?_⟩
    dsimp only at h
    split at h
    · exact h
    · exact h

theorem check_eq_ok_iff {s : Submission} :
    c.check s = .ok () ↔ c.isManaged s.info.sender = true ∧ s.payload.length ≤ maxPayloadLength := by
  rw [check]
  cases c.isManaged s.info.sender with
  | false => simp
  | true => simp

/-! ### Requests one after the other -/

/-- Two states of a client that differ in what it remembers alone. -/
structure SameSetup (c c' : Client) : Prop where
  nodeId : c'.nodeId = c.nodeId
  hopLimit : c'.hopLimit = c.hopLimit
  primary : c'.primary = c.primary
  directory : c'.directory = c.directory

namespace SameSetup

variable {c' c'' : Client}

theorem trans (h : c.SameSetup c') (h' : c'.SameSetup c'') : c.SameSetup c'' :=
  ⟨h'.nodeId.trans h.nodeId, h'.hopLimit.trans h.hopLimit, h'.primary.trans h.primary,
    h'.directory.trans h.directory⟩

theorem conveys (h : c.SameSetup c') {channel : ChannelDef} {data : Data} (hc : c'.Conveys channel data p name) :
    c.Conveys channel data p name := by
  cases hc with
  | clear hchannel hsealed hbody => exact .clear hchannel hsealed hbody
  | keyed hchannel hsealed hcovered hbody => exact .keyed hchannel hsealed hcovered hbody
  | sealed hchannel hsealed hdest hprivate hpublic hown hcovered hbody =>
    rw [privateKey, h.directory] at hprivate
    rw [publicKey, h.directory] at hpublic
    exact .sealed hchannel hsealed hdest hprivate hpublic hown hcovered hbody

end SameSetup

theorem sameSetup_send (c : Client) (m : Moment) (r : Request) : c.SameSetup (c.send m r).client := by
  obtain ⟨_, _, h⟩ := c.send_client m r
  rw [h]
  exact ⟨rfl, rfl, rfl, rfl⟩

theorem sendAll_sent {rs : List Request} (h : .sent i name p ∈ (c.sendAll m rs).effects) :
    ∃ r ∈ rs, ∃ c' m', c.SameSetup c' ∧ .sent i name p ∈ (c'.send m' r).effects := by
  induction rs generalizing c m with
  | nil => cases h
  | cons r rs ih =>
    rcases List.mem_append.1 h with hfirst | hrest
    · exact ⟨r, List.mem_cons_self, c, m, ⟨rfl, rfl, rfl, rfl⟩, hfirst⟩
    · obtain ⟨q, hq, c', m', hsetup, hsent⟩ := ih hrest
      exact ⟨q, List.mem_cons_of_mem r hq, c', m', (c.sameSetup_send m r).trans hsetup, hsent⟩

theorem requestTraceroute_sent {sender target : NodeId} {channel : ChannelDef} {context : String}
    (h : .sent i name p ∈ (c.requestTraceroute m sender target channel context).effects) :
    ∃ c', c.SameSetup c' ∧ .sent i name p ∈ (c'.send m (.traceroute sender target channel)).effects := by
  unfold requestTraceroute at h
  cases hacquire : c.acquireSlot m.now sender target with
  | error wait =>
    rw [hacquire] at h
    cases h
  | ok c' =>
    rw [hacquire] at h
    obtain ⟨taken, -, rfl⟩ := exists_of_acquireSlot hacquire
    exact ⟨c.withTraceroutes taken, ⟨rfl, rfl, rfl, rfl⟩, h⟩

end Client

end RadioMesh
