import RadioMesh.Proofs.Client.OnAir

/-!
Answers among bridges. An answer carries the ID of the packet that asked for it and asks for nothing, so
whoever reads it takes it for an answer. The one exception is the answer to a traceroute without an ID: a
route that answers no packet is a request.
-/

namespace RadioMesh.Client

variable {a b c : Client} {m m' : Moment} {d d' : Delivery} {i : Nat} {name : String} {p : MeshPacket}

/-- The data of an answer to a delivery. -/
structure AnswerData (d : Delivery) (data : Data) : Prop where
  requestId : data.requestId = d.packet.id
  wantResponse : data.wantResponse = false
  readable : Data.read (Data.schema.encode data) = .ok data
  path : data.port = .traceroute → ∃ path, RouteDiscovery.schema.decode? data.payload = some path

theorem answerData_of_answers {s : Submission} {r : Received} (h : s.Answers c r) (hpacket : r.packet = d.packet)
    (hcheck : c.check s = .ok ()) : AnswerData d s.data := by
  have hlength : s.payload.length ≤ 232 := (check_eq_ok_iff.1 hcheck).2
  refine
    { requestId := h.requestId.trans (congrArg MeshPacket.id hpacket)
      wantResponse := h.wantResponse
      readable := ?_
      path := fun hport => ?_ }
  · exact Submission.read_encode_data h.port hlength
  · rw [s.port_data] at hport
    obtain ⟨path, hpath⟩ := h.path hport
    refine ⟨path, ?_⟩
    show RouteDiscovery.schema.decode? s.payload = _
    rw [hpath] at hlength ⊢
    exact RouteDiscovery.roundTrips.decode?_encode (by decide) (by omega)

/-- What goes out on a delivery conveys the data of an answer to it. -/
theorem exists_answerData (h : .sent i name p ∈ (a.receive m d).effects) :
    ∃ channel data, a.SendsOn channel (.receive d) ∧ a.Conveys channel data p name ∧ AnswerData d data := by
  obtain ⟨r, q, c', m', hopen, hanswer, -, -, -, hsetup, hsent⟩ := receive_sent h
  obtain ⟨s, hcompose, hcheck, hcarries⟩ := send_sent hsent
  have hanswers := hanswer.answers hcompose
  refine ⟨s.channel, s.data, ?_, hsetup.conveys hcarries.conveys,
    answerData_of_answers hanswers (opens_of_open? hopen).packet hcheck⟩
  rcases hanswers.channel with ⟨hchannel, -⟩ | ⟨hchannel, -⟩
  · exact .inl (hchannel.trans hsetup.primary)
  · exact .inr ⟨r, hopen, hchannel⟩

/-! ### Whoever reads an answer -/

/-- A client reads a packet with the key that another client covered it with. -/
inductive SameKey (a b : Client) (channel : ChannelDef) (r : Received) : Prop
  | clear (hprotection : r.protection = .none)
  | keyed (hprotection : r.protection = .channelKey) (hsealed : r.packet.pkiEncrypted = false)
    (hkey : r.channel.key = channel.key)
  | sealed {privateKey publicKey privateKey' publicKey' : Bytes} (hprotection : r.protection = .direct)
    (hsealed : r.packet.pkiEncrypted = true) (hprivate : a.privateKey ⟨r.packet.sender⟩ = .ok privateKey)
    (hpublic : a.publicKey ⟨r.packet.dest⟩ = .ok publicKey) (hprivate' : b.privateKey ⟨r.packet.dest⟩ = .ok privateKey')
    (hpublic' : b.senderKey r.packet = .ok publicKey')
    (hagree : Direct.sharedKey privateKey' publicKey' = Direct.sharedKey privateKey publicKey)

theorem Conveys.data_eq_of_opens {channel : ChannelDef} {data : Data} {r : Received}
    (h : a.Conveys channel data d'.packet name) (hread : Data.read (Data.schema.encode data) = .ok data)
    (hopens : b.Opens d' r) (hkey : a.SameKey b channel r) : r.data = data := by
  cases hopens with
  | clear hbody =>
    cases h with
    | clear _ _ hclear =>
      rw [hbody] at hclear
      cases hclear
      rfl
    | keyed _ _ _ hkeyed =>
      rw [hbody] at hkeyed
      cases hkeyed
    | sealed _ _ _ _ _ _ _ hcovered =>
      rw [hbody] at hcovered
      cases hcovered
  | direct hbody _ hopen =>
    cases hkey with
    | clear hprotection => cases hprotection
    | keyed hprotection _ _ => cases hprotection
    | sealed _ hsealed hprivate hpublic hprivate' hpublic' hagree =>
      cases h with
      | clear _ hnot _ =>
        rw [hsealed] at hnot
        cases hnot
      | keyed _ hnot _ _ =>
        rw [hsealed] at hnot
        cases hnot
      | sealed _ _ _ hown hknown _ hcovered hbody' =>
        cases hown.symm.trans hprivate
        cases hknown.symm.trans hpublic
        cases hbody.symm.trans hbody'
        have hplain := Direct.openFrom_of_sealFor hcovered hagree
        rw [openDirect_eq_ok hpublic' hprivate' hplain hread] at hopen
        cases hopen
        rfl
  | @keyed covered data' channel' hbody _ hopen =>
    cases hkey with
    | clear hprotection => cases hprotection
    | keyed _ hsealed hkey =>
      obtain ⟨-, hcovered⟩ := h.eq_of_encrypted hbody hsealed
      change channel'.key = channel.key at hkey
      rw [readWith?, hkey, applyKey_symm hcovered] at hopen
      dsimp only at hopen
      rw [hread] at hopen
      cases hopen
      rfl
    | sealed hprotection _ _ _ _ _ _ => cases hprotection

theorem react_traceroute {r : Received} {path : RouteDiscovery} (hport : r.data.port = .traceroute)
    (hid : r.data.requestId = 0) (hpath : RouteDiscovery.schema.decode? r.data.payload = some path) :
    b.react m r = (b, b.answerTraceroute r path) := by
  have hmeaning : Meaning.ofData (r.envelope m.epoch) m.epoch r.data = .tracerouteRequest path :=
    (Meaning.ofData_traceroute hport hpath).trans (if_pos hid)
  rw [react, hmeaning]

theorem react_answers_iff {r : Received} (h : AnswerData d r.data) :
    (∃ requests, (b.react m r).2 = .answers requests) ↔ d.packet.id = 0 ∧ r.data.port = .traceroute ∧
      b.isManaged r.dest = true ∧ r.dest.isBroadcast = false := by
  constructor
  · rintro ⟨requests, hrequests⟩
    have hreacts := b.reacts m r
    generalize b.react m r = reaction at hreacts hrequests
    cases hreacts with
    | none => cases hrequests
    | event _ _ => cases hrequests
    | traceroute _ _ _ => cases hrequests
    | answers hasks hdest hmanaged _ =>
      -- An answer asks for nothing, so only a route without an ID is left.
      rcases hasks with ⟨hport, hid⟩ | hwant
      · exact ⟨h.requestId.symm.trans hid, hport, hmanaged, hdest⟩
      · rw [h.wantResponse] at hwant
        cases hwant
  · rintro ⟨hid, hport, hmanaged, hdest⟩
    obtain ⟨path, hpath⟩ := h.path hport
    rw [react_traceroute hport (h.requestId.trans hid) hpath, answerTraceroute, hmanaged, hdest]
    exact ⟨_, rfl⟩

theorem not_sent_of_answerData {data : Data} (h : AnswerData d data)
    (hread : ∀ r, b.open? d' = some r → r.data = data) (hnot : d.packet.id ≠ 0 ∨ data.port ≠ .traceroute) :
    ∀ j other q, .sent j other q ∉ (b.receive m' d').effects := by
  intro j other q hsent
  obtain ⟨r, _, _, _, hopen, -, -, -, hasks, -, -⟩ := receive_sent hsent
  rw [hread r hopen] at hasks
  rcases hasks with ⟨hport, hid⟩ | hwant
  · rcases hnot with hne | hne
    · exact hne (h.requestId.symm.trans hid)
    · exact hne hport
  · rw [h.wantResponse] at hwant
    cases hwant

/-- Who reads an answer as it was written answers it in turn only if it is a route and what it answers had no
ID; otherwise nothing at all goes out on it. It is read as it was written with the key that covers it. -/
theorem answer_answered_iff (a b : Client) (m m' : Moment) (d d' : Delivery) (i : Nat) (name : String)
    (h : .sent i name d'.packet ∈ (a.receive m d).effects) :
    ∃ channel data, a.SendsOn channel (.receive d) ∧ a.Conveys channel data d'.packet name ∧
      (∀ r, b.open? d' = some r → a.SameKey b channel r → r.data = data) ∧
      ((∀ r, b.open? d' = some r → r.data = data) →
        (∀ r, b.open? d' = some r → ((∃ requests, (b.react m' r).2 = .answers requests) ↔
          d.packet.id = 0 ∧ data.port = .traceroute ∧ b.isManaged r.dest = true ∧ r.dest.isBroadcast = false)) ∧
        (d.packet.id ≠ 0 ∨ data.port ≠ .traceroute →
          ∀ j other q, .sent j other q ∉ (b.receive m' d').effects)) := by
  obtain ⟨channel, data, hchannel, hconveys, hdata⟩ := exists_answerData h
  refine ⟨channel, data, hchannel, hconveys, fun r hopen hkey => ?_, fun hread => ⟨fun r hopen => ?_, ?_⟩⟩
  · exact hconveys.data_eq_of_opens hdata.readable (opens_of_open? hopen) hkey
  · cases hread r hopen
    exact react_answers_iff hdata
  · exact not_sent_of_answerData hdata hread

/-- A traceroute from one bridge to another on a channel without a key. The one that asked reads the answer as
it was written, and sends nothing. -/
theorem answer_answered_iff_traceroute :
    let m : Moment := ⟨0, 0, fun _ => 0⟩
    let asked := after (.ofNode ⟨256⟩) m [(m, .addLink { name := "udp" })]
    let asking := after (.ofNode ⟨16⟩) m [(m, .addLink { name := "udp" }), (m, .addChannel (.unencrypted "clear"))]
    let data : Data := { portNumber := Port.traceroute.number }
    let d : Delivery := ⟨{ sender := 16, dest := 256, id := 5, body := some (.decoded data) }, some "clear", none, .udp⟩
    let body : Bytes := [8, 70, 18, 3, 18, 1, 0, 53, 5, 0, 0, 0, 72, 1]
    let p : MeshPacket := { sender := 256, dest := 16, channel := 121, id := 1, hopLimit := 3, hopStart := 3 }
    let d' : Delivery := ⟨{ p with priority := 80, body := some (.encrypted body) }, some "clear", none, .udp⟩
    .sent 0 "clear" d'.packet ∈ (asked.receive m d).effects ∧ (∃ r, asking.open? d' = some r) ∧
      ∀ j other q, .sent j other q ∉ (asking.receive m d').effects := by
  intro m asked asking data d body p d'
  have hsent : .sent 0 "clear" d'.packet ∈ (asked.receive m d).effects := by decide +kernel
  have hopen : ∃ r, asking.open? d' = some r ∧ r.protection = .channelKey ∧ r.packet.pkiEncrypted = false ∧
      r.channel.key = [] :=
    ⟨(asking.open? d').get (by decide +kernel), (Option.some_get _).symm, by decide +kernel⟩
  obtain ⟨r, hopen, hprotection, hsealed, hkey⟩ := hopen
  refine ⟨hsent, ⟨r, hopen⟩, ?_⟩
  obtain ⟨channel, written, hchannel, hconveys, hsame, hanswered⟩ :=
    answer_answered_iff asked asking m m d d' 0 "clear" hsent
  have hclear : channel = .unencrypted "clear" := by
    rcases hchannel with rfl | ⟨r', hopen', rfl⟩
    · exact absurd (hconveys.eq_of_encrypted rfl rfl).1 (by decide)
    · cases hopen'
      rfl
  refine (hanswered fun r' hopen' => ?_).2 (.inl (by decide))
  rw [hopen] at hopen'
  cases hopen'
  refine hsame r hopen (.keyed hprotection hsealed ?_)
  rw [hkey, hclear]
  rfl

/-- The answer to a traceroute without an ID is answered. -/
theorem answer_without_id_answered :
    let m : Moment := ⟨0, 0, fun _ => 0⟩
    let asked := after (.ofNode ⟨256⟩) m [(m, .addLink { name := "udp" })]
    let asking := after (.ofNode ⟨16⟩) m [(m, .addLink { name := "udp" }), (m, .addChannel (.unencrypted "clear"))]
    let data : Data := { portNumber := Port.traceroute.number }
    let d : Delivery := ⟨{ sender := 16, dest := 256, id := 0, body := some (.decoded data) }, some "clear", none, .udp⟩
    ∃ p q, .sent 0 "clear" p ∈ (asked.receive m d).effects ∧
      .sent 0 "clear" q ∈ (asking.receive m ⟨p, some "clear", none, .udp⟩).effects := by
  intro m asked asking data d
  let p : MeshPacket := { channel := 121, id := 1, hopLimit := 3, hopStart := 3 }
  refine ⟨{ p with
      sender := 256
      dest := 16
      priority := 64
      body := some (.encrypted [8, 70, 18, 3, 18, 1, 0, 72, 1]) },
    { p with
      sender := 16
      dest := 256
      priority := 80
      body := some (.encrypted [8, 70, 18, 4, 18, 2, 0, 0, 53, 1, 0, 0, 0, 72, 1]) }, ?_, ?_⟩
  · decide +kernel
  · decide +kernel

end RadioMesh.Client
