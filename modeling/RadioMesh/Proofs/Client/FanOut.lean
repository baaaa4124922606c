import RadioMesh.Proofs.Client.CallSteps
import RadioMesh.Proofs.Client.DirectDelivery

/-!
What a transmission comes to. A submission is refused before it reaches the links, for the first reason there is, or its
packet is offered to each of them once. Each link replies for itself, and the owner gets the ID of the packet if one of
them accepts it.
-/

namespace RadioMesh

theorem Reply.ofFault_eq_refused_iff {fault : Option TransportError} {reason : TransportError} :
    ofFault fault = refused reason ↔ fault = some reason := by
  cases fault with
  | none => exact ⟨(nomatch ·), (nomatch ·)⟩
  | some fault => rw [ofFault, refused.injEq, Option.some.injEq]

namespace Client

/-! ### Offers -/

/-- What the links of a client are offered for a submission. -/
def offers (c : Client) (m : Moment) (s : Submission) : List Offer :=
  match (c.pack m s).2 with
  | .error _ => []
  | .ok o => offersTo c.links o

/-! ### Results of offers -/

/-- The faults of links that all refuse. -/
theorem map_fault_of_length_refusals {links : List Link} (h : (refusals links).length = links.length) :
    links.map (·.fault) = (refusals links).map some := by
  induction links with
  | nil => rfl
  | cons l links ih =>
    have hle : (refusals links).length ≤ links.length := List.length_filterMap_le _ _
    cases hfault : l.fault with
    | none =>
      rw [refusals, List.filterMap_cons_none hfault, List.length_cons] at h
      change (refusals links).length = _ at h
      omega
    | some fault =>
      rw [refusals, List.filterMap_cons_some hfault, List.length_cons, List.length_cons] at h
      have hrest := ih (Nat.succ.inj h)
      rw [refusals, List.filterMap_cons_some hfault, List.map_cons, List.map_cons, hfault, hrest]
      rfl

theorem refusals_of_map_fault {links : List Link} {faults : List TransportError}
    (h : links.map (·.fault) = faults.map some) : refusals links = faults := by
  have hfaults : refusals links = (links.map (·.fault)).filterMap id := by
    rw [List.filterMap_map]
    rfl
  rw [hfaults, h, List.filterMap_map]
  exact List.filterMap_some

theorem fanOut_eq_error_iff {links : List Link} {e : MeshError} :
    fanOut links = .error e ↔ links = [] ∧ e = .noTransports ∨
      links ≠ [] ∧ ∃ faults, links.map (·.fault) = faults.map some ∧ e = .allTransportsFailed faults := by
  rw [fanOut]
  split
  · next hempty =>
    have hnil := List.isEmpty_iff.1 hempty
    constructor
    · intro h
      cases h
      exact .inl ⟨hnil, rfl⟩
    · rintro (⟨-, rfl⟩ | ⟨hne, -⟩)
      · rfl
      · exact absurd hnil hne
  · next hne =>
    rw [List.isEmpty_iff] at hne
    split
    · next hall =>
      have hfaults := map_fault_of_length_refusals hall
      constructor
      · intro h
        cases h
        exact .inr ⟨hne, _, hfaults, rfl⟩
      · rintro (⟨hnil, -⟩ | ⟨-, faults, hmap, rfl⟩)
        · exact absurd hnil hne
        · rw [refusals_of_map_fault hmap]
    · next hsome =>
      constructor
      · intro h
        cases h
      · rintro (⟨hnil, -⟩ | ⟨-, faults, hmap, -⟩)
        · exact absurd hnil hne
        · have hlength := congrArg List.length hmap
          rw [List.length_map, List.length_map] at hlength
          exact absurd (by rw [refusals_of_map_fault hmap, hlength]) hsome

theorem offersTo_eq_nil_iff {links : List Link} {o : Outgoing} : offersTo links o = [] ↔ links = [] := by
  rw [offersTo, List.map_eq_nil_iff, List.zipIdx_eq_nil_iff]

theorem map_ofFault_eq_map_refused_iff {links : List Link} {faults : List TransportError} :
    (links.map fun l => Reply.ofFault l.fault) = faults.map .refused ↔
      links.map (·.fault) = faults.map some := by
  induction links generalizing faults with
  | nil => cases faults <;> simp
  | cons l links ih =>
    cases faults with
    | nil => simp
    | cons fault faults =>
      rw [List.map_cons, List.map_cons, List.map_cons, List.map_cons, List.cons.injEq, List.cons.injEq, ih,
        Reply.ofFault_eq_refused_iff]

theorem map_fanOut_eq_error_iff {links : List Link} {id : UInt32} {e : MeshError} :
    (fanOut links).map (fun () => id) = .error e ↔ fanOut links = .error e := by
  cases fanOut links with
  | error _ => simp [Except.map]
  | ok _ => exact ⟨(nomatch ·), (nomatch ·)⟩

/-! ### Refusals in front of the links -/

/-- No key of a node can be had from a source of key texts. -/
inductive NoKey (source : NodeId → Option String) (node : NodeId) : MeshError → Prop
  /-- There is no text, or an empty one. -/
  | missing (h : (source node).getD "" = "") : NoKey source node (.keyUnavailable node)
  | malformed {text : String} {fault : IdentifierError} (htext : source node = some text) (hne : text ≠ "")
    (hparse : Key.parse text = .error fault) : NoKey source node (.identifier fault)

theorem keyFrom_eq_error_iff {source : NodeId → Option String} {node : NodeId} {e : MeshError} :
    keyFrom source node = .error e ↔ NoKey source node e := by
  constructor
  · intro h
    cases htext : source node with
    | none =>
      rw [keyFrom, htext] at h
      cases h
      exact .missing (by rw [htext]; rfl)
    | some text =>
      by_cases hne : text = ""
      · rw [keyFrom, htext, hne] at h
        cases h
        exact .missing (by rw [htext]; exact hne)
      · rw [keyFrom, htext, Option.filter_some_pos (by simpa using hne)] at h
        obtain ⟨fault, hparse, rfl⟩ := mapError_eq_error_iff.1 h
        exact .malformed htext hne hparse
  · rintro (hmissing | ⟨htext, hne, hparse⟩)
    · have hnone : (source node).filter (· ≠ "") = none := by
        cases htext : source node with
        | none => rfl
        | some text =>
          rw [htext] at hmissing
          exact Option.filter_some_neg (by simpa using hmissing)
      rw [keyFrom, hnone]
    · rw [keyFrom, htext, Option.filter_some_pos (by simpa using hne)]
      exact mapError_eq_error_iff.2 ⟨_, hparse, rfl⟩

/-- Why a submission does not reach the links. The reasons are looked at in this order, and each says that none of
the earlier ones holds. -/
inductive Refuses (c : Client) (s : Submission) : MeshError → Prop
  | unmanaged (hmanaged : c.isManaged s.info.sender = false) : Refuses c s (.unmanagedNode s.info.sender)
  | tooLarge (hmanaged : c.isManaged s.info.sender = true) (hpayload : 232 < s.payload.length) :
    Refuses c s (.payloadTooLarge 232 s.payload.length)
  | channelKey (hcheck : c.check s = .ok ()) (hprotection : s.info.protection = .channelKey)
    (hkey : ¬IsChannelKey s.channel.key) : Refuses c s (.crypto (.keyLength s.channel.key.length))
  | broadcast (hcheck : c.check s = .ok ()) (hprotection : s.info.protection = .direct)
    (hdest : s.info.dest.isBroadcast = true) : Refuses c s .unsupportedEncryption
  | privateKey {e : MeshError} (hcheck : c.check s = .ok ()) (hprotection : s.info.protection = .direct)
    (hdest : s.info.dest.isBroadcast = false) (hprivate : NoKey c.directory.privateKey s.info.sender e) :
    Refuses c s e
  | publicKey {e : MeshError} {privateKey : Bytes} (hcheck : c.check s = .ok ())
    (hprotection : s.info.protection = .direct) (hdest : s.info.dest.isBroadcast = false)
    (hprivate : c.privateKey s.info.sender = .ok privateKey)
    (hpublic : NoKey c.directory.publicKey s.info.dest e) : Refuses c s e
  | privateLength {privateKey publicKey : Bytes} (hcheck : c.check s = .ok ())
    (hprotection : s.info.protection = .direct) (hdest : s.info.dest.isBroadcast = false)
    (hprivate : c.privateKey s.info.sender = .ok privateKey) (hpublic : c.publicKey s.info.dest = .ok publicKey)
    (hlength : privateKey.length ≠ 32) : Refuses c s (.crypto (.keyLength privateKey.length))
  | publicLength {privateKey publicKey : Bytes} (hcheck : c.check s = .ok ())
    (hprotection : s.info.protection = .direct) (hdest : s.info.dest.isBroadcast = false)
    (hprivate : c.privateKey s.info.sender = .ok privateKey) (hpublic : c.publicKey s.info.dest = .ok publicKey)
    (hprivateLength : privateKey.length = 32) (hlength : publicKey.length ≠ 32) :
    Refuses c s (.crypto (.keyLength publicKey.length))

section Refusal
variable {c : Client} {m : Moment} {s : Submission} {e : MeshError}

theorem check_eq_error_iff : c.check s = .error e ↔
    c.isManaged s.info.sender = false ∧ e = .unmanagedNode s.info.sender ∨
      c.isManaged s.info.sender = true ∧ 232 < s.payload.length ∧ e = .payloadTooLarge 232 s.payload.length := by
  have hmax : maxPayloadLength = 232 := rfl
  rw [check, hmax]
  cases c.isManaged s.info.sender with
  | false => simp [eq_comm]
  | true => by_cases hpayload : 232 < s.payload.length <;> simp [hpayload, eq_comm]

theorem refuses_of_protect (hcheck : c.check s = .ok ()) {p : MeshPacket} {extra : UInt32}
    (h : c.protect s p extra = .error e) : c.Refuses s e := by
  have hpayload := (check_eq_ok_iff.1 hcheck).2
  unfold protect at h
  split at h
  · cases h
  · next hprotection =>
    rcases bind_eq_error_iff.1 h with h | ⟨covered, -, h⟩
    · obtain ⟨cause, hcovered, rfl⟩ := mapError_eq_error_iff.1 h
      obtain ⟨hkey, rfl⟩ := applyKey_eq_error_iff.1 hcovered
      exact .channelKey hcheck hprotection hkey
    · cases h
  · next hprotection =>
    split at h
    · next hdest =>
      cases h
      exact .broadcast hcheck hprotection hdest
    next hdest =>
    rw [Bool.not_eq_true] at hdest
    rcases bind_eq_error_iff.1 h with h | ⟨privateKey, hprivate, h⟩
    · exact .privateKey hcheck hprotection hdest (keyFrom_eq_error_iff.1 h)
    rcases bind_eq_error_iff.1 h with h | ⟨publicKey, hpublic, h⟩
    · exact .publicKey hcheck hprotection hdest hprivate (keyFrom_eq_error_iff.1 h)
    rcases bind_eq_error_iff.1 h with h | ⟨own, hown, h⟩
    · obtain ⟨cause, hown, rfl⟩ := mapError_eq_error_iff.1 h
      obtain ⟨hlength, rfl⟩ := Direct.publicKey_eq_error_iff.1 hown
      exact .privateLength hcheck hprotection hdest hprivate hpublic hlength
    have hprivateLength : privateKey.length = 32 := by
      by_contra hlength
      rw [Direct.publicKey_eq_error_iff.2 ⟨hlength, rfl⟩] at hown
      cases hown
    rcases bind_eq_error_iff.1 h with h | ⟨covered, -, h⟩
    · obtain ⟨cause, hcovered, rfl⟩ := mapError_eq_error_iff.1 h
      have htext := Submission.length_encode_data_le hpayload
      obtain ⟨hlength, rfl⟩ := (Direct.sealFor_eq_error_iff hprivateLength htext).1 hcovered
      exact .publicLength hcheck hprotection hdest hprivate hpublic hprivateLength hlength
    · cases h

theorem Refuses.protect (h : c.Refuses s e) (hcheck : c.check s = .ok ()) (p : MeshPacket) (extra : UInt32) :
    c.protect s p extra = .error e := by
  obtain ⟨hmanaged, hpayload⟩ := check_eq_ok_iff.1 hcheck
  cases h with
  | unmanaged hnot => exact absurd hmanaged (Bool.eq_false_iff.1 hnot)
  | tooLarge _ hlarge => exact absurd hpayload (Nat.not_le.2 hlarge)
  | channelKey _ hprotection hkey =>
    simp only [Client.protect, hprotection, applyKey_of_not_isChannelKey hkey]
    rfl
  | broadcast _ hprotection hdest => simp only [Client.protect, hprotection, if_pos hdest]
  | privateKey _ hprotection hdest hprivate =>
    have hprivate : c.privateKey s.info.sender = .error e := keyFrom_eq_error_iff.2 hprivate
    simp only [Client.protect, hprotection, hdest, hprivate]
    rfl
  | publicKey _ hprotection hdest hprivate hpublic =>
    have hpublic : c.publicKey s.info.dest = .error e := keyFrom_eq_error_iff.2 hpublic
    simp only [Client.protect, hprotection, hdest, hprivate, hpublic]
    rfl
  | privateLength _ hprotection hdest hprivate hpublic hlength =>
    have hown := Direct.publicKey_eq_error_iff.2 ⟨hlength, rfl⟩
    simp only [Client.protect, hprotection, hdest, hprivate, hpublic, hown, bind, Except.bind, Except.mapError]
    rfl
  | @publicLength privateKey publicKey _ hprotection hdest hprivate hpublic hprivateLength hlength =>
    have htext := Submission.length_encode_data_le hpayload
    have hown := Direct.publicKey_eq hprivateLength
    have hsealed : Direct.sealFor (Data.schema.encode s.data) privateKey publicKey p.id p.sender extra =
        .error (.keyLength publicKey.length) := (Direct.sealFor_eq_error_iff hprivateLength htext).2 ⟨hlength, rfl⟩
    simp only [Client.protect, hprotection, hdest, hprivate, hpublic, hown, hsealed, bind, Except.bind,
      Except.mapError]
    rfl

theorem pack_eq_error_iff : (c.pack m s).2 = .error e ↔ c.Refuses s e := by
  rw [pack]
  cases hcheck : c.check s with
  | ok _ => exact ⟨refuses_of_protect hcheck, fun h => h.protect hcheck _ _⟩
  | error cause =>
    constructor
    · intro h
      cases h
      rcases check_eq_error_iff.1 hcheck with ⟨hmanaged, rfl⟩ | ⟨hmanaged, hpayload, rfl⟩
      · exact .unmanaged hmanaged
      · exact .tooLarge hmanaged hpayload
    · intro h
      cases h with
      | unmanaged hmanaged => rw [← hcheck, check_eq_error_iff.2 (.inl ⟨hmanaged, rfl⟩)]
      | tooLarge hmanaged hpayload => rw [← hcheck, check_eq_error_iff.2 (.inr ⟨hmanaged, hpayload, rfl⟩)]
      | _ hok =>
        rw [hcheck] at hok
        cases hok

theorem Refuses.ne_allTransportsFailed (h : c.Refuses s e) (faults : List TransportError) :
    e ≠ .allTransportsFailed faults := by
  rintro rfl
  cases h with
  | privateKey _ _ _ hprivate => cases hprivate
  | publicKey _ _ _ _ hpublic => cases hpublic

end Refusal

/-! ### The outcome -/

/-- What a transmission comes to, with what the links were offered for it. -/
structure Outcome (c : Client) (s : Submission) (t : Step (Except MeshError UInt32)) (offers : List Offer) : Prop where
  /-- Nothing about the client changes but the counter of packet IDs. -/
  client : ∃ ids, t.client = { c with packetIds := ids }
  /-- What goes out is what was offered and accepted. -/
  effects : t.effects = offers.filterMap Offer.effect?
  /-- Without a reason against it, one packet is offered to each link once, and each link replies for itself. -/
  offered : (∀ e, ¬c.Refuses s e) → ∃ o id, c.Carries s id o.channel o.packet ∧
    offers.map (·.link) = List.range c.links.length ∧ (∀ x ∈ offers, x.out = o) ∧
    offers.map (·.reply) = c.links.map fun l => .ofFault l.fault
  /-- Then the owner gets to know what the replies come to. -/
  gathered : (∀ e, ¬c.Refuses s e) → Reply.gather? (offers.map (·.reply)) = some (t.value.map fun _ => ())
  /-- With a reason against it, no link is offered anything. -/
  refused : ∀ e, c.Refuses s e → t.value = .error e ∧ offers = []
  /-- The owner gets an ID exactly if a link accepted the packet with that ID. -/
  ok : ∀ id, t.value = .ok id ↔ ∃ i name p, .sent i name p ∈ t.effects ∧ p.id = id
  /-- The owner gets the faults of the links, in their order, exactly if the packet was offered and all refused. -/
  failed : ∀ faults, t.value = .error (.allTransportsFailed faults) ↔
    offers ≠ [] ∧ offers.map (·.reply) = faults.map .refused
  /-- Any other error is a reason against the submission, or there are no links, and then nothing was offered. -/
  other : ∀ e, t.value = .error e → (∃ faults, e = .allTransportsFailed faults) ∨
    offers = [] ∧ (c.Refuses s e ∨ e = .noTransports ∧ c.links = [])

section Outcome
variable {c : Client} {m : Moment} {s : Submission}

/-- The outcome of a submission that something speaks against. -/
theorem Outcome.of_refuses {t : Step (Except MeshError UInt32)} {e : MeshError} (h : c.Refuses s e)
    (hclient : ∃ ids, t.client = { c with packetIds := ids }) (heffects : t.effects = [])
    (hvalue : t.value = .error e) (honly : ∀ e', c.Refuses s e' → e' = e) : c.Outcome s t [] where
  client := hclient
  effects := heffects
  offered hnone := absurd h (hnone e)
  gathered hnone := absurd h (hnone e)
  refused e' h' := ⟨by rw [hvalue, honly e' h'], rfl⟩
  ok id := by
    rw [hvalue, heffects]
    exact ⟨(nomatch ·), fun ⟨_, _, _, hsent, _⟩ => nomatch hsent⟩
  failed faults := by
    rw [hvalue, Except.error.injEq]
    exact ⟨fun he => absurd he (h.ne_allTransportsFailed faults), fun hoffers => absurd rfl hoffers.1⟩
  other e' he' := by
    rw [hvalue] at he'
    cases he'
    exact .inr ⟨rfl, .inl h⟩

/-- The outcome of a submission that nothing speaks against. -/
theorem Outcome.of_offersTo {t : Step (Except MeshError UInt32)} {o : Outgoing} {id : UInt32}
    (hcarries : c.Carries s id o.channel o.packet) (hnone : ∀ e, ¬c.Refuses s e)
    (hclient : ∃ ids, t.client = { c with packetIds := ids }) (heffects : t.effects = accepted c.links o)
    (hvalue : t.value = (fanOut c.links).map fun () => o.packet.id) : c.Outcome s t (offersTo c.links o) where
  client := hclient
  effects := heffects.trans (filterMap_effect?_offersTo c.links o).symm
  offered _ :=
    ⟨o, id, hcarries, map_link_offersTo c.links o, fun _ => out_of_mem_offersTo, map_reply_offersTo c.links o⟩
  gathered _ := by
    rw [map_reply_offersTo, Reply.gather?_ofFault, hvalue]
    cases fanOut c.links with
    | error e => rfl
    | ok _ => rfl
  refused e h := absurd h (hnone e)
  ok id := by rw [hvalue, heffects, map_fanOut_eq_ok_iff]
  failed faults := by
    rw [hvalue, map_fanOut_eq_error_iff, fanOut_eq_error_iff, map_reply_offersTo, map_ofFault_eq_map_refused_iff]
    simp [offersTo_eq_nil_iff]
  other e he := by
    rw [hvalue, map_fanOut_eq_error_iff, fanOut_eq_error_iff] at he
    rcases he with ⟨hlinks, rfl⟩ | ⟨-, faults, -, rfl⟩
    · exact .inr ⟨offersTo_eq_nil_iff.2 hlinks, .inr ⟨rfl, hlinks⟩⟩
    · exact .inl ⟨faults, rfl⟩

theorem transmit_outcome (c : Client) (m : Moment) (s : Submission) :
    c.Outcome s (c.transmit m s) (c.offers m s) := by
  have hclient := c.transmit_client m s
  rw [offers]
  cases hpack : (c.pack m s).2 with
  | error e =>
    have honly : ∀ e', c.Refuses s e' → e' = e := fun e' h' =>
      Except.error.inj ((pack_eq_error_iff.2 h').symm.trans hpack)
    rw [transmit_of_pack_eq_error hpack] at hclient ⊢
    exact .of_refuses (pack_eq_error_iff.1 hpack) hclient rfl rfl honly
  | ok o =>
    have hnone : ∀ e, ¬c.Refuses s e := fun e h => by
      rw [pack_eq_error_iff.2 h] at hpack
      cases hpack
    rw [transmit_of_pack_eq_ok hpack] at hclient ⊢
    exact .of_offersTo (carries_of_pack hpack).2 hnone hclient rfl rfl

end Outcome

theorem send_bytes (c : Client) (m : Moment) (channel : ChannelDef) (payload : Bytes) (info : PacketInfo) :
    c.send m (.bytes channel payload info) = c.transmit m ⟨channel, payload, info⟩ :=
  c.send_eq_transmit m rfl fun _ => rfl

/-- A payload of the owner's goes to every link or to none, and the owner gets to know which. The links reply in any
order, each for itself, and when all of them have, the offer is at its end. -/
theorem send_bytes_outcome (c : Client) (m : Moment) (channel : ChannelDef) (payload : Bytes) (info : PacketInfo) :
    let s : Submission := ⟨channel, payload, info⟩
    let t := c.send m (.bytes channel payload info)
    c.Outcome s t (c.offers m s) ∧
    (∀ o, (c.pack m s).2 = .ok o → ∀ call, ∀ xs : List Offer, xs.Perm (c.offers m s) →
      ((c.pack m s).1.overlap call (.offered o (c.links.map fun _ => .awaited))
        (CallStep.moves m (xs.map Offer.step ++ [.join]))).Rearranges (t.map .joined)) ∧
    ∀ call, c.compose m (.traceroute call.sender call.target call.channel) = .ok s →
      ∀ links : List (Link × Nat), links.Perm c.links.zipIdx →
        (c.overlap call .acquired (CallStep.moves m (.offer :: (CallStep.replies links ++ [.join])))).Rearranges
          (t.map .joined) := by
  intro s t
  have ht : t = c.transmit m s := c.send_bytes m channel payload info
  refine ⟨?_, fun o hpack call xs hxs => ?_, fun call hcompose links hlinks => ?_⟩
  · rw [ht]
    exact c.transmit_outcome m s
  · rw [offers, hpack] at hxs
    rw [ht, transmit_of_pack_eq_ok hpack]
    exact (c.pack m s).1.overlap_offered call m hxs
  · rw [ht, ← send_traceroute c m _ _ _ hcompose]
    exact c.overlap_offer call m hlinks

/-- The second of two links replies first and refuses. The packet is on the other one, and the owner gets its ID. -/
theorem send_bytes_outcome_refused_first :
    let m : Moment := ⟨0, 0, fun _ => 0⟩
    let links : List Link := [{ name := "udp" }, { name := "mqtt", fault := some (.notConnected "mqtt") }]
    let c : Client := { ofSettings (.ofNode ⟨256⟩) m with links := links }
    let s : Submission := ⟨.defaultChannel, [104, 105],
      { port := .textMessage, protection := .none, sender := ⟨256⟩, dest := ⟨768⟩ }⟩
    ∃ o, (c.pack m s).2 = .ok o ∧
      (c.offers m s).reverse = [⟨1, o, .refused (.notConnected "mqtt")⟩, ⟨0, o, .accepted⟩] ∧
      (c.send m (.bytes s.channel s.payload s.info)).value = .ok 1 ∧
      ∀ call, ((c.pack m s).1.overlap call (.offered o (links.map fun _ => .awaited))
        (CallStep.moves m ((c.offers m s).reverse.map Offer.step ++ [.join]))).value = .joined (.ok 1) := by
  intro m links c s
  obtain ⟨houtcome, hreplies, -⟩ := c.send_bytes_outcome m s.channel s.payload s.info
  have hvalue : (c.send m (.bytes s.channel s.payload s.info)).value = .ok 1 :=
    (houtcome.ok 1).2 ⟨0, _, _, List.mem_cons_self, by decide +kernel⟩
  refine ⟨_, rfl, rfl, hvalue, fun call => ?_⟩
  rw [(hreplies _ rfl call _ (List.reverse_perm _)).value, Step.map, hvalue]

end Client

end RadioMesh
