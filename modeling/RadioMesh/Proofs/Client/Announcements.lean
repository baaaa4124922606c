import RadioMesh.Proofs.Client.Payloads
import RadioMesh.Proofs.Client.Primary
import RadioMesh.Proofs.Client.Setup
import RadioMesh.Proofs.Store.Expiry

/-!
Announcements of nodes over a run. A node may announce itself when its last announcement lies a guard back, which is
told from its own successful calls alone: calls that fail, calls for other nodes and sweeps leave no trace in what later
calls for the node come to.
-/

namespace RadioMesh

/-! ### What is noted -/

namespace Ledger

variable {κ : Type} [DecidableEq κ]

/-- A ledger of instants tells what was noted until an instant, as far as it lies less than a span back. -/
structure Recalls (l : Ledger κ Instant) (span : Duration) (noted : κ → Instant → Prop) (now : Instant) : Prop where
  sound : ∀ k stamp, l.get? k = some stamp → noted k stamp
  complete : ∀ k stamp, noted k stamp → now - stamp < span → l.get? k = some stamp

theorem recalls_empty (span : Duration) (now : Instant) :
    (∅ : Ledger κ Instant).Recalls span (fun _ _ => False) now where
  sound _ _ hstored := nomatch hstored
  complete _ _ hnoted := hnoted.elim

namespace Recalls

variable {l : Ledger κ Instant} {span : Duration} {noted noted' : κ → Instant → Prop} {now now' : Instant} {k : κ}

theorem later (h : l.Recalls span noted now) (hle : now ≤ now') : l.Recalls span noted now' where
  sound := h.sound
  complete k stamp hnoted hless := h.complete k stamp hnoted ((Nat.sub_le_sub_right hle stamp).trans_lt hless)

theorem congr (h : l.Recalls span noted now) (hsame : ∀ k stamp, noted' k stamp ↔ noted k stamp) :
    l.Recalls span noted' now where
  sound k stamp hstored := (hsame k stamp).2 (h.sound k stamp hstored)
  complete k stamp hnoted := h.complete k stamp ((hsame k stamp).1 hnoted)

theorem any_iff (h : l.Recalls span noted now) : (l.get? k).any (fun stamp => now - stamp < span) = true ↔
    ∃ stamp, noted k stamp ∧ now - stamp < span := by
  rw [Option.any_eq_true]
  constructor
  · rintro ⟨stamp, hstored, hless⟩
    exact ⟨stamp, h.sound k stamp hstored, of_decide_eq_true hless⟩
  · rintro ⟨stamp, hnoted, hless⟩
    exact ⟨stamp, h.complete k stamp hnoted hless, decide_eq_true hless⟩

/-- A sweep drops only what lies too far back. -/
theorem sweep (h : l.Recalls span noted now) :
    (l.filter fun _ stamp => now - stamp < span).Recalls span noted now where
  sound k stamp hstored := by
    rw [get?_filter] at hstored
    exact h.sound k stamp (Option.eq_some_of_filter_eq_some hstored)
  complete k stamp hnoted hless := by
    rw [get?_filter, h.complete k stamp hnoted hless, Option.filter_some, if_pos (decide_eq_true hless)]

/-- What is noted takes the place of what lies too far back. -/
theorem insert (h : l.Recalls span noted now) (hfree : ∀ stamp, noted k stamp → span ≤ now - stamp) :
    (l.insert k now).Recalls span (fun k' stamp => noted k' stamp ∨ k' = k ∧ stamp = now) now where
  sound k' stamp hstored := by
    by_cases hk : k' = k
    · subst hk
      rw [get?_insert_self] at hstored
      exact .inr ⟨rfl, (Option.some.inj hstored).symm⟩
    · rw [get?_insert_of_ne hk] at hstored
      exact .inl (h.sound k' stamp hstored)
  complete k' stamp hnoted hless := by
    rcases hnoted with hold | ⟨rfl, rfl⟩
    · have hk : k' ≠ k := by
        rintro rfl
        exact Nat.not_lt.2 (hfree stamp hold) hless
      rw [get?_insert_of_ne hk]
      exact h.complete k' stamp hold hless
    · exact get?_insert_self _ _ _

end Recalls

end Ledger

namespace Client

open RadioMesh.Action

variable {c c' : Client} {m : Moment} {sender dest node : NodeId} {longName shortName : String} {wantResponse : Bool}
  {publicKey : Option Bytes}

/-! ### One call -/

/-- The names of a node are no longer than radios take them. -/
def NamesFit (longName shortName : String) : Prop :=
  longName.utf8ByteSize ≤ maxLongName ∧ shortName.utf8ByteSize ≤ maxShortName

/-- The submission that announces a node. -/
def introduction (c : Client) (sender dest : NodeId) (longName shortName : String) (wantResponse : Bool)
    (publicKey : Option Bytes) : Submission :=
  ⟨c.primary, User.schema.encode (c.user sender longName shortName publicKey),
    asking (keyedInfo .nodeinfo sender dest) wantResponse⟩

/-- What a call to announce a node can come to. The reasons against it are looked at in this order. -/
inductive Announces (c : Client) (m : Moment) (sender : NodeId) (longName shortName : String) (s : Submission) :
    Step (Except MeshError UInt32) → Prop
  | misnamed {fault : ArgumentFault} (hnames : ¬NamesFit longName shortName) :
    Announces c m sender longName shortName s (.still c (.error (.invalidArgument fault)))
  | guarded (hnames : NamesFit longName shortName) (hguarded : c.isGuarded m.now sender = true) :
    Announces c m sender longName shortName s (.still c (.error (.sentTooRecently sender)))
  | failed {e : MeshError} (hnames : NamesFit longName shortName) (hfree : c.isGuarded m.now sender = false)
    (htransmit : (c.transmit m s).value = .error e) :
    Announces c m sender longName shortName s ⟨(c.transmit m s).client, (c.transmit m s).effects, .error e⟩
  | announced {id : UInt32} (hnames : NamesFit longName shortName) (hfree : c.isGuarded m.now sender = false)
    (htransmit : (c.transmit m s).value = .ok id) :
    Announces c m sender longName shortName s
      ⟨(c.transmit m s).client.noteAnnounced m.now sender, (c.transmit m s).effects, .ok id⟩

theorem compose_nodeInfo (c : Client) (m : Moment) (sender dest : NodeId) (longName shortName : String)
    (wantResponse : Bool) (publicKey : Option Bytes) :
    c.compose m (.nodeInfo sender dest longName shortName wantResponse publicKey) =
      (c.checkNodeInfo m.now sender longName shortName).map fun _ =>
        c.introduction sender dest longName shortName wantResponse publicKey := by
  rw [compose]
  cases c.checkNodeInfo m.now sender longName shortName with
  | error e => rfl
  | ok _ => rfl

theorem announces (c : Client) (m : Moment) (sender dest : NodeId) (longName shortName : String) (wantResponse : Bool)
    (publicKey : Option Bytes) :
    c.Announces m sender longName shortName (c.introduction sender dest longName shortName wantResponse publicKey)
      (c.send m (.nodeInfo sender dest longName shortName wantResponse publicKey)) := by
  rw [send, compose_nodeInfo, checkNodeInfo]
  by_cases hlong : maxLongName < longName.utf8ByteSize
  · rw [if_pos hlong]
    exact .misnamed fun hnames => Nat.not_lt.2 hnames.1 hlong
  by_cases hshort : maxShortName < shortName.utf8ByteSize
  · rw [if_neg hlong, if_pos hshort]
    exact .misnamed fun hnames => Nat.not_lt.2 hnames.2 hshort
  have hnames : NamesFit longName shortName := ⟨Nat.le_of_not_lt hlong, Nat.le_of_not_lt hshort⟩
  rw [if_neg hlong, if_neg hshort]
  cases hguarded : c.isGuarded m.now sender with
  | true => exact .guarded hnames hguarded
  | false =>
    rw [if_neg Bool.false_ne_true]
    dsimp only [Except.map]
    split
    · next e htransmit => exact .failed hnames hguarded htransmit
    · next id htransmit => exact .announced hnames hguarded htransmit

theorem Refuses.ne_sentTooRecently {s : Submission} {e : MeshError} (h : c.Refuses s e) (node : NodeId) :
    e ≠ .sentTooRecently node := by
  rintro rfl
  cases h with
  | privateKey _ _ _ hprivate => cases hprivate
  | publicKey _ _ _ _ hpublic => cases hpublic

/-- The guard has an error of its own. -/
theorem transmit_ne_sentTooRecently (c : Client) (m : Moment) (s : Submission) (node : NodeId) :
    (c.transmit m s).value ≠ .error (.sentTooRecently node) := by
  intro hvalue
  rcases (c.transmit_outcome m s).other _ hvalue with ⟨_, hall⟩ | ⟨-, hrefuses | ⟨hnone, -⟩⟩
  · cases hall
  · exact hrefuses.ne_sentTooRecently node rfl
  · cases hnone

namespace Announces

variable {s : Submission} {t : Step (Except MeshError UInt32)}

theorem sentTooRecently_iff (h : c.Announces m sender longName shortName s t) :
    t.value = .error (.sentTooRecently node) ↔
      node = sender ∧ NamesFit longName shortName ∧ c.isGuarded m.now sender = true := by
  cases h with
  | misnamed hnames => exact iff_of_false (fun h => nomatch h) fun h => hnames h.2.1
  | guarded hnames hguarded =>
    refine ⟨fun h => ?_, fun ⟨hnode, _⟩ => by rw [hnode]; rfl⟩
    cases h
    exact ⟨rfl, hnames, hguarded⟩
  | failed _ hfree htransmit =>
    refine iff_of_false (fun h => ?_) fun h => Bool.false_ne_true (hfree.symm.trans h.2.2)
    exact c.transmit_ne_sentTooRecently m s node (htransmit.trans h)
  | announced _ hfree _ =>
    exact iff_of_false (fun h => nomatch h) fun h => Bool.false_ne_true (hfree.symm.trans h.2.2)

theorem of_ok (h : c.Announces m sender longName shortName s t) {id : UInt32} (hvalue : t.value = .ok id) :
    c.isGuarded m.now sender = false ∧ t.client.nodeInfoSent = c.nodeInfoSent.insert sender m.now := by
  cases h with
  | misnamed _ => cases hvalue
  | guarded _ _ => cases hvalue
  | failed _ _ _ => cases hvalue
  | announced _ hfree _ =>
    obtain ⟨ids, hclient⟩ := c.transmit_client m s
    exact ⟨hfree, by rw [hclient]; rfl⟩

/-- A call that fails uses up an ID at most. -/
theorem of_error (h : c.Announces m sender longName shortName s t) {e : MeshError} (hvalue : t.value = .error e) :
    ∃ ids, t.client = { c with packetIds := ids } := by
  cases h with
  | misnamed _ => exact ⟨c.packetIds, rfl⟩
  | guarded _ _ => exact ⟨c.packetIds, rfl⟩
  | failed _ _ _ => exact c.transmit_client m s
  | announced _ _ _ => cases hvalue

end Announces

/-! ### Any action -/

/-- The node that a request announces. -/
def announces? : Request → Option NodeId
  | .nodeInfo sender _ _ _ _ _ => some sender
  | _ => none

/-- What a call to announce a node came to, and when. -/
structure Verdict where
  node : NodeId
  now : Instant
  outcome : Except MeshError Unit
deriving DecidableEq

/-- What an action comes to, if it is such a call. -/
def verdict? (c : Client) (m : Moment) : Action → Option Verdict
  | .send (.nodeInfo sender dest longName shortName wantResponse publicKey) =>
    some ⟨sender, m.now,
      (c.send m (.nodeInfo sender dest longName shortName wantResponse publicKey)).value.map fun _ => ()⟩
  | _ => none

theorem nodeInfoSent_send {r : Request} (h : announces? r = none) :
    (c.send m r).client.nodeInfoSent = c.nodeInfoSent := by
  have hnote : ∀ c : Client, c.noteSent m.now r = c := by
    cases r with
    | nodeInfo _ _ _ _ _ _ => cases h
    | _ => exact fun _ => rfl
  rw [send]
  cases c.compose m r with
  | error e => rfl
  | ok s =>
    obtain ⟨ids, hclient⟩ := c.transmit_client m s
    dsimp only
    split
    · rw [hclient]
    · rw [hnote, hclient]

theorem nodeInfoSent_sendAll {rs : List Request} (h : ∀ r ∈ rs, announces? r = none) :
    (c.sendAll m rs).client.nodeInfoSent = c.nodeInfoSent := by
  induction rs generalizing c m with
  | nil => rfl
  | cons r rs ih =>
    show ((c.send m r).client.sendAll (m.skip wordsUsed) rs).client.nodeInfoSent = _
    rw [ih fun q hq => h q (List.mem_cons_of_mem r hq), nodeInfoSent_send (h r List.mem_cons_self)]

/-- No answer announces a node. -/
theorem announces?_of_answeredBy {r : Received} {q : Request} (h : r.AnsweredBy q) : announces? q = none := by
  cases h <;> rfl

theorem nodeInfoSent_receive (c : Client) (m : Moment) (d : Delivery) :
    (c.receive m d).client.nodeInfoSent = c.nodeInfoSent := by
  rcases c.receive_cases m d with hstill | ⟨r, reaction, -, hreacts, hreceive⟩
  · rw [hstill]
    rfl
  · rw [hreceive]
    cases hreacts with
    | answers _ _ _ hanswers => exact nodeInfoSent_sendAll fun q hq => announces?_of_answeredBy (hanswers q hq)
    | _ => rfl

theorem nodeInfoSent_requestTraceroute (c : Client) (m : Moment) (sender target : NodeId) (channel : ChannelDef)
    (context : String) :
    (c.requestTraceroute m sender target channel context).client.nodeInfoSent = c.nodeInfoSent := by
  rw [requestTraceroute]
  cases hacquire : c.acquireSlot m.now sender target with
  | error wait => rfl
  | ok c' =>
    obtain ⟨taken, -, rfl⟩ := exists_of_acquireSlot hacquire
    have hsend := nodeInfoSent_send (c := c.withTraceroutes taken) (m := m)
      (r := .traceroute sender target channel) rfl
    dsimp only
    cases ((c.withTraceroutes taken).send m (.traceroute sender target channel)).value with
    | error e => exact hsend
    | ok id => exact hsend

/-- Whatever else happens, the announcements are left alone. -/
theorem nodeInfoSent_act (c : Client) (m : Moment) {a : Action} (hcall : ∀ r, a = .send r → announces? r = none)
    (hsweep : a ≠ .maintain) : (c.act m a).client.nodeInfoSent = c.nodeInfoSent := by
  by_cases huses : a.UsesStores
  · cases a with
    | receive d => exact c.nodeInfoSent_receive m d
    | send r => exact nodeInfoSent_send (hcall r rfl)
    | requestTraceroute sender target channel context =>
      exact c.nodeInfoSent_requestTraceroute m sender target channel context
    | maintain => exact absurd rfl hsweep
    | _ => exact huses.elim
  · exact congrArg Stores.nodeInfoSent ((ignores_act m huses).stores c)

/-- What an action can make of the announcements, with what it comes to as a call. -/
inductive AnnouncementStep (c : Client) (m : Moment) (a : Action) : Option Verdict → Ledger NodeId Instant → Prop
  | still {verdict : Option Verdict} (hfailed : ∀ v ∈ verdict, v.outcome ≠ .ok ()) :
    AnnouncementStep c m a verdict c.nodeInfoSent
  | announced {node : NodeId} (hfree : c.isGuarded m.now node = false) :
    AnnouncementStep c m a (some ⟨node, m.now, .ok ()⟩) (c.nodeInfoSent.insert node m.now)
  | swept (ha : a = .maintain) :
    AnnouncementStep c m a none (c.nodeInfoSent.filter fun _ sent => m.now - sent < c.nodeInfoGuard)

theorem announcementStep_act (c : Client) (m : Moment) (a : Action) :
    c.AnnouncementStep m a (c.verdict? m a) (c.act m a).client.nodeInfoSent := by
  have hother (hcall : ∀ r, a = .send r → announces? r = none) (hsweep : a ≠ .maintain)
      (hverdict : c.verdict? m a = none) :
      c.AnnouncementStep m a (c.verdict? m a) (c.act m a).client.nodeInfoSent := by
    rw [nodeInfoSent_act c m hcall hsweep, hverdict]
    exact .still fun _ hv => nomatch hv
  cases a with
  | maintain => exact .swept rfl
  | send r =>
    cases r with
    | nodeInfo sender dest longName shortName wantResponse publicKey =>
      have hannounces := c.announces m sender dest longName shortName wantResponse publicKey
      show c.AnnouncementStep m _ (some ⟨sender, m.now, Except.map _ (c.send m _).value⟩) (c.send m _).client.nodeInfoSent
      cases hvalue : (c.send m (.nodeInfo sender dest longName shortName wantResponse publicKey)).value with
      | error e =>
        obtain ⟨ids, hclient⟩ := hannounces.of_error hvalue
        rw [hclient]
        refine .still fun v hv => ?_
        cases hv
        exact fun h => nomatch h
      | ok id =>
        obtain ⟨hfree, hsent⟩ := hannounces.of_ok hvalue
        rw [hsent]
        exact .announced hfree
    | _ => exact hother (fun r hr => by cases hr; rfl) Action.noConfusion rfl
  | _ => exact hother (fun _ => Action.noConfusion) Action.noConfusion rfl

/-! ### Runs -/

/-- What the calls to announce nodes came to in a run. -/
def verdicts (c : Client) : List (Moment × Action) → List Verdict
  | [] => []
  | (m, a) :: rest => (c.verdict? m a).toList ++ (c.act m a).client.verdicts rest

theorem verdicts_append_singleton (c : Client) (actions : List (Moment × Action)) (m : Moment) (a : Action) :
    c.verdicts (actions ++ [(m, a)]) = c.verdicts actions ++ ((c.run actions).client.verdict? m a).toList := by
  induction actions generalizing c with
  | nil => exact List.append_nil _
  | cons x actions ih =>
    show _ ++ (c.act x.1 x.2).client.verdicts (actions ++ [(m, a)]) = _
    rw [ih, ← List.append_assoc]
    rfl

/-- A node announced itself at an instant. -/
def Announced (verdicts : List Verdict) (node : NodeId) (stamp : Instant) : Prop :=
  ⟨node, stamp, .ok ()⟩ ∈ verdicts

/-- No node announced itself again before the guard was over. -/
def Spaced (guard : Duration) (verdicts : List Verdict) : Prop :=
  verdicts.Pairwise fun x y => x.node = y.node → x.outcome = .ok () → y.outcome = .ok () → guard ≤ y.now - x.now

section Recalled
variable {past : List Verdict}

theorem isGuarded_iff (h : c.nodeInfoSent.Recalls c.nodeInfoGuard (Announced past) m.now) :
    c.isGuarded m.now sender = true ↔ ∃ stamp, Announced past sender stamp ∧ m.now - stamp < c.nodeInfoGuard :=
  h.any_iff

theorem guard_le_of_free (h : c.nodeInfoSent.Recalls c.nodeInfoGuard (Announced past) m.now)
    (hfree : c.isGuarded m.now sender = false) {stamp : Instant} (hannounced : Announced past sender stamp) :
    c.nodeInfoGuard ≤ m.now - stamp := by
  refine Nat.le_of_not_lt fun hless => Bool.false_ne_true ?_
  rw [← hfree, (isGuarded_iff h).2 ⟨stamp, hannounced, hless⟩]

namespace AnnouncementStep

variable {a : Action} {verdict : Option Verdict} {l : Ledger NodeId Instant}

theorem recalls (h : c.AnnouncementStep m a verdict l)
    (hpast : c.nodeInfoSent.Recalls c.nodeInfoGuard (Announced past) m.now) :
    l.Recalls c.nodeInfoGuard (Announced (past ++ verdict.toList)) m.now := by
  cases h with
  | still hfailed =>
    refine hpast.congr fun node stamp => ?_
    rw [Announced, List.mem_append, Option.mem_toList]
    exact ⟨fun h => h.resolve_right fun hv => hfailed _ hv rfl, .inl⟩
  | announced hfree =>
    refine (hpast.insert fun stamp => guard_le_of_free hpast hfree).congr fun node stamp => ?_
    simp [Announced]
  | swept _ =>
    rw [Option.toList_none, List.append_nil]
    exact hpast.sweep

theorem spaced (h : c.AnnouncementStep m a verdict l)
    (hpast : c.nodeInfoSent.Recalls c.nodeInfoGuard (Announced past) m.now) (hspaced : Spaced c.nodeInfoGuard past) :
    Spaced c.nodeInfoGuard (past ++ verdict.toList) := by
  refine List.pairwise_append.2 ⟨hspaced, by cases verdict <;> simp, fun x hx y hy hnode hfirst hsecond => ?_⟩
  cases h with
  | still hfailed => exact absurd hsecond (hfailed y (Option.mem_toList.1 hy))
  | announced hfree =>
    cases List.mem_singleton.1 hy
    obtain ⟨node, stamp, outcome⟩ := x
    cases hnode
    cases hfirst
    exact guard_le_of_free hpast hfree hx
  | swept _ => cases hy

end AnnouncementStep

end Recalled

section Runs
variable (s : Settings) (m₀ : Moment)

/-- What the calls came to since a client's beginning. -/
def verdictsIn (actions : List (Moment × Action)) : List Verdict :=
  (ofSettings s m₀).verdicts actions

theorem verdictsIn_append_singleton (actions : List (Moment × Action)) (m : Moment) (a : Action) :
    verdictsIn s m₀ (actions ++ [(m, a)]) = verdictsIn s m₀ actions ++ ((after s m₀ actions).verdict? m a).toList :=
  verdicts_append_singleton _ _ _ _

theorem guard_after (actions : List (Moment × Action)) : (after s m₀ actions).nodeInfoGuard = s.nodeInfoGuard := by
  induction actions using List.reverseRecOn with
  | nil => rfl
  | append_singleton actions x ih =>
    rw [after, run_append_singleton, (act_sets _ _ _).guard]
    exact ih

/-- Behind every run the client recalls which nodes announced themselves, and they did so in due time. -/
theorem announced_after {actions : List (Moment × Action)} (hforward : Forward actions) {now : Instant}
    (hle : ∀ x ∈ actions, x.1.now ≤ now) :
    (after s m₀ actions).nodeInfoSent.Recalls s.nodeInfoGuard (Announced (verdictsIn s m₀ actions)) now ∧
      Spaced s.nodeInfoGuard (verdictsIn s m₀ actions) := by
  refine hforward.induction (P := fun actions now =>
    (after s m₀ actions).nodeInfoSent.Recalls s.nodeInfoGuard (Announced (verdictsIn s m₀ actions)) now ∧
      Spaced s.nodeInfoGuard (verdictsIn s m₀ actions))
    (fun now => ⟨(Ledger.recalls_empty s.nodeInfoGuard now).congr fun _ _ => by simp [Announced, verdictsIn, verdicts],
      .nil⟩)
    (fun ⟨hrecalls, hspaced⟩ hle => ⟨hrecalls.later hle, hspaced⟩) (fun {actions m} a _ hpast => ?_) hle
  rw [← guard_after s m₀ actions] at hpast ⊢
  obtain ⟨hrecalls, hspaced⟩ := hpast
  have hstep := (after s m₀ actions).announcementStep_act m a
  rw [verdictsIn_append_singleton, after, run_append_singleton]
  exact ⟨hstep.recalls hrecalls, hstep.spaced hrecalls hspaced⟩

end Runs

/-! ### What calls do not hang on -/

/-- What speaks against a submission is found with the owner's knowledge alone. -/
theorem Refuses.of_directory {s : Submission} {e : MeshError} (hdirectory : c'.directory = c.directory)
    (h : c.Refuses s e) : c'.Refuses s e := by
  have hmanaged (node : NodeId) : c'.isManaged node = c.isManaged node := by
    rw [Client.isManaged, Client.isManaged, hdirectory]
  have hcheck : c'.check s = c.check s := by rw [check, check, hmanaged]
  have hown (node : NodeId) : c'.privateKey node = c.privateKey node := by
    rw [Client.privateKey, Client.privateKey, hdirectory]
  have hother (node : NodeId) : c'.publicKey node = c.publicKey node := by
    rw [Client.publicKey, Client.publicKey, hdirectory]
  cases h with
  | unmanaged hnot => exact .unmanaged ((hmanaged _).trans hnot)
  | tooLarge hyes hpayload => exact .tooLarge ((hmanaged _).trans hyes) hpayload
  | channelKey hok hprotection hkey => exact .channelKey (hcheck.trans hok) hprotection hkey
  | broadcast hok hprotection hdest => exact .broadcast (hcheck.trans hok) hprotection hdest
  | privateKey hok hprotection hdest hnone =>
    exact .privateKey (hcheck.trans hok) hprotection hdest (hdirectory ▸ hnone)
  | publicKey hok hprotection hdest hprivate hnone =>
    exact .publicKey (hcheck.trans hok) hprotection hdest ((hown _).trans hprivate) (hdirectory ▸ hnone)
  | privateLength hok hprotection hdest hprivate hpublic hlength =>
    exact .privateLength (hcheck.trans hok) hprotection hdest ((hown _).trans hprivate) ((hother _).trans hpublic)
      hlength
  | publicLength hok hprotection hdest hprivate hpublic hprivateLength hlength =>
    exact .publicLength (hcheck.trans hok) hprotection hdest ((hown _).trans hprivate) ((hother _).trans hpublic)
      hprivateLength hlength

/-- Whether a transmission succeeds goes by the owner's knowledge and the links. -/
theorem transmit_value_map (c : Client) (m : Moment) (s : Submission) :
    (∃ e, c.Refuses s e ∧ (c.transmit m s).value.map (fun _ => ()) = .error e) ∨
      (∀ e, ¬c.Refuses s e) ∧ (c.transmit m s).value.map (fun _ => ()) = fanOut c.links := by
  cases hpack : (c.pack m s).2 with
  | error e =>
    rw [transmit_of_pack_eq_error hpack]
    exact .inl ⟨e, pack_eq_error_iff.1 hpack, rfl⟩
  | ok o =>
    rw [transmit_of_pack_eq_ok hpack]
    refine .inr ⟨fun e hrefuses => ?_, ?_⟩
    · cases (pack_eq_error_iff.2 hrefuses).symm.trans hpack
    · dsimp only
      cases fanOut c.links with
      | error e => rfl
      | ok _ => rfl

theorem transmit_outcome_congr (m : Moment) (s : Submission) (hdirectory : c'.directory = c.directory)
    (hlinks : c'.links = c.links) :
    (c'.transmit m s).value.map (fun _ => ()) = (c.transmit m s).value.map fun _ => () := by
  rcases c.transmit_value_map m s with ⟨e, hrefuses, hvalue⟩ | ⟨hnone, hvalue⟩
  · have hrefuses' := hrefuses.of_directory hdirectory
    rcases c'.transmit_value_map m s with ⟨e', hrefuses'', hvalue'⟩ | ⟨hnone', -⟩
    · rw [hvalue, hvalue', Except.error.inj ((pack_eq_error_iff (m := m).2 hrefuses'').symm.trans
        (pack_eq_error_iff.2 hrefuses'))]
    · exact absurd hrefuses' (hnone' e)
  · rcases c'.transmit_value_map m s with ⟨e', hrefuses', -⟩ | ⟨-, hvalue'⟩
    · exact absurd (hrefuses'.of_directory hdirectory.symm) (hnone e')
    · rw [hvalue, hvalue', hlinks]

/-- Two states of a client between which calls for some nodes see no difference. -/
structure AlikeFor (nodes : NodeId → Bool) (c c' : Client) : Prop where
  nodeId : c'.nodeId = c.nodeId
  links : c'.links = c.links
  primary : c'.primary = c.primary
  directory : c'.directory = c.directory
  guard : c'.nodeInfoGuard = c.nodeInfoGuard
  announced : ∀ node, nodes node = true → c'.nodeInfoSent.get? node = c.nodeInfoSent.get? node

theorem send_nodeInfo_value (c : Client) (m : Moment) (sender dest : NodeId) (longName shortName : String)
    (wantResponse : Bool) (publicKey : Option Bytes) :
    (c.send m (.nodeInfo sender dest longName shortName wantResponse publicKey)).value =
      (c.checkNodeInfo m.now sender longName shortName).bind fun _ =>
        (c.transmit m (c.introduction sender dest longName shortName wantResponse publicKey)).value := by
  rw [send, compose_nodeInfo]
  cases c.checkNodeInfo m.now sender longName shortName with
  | error e => rfl
  | ok _ =>
    dsimp only [Except.map, Except.bind]
    cases (c.transmit m (c.introduction sender dest longName shortName wantResponse publicKey)).value with
    | error e => rfl
    | ok id => rfl

theorem get?_nodeInfoSent_send (c : Client) (m : Moment) (sender dest : NodeId) (longName shortName : String)
    (wantResponse : Bool) (publicKey : Option Bytes) (node : NodeId) :
    let t := c.send m (.nodeInfo sender dest longName shortName wantResponse publicKey)
    t.client.nodeInfoSent.get? node =
      if node = sender ∧ t.value.map (fun _ => ()) = .ok () then some m.now else c.nodeInfoSent.get? node := by
  intro t
  have hannounces : c.Announces m sender longName shortName _ t :=
    c.announces m sender dest longName shortName wantResponse publicKey
  cases hvalue : t.value with
  | error e =>
    obtain ⟨ids, hclient⟩ := hannounces.of_error hvalue
    rw [hclient, if_neg fun h => nomatch h.2]
  | ok id =>
    rw [(hannounces.of_ok hvalue).2]
    by_cases hnode : node = sender
    · rw [hnode, Ledger.get?_insert_self, if_pos ⟨rfl, rfl⟩]
    · rw [Ledger.get?_insert_of_ne hnode, if_neg fun h => hnode h.1]

namespace AlikeFor

variable {nodes : NodeId → Bool}

theorem outcome (h : AlikeFor nodes c c') (hnode : nodes sender = true) :
    (c'.send m (.nodeInfo sender dest longName shortName wantResponse publicKey)).value.map (fun _ => ()) =
      (c.send m (.nodeInfo sender dest longName shortName wantResponse publicKey)).value.map fun _ => () := by
  have hguarded : c'.isGuarded m.now sender = c.isGuarded m.now sender := by
    rw [isGuarded, isGuarded, h.announced sender hnode, h.guard]
  have hcheck : c'.checkNodeInfo m.now sender longName shortName = c.checkNodeInfo m.now sender longName shortName := by
    rw [checkNodeInfo, checkNodeInfo, hguarded]
  have hintroduction : c'.introduction sender dest longName shortName wantResponse publicKey =
      c.introduction sender dest longName shortName wantResponse publicKey := by
    simp only [introduction, user, roleOf, h.primary, h.nodeId]
  rw [send_nodeInfo_value, send_nodeInfo_value, hcheck, hintroduction]
  cases c.checkNodeInfo m.now sender longName shortName with
  | error e => rfl
  | ok _ => exact transmit_outcome_congr m _ h.directory h.links

/-- A call for another node. -/
theorem of_send (c : Client) (m : Moment) (sender dest : NodeId) (longName shortName : String) (wantResponse : Bool)
    (publicKey : Option Bytes) :
    AlikeFor (· ≠ sender) c (c.send m (.nodeInfo sender dest longName shortName wantResponse publicKey)).client := by
  have hannounced : ∀ node, decide (node ≠ sender) = true →
      (c.send m (.nodeInfo sender dest longName shortName wantResponse publicKey)).client.nodeInfoSent.get? node =
        c.nodeInfoSent.get? node := by
    intro node hnode
    rw [get?_nodeInfoSent_send, if_neg fun h => of_decide_eq_true hnode h.1]
  obtain ⟨ids, announced, hclient⟩ :=
    c.send_client m (.nodeInfo sender dest longName shortName wantResponse publicKey)
  rw [hclient] at hannounced ⊢
  exact ⟨rfl, rfl, rfl, rfl, rfl, hannounced⟩

/-- A call that fails. -/
theorem of_error {e : MeshError}
    (hvalue : (c.send m (.nodeInfo sender dest longName shortName wantResponse publicKey)).value = .error e) :
    AlikeFor (fun _ => true) c
      (c.send m (.nodeInfo sender dest longName shortName wantResponse publicKey)).client := by
  obtain ⟨ids, hclient⟩ := (c.announces m sender dest longName shortName wantResponse publicKey).of_error hvalue
  rw [hclient]
  exact ⟨rfl, rfl, rfl, rfl, rfl, fun _ _ => rfl⟩

theorem act (h : AlikeFor nodes c c') (m : Moment) (a : Action) :
    AlikeFor nodes (c.act m a).client (c'.act m a).client where
  nodeId := by rw [(act_frame c' m a).nodeId, (act_frame c m a).nodeId, h.nodeId]
  links := by rw [(act_sets c' m a).links, (act_sets c m a).links, h.links]
  primary := by rw [primary_act, primary_act, h.primary]
  directory := by rw [(act_sets c' m a).directory, (act_sets c m a).directory, h.directory]
  guard := by rw [(act_sets c' m a).guard, (act_sets c m a).guard, h.guard]
  announced node hnode := by
    have hother (hcall : ∀ r, a = .send r → announces? r = none) (hsweep : a ≠ .maintain) :
        (c'.act m a).client.nodeInfoSent.get? node = (c.act m a).client.nodeInfoSent.get? node := by
      rw [nodeInfoSent_act c' m hcall hsweep, nodeInfoSent_act c m hcall hsweep, h.announced node hnode]
    cases a with
    | maintain =>
      show (c'.nodeInfoSent.filter _).get? node = (c.nodeInfoSent.filter _).get? node
      rw [Ledger.get?_filter, Ledger.get?_filter, h.announced node hnode, h.guard]
    | send r =>
      cases r with
      | nodeInfo sender dest longName shortName wantResponse publicKey =>
        show (c'.send m _).client.nodeInfoSent.get? node = (c.send m _).client.nodeInfoSent.get? node
        rw [get?_nodeInfoSent_send, get?_nodeInfoSent_send, h.announced node hnode]
        by_cases hsender : node = sender
        · rw [h.outcome (hsender ▸ hnode)]
        · rw [if_neg fun hsame => hsender hsame.1, if_neg fun hsame => hsender hsame.1]
      | _ => exact hother (fun r hr => by cases hr; rfl) Action.noConfusion
    | _ => exact hother (fun _ => Action.noConfusion) Action.noConfusion

theorem verdict? (h : AlikeFor nodes c c') (m : Moment) (a : Action) :
    (c'.verdict? m a).toList.filter (fun v => nodes v.node) = (c.verdict? m a).toList.filter fun v => nodes v.node := by
  cases a with
  | send r =>
    cases r with
    | nodeInfo sender dest longName shortName wantResponse publicKey =>
      rw [Client.verdict?, Client.verdict?]
      cases hnode : nodes sender with
      | false => simp [hnode]
      | true => rw [h.outcome hnode]
    | _ => rfl
  | _ => rfl

theorem verdicts (h : AlikeFor nodes c c') (later : List (Moment × Action)) :
    (c'.verdicts later).filter (fun v => nodes v.node) = (c.verdicts later).filter fun v => nodes v.node := by
  induction later generalizing c c' with
  | nil => rfl
  | cons x later ih =>
    rw [Client.verdicts, Client.verdicts, List.filter_append, List.filter_append, h.verdict?, ih (h.act x.1 x.2)]

end AlikeFor

/-- A call whose names fit is refused as too recent exactly if a call for the same node succeeded less than the guard
ago, so that two calls for one node that succeed lie at least the guard apart. A call that fails leaves no trace in what
later calls come to, and a call for one node leaves none in what later calls for others come to. -/
theorem announcements_guarded (s : Settings) (m₀ : Moment) (actions : List (Moment × Action)) (m : Moment)
    (sender dest : NodeId) (longName shortName : String) (wantResponse : Bool) (publicKey : Option Bytes)
    (hforward : Forward (actions ++
      [(m, .send (.nodeInfo sender dest longName shortName wantResponse publicKey))])) :
    let call : Request := .nodeInfo sender dest longName shortName wantResponse publicKey
    let c := after s m₀ actions
    let t := c.send m call
    (∀ node, t.value = .error (.sentTooRecently node) ↔ node = sender ∧ NamesFit longName shortName ∧
      ∃ stamp, Announced (verdictsIn s m₀ actions) sender stamp ∧ m.now - stamp < s.nodeInfoGuard) ∧
    Spaced s.nodeInfoGuard (verdictsIn s m₀ (actions ++ [(m, .send call)])) ∧
    (∀ e, t.value = .error e → t.effects = [] ∧ t.client.nodeInfoSent = c.nodeInfoSent ∧
      ∀ later, t.client.verdicts later = c.verdicts later) ∧
    ∀ later, (t.client.verdicts later).filter (·.node ≠ sender) = (c.verdicts later).filter (·.node ≠ sender) := by
  intro call c t
  obtain ⟨hbefore, hle⟩ := hforward.before
  have hannounces := c.announces m sender dest longName shortName wantResponse publicKey
  have hrecalls := (announced_after s m₀ hbefore hle).1
  have hall : ∀ x ∈ actions ++ [(m, .send call)], x.1.now ≤ m.now := by
    intro x hx
    rcases List.mem_append.1 hx with hx | hx
    · exact hle x hx
    · rw [List.mem_singleton.1 hx]
  refine ⟨fun node => ?_, (announced_after s m₀ hforward hall).2, fun e hvalue => ⟨send_effects_of_error hvalue, ?_, ?_⟩,
    (AlikeFor.of_send c m sender dest longName shortName wantResponse publicKey).verdicts⟩
  · rw [hannounces.sentTooRecently_iff]
    rw [← guard_after s m₀ actions] at hrecalls ⊢
    rw [isGuarded_iff hrecalls]
  · obtain ⟨ids, hclient⟩ := hannounces.of_error hvalue
    rw [hclient]
  · intro later
    have hsame := (AlikeFor.of_error hvalue).verdicts later
    simpa using hsame

/-- A node announces itself. A sweep follows, and a call one millisecond before the guard is over is refused all the
same. With the guard over, the node announces itself again. -/
theorem announcements_guarded_twice :
    let tick (now : Instant) : Moment := ⟨now, 0, fun _ => 0⟩
    let call : Request := .nodeInfo ⟨256⟩ .broadcast "Bridge" "BRG" false none
    let actions := [(tick 0, .addLink { name := "udp" }), (tick 0, .setPrimary (.unencrypted "clear")),
      (tick 0, .send call), (tick 299999, .maintain)]
    let c := after (.ofNode ⟨256⟩) (tick 0) actions
    Forward (actions ++ [(tick 299999, .send call)]) ∧
      Announced (verdictsIn (.ofNode ⟨256⟩) (tick 0) actions) ⟨256⟩ 0 ∧
      (c.send (tick 299999) call).value = .error (.sentTooRecently ⟨256⟩) ∧
      ((c.send (tick 299999) call).client.send (tick 300000) call).value = .ok 2 := by
  intro tick call actions c
  have hforward : Forward (actions ++ [(tick 299999, .send call)]) := by
    unfold Forward
    decide
  have hannounced : Announced (verdictsIn (.ofNode ⟨256⟩) (tick 0) actions) ⟨256⟩ 0 := by
    unfold Announced
    decide +kernel
  obtain ⟨hrefused, -⟩ := announcements_guarded (.ofNode ⟨256⟩) (tick 0) actions (tick 299999) ⟨256⟩ .broadcast "Bridge"
    "BRG" false none hforward
  have hnames : NamesFit "Bridge" "BRG" := by
    unfold NamesFit
    decide
  refine ⟨hforward, hannounced, (hrefused ⟨256⟩).2 ⟨rfl, hnames, 0, hannounced, by decide⟩, ?_⟩
  decide +kernel

end Client

end RadioMesh
