import RadioMesh.Proofs.Client.Channels
import RadioMesh.Proofs.Client.Connected

/-!
The channels of a client, told from what its owner joined. Under each name stands the definition that was joined last,
whatever came in between, so only that counts: neither the order in which channels of different names were joined, nor
what a name stood for before.
-/

namespace RadioMesh

/-! ### What was joined -/

/-- The last definition of a name. -/
def ChannelDef.latest? (joined : List ChannelDef) (name : String) : Option ChannelDef :=
  (joined.filter (·.name = name)).getLast?

namespace ChannelDef

@[simp] theorem latest?_nil (name : String) : latest? [] name = none := rfl

theorem latest?_append_singleton (joined : List ChannelDef) (d : ChannelDef) (name : String) :
    latest? (joined ++ [d]) name = if name = d.name then some d else latest? joined name := by
  by_cases h : name = d.name
  · simp [latest?, h]
  · simp [latest?, h, Ne.symm h]

theorem latest?_append (joined later : List ChannelDef) (name : String) :
    latest? (joined ++ later) name = (latest? later name).or (latest? joined name) := by
  rw [latest?, List.filter_append, List.getLast?_append]
  rfl

theorem name_of_latest? {joined : List ChannelDef} {name : String} {d : ChannelDef}
    (h : latest? joined name = some d) : d.name = name :=
  of_decide_eq_true (List.mem_filter.1 (List.mem_of_getLast? h)).2

theorem isSome_latest? {joined : List ChannelDef} {d : ChannelDef} (h : d ∈ joined) :
    (latest? joined d.name).isSome = true := by
  rw [latest?, List.getLast?_isSome]
  exact List.ne_nil_of_mem (List.mem_filter.2 ⟨h, decide_eq_true rfl⟩)

/-- Definitions of different names may be joined in any order. -/
theorem latest?_eq_of_perm {joined joined' : List ChannelDef} (h : joined'.Perm joined)
    (hnames : (joined.map (·.name)).Nodup) (name : String) : latest? joined' name = latest? joined name := by
  have hshort : (joined.filter (·.name = name)).length ≤ 1 := by
    have hcount := List.nodup_iff_count_le_one.1 hnames name
    rw [List.count, List.countP_map] at hcount
    rw [← List.countP_eq_length_filter]
    exact (List.countP_congr fun d _ => by simp).trans_le hcount
  have hperm : (joined'.filter (·.name = name)).Perm (joined.filter (·.name = name)) := h.filter _
  rw [latest?, latest?]
  generalize joined.filter (·.name = name) = known at hshort hperm
  cases known with
  | nil => rw [hperm.eq_nil]
  | cons d known =>
    have hnil : known = [] := List.length_eq_zero_iff.1 (by rw [List.length_cons] at hshort; omega)
    rw [hnil] at hperm ⊢
    rw [List.perm_singleton.1 hperm]

end ChannelDef

namespace Action

/-- The channel that an action joins. A text that is no key joins nothing. -/
def joins? : Action → Option ChannelDef
  | .addChannel d => some d
  | .addChannelText name key => (ChannelDef.ofKeyText name key).toOption
  | .setPrimary d => some d
  | _ => none

/-- What a run joins, in this order. -/
def joins (actions : List (Moment × Action)) : List ChannelDef :=
  actions.filterMap (·.2.joins?)

/-- The link that an action registers. -/
def registers? : Action → Option Link
  | .addLink l => some l
  | _ => none

/-- The links that a run registers, in the order of their places. -/
def registered (actions : List (Moment × Action)) : List Link :=
  actions.filterMap (·.2.registers?)

/-- The channel for announcements behind an action. -/
def primaryAfter (primary : ChannelDef) : Action → ChannelDef
  | .setPrimary d => d
  | _ => primary

end Action

namespace Client

open RadioMesh.Action RadioMesh.ChannelDef

variable {c : Client} {m : Moment} {a : Action} {d : ChannelDef}

/-! ### What an action does to channels and links -/

theorem addChannel_of_known (h : c.channel? d.name = some d) : c.addChannel d = .still c () := by
  rw [addChannel, if_pos h]

theorem addChannel_of_new (h : c.channel? d.name ≠ some d) :
    c.addChannel d =
      ⟨{ c with channels := c.channels.insert d.name d },
        .event (.channelJoined d.name d.keyText?) :: c.announce d.name, ()⟩ := by
  rw [addChannel, if_neg h]

theorem channel?_addChannel (c : Client) (d : ChannelDef) (name : String) :
    (c.addChannel d).client.channel? name = if name = d.name then some d else c.channel? name := by
  by_cases hknown : c.channel? d.name = some d
  · rw [addChannel_of_known hknown]
    show c.channel? name = _
    split
    · next hname => rw [hname, hknown]
    · rfl
  · rw [addChannel_of_new hknown]
    exact c.channels.get?_insert d.name d name

/-- Every way to join a channel announces it alike; one of them makes it the primary channel, too. -/
theorem act_of_joins? (h : a.joins? = some d) :
    (c.act m a).effects = (c.addChannel d).effects ∧
      (c.act m a).client = { (c.addChannel d).client with primary := a.primaryAfter c.primary } := by
  have hprimary : (c.addChannel d).client.primary = c.primary := by
    obtain ⟨channels, -, hclient⟩ := c.addChannel_client d
    rw [hclient]
  cases a with
  | addChannel d' =>
    cases h
    refine ⟨rfl, ?_⟩
    show (c.addChannel d).client = { (c.addChannel d).client with primary := c.primary }
    rw [← hprimary]
  | addChannelText name key =>
    cases htext : ChannelDef.ofKeyText name key with
    | error e =>
      rw [joins?, htext] at h
      cases h
    | ok d' =>
      rw [joins?, htext] at h
      cases h
      have hact : c.act m (.addChannelText name key) =
          ((c.addChannel d).andThen fun c' () => .still c' (.ok ())).map .ofCall := by
        simp only [act, addChannelText, htext]
      rw [hact]
      refine ⟨List.append_nil _, ?_⟩
      show (c.addChannel d).client = { (c.addChannel d).client with primary := c.primary }
      rw [← hprimary]
  | setPrimary d' =>
    cases h
    exact ⟨List.append_nil _, rfl⟩
  | _ => cases h

/-- A text that is no key changes nothing. -/
theorem act_of_badKey {name : String} {key : Option String} {e : IdentifierError}
    (h : ChannelDef.ofKeyText name key = .error e) :
    c.act m (.addChannelText name key) = .still c (.refused (.identifier e)) := by
  simp only [act, addChannelText, h]
  rfl

theorem length_links_report (c : Client) (i : Nat) (r : LinkReport) :
    (c.report i r).client.links.length = c.links.length := by
  unfold report
  split
  · rfl
  · rw [links_hear, modifyLink, List.length_modify]

theorem length_links_startLink (c : Client) (i : Nat) : (c.startLink i).client.links.length = c.links.length := by
  unfold startLink
  dsimp only
  split
  · rfl
  · split
    · rfl
    · exact c.length_links_report i .started

theorem length_links_startLinks (c : Client) (is : List Nat) :
    (c.startLinks is).client.links.length = c.links.length := by
  induction is generalizing c with
  | nil => rfl
  | cons i is ih => exact (ih (c.startLink i).client).trans (c.length_links_startLink i)

theorem length_links_connect (c : Client) (now : Instant) : (c.connect now).client.links.length = c.links.length := by
  have hstarted := c.length_links_startLinks (List.range c.links.length)
  unfold connect
  split
  · rfl
  · unfold Step.andThen
    dsimp only
    split
    · exact hstarted
    · exact hstarted

/-- All other actions leave the channels and the choice among them alone, and only one of them adds a link. -/
theorem act_of_not_joins (c : Client) (m : Moment) (h : a.joins? = none) :
    (c.act m a).client.channels = c.channels ∧ (c.act m a).client.primary = c.primary ∧
      (c.act m a).client.links.length = c.links.length + a.registers?.toList.length := by
  cases a with
  | receive d =>
    obtain ⟨_, _, _, _, hclient⟩ := c.receive_client m d
    show (c.receive m d).client.channels = _ ∧ (c.receive m d).client.primary = _ ∧
      (c.receive m d).client.links.length = _
    rw [hclient]
    exact ⟨rfl, rfl, rfl⟩
  | send r =>
    obtain ⟨_, _, hclient⟩ := c.send_client m r
    show (c.send m r).client.channels = _ ∧ (c.send m r).client.primary = _ ∧ (c.send m r).client.links.length = _
    rw [hclient]
    exact ⟨rfl, rfl, rfl⟩
  | requestTraceroute sender target channel context =>
    obtain ⟨_, _, _, hclient⟩ := c.requestTraceroute_client m sender target channel context
    show (c.requestTraceroute m sender target channel context).client.channels = _ ∧
      (c.requestTraceroute m sender target channel context).client.primary = _ ∧
      (c.requestTraceroute m sender target channel context).client.links.length = _
    rw [hclient]
    exact ⟨rfl, rfl, rfl⟩
  | addChannelText name key =>
    cases htext : ChannelDef.ofKeyText name key with
    | error e =>
      rw [act_of_badKey htext]
      exact ⟨rfl, rfl, rfl⟩
    | ok d =>
      rw [joins?, htext] at h
      cases h
  | report i r =>
    obtain ⟨_, _, _, hclient⟩ := c.report_client i r
    have hlength := c.length_links_report i r
    show (c.report i r).client.channels = _ ∧ (c.report i r).client.primary = _ ∧ (c.report i r).client.links.length = _
    rw [hclient] at hlength ⊢
    exact ⟨rfl, rfl, hlength⟩
  | connect =>
    obtain ⟨_, _, _, _, hclient⟩ := c.connect_client m.now
    have hlength := c.length_links_connect m.now
    show (c.connect m.now).client.channels = _ ∧ (c.connect m.now).client.primary = _ ∧
      (c.connect m.now).client.links.length = _
    rw [hclient] at hlength ⊢
    exact ⟨rfl, rfl, hlength⟩
  | addLink l => exact ⟨rfl, rfl, List.length_append⟩
  | setFault i fault => exact ⟨rfl, rfl, List.length_modify _ _ _⟩
  | disconnect => exact ⟨rfl, rfl, List.length_map _⟩
  | addChannel d => cases h
  | setPrimary d => cases h
  | _ => exact ⟨rfl, rfl, rfl⟩

theorem length_links_act (c : Client) (m : Moment) (a : Action) :
    (c.act m a).client.links.length = c.links.length + a.registers?.toList.length := by
  cases ha : a.joins? with
  | none => exact (c.act_of_not_joins m ha).2.2
  | some d =>
    obtain ⟨_, -, hclient⟩ := c.addChannel_client d
    have hregisters : a.registers? = none := by
      cases a with
      | addLink l => cases ha
      | _ => rfl
    rw [(act_of_joins? ha).2, hclient, hregisters]
    rfl

/-! ### What a run does to channels and links -/

theorem latest?_joins_append_singleton (actions : List (Moment × Action)) (m : Moment) (a : Action) (name : String) :
    latest? (joins (actions ++ [(m, a)])) name = match a.joins? with
      | none => latest? (joins actions) name
      | some d => if name = d.name then some d else latest? (joins actions) name := by
  rw [joins, List.filterMap_append]
  cases ha : a.joins? with
  | none => simp [joins, ha]
  | some d => simp [joins, ha, latest?_append_singleton]

/-- Under each name stands what was joined last. -/
theorem channel?_after (s : Settings) (m₀ : Moment) (actions : List (Moment × Action)) (name : String) :
    (after s m₀ actions).channel? name = latest? (joins actions) name := by
  induction actions using List.reverseRecOn with
  | nil => rfl
  | append_singleton actions x ih =>
    obtain ⟨m, a⟩ := x
    rw [after, run_append_singleton, latest?_joins_append_singleton]
    cases ha : a.joins? with
    | none =>
      rw [channel?, (act_of_not_joins _ _ ha).1]
      exact ih
    | some d =>
      rw [(act_of_joins? ha).2]
      dsimp only
      rw [← ih]
      exact channel?_addChannel _ d name

theorem length_links_after (s : Settings) (m₀ : Moment) (actions : List (Moment × Action)) :
    (after s m₀ actions).links.length = (registered actions).length := by
  induction actions using List.reverseRecOn with
  | nil => rfl
  | append_singleton actions x ih =>
    rw [after, run_append_singleton, length_links_act, registered, List.filterMap_append, List.length_append]
    exact congrArg (· + x.2.registers?.toList.length) ih

theorem mem_keys_after {s : Settings} {m₀ : Moment} {actions : List (Moment × Action)} {name : String} :
    name ∈ (after s m₀ actions).channels.keys ↔ ∃ d ∈ joins actions, d.name = name := by
  rw [NameMap.mem_keys_iff]
  show ((after s m₀ actions).channel? name).isSome = true ↔ _
  rw [channel?_after]
  constructor
  · intro h
    obtain ⟨d, hd⟩ := Option.isSome_iff_exists.1 h
    exact ⟨d, (List.mem_filter.1 (List.mem_of_getLast? hd)).1, name_of_latest? hd⟩
  · rintro ⟨d, hd, rfl⟩
    exact isSome_latest? hd

/-! ### The listed channels -/

theorem mem_channelList_iff (hnamed : Named c.channels) : d ∈ c.channelList ↔ c.channel? d.name = some d := by
  constructor
  · intro h
    obtain ⟨e, he, rfl⟩ := List.mem_map.1 h
    rw [hnamed e he]
    exact NameMap.get?_of_mem_entries he
  · intro h
    exact List.mem_map_of_mem (NameMap.mem_entries_of_get? h)

theorem channelList_ascending (hnamed : Named c.channels) :
    c.channelList.Pairwise fun x y => x.name < y.name := by
  refine List.pairwise_map.2 (c.channels.ascending.imp_of_mem fun {x y} hx hy hlt => ?_)
  rw [hnamed x hx, hnamed y hy]
  exact hlt

end Client

end RadioMesh
