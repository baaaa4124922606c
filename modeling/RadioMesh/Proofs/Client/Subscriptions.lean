import RadioMesh.Proofs.Client.Joins
import RadioMesh.Proofs.Client.Upkeep

/-!
Who is told of a channel. Joining a definition that is not the one on record tells the owner once and each link once;
joining it again tells nobody. Links that are there when the client connects are told of the channels that were joined
before, so from then on they know all of them.
-/

namespace RadioMesh.Client

open RadioMesh.Action RadioMesh.ChannelDef

/-! ### Joining -/

/-- What joining a channel tells links and owner, the links being those that a run registered. -/
def announcement (registered : List Link) (d : ChannelDef) : List Effect :=
  .event (.channelJoined d.name d.keyText?) :: (List.range registered.length).map fun i => .joined i d.name

section Joining
variable {s : Settings} {m₀ m : Moment} {actions : List (Moment × Action)} {a : Action} {d : ChannelDef}

theorem act_joins_known (hjoins : a.joins? = some d) (hknown : latest? (joins actions) d.name = some d) :
    ((after s m₀ actions).act m a).effects = [] ∧ ((after s m₀ actions).act m a).client =
      { after s m₀ actions with primary := a.primaryAfter (after s m₀ actions).primary } := by
  rw [← channel?_after s m₀] at hknown
  obtain ⟨heffects, hclient⟩ := act_of_joins? (c := after s m₀ actions) (m := m) hjoins
  rw [heffects, hclient, addChannel_of_known hknown]
  exact ⟨rfl, rfl⟩

theorem act_joins_new (hjoins : a.joins? = some d) (hnew : latest? (joins actions) d.name ≠ some d) :
    ((after s m₀ actions).act m a).effects = announcement (registered actions) d ∧
      ((after s m₀ actions).act m a).client =
        { after s m₀ actions with
          channels := (after s m₀ actions).channels.insert d.name d
          primary := a.primaryAfter (after s m₀ actions).primary } := by
  rw [← channel?_after s m₀] at hnew
  obtain ⟨heffects, hclient⟩ := act_of_joins? (c := after s m₀ actions) (m := m) hjoins
  rw [heffects, hclient, addChannel_of_new hnew, announce, length_links_after]
  exact ⟨rfl, rfl⟩

end Joining

/-! ### What links know -/

/-- The first `n` links were told of all channels that a client has joined. -/
def Informed (n : Nat) (effects : List Effect) (c : Client) : Prop :=
  ∀ i < n, ∀ name ∈ c.channels.keys, .joined i name ∈ effects

section Informed
variable {c : Client} {n : Nat} {effects : List Effect}

theorem Informed.act (h : c.Informed n effects) (hn : n ≤ c.links.length) (m : Moment) (a : Action) :
    (c.act m a).client.Informed n (effects ++ (c.act m a).effects) := by
  cases ha : a.joins? with
  | none =>
    rw [Informed, (c.act_of_not_joins m ha).1]
    exact fun i hi name hname => List.mem_append_left _ (h i hi name hname)
  | some d =>
    obtain ⟨heffects, hclient⟩ := act_of_joins? (c := c) (m := m) ha
    rw [heffects, hclient]
    intro i hi name hname
    by_cases hknown : c.channel? d.name = some d
    · rw [addChannel_of_known hknown] at hname ⊢
      exact List.mem_append_left _ (h i hi name hname)
    · rw [addChannel_of_new hknown] at hname ⊢
      by_cases heq : name = d.name
      · -- The new channel is announced to all links, these among them.
        refine List.mem_append_right _ (List.mem_cons_of_mem _ ?_)
        exact List.mem_map.2 ⟨i, List.mem_range.2 (Nat.lt_of_lt_of_le hi hn), by rw [heq]⟩
      · rw [NameMap.mem_keys_iff, NameMap.get?_insert, if_neg heq, ← NameMap.mem_keys_iff] at hname
        exact List.mem_append_left _ (h i hi name hname)

theorem Informed.run (h : c.Informed n effects) (hn : n ≤ c.links.length) (actions : List (Moment × Action)) :
    (c.run actions).client.Informed n (effects ++ (c.run actions).effects) := by
  induction actions generalizing c effects with
  | nil => rwa [run, Step.still, List.append_nil]
  | cons x actions ih =>
    obtain ⟨m, a⟩ := x
    rw [run_cons_effects, ← List.append_assoc]
    refine ih (h.act hn m a) ?_
    rw [length_links_act]
    exact Nat.le_add_right_of_le hn

theorem joined_mem_startLink {i : Nat} (hi : i < c.links.length) {name : String} (hname : name ∈ c.channels.keys) :
    .joined i name ∈ (c.startLink i).effects := by
  have hjoins : Effect.joined i name ∈ c.channels.keys.map fun name => Effect.joined i name :=
    List.mem_map_of_mem hname
  unfold startLink
  rw [List.getElem?_eq_getElem hi]
  dsimp only
  split
  · exact hjoins
  · exact List.mem_append_left _ hjoins

theorem joined_mem_startLinks {is : List Nat} {i : Nat} (hi : i ∈ is) (hlink : i < c.links.length) {name : String}
    (hname : name ∈ c.channels.keys) : .joined i name ∈ (c.startLinks is).effects := by
  induction is generalizing c with
  | nil => cases hi
  | cons j is ih =>
    rcases List.mem_cons.1 hi with rfl | hi
    · exact List.mem_append_left _ (joined_mem_startLink hlink hname)
    · -- The links before this one were started without a change to links or channels.
      obtain ⟨_, _, _, hclient⟩ := c.startLink_client j
      refine List.mem_append_right _ (List.mem_append_left _ (ih hi ?_ ?_))
      · rwa [length_links_startLink]
      · rwa [hclient]

/-- A client that connects tells all its links, whether or not they start. -/
theorem informed_connect (c : Client) (now : Instant) :
    (c.connect now).client.Informed c.links.length (c.connect now).effects := by
  obtain ⟨_, _, _, _, hclient⟩ := c.connect_client now
  rw [Informed, hclient]
  intro i hi name hname
  have hjoined := joined_mem_startLinks (List.mem_range.2 hi) hi hname
  rw [connect, if_neg fun hempty => by simp [List.isEmpty_iff.1 hempty] at hi]
  exact List.mem_append_left _ hjoined

end Informed

/-- Joining a definition tells the owner and each registered link once, and nobody if it is the one on record. A text
that is no key changes nothing. The channels are listed in the order of their names, each with the definition that was
joined last. Links that were registered when the client connects are told from then on of all channels, of those joined
before and of those joined later. -/
theorem joins_told (s : Settings) (m₀ : Moment) (actions : List (Moment × Action)) :
    let c := after s m₀ actions
    (∀ m a d, a.joins? = some d →
      (latest? (joins actions) d.name = some d →
        (c.act m a).effects = [] ∧ (c.act m a).client = { c with primary := a.primaryAfter c.primary }) ∧
      (latest? (joins actions) d.name ≠ some d →
        (c.act m a).effects = announcement (registered actions) d ∧
        (c.act m a).client =
          { c with channels := c.channels.insert d.name d, primary := a.primaryAfter c.primary })) ∧
    (∀ m name key e, ofKeyText name key = .error e →
      c.act m (.addChannelText name key) = .still c (.refused (.identifier e))) ∧
    c.channelList.Pairwise (fun x y => x.name < y.name) ∧
    (∀ d, d ∈ c.channelList ↔ latest? (joins actions) d.name = some d) ∧
    ∀ m later, ∀ i < (registered actions).length, ∀ d ∈ joins (actions ++ later),
      .joined i d.name ∈ (c.run ((m, .connect) :: later)).effects := by
  intro c
  have hnamed := channels_named_after s m₀ actions
  refine ⟨fun m a d hjoins => ⟨act_joins_known hjoins, act_joins_new hjoins⟩, fun m name key e => act_of_badKey,
    channelList_ascending hnamed, fun d => ?_, fun m later i hi d hd => ?_⟩
  · rw [mem_channelList_iff hnamed, channel?_after]
  · have hinformed : (after s m₀ (actions ++ (m, .connect) :: later)).Informed c.links.length
        (c.run ((m, .connect) :: later)).effects := by
      rw [after, run_append_client]
      exact (c.informed_connect m.now).run (c.length_links_connect m.now).ge later
    have hjoined : d ∈ joins (actions ++ (m, .connect) :: later) := by
      rw [joins, List.filterMap_append] at hd ⊢
      exact hd
    exact hinformed i (by rwa [length_links_after]) d.name (mem_keys_after.2 ⟨d, hjoined, rfl⟩)

/-- One channel is joined before there is a link, and another one after a link that does not start was told of it. -/
theorem joins_told_connected :
    let m : Moment := ⟨0, 0, fun _ => 0⟩
    let home : ChannelDef := ⟨"Home", []⟩
    let actions := [(m, .addChannel home), (m, .addLink { name := "mqtt", fault := some (.io "refused") })]
    let c := after (.ofNode ⟨1⟩) m actions
    (c.act m (.addChannel home)).effects = [] ∧
      (c.act m (.setPrimary .defaultChannel)).effects = announcement (registered actions) .defaultChannel ∧
      c.act m (.addChannelText "Home" (some "?")) = .still c (.refused (.identifier (.key (.symbol 63 0)))) ∧
      .joined 0 "Home" ∈ (c.run [(m, .connect), (m, .addChannel .defaultChannel)]).effects ∧
      .joined 0 "LongFast" ∈ (c.run [(m, .connect), (m, .addChannel .defaultChannel)]).effects := by
  intro m home actions c
  obtain ⟨hjoins, hbad, -, -, hconnect⟩ := joins_told (.ofNode ⟨1⟩) m actions
  have hlinks : 0 < (registered actions).length := by decide
  have hknown : latest? (joins actions) home.name = some home := by decide
  have hnew : latest? (joins actions) defaultChannel.name ≠ some defaultChannel := by decide
  exact ⟨((hjoins m (.addChannel home) home rfl).1 hknown).1,
    ((hjoins m (.setPrimary .defaultChannel) .defaultChannel rfl).2 hnew).1,
    hbad m "Home" (some "?") _ (by cbv),
    hconnect m [(m, .addChannel .defaultChannel)] 0 hlinks home (by decide),
    hconnect m [(m, .addChannel .defaultChannel)] 0 hlinks .defaultChannel (by decide)⟩

end RadioMesh.Client
