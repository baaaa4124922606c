import Mathlib
import RadioMesh.Client.Run

/-!
What each call can change of a client. All that a call does not name here is as it was before.
-/

namespace RadioMesh.Client

/-! ### Sending -/

theorem transmit_client (c : Client) (m : Moment) (s : Submission) :
    ∃ ids, (c.transmit m s).client = { c with packetIds := ids } := by
  unfold transmit
  split
  · exact ⟨c.packetIds, rfl⟩
  · dsimp only
    split
    · exact ⟨_, rfl⟩
    · exact ⟨_, rfl⟩

theorem noteSent_client (c : Client) (now : Instant) (r : Request) :
    ∃ announced, c.noteSent now r = { c with nodeInfoSent := announced } := by
  unfold noteSent
  split
  · exact ⟨_, rfl⟩
  · exact ⟨c.nodeInfoSent, rfl⟩

theorem send_client (c : Client) (m : Moment) (r : Request) :
    ∃ ids announced, (c.send m r).client = { c with packetIds := ids, nodeInfoSent := announced } := by
  unfold send
  split
  · exact ⟨c.packetIds, c.nodeInfoSent, rfl⟩
  · next s _ =>
    obtain ⟨ids, hids⟩ := c.transmit_client m s
    dsimp only
    split
    · exact ⟨ids, c.nodeInfoSent, hids⟩
    · obtain ⟨announced, hannounced⟩ := (c.transmit m s).client.noteSent_client m.now r
      refine ⟨ids, announced, ?_⟩
      rw [hannounced, hids]

theorem sendAll_client (c : Client) (m : Moment) (rs : List Request) :
    ∃ ids announced, (c.sendAll m rs).client = { c with packetIds := ids, nodeInfoSent := announced } := by
  induction rs generalizing c m with
  | nil => exact ⟨c.packetIds, c.nodeInfoSent, rfl⟩
  | cons r rs ih =>
    obtain ⟨ids, announced, hfirst⟩ := c.send_client m r
    obtain ⟨ids', announced', hrest⟩ := ih (c.send m r).client (m.skip wordsUsed)
    refine ⟨ids', announced', ?_⟩
    show ((c.send m r).client.sendAll (m.skip wordsUsed) rs).client = _
    rw [hrest, hfirst]

theorem exists_of_acquireSlot {c c' : Client} {now : Instant} {sender target : NodeId}
    (h : c.acquireSlot now sender target = .ok c') :
    ∃ taken, c.traceroutes.acquire now sender target = .ok taken ∧ c' = c.withTraceroutes taken := by
  unfold acquireSlot at h
  cases htaken : c.traceroutes.acquire now sender target with
  | error wait =>
    rw [htaken] at h
    cases h
  | ok taken =>
    rw [htaken] at h
    cases h
    exact ⟨taken, rfl, rfl⟩

theorem requestTraceroute_client (c : Client) (m : Moment) (sender target : NodeId) (channel : ChannelDef)
    (context : String) : ∃ ids announced traceroutes, (c.requestTraceroute m sender target channel context).client =
      { c with packetIds := ids, nodeInfoSent := announced, traceroutes := traceroutes } := by
  unfold requestTraceroute
  cases hacquire : c.acquireSlot m.now sender target with
  | error wait => exact ⟨c.packetIds, c.nodeInfoSent, c.traceroutes, rfl⟩
  | ok c' =>
    obtain ⟨taken, -, rfl⟩ := exists_of_acquireSlot hacquire
    obtain ⟨ids, announced, hsent⟩ := (c.withTraceroutes taken).send_client m (.traceroute sender target channel)
    show ∃ ids announced traceroutes, (concludeTraceroute _ _ _ _ _ _ _).1 = _
    rw [hsent]
    unfold concludeTraceroute
    split
    · exact ⟨ids, announced, _, rfl⟩
    · exact ⟨ids, announced, _, rfl⟩

/-! ### Receiving -/

theorem throttled_client (c : Client) (kind : RequestKind) (now : Instant) (node : NodeId) (rs : List Request) :
    ∃ throttle, (c.throttled kind now node rs).1 = { c with throttle := throttle } := by
  rw [throttled]
  dsimp only
  split
  · exact ⟨_, rfl⟩
  · exact ⟨c.throttle, rfl⟩

theorem react_client (c : Client) (m : Moment) (r : Received) :
    ∃ traceroutes throttle, (c.react m r).1 = { c with traceroutes := traceroutes, throttle := throttle } := by
  unfold react
  dsimp only
  split
  · exact ⟨c.traceroutes, c.throttle, rfl⟩
  · exact ⟨c.traceroutes, c.throttle, rfl⟩
  · exact ⟨_, c.throttle, rfl⟩
  · rw [answerTelemetry]
    split
    · obtain ⟨throttle, h⟩ := c.throttled_client .telemetry m.now r.dest (telemetryAnswer r _)
      exact ⟨c.traceroutes, throttle, h⟩
    · exact ⟨c.traceroutes, c.throttle, rfl⟩
  · rw [answerNeighborInfo]
    split
    · obtain ⟨throttle, h⟩ := c.throttled_client .neighborInfo m.now r.dest _
      exact ⟨c.traceroutes, throttle, h⟩
    · exact ⟨c.traceroutes, c.throttle, rfl⟩
  · exact ⟨c.traceroutes, c.throttle, rfl⟩

theorem perform_client (c : Client) (m : Moment) (r : Reaction) :
    ∃ ids announced, (c.perform m r).client = { c with packetIds := ids, nodeInfoSent := announced } := by
  cases r with
  | none => exact ⟨c.packetIds, c.nodeInfoSent, rfl⟩
  | event e => exact ⟨c.packetIds, c.nodeInfoSent, rfl⟩
  | answers rs => exact c.sendAll_client m rs

theorem receive_client (c : Client) (m : Moment) (d : Delivery) :
    ∃ ids announced traceroutes throttle, (c.receive m d).client =
      { (c.enter m.now d.packet).2 with
        packetIds := ids, nodeInfoSent := announced, traceroutes := traceroutes, throttle := throttle } := by
  unfold receive
  obtain ⟨entered, c'⟩ := c.enter m.now d.packet
  dsimp only
  split
  · split
    · exact ⟨_, _, _, _, rfl⟩
    · next r _ =>
      obtain ⟨traceroutes, throttle, hreact⟩ := c'.react_client m r
      obtain ⟨ids, announced, hperform⟩ := (c'.react m r).1.perform_client m (c'.react m r).2
      refine ⟨ids, announced, traceroutes, throttle, ?_⟩
      rw [hperform, hreact]
  · exact ⟨_, _, _, _, rfl⟩

/-! ### Channels and links -/

/-- The channels as they were, or with one joined under its name. -/
def Joins (c : Client) (channels : NameMap ChannelDef) : Prop :=
  channels = c.channels ∨ ∃ d : ChannelDef, channels = c.channels.insert d.name d

theorem addChannel_client (c : Client) (d : ChannelDef) :
    ∃ channels, c.Joins channels ∧ (c.addChannel d).client = { c with channels := channels } := by
  rw [addChannel]
  split
  · exact ⟨c.channels, .inl rfl, rfl⟩
  · exact ⟨_, .inr ⟨d, rfl⟩, rfl⟩

theorem addChannelText_client (c : Client) (name : String) (key : Option String) :
    ∃ channels, c.Joins channels ∧ (c.addChannelText name key).client = { c with channels := channels } := by
  unfold addChannelText
  split
  · exact ⟨c.channels, .inl rfl, rfl⟩
  · next d _ => exact c.addChannel_client d

theorem setPrimary_client (c : Client) (d : ChannelDef) :
    ∃ channels, c.Joins channels ∧ (c.setPrimary d).client = { c with channels := channels, primary := d } := by
  obtain ⟨channels, hjoins, h⟩ := c.addChannel_client d
  refine ⟨channels, hjoins, ?_⟩
  show { (c.addChannel d).client with primary := d } = _
  rw [h]

theorem hear_client (c : Client) (name : String) (r : LinkReport) :
    ∃ up everConnected, (c.hear name r).client = { c with up := up, everConnected := everConnected } := by
  have hup : ∃ up everConnected, (c.comeUp name).client = { c with up := up, everConnected := everConnected } := by
    rw [comeUp]
    dsimp only
    split
    · exact ⟨_, _, rfl⟩
    · exact ⟨_, c.everConnected, rfl⟩
  cases r with
  | started => exact hup
  | restarted => exact hup
  | lost =>
    show ∃ up everConnected, (c.goDown name).client = _
    rw [goDown]
    split
    · exact ⟨_, c.everConnected, rfl⟩
    · exact ⟨_, c.everConnected, rfl⟩

theorem report_client (c : Client) (i : Nat) (r : LinkReport) :
    ∃ links up everConnected, (c.report i r).client =
      { c with links := links, up := up, everConnected := everConnected } := by
  unfold report
  split
  · exact ⟨c.links, c.up, c.everConnected, rfl⟩
  · next l _ =>
    obtain ⟨up, everConnected, h⟩ :=
      (c.modifyLink i fun l => { l with connected := r ≠ .lost }).hear_client l.name r
    exact ⟨_, up, everConnected, h⟩

theorem startLink_client (c : Client) (i : Nat) :
    ∃ links up everConnected, (c.startLink i).client =
      { c with links := links, up := up, everConnected := everConnected } := by
  unfold startLink
  dsimp only
  split
  · exact ⟨c.links, c.up, c.everConnected, rfl⟩
  · split
    · exact ⟨c.links, c.up, c.everConnected, rfl⟩
    · exact c.report_client i .started

theorem startLinks_client (c : Client) (is : List Nat) :
    ∃ links up everConnected, (c.startLinks is).client =
      { c with links := links, up := up, everConnected := everConnected } := by
  induction is generalizing c with
  | nil => exact ⟨c.links, c.up, c.everConnected, rfl⟩
  | cons i is ih =>
    obtain ⟨links, up, everConnected, hfirst⟩ := c.startLink_client i
    obtain ⟨links', up', everConnected', hrest⟩ := ih (c.startLink i).client
    refine ⟨links', up', everConnected', ?_⟩
    show ((c.startLink i).client.startLinks is).client = _
    rw [hrest, hfirst]

theorem connect_client (c : Client) (now : Instant) :
    ∃ links up everConnected maintainedSince, (c.connect now).client =
      { c with links := links, up := up, everConnected := everConnected, maintainedSince := maintainedSince } := by
  unfold connect
  split
  · exact ⟨c.links, c.up, c.everConnected, c.maintainedSince, rfl⟩
  · obtain ⟨links, up, everConnected, h⟩ := c.startLinks_client (List.range c.links.length)
    unfold Step.andThen
    rw [h]
    dsimp only
    split
    · exact ⟨links, up, everConnected, c.maintainedSince, rfl⟩
    · exact ⟨links, up, everConnected, _, rfl⟩

/-! ### Any action -/

/-- What an action makes of the packets that are remembered. -/
def seenAfter (seen : SeenPackets) (now : Instant) : Action → SeenPackets
  | .receive d => (seen.record now ⟨d.packet.sender⟩ d.packet.id).2
  | .maintain => seen.purge now
  | _ => seen

/-- What an action makes of the hop limit. -/
def hopLimitAfter (hopLimit : UInt32) : Action → UInt32
  | .setHopLimit n => clampHopLimit n
  | _ => hopLimit

/-- What an action can make of a client. -/
structure Frame (c : Client) (now : Instant) (a : Action) (c' : Client) : Prop where
  seen : c'.seen = seenAfter c.seen now a
  joins : c.Joins c'.channels
  nodeId : c'.nodeId = c.nodeId
  hopLimit : c'.hopLimit = hopLimitAfter c.hopLimit a

theorem act_frame (c : Client) (m : Moment) (a : Action) : c.Frame m.now a (c.act m a).client := by
  cases a with
  | receive d =>
    obtain ⟨_, _, _, _, h⟩ := c.receive_client m d
    show c.Frame m.now (.receive d) (c.receive m d).client
    rw [h]
    exact ⟨rfl, .inl rfl, rfl, rfl⟩
  | send r =>
    obtain ⟨_, _, h⟩ := c.send_client m r
    show c.Frame m.now (.send r) (c.send m r).client
    rw [h]
    exact ⟨rfl, .inl rfl, rfl, rfl⟩
  | requestTraceroute sender target channel context =>
    obtain ⟨_, _, _, h⟩ := c.requestTraceroute_client m sender target channel context
    show c.Frame m.now (.requestTraceroute sender target channel context)
      (c.requestTraceroute m sender target channel context).client
    rw [h]
    exact ⟨rfl, .inl rfl, rfl, rfl⟩
  | addChannel d =>
    obtain ⟨_, hjoins, h⟩ := c.addChannel_client d
    show c.Frame m.now (.addChannel d) (c.addChannel d).client
    rw [h]
    exact ⟨rfl, hjoins, rfl, rfl⟩
  | addChannelText name key =>
    obtain ⟨_, hjoins, h⟩ := c.addChannelText_client name key
    show c.Frame m.now (.addChannelText name key) (c.addChannelText name key).client
    rw [h]
    exact ⟨rfl, hjoins, rfl, rfl⟩
  | setPrimary d =>
    obtain ⟨_, hjoins, h⟩ := c.setPrimary_client d
    show c.Frame m.now (.setPrimary d) (c.setPrimary d).client
    rw [h]
    exact ⟨rfl, hjoins, rfl, rfl⟩
  | report i r =>
    obtain ⟨_, _, _, h⟩ := c.report_client i r
    show c.Frame m.now (.report i r) (c.report i r).client
    rw [h]
    exact ⟨rfl, .inl rfl, rfl, rfl⟩
  | connect =>
    obtain ⟨_, _, _, _, h⟩ := c.connect_client m.now
    show c.Frame m.now .connect (c.connect m.now).client
    rw [h]
    exact ⟨rfl, .inl rfl, rfl, rfl⟩
  | addLink l => exact ⟨rfl, .inl rfl, rfl, rfl⟩
  | setFault i fault => exact ⟨rfl, .inl rfl, rfl, rfl⟩
  | disconnect => exact ⟨rfl, .inl rfl, rfl, rfl⟩
  | maintain => exact ⟨rfl, .inl rfl, rfl, rfl⟩
  | setHopLimit n => exact ⟨rfl, .inl rfl, rfl, rfl⟩
  | setNeighborInterval d => exact ⟨rfl, .inl rfl, rfl, rfl⟩
  | setDirectory d => exact ⟨rfl, .inl rfl, rfl, rfl⟩

/-! ### Runs -/

/-- The client behind a run from a client's beginning. -/
def after (s : Settings) (m₀ : Moment) (actions : List (Moment × Action)) : Client :=
  ((ofSettings s m₀).run actions).client

theorem run_append_client (c : Client) (xs ys : List (Moment × Action)) :
    (c.run (xs ++ ys)).client = ((c.run xs).client.run ys).client := by
  induction xs generalizing c with
  | nil => rfl
  | cons x xs ih => exact ih (c.act x.1 x.2).client

theorem run_append_singleton (c : Client) (xs : List (Moment × Action)) (m : Moment) (a : Action) :
    (c.run (xs ++ [(m, a)])).client = ((c.run xs).client.act m a).client :=
  c.run_append_client xs [(m, a)]

theorem nodeId_after (s : Settings) (m₀ : Moment) (actions : List (Moment × Action)) :
    (after s m₀ actions).nodeId = s.nodeId := by
  induction actions using List.reverseRecOn with
  | nil => rfl
  | append_singleton actions x ih =>
    rw [after, run_append_singleton, (act_frame _ _ _).nodeId]
    exact ih

/-- What a run does to the outside is done by one of its actions. -/
theorem exists_act_of_mem_run {c : Client} {actions : List (Moment × Action)} {e : Effect}
    (h : e ∈ (c.run actions).effects) :
    ∃ earlier m a later, actions = earlier ++ (m, a) :: later ∧
      e ∈ ((c.run earlier).client.act m a).effects := by
  induction actions generalizing c with
  | nil => cases h
  | cons x actions ih =>
    rcases List.mem_append.1 h with hfirst | hrest
    · exact ⟨[], x.1, x.2, actions, rfl, hfirst⟩
    · obtain ⟨earlier, m, a, later, rfl, he⟩ := ih hrest
      exact ⟨x :: earlier, m, a, later, rfl, he⟩

end RadioMesh.Client
