import RadioMesh.Proofs.Client.Connected

/-!
What an action makes of the links of a client, of those whom it asks about nodes, and of its interval for neighbor
lists. Each goes by what it was and by the action, and by nothing else about the client.
-/

namespace RadioMesh

/-- A link that was told to start. -/
def Link.started (l : Link) : Link :=
  if l.fault = none then { l with connected := true } else l

theorem Link.started_started (l : Link) : l.started.started = l.started := by
  by_cases h : l.fault = none <;> simp [started, h]

namespace Action

/-- The links behind an action. -/
def linksAfter (links : List Link) : Action → List Link
  | .addLink l => links ++ [l]
  | .setFault i fault => links.modify i fun l => { l with fault := fault }
  | .report i r => links.modify i fun l => { l with connected := r ≠ .lost }
  | .connect => links.map .started
  | .disconnect => links.map fun l => { l with connected := false }
  | _ => links

/-- Whom a client asks about nodes behind an action. -/
def directoryAfter (directory : Directory) : Action → Directory
  | .setDirectory d => d
  | _ => directory

/-- The interval for neighbor lists behind an action, in seconds. -/
def intervalAfter (interval : UInt32) : Action → UInt32
  | .setNeighborInterval d => d.toSeconds
  | _ => interval

end Action

namespace Client

open RadioMesh.Action

/-! ### Links -/

theorem links_report_eq (c : Client) (i : Nat) (r : LinkReport) :
    (c.report i r).client.links = c.links.modify i fun l => { l with connected := r ≠ .lost } := by
  refine List.ext_getElem? fun k => ?_
  rw [links_report, List.getElem?_modify]
  by_cases hk : i = k <;> simp [hk]

theorem links_startLink (c : Client) (i k : Nat) :
    (c.startLink i).client.links[k]? = c.links[k]?.map fun l => if k = i then l.started else l := by
  rw [startLink]
  cases hi : c.links[i]? with
  | none =>
    by_cases hk : k = i
    · simp [Step.still, hk, hi]
    · simp [Step.still, hk]
  | some l =>
    dsimp only
    cases hfault : l.fault with
    | some fault =>
      have haccept : l.accept = .error fault := by rw [Link.accept, hfault]
      rw [haccept]
      by_cases hk : k = i
      · simp [hk, hi, Link.started, hfault]
      · simp [hk]
    | none =>
      have haccept : l.accept = .ok () := by rw [Link.accept, hfault]
      rw [haccept]
      show (c.report i .started).client.links[k]? = _
      rw [links_report]
      by_cases hk : k = i
      · simp [hk, hi, Link.started, hfault]
      · simp [hk, Ne.symm hk]

theorem links_startLinks (c : Client) (is : List Nat) (k : Nat) :
    (c.startLinks is).client.links[k]? = c.links[k]?.map fun l => if k ∈ is then l.started else l := by
  induction is generalizing c with
  | nil => simp [startLinks, Step.still]
  | cons i is ih =>
    show ((c.startLink i).client.startLinks is).client.links[k]? = _
    rw [ih, links_startLink, Option.map_map]
    congr 1
    funext l
    by_cases hi : k = i
    · by_cases hk : k ∈ is <;> simp [hi, hi ▸ hk, Link.started_started]
    · simp [hi]

theorem links_connect (c : Client) (now : Instant) : (c.connect now).client.links = c.links.map .started := by
  have hall : (c.startLinks (List.range c.links.length)).client.links = c.links.map .started := by
    refine List.ext_getElem? fun k => ?_
    rw [links_startLinks, List.getElem?_map]
    cases hk : c.links[k]? with
    | none => rfl
    | some l =>
      obtain ⟨hlt, -⟩ := List.getElem?_eq_some_iff.1 hk
      simp [hlt]
  unfold connect
  split
  · next hempty => simp [Step.still, List.isEmpty_iff.1 hempty]
  · unfold Step.andThen
    dsimp only
    split
    · exact hall
    · exact hall

/-! ### Any action -/

/-- What an action can make of the setup of a client. -/
structure Sets (c : Client) (a : Action) (c' : Client) : Prop where
  links : c'.links = a.linksAfter c.links
  directory : c'.directory = a.directoryAfter c.directory
  interval : c'.neighborInterval = a.intervalAfter c.neighborInterval
  guard : c'.nodeInfoGuard = c.nodeInfoGuard

theorem act_sets (c : Client) (m : Moment) (a : Action) : c.Sets a (c.act m a).client := by
  cases a with
  | receive d =>
    obtain ⟨_, _, _, _, h⟩ := c.receive_client m d
    show c.Sets (.receive d) (c.receive m d).client
    rw [h]
    exact ⟨rfl, rfl, rfl, rfl⟩
  | send r =>
    obtain ⟨_, _, h⟩ := c.send_client m r
    show c.Sets (.send r) (c.send m r).client
    rw [h]
    exact ⟨rfl, rfl, rfl, rfl⟩
  | requestTraceroute sender target channel context =>
    obtain ⟨_, _, _, h⟩ := c.requestTraceroute_client m sender target channel context
    show c.Sets (.requestTraceroute sender target channel context)
      (c.requestTraceroute m sender target channel context).client
    rw [h]
    exact ⟨rfl, rfl, rfl, rfl⟩
  | addChannel d =>
    obtain ⟨_, -, h⟩ := c.addChannel_client d
    show c.Sets (.addChannel d) (c.addChannel d).client
    rw [h]
    exact ⟨rfl, rfl, rfl, rfl⟩
  | addChannelText name key =>
    obtain ⟨_, -, h⟩ := c.addChannelText_client name key
    show c.Sets (.addChannelText name key) (c.addChannelText name key).client
    rw [h]
    exact ⟨rfl, rfl, rfl, rfl⟩
  | setPrimary d =>
    obtain ⟨_, -, h⟩ := c.setPrimary_client d
    show c.Sets (.setPrimary d) (c.setPrimary d).client
    rw [h]
    exact ⟨rfl, rfl, rfl, rfl⟩
  | report i r =>
    obtain ⟨_, _, _, h⟩ := c.report_client i r
    have hlinks := c.links_report_eq i r
    show c.Sets (.report i r) (c.report i r).client
    rw [h] at hlinks ⊢
    exact ⟨hlinks, rfl, rfl, rfl⟩
  | connect =>
    obtain ⟨_, _, _, _, h⟩ := c.connect_client m.now
    have hlinks := c.links_connect m.now
    show c.Sets .connect (c.connect m.now).client
    rw [h] at hlinks ⊢
    exact ⟨hlinks, rfl, rfl, rfl⟩
  | _ => exact ⟨rfl, rfl, rfl, rfl⟩

end Client

end RadioMesh
