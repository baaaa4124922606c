import RadioMesh.Proofs.Client.Outgoing

/-!
What a client remembers, apart from the rest of its state: packets that were seen, when its nodes last answered and
announced themselves, and its traceroutes. Calls about channels and links neither read nor change any of it.
-/

namespace RadioMesh

namespace Client

/-! ### What a client remembers -/

/-- What a client remembers, and for how long. -/
structure Stores where
  seen : SeenPackets
  throttle : RequestThrottle
  traceroutes : TracerouteTracker
  nodeInfoGuard : Duration
  nodeInfoSent : Ledger NodeId Instant

def stores (c : Client) : Stores := ⟨c.seen, c.throttle, c.traceroutes, c.nodeInfoGuard, c.nodeInfoSent⟩

/-- The same client, remembering other things. -/
def withStores (c : Client) (s : Stores) : Client :=
  { c with
    seen := s.seen
    throttle := s.throttle
    traceroutes := s.traceroutes
    nodeInfoGuard := s.nodeInfoGuard
    nodeInfoSent := s.nodeInfoSent }

@[simp] theorem stores_withStores (c : Client) (s : Stores) : (c.withStores s).stores = s := rfl

@[simp] theorem withStores_withStores (c : Client) (s t : Stores) : (c.withStores s).withStores t = c.withStores t :=
  rfl

@[simp] theorem withStores_stores (c : Client) : c.withStores c.stores = c := rfl

end Client

/-- The same step of a client that remembers other things. -/
def Step.withStores {α : Type} (t : Step α) (s : Client.Stores) : Step α :=
  ⟨t.client.withStores s, t.effects, t.value⟩

/-- A call that neither reads nor changes what a client remembers. -/
def Client.Ignores {α : Type} (f : Client → Step α) : Prop :=
  ∀ c s, f (c.withStores s) = (f c).withStores s

namespace Client

namespace Ignores

variable {α β : Type} {f g : Client → Step α}

theorem stores (h : Ignores f) (c : Client) : (f c).client.stores = c.stores := by
  have hsame : (f c).client = (f c).client.withStores c.stores := congrArg Step.client (h c c.stores)
  rw [hsame, stores_withStores]

theorem still (value : α) : Ignores fun c => Step.still c value := fun _ _ => rfl

theorem andThen (h : Ignores f) {next : Client → α → Step β} (hnext : ∀ value, Ignores (next · value)) :
    Ignores fun c => (f c).andThen next := by
  intro c s
  have hstep : next ((f c).client.withStores s) (f c).value = (next (f c).client (f c).value).withStores s :=
    hnext (f c).value (f c).client s
  simp only [Step.andThen, h c s, Step.withStores, hstep]

theorem map (h : Ignores f) (k : α → β) : Ignores fun c => (f c).map k := by
  intro c s
  simp only [h c s]
  rfl

theorem ite {p : Client → Prop} [∀ c, Decidable (p c)] (hp : ∀ c s, p (c.withStores s) ↔ p c) (hf : Ignores f)
    (hg : Ignores g) : Ignores fun c => if p c then f c else g c := by
  intro c s
  by_cases h : p c
  · simp only [if_pos h, if_pos ((hp c s).2 h), hf c s]
  · simp only [if_neg h, if_neg (mt (hp c s).1 h), hg c s]

end Ignores

/-! ### Sending -/

theorem pack_withStores (c : Client) (s : Stores) (m : Moment) (sub : Submission) :
    (c.withStores s).pack m sub = ((c.pack m sub).1.withStores s, (c.pack m sub).2) := by
  rw [pack, pack, show (c.withStores s).check sub = c.check sub from rfl]
  cases c.check sub with
  | error e => rfl
  | ok _ => rfl

theorem ignores_transmit (m : Moment) (sub : Submission) : Ignores (·.transmit m sub) := by
  intro c s
  show (c.withStores s).transmit m sub = (c.transmit m sub).withStores s
  rw [transmit_eq_pack, transmit_eq_pack, pack_withStores]
  obtain ⟨c', _ | o⟩ := c.pack m sub
  · rfl
  · rfl

/-! ### Channels and links -/

theorem ignores_addChannel (d : ChannelDef) : Ignores (·.addChannel d) := by
  unfold addChannel
  exact .ite (fun _ _ => .rfl) (.still ()) fun _ _ => rfl

theorem ignores_addChannelText (name : String) (key : Option String) : Ignores (·.addChannelText name key) := by
  unfold addChannelText
  cases ChannelDef.ofKeyText name key with
  | error e => exact .still _
  | ok d => exact (ignores_addChannel d).andThen fun _ => .still _

theorem ignores_setPrimary (d : ChannelDef) : Ignores (·.setPrimary d) :=
  (ignores_addChannel d).andThen fun _ _ _ => rfl

theorem ignores_hear (name : String) (r : LinkReport) : Ignores (·.hear name r) := by
  have hup : Ignores (·.comeUp name) := by
    unfold comeUp
    exact .ite (fun _ _ => .rfl) (fun _ _ => rfl) fun _ _ => rfl
  cases r with
  | started => exact hup
  | restarted => exact hup
  | lost =>
    show Ignores (·.goDown name)
    unfold goDown
    exact .ite (fun _ _ => .rfl) (fun _ _ => rfl) fun _ _ => rfl

theorem ignores_report (i : Nat) (r : LinkReport) : Ignores (·.report i r) := by
  intro c s
  show (c.withStores s).report i r = (c.report i r).withStores s
  rw [report, report, show (c.withStores s).links[i]? = c.links[i]? from rfl]
  cases c.links[i]? with
  | none => rfl
  | some l => exact ignores_hear l.name r (c.modifyLink i fun l => { l with connected := r ≠ .lost }) s

theorem ignores_startLink (i : Nat) : Ignores (·.startLink i) := by
  intro c s
  show (c.withStores s).startLink i = (c.startLink i).withStores s
  rw [startLink, startLink, show (c.withStores s).links[i]? = c.links[i]? from rfl]
  cases c.links[i]? with
  | none => rfl
  | some l =>
    dsimp only
    cases l.accept with
    | error fault => rfl
    | ok _ =>
      have hjoins : Ignores fun c => (⟨c, c.channels.keys.map fun name => .joined i name, ()⟩ : Step Unit) :=
        fun _ _ => rfl
      exact hjoins.andThen (fun _ => (ignores_report i .started).andThen fun _ => .still _) c s

theorem ignores_startLinks (is : List Nat) : Ignores (·.startLinks is) := by
  induction is with
  | nil => exact .still _
  | cons i is ih => exact (ignores_startLink i).andThen fun _ => ih.andThen fun _ => .still _

theorem ignores_connect (now : Instant) : Ignores (·.connect now) := by
  unfold connect
  refine .ite (fun _ _ => .rfl) (.still _) fun c s => ?_
  refine (ignores_startLinks (List.range c.links.length)).andThen (fun faults => ?_) c s
  exact .ite (fun _ _ => .rfl) (.still _) fun _ _ => rfl

end Client

/-! ### Any action -/

/-- Actions that are about what a client remembers. -/
def Action.UsesStores : Action → Prop
  | .receive _ => True
  | .send _ => True
  | .requestTraceroute _ _ _ _ => True
  | .maintain => True
  | _ => False

theorem Client.ignores_act (m : Moment) {a : Action} (h : ¬a.UsesStores) : Ignores (·.act m a) := by
  cases a with
  | receive d => exact absurd trivial h
  | send r => exact absurd trivial h
  | requestTraceroute sender target channel context => exact absurd trivial h
  | maintain => exact absurd trivial h
  | addChannel d => exact (ignores_addChannel d).map fun () => Answer.done
  | addChannelText name key => exact (ignores_addChannelText name key).map Answer.ofCall
  | setPrimary d => exact (ignores_setPrimary d).map fun () => Answer.done
  | report i r => exact (ignores_report i r).map fun () => Answer.done
  | connect => exact (ignores_connect m.now).map Answer.ofCall
  | _ => exact fun _ _ => rfl

end RadioMesh
