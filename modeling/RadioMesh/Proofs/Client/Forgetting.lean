import RadioMesh.Proofs.Client.Stores
import RadioMesh.Proofs.Store.Seen

/-!
That a packet came in counts only for packets with the same sender and ID. A client that never saw it does the same
about all else and is the same client behind it, but for what it remembers of that packet.
-/

namespace RadioMesh

/-- As if a packet had never come in. -/
def Client.forget (c : Client) (sender : NodeId) (id : UInt32) : Client :=
  { c with seen := c.seen.without sender id }

/-- The same step of a client that forgets a packet. -/
def Step.forget {α : Type} (t : Step α) (sender : NodeId) (id : UInt32) : Step α :=
  ⟨t.client.forget sender id, t.effects, t.value⟩

/-- What comes in has the sender and the ID. -/
def Action.Brings (sender : NodeId) (id : UInt32) : Action → Prop
  | .receive d => ⟨d.packet.sender⟩ = sender ∧ d.packet.id = id
  | _ => False

namespace Client

/-- A call that is not about whether a packet came in. -/
def IgnoresPacket (sender : NodeId) (id : UInt32) {α : Type} (f : Client → Step α) : Prop :=
  ∀ c, f (c.forget sender id) = (f c).forget sender id

variable {sender : NodeId} {id : UInt32}

namespace IgnoresPacket

variable {α β : Type} {f : Client → Step α}

theorem still (value : α) : IgnoresPacket sender id fun c => Step.still c value := fun _ => rfl

theorem andThen (h : IgnoresPacket sender id f) {next : Client → α → Step β}
    (hnext : ∀ value, IgnoresPacket sender id (next · value)) :
    IgnoresPacket sender id fun c => (f c).andThen next := by
  intro c
  have hstep : next ((f c).client.forget sender id) (f c).value = (next (f c).client (f c).value).forget sender id :=
    hnext (f c).value (f c).client
  simp only [Step.andThen, h c, Step.forget, hstep]

theorem map (h : IgnoresPacket sender id f) (k : α → β) : IgnoresPacket sender id fun c => (f c).map k := by
  intro c
  simp only [h c]
  rfl

end IgnoresPacket

/-- Calls that ignore all that a client remembers ignore what it remembers of one packet. -/
theorem Ignores.ignoresPacket {α : Type} {f : Client → Step α} (h : Ignores f) : IgnoresPacket sender id f := by
  intro c
  have hforget : c.forget sender id = c.withStores { c.stores with seen := c.seen.without sender id } := rfl
  have hseen : c.seen = (f c).client.seen := (congrArg Stores.seen (h.stores c)).symm
  rw [hforget, h, ← h.stores c, hseen]
  rfl

/-! ### Sending -/

theorem ignoresPacket_send (m : Moment) (r : Request) : IgnoresPacket sender id (·.send m r) := by
  intro c
  show (c.forget sender id).send m r = (c.send m r).forget sender id
  rw [send, send, show (c.forget sender id).compose m r = c.compose m r from rfl]
  cases c.compose m r with
  | error e => rfl
  | ok s =>
    have hsent : (c.forget sender id).transmit m s = (c.transmit m s).forget sender id :=
      (ignores_transmit m s).ignoresPacket c
    dsimp only
    rw [hsent]
    obtain ⟨c', effects, value⟩ := c.transmit m s
    cases value with
    | error e => rfl
    | ok _ => cases r <;> rfl

theorem ignoresPacket_sendAll (m : Moment) (rs : List Request) : IgnoresPacket sender id (·.sendAll m rs) := by
  induction rs generalizing m with
  | nil => exact .still ()
  | cons r rs ih => exact (ignoresPacket_send m r).andThen fun _ => ih (m.skip wordsUsed)

theorem acquireSlot_forget (c : Client) (now : Instant) (source target : NodeId) :
    (c.forget sender id).acquireSlot now source target =
      (c.acquireSlot now source target).map (·.forget sender id) := by
  rw [acquireSlot, acquireSlot, show (c.forget sender id).traceroutes = c.traceroutes from rfl]
  cases c.traceroutes.acquire now source target with
  | error wait => rfl
  | ok taken => rfl

theorem ignoresPacket_requestTraceroute (m : Moment) (source target : NodeId) (channel : ChannelDef)
    (context : String) : IgnoresPacket sender id (·.requestTraceroute m source target channel context) := by
  intro c
  show (c.forget sender id).requestTraceroute m source target channel context =
    (c.requestTraceroute m source target channel context).forget sender id
  rw [requestTraceroute, requestTraceroute, acquireSlot_forget]
  cases c.acquireSlot m.now source target with
  | error wait => rfl
  | ok taken =>
    have hsent : (taken.forget sender id).send m (.traceroute source target channel) =
        (taken.send m (.traceroute source target channel)).forget sender id := ignoresPacket_send m _ taken
    simp only [Except.map, hsent]
    obtain ⟨c', effects, value⟩ := taken.send m (.traceroute source target channel)
    cases value with
    | error e => rfl
    | ok _ => rfl

/-! ### Receiving -/

theorem throttled_forget (c : Client) (kind : RequestKind) (now : Instant) (node : NodeId) (rs : List Request) :
    (c.forget sender id).throttled kind now node rs =
      ((c.throttled kind now node rs).1.forget sender id, (c.throttled kind now node rs).2) := by
  rw [throttled, throttled, show (c.forget sender id).throttle = c.throttle from rfl]
  obtain ⟨passes, throttle⟩ := c.throttle.pass kind now node
  cases passes with
  | false => rfl
  | true => rfl

theorem react_forget (c : Client) (m : Moment) (r : Received) :
    (c.forget sender id).react m r = ((c.react m r).1.forget sender id, (c.react m r).2) := by
  have hmanaged : (c.forget sender id).isManaged r.dest = c.isManaged r.dest := rfl
  unfold react
  dsimp only
  cases Meaning.ofData (r.envelope m.epoch) m.epoch r.data with
  | telemetryRequest t =>
    dsimp only
    rw [answerTelemetry, answerTelemetry, hmanaged]
    split
    · exact c.throttled_forget .telemetry m.now r.dest _
    · rfl
  | neighborInfoRequest n =>
    dsimp only
    rw [answerNeighborInfo, answerNeighborInfo, hmanaged]
    split
    · exact c.throttled_forget .neighborInfo m.now r.dest _
    · rfl
  | _ => rfl

theorem ignoresPacket_perform (m : Moment) (r : Reaction) : IgnoresPacket sender id (·.perform m r) := by
  cases r with
  | none => exact .still ()
  | event e => exact fun _ => rfl
  | answers rs => exact ignoresPacket_sendAll m rs

theorem ignoresPacket_receive (m : Moment) {d : Delivery} (h : ¬(Action.receive d).Brings sender id) :
    IgnoresPacket sender id (·.receive m d) := by
  intro c
  have henter : (c.forget sender id).enter m.now d.packet =
      ((c.enter m.now d.packet).1, (c.enter m.now d.packet).2.forget sender id) := by
    simp only [enter, forget, SeenPackets.record_without c.seen m.now h]
    rfl
  show (c.forget sender id).receive m d = (c.receive m d).forget sender id
  rw [receive, receive, henter]
  obtain ⟨entered, c'⟩ := c.enter m.now d.packet
  dsimp only
  rw [show (c'.forget sender id).open? d = c'.open? d from rfl]
  split
  · cases c'.open? d with
    | none => rfl
    | some r =>
      dsimp only
      rw [react_forget]
      exact ignoresPacket_perform m _ _
  · rfl

/-! ### Any action -/

theorem ignoresPacket_maintain (now : Instant) :
    IgnoresPacket sender id fun c => Step.still (c.maintain now) Answer.done := by
  intro c
  have hmaintain : (c.forget sender id).maintain now = (c.maintain now).forget sender id := by
    rw [maintain, show (c.forget sender id).seen.purge now = _ from c.seen.purge_without now sender id]
    rfl
  show Step.still _ _ = _
  rw [hmaintain]
  rfl

theorem ignoresPacket_act (m : Moment) {a : Action} (h : ¬a.Brings sender id) :
    IgnoresPacket sender id (·.act m a) := by
  by_cases huses : a.UsesStores
  · cases a with
    | receive d => exact (ignoresPacket_receive m h).map fun () => Answer.done
    | send r => exact (ignoresPacket_send m r).map Answer.ofSend
    | requestTraceroute source target channel context =>
      exact (ignoresPacket_requestTraceroute m source target channel context).map Answer.ofTraceroute
    | maintain => exact ignoresPacket_maintain m.now
    | _ => exact huses.elim
  · exact (ignores_act m huses).ignoresPacket

/-- Runs in which the packet does not come in again. -/
theorem ignoresPacket_run {actions : List (Moment × Action)} (h : ∀ x ∈ actions, ¬x.2.Brings sender id) :
    IgnoresPacket sender id (·.run actions) := by
  induction actions with
  | nil => exact .still []
  | cons x actions ih =>
    have hx := h x List.mem_cons_self
    have hrest := ih fun y hy => h y (List.mem_cons_of_mem x hy)
    exact (ignoresPacket_act x.1 hx).andThen fun answer => hrest.map fun answers => answer :: answers

end Client

end RadioMesh
