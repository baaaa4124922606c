import RadioMesh.Proofs.Client.Reception
import RadioMesh.Proofs.Client.Stores
import RadioMesh.Proofs.Store.Expiry

/-!
Clients that are alike from an instant on: they differ only in records that count no more. Whatever happens to both
from then on, they do the same and stay alike, and a sweep makes a client like the one it was. The requests that wait
for a traceroute's answer are left out: they do have an end, and a sweep is what ends them.
-/

namespace RadioMesh

/-! ### What is compared -/

/-- An event without the request that waited for it. -/
def MeshEvent.withoutPending : MeshEvent → MeshEvent
  | .traceroute e result => .traceroute e { result with pending := none }
  | event => event

def Effect.withoutPending : Effect → Effect
  | .event e => .event e.withoutPending
  | effect => effect

def Reaction.withoutPending : Reaction → Reaction
  | .event e => .event e.withoutPending
  | reaction => reaction

/-- Clients that differ only in records that count no more. -/
structure Client.Alike (since : Instant) (c c' : Client) : Prop where
  setup : c' = c.withStores c'.stores
  seen : AgreeFrom SeenPackets.view since c.seen c'.seen
  throttle : AgreeFrom RequestThrottle.view since c.throttle c'.throttle
  traceroutes : AgreeFrom TracerouteTracker.view since c.traceroutes c'.traceroutes
  guard : c'.nodeInfoGuard = c.nodeInfoGuard
  announced : AgreeFrom (Ledger.recent? c.nodeInfoGuard) since c.nodeInfoSent c'.nodeInfoSent

/-- Steps to clients that are alike, with the same effects and the same value. -/
structure Step.Alike {α : Type} (since : Instant) (t t' : Step α) : Prop where
  client : t.client.Alike since t'.client
  effects : t'.effects.map Effect.withoutPending = t.effects.map Effect.withoutPending
  value : t'.value = t.value

namespace Client.Alike

variable {since later : Instant} {c c' c'' : Client}

theorem refl (since : Instant) (c : Client) : c.Alike since c :=
  ⟨rfl, .refl _ _, .refl _ _, .refl _ _, rfl, .refl _ _⟩

theorem symm (h : c.Alike since c') : c'.Alike since c := by
  refine ⟨?_, h.seen.symm, h.throttle.symm, h.traceroutes.symm, h.guard.symm, ?_⟩
  · rw [h.setup, withStores_withStores, withStores_stores]
  · rw [h.guard]
    exact h.announced.symm

theorem trans (h : c.Alike since c') (h' : c'.Alike since c'') : c.Alike since c'' := by
  refine ⟨?_, h.seen.trans h'.seen, h.throttle.trans h'.throttle, h.traceroutes.trans h'.traceroutes,
    h'.guard.trans h.guard, h.announced.trans ?_⟩
  · rw [h'.setup, h.setup, withStores_withStores, stores_withStores]
  · rw [← h.guard]
    exact h'.announced

theorem mono (h : c.Alike since c') (hle : since ≤ later) : c.Alike later c' :=
  ⟨h.setup, h.seen.mono hle, h.throttle.mono hle, h.traceroutes.mono hle, h.guard, h.announced.mono hle⟩

theorem isManaged (h : c.Alike since c') (node : NodeId) : c'.isManaged node = c.isManaged node := by
  rw [h.setup]
  rfl

theorem isGuarded (h : c.Alike since c') (node : NodeId) : c'.isGuarded since node = c.isGuarded since node := by
  unfold Client.isGuarded
  rw [h.guard, Ledger.any_get?, Ledger.any_get?, h.announced.now]

end Client.Alike

namespace Step.Alike

variable {α β : Type} {since later : Instant} {t t' t'' : Step α}

theorem symm (h : t.Alike since t') : t'.Alike since t :=
  ⟨h.client.symm, h.effects.symm, h.value.symm⟩

theorem trans (h : t.Alike since t') (h' : t'.Alike since t'') : t.Alike since t'' :=
  ⟨h.client.trans h'.client, h'.effects.trans h.effects, h'.value.trans h.value⟩

theorem andThen (h : t.Alike since t') {next next' : Client → α → Step β}
    (hnext : ∀ value c c', Client.Alike since c c' → Step.Alike later (next c value) (next' c' value)) :
    Step.Alike later (t.andThen next) (t'.andThen next') := by
  obtain ⟨hclient, heffects, hvalue⟩ := hnext t.value t.client t'.client h.client
  unfold Step.andThen
  rw [h.value]
  refine ⟨hclient, ?_, hvalue⟩
  rw [List.map_append, List.map_append, h.effects, heffects]

theorem map (h : t.Alike since t') (f : α → β) : Step.Alike since (t.map f) (t'.map f) :=
  ⟨h.client, h.effects, congrArg f h.value⟩

theorem still {c c' : Client} (h : c.Alike since c') (value : α) :
    Step.Alike since (.still c value) (.still c' value) :=
  ⟨h, rfl, rfl⟩

end Step.Alike

namespace Client

variable {c c' : Client} {m : Moment}

/-- Calls that are not about what a client remembers do the same for clients that are alike. -/
theorem Ignores.alike {α : Type} {since : Instant} {f : Client → Step α} (hf : Ignores f) (h : c.Alike since c') :
    (f c).Alike since (f c') := by
  have hstores : (f c).client.stores = c.stores := hf.stores c
  have hseen : (f c).client.seen = c.seen := congrArg Stores.seen hstores
  have hthrottle : (f c).client.throttle = c.throttle := congrArg Stores.throttle hstores
  have htraceroutes : (f c).client.traceroutes = c.traceroutes := congrArg Stores.traceroutes hstores
  have hguard : (f c).client.nodeInfoGuard = c.nodeInfoGuard := congrArg Stores.nodeInfoGuard hstores
  have hsent : (f c).client.nodeInfoSent = c.nodeInfoSent := congrArg Stores.nodeInfoSent hstores
  have hstep : f c' = (f c).withStores c'.stores := by
    rw [← hf c, ← h.setup]
  rw [hstep]
  refine ⟨⟨rfl, ?_, ?_, ?_, ?_, ?_⟩, rfl, rfl⟩
  · rw [hseen]
    exact h.seen
  · rw [hthrottle]
    exact h.throttle
  · rw [htraceroutes]
    exact h.traceroutes
  · rw [hguard]
    exact h.guard
  · rw [hguard, hsent]
    exact h.announced

/-! ### Sweeps -/

theorem alike_maintain (c : Client) (now : Instant) : c.Alike now (c.maintain now) :=
  ⟨rfl, c.seen.agreeFrom_purge now, c.throttle.agreeFrom_purge now, c.traceroutes.agreeFrom_purge now, rfl,
    Ledger.agreeFrom_sweep c.nodeInfoSent le_rfl now⟩

/-! ### Sending -/

theorem Alike.compose (h : c.Alike m.now c') (r : Request) : c'.compose m r = c.compose m r := by
  have hguarded := h.isGuarded
  rw [h.setup] at hguarded ⊢
  cases r with
  | nodeInfo sender dest longName shortName wantResponse publicKey =>
    have hcheck : (c.withStores c'.stores).checkNodeInfo m.now sender longName shortName =
        c.checkNodeInfo m.now sender longName shortName := by
      rw [checkNodeInfo, checkNodeInfo, hguarded sender]
    rw [Client.compose, Client.compose, hcheck]
    rfl
  | _ => rfl

theorem Alike.noteSent (h : c.Alike m.now c') (r : Request) :
    (c.noteSent m.now r).Alike m.now (c'.noteSent m.now r) := by
  cases r with
  | nodeInfo sender dest longName shortName wantResponse publicKey =>
    refine ⟨?_, h.seen, h.throttle, h.traceroutes, h.guard, Ledger.agreeFrom_insert h.announced _ _⟩
    rw [h.setup]
    rfl
  | _ => exact h

theorem Alike.send (h : c.Alike m.now c') (r : Request) : (c.send m r).Alike m.now (c'.send m r) := by
  rw [Client.send, Client.send, h.compose]
  cases c.compose m r with
  | error e => exact .still h _
  | ok s =>
    obtain ⟨hclient, heffects, hvalue⟩ := (ignores_transmit m s).alike h
    dsimp only
    rw [hvalue]
    cases (c.transmit m s).value with
    | error e => exact ⟨hclient, heffects, rfl⟩
    | ok id => exact ⟨hclient.noteSent r, heffects, rfl⟩

theorem Alike.sendAll (h : c.Alike m.now c') (rs : List Request) :
    (c.sendAll m rs).Alike m.now (c'.sendAll m rs) := by
  induction rs generalizing c c' m with
  | nil => exact .still h ()
  | cons r rs ih => exact (h.send r).andThen fun _ c c' hc => ih (m := m.skip wordsUsed) hc

/-! ### Traceroutes of the owner -/

theorem Alike.withTraceroutes {since : Instant} {t t' : TracerouteTracker} (h : c.Alike since c')
    (ht : AgreeFrom TracerouteTracker.view since t t') :
    (c.withTraceroutes t).Alike since (c'.withTraceroutes t') := by
  refine ⟨?_, h.seen, h.throttle, ht, h.guard, h.announced⟩
  rw [h.setup]
  rfl

theorem Alike.acquireSlot (h : c.Alike m.now c') (sender target : NodeId) :
    (∃ wait, c.acquireSlot m.now sender target = .error wait ∧ c'.acquireSlot m.now sender target = .error wait) ∨
      ∃ taken taken', c.acquireSlot m.now sender target = .ok taken ∧
        c'.acquireSlot m.now sender target = .ok taken' ∧ taken.Alike m.now taken' := by
  unfold Client.acquireSlot
  rcases TracerouteTracker.acquire_agreeFrom h.traceroutes sender target with
    ⟨wait, hwait, hwait'⟩ | ⟨t, t', ht, ht', hagree⟩
  · rw [hwait, hwait']
    exact .inl ⟨wait, rfl, rfl⟩
  · rw [ht, ht']
    exact .inr ⟨_, _, rfl, rfl, h.withTraceroutes hagree⟩

theorem Alike.concludeTraceroute (h : c.Alike m.now c') (sender target : NodeId) (channel context : String)
    (result : Except MeshError UInt32) :
    (c.concludeTraceroute m.now sender target channel context result).1.Alike m.now
        (c'.concludeTraceroute m.now sender target channel context result).1 ∧
      (c'.concludeTraceroute m.now sender target channel context result).2 =
        (c.concludeTraceroute m.now sender target channel context result).2 := by
  cases result with
  | error e => exact ⟨h.withTraceroutes (TracerouteTracker.agreeFrom_release h.traceroutes sender target), rfl⟩
  | ok id => exact ⟨h.withTraceroutes h.traceroutes, rfl⟩

theorem Alike.requestTraceroute (h : c.Alike m.now c') (sender target : NodeId) (channel : ChannelDef)
    (context : String) :
    (c.requestTraceroute m sender target channel context).Alike m.now
      (c'.requestTraceroute m sender target channel context) := by
  unfold Client.requestTraceroute
  rcases h.acquireSlot sender target with ⟨wait, hwait, hwait'⟩ | ⟨taken, taken', htaken, htaken', hboth⟩
  · rw [hwait, hwait']
    exact .still h _
  · rw [htaken, htaken']
    obtain ⟨hclient, heffects, hvalue⟩ := hboth.send (.traceroute sender target channel)
    obtain ⟨hnoted, houtcome⟩ := hclient.concludeTraceroute sender target channel.name context
      (taken.send m (.traceroute sender target channel)).value
    dsimp only
    rw [hvalue]
    exact ⟨hnoted, heffects, houtcome⟩

/-! ### Receiving -/

theorem Alike.enter (h : c.Alike m.now c') (p : MeshPacket) :
    (c.enter m.now p).2.Alike m.now (c'.enter m.now p).2 ∧ (c'.enter m.now p).1 = (c.enter m.now p).1 := by
  obtain ⟨hduplicate, hseen⟩ := SeenPackets.record_agreeFrom h.seen ⟨p.sender⟩ p.id
  refine ⟨⟨?_, hseen, h.throttle, h.traceroutes, h.guard, h.announced⟩, ?_⟩
  · rw [Client.enter, Client.enter, h.setup]
    rfl
  · show (!(c'.seen.record m.now ⟨p.sender⟩ p.id).1 && !c'.isManaged ⟨p.sender⟩) =
      (!(c.seen.record m.now ⟨p.sender⟩ p.id).1 && !c.isManaged ⟨p.sender⟩)
    rw [hduplicate, h.isManaged]

theorem Alike.open? {since : Instant} (h : c.Alike since c') (d : Delivery) : c'.open? d = c.open? d := by
  rw [h.setup]
  rfl

theorem Alike.throttled (h : c.Alike m.now c') (kind : RequestKind) (node : NodeId) (rs : List Request) :
    (c.throttled kind m.now node rs).1.Alike m.now (c'.throttled kind m.now node rs).1 ∧
      (c'.throttled kind m.now node rs).2 = (c.throttled kind m.now node rs).2 := by
  obtain ⟨hpasses, hthrottle⟩ := RequestThrottle.pass_agreeFrom h.throttle kind node
  rw [Client.throttled, Client.throttled]
  dsimp only
  rw [hpasses]
  split
  · refine ⟨⟨?_, h.seen, hthrottle, h.traceroutes, h.guard, h.announced⟩, rfl⟩
    rw [h.setup]
    rfl
  · exact ⟨h, rfl⟩

theorem Alike.answerTelemetry (h : c.Alike m.now c') (r : Received) (t : Telemetry) :
    (c.answerTelemetry m.now r t).1.Alike m.now (c'.answerTelemetry m.now r t).1 ∧
      (c'.answerTelemetry m.now r t).2 = (c.answerTelemetry m.now r t).2 := by
  rw [Client.answerTelemetry, Client.answerTelemetry, h.isManaged]
  split
  · exact h.throttled .telemetry r.dest _
  · exact ⟨h, rfl⟩

theorem Alike.answerNeighborInfo (h : c.Alike m.now c') (r : Received) (n : NeighborInfo) :
    (c.answerNeighborInfo m.now r n).1.Alike m.now (c'.answerNeighborInfo m.now r n).1 ∧
      (c'.answerNeighborInfo m.now r n).2 = (c.answerNeighborInfo m.now r n).2 := by
  have hdirectory : c'.directory = c.directory := by rw [h.setup]; rfl
  have hinterval : c'.neighborInterval = c.neighborInterval := by rw [h.setup]; rfl
  rw [Client.answerNeighborInfo, Client.answerNeighborInfo, h.isManaged, hdirectory, hinterval]
  split
  · exact h.throttled .neighborInfo r.dest _
  · exact ⟨h, rfl⟩

theorem Alike.answerTraceroute {since : Instant} (h : c.Alike since c') (r : Received) (route : RouteDiscovery) :
    c'.answerTraceroute r route = c.answerTraceroute r route := by
  rw [h.setup]
  rfl

theorem Alike.tracerouteEvent {since : Instant} (h : c.Alike since c') (r : Received) (route : RouteDiscovery)
    (e : Envelope) :
    (c.tracerouteEvent r route e).1.Alike since (c'.tracerouteEvent r route e).1 ∧
      (c'.tracerouteEvent r route e).2.withoutPending = (c.tracerouteEvent r route e).2.withoutPending := by
  refine ⟨h.withTraceroutes h.traceroutes, ?_⟩
  rw [h.setup]
  rfl

theorem Alike.react (h : c.Alike m.now c') (r : Received) :
    (c.react m r).1.Alike m.now (c'.react m r).1 ∧
      (c'.react m r).2.withoutPending = (c.react m r).2.withoutPending := by
  unfold Client.react
  dsimp only
  cases Meaning.ofData (r.envelope m.epoch) m.epoch r.data with
  | event event => exact ⟨h, rfl⟩
  | tracerouteRequest route => exact ⟨h, congrArg _ (h.answerTraceroute r route)⟩
  | tracerouteResponse route =>
    obtain ⟨hclient, hevent⟩ := h.tracerouteEvent r route (r.envelope m.epoch)
    exact ⟨hclient, congrArg Reaction.event hevent⟩
  | telemetryRequest t => exact ⟨(h.answerTelemetry r t).1, congrArg _ (h.answerTelemetry r t).2⟩
  | neighborInfoRequest n => exact ⟨(h.answerNeighborInfo r n).1, congrArg _ (h.answerNeighborInfo r n).2⟩
  | nothing => exact ⟨h, rfl⟩

theorem Alike.perform (h : c.Alike m.now c') {reaction reaction' : Reaction}
    (hreaction : reaction'.withoutPending = reaction.withoutPending) :
    (c.perform m reaction).Alike m.now (c'.perform m reaction') := by
  cases reaction with
  | none =>
    cases reaction' with
    | none => exact .still h ()
    | event _ => cases hreaction
    | answers _ => cases hreaction
  | event event =>
    cases reaction' with
    | none => cases hreaction
    | event event' =>
      have hevent : event'.withoutPending = event.withoutPending := Reaction.event.inj hreaction
      exact ⟨h, congrArg (fun e => [Effect.event e]) hevent, rfl⟩
    | answers _ => cases hreaction
  | answers requests =>
    cases reaction' with
    | none => cases hreaction
    | event _ => cases hreaction
    | answers requests' =>
      cases hreaction
      exact h.sendAll requests

theorem Alike.receive (h : c.Alike m.now c') (d : Delivery) : (c.receive m d).Alike m.now (c'.receive m d) := by
  obtain ⟨hclient, hentered⟩ := h.enter d.packet
  unfold Client.receive
  generalize c.enter m.now d.packet = entrance at hclient hentered ⊢
  generalize c'.enter m.now d.packet = entrance' at hclient hentered ⊢
  obtain ⟨entered, c₁⟩ := entrance
  obtain ⟨entered', c₁'⟩ := entrance'
  dsimp only at hclient hentered ⊢
  rw [hentered, hclient.open?]
  split
  · cases c₁.open? d with
    | none => exact .still hclient ()
    | some r => exact (hclient.react r).1.perform (hclient.react r).2
  · exact .still hclient ()

/-! ### Any action -/

theorem Alike.maintain {now : Instant} (h : c.Alike now c') : (c.maintain now).Alike now (c'.maintain now) :=
  ((alike_maintain c now).symm.trans h).trans (alike_maintain c' now)

theorem Alike.act (h : c.Alike m.now c') (a : Action) : (c.act m a).Alike m.now (c'.act m a) := by
  by_cases huses : a.UsesStores
  · cases a with
    | receive d => exact (h.receive d).map fun () => Answer.done
    | send r => exact (h.send r).map Answer.ofSend
    | requestTraceroute sender target channel context =>
      exact (h.requestTraceroute sender target channel context).map Answer.ofTraceroute
    | maintain => exact .still h.maintain _
    | _ => exact huses.elim
  · exact (ignores_act m huses).alike h

/-! ### A call under way -/

theorem ignores_offer (m : Moment) (call : TracerouteCall) : Ignores (·.callStep m call .acquired .offer) := by
  intro c s
  show (c.withStores s).callStep m call .acquired .offer = (c.callStep m call .acquired .offer).withStores s
  rw [callStep, callStep, show (c.withStores s).compose m (.traceroute call.sender call.target call.channel) =
    c.compose m (.traceroute call.sender call.target call.channel) from rfl]
  cases c.compose m (.traceroute call.sender call.target call.channel) with
  | error e => rfl
  | ok sub =>
    dsimp only
    rw [pack_withStores]
    obtain ⟨c', _ | o⟩ := c.pack m sub
    · rfl
    · rfl

theorem ignores_callStep (m : Moment) (call : TracerouteCall) (stage : CallStage) {s : CallStep}
    (hacquire : s ≠ .acquire) (hconclude : s ≠ .conclude) : Ignores (·.callStep m call stage s) := by
  cases s with
  | acquire => exact absurd rfl hacquire
  | conclude => exact absurd rfl hconclude
  | offer =>
    cases stage with
    | acquired => exact ignores_offer m call
    | _ => exact .still _
  | reply i fault =>
    cases stage with
    | offered o replies =>
      refine .ite (fun _ _ => .rfl) ?_ (.still _)
      cases fault with
      | none => exact fun _ _ => rfl
      | some _ => exact .still _
    | _ => exact .still _
  | join =>
    cases stage with
    | offered o replies =>
      intro c stores
      show (c.withStores stores).callStep m call (.offered o replies) .join =
        (c.callStep m call (.offered o replies) .join).withStores stores
      rw [callStep, callStep]
      cases Reply.gather? replies with
      | none => rfl
      | some result => rfl
    | _ => exact .still _

theorem Alike.callStep (h : c.Alike m.now c') (call : TracerouteCall) (stage : CallStage) (s : CallStep) :
    (c.callStep m call stage s).Alike m.now (c'.callStep m call stage s) := by
  cases s with
  | acquire =>
    cases stage with
    | started =>
      rw [Client.callStep, Client.callStep]
      rcases h.acquireSlot call.sender call.target with ⟨wait, hwait, hwait'⟩ | ⟨taken, taken', htaken, htaken', hboth⟩
      · rw [hwait, hwait']
        exact .still h _
      · rw [htaken, htaken']
        exact .still hboth _
    | _ => exact .still h _
  | conclude =>
    cases stage with
    | joined result =>
      obtain ⟨hclient, houtcome⟩ := h.concludeTraceroute call.sender call.target call.channel.name call.context result
      exact ⟨hclient, rfl, congrArg CallStage.returned houtcome⟩
    | _ => exact .still h _
  | _ => exact (ignores_callStep m call stage CallStep.noConfusion CallStep.noConfusion).alike h

theorem Alike.move (h : c.Alike m.now c') (call : TracerouteCall) (stage : CallStage) (x : Move) :
    (c.move m call stage x).Alike m.now (c'.move m call stage x) := by
  cases x with
  | call s => exact h.callStep call stage s
  | deliver d => exact (h.receive d).andThen fun _ _ _ hc => .still hc stage
  | maintain => exact .still h.maintain stage

end Client

end RadioMesh
