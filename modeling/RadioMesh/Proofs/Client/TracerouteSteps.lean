import RadioMesh.Proofs.Client.CallSteps
import RadioMesh.Proofs.Client.OnAir
import RadioMesh.Proofs.Traceroute.Requests

/-!
What an action makes of the traceroutes of a client. A call for a traceroute has to wait, or it takes the slot of its
pair and then notes its request or gives the slot back. An answer takes the request that waits under its ID, a sweep
drops what is too old, and nothing else touches them.
-/

namespace RadioMesh

/-- The request that is handed over with the answer to a traceroute, under the answer's ID. -/
def Effect.handed? : Effect → Option (UInt32 × PendingTraceroute)
  | .event (.traceroute _ result) => result.pending.map (result.requestId, ·)
  | _ => none

def Effect.handedOver (effects : List Effect) : List (UInt32 × PendingTraceroute) :=
  effects.filterMap handed?

theorem Effect.handedOver_eq_nil {effects : List Effect}
    (h : ∀ e result, .event (.traceroute e result) ∉ effects) : handedOver effects = [] := by
  refine List.filterMap_eq_nil_iff.2 fun effect heffect => ?_
  unfold handed?
  split
  · exact absurd heffect (h _ _)
  · rfl

theorem Effect.handedOver_singleton (effect : Effect) : handedOver [effect] = effect.handed?.toList := by
  cases h : effect.handed? <;> simp [handedOver, h]

theorem Step.Silent.handedOver {α : Type} {s : Step α} (h : s.Silent) : Effect.handedOver s.effects = [] :=
  Effect.handedOver_eq_nil fun _ _ hmem => nomatch h _ hmem

namespace Client

variable {c : Client} {m : Moment} {sender target : NodeId} {channel : ChannelDef} {context : String}

theorem traceroutes_send (c : Client) (m : Moment) (r : Request) : (c.send m r).client.traceroutes = c.traceroutes := by
  obtain ⟨_, _, h⟩ := c.send_client m r
  rw [h]

/-! ### Calls -/

/-- What a call for a traceroute can come to. -/
inductive Requests (c : Client) (m : Moment) (sender target : NodeId) (channel : ChannelDef) (context : String) :
    Step (Except MeshError TracerouteOutcome) → Prop
  | limited {wait : Duration} (hwait : c.traceroutes.remaining? m.now sender target = some wait) :
    Requests c m sender target channel context (.still c (.ok (.rateLimited wait)))
  | sent {c' : Client} {id : UInt32} (hfree : c.traceroutes.remaining? m.now sender target = none)
    (hsend : (c.send m (.traceroute sender target channel)).value = .ok id)
    (htraceroutes : c'.traceroutes = (c.traceroutes.taken m.now sender target).add id
      ⟨sender, target, channel.name, context, m.now⟩) :
    Requests c m sender target channel context
      ⟨c', (c.send m (.traceroute sender target channel)).effects, .ok (.sent id)⟩
  | failed {c' : Client} {e : MeshError} (hfree : c.traceroutes.remaining? m.now sender target = none)
    (hsend : (c.send m (.traceroute sender target channel)).value = .error e)
    (htraceroutes : c'.traceroutes = (c.traceroutes.taken m.now sender target).release sender target) :
    Requests c m sender target channel context ⟨c', [], .error e⟩

/-- What a client remembers is nothing to the sending of a traceroute. -/
theorem ignores_send_traceroute (m : Moment) (sender target : NodeId) (channel : ChannelDef) :
    Ignores (·.send m (.traceroute sender target channel)) := by
  intro c s
  show (c.withStores s).send m (.traceroute sender target channel) =
    (c.send m (.traceroute sender target channel)).withStores s
  rw [send_traceroute _ _ _ _ _ rfl, send_traceroute _ _ _ _ _ rfl]
  exact ignores_transmit m _ c s

theorem acquireSlot_of_wait {wait : Duration} (h : c.traceroutes.remaining? m.now sender target = some wait) :
    c.acquireSlot m.now sender target = .error wait := by
  rw [acquireSlot, TracerouteTracker.acquire_eq, h]
  rfl

theorem acquireSlot_of_free (h : c.traceroutes.remaining? m.now sender target = none) :
    c.acquireSlot m.now sender target = .ok (c.withTraceroutes (c.traceroutes.taken m.now sender target)) := by
  rw [acquireSlot, TracerouteTracker.acquire_eq, h]
  rfl

theorem requests (c : Client) (m : Moment) (sender target : NodeId) (channel : ChannelDef) (context : String) :
    c.Requests m sender target channel context (c.requestTraceroute m sender target channel context) := by
  rw [requestTraceroute]
  cases hremaining : c.traceroutes.remaining? m.now sender target with
  | some wait =>
    rw [acquireSlot_of_wait hremaining]
    exact .limited hremaining
  | none =>
    rw [acquireSlot_of_free hremaining]
    have hsend : (c.withTraceroutes (c.traceroutes.taken m.now sender target)).send m
        (.traceroute sender target channel) = (c.send m (.traceroute sender target channel)).withStores
          { c.stores with traceroutes := c.traceroutes.taken m.now sender target } :=
      ignores_send_traceroute m sender target channel c
        { c.stores with traceroutes := c.traceroutes.taken m.now sender target }
    dsimp only
    rw [hsend]
    dsimp only [Step.withStores]
    cases hvalue : (c.send m (.traceroute sender target channel)).value with
    | error e =>
      rw [send_effects_of_error hvalue]
      exact .failed hremaining hvalue rfl
    | ok id => exact .sent hremaining hvalue rfl

/-- The wait that a call is told is the one that is reported for its pair. -/
theorem requestTraceroute_limited_iff {wait : Duration} :
    (c.requestTraceroute m sender target channel context).value = .ok (.rateLimited wait) ↔
      c.traceroutes.remaining? m.now sender target = some wait := by
  have hrequests := c.requests m sender target channel context
  generalize c.requestTraceroute m sender target channel context = t at hrequests ⊢
  cases hrequests with
  | limited hwait =>
    rw [hwait]
    exact ⟨fun h => by cases h; rfl, fun h => by cases h; rfl⟩
  | sent hfree _ _ =>
    rw [hfree]
    exact iff_of_false (fun h => nomatch h) fun h => nomatch h
  | failed hfree _ _ =>
    rw [hfree]
    exact iff_of_false (fun h => nomatch h) fun h => nomatch h

/-- A call that need not wait comes to what the sending of its traceroute comes to. -/
theorem requestTraceroute_of_free (h : c.traceroutes.remaining? m.now sender target = none) :
    (c.requestTraceroute m sender target channel context).value =
        (c.send m (.traceroute sender target channel)).value.map .sent ∧
      (c.requestTraceroute m sender target channel context).effects =
        (c.send m (.traceroute sender target channel)).effects := by
  have hrequests := c.requests m sender target channel context
  generalize c.requestTraceroute m sender target channel context = t at hrequests ⊢
  cases hrequests with
  | limited hwait => cases h.symm.trans hwait
  | sent _ hsend _ => exact ⟨by rw [hsend]; rfl, rfl⟩
  | failed _ hsend _ => exact ⟨by rw [hsend]; rfl, (send_effects_of_error hsend).symm⟩

theorem requestTraceroute_of_limited {wait : Duration}
    (h : (c.requestTraceroute m sender target channel context).value = .ok (.rateLimited wait)) :
    (c.requestTraceroute m sender target channel context).effects = [] ∧
      (c.requestTraceroute m sender target channel context).client = c := by
  have hrequests := c.requests m sender target channel context
  generalize c.requestTraceroute m sender target channel context = t at hrequests h ⊢
  cases hrequests with
  | limited _ => exact ⟨rfl, rfl⟩
  | sent _ _ _ => cases h
  | failed _ _ _ => cases h

theorem requestTraceroute_of_error {e : MeshError}
    (h : (c.requestTraceroute m sender target channel context).value = .error e) :
    (c.requestTraceroute m sender target channel context).effects = [] ∧
      (c.requestTraceroute m sender target channel context).client.traceroutes =
        (c.traceroutes.taken m.now sender target).release sender target := by
  have hrequests := c.requests m sender target channel context
  generalize c.requestTraceroute m sender target channel context = t at hrequests h ⊢
  cases hrequests with
  | limited _ => cases h
  | sent _ _ _ => cases h
  | failed _ _ htraceroutes => exact ⟨rfl, htraceroutes⟩

theorem requestTraceroute_of_sent {id : UInt32}
    (h : (c.requestTraceroute m sender target channel context).value = .ok (.sent id)) :
    (∀ i name p, .sent i name p ∈ (c.requestTraceroute m sender target channel context).effects → p.id = id) ∧
      (∃ i name p, .sent i name p ∈ (c.requestTraceroute m sender target channel context).effects) ∧
      (c.requestTraceroute m sender target channel context).client.traceroutes =
        (c.traceroutes.taken m.now sender target).add id ⟨sender, target, channel.name, context, m.now⟩ := by
  have hrequests := c.requests m sender target channel context
  generalize c.requestTraceroute m sender target channel context = t at hrequests h ⊢
  cases hrequests with
  | limited _ => cases h
  | sent _ hsend htraceroutes =>
    cases h
    obtain ⟨i, name, p, hout, -⟩ := send_value_eq_ok_iff.1 hsend
    refine ⟨fun i name p hmem => ?_, ⟨i, name, p, hout⟩, htraceroutes⟩
    exact Except.ok.inj ((send_value_of_sent hmem).symm.trans hsend)
  | failed _ _ _ => cases h

/-! ### Any action -/

/-- The request that an action sends, under the ID of its packet. -/
def sentRequest? (c : Client) (m : Moment) : Action → Option (UInt32 × PendingTraceroute)
  | .requestTraceroute sender target channel context =>
    match (c.requestTraceroute m sender target channel context).value with
    | .ok (.sent id) => some (id, ⟨sender, target, channel.name, context, m.now⟩)
    | _ => none
  | _ => none

/-- What an action can make of the traceroutes, with the request that it sends and those that it hands over. -/
inductive TracerouteStep (c : Client) (m : Moment) (a : Action) : Option (UInt32 × PendingTraceroute) →
    List (UInt32 × PendingTraceroute) → TracerouteTracker → Prop
  | still (ha : a ≠ .maintain) : TracerouteStep c m a none [] c.traceroutes
  | sent {sender target : NodeId} {channel : ChannelDef} {context : String} {id : UInt32}
    (ha : a = .requestTraceroute sender target channel context)
    (hfree : c.traceroutes.remaining? m.now sender target = none) :
    TracerouteStep c m a (some (id, ⟨sender, target, channel.name, context, m.now⟩)) []
      ((c.traceroutes.taken m.now sender target).add id ⟨sender, target, channel.name, context, m.now⟩)
  | failed {sender target : NodeId} {channel : ChannelDef} {context : String}
    (ha : a = .requestTraceroute sender target channel context)
    (hfree : c.traceroutes.remaining? m.now sender target = none) :
    TracerouteStep c m a none [] ((c.traceroutes.taken m.now sender target).release sender target)
  | told {d : Delivery} (ha : a = .receive d) (id : UInt32) :
    TracerouteStep c m a none ((c.traceroutes.take id).1.map (id, ·)).toList (c.traceroutes.take id).2
  | swept (ha : a = .maintain) : TracerouteStep c m a none [] (c.traceroutes.purge m.now)

theorem tracerouteStep_requestTraceroute (c : Client) (m : Moment) (sender target : NodeId) (channel : ChannelDef)
    (context : String) :
    c.TracerouteStep m (.requestTraceroute sender target channel context)
      (c.sentRequest? m (.requestTraceroute sender target channel context))
      (Effect.handedOver (c.requestTraceroute m sender target channel context).effects)
      (c.requestTraceroute m sender target channel context).client.traceroutes := by
  have hrequests := c.requests m sender target channel context
  rw [sentRequest?]
  generalize c.requestTraceroute m sender target channel context = t at hrequests ⊢
  cases hrequests with
  | limited _ => exact .still fun ha => nomatch ha
  | sent hfree _ htraceroutes =>
    rw [Effect.handedOver_eq_nil fun _ _ => not_mem_send, htraceroutes]
    exact .sent rfl hfree
  | failed hfree _ htraceroutes =>
    rw [htraceroutes]
    exact .failed rfl hfree

theorem tracerouteStep_act (c : Client) (m : Moment) (a : Action) :
    c.TracerouteStep m a (c.sentRequest? m a) (Effect.handedOver (c.act m a).effects)
      (c.act m a).client.traceroutes := by
  by_cases huses : a.UsesStores
  · cases a with
    | receive d =>
      show c.TracerouteStep m _ none (Effect.handedOver (c.receive m d).effects) (c.receive m d).client.traceroutes
      rcases c.receive_traceroutes m d with ⟨hnone, hsame⟩ | ⟨e, result, hevent, hpending, htaken⟩
      · rw [Effect.handedOver_eq_nil hnone, hsame]
        exact .still fun ha => nomatch ha
      · have hhanded : Effect.handedOver [.event (.traceroute e result)] =
            ((c.traceroutes.take result.requestId).1.map (result.requestId, ·)).toList := by
          rw [Effect.handedOver_singleton, Effect.handed?, hpending]
          rfl
        rw [hevent, hhanded, htaken]
        exact .told rfl result.requestId
    | send r =>
      show c.TracerouteStep m _ none (Effect.handedOver (c.send m r).effects) (c.send m r).client.traceroutes
      rw [Effect.handedOver_eq_nil fun _ _ => not_mem_send, traceroutes_send]
      exact .still fun ha => nomatch ha
    | requestTraceroute sender target channel context =>
      exact c.tracerouteStep_requestTraceroute m sender target channel context
    | maintain => exact .swept rfl
    | _ => exact huses.elim
  · have hsame : (c.act m a).client.traceroutes = c.traceroutes :=
      congrArg Stores.traceroutes ((ignores_act m huses).stores c)
    have hnone : c.sentRequest? m a = none := by
      cases a with
      | requestTraceroute _ _ _ _ => exact absurd trivial huses
      | _ => rfl
    rw [(silent_act c m huses).handedOver, hsame, hnone]
    exact .still fun ha => huses (ha ▸ trivial)

/-- How long calls have to wait and requests wait is fixed. -/
theorem TracerouteStep.times {a : Action} {sent : Option (UInt32 × PendingTraceroute)}
    {handed : List (UInt32 × PendingTraceroute)} {t : TracerouteTracker} (h : c.TracerouteStep m a sent handed t) :
    t.cooldown = c.traceroutes.cooldown ∧ t.timeout = c.traceroutes.timeout := by
  cases h with
  | _ => exact ⟨rfl, rfl⟩

end Client

end RadioMesh
