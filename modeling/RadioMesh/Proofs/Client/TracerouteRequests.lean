import RadioMesh.Proofs.Client.Duplicates
import RadioMesh.Proofs.Client.Waiting

/-!
The requests for a traceroute over a run. Whether a call has to wait hangs on the requests that were sent before it and
on nothing else, and each request that was sent is handed over with one answer at most, or is swept away when it has
waited for the whole timeout.
-/

namespace RadioMesh.Client

open RadioMesh.Action TracerouteTracker

variable {c : Client} {m : Moment} {a : Action}

/-! ### Calls -/

/-- What a call for a traceroute comes to behind the requests that were sent before it: it has to wait, or it fails
and leaves its pair free, or it is sent and waits for its answer. A call takes no time here, so the instant that its
request is noted with is the one at which the slot of its pair was taken. -/
structure CallKept (c : Client) (cooldown : Duration) (past : List PendingTraceroute) (m : Moment)
    (sender target : NodeId) (channel : ChannelDef) (context : String) : Prop where
  /-- It has to wait exactly if the slot of a request between the same nodes was taken less than the cooldown ago. -/
  limited_iff : ∀ wait, (c.requestTraceroute m sender target channel context).value = .ok (.rateLimited wait) ↔
    ∃ r ∈ past, r.pair = (sender, target) ∧ m.now - r.sentAt < cooldown ∧ wait = cooldown - (m.now - r.sentAt)
  /-- The wait that is reported at that instant is the one that it is told. -/
  reported_iff : ∀ wait, c.traceroutes.remaining? m.now sender target = some wait ↔
    (c.requestTraceroute m sender target channel context).value = .ok (.rateLimited wait)
  limited : ∀ wait, (c.requestTraceroute m sender target channel context).value = .ok (.rateLimited wait) →
    0 < wait ∧ wait ≤ cooldown ∧ (c.requestTraceroute m sender target channel context).effects = [] ∧
      (c.requestTraceroute m sender target channel context).client = c
  /-- Otherwise it comes to what the sending of its traceroute comes to. -/
  let_through : c.traceroutes.remaining? m.now sender target = none →
    (c.requestTraceroute m sender target channel context).value =
        (c.send m (.traceroute sender target channel)).value.map .sent ∧
      (c.requestTraceroute m sender target channel context).effects =
        (c.send m (.traceroute sender target channel)).effects
  /-- Behind a failure, no call between the same nodes has to wait, however soon it comes. -/
  failed : ∀ e, (c.requestTraceroute m sender target channel context).value = .error e →
    let c' := (c.requestTraceroute m sender target channel context).client
    (c.requestTraceroute m sender target channel context).effects = [] ∧
      c'.traceroutes.pending = c.traceroutes.pending ∧
      ∀ m' channel' context' wait, c'.traceroutes.remaining? m'.now sender target = none ∧
        (c'.requestTraceroute m' sender target channel' context').value ≠ .ok (.rateLimited wait)
  /-- A request that is sent goes out and waits under the ID of its packet, and nothing else is noted. The slot of its
  pair is from the same instant. -/
  sent : ∀ id, (c.requestTraceroute m sender target channel context).value = .ok (.sent id) →
    (∀ i name p, .sent i name p ∈ (c.requestTraceroute m sender target channel context).effects → p.id = id) ∧
      (∃ i name p, .sent i name p ∈ (c.requestTraceroute m sender target channel context).effects) ∧
      (c.requestTraceroute m sender target channel context).client.traceroutes.lastSent.get? (sender, target) =
        some m.now ∧
      ∀ id', (c.requestTraceroute m sender target channel context).client.traceroutes.pending.get? id' =
        if id' = id then some ⟨sender, target, channel.name, context, m.now⟩ else c.traceroutes.pending.get? id'

theorem callKept_of_remembers {past : List PendingTraceroute} (h : c.traceroutes.Remembers past m.now)
    (sender target : NodeId) (channel : ChannelDef) (context : String) :
    c.CallKept c.traceroutes.cooldown past m sender target channel context where
  limited_iff _ := requestTraceroute_limited_iff.trans h.remaining?_iff
  reported_iff _ := requestTraceroute_limited_iff.symm
  limited wait hvalue := by
    obtain ⟨hpos, hle⟩ := remaining?_bounds (requestTraceroute_limited_iff.1 hvalue)
    exact ⟨hpos, hle, requestTraceroute_of_limited hvalue⟩
  let_through := requestTraceroute_of_free
  failed e hvalue := by
    obtain ⟨heffects, htraceroutes⟩ := requestTraceroute_of_error hvalue
    refine ⟨heffects, by rw [htraceroutes]; rfl, fun m' channel' context' wait => ?_⟩
    rw [Ne, requestTraceroute_limited_iff, htraceroutes, remaining?_release]
    exact ⟨rfl, fun hsome => nomatch hsome⟩
  sent id hvalue := by
    obtain ⟨hpackets, hout, htraceroutes⟩ := requestTraceroute_of_sent hvalue
    rw [htraceroutes]
    refine ⟨hpackets, hout, Ledger.get?_insert_self _ _ _, fun id' => ?_⟩
    show (c.traceroutes.pending.insert id _).get? id' = _
    split
    · next hid => rw [hid, Ledger.get?_insert_self]
    · next hid => exact Ledger.get?_insert_of_ne hid _ _

/-! ### Steps -/

namespace TracerouteStep

variable {sent : Option (UInt32 × PendingTraceroute)} {past before handed : List (UInt32 × PendingTraceroute)}
  {t : TracerouteTracker}

theorem remembers (h : c.TracerouteStep m a sent handed t) (hpast : c.traceroutes.Remembers (past.map (·.2)) m.now) :
    t.Remembers ((past ++ sent.toList).map (·.2)) m.now := by
  rw [List.map_append]
  cases h with
  | still _ => simpa using hpast
  | @sent sender target channel context id _ hfree =>
    exact hpast.send (r := ⟨sender, target, channel.name, context, m.now⟩) hfree rfl id
  | failed _ hfree => simpa using hpast.fail hfree
  | told _ id =>
    have hslots : (c.traceroutes.take id).2.Remembers (past.map (·.2)) m.now := hpast.of_slots rfl rfl
    simpa using hslots
  | swept _ => simpa using hpast.purge

theorem accounts (h : c.TracerouteStep m a sent handed t) (hpast : c.traceroutes.Accounts past before)
    (hnew : ((past ++ sent.toList).map (·.1)).Nodup) : t.Accounts (past ++ sent.toList) (before ++ handed) := by
  cases h with
  | still _ => simpa using hpast
  | @sent sender target channel context id _ _ =>
    have hid : id ∉ past.map (·.1) := by
      rw [List.map_append, List.nodup_append_comm] at hnew
      exact (List.nodup_cons.1 hnew).1
    have htaken : (c.traceroutes.taken m.now sender target).Accounts past before := hpast.of_pending rfl
    rw [List.append_nil]
    exact htaken.add hid ⟨sender, target, channel.name, context, m.now⟩
  | @failed sender target _ _ _ _ =>
    have hreleased : ((c.traceroutes.taken m.now sender target).release sender target).Accounts past before :=
      hpast.of_pending rfl
    simpa using hreleased
  | told _ id => simpa using hpast.take id
  | swept _ => simpa using hpast.purge m.now

/-- A request waits on unless it is handed over or swept away in time. -/
theorem waits_iff {id : UInt32} {r : PendingTraceroute} (h : c.TracerouteStep m a sent handed t)
    (hwaits : c.traceroutes.pending.get? id = some r) (hnew : id ∉ sent.toList.map (·.1)) :
    t.pending.get? id = some r ↔
      (id, r) ∉ handed ∧ ¬(a = .maintain ∧ c.traceroutes.timeout ≤ m.now - r.sentAt) := by
  cases h with
  | still ha => exact iff_of_true hwaits ⟨List.not_mem_nil, fun h => ha h.1⟩
  | sent ha _ =>
    have hne : id ≠ _ := fun hid => hnew (List.mem_singleton.2 hid)
    subst ha
    exact iff_of_true ((Ledger.get?_insert_of_ne hne _ _).trans hwaits) ⟨List.not_mem_nil, fun h => nomatch h.1⟩
  | failed ha _ =>
    subst ha
    exact iff_of_true hwaits ⟨List.not_mem_nil, fun h => nomatch h.1⟩
  | told ha id' =>
    subst ha
    show (c.traceroutes.pending.erase id').get? id = some r ↔
      (id, r) ∉ ((c.traceroutes.pending.get? id').map (id', ·)).toList ∧ _
    by_cases hid : id = id'
    · subst hid
      rw [Ledger.get?_erase_self, hwaits]
      exact iff_of_false (fun h => nomatch h) fun h => h.1 (List.mem_singleton_self _)
    · rw [Ledger.get?_erase_of_ne hid]
      refine iff_of_true hwaits ⟨fun hmem => ?_, fun h => nomatch h.1⟩
      obtain ⟨r', -, hr'⟩ := Option.map_eq_some_iff.1 (Option.mem_toList.1 hmem)
      exact hid (congrArg Prod.fst hr').symm
  | swept ha =>
    show (c.traceroutes.pending.filter _).get? id = some r ↔ _
    rw [Ledger.get?_filter, hwaits, Option.filter_eq_some_iff]
    simp [ha]

end TracerouteStep

/-! ### Runs -/

/-- The requests for a traceroute that are sent in a run, each under the ID of its packet. -/
def sentRequests (c : Client) : List (Moment × Action) → List (UInt32 × PendingTraceroute)
  | [] => []
  | (m, a) :: rest => (c.sentRequest? m a).toList ++ (c.act m a).client.sentRequests rest

theorem sentRequests_append_singleton (c : Client) (actions : List (Moment × Action)) (m : Moment) (a : Action) :
    c.sentRequests (actions ++ [(m, a)]) =
      c.sentRequests actions ++ ((c.run actions).client.sentRequest? m a).toList := by
  induction actions generalizing c with
  | nil => exact List.append_nil _
  | cons x actions ih =>
    show _ ++ (c.act x.1 x.2).client.sentRequests (actions ++ [(m, a)]) = _
    rw [ih, ← List.append_assoc]
    rfl

theorem run_effects_append_singleton (c : Client) (actions : List (Moment × Action)) (m : Moment) (a : Action) :
    (c.run (actions ++ [(m, a)])).effects = (c.run actions).effects ++ ((c.run actions).client.act m a).effects := by
  induction actions generalizing c with
  | nil => exact List.append_nil _
  | cons x actions ih =>
    show (c.act x.1 x.2).effects ++ ((c.act x.1 x.2).client.run (actions ++ [(m, a)])).effects = _
    rw [ih, ← List.append_assoc]
    rfl

section Runs
variable (s : Settings) (m₀ : Moment)

/-- The requests for a traceroute that a client sent since its beginning. -/
def requestsSent (actions : List (Moment × Action)) : List (UInt32 × PendingTraceroute) :=
  (ofSettings s m₀).sentRequests actions

/-- The requests that were handed over with the answers that it told. -/
def requestsHanded (actions : List (Moment × Action)) : List (UInt32 × PendingTraceroute) :=
  Effect.handedOver ((ofSettings s m₀).run actions).effects

theorem requestsSent_append_singleton (actions : List (Moment × Action)) (m : Moment) (a : Action) :
    requestsSent s m₀ (actions ++ [(m, a)]) =
      requestsSent s m₀ actions ++ ((after s m₀ actions).sentRequest? m a).toList :=
  sentRequests_append_singleton _ _ _ _

theorem requestsHanded_append_singleton (actions : List (Moment × Action)) (m : Moment) (a : Action) :
    requestsHanded s m₀ (actions ++ [(m, a)]) =
      requestsHanded s m₀ actions ++ Effect.handedOver ((after s m₀ actions).act m a).effects := by
  rw [requestsHanded, run_effects_append_singleton, Effect.handedOver, List.filterMap_append]
  rfl

theorem cooldown_after (actions : List (Moment × Action)) :
    (after s m₀ actions).traceroutes.cooldown = s.tracerouteCooldown := by
  induction actions using List.reverseRecOn with
  | nil => rfl
  | append_singleton actions x ih =>
    rw [after, run_append_singleton, (tracerouteStep_act _ _ _).times.1]
    exact ih

/-- The slots tell which requests were sent, behind every run. -/
theorem slots_after {actions : List (Moment × Action)} (hforward : Forward actions) {now : Instant}
    (hle : ∀ x ∈ actions, x.1.now ≤ now) :
    (after s m₀ actions).traceroutes.Remembers ((requestsSent s m₀ actions).map (·.2)) now := by
  refine hforward.induction (P := fun actions now => (after s m₀ actions).traceroutes.Remembers
    ((requestsSent s m₀ actions).map (·.2)) now) ?_ ?_ (fun {actions m} a _ hpast => ?_) hle
  · exact remembers_ofTimes s.tracerouteCooldown s.tracerouteTimeout
  · exact fun hpast hle => hpast.later hle
  · rw [after, run_append_singleton, requestsSent_append_singleton]
    exact (tracerouteStep_act _ m a).remembers hpast

/-- The requests that wait are accounted for behind every run, as long as no two are sent under one ID. -/
theorem accounts_after {actions : List (Moment × Action)} (hnodup : ((requestsSent s m₀ actions).map (·.1)).Nodup) :
    (after s m₀ actions).traceroutes.Accounts (requestsSent s m₀ actions) (requestsHanded s m₀ actions) := by
  induction actions using List.reverseRecOn with
  | nil => exact accounts_ofTimes s.tracerouteCooldown s.tracerouteTimeout
  | append_singleton actions x ih =>
    obtain ⟨m, a⟩ := x
    rw [requestsSent_append_singleton] at hnodup
    have hpast := ih (List.map_append ▸ hnodup).of_append_left
    rw [after, run_append_singleton, requestsSent_append_singleton, requestsHanded_append_singleton]
    exact (tracerouteStep_act _ m a).accounts hpast hnodup

/-- A call for a traceroute has to wait exactly if one between the same nodes was sent less than the cooldown ago, as
counted from its slot. One that fails leaves no trace. If no two requests are sent under one ID, each of them is handed over at most once, with
the answer to it, and otherwise waits until a sweep finds that it has waited for the whole timeout. -/
theorem requests_kept (actions : List (Moment × Action)) (m : Moment) (a : Action)
    (hforward : Forward (actions ++ [(m, a)])) :
    let c := after s m₀ actions
    (∀ sender target channel context,
      c.CallKept s.tracerouteCooldown ((requestsSent s m₀ actions).map (·.2)) m sender target channel context) ∧
    (((requestsSent s m₀ (actions ++ [(m, a)])).map (·.1)).Nodup →
      ((requestsHanded s m₀ (actions ++ [(m, a)])).map (·.1)).Nodup ∧
      requestsHanded s m₀ (actions ++ [(m, a)]) ⊆ requestsSent s m₀ (actions ++ [(m, a)]) ∧
      (∀ id r, c.sentRequest? m a = some (id, r) → c.traceroutes.pending.get? id = none) ∧
      ∀ id r, c.traceroutes.pending.get? id = some r → (id, r) ∈ requestsSent s m₀ actions ∧
        ((c.act m a).client.traceroutes.pending.get? id = some r ↔
          (id, r) ∉ Effect.handedOver (c.act m a).effects ∧
            ¬(a = .maintain ∧ s.tracerouteTimeout ≤ m.now - r.sentAt))) := by
  intro c
  obtain ⟨hbefore, hle⟩ := hforward.before
  refine ⟨fun sender target channel context => ?_, fun hnodup => ?_⟩
  · rw [← cooldown_after s m₀ actions]
    exact callKept_of_remembers (slots_after s m₀ hbefore hle) sender target channel context
  · have hafter := accounts_after s m₀ hnodup
    rw [requestsSent_append_singleton, List.map_append] at hnodup
    obtain ⟨hpast, -, hdisjoint⟩ := List.nodup_append'.1 hnodup
    have hwaiting := (accounts_after s m₀ hpast).waiting
    -- What waits was sent before, so that its ID is not that of the request that is sent now.
    have hnew : ∀ id r, c.traceroutes.pending.get? id = some r → id ∉ (c.sentRequest? m a).toList.map (·.1) :=
      fun id r hwaits hmem => hdisjoint (List.mem_map_of_mem (hwaiting id r hwaits).1) hmem
    refine ⟨hafter.once, hafter.subset, fun id r hsent => ?_, fun id r hwaits => ?_⟩
    · refine Option.eq_none_iff_forall_not_mem.2 fun r' hwaits => hnew id r' hwaits ?_
      rw [hsent]
      exact List.mem_singleton_self id
    · rw [← timeout_after s m₀ actions]
      exact ⟨(hwaiting id r hwaits).1, (c.tracerouteStep_act m a).waits_iff hwaits (hnew id r hwaits)⟩

/-- A call ten seconds behind another one between the same nodes has to wait for twenty more, and the first one waits
on for its answer. -/
theorem requests_kept_twice :
    let tick (now : Instant) : Moment := ⟨now, 0, fun _ => 0⟩
    let clear := ChannelDef.unencrypted "clear"
    let call : Action := .requestTraceroute ⟨256⟩ ⟨768⟩ clear "room"
    let request : PendingTraceroute := ⟨⟨256⟩, ⟨768⟩, "clear", "room", 0⟩
    let actions := [(tick 0, .addLink { name := "udp" }), (tick 0, call)]
    let c := after (.ofNode ⟨256⟩) (tick 0) actions
    Forward (actions ++ [(tick 10000, call)]) ∧
      (c.requestTraceroute (tick 10000) ⟨256⟩ ⟨768⟩ clear "room").value = .ok (.rateLimited 20000) ∧
      requestsSent (.ofNode ⟨256⟩) (tick 0) (actions ++ [(tick 10000, call)]) = [(1, request)] ∧
      (c.act (tick 10000) call).client.traceroutes.pending.get? 1 = some request := by
  intro tick clear call request actions c
  have hforward : Forward (actions ++ [(tick 10000, call)]) := by
    unfold Forward
    decide
  obtain ⟨hcalls, hrequests⟩ := requests_kept (.ofNode ⟨256⟩) (tick 0) actions (tick 10000) call hforward
  have hsent : requestsSent (.ofNode ⟨256⟩) (tick 0) (actions ++ [(tick 10000, call)]) = [(1, request)] := by
    decide +kernel
  have hlimited := ((hcalls ⟨256⟩ ⟨768⟩ clear "room").limited_iff 20000).2 ⟨request, by decide +kernel⟩
  have hwaits : c.traceroutes.pending.get? 1 = some request := by decide +kernel
  obtain ⟨-, -, -, hwaiting⟩ := hrequests (by rw [hsent]; decide)
  refine ⟨hforward, hlimited, hsent, ((hwaiting 1 request hwaits).2).2 ⟨?_, fun h => nomatch h.1⟩⟩
  decide +kernel

end Runs

end RadioMesh.Client
