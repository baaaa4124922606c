import RadioMesh.Proofs.Client.Handling
import RadioMesh.Proofs.Client.Stores
import RadioMesh.Proofs.Store.Throttle

/-!
Automatic answers of a client over a run. A delivery can ask for one; the throttle decides by the earlier deliveries
that asked for the same of the same node, and by nothing else, whether the client tries to give it.
-/

namespace RadioMesh

/-! ### Answers and what asks for them -/

/-- The kind of an automatic answer, and the node that gives it. -/
def Request.answer? : Request → Option (RequestKind × NodeId)
  | .telemetryResponse sender _ _ _ _ => some (.telemetry, sender)
  | .hostMetricsResponse sender _ _ _ _ => some (.telemetry, sender)
  | .neighborInfoResponse sender _ _ _ _ _ _ => some (.neighborInfo, sender)
  | _ => none

/-- The kind of answer that a meaning asks for. -/
def Meaning.asks? : Meaning → Option RequestKind
  | .telemetryRequest _ => some .telemetry
  | .neighborInfoRequest n => if n.isProbe then none else some .neighborInfo
  | _ => none

namespace Client

/-- What the client does about a delivery. -/
def reactionTo (c : Client) (m : Moment) (d : Delivery) : Reaction :=
  let (entered, c) := c.enter m.now d.packet
  if entered then
    match c.open? d with
    | none => .none
    | some r => (c.react m r).2
  else .none

/-- What a packet that can be read asks of the node that it is for. -/
def askOf? (c : Client) (m : Moment) (r : Received) : Option Ask :=
  if c.isManaged r.dest then
    (Meaning.ofData (r.envelope m.epoch) m.epoch r.data).asks?.map fun kind => ⟨m.now, kind, r.dest⟩
  else none

/-- What a delivery asks of a managed node, if it gets past the door and can be read. -/
def ask? (c : Client) (m : Moment) (d : Delivery) : Option Ask :=
  if (c.enter m.now d.packet).1 then (c.open? d).bind (c.askOf? m) else none

def actionAsk? (c : Client) (m : Moment) : Action → Option Ask
  | .receive d => c.ask? m d
  | _ => none

/-- The requests for automatic answers among the deliveries of a run. -/
def asks (c : Client) : List (Moment × Action) → List Ask
  | [] => []
  | (m, a) :: rest => (c.actionAsk? m a).toList ++ (c.act m a).client.asks rest

/-- The client tries to give an automatic answer. -/
def Answers (c : Client) (m : Moment) (d : Delivery) (kind : RequestKind) (node : NodeId) : Prop :=
  ∃ q ∈ (c.reactionTo m d).requests, q.answer? = some (kind, node)

end Client

/-! ### One delivery -/

/-- How requests for automatic answers are dealt with: those that the throttle blocks are left alone, and to the others
the answers are tried. -/
inductive RequestThrottle.Decides (t : RequestThrottle) (isManaged : NodeId → Bool) (now : Instant) :
    Option Ask → RequestThrottle → Reaction → Prop
  | other {reaction : Reaction} (hnone : ∀ q ∈ reaction.requests, q.answer? = none) :
    Decides t isManaged now none t reaction
  | blocked {a : Ask} (hnow : a.now = now) (hmanaged : isManaged a.node = true)
    (hblocked : t.isBlocked a.kind a.now a.node = true) : Decides t isManaged now (some a) t .none
  | passed {a : Ask} {requests : List Request} (hnow : a.now = now) (hmanaged : isManaged a.node = true)
    (hpasses : t.isBlocked a.kind a.now a.node = false) (hanswers : ∀ q ∈ requests, q.answer? = some (a.kind, a.node)) :
    Decides t isManaged now (some a) (t.start a.kind a.now a.node) (.answers requests)

namespace RequestThrottle.Decides

variable {t t' : RequestThrottle} {isManaged : NodeId → Bool} {now : Instant} {ask : Option Ask} {reaction : Reaction}

theorem remembers (h : t.Decides isManaged now ask t' reaction) {past : List Ask} (ht : t.Remembers past now) :
    t'.Remembers (past ++ ask.toList) now ∧ t'.period = t.period := by
  cases h with
  | other _ =>
    rw [Option.toList_none, List.append_nil]
    exact ⟨ht, rfl⟩
  | blocked hnow _ hblocked =>
    rw [← hnow] at ht ⊢
    exact ⟨ht.refused hblocked, rfl⟩
  | passed hnow _ hpasses _ =>
    rw [← hnow] at ht ⊢
    exact ⟨ht.start hpasses, start_period _ _ _ _⟩

/-- Answers are tried only for a request that the throttle does not block. -/
theorem passes (h : t.Decides isManaged now ask t' reaction) {q : Request} (hq : q ∈ reaction.requests)
    {kind : RequestKind} {node : NodeId} (hkind : q.answer? = some (kind, node)) :
    isManaged node = true ∧ ask = some ⟨now, kind, node⟩ ∧ t.isBlocked kind now node = false := by
  cases h with
  | other hnone =>
    rw [hnone q hq] at hkind
    cases hkind
  | blocked _ _ _ => cases hq
  | @passed a requests hnow hmanaged hpasses hanswers =>
    rw [hanswers q hq] at hkind
    cases hkind
    rw [← hnow]
    exact ⟨hmanaged, rfl, hpasses⟩

theorem of_none (h : t.Decides isManaged now ask t' reaction) (hask : ask = none) : t' = t := by
  cases h with
  | other _ => rfl
  | blocked _ _ _ => rfl
  | passed _ _ _ _ => cases hask

theorem of_isBlocked (h : t.Decides isManaged now ask t' reaction) {a : Ask} (hask : ask = some a)
    (hblocked : t.isBlocked a.kind a.now a.node = true) : reaction = .none := by
  cases h with
  | other _ => cases hask
  | blocked _ _ _ => rfl
  | passed _ _ hpasses _ =>
    cases hask
    rw [hblocked] at hpasses
    cases hpasses

theorem of_not_isBlocked (h : t.Decides isManaged now ask t' reaction) {a : Ask} (hask : ask = some a)
    (hpasses : t.isBlocked a.kind a.now a.node = false) :
    ∃ requests, reaction = .answers requests ∧ ∀ q ∈ requests, q.answer? = some (a.kind, a.node) := by
  cases h with
  | other _ => cases hask
  | blocked _ _ hblocked =>
    cases hask
    rw [hblocked] at hpasses
    cases hpasses
  | passed _ _ _ hanswers =>
    cases hask
    exact ⟨_, rfl, hanswers⟩

theorem ask_now (h : t.Decides isManaged now ask t' reaction) {a : Ask} (ha : ask = some a) : a.now = now := by
  cases h with
  | other _ => cases ha
  | blocked hnow _ _ =>
    cases ha
    exact hnow
  | passed hnow _ _ _ =>
    cases ha
    exact hnow

end RequestThrottle.Decides

namespace Client

variable {c : Client} {m : Moment} {d : Delivery} {r : Received}

theorem decides_throttled {kind : RequestKind} {node : NodeId} {requests : List Request}
    (hmanaged : c.isManaged node = true) (hanswers : ∀ q ∈ requests, q.answer? = some (kind, node)) (now : Instant) :
    c.throttle.Decides c.isManaged now (some ⟨now, kind, node⟩) (c.throttled kind now node requests).1.throttle
      (c.throttled kind now node requests).2 := by
  rw [throttled, RequestThrottle.pass]
  cases hblocked : c.throttle.isBlocked kind now node with
  | true => exact .blocked rfl hmanaged hblocked
  | false => exact .passed rfl hmanaged hblocked hanswers

theorem answer?_of_mem_telemetryAnswer {t : Telemetry} {q : Request} (hq : q ∈ telemetryAnswer r t) :
    q.answer? = some (.telemetry, r.dest) := by
  rcases eq_of_mem_telemetryAnswer hq with rfl | rfl
  · rfl
  · rfl

theorem answer?_of_mem_answerTraceroute {route : RouteDiscovery} {q : Request}
    (hq : q ∈ (c.answerTraceroute r route).requests) : q.answer? = none := by
  rcases eq_of_mem_answerTraceroute hq with ⟨-, rfl⟩ | rfl
  · rfl
  · rfl

theorem decides_react (c : Client) (m : Moment) (r : Received) :
    c.throttle.Decides c.isManaged m.now (c.askOf? m r) (c.react m r).1.throttle (c.react m r).2 := by
  have hnothing : ∀ q ∈ Reaction.none.requests, q.answer? = none := fun q hq => nomatch hq
  unfold react askOf?
  dsimp only
  cases Meaning.ofData (r.envelope m.epoch) m.epoch r.data with
  | event event =>
    simp only [Meaning.asks?, Option.map_none, ite_self]
    exact .other fun q hq => nomatch hq
  | tracerouteRequest route =>
    simp only [Meaning.asks?, Option.map_none, ite_self]
    exact .other fun q => answer?_of_mem_answerTraceroute
  | tracerouteResponse route =>
    simp only [Meaning.asks?, Option.map_none, ite_self]
    exact .other fun q hq => nomatch hq
  | telemetryRequest t =>
    dsimp only
    rw [answerTelemetry]
    cases hmanaged : c.isManaged r.dest with
    | false => exact .other hnothing
    | true => exact decides_throttled hmanaged (fun q => answer?_of_mem_telemetryAnswer) m.now
  | neighborInfoRequest n =>
    dsimp only
    rw [answerNeighborInfo, Meaning.asks?]
    cases hmanaged : c.isManaged r.dest with
    | false => exact .other hnothing
    | true =>
      cases hprobe : n.isProbe with
      | true => exact .other hnothing
      | false =>
        refine decides_throttled hmanaged (fun q hq => ?_) m.now
        rw [List.mem_singleton.1 hq]
        rfl
  | nothing =>
    simp only [Meaning.asks?, Option.map_none, ite_self]
    exact .other hnothing

theorem decides_receive (c : Client) (m : Moment) (d : Delivery) :
    c.throttle.Decides c.isManaged m.now (c.ask? m d) (c.receive m d).client.throttle (c.reactionTo m d) := by
  have hnothing : ∀ q ∈ Reaction.none.requests, q.answer? = none := fun q hq => nomatch hq
  cases henter : (c.enter m.now d.packet).1 with
  | false =>
    rw [receive_of_not_enter henter]
    simp only [ask?, reactionTo, henter, Bool.false_eq_true, if_false]
    exact .other hnothing
  | true =>
    cases hopen : c.open? d with
    | none =>
      have hopen' : (c.enter m.now d.packet).2.open? d = none := hopen
      rw [receive_of_not_open hopen]
      simp only [ask?, reactionTo, henter, hopen, hopen', if_true, Option.bind_none]
      exact .other hnothing
    | some r =>
      have hopen' : (c.enter m.now d.packet).2.open? d = some r := hopen
      have hthrottle : ∀ reaction : Client × Reaction,
          (reaction.1.perform m reaction.2).client.throttle = reaction.1.throttle := by
        intro reaction
        obtain ⟨_, _, h⟩ := reaction.1.perform_client m reaction.2
        rw [h]
      rw [receive_of_enter henter hopen', hthrottle]
      simp only [ask?, reactionTo, henter, hopen, hopen', if_true, Option.bind_some]
      exact decides_react (c.enter m.now d.packet).2 m r

/-- All that a delivery does beyond the door is what the reaction to it does. -/
theorem receive_eq_perform (c : Client) (m : Moment) (d : Delivery) :
    ∃ c', c.SameSetup c' ∧ c'.links = c.links ∧ c.receive m d = c'.perform m (c.reactionTo m d) ∧
      c.builtFor m d = c'.built m (c.reactionTo m d).requests := by
  cases henter : (c.enter m.now d.packet).1 with
  | false =>
    refine ⟨_, c.sameSetup_enter m.now d.packet, rfl, ?_⟩
    simp only [receive_of_not_enter henter, reactionTo, builtFor, henter, Bool.false_eq_true, if_false]
    exact ⟨rfl, rfl⟩
  | true =>
    cases hopen : c.open? d with
    | none =>
      have hopen' : (c.enter m.now d.packet).2.open? d = none := hopen
      refine ⟨_, c.sameSetup_enter m.now d.packet, rfl, ?_⟩
      simp only [receive_of_not_open hopen, reactionTo, builtFor, henter, hopen', if_true]
      exact ⟨rfl, rfl⟩
    | some r =>
      have hopen' : (c.enter m.now d.packet).2.open? d = some r := hopen
      have hreacts := reacts (c.enter m.now d.packet).2 m r
      refine ⟨_, (c.sameSetup_enter m.now d.packet).trans hreacts.sameSetup, hreacts.links, ?_⟩
      simp only [receive_of_enter henter hopen', reactionTo, builtFor, henter, hopen', if_true, true_and]

/-- What goes out on a delivery is sent for a request of the reaction to it. -/
theorem exists_request_of_sent {i : Nat} {name : String} {p : MeshPacket}
    (h : .sent i name p ∈ (c.receive m d).effects) :
    ∃ q ∈ (c.reactionTo m d).requests, ∃ c' m', c.SameSetup c' ∧ .sent i name p ∈ (c'.send m' q).effects := by
  obtain ⟨c', hsetup, -, hreceive, -⟩ := c.receive_eq_perform m d
  rw [hreceive] at h
  cases hreaction : c.reactionTo m d with
  | none =>
    rw [hreaction] at h
    cases h
  | event event =>
    rw [hreaction] at h
    cases List.mem_singleton.1 h
  | answers requests =>
    rw [hreaction] at h
    obtain ⟨q, hq, c'', m', hsetup', hsent⟩ := sendAll_sent h
    exact ⟨q, hq, c'', m', hsetup.trans hsetup', hsent⟩

theorem effects_of_none (h : c.reactionTo m d = .none) : (c.receive m d).effects = [] := by
  obtain ⟨c', -, -, hreceive, -⟩ := c.receive_eq_perform m d
  rw [hreceive, h]
  rfl

theorem effects_of_answers {requests : List Request} (h : c.reactionTo m d = .answers requests) :
    (c.receive m d).effects = (c.builtFor m d).flatMap (accepted c.links) := by
  obtain ⟨c', -, hlinks, hreceive, hbuilt⟩ := c.receive_eq_perform m d
  rw [hreceive, hbuilt, h, ← hlinks]
  exact sendAll_effects c' m requests

/-- A neighbor list with one neighbor that is all zero asks for nothing. -/
theorem probe {n : NeighborInfo} {x : Neighbor} (hopen : c.open? d = some r) (hport : r.data.port = .neighborinfo)
    (hn : NeighborInfo.schema.decode? r.data.payload = some n) (hx : n.neighbors = [x]) (hnode : x.nodeId = 0)
    (hsnr : x.snr.isZero = true) : c.ask? m d = none ∧ c.reactionTo m d = .none := by
  have hprobe : n.isProbe = true := by simp [NeighborInfo.isProbe, hx, hnode, hsnr]
  have hopen' : (c.enter m.now d.packet).2.open? d = some r := hopen
  have hmeaning : Meaning.ofData (r.envelope m.epoch) m.epoch r.data = .neighborInfoRequest n ∨
      Meaning.ofData (r.envelope m.epoch) m.epoch r.data = .nothing := by
    simp only [Meaning.ofData, hport, Meaning.ofPayload, hn]
    split
    · exact .inl rfl
    · exact .inr rfl
  simp only [ask?, reactionTo, hopen, hopen', Option.bind_some]
  rcases hmeaning with hmeaning | hmeaning
  · simp [askOf?, react, hmeaning, Meaning.asks?, answerNeighborInfo, hprobe]
  · simp [askOf?, react, hmeaning, Meaning.asks?]

/-- A delivery asks for an answer, and the throttle does not block it. -/
structure LetsThrough (c : Client) (m : Moment) (d : Delivery) (kind : RequestKind) (node : NodeId) : Prop where
  asks : c.ask? m d = some ⟨m.now, kind, node⟩
  passes : c.throttle.isBlocked kind m.now node = false

theorem Answers.letsThrough {kind : RequestKind} {node : NodeId} (h : c.Answers m d kind node) :
    c.isManaged node = true ∧ c.LetsThrough m d kind node := by
  obtain ⟨q, hq, hkind⟩ := h
  obtain ⟨hmanaged, hask, hpasses⟩ := (c.decides_receive m d).passes hq hkind
  exact ⟨hmanaged, hask, hpasses⟩

/-! ### Runs -/

theorem throttle_act (c : Client) (m : Moment) {a : Action} (hreceive : ∀ d, a ≠ .receive d)
    (hmaintain : a ≠ .maintain) : (c.act m a).client.throttle = c.throttle := by
  by_cases huses : a.UsesStores
  · cases a with
    | receive d => exact absurd rfl (hreceive d)
    | maintain => exact absurd rfl hmaintain
    | send r =>
      obtain ⟨_, _, h⟩ := c.send_client m r
      show (c.send m r).client.throttle = _
      rw [h]
    | requestTraceroute sender target channel context =>
      obtain ⟨_, _, _, h⟩ := c.requestTraceroute_client m sender target channel context
      show (c.requestTraceroute m sender target channel context).client.throttle = _
      rw [h]
    | _ => exact huses.elim
  · exact congrArg Stores.throttle ((ignores_act m huses).stores c)

theorem remembers_act {past : List Ask} (h : c.throttle.Remembers past m.now) (a : Action) :
    (c.act m a).client.throttle.Remembers (past ++ (c.actionAsk? m a).toList) m.now ∧
      (c.act m a).client.throttle.period = c.throttle.period := by
  cases a with
  | receive d => exact (c.decides_receive m d).remembers h
  | maintain =>
    show (c.throttle.purge m.now).Remembers (past ++ []) m.now ∧ _
    rw [List.append_nil]
    exact ⟨h.purge, rfl⟩
  | _ =>
    rw [throttle_act c m (fun _ => Action.noConfusion) Action.noConfusion]
    show c.throttle.Remembers (past ++ []) m.now ∧ _
    rw [List.append_nil]
    exact ⟨h, rfl⟩

theorem asks_append (c : Client) (xs ys : List (Moment × Action)) :
    c.asks (xs ++ ys) = c.asks xs ++ (c.run xs).client.asks ys := by
  induction xs generalizing c with
  | nil => rfl
  | cons x xs ih =>
    show (c.actionAsk? x.1 x.2).toList ++ (c.act x.1 x.2).client.asks (xs ++ ys) = _ ++ _ ++ _
    rw [ih, List.append_assoc]
    rfl

section Runs
open RadioMesh.Action
variable (s : Settings) (m₀ : Moment)

/-- The requests for automatic answers in a run from a client's beginning. -/
def asksIn (actions : List (Moment × Action)) : List Ask :=
  (ofSettings s m₀).asks actions

theorem asksIn_append_singleton (actions : List (Moment × Action)) (m : Moment) (a : Action) :
    asksIn s m₀ (actions ++ [(m, a)]) = asksIn s m₀ actions ++ ((after s m₀ actions).actionAsk? m a).toList := by
  rw [asksIn, asks_append]
  show _ ++ (((after s m₀ actions).actionAsk? m a).toList ++ []) = _
  rw [List.append_nil]
  rfl

theorem remembers_run {actions : List (Moment × Action)} (hforward : Forward actions) {now : Instant}
    (hle : ∀ x ∈ actions, x.1.now ≤ now) :
    (after s m₀ actions).throttle.Remembers (asksIn s m₀ actions) now ∧
      (after s m₀ actions).throttle.period = s.requestThrottle := by
  refine hforward.induction (P := fun actions now => (after s m₀ actions).throttle.Remembers (asksIn s m₀ actions) now ∧
    (after s m₀ actions).throttle.period = s.requestThrottle)
    (fun now => ⟨RequestThrottle.remembers_ofPeriod s.requestThrottle now, rfl⟩)
    (fun ⟨hremembers, hperiod⟩ hle => ⟨hremembers.later hle, hperiod⟩) (fun {actions m} a _ hstep => ?_) hle
  obtain ⟨hremembers, hperiod⟩ := hstep
  obtain ⟨hremembers', hperiod'⟩ := remembers_act hremembers a
  rw [asksIn_append_singleton, after, run_append_singleton]
  exact ⟨hremembers', hperiod'.trans hperiod⟩

variable {actions earlier between : List (Moment × Action)} {m m₁ : Moment} {a : Action} {d d₁ : Delivery}
  {kind : RequestKind} {node : NodeId}

/-- What the throttle remembers when the next thing happens. -/
theorem remembers_next (hforward : Forward (actions ++ [(m, a)])) :
    (after s m₀ actions).throttle.Remembers (asksIn s m₀ actions) m.now ∧
      (after s m₀ actions).throttle.period = s.requestThrottle := by
  obtain ⟨hbefore, hle⟩ := hforward.before
  exact remembers_run s m₀ hbefore hle

variable {s m₀}

/-- A delivery of a run that is let through is among those that later ones have to keep a distance to. -/
theorem LetsThrough.mem (h : (after s m₀ earlier).LetsThrough m₁ d₁ kind node)
    (hforward : Forward (earlier ++ (m₁, .receive d₁) :: between)) :
    m₁.now ∈ Ask.letThrough s.requestThrottle kind node (asksIn s m₀ (earlier ++ (m₁, .receive d₁) :: between)) := by
  obtain ⟨hremembers, hperiod⟩ := remembers_next s m₀ hforward.until
  have hspaced := hremembers.not_isBlocked_iff.1 h.passes
  rw [hperiod] at hspaced
  have hask : asksIn s m₀ (earlier ++ [(m₁, .receive d₁)]) = asksIn s m₀ earlier ++ [⟨m₁.now, kind, node⟩] := by
    rw [asksIn_append_singleton]
    exact congrArg (fun ask : Option Ask => asksIn s m₀ earlier ++ ask.toList) h.asks
  rw [List.append_cons, asksIn, asks_append]
  refine Ask.mem_letThrough_append ?_ _
  show _ ∈ Ask.letThrough _ _ _ (asksIn s m₀ (earlier ++ [(m₁, .receive d₁)]))
  rw [hask]
  exact Ask.mem_letThrough_self (a := ⟨m₁.now, kind, node⟩) hspaced

/-- And each instant among them is that of such a delivery. -/
theorem exists_letsThrough (hforward : Forward actions) {t : Instant}
    (ht : t ∈ Ask.letThrough s.requestThrottle kind node (asksIn s m₀ actions)) :
    ∃ earlier m₁ d₁ between, actions = earlier ++ (m₁, .receive d₁) :: between ∧ m₁.now = t ∧
      (after s m₀ earlier).LetsThrough m₁ d₁ kind node := by
  induction actions using List.reverseRecOn with
  | nil => cases ht
  | append_singleton actions x ih =>
    obtain ⟨m, a⟩ := x
    have hbefore : Forward actions := (List.pairwise_append.1 hforward).1
    have hold : t ∈ Ask.letThrough s.requestThrottle kind node (asksIn s m₀ actions) →
        ∃ earlier m₁ d₁ between, actions ++ [(m, a)] = earlier ++ (m₁, .receive d₁) :: between ∧ m₁.now = t ∧
          (after s m₀ earlier).LetsThrough m₁ d₁ kind node := by
      intro ht
      obtain ⟨earlier, m₁, d₁, between, rfl, hnow, hlets⟩ := ih hbefore ht
      exact ⟨earlier, m₁, d₁, between ++ [(m, a)], by simp, hnow, hlets⟩
    rw [asksIn_append_singleton] at ht
    cases hask : (after s m₀ actions).actionAsk? m a with
    | none =>
      rw [hask, Option.toList_none, List.append_nil] at ht
      exact hold ht
    | some ask =>
      rw [hask, Option.toList_some] at ht
      rcases Ask.mem_letThrough_append_singleton ht with hmem | ⟨rfl, rfl, rfl, hspaced⟩
      · exact hold hmem
      · cases a with
        | receive d =>
          have hnow : ask.now = m.now := ((after s m₀ actions).decides_receive m d).ask_now hask
          obtain ⟨hremembers, hperiod⟩ := remembers_next s m₀ hforward
          refine ⟨actions, m, d, [], rfl, hnow.symm, ?_, ?_⟩
          · rw [← hnow]
            exact hask
          · rw [hremembers.not_isBlocked_iff, hperiod, ← hnow]
            exact hspaced
        | _ => cases hask

/-- Deliveries that are let through keep a distance. -/
theorem LetsThrough.period_le (h₁ : (after s m₀ earlier).LetsThrough m₁ d₁ kind node)
    (h : (after s m₀ (earlier ++ (m₁, .receive d₁) :: between)).LetsThrough m d kind node)
    (hforward : Forward (earlier ++ (m₁, .receive d₁) :: between ++ [(m, .receive d)])) :
    s.requestThrottle ≤ m.now - m₁.now := by
  obtain ⟨hremembers, hperiod⟩ := remembers_next s m₀ hforward
  have hspaced := hremembers.not_isBlocked_iff.1 h.passes
  rw [hperiod] at hspaced
  exact hspaced m₁.now (h₁.mem (List.pairwise_append.1 hforward).1)

/-- Of a node that was asked for an automatic answer, all that matters for it is when it was asked for an answer of
that kind before: it is blocked for a period behind each request that was let through, and otherwise the answer is
tried, and what can be built of it is what goes out. Any two answers on behalf of one node keep the period, and a probe
is neither answered nor counted. -/
theorem answers_spaced (s : Settings) (m₀ : Moment) (actions : List (Moment × Action)) (m : Moment) (d : Delivery)
    (hforward : Forward (actions ++ [(m, .receive d)])) :
    let c := after s m₀ actions
    (∀ kind node, c.Answers m d kind node → c.isManaged node = true ∧ c.ask? m d = some ⟨m.now, kind, node⟩ ∧
      ∀ earlier m₁ d₁ between, actions = earlier ++ (m₁, .receive d₁) :: between →
        (after s m₀ earlier).Answers m₁ d₁ kind node → s.requestThrottle ≤ m.now - m₁.now) ∧
    (∀ i name p, .sent i name p ∈ (c.receive m d).effects →
      ∃ q ∈ (c.reactionTo m d).requests, ∃ c' m', c.SameSetup c' ∧ .sent i name p ∈ (c'.send m' q).effects) ∧
    (∃ c', c.SameSetup c' ∧ c'.links = c.links ∧ c.receive m d = c'.perform m (c.reactionTo m d) ∧
      ∀ requests, c.reactionTo m d = .answers requests →
        (c.receive m d).effects = (c'.built m requests).flatMap (accepted c.links)) ∧
    (∀ a, c.ask? m d = some a →
      ((∃ t ∈ Ask.letThrough s.requestThrottle a.kind a.node (asksIn s m₀ actions), m.now - t < s.requestThrottle) →
        c.reactionTo m d = .none ∧ (c.receive m d).effects = []) ∧
      ((∀ t ∈ Ask.letThrough s.requestThrottle a.kind a.node (asksIn s m₀ actions), s.requestThrottle ≤ m.now - t) →
        ∃ requests, c.reactionTo m d = .answers requests ∧ ∀ q ∈ requests, q.answer? = some (a.kind, a.node))) ∧
    ∀ r n x, c.open? d = some r → r.data.port = .neighborinfo →
      NeighborInfo.schema.decode? r.data.payload = some n → n.neighbors = [x] → x.nodeId = 0 → x.snr.isZero = true →
      c.ask? m d = none ∧ c.reactionTo m d = .none ∧ (c.receive m d).effects = [] ∧
        (c.receive m d).client.throttle = c.throttle := by
  intro c
  obtain ⟨hremembers, hperiod⟩ := remembers_next s m₀ hforward
  have hdecides := c.decides_receive m d
  refine ⟨fun kind node hanswers => ?_, fun i name p => exists_request_of_sent, ?_, fun a hask => ?_,
    fun r n x hopen hport hn hx hnode hsnr => ?_⟩
  · obtain ⟨hmanaged, hlets⟩ := hanswers.letsThrough
    refine ⟨hmanaged, hlets.asks, ?_⟩
    rintro earlier m₁ d₁ between rfl hanswers₁
    exact hanswers₁.letsThrough.2.period_le hlets hforward
  · obtain ⟨c', hsetup, hlinks, hreceive, hbuilt⟩ := c.receive_eq_perform m d
    refine ⟨c', hsetup, hlinks, hreceive, fun requests hreaction => ?_⟩
    rw [effects_of_answers hreaction, hbuilt, hreaction]
    rfl
  · have hnow := hdecides.ask_now hask
    constructor
    · intro hrecent
      rw [← hperiod, ← hremembers.isBlocked_iff, ← hnow] at hrecent
      have hnone := hdecides.of_isBlocked hask hrecent
      exact ⟨hnone, effects_of_none hnone⟩
    · intro hspaced
      rw [← hperiod, ← hremembers.not_isBlocked_iff, ← hnow] at hspaced
      exact hdecides.of_not_isBlocked hask hspaced
  · obtain ⟨hask, hnone⟩ := probe (m := m) hopen hport hn hx hnode hsnr
    exact ⟨hask, hnone, effects_of_none hnone, hdecides.of_none hask⟩

/-- Of two nodes that ask within the period, the second one is not answered; when it asks again behind the period, it
is. -/
theorem answers_spaced_telemetry :
    let tick (now : Instant) : Moment := ⟨now, 0, fun _ => 0⟩
    let data : Data := { portNumber := Port.telemetry.number, wantResponse := true }
    let d : Delivery := ⟨{ sender := 7, dest := 256, id := 9, body := some (.decoded data) }, none, none, .udp⟩
    let d' : Delivery := ⟨{ sender := 8, dest := 256, id := 9, body := some (.decoded data) }, none, none, .mqtt⟩
    let actions := [(tick 0, .addLink { name := "udp" }), (tick 0, .receive d), (tick 179999, .maintain)]
    let c := after (.ofNode ⟨256⟩) (tick 0) actions
    Forward (actions ++ [(tick 179999, .receive d')]) ∧ Forward (actions ++ [(tick 180000, .receive d')]) ∧
      c.ask? (tick 179999) d' = some ⟨179999, .telemetry, ⟨256⟩⟩ ∧ (c.receive (tick 179999) d').effects = [] ∧
      c.ask? (tick 180000) d' = some ⟨180000, .telemetry, ⟨256⟩⟩ ∧
      ∃ q rest, c.reactionTo (tick 180000) d' = .answers (q :: rest) ∧ q.answer? = some (.telemetry, ⟨256⟩) ∧
        (c.receive (tick 180000) d').effects ≠ [] := by
  intro tick data d d' actions c
  have hsoon : Forward (actions ++ [(tick 179999, .receive d')]) := by
    unfold Forward
    decide
  have hlate : Forward (actions ++ [(tick 180000, .receive d')]) := by
    unfold Forward
    decide
  have hask : c.ask? (tick 179999) d' = some ⟨179999, .telemetry, ⟨256⟩⟩ := by decide +kernel
  have hask' : c.ask? (tick 180000) d' = some ⟨180000, .telemetry, ⟨256⟩⟩ := by decide +kernel
  have hsent : (c.receive (tick 180000) d').effects ≠ [] := by decide +kernel
  obtain ⟨-, -, -, hasks, -⟩ := answers_spaced (.ofNode ⟨256⟩) (tick 0) actions (tick 179999) d' hsoon
  obtain ⟨-, -, ⟨c', -, -, hperform, -⟩, hasks', -⟩ :=
    answers_spaced (.ofNode ⟨256⟩) (tick 0) actions (tick 180000) d' hlate
  obtain ⟨requests, hreaction, hkind⟩ := (hasks' _ hask').2 (by decide +kernel)
  refine ⟨hsoon, hlate, hask, ((hasks _ hask).1 (by decide +kernel)).2, hask', ?_⟩
  cases requests with
  | nil =>
    rw [hperform, hreaction] at hsent
    exact absurd rfl hsent
  | cons q rest => exact ⟨q, rest, hreaction, hkind q List.mem_cons_self, hsent⟩

/-! ### Requests that are left alone -/

/-- An automatic answer went out less than a period ago. -/
def AnsweredLately (s : Settings) (m₀ : Moment) (actions : List (Moment × Action)) (now : Instant)
    (kind : RequestKind) (node : NodeId) : Prop :=
  ∃ earlier m₁ d₁ between, actions = earlier ++ (m₁, .receive d₁) :: between ∧ now - m₁.now < s.requestThrottle ∧
    (after s m₀ earlier).Answers m₁ d₁ kind node ∧
    ∃ i name p, .sent i name p ∈ ((after s m₀ earlier).receive m₁ d₁).effects

theorem LetsThrough.not_within {mid rest : List (Moment × Action)} {m₂ : Moment} {d₂ : Delivery}
    (h₁ : (after s m₀ earlier).LetsThrough m₁ d₁ kind node)
    (h₂ : (after s m₀ (earlier ++ (m₁, .receive d₁) :: mid)).LetsThrough m₂ d₂ kind node)
    (hforward : Forward (earlier ++ (m₁, .receive d₁) :: mid ++ (m₂, .receive d₂) :: rest ++ [(m, a)]))
    (hlt : m.now - m₁.now < s.requestThrottle) : False := by
  have hle : m₂.now ≤ m.now :=
    (List.pairwise_append.1 hforward).2.2 (m₂, .receive d₂) (by simp) (m, a) (List.mem_singleton_self _)
  have hperiod : s.requestThrottle ≤ m₂.now - m₁.now :=
    h₁.period_le h₂ hforward.before.1.until
  exact absurd hlt (Nat.not_lt.2 (hperiod.trans (Nat.sub_le_sub_right hle _)))

/-- At most one delivery within a period is let through. -/
theorem LetsThrough.unique {earlier' between' : List (Moment × Action)} {m₁' : Moment} {d₁' : Delivery}
    (h : (after s m₀ earlier).LetsThrough m₁ d₁ kind node) (h' : (after s m₀ earlier').LetsThrough m₁' d₁' kind node)
    (hsplit : earlier ++ (m₁, .receive d₁) :: between = earlier' ++ (m₁', .receive d₁') :: between')
    (hforward : Forward (earlier ++ (m₁, .receive d₁) :: between ++ [(m, a)]))
    (hlt : m.now - m₁.now < s.requestThrottle) (hlt' : m.now - m₁'.now < s.requestThrottle) :
    earlier = earlier' ∧ m₁ = m₁' ∧ d₁ = d₁' := by
  rcases List.append_eq_append_iff.1 hsplit with ⟨mid, rfl, hmid⟩ | ⟨mid, rfl, hmid⟩
  · cases mid with
    | nil =>
      cases hmid
      exact ⟨by simp, rfl, rfl⟩
    | cons x mid =>
      obtain rfl : (m₁, .receive d₁) = x := (List.cons.inj hmid).1
      rw [hsplit] at hforward
      exact (h.not_within h' hforward hlt).elim
  · cases mid with
    | nil =>
      cases hmid
      exact ⟨by simp, rfl, rfl⟩
    | cons x mid =>
      obtain rfl : (m₁', .receive d₁') = x := (List.cons.inj hmid).1
      exact (h'.not_within h hforward hlt').elim

theorem exists_accepted_iff {links : List Link} {os : List Outgoing} :
    (∃ i name p, .sent i name p ∈ os.flatMap (accepted links)) ↔ os ≠ [] ∧ ∃ l ∈ links, l.fault = none := by
  constructor
  · rintro ⟨i, name, p, h⟩
    obtain ⟨o, ho, hsent⟩ := List.mem_flatMap.1 h
    obtain ⟨-, -, hlink⟩ := exists_of_mem_accepted hsent
    exact ⟨List.ne_nil_of_mem ho, hlink⟩
  · rintro ⟨hne, l, hl, hfault⟩
    obtain ⟨o, ho⟩ := List.exists_mem_of_ne_nil os hne
    obtain ⟨i, hi⟩ := List.mem_iff_getElem?.1 hl
    exact ⟨i, _, _, List.mem_flatMap.2 ⟨o, ho, mem_accepted_iff.2 ⟨i, l, hi, hfault, rfl⟩⟩⟩

theorem LetsThrough.exists_requests (h : c.LetsThrough m d kind node) :
    ∃ requests, c.reactionTo m d = .answers requests ∧ ∀ q ∈ requests, q.answer? = some (kind, node) :=
  (c.decides_receive m d).of_not_isBlocked h.asks h.passes

/-- A delivery that is let through is answered if its answer is built and accepted by a link. -/
theorem LetsThrough.answered_iff (h : c.LetsThrough m d kind node) :
    (c.Answers m d kind node ∧ ∃ i name p, .sent i name p ∈ (c.receive m d).effects) ↔
      c.builtFor m d ≠ [] ∧ ∃ l ∈ c.links, l.fault = none := by
  obtain ⟨requests, hreaction, hkind⟩ := h.exists_requests
  rw [effects_of_answers hreaction, exists_accepted_iff]
  refine ⟨And.right, fun hsent => ⟨?_, hsent⟩⟩
  obtain ⟨c', -, -, -, hbuilt⟩ := c.receive_eq_perform m d
  cases requests with
  | nil =>
    rw [hreaction] at hbuilt
    exact absurd hbuilt hsent.1
  | cons q requests =>
    refine ⟨q, ?_, hkind q List.mem_cons_self⟩
    rw [hreaction]
    exact List.mem_cons_self

/-- A request that the throttle leaves alone comes less than a period behind one that it let through, and behind no
other. Whether an answer went out in that time hangs on that one: whether its answer could be built, and a link
accepted it. -/
theorem silenced_answered_iff (s : Settings) (m₀ : Moment) (actions : List (Moment × Action)) (m : Moment)
    (d : Delivery) (a : Ask) (hforward : Forward (actions ++ [(m, .receive d)]))
    (hask : (after s m₀ actions).ask? m d = some a)
    (hblocked : (after s m₀ actions).throttle.isBlocked a.kind m.now a.node = true) :
    ((after s m₀ actions).receive m d).effects = [] ∧
    ∃ earlier m₁ d₁ between, actions = earlier ++ (m₁, .receive d₁) :: between ∧
      m.now - m₁.now < s.requestThrottle ∧ (after s m₀ earlier).LetsThrough m₁ d₁ a.kind a.node ∧
      (AnsweredLately s m₀ actions m.now a.kind a.node ↔
        (after s m₀ earlier).builtFor m₁ d₁ ≠ [] ∧ ∃ l ∈ (after s m₀ earlier).links, l.fault = none) := by
  obtain ⟨hremembers, hperiod⟩ := remembers_next s m₀ hforward
  have hdecides := (after s m₀ actions).decides_receive m d
  have hnow : a.now = m.now := hdecides.ask_now hask
  refine ⟨effects_of_none (hdecides.of_isBlocked hask (hnow ▸ hblocked)), ?_⟩
  rw [hremembers.isBlocked_iff, hperiod] at hblocked
  obtain ⟨t, ht, hlt⟩ := hblocked
  obtain ⟨earlier, m₁, d₁, between, rfl, rfl, hlets⟩ :=
    exists_letsThrough (List.pairwise_append.1 hforward).1 ht
  refine ⟨earlier, m₁, d₁, between, rfl, hlt, hlets, ?_⟩
  rw [← hlets.answered_iff]
  constructor
  · rintro ⟨earlier', m₁', d₁', between', hsplit, hlt', hanswers, hsent⟩
    -- The delivery that was answered is the one that was let through, as there is no other.
    obtain ⟨rfl, rfl, rfl⟩ := hlets.unique hanswers.letsThrough.2 hsplit hforward hlt hlt'
    exact ⟨hanswers, hsent⟩
  · rintro ⟨hanswers, hsent⟩
    exact ⟨earlier, m₁, d₁, between, rfl, hlt, hanswers, hsent⟩

/-- The second of two requests is left alone, behind the first one. -/
theorem silenced_answered_iff_telemetry :
    let tick (now : Instant) : Moment := ⟨now, 0, fun _ => 0⟩
    let data : Data := { portNumber := Port.telemetry.number, wantResponse := true }
    let d (id : UInt32) : Delivery :=
      ⟨{ sender := 7, dest := 256, id := id, body := some (.decoded data) }, none, none, .udp⟩
    let actions := [(tick 0, .addLink { name := "udp" }), (tick 0, .receive (d 9))]
    let c := after (.ofNode ⟨256⟩) (tick 0) actions
    Forward (actions ++ [(tick 179999, .receive (d 10))]) ∧
      c.ask? (tick 179999) (d 10) = some ⟨179999, .telemetry, ⟨256⟩⟩ ∧
      c.throttle.isBlocked .telemetry 179999 ⟨256⟩ = true ∧ (c.receive (tick 179999) (d 10)).effects = [] := by
  intro tick data d actions c
  have hforward : Forward (actions ++ [(tick 179999, .receive (d 10))]) := by
    unfold Forward
    decide
  have hask : c.ask? (tick 179999) (d 10) = some ⟨179999, .telemetry, ⟨256⟩⟩ := by decide +kernel
  have hblocked : c.throttle.isBlocked .telemetry 179999 ⟨256⟩ = true := by decide +kernel
  exact ⟨hforward, hask, hblocked,
    (silenced_answered_iff (.ofNode ⟨256⟩) (tick 0) actions (tick 179999) (d 10) _ hforward hask hblocked).1⟩

theorem mem_run_of_mem_act {c : Client} {e : Effect} (h : e ∈ ((c.run earlier).client.act m a).effects) :
    e ∈ (c.run (earlier ++ (m, a) :: between)).effects := by
  induction earlier generalizing c with
  | nil => exact List.mem_append_left _ h
  | cons x earlier ih => exact List.mem_append_right _ (ih h)

theorem AnsweredLately.sent {now : Instant} (h : AnsweredLately s m₀ actions now kind node) :
    ((ofSettings s m₀).run actions).effects ≠ [] := by
  obtain ⟨earlier, m₁, d₁, between, rfl, -, -, i, name, p, hsent⟩ := h
  exact List.ne_nil_of_mem (mem_run_of_mem_act (a := .receive d₁) hsent)

/-- A node is asked for measurements of its surroundings, which it has none of, and then for those of its device. The
second request is left alone, and nothing went out on behalf of the node at all. -/
theorem silenced_without_answer :
    let tick (now : Instant) : Moment := ⟨now, 0, fun _ => 0⟩
    let data (payload : Bytes) : Data :=
      { portNumber := Port.telemetry.number, payload := payload, wantResponse := true }
    let d (id : UInt32) (payload : Bytes) : Delivery :=
      ⟨{ sender := 7, dest := 256, id := id, body := some (.decoded (data payload)) }, none, none, .udp⟩
    let actions := [(tick 0, .addLink { name := "udp" }), (tick 0, .receive (d 9 [0x1A, 0]))]
    let c := after (.ofNode ⟨256⟩) (tick 0) actions
    c.ask? (tick 1000) (d 10 []) = some ⟨1000, .telemetry, ⟨256⟩⟩ ∧
      (∃ r, c.open? (d 10 []) = some r ∧ Meaning.ofData (r.envelope 0) 0 r.data = .telemetryRequest {}) ∧
      c.throttle.isBlocked .telemetry 1000 ⟨256⟩ = true ∧ (c.receive (tick 1000) (d 10 [])).effects = [] ∧
      ¬AnsweredLately (.ofNode ⟨256⟩) (tick 0) actions 1000 .telemetry ⟨256⟩ := by
  intro tick data d actions c
  refine ⟨by decide +kernel, ⟨_, rfl, by decide +kernel⟩, by decide +kernel, by decide +kernel, fun h => h.sent ?_⟩
  decide +kernel

end Runs

end Client

end RadioMesh
