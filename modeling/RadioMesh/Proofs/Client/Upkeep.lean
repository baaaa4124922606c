import RadioMesh.Proofs.Client.Alike

/-!
When a client looks after its stores makes no difference to what it does. A run does what it does without its sweeps,
as a client that is swept is like the one it was; and so does a call for a traceroute that sweeps come between.
-/

namespace RadioMesh

/-! ### Runs -/

namespace Action

def isMaintenance : Action → Bool
  | .maintain => true
  | _ => false

/-- What happens in a run besides maintenance. -/
def withoutMaintenance (actions : List (Moment × Action)) : List (Moment × Action) :=
  actions.filter fun x => !x.2.isMaintenance

/-- The answers of a run that are not to maintenance. -/
def answersTo (actions : List (Moment × Action)) (answers : List Answer) : List Answer :=
  ((actions.zip answers).filter fun x => !x.1.2.isMaintenance).map (·.2)

variable {m : Moment} {a : Action} {actions : List (Moment × Action)} {answer : Answer} {answers : List Answer}

theorem withoutMaintenance_cons_of_not (h : a.isMaintenance = false) :
    withoutMaintenance ((m, a) :: actions) = (m, a) :: withoutMaintenance actions := by
  simp [withoutMaintenance, h]

theorem answersTo_cons_of_not (h : a.isMaintenance = false) :
    answersTo ((m, a) :: actions) (answer :: answers) = answer :: answersTo actions answers := by
  simp [answersTo, h]

end Action

namespace Move

def isSweep : Move → Bool
  | .maintain => true
  | _ => false

/-- What happens while a call is under way besides sweeps. -/
def withoutSweeps (moves : List (Moment × Move)) : List (Moment × Move) :=
  moves.filter fun x => !x.2.isSweep

/-- Moves in the order of the clock, from one instant to another. -/
def Between (start stop : Instant) (moves : List (Moment × Move)) : Prop :=
  moves.Pairwise (fun x y => x.1.now ≤ y.1.now) ∧ ∀ x ∈ moves, start ≤ x.1.now ∧ x.1.now ≤ stop

theorem Between.cons {start stop : Instant} {m : Moment} {x : Move} {moves : List (Moment × Move)}
    (h : Between start stop ((m, x) :: moves)) : start ≤ m.now ∧ m.now ≤ stop ∧ Between m.now stop moves := by
  obtain ⟨hforward, hbounds⟩ := h
  obtain ⟨hfirst, hrest⟩ := List.pairwise_cons.1 hforward
  obtain ⟨hfrom, hto⟩ := hbounds (m, x) List.mem_cons_self
  exact ⟨hfrom, hto, hrest, fun y hy => ⟨hfirst y hy, (hbounds y (List.mem_cons_of_mem _ hy)).2⟩⟩

theorem withoutSweeps_cons_of_not {m : Moment} {x : Move} {moves : List (Moment × Move)} (h : x.isSweep = false) :
    withoutSweeps ((m, x) :: moves) = (m, x) :: withoutSweeps moves := by
  simp [withoutSweeps, h]

end Move

namespace Client

open RadioMesh.Action RadioMesh.Move

variable {c c' : Client}

theorem run_cons_effects (c : Client) (m : Moment) (a : Action) (actions : List (Moment × Action)) :
    (c.run ((m, a) :: actions)).effects = (c.act m a).effects ++ ((c.act m a).client.run actions).effects := rfl

theorem run_cons_value (c : Client) (m : Moment) (a : Action) (actions : List (Moment × Action)) :
    (c.run ((m, a) :: actions)).value = (c.act m a).value :: ((c.act m a).client.run actions).value := rfl

/-- A run does what it does without its maintenance. -/
theorem Alike.run_withoutMaintenance {since now : Instant} {actions : List (Moment × Action)}
    (h : c.Alike since c') (hforward : Forward actions) (hfrom : ∀ x ∈ actions, since ≤ x.1.now)
    (hto : ∀ x ∈ actions, x.1.now ≤ now) (hle : since ≤ now) :
    (c.run actions).client.Alike now (c'.run (withoutMaintenance actions)).client ∧
      (c'.run (withoutMaintenance actions)).effects.map Effect.withoutPending =
        (c.run actions).effects.map Effect.withoutPending ∧
      (c'.run (withoutMaintenance actions)).value = answersTo actions (c.run actions).value := by
  induction actions generalizing c c' since with
  | nil => exact ⟨h.mono hle, rfl, rfl⟩
  | cons x actions ih =>
    obtain ⟨m, a⟩ := x
    obtain ⟨hfirst, hrest⟩ := List.pairwise_cons.1 hforward
    have hnow : c.Alike m.now c' := h.mono (hfrom (m, a) List.mem_cons_self)
    have hto' : ∀ x ∈ actions, x.1.now ≤ now := fun x hx => hto x (List.mem_cons_of_mem _ hx)
    have hend : m.now ≤ now := hto (m, a) List.mem_cons_self
    cases hkind : a.isMaintenance with
    | true =>
      cases a with
      | maintain => exact ih ((alike_maintain c m.now).symm.trans hnow) hrest hfirst hto' hend
      | _ => cases hkind
    | false =>
      obtain ⟨hclient, heffects, hvalue⟩ := hnow.act a
      obtain ⟨hclient', heffects', hvalue'⟩ := ih hclient hrest hfirst hto' hend
      rw [withoutMaintenance_cons_of_not hkind]
      refine ⟨hclient', ?_, ?_⟩
      · rw [run_cons_effects, run_cons_effects, List.map_append, List.map_append, heffects, heffects']
      · rw [run_cons_value, run_cons_value, answersTo_cons_of_not hkind, hvalue, hvalue']

/-- A call does what it does without the sweeps that come between its steps. -/
theorem Alike.overlap_withoutSweeps {since now : Instant} {call : TracerouteCall} {stage : CallStage}
    {moves : List (Moment × Move)} (h : c.Alike since c') (hmoves : Between since now moves) (hle : since ≤ now) :
    (c.overlap call stage moves).Alike now (c'.overlap call stage (withoutSweeps moves)) := by
  induction moves generalizing c c' stage since with
  | nil => exact .still (h.mono hle) stage
  | cons x moves ih =>
    obtain ⟨m, x⟩ := x
    obtain ⟨hfrom, hend, hrest⟩ := hmoves.cons
    have hnow : c.Alike m.now c' := h.mono hfrom
    cases hkind : x.isSweep with
    | true =>
      cases x with
      | maintain => exact ih ((alike_maintain c m.now).symm.trans hnow) hrest hend
      | _ => cases hkind
    | false =>
      rw [withoutSweeps_cons_of_not hkind]
      exact (hnow.move call stage x).andThen fun stage c c' hc => ih hc hrest hend

/-- The checks of both clients have the same outcome. -/
structure SameChecks (now : Instant) (c c' : Client) : Prop where
  duplicate : ∀ sender id, (c'.seen.record now sender id).1 = (c.seen.record now sender id).1
  passes : ∀ kind node, (c'.throttle.pass kind now node).1 = (c.throttle.pass kind now node).1
  remaining : ∀ sender target, c'.traceroutes.remaining? now sender target = c.traceroutes.remaining? now sender target
  acquires : ∀ sender target, (c'.traceroutes.acquire now sender target).map (fun _ => ()) =
    (c.traceroutes.acquire now sender target).map fun _ => ()
  guarded : ∀ node, c'.isGuarded now node = c.isGuarded now node

/-- Nothing is stored that is too old. -/
structure Swept (now : Instant) (c : Client) : Prop where
  seen : ∀ e ∈ c.seen.seen.entries, now - e.2 < c.seen.ttl
  answered : ∀ kind, ∀ e ∈ (c.throttle.answered kind).entries, now - e.2 < c.throttle.period
  announced : ∀ e ∈ c.nodeInfoSent.entries, now - e.2 < c.nodeInfoGuard
  slots : ∀ e ∈ c.traceroutes.lastSent.entries, now - e.2 < 2 * c.traceroutes.cooldown

theorem Alike.sameChecks {now : Instant} (h : c.Alike now c') : c.SameChecks now c' := by
  refine ⟨fun sender id => (SeenPackets.record_agreeFrom h.seen sender id).1,
    fun kind node => (RequestThrottle.pass_agreeFrom h.throttle kind node).1,
    TracerouteTracker.remaining?_eq h.traceroutes, fun sender target => ?_, h.isGuarded⟩
  rcases TracerouteTracker.acquire_agreeFrom h.traceroutes sender target with
    ⟨wait, hwait, hwait'⟩ | ⟨t, t', ht, ht', -⟩
  · rw [hwait, hwait']
  · rw [ht, ht']
    rfl

theorem swept_maintain (c : Client) (now : Instant) : (c.maintain now).Swept now := by
  refine ⟨fun e he => ?_, fun kind e he => ?_, fun e he => ?_, fun e he => ?_⟩
  · exact of_decide_eq_true (List.mem_filter.1 he).2
  · cases kind with
    | telemetry => exact of_decide_eq_true (List.mem_filter.1 he).2
    | neighborInfo => exact of_decide_eq_true (List.mem_filter.1 he).2
  · exact of_decide_eq_true (List.mem_filter.1 he).2
  · exact of_decide_eq_true (List.mem_filter.1 he).2

theorem alike_run {now : Instant} (c : Client) {xs ys : List (Moment × Action)} (hxs : Forward xs) (hys : Forward ys)
    (hsame : withoutMaintenance xs = withoutMaintenance ys) (hto : ∀ x ∈ xs ++ ys, x.1.now ≤ now) :
    (c.run xs).client.Alike now (c.run ys).client ∧
      (c.run ys).effects.map Effect.withoutPending = (c.run xs).effects.map Effect.withoutPending ∧
      answersTo ys (c.run ys).value = answersTo xs (c.run xs).value := by
  obtain ⟨hx, hxeffects, hxvalue⟩ := (Alike.refl 0 c).run_withoutMaintenance hxs (fun _ _ => Nat.zero_le _)
    (fun x hx => hto x (List.mem_append_left _ hx)) (Nat.zero_le now)
  obtain ⟨hy, hyeffects, hyvalue⟩ := (Alike.refl 0 c).run_withoutMaintenance hys (fun _ _ => Nat.zero_le _)
    (fun x hx => hto x (List.mem_append_right _ hx)) (Nat.zero_le now)
  rw [← hsame] at hy hyeffects hyvalue
  exact ⟨hx.trans hy.symm, hyeffects.symm.trans hxeffects, hyvalue.symm.trans hxvalue⟩

theorem Alike.overlap {since now : Instant} {us vs : List (Moment × Move)} (h : c.Alike since c')
    (call : TracerouteCall) (stage : CallStage) (hus : Between since now us) (hvs : Between since now vs)
    (hsame : withoutSweeps us = withoutSweeps vs) (hle : since ≤ now) :
    (c.overlap call stage us).Alike now (c'.overlap call stage vs) := by
  have hswept : (c.overlap call stage us).Alike now (c'.overlap call stage (withoutSweeps us)) :=
    h.overlap_withoutSweeps hus hle
  rw [hsame] at hswept
  exact hswept.trans ((Alike.refl since c').overlap_withoutSweeps hvs hle).symm

/-- Two runs that differ only in when the client looked after its stores do the same, give the owner the same
answers, and leave clients whose checks have the same outcome at any time from then on. So does a call for a traceroute
behind them, whenever the stores are looked after meanwhile. Right after a sweep nothing is stored that is too old. -/
theorem maintenance_invisible (c : Client) (xs ys : List (Moment × Action)) (hxs : Forward xs) (hys : Forward ys)
    (hsame : withoutMaintenance xs = withoutMaintenance ys) :
    (c.run ys).effects.map Effect.withoutPending = (c.run xs).effects.map Effect.withoutPending ∧
    answersTo ys (c.run ys).value = answersTo xs (c.run xs).value ∧
    (∀ now, (∀ x ∈ xs ++ ys, x.1.now ≤ now) → (c.run xs).client.SameChecks now (c.run ys).client) ∧
    (∀ call us vs start stop, (∀ x ∈ xs ++ ys, x.1.now ≤ start) → start ≤ stop → Between start stop us →
      Between start stop vs → withoutSweeps us = withoutSweeps vs →
      let t := (c.run xs).client.overlap call .started us
      let t' := (c.run ys).client.overlap call .started vs
      t'.effects.map Effect.withoutPending = t.effects.map Effect.withoutPending ∧ t'.value = t.value ∧
        t.client.SameChecks stop t'.client) ∧
    ∀ now, ((c.run xs).client.maintain now).Swept now := by
  -- There is an instant behind both runs, whatever they are.
  obtain ⟨last, hlast⟩ : ∃ last, ∀ x ∈ xs ++ ys, x.1.now ≤ last :=
    ⟨((xs ++ ys).map (·.1.now)).sum, fun x hx => List.single_le_sum (by simp) _ (List.mem_map_of_mem hx)⟩
  obtain ⟨-, heffects, hanswers⟩ := c.alike_run hxs hys hsame hlast
  refine ⟨heffects, hanswers, fun now hto => (c.alike_run hxs hys hsame hto).1.sameChecks, ?_, swept_maintain _⟩
  intro call us vs start stop hto hle hus hvs hmoves
  obtain ⟨hclient, heffects', hvalue⟩ := (c.alike_run hxs hys hsame hto).1.overlap call .started hus hvs hmoves hle
  exact ⟨heffects', hvalue, hclient.sameChecks⟩

/-- A packet is seen, and again behind two sweeps of which the first keeps it and the second does not. -/
theorem maintenance_invisible_seen_twice :
    let tick (now : Instant) : Moment := ⟨now, 0, fun _ => 0⟩
    let d : Delivery := ⟨{ sender := 7, id := 9 }, none, none, .udp⟩
    let c := ofSettings (.ofNode ⟨1⟩) (tick 0)
    let xs := [(tick 0, .receive d), (tick 5, .maintain), (tick 7200000, .maintain), (tick 7200000, .receive d)]
    let ys := [(tick 0, .receive d), (tick 7200000, .receive d)]
    Forward xs ∧ Forward ys ∧ withoutMaintenance xs = withoutMaintenance ys ∧
      (c.run xs).client.SameChecks 7200001 (c.run ys).client ∧
      ((c.run xs).client.maintain 14400000).Swept 14400000 := by
  intro tick d c xs ys
  have hxs : Forward xs := by
    unfold Forward
    decide
  have hys : Forward ys := by
    unfold Forward
    decide
  obtain ⟨-, -, hchecks, -, hswept⟩ := maintenance_invisible c xs ys hxs hys rfl
  exact ⟨hxs, hys, rfl, hchecks 7200001 (by decide), hswept 14400000⟩

end Client

end RadioMesh
