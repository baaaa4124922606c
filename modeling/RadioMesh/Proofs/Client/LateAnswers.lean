import RadioMesh.Proofs.Client.Unanswered

/-!
Answers to traceroutes by the time that their requests have waited. An answer in time is told with its request whenever
the client looks after its stores. A request that has waited for the whole timeout is told as well, unless a sweep came
across it before the answer.
-/

namespace RadioMesh.Client

open RadioMesh.Action

variable {s : Settings} {m₀ m : Moment} {actions later : List (Moment × Action)} {a : Action} {id : UInt32}
  {r : PendingTraceroute}

/-- No sweep is too late for a request that is in time behind it. -/
theorem Unanswered.sweptInTime (h : Unanswered s m₀ id r actions later) (hto : ∀ x ∈ actions, x.1.now ≤ m.now)
    (htime : m.now - r.sentAt < s.tracerouteTimeout) : r.SweptInTime s.tracerouteTimeout later := by
  obtain ⟨earlier, m₁, a, rfl, -⟩ := h.exists_split
  intro x hx _
  have hle : x.1.now ≤ m.now := hto x (List.mem_append_right _ (List.mem_cons_of_mem _ hx))
  exact (Nat.sub_le_sub_right hle r.sentAt).trans_lt htime

/-- In time, it is requests without an answer that wait, whenever there was a sweep. -/
theorem pending_after_iff_of_in_time (hto : ∀ x ∈ actions, x.1.now ≤ m.now)
    (htime : m.now - r.sentAt < s.tracerouteTimeout) :
    (after s m₀ actions).traceroutes.pending.get? id = some r ↔ ∃ later, Unanswered s m₀ id r actions later := by
  rw [pending_after_iff]
  exact exists_congr fun later => and_iff_left_of_imp fun h => h.sweptInTime hto htime

/-- What waits in time behind a run waits behind every run that differs from it only in the sweeps. -/
theorem pending_after_congr {others : List (Moment × Action)} (hactions : Forward (actions ++ [(m, a)]))
    (hothers : Forward (others ++ [(m, a)])) (hsame : withoutMaintenance others = withoutMaintenance actions)
    (htime : m.now - r.sentAt < s.tracerouteTimeout) :
    (after s m₀ others).traceroutes.pending.get? id = some r ↔
      (after s m₀ actions).traceroutes.pending.get? id = some r := by
  obtain ⟨hactions, hto⟩ := hactions.before
  obtain ⟨hothers, hto'⟩ := hothers.before
  rw [pending_after_iff_of_in_time hto htime, pending_after_iff_of_in_time hto' htime,
    ← exists_unanswered_withoutMaintenance hactions, ← exists_unanswered_withoutMaintenance hothers, hsame]

/-- Clients that are alike tell an answer alike but for its request. -/
theorem Alike.told {c c' : Client} (h : c.Alike m.now c') {d : Delivery} {e : Envelope} {result : TracerouteResult}
    (htold : (c.receive m d).effects = [.event (.traceroute e result)]) :
    ∃ result', (c'.receive m d).effects = [.event (.traceroute e result')] ∧
      { result' with pending := none } = { result with pending := none } := by
  have heffects := (h.receive d).effects
  rw [htold] at heffects
  obtain ⟨effect, heffect, hsame⟩ := List.map_eq_singleton_iff.1 heffects
  cases effect with
  | event event =>
    cases event with
    | traceroute e' result' =>
      obtain ⟨rfl, hresult⟩ := MeshEvent.traceroute.inj (Effect.event.inj hsame)
      exact ⟨result', heffect, hresult⟩
    | _ => cases hsame
  | _ => cases hsame

/-- An answer is told with the last request that was sent under its ID if no answer was told since and every sweep
since then came before the request had waited for the whole timeout. So it is told with a request that is in time,
whenever there was a sweep, and the same holds of every run that differs only in the sweeps; one that is late is told
unless there was a sweep since it is. -/
theorem answer_pending_iff_swept (s : Settings) (m₀ : Moment) (actions : List (Moment × Action)) (m : Moment)
    (d : Delivery) (id : UInt32) (hforward : Forward (actions ++ [(m, .receive d)]))
    (hanswer : (after s m₀ actions).AnswersPacket m d id) :
    ∃ e result, ((after s m₀ actions).receive m d).effects = [.event (.traceroute e result)] ∧
      result.requestId = id ∧
      (∀ r, result.pending = some r ↔
        ∃ later, Unanswered s m₀ id r actions later ∧ r.SweptInTime s.tracerouteTimeout later) ∧
      (∀ r later, Unanswered s m₀ id r actions later →
        (m.now - r.sentAt < s.tracerouteTimeout → result.pending = some r) ∧
        (result.pending = none ↔ ∃ x ∈ later, x.2 = .maintain ∧ s.tracerouteTimeout ≤ x.1.now - r.sentAt)) ∧
      ∀ others, Forward (others ++ [(m, .receive d)]) → withoutMaintenance others = withoutMaintenance actions →
        ∃ result', ((after s m₀ others).receive m d).effects = [.event (.traceroute e result')] ∧
          { result' with pending := none } = { result with pending := none } ∧
          ∀ r, m.now - r.sentAt < s.tracerouteTimeout → (result'.pending = some r ↔ result.pending = some r) := by
  obtain ⟨e, result, heffects, rfl⟩ := hanswer.exists_effects
  have hpending := (pending_of_told (heffects ▸ List.mem_singleton_self _)).1
  obtain ⟨hbefore, hto⟩ := hforward.before
  refine ⟨e, result, heffects, rfl, fun r => hpending ▸ pending_after_iff, fun r later hlast => ⟨fun htime => ?_, ?_⟩,
    fun others hothers hsame => ?_⟩
  · rw [hpending]
    exact (pending_after_iff_of_in_time hto htime).2 ⟨later, hlast⟩
  · have hlate : (∃ x ∈ later, x.2 = .maintain ∧ s.tracerouteTimeout ≤ x.1.now - r.sentAt) ↔
        ¬r.SweptInTime s.tracerouteTimeout later := by
      simp [PendingTraceroute.SweptInTime]
    rw [hpending, Option.eq_none_iff_forall_ne_some, hlate]
    exact ⟨fun hnone hswept => hnone r (hlast.pending_iff.2 ⟨rfl, hswept⟩),
      fun hlate r' hwaits => hlate (hlast.pending_iff.1 hwaits).2⟩
  · have halike : (after s m₀ actions).Alike m.now (after s m₀ others) := by
      obtain ⟨hothers, hto'⟩ := hothers.before
      have hothers' := alike_withoutMaintenance s m₀ hothers hto'
      rw [hsame] at hothers'
      exact (alike_withoutMaintenance s m₀ hbefore hto).trans hothers'.symm
    obtain ⟨result', heffects', hresult⟩ := halike.told heffects
    have hid : result'.requestId = result.requestId := congrArg (·.requestId) hresult
    have hpending' := (pending_of_told (heffects' ▸ List.mem_singleton_self _)).1
    rw [hid] at hpending'
    refine ⟨result', heffects', hresult, fun r htime => ?_⟩
    rw [hpending, hpending']
    exact pending_after_congr hforward hothers hsame htime

/-- An answer in the last millisecond, right behind a sweep and without it. -/
theorem answer_pending_iff_swept_last :
    let tick (now : Instant) : Moment := ⟨now, 0, fun _ => 0⟩
    let call : Action := .requestTraceroute ⟨256⟩ ⟨768⟩ (.unencrypted "clear") "note"
    let data : Data := { portNumber := Port.traceroute.number, requestId := 1 }
    let answer : MeshPacket := { sender := 768, dest := 256, id := 9, body := some (.decoded data) }
    let d : Delivery := ⟨answer, some "clear", none, .udp⟩
    let request : PendingTraceroute := ⟨⟨256⟩, ⟨768⟩, "clear", "note", 0⟩
    let calls : List (Moment × Action) := [(tick 0, .addLink { name := "udp" }), (tick 0, call)]
    let swept := calls ++ [(tick 59999, .maintain)]
    Forward (swept ++ [(tick 59999, .receive d)]) ∧
      (after (.ofNode ⟨256⟩) (tick 0) swept).AnswersPacket (tick 59999) d 1 ∧
      ∃ e result result',
        ((after (.ofNode ⟨256⟩) (tick 0) swept).receive (tick 59999) d).effects = [.event (.traceroute e result)] ∧
        ((after (.ofNode ⟨256⟩) (tick 0) calls).receive (tick 59999) d).effects = [.event (.traceroute e result')] ∧
        result.pending = some request ∧ result'.pending = some request := by
  intro tick call data answer d request calls swept
  have hforward : Forward (swept ++ [(tick 59999, .receive d)]) := by
    unfold Forward
    decide
  have hanswer : (after (.ofNode ⟨256⟩) (tick 0) swept).AnswersPacket (tick 59999) d 1 :=
    { enters := by decide +kernel
      id_ne_zero := by decide
      opens := ⟨⟨answer, data, .unencrypted "clear", .none, d.via, d.source⟩, {}, by decide +kernel⟩ }
  obtain ⟨e, result, heffects, -, -, hlast, hothers⟩ :=
    answer_pending_iff_swept (.ofNode ⟨256⟩) (tick 0) swept (tick 59999) d 1 hforward hanswer
  have hsent : Unanswered (.ofNode ⟨256⟩) (tick 0) 1 request calls [] :=
    @Unanswered.sent _ _ _ _ [(tick 0, .addLink { name := "udp" })] _ _ (by decide +kernel)
  have hunanswered : Unanswered (.ofNode ⟨256⟩) (tick 0) 1 request swept [(tick 59999, .maintain)] :=
    hsent.still nofun fun ⟨_, _, hevent, _⟩ => nomatch hevent
  have hpending : result.pending = some request := (hlast request _ hunanswered).1 (by decide)
  obtain ⟨result', heffects', -, hsame⟩ := hothers calls (by unfold Forward; decide) rfl
  exact ⟨hforward, hanswer, e, result, result', heffects, heffects', hpending, (hsame request (by decide)).2 hpending⟩

/-- A request that has waited for the whole timeout is told with an answer, and is not behind a sweep. -/
theorem late_answer_told_by_sweep :
    let tick (now : Instant) : Moment := ⟨now, 0, fun _ => 0⟩
    let call : Action := .requestTraceroute ⟨256⟩ ⟨768⟩ (.unencrypted "clear") "note"
    let data : Data := { portNumber := Port.traceroute.number, requestId := 1 }
    let answer : MeshPacket := { sender := 768, dest := 256, id := 9, body := some (.decoded data) }
    let d : Delivery := ⟨answer, some "clear", none, .udp⟩
    let request : PendingTraceroute := ⟨⟨256⟩, ⟨768⟩, "clear", "note", 0⟩
    let calls : List (Moment × Action) := [(tick 0, .addLink { name := "udp" }), (tick 0, call)]
    let envelope : Envelope := ⟨"clear", none, ⟨768⟩, ⟨256⟩, ⟨768⟩, 0, 9, false, false, false, false⟩
    let event (pending : Option PendingTraceroute) : Effect :=
      .event (.traceroute envelope ⟨1, [], [], [], [0], pending⟩)
    (Settings.ofNode ⟨256⟩).tracerouteTimeout ≤ (tick 60000).now - request.sentAt ∧
      event (some request) ∈ ((after (.ofNode ⟨256⟩) (tick 0) calls).receive (tick 60000) d).effects ∧
      event none ∈
        ((after (.ofNode ⟨256⟩) (tick 0) (calls ++ [(tick 60000, .maintain)])).receive (tick 60000) d).effects := by
  decide +kernel

end RadioMesh.Client
