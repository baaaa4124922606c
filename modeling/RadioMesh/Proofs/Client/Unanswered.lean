import RadioMesh.Proofs.Client.TracerouteRequests
import RadioMesh.Proofs.Client.Upkeep

/-!
Requests without an answer. The last request that was sent under an ID has none until an answer under that ID is told,
and whether it has one does not hang on sweeps. It waits as long as no sweep finds it too old, and nothing else waits.
-/

namespace RadioMesh

/-- Every sweep among the actions comes before a request has waited for the whole timeout. -/
def PendingTraceroute.SweptInTime (r : PendingTraceroute) (timeout : Duration) (actions : List (Moment × Action)) :
    Prop :=
  ∀ x ∈ actions, x.2 = .maintain → x.1.now - r.sentAt < timeout

theorem PendingTraceroute.sweptInTime_append_singleton {r : PendingTraceroute} {timeout : Duration}
    {actions : List (Moment × Action)} {m : Moment} {a : Action} :
    r.SweptInTime timeout (actions ++ [(m, a)]) ↔
      r.SweptInTime timeout actions ∧ (a = .maintain → m.now - r.sentAt < timeout) := by
  simp [SweptInTime, or_imp, forall_and]

theorem Effect.answerTold_of_handedOver {effects : List Effect} {id : UInt32} {r : PendingTraceroute}
    (h : (id, r) ∈ handedOver effects) : AnswerTold effects id := by
  obtain ⟨effect, heffect, hhanded⟩ := List.mem_filterMap.1 h
  unfold handed? at hhanded
  split at hhanded
  · next e result =>
    obtain ⟨_, -, hpair⟩ := Option.map_eq_some_iff.1 hhanded
    exact ⟨e, result, heffect, congrArg Prod.fst hpair⟩
  · cases hhanded

theorem Effect.answerTold_withoutPending {effects : List Effect} {id : UInt32} :
    AnswerTold (effects.map withoutPending) id ↔ AnswerTold effects id := by
  constructor
  · rintro ⟨e, result, hevent, hid⟩
    obtain ⟨effect, heffect, hsame⟩ := List.mem_map.1 hevent
    cases effect with
    | event event =>
      cases event with
      | traceroute e' result' =>
        cases hsame
        exact ⟨_, result', heffect, hid⟩
      | _ => cases hsame
    | _ => cases hsame
  · rintro ⟨e, result, hevent, hid⟩
    exact ⟨e, _, List.mem_map_of_mem hevent, hid⟩

namespace Client

open RadioMesh.Action

variable {c c' : Client} {m : Moment} {a : Action} {id : UInt32} {r r' : PendingTraceroute}

/-! ### Steps -/

/-- Only what comes in can be an answer. -/
theorem exists_delivery_of_told (h : Effect.AnswerTold (c.act m a).effects id) :
    ∃ d, a = .receive d ∧ Effect.AnswerTold (c.receive m d).effects id := by
  obtain ⟨e, result, hevent, hid⟩ := h
  by_cases huses : a.UsesStores
  · cases a with
    | receive d => exact ⟨d, rfl, e, result, hevent, hid⟩
    | send q => exact absurd hevent not_mem_send
    | requestTraceroute sender target channel context =>
      have hrequests := c.requests m sender target channel context
      change .event _ ∈ (c.requestTraceroute m sender target channel context).effects at hevent
      generalize c.requestTraceroute m sender target channel context = t at hrequests hevent
      cases hrequests with
      | limited _ => cases hevent
      | sent _ _ _ => exact absurd hevent not_mem_send
      | failed _ _ _ => cases hevent
    | maintain => cases hevent
    | _ => exact huses.elim
  · exact nomatch c.silent_act m huses _ hevent

theorem pending_act_of_told (h : Effect.AnswerTold (c.act m a).effects id) :
    (c.act m a).client.traceroutes.pending.get? id = none := by
  obtain ⟨d, rfl, e, result, hevent, rfl⟩ := exists_delivery_of_told h
  exact (pending_of_told hevent).2

theorem pending_act_of_sent (h : c.sentRequest? m a = some (id, r)) :
    (c.act m a).client.traceroutes.pending.get? id = some r := by
  have hstep := c.tracerouteStep_act m a
  rw [h] at hstep
  generalize (c.act m a).client.traceroutes = t at hstep ⊢
  generalize Effect.handedOver (c.act m a).effects = handed at hstep
  cases hstep with
  | sent _ _ => exact Ledger.get?_insert_self _ _ _

theorem not_mem_map_fst {sent : Option (UInt32 × PendingTraceroute)} (hnew : ∀ r, sent ≠ some (id, r)) :
    id ∉ sent.toList.map (·.1) := by
  intro hmem
  obtain ⟨⟨_, r⟩, hsent, rfl⟩ := List.mem_map.1 hmem
  exact hnew r (Option.mem_toList.1 hsent)

/-- What waits behind an action waited before, unless the action sent it. -/
theorem pending_of_pending_act (hnew : ∀ r, c.sentRequest? m a ≠ some (id, r))
    (hwaits : (c.act m a).client.traceroutes.pending.get? id = some r) : c.traceroutes.pending.get? id = some r := by
  have hstep := c.tracerouteStep_act m a
  generalize (c.act m a).client.traceroutes = t at hstep hwaits
  generalize c.sentRequest? m a = sent at hstep hnew
  generalize Effect.handedOver (c.act m a).effects = handed at hstep
  cases hstep with
  | still _ => exact hwaits
  | @sent _ _ _ _ id' _ _ =>
    have hid : id ≠ id' := fun hid => hnew _ (by rw [hid])
    exact (Ledger.get?_insert_of_ne hid _ _).symm.trans hwaits
  | failed _ _ => exact hwaits
  | told _ id' =>
    change (c.traceroutes.pending.erase id').get? id = some r at hwaits
    by_cases hid : id = id'
    · rw [hid, Ledger.get?_erase_self] at hwaits
      cases hwaits
    · rwa [Ledger.get?_erase_of_ne hid] at hwaits
  | swept _ =>
    change (c.traceroutes.pending.filter _).get? id = some r at hwaits
    rw [Ledger.get?_filter] at hwaits
    exact Option.eq_some_of_filter_eq_some hwaits

/-- An action that neither sends a request under an ID nor tells an answer can only sweep what waits under it. -/
theorem pending_act_iff (hnew : ∀ r, c.sentRequest? m a ≠ some (id, r))
    (htold : ¬Effect.AnswerTold (c.act m a).effects id) :
    (c.act m a).client.traceroutes.pending.get? id = some r ↔
      c.traceroutes.pending.get? id = some r ∧ (a = .maintain → m.now - r.sentAt < c.traceroutes.timeout) := by
  have hstep := c.tracerouteStep_act m a
  constructor
  · intro hwaits
    have hwaited := pending_of_pending_act hnew hwaits
    obtain ⟨-, hkept⟩ := (hstep.waits_iff hwaited (not_mem_map_fst hnew)).1 hwaits
    exact ⟨hwaited, fun ha => Nat.lt_of_not_le fun hlate => hkept ⟨ha, hlate⟩⟩
  · rintro ⟨hwaited, htime⟩
    refine (hstep.waits_iff hwaited (not_mem_map_fst hnew)).2 ⟨fun hhanded => ?_, fun ⟨ha, hlate⟩ => ?_⟩
    · exact htold (Effect.answerTold_of_handedOver hhanded)
    · exact Nat.not_le_of_lt (htime ha) hlate

/-! ### Runs -/

/-- A request is the last one that was sent under an ID in a run, and what came later in the run brought no answer. -/
inductive Unanswered (s : Settings) (m₀ : Moment) (id : UInt32) (r : PendingTraceroute) :
    List (Moment × Action) → List (Moment × Action) → Prop
  | sent {actions : List (Moment × Action)} {m : Moment} {a : Action}
    (hsent : (after s m₀ actions).sentRequest? m a = some (id, r)) :
    Unanswered s m₀ id r (actions ++ [(m, a)]) []
  | still {actions later : List (Moment × Action)} {m : Moment} {a : Action}
    (hbefore : Unanswered s m₀ id r actions later)
    (hnew : ∀ r', (after s m₀ actions).sentRequest? m a ≠ some (id, r'))
    (htold : ¬Effect.AnswerTold ((after s m₀ actions).act m a).effects id) :
    Unanswered s m₀ id r (actions ++ [(m, a)]) (later ++ [(m, a)])

variable {s : Settings} {m₀ : Moment} {actions later : List (Moment × Action)}

theorem sentAt_of_sentRequest? (h : c.sentRequest? m a = some (id, r)) : r.sentAt = m.now := by
  unfold sentRequest? at h
  split at h
  · split at h
    · cases h
      rfl
    · cases h
  · cases h

/-- A request without an answer was sent right before what came later. -/
theorem Unanswered.exists_split (h : Unanswered s m₀ id r actions later) :
    ∃ earlier m a, actions = earlier ++ (m, a) :: later ∧ (after s m₀ earlier).sentRequest? m a = some (id, r) ∧
      r.sentAt = m.now := by
  induction h with
  | @sent earlier m a hsent => exact ⟨earlier, m, a, rfl, hsent, sentAt_of_sentRequest? hsent⟩
  | still _ _ _ ih =>
    obtain ⟨earlier, m, a, rfl, hsent, hsentAt⟩ := ih
    exact ⟨earlier, m, a, List.append_assoc _ _ _, hsent, hsentAt⟩

theorem after_append_singleton (s : Settings) (m₀ : Moment) (actions : List (Moment × Action)) (m : Moment)
    (a : Action) : after s m₀ (actions ++ [(m, a)]) = ((after s m₀ actions).act m a).client :=
  run_append_singleton _ _ _ _

/-- Under its ID, a request without an answer waits if it was swept in time, and nothing else does. -/
theorem Unanswered.pending_iff (h : Unanswered s m₀ id r actions later) :
    (after s m₀ actions).traceroutes.pending.get? id = some r' ↔
      r' = r ∧ r.SweptInTime s.tracerouteTimeout later := by
  induction h with
  | sent hsent =>
    rw [after_append_singleton, pending_act_of_sent hsent, Option.some_inj]
    exact ⟨fun heq => ⟨heq.symm, fun _ hx => nomatch hx⟩, fun h => h.1.symm⟩
  | still _ hnew htold ih =>
    rw [after_append_singleton, pending_act_iff hnew htold, ih, timeout_after,
      PendingTraceroute.sweptInTime_append_singleton, and_assoc]
    exact and_congr_right fun heq => by rw [heq]

/-- What waits is a request without an answer. -/
theorem exists_unanswered (h : (after s m₀ actions).traceroutes.pending.get? id = some r) :
    ∃ later, Unanswered s m₀ id r actions later := by
  induction actions using List.reverseRecOn with
  | nil => cases h
  | append_singleton actions x ih =>
    obtain ⟨m, a⟩ := x
    rw [after_append_singleton] at h
    by_cases hsent : ∃ r', (after s m₀ actions).sentRequest? m a = some (id, r')
    · obtain ⟨r', hsent⟩ := hsent
      cases (pending_act_of_sent hsent).symm.trans h
      exact ⟨[], .sent hsent⟩
    · have hnew := not_exists.1 hsent
      have htold : ¬Effect.AnswerTold ((after s m₀ actions).act m a).effects id := fun htold =>
        nomatch (pending_act_of_told htold).symm.trans h
      obtain ⟨later, hbefore⟩ := ih ((pending_act_iff hnew htold).1 h).1
      exact ⟨later ++ [(m, a)], .still hbefore hnew htold⟩

/-- A request without an answer behind one more action. -/
theorem exists_unanswered_append_singleton : (∃ later, Unanswered s m₀ id r (actions ++ [(m, a)]) later) ↔
    (after s m₀ actions).sentRequest? m a = some (id, r) ∨
      (∃ later, Unanswered s m₀ id r actions later) ∧
        (∀ r', (after s m₀ actions).sentRequest? m a ≠ some (id, r')) ∧
        ¬Effect.AnswerTold ((after s m₀ actions).act m a).effects id := by
  constructor
  · rintro ⟨later, h⟩
    generalize hactions : actions ++ [(m, a)] = extended at h
    cases h with
    | sent hsent =>
      obtain ⟨rfl, hlast⟩ := List.append_inj' hactions rfl
      cases hlast
      exact .inl hsent
    | still hbefore hnew htold =>
      obtain ⟨rfl, hlast⟩ := List.append_inj' hactions rfl
      cases hlast
      exact .inr ⟨⟨_, hbefore⟩, hnew, htold⟩
  · rintro (hsent | ⟨⟨later, hbefore⟩, hnew, htold⟩)
    · exact ⟨[], .sent hsent⟩
    · exact ⟨_, .still hbefore hnew htold⟩

theorem pending_after_iff : (after s m₀ actions).traceroutes.pending.get? id = some r ↔
    ∃ later, Unanswered s m₀ id r actions later ∧ r.SweptInTime s.tracerouteTimeout later := by
  constructor
  · intro h
    obtain ⟨later, hlast⟩ := exists_unanswered h
    exact ⟨later, hlast, (hlast.pending_iff.1 h).2⟩
  · rintro ⟨later, hlast, hswept⟩
    exact hlast.pending_iff.2 ⟨rfl, hswept⟩

/-! ### Without sweeps -/

theorem Alike.sentRequest? (h : c.Alike m.now c') (a : Action) : c'.sentRequest? m a = c.sentRequest? m a := by
  cases a with
  | requestTraceroute sender target channel context =>
    rw [Client.sentRequest?, Client.sentRequest?, (h.requestTraceroute sender target channel context).value]
  | _ => rfl

theorem Alike.answerTold (h : c.Alike m.now c') (a : Action) :
    Effect.AnswerTold (c'.act m a).effects id ↔ Effect.AnswerTold (c.act m a).effects id := by
  rw [← Effect.answerTold_withoutPending, (h.act a).effects, Effect.answerTold_withoutPending]

theorem alike_withoutMaintenance {now : Instant} (s : Settings) (m₀ : Moment) (hforward : Forward actions)
    (hto : ∀ x ∈ actions, x.1.now ≤ now) : (after s m₀ actions).Alike now (after s m₀ (withoutMaintenance actions)) :=
  ((Alike.refl 0 _).run_withoutMaintenance hforward (fun _ _ => Nat.zero_le _) hto (Nat.zero_le now)).1

/-- Whether a request has an answer does not hang on the sweeps. -/
theorem exists_unanswered_withoutMaintenance (hforward : Forward actions) :
    (∃ later, Unanswered s m₀ id r (withoutMaintenance actions) later) ↔
      ∃ later, Unanswered s m₀ id r actions later := by
  induction actions using List.reverseRecOn with
  | nil => exact Iff.rfl
  | append_singleton actions x ih =>
    obtain ⟨m, a⟩ := x
    obtain ⟨hbefore, hto⟩ := hforward.before
    have halike : (after s m₀ actions).Alike m.now (after s m₀ (withoutMaintenance actions)) :=
      alike_withoutMaintenance s m₀ hbefore hto
    rw [exists_unanswered_append_singleton]
    cases hkind : a.isMaintenance with
    | true =>
      have ha : a = .maintain := by
        cases a with
        | maintain => rfl
        | _ => cases hkind
      subst ha
      have hwithout : withoutMaintenance (actions ++ [(m, .maintain)]) = withoutMaintenance actions := by
        simp [withoutMaintenance, hkind]
      have hnone : (after s m₀ actions).sentRequest? m .maintain = none := rfl
      have htold : ¬Effect.AnswerTold ((after s m₀ actions).act m .maintain).effects id := by
        rintro ⟨_, _, hevent, _⟩
        cases hevent
      have hnew : ∀ r', (none : Option (UInt32 × PendingTraceroute)) ≠ some (id, r') := fun r' =>
        (Option.some_ne_none (id, r')).symm
      rw [hwithout, ih hbefore, hnone]
      exact ⟨fun h => .inr ⟨h, hnew, htold⟩, fun h => (h.resolve_left (hnew r)).1⟩
    | false =>
      have hwithout : withoutMaintenance (actions ++ [(m, a)]) = withoutMaintenance actions ++ [(m, a)] := by
        simp [withoutMaintenance, hkind]
      rw [hwithout, exists_unanswered_append_singleton, ih hbefore, halike.sentRequest?, halike.answerTold]

end Client

end RadioMesh
