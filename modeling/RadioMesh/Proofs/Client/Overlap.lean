import RadioMesh.Proofs.Client.CallSteps
import RadioMesh.Proofs.Client.Reception
import RadioMesh.Proofs.Store.Ledger

/-!
A traceroute whose answer comes in while it is under way. The request is noted with the call's last step, so it
is known to those answers alone that come after it.
-/

namespace RadioMesh

/-! ### What the client waits for -/

/-- The request of a call as it is noted. -/
def TracerouteCall.record (call : TracerouteCall) (now : Instant) : PendingTraceroute :=
  ⟨call.sender, call.target, call.channel.name, call.context, now⟩

/-- An answer to the packet with an ID is told. -/
def Effect.AnswerTold (effects : List Effect) (id : UInt32) : Prop :=
  ∃ e result, .event (.traceroute e result) ∈ effects ∧ result.requestId = id

namespace Client

variable {c : Client} {call : TracerouteCall} {stage : CallStage} {m : Moment}

/-- The same requests wait, for as long as before. -/
def SamePending (c c' : Client) : Prop :=
  c'.traceroutes.pending = c.traceroutes.pending ∧ c'.traceroutes.timeout = c.traceroutes.timeout

theorem samePending_acquireSlot {c' : Client} {now : Instant} {sender target : NodeId}
    (h : c.acquireSlot now sender target = .ok c') : c.SamePending c' := by
  obtain ⟨taken, htaken, rfl⟩ := exists_of_acquireSlot h
  unfold TracerouteTracker.acquire at htaken
  split at htaken
  · cases htaken
  · cases htaken
    exact ⟨rfl, rfl⟩

theorem samePending_pack (c : Client) (m : Moment) (s : Submission) : c.SamePending (c.pack m s).1 := by
  rw [pack]
  split
  · exact ⟨rfl, rfl⟩
  · exact ⟨rfl, rfl⟩

/-- What a step of a call can make of the requests that wait: the last step of a packet that was sent notes one,
and no other step changes them. -/
inductive StepNotes (c : Client) (m : Moment) (call : TracerouteCall) (stage : CallStage) (s : CallStep)
    (c' : Client) : Prop
  | noted {id : UInt32} (hstage : stage = .joined (.ok id)) (hstep : s = .conclude)
    (hclient : c' = c.awaitAnswer id (call.record m.now))
  | same (hstep : ∀ id, stage = .joined (.ok id) → s ≠ .conclude) (hclient : c.SamePending c')

theorem stepNotes_callStep (c : Client) (m : Moment) (call : TracerouteCall) (stage : CallStage) (s : CallStep) :
    c.StepNotes m call stage s (c.callStep m call stage s).client := by
  unfold callStep
  split
  · refine .same (fun _ h => nomatch h) ?_
    split
    · exact ⟨rfl, rfl⟩
    · next c' hacquired => exact samePending_acquireSlot hacquired
  · refine .same (fun _ h => nomatch h) ?_
    split
    · exact ⟨rfl, rfl⟩
    · next s _ =>
      have hpack := c.samePending_pack m s
      split
      · next hpacked =>
        rw [hpacked] at hpack
        exact hpack
      · next hpacked =>
        rw [hpacked] at hpack
        exact hpack
  · refine .same (fun _ h => nomatch h) ?_
    split
    · dsimp only
      split
      · exact ⟨rfl, rfl⟩
      · exact ⟨rfl, rfl⟩
    · exact ⟨rfl, rfl⟩
  · refine .same (fun _ h => nomatch h) ?_
    split
    · exact ⟨rfl, rfl⟩
    · exact ⟨rfl, rfl⟩
  · next result =>
    cases result with
    | ok id => exact .noted rfl rfl rfl
    | error e => exact .same (fun _ h => nomatch h) ⟨rfl, rfl⟩
  · next hother => exact .same (fun id hstage hstep => hother _ hstage hstep) ⟨rfl, rfl⟩

theorem event_not_mem_callStep (c : Client) (m : Moment) (call : TracerouteCall) (stage : CallStage) (s : CallStep)
    (event : MeshEvent) : .event event ∉ (c.callStep m call stage s).effects := by
  intro h
  unfold callStep at h
  split at h
  · split at h
    · cases h
    · cases h
  · split at h
    · cases h
    · split at h
      · cases h
      · cases h
  · split at h
    · dsimp only at h
      split at h
      · cases List.mem_singleton.1 h
      · cases h
    · cases h
  · split at h
    · cases h
    · cases h
  · cases h
  · cases h

/-! ### Moves -/

/-- What a move can make of the request that waits under an ID. -/
inductive MoveNotes (c : Client) (m : Moment) (call : TracerouteCall) (stage : CallStage) (x : Move) (id : UInt32) :
    Option PendingTraceroute → Prop
  | noted (hstage : stage = .joined (.ok id)) (hmove : x = .call .conclude) :
    MoveNotes c m call stage x id (some (call.record m.now))
  | told (hmove : ∀ s, x ≠ .call s) (htold : Effect.AnswerTold (c.move m call stage x).effects id) :
    MoveNotes c m call stage x id none
  | swept (hmove : x = .maintain) :
    MoveNotes c m call stage x id ((c.traceroutes.pending.get? id).filter fun record =>
      m.now - record.sentAt < c.traceroutes.timeout)
  | same (hstep : stage = .joined (.ok id) → x ≠ .call .conclude) (hmove : x ≠ .maintain)
    (htold : ¬Effect.AnswerTold (c.move m call stage x).effects id) :
    MoveNotes c m call stage x id (c.traceroutes.pending.get? id)

theorem not_answerTold_callStep (c : Client) (m : Moment) (call : TracerouteCall) (stage : CallStage) (s : CallStep)
    (id : UInt32) : ¬Effect.AnswerTold (c.callStep m call stage s).effects id :=
  fun ⟨_, _, hmem, _⟩ => event_not_mem_callStep c m call stage s _ hmem

theorem effects_move_deliver (c : Client) (m : Moment) (call : TracerouteCall) (stage : CallStage) (d : Delivery) :
    (c.move m call stage (.deliver d)).effects = (c.receive m d).effects :=
  List.append_nil _

theorem moveNotes_callStep (c : Client) (m : Moment) (call : TracerouteCall) (stage : CallStage) (s : CallStep)
    (id : UInt32) : c.MoveNotes m call stage (.call s) id
      ((c.callStep m call stage s).client.traceroutes.pending.get? id) := by
  have hnotes := c.stepNotes_callStep m call stage s
  have htold := not_answerTold_callStep c m call stage s id
  generalize hclient : (c.callStep m call stage s).client = c' at hnotes
  cases hnotes with
  | @noted id' hstage hstep hclient =>
    rw [hclient]
    show c.MoveNotes m call stage _ id ((c.traceroutes.pending.insert id' (call.record m.now)).get? id)
    by_cases hid : id = id'
    · subst hid
      rw [Ledger.get?_insert_self]
      exact .noted hstage (congrArg Move.call hstep)
    · rw [Ledger.get?_insert_of_ne hid]
      refine .same (fun hother _ => hid ?_) Move.noConfusion htold
      rw [hstage] at hother
      cases hother
      rfl
  | same hstep hsame =>
    rw [hsame.1]
    exact .same (fun hstage hconclude => hstep id hstage (Move.call.inj hconclude)) Move.noConfusion htold

theorem moveNotes_deliver (c : Client) (m : Moment) (call : TracerouteCall) (stage : CallStage) (d : Delivery)
    (id : UInt32) : c.MoveNotes m call stage (.deliver d) id
      ((c.receive m d).client.traceroutes.pending.get? id) := by
  have heffects := c.effects_move_deliver m call stage d
  rcases c.receive_traceroutes m d with ⟨hnone, hsame⟩ | ⟨e, result, hevent, -, htaken⟩
  · rw [hsame]
    refine .same (fun _ => Move.noConfusion) Move.noConfusion ?_
    rw [heffects]
    exact fun ⟨e, result, hmem, _⟩ => hnone e result hmem
  · rw [htaken]
    show c.MoveNotes m call stage _ id ((c.traceroutes.pending.erase result.requestId).get? id)
    by_cases hid : id = result.requestId
    · subst hid
      rw [Ledger.get?_erase_self]
      refine .told (fun _ => Move.noConfusion) ?_
      rw [heffects, hevent]
      exact ⟨e, result, List.mem_singleton_self _, rfl⟩
    · rw [Ledger.get?_erase_of_ne hid]
      refine .same (fun _ => Move.noConfusion) Move.noConfusion ?_
      rw [heffects, hevent]
      rintro ⟨e', result', hmem, rfl⟩
      cases List.mem_singleton.1 hmem
      exact hid rfl

theorem moveNotes_move (c : Client) (m : Moment) (call : TracerouteCall) (stage : CallStage) (x : Move)
    (id : UInt32) : c.MoveNotes m call stage x id
      ((c.move m call stage x).client.traceroutes.pending.get? id) := by
  cases x with
  | call s => exact c.moveNotes_callStep m call stage s id
  | deliver d => exact c.moveNotes_deliver m call stage d id
  | maintain =>
    show c.MoveNotes m call stage _ id ((c.traceroutes.pending.filter _).get? id)
    rw [Ledger.get?_filter]
    exact .swept rfl

theorem move_timeout (c : Client) (m : Moment) (call : TracerouteCall) (stage : CallStage) (x : Move) :
    (c.move m call stage x).client.traceroutes.timeout = c.traceroutes.timeout := by
  cases x with
  | call s =>
    show (c.callStep m call stage s).client.traceroutes.timeout = _
    cases c.stepNotes_callStep m call stage s with
    | noted _ _ hclient =>
      rw [hclient]
      rfl
    | same _ hsame => exact hsame.2
  | deliver d =>
    show (c.receive m d).client.traceroutes.timeout = _
    rcases c.receive_traceroutes m d with ⟨-, hsame⟩ | ⟨_, _, -, -, htaken⟩
    · rw [hsame]
    · rw [htaken]
      rfl
  | maintain => rfl

theorem move_returned (c : Client) (m : Moment) (call : TracerouteCall)
    (outcome : Except MeshError TracerouteOutcome) (x : Move) :
    (c.move m call (.returned outcome) x).value = .returned outcome := by
  cases x with
  | call s =>
    show (c.callStep m call (.returned outcome) s).value = _
    rw [callStep_returned]
    rfl
  | deliver d => rfl
  | maintain => rfl

/-! ### Histories -/

variable {id : UInt32} {moves : List (Moment × Move)} {record : PendingTraceroute}

theorem overlap_append_singleton (c : Client) (call : TracerouteCall) (stage : CallStage)
    (moves : List (Moment × Move)) (m : Moment) (x : Move) :
    let s := c.overlap call stage moves
    let t := s.client.move m call s.value x
    c.overlap call stage (moves ++ [(m, x)]) = ⟨t.client, s.effects ++ t.effects, t.value⟩ := by
  rw [overlap_append]
  show Step.mk _ (_ ++ (_ ++ [])) _ = _
  rw [List.append_nil]
  rfl

/-- What moves behind others do to the outside. -/
def effectsAfter (c : Client) (call : TracerouteCall) (earlier later : List (Moment × Move)) : List Effect :=
  let s := c.overlap call .started earlier
  (s.client.overlap call s.value later).effects

theorem effectsAfter_append (c : Client) (call : TracerouteCall) (earlier later more : List (Moment × Move)) :
    c.effectsAfter call earlier (later ++ more) =
      c.effectsAfter call earlier later ++ c.effectsAfter call (earlier ++ later) more := by
  unfold effectsAfter
  dsimp only
  rw [overlap_append, overlap_append]
  rfl

theorem effectsAfter_singleton (c : Client) (call : TracerouteCall) (moves : List (Moment × Move)) (m : Moment)
    (x : Move) : c.effectsAfter call moves [(m, x)] =
      ((c.overlap call .started moves).client.move m call (c.overlap call .started moves).value x).effects :=
  List.append_nil _

/-- The request of a call is noted under an ID: the last step of the call noted it, and since then no answer to the
packet was told and no sweep found the request too old. -/
inductive Noted (c : Client) (call : TracerouteCall) (id : UInt32) :
    List (Moment × Move) → PendingTraceroute → Prop
  | noted {moves : List (Moment × Move)} {m : Moment}
    (hjoined : (c.overlap call .started moves).value = .joined (.ok id)) :
    Noted c call id (moves ++ [(m, .call .conclude)]) (call.record m.now)
  | kept {moves : List (Moment × Move)} {m : Moment} {x : Move} {record : PendingTraceroute}
    (hnoted : Noted c call id moves record)
    (htold : ¬Effect.AnswerTold (c.effectsAfter call moves [(m, x)]) id)
    (hswept : x = .maintain → m.now - record.sentAt < c.traceroutes.timeout) :
    Noted c call id (moves ++ [(m, x)]) record

theorem overlap_timeout (c : Client) (call : TracerouteCall) (stage : CallStage) (moves : List (Moment × Move)) :
    (c.overlap call stage moves).client.traceroutes.timeout = c.traceroutes.timeout := by
  induction moves using List.reverseRecOn with
  | nil => rfl
  | append_singleton moves x ih =>
    rw [overlap_append_singleton]
    exact (move_timeout _ _ _ _ _).trans ih

namespace Noted

/-- A call that noted its request has returned. -/
theorem returned (h : c.Noted call id moves record) :
    ∃ outcome, (c.overlap call .started moves).value = .returned outcome := by
  induction h with
  | noted hjoined =>
    rw [overlap_append_singleton, hjoined]
    exact ⟨_, rfl⟩
  | kept hnoted _ _ ih =>
    obtain ⟨outcome, houtcome⟩ := ih
    rw [overlap_append_singleton, houtcome]
    exact ⟨outcome, move_returned _ _ _ _ _⟩

/-- A noted request waits. -/
theorem get?_eq_some (h : c.Noted call id moves record) :
    (c.overlap call .started moves).client.traceroutes.pending.get? id = some record := by
  induction h with
  | @noted moves m hjoined =>
    rw [overlap_append_singleton, hjoined]
    exact Ledger.get?_insert_self _ _ _
  | @kept moves m x record hnoted htold hswept ih =>
    obtain ⟨outcome, houtcome⟩ := hnoted.returned
    rw [overlap_append_singleton]
    have hnotes := moveNotes_move (c.overlap call .started moves).client m call
      (c.overlap call .started moves).value x id
    generalize Ledger.get? _ id = waiting at hnotes ⊢
    cases hnotes with
    | noted hstage _ =>
      -- The call has returned, so this is not its last step.
      rw [houtcome] at hstage
      cases hstage
    | told _ hanswer =>
      rw [effectsAfter_singleton] at htold
      exact absurd hanswer htold
    | swept hmove =>
      rw [ih, Option.filter_some, overlap_timeout, if_pos (decide_eq_true (hswept hmove))]
    | same _ _ _ => exact ih

end Noted

/-- A request that waits under a new ID was noted. -/
theorem noted_of_get? (hfresh : c.traceroutes.pending.get? id = none)
    (h : (c.overlap call .started moves).client.traceroutes.pending.get? id = some record) :
    c.Noted call id moves record := by
  induction moves using List.reverseRecOn generalizing record with
  | nil =>
    rw [show (c.overlap call .started []).client = c from rfl, hfresh] at h
    cases h
  | append_singleton moves y ih =>
    obtain ⟨m, x⟩ := y
    rw [overlap_append_singleton] at h
    have hnotes := moveNotes_move (c.overlap call .started moves).client m call
      (c.overlap call .started moves).value x id
    dsimp only at h
    generalize Ledger.get? _ id = waiting at hnotes h
    cases hnotes with
    | noted hstage hmove =>
      cases h
      rw [hmove]
      exact .noted hstage
    | told _ _ => cases h
    | swept hmove =>
      rw [Option.filter_eq_some_iff, overlap_timeout] at h
      refine .kept (ih h.1) ?_ fun _ => of_decide_eq_true h.2
      rw [effectsAfter_singleton, hmove]
      exact fun ⟨_, _, hmem, _⟩ => List.not_mem_nil hmem
    | same _ hmove htold =>
      rw [← effectsAfter_singleton] at htold
      exact .kept (ih h) htold fun hx => absurd hx hmove

theorem not_answerTold_append {xs ys : List Effect} (h : ¬Effect.AnswerTold (xs ++ ys) id) :
    ¬Effect.AnswerTold xs id ∧ ¬Effect.AnswerTold ys id :=
  ⟨fun ⟨e, result, hmem, hid⟩ => h ⟨e, result, List.mem_append_left _ hmem, hid⟩,
    fun ⟨e, result, hmem, hid⟩ => h ⟨e, result, List.mem_append_right _ hmem, hid⟩⟩

/-- A request is noted as long as it is in time and no answer was told since. -/
theorem noted_of_in_time {earlier later : List (Moment × Move)} {m₁ : Moment} {now : Instant}
    (hjoined : (c.overlap call .started earlier).value = .joined (.ok id)) (hclock : ∀ x ∈ later, x.1.now ≤ now)
    (htime : now - m₁.now < c.traceroutes.timeout)
    (htold : ¬Effect.AnswerTold (c.effectsAfter call (earlier ++ [(m₁, .call .conclude)]) later) id) :
    c.Noted call id (earlier ++ [(m₁, .call .conclude)] ++ later) (call.record m₁.now) := by
  induction later using List.reverseRecOn with
  | nil =>
    rw [List.append_nil]
    exact .noted hjoined
  | append_singleton later y ih =>
    obtain ⟨m, x⟩ := y
    rw [effectsAfter_append] at htold
    obtain ⟨hbefore, hlast⟩ := not_answerTold_append htold
    rw [← List.append_assoc]
    refine .kept (ih (fun z hz => hclock z (List.mem_append_left _ hz)) hbefore) hlast fun _ => ?_
    -- A sweep in between is not later than `now`, where the request is still in time.
    have hle : m.now ≤ now := hclock (m, x) (List.mem_append_right _ (List.mem_singleton_self _))
    exact Nat.lt_of_le_of_lt (Nat.sub_le_sub_right hle _) htime

/-- Behind a call that has returned, an ID that nothing waits under stays so. -/
theorem overlap_returned {outcome : Except MeshError TracerouteOutcome}
    (hnone : c.traceroutes.pending.get? id = none) (moves : List (Moment × Move)) :
    (c.overlap call (.returned outcome) moves).client.traceroutes.pending.get? id = none := by
  induction moves generalizing c with
  | nil => exact hnone
  | cons y moves ih =>
    have hnotes := moveNotes_move c y.1 call (.returned outcome) y.2 id
    have hstage := move_returned c y.1 call outcome y.2
    show ((c.move y.1 call (.returned outcome) y.2).client.overlap call
      (c.move y.1 call (.returned outcome) y.2).value moves).client.traceroutes.pending.get? id = none
    rw [hstage]
    refine ih ?_
    generalize Ledger.get? _ id = waiting at hnotes ⊢
    cases hnotes with
    | noted hstage' _ => cases hstage'
    | told _ _ => rfl
    | swept _ => rw [hnone]; rfl
    | same _ _ _ => exact hnone

/-! ### Answers -/

/-- A delivery that gets past the door and answers the traceroute with an ID. -/
structure AnswersPacket (c : Client) (m : Moment) (d : Delivery) (id : UInt32) : Prop where
  enters : (c.enter m.now d.packet).1 = true
  id_ne_zero : id ≠ 0
  opens : ∃ r path, c.open? d = some r ∧ r.data.port = .traceroute ∧ r.data.requestId = id ∧
    RouteDiscovery.schema.decode? r.data.payload = some path

theorem AnswersPacket.exists_effects {d : Delivery} (h : c.AnswersPacket m d id) :
    ∃ e result, (c.receive m d).effects = [.event (.traceroute e result)] ∧ result.requestId = id := by
  obtain ⟨r, path, hopen, hport, hid, hpath⟩ := h.opens
  have hopen' : (c.enter m.now d.packet).2.open? d = some r := hopen
  have hne : r.data.requestId ≠ 0 := hid ▸ h.id_ne_zero
  have hmeaning : Meaning.ofData (r.envelope m.epoch) m.epoch r.data = .tracerouteResponse path :=
    (Meaning.ofData_traceroute hport hpath).trans (if_neg hne)
  rw [receive_of_enter h.enters hopen', react, hmeaning]
  exact ⟨_, _, rfl, hid⟩

theorem pending_of_told {e : Envelope} {result : TracerouteResult} {d : Delivery}
    (h : .event (.traceroute e result) ∈ (c.receive m d).effects) :
    result.pending = c.traceroutes.pending.get? result.requestId ∧
      (c.receive m d).client.traceroutes.pending.get? result.requestId = none := by
  rcases c.receive_traceroutes m d with ⟨hnone, -⟩ | ⟨e', result', hevent, hpending, htaken⟩
  · exact absurd h (hnone e result)
  · rw [hevent] at h
    cases List.mem_singleton.1 h
    rw [htaken]
    exact ⟨hpending, Ledger.get?_erase_self _ _⟩

/-- The answer to a traceroute that comes in while the call is under way, or later, is told, with the request
exactly if it was noted by then. The first answer that comes in time once the request was noted tells it; and
once the call has returned, nothing waits under the answer's ID any more, whatever follows. -/
theorem traceroute_answer_pending_iff (c : Client) (call : TracerouteCall) (moves : List (Moment × Move))
    (m : Moment) (d : Delivery) (id : UInt32)
    (hanswer : (c.overlap call .started moves).client.AnswersPacket m d id) :
    ∃ e result, ((c.overlap call .started moves).client.receive m d).effects = [.event (.traceroute e result)] ∧
      result.requestId = id ∧
      (c.traceroutes.pending.get? id = none →
        ∀ record, result.pending = some record ↔ c.Noted call id moves record) ∧
      (∀ earlier m₁ later, moves = earlier ++ [(m₁, .call .conclude)] ++ later →
        (c.overlap call .started earlier).value = .joined (.ok id) →
        (∀ x ∈ later, x.1.now ≤ m.now) → m.now - m₁.now < c.traceroutes.timeout →
        ¬Effect.AnswerTold (c.effectsAfter call (earlier ++ [(m₁, .call .conclude)]) later) id →
        result.pending = some (call.record m₁.now)) ∧
      ∀ more, more = [] ∨ (∃ outcome, (c.overlap call .started moves).value = .returned outcome) →
        (c.overlap call .started (moves ++ (m, .deliver d) :: more)).client.traceroutes.pending.get? id = none := by
  obtain ⟨e, result, heffects, rfl⟩ := hanswer.exists_effects
  obtain ⟨hpending, hnone⟩ := pending_of_told (heffects ▸ List.mem_singleton_self _)
  refine ⟨e, result, heffects, rfl, fun hfresh record => ?_,
    fun earlier m₁ later hmoves hjoined hclock htime htold => ?_, fun more hmore => ?_⟩
  · rw [hpending]
    exact ⟨noted_of_get? hfresh, Noted.get?_eq_some⟩
  · rw [hpending, hmoves]
    exact (noted_of_in_time hjoined hclock htime htold).get?_eq_some
  · rw [overlap_append]
    rcases hmore with rfl | ⟨outcome, houtcome⟩
    · exact hnone
    · show (((c.overlap call .started moves).client.receive m d).client.overlap call
        (c.overlap call .started moves).value more).client.traceroutes.pending.get? result.requestId = none
      rw [houtcome]
      exact overlap_returned hnone more

/-- Two links, and the answer comes in behind the call's last step. -/
theorem traceroute_answer_pending_iff_returned :
    let m : Moment := ⟨0, 0, fun _ => 0⟩
    let c := after (.ofNode ⟨256⟩) m [(m, .addLink { name := "mqtt" }), (m, .addLink { name := "udp" })]
    let call : TracerouteCall := ⟨⟨256⟩, ⟨768⟩, .unencrypted "clear", "note"⟩
    let moves := CallStep.moves m [.acquire, .offer, .reply 1 none, .reply 0 none, .join, .conclude]
    let data : Data := { portNumber := Port.traceroute.number, requestId := 1 }
    let answer : MeshPacket := { sender := 768, dest := 256, id := 9, body := some (.decoded data) }
    let d : Delivery := ⟨answer, some "clear", none, .udp⟩
    ∃ e result, ((c.overlap call .started moves).client.receive m d).effects = [.event (.traceroute e result)] ∧
      result.requestId = 1 ∧ result.pending = some (call.record m.now) ∧
      (c.overlap call .started (moves ++ [(m, .deliver d)])).client.traceroutes.pending.get? 1 = none := by
  intro m c call moves data answer d
  have hanswer : (c.overlap call .started moves).client.AnswersPacket m d 1 :=
    { enters := by decide +kernel
      id_ne_zero := by decide
      opens := ⟨⟨answer, data, .unencrypted "clear", .none, d.via, d.source⟩, {}, by decide +kernel⟩ }
  obtain ⟨e, result, heffects, hid, -, hfirst, hnone⟩ := traceroute_answer_pending_iff c call moves m d 1 hanswer
  have hjoined : (c.overlap call .started
      (CallStep.moves m [.acquire, .offer, .reply 1 none, .reply 0 none, .join])).value = .joined (.ok 1) := by
    cbv
  refine ⟨e, result, heffects, hid, hfirst _ m [] rfl hjoined ?_ (by decide) ?_, hnone [] (.inl rfl)⟩
  · intro x hx
    cases hx
  · rintro ⟨_, _, htold, _⟩
    cases htold

/-- An answer that comes in while one of two links has accepted the packet and the other has not replied does not
tell the request, which is noted behind it and waits on. -/
theorem traceroute_answer_under_way :
    let m : Moment := ⟨0, 0, fun _ => 0⟩
    let c := after (.ofNode ⟨256⟩) m [(m, .addLink { name := "mqtt" }), (m, .addLink { name := "udp" })]
    let call : TracerouteCall := ⟨⟨256⟩, ⟨768⟩, .unencrypted "clear", "note"⟩
    let moves := CallStep.moves m [.acquire, .offer, .reply 1 none]
    let more := CallStep.moves m [.reply 0 none, .join, .conclude]
    let data : Data := { portNumber := Port.traceroute.number, requestId := 1 }
    let answer : MeshPacket := { sender := 768, dest := 256, id := 9, body := some (.decoded data) }
    let d : Delivery := ⟨answer, some "clear", none, .udp⟩
    (∃ p, .sent 1 "clear" p ∈ (c.overlap call .started moves).effects ∧ p.id = 1) ∧
      (∃ e result, .event (.traceroute e result) ∈ ((c.overlap call .started moves).client.receive m d).effects ∧
        result.requestId = 1 ∧ result.pending = none) ∧
      (c.overlap call .started (moves ++ (m, .deliver d) :: more)).client.traceroutes.pending.get? 1 =
        some (call.record m.now) := by
  intro m c call moves more data answer d
  let p : MeshPacket := { sender := 256, dest := 768, channel := 121, id := 1, hopLimit := 3, hopStart := 3 }
  let e : Envelope := ⟨"clear", none, ⟨768⟩, ⟨256⟩, ⟨768⟩, 0, 9, false, false, false, false⟩
  refine ⟨⟨{ p with priority := 64, body := some (.encrypted [8, 70, 24, 1, 72, 3]) }, ?_, rfl⟩,
    ⟨e, ⟨1, [], [], [], [0], none⟩, ?_, rfl, rfl⟩, ?_⟩
  · decide +kernel
  · decide +kernel
  · decide +kernel

end Client

end RadioMesh
