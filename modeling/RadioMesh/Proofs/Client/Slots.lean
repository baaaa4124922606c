import RadioMesh.Client.Calls
import RadioMesh.Proofs.Client.Reception
import RadioMesh.Proofs.Store.Expiry
import RadioMesh.Proofs.Traceroute.Slots

/-!
The cooldown of a pair of nodes while several traceroutes between them are under way. What the client stores of the pair
is what the history of its slot says, so calls that are sent keep the cooldown's distance as long as no call that fails
gives back the slot of another.
-/

namespace RadioMesh

/-! ### Slots of a run -/

namespace CallStage

/-- The call has taken the slot. -/
def tookSlot : CallStage → Bool
  | started => false
  | returned (.ok (.rateLimited _)) => false
  | _ => true

/-- The call has given the slot back. -/
def gaveSlot : CallStage → Bool
  | returned (.error _) => true
  | _ => false

end CallStage

/-- What a call does with its slot when it goes from one stage to another. -/
def SlotUse.ofStages (i : Nat) (now : Instant) : CallStage → CallStage → Option SlotUse
  | .started, .acquired => some (.taken i now)
  | .joined (.error _), .returned _ => some (.given i now)
  | _, _ => none

theorem SlotUse.ofStages_self (i : Nat) (now : Instant) (stage : CallStage) : ofStages i now stage stage = none := by
  cases stage with
  | joined result => cases result <;> rfl
  | _ => rfl

/-- What a turn does with the slot of a pair. -/
def Turn.slotUse? (x : Turn) (now : Instant) (calls : Nat → TracerouteCall) (pair : NodeId × NodeId)
    (before after : Nat → CallStage) : Option SlotUse :=
  match x with
  | .call i _ => if (calls i).pair = pair then SlotUse.ofStages i now (before i) (after i) else none
  | _ => none

namespace Client

/-- The uses of a pair's slot, turn by turn. -/
def slotUses (c : Client) (calls : Nat → TracerouteCall) (pair : NodeId × NodeId) (stages : Nat → CallStage) :
    List (Moment × Turn) → List SlotUse
  | [] => []
  | (m, x) :: rest =>
    let s := c.turn m calls stages x
    (x.slotUse? m.now calls pair stages s.value).toList ++ s.client.slotUses calls pair s.value rest

variable {c : Client} {calls : Nat → TracerouteCall} {pair : NodeId × NodeId} {stages : Nat → CallStage}

theorem interleave_append (xs ys : List (Moment × Turn)) : c.interleave calls stages (xs ++ ys) =
    (c.interleave calls stages xs).andThen fun c' stages' => c'.interleave calls stages' ys := by
  induction xs generalizing c stages with
  | nil => rfl
  | cons x xs ih => simp only [List.cons_append, interleave, Step.andThen, ih, List.append_assoc]

theorem interleave_append_singleton (turns : List (Moment × Turn)) (m : Moment) (x : Turn) :
    let s := c.interleave calls stages turns
    let t := s.client.turn m calls s.value x
    c.interleave calls stages (turns ++ [(m, x)]) = ⟨t.client, s.effects ++ t.effects, t.value⟩ := by
  rw [interleave_append]
  show Step.mk _ (_ ++ (_ ++ [])) _ = _
  rw [List.append_nil]
  rfl

theorem slotUses_append_singleton (turns : List (Moment × Turn)) (m : Moment) (x : Turn) :
    let s := c.interleave calls stages turns
    c.slotUses calls pair stages (turns ++ [(m, x)]) = c.slotUses calls pair stages turns ++
      (x.slotUse? m.now calls pair s.value (s.client.turn m calls s.value x).value).toList := by
  induction turns generalizing c stages with
  | nil => simp [slotUses, interleave, Step.still]
  | cons y turns ih => simp [slotUses, interleave, Step.andThen, ih, List.append_assoc]

/-! ### One step -/

/-- What a step of a call can make of the slots, with the stage behind it. -/
inductive SlotStep (c : Client) (now : Instant) (call : TracerouteCall) (stage : CallStage) : Client → CallStage → Prop
  | takes (hstage : stage = .started) (hfree : c.traceroutes.remaining? now call.sender call.target = none) :
    SlotStep c now call stage
      (c.withTraceroutes { c.traceroutes with lastSent := c.traceroutes.lastSent.insert call.pair now }) .acquired
  | gives {e : MeshError} (hstage : stage = .joined (.error e)) :
    SlotStep c now call stage (c.releaseSlot call.sender call.target) (.returned (.error e))
  | leaves {c' : Client} {stage' : CallStage} (hsent : c'.traceroutes.lastSent = c.traceroutes.lastSent)
    (hcooldown : c'.traceroutes.cooldown = c.traceroutes.cooldown) (htook : stage'.tookSlot = stage.tookSlot)
    (hgave : stage'.gaveSlot = stage.gaveSlot) (huse : ∀ i, SlotUse.ofStages i now stage stage' = none) :
    SlotStep c now call stage c' stage'

theorem slotStep_callStep (c : Client) (m : Moment) (call : TracerouteCall) (stage : CallStage) (s : CallStep) :
    c.SlotStep m.now call stage (c.callStep m call stage s).client (c.callStep m call stage s).value := by
  unfold callStep
  split
  · cases hremaining : c.traceroutes.remaining? m.now call.sender call.target with
    | none =>
      simp only [acquireSlot, TracerouteTracker.acquire_eq, hremaining, Except.map]
      exact .takes rfl hremaining
    | some wait =>
      simp only [acquireSlot, TracerouteTracker.acquire_eq, hremaining, Except.map]
      exact .leaves rfl rfl rfl rfl fun _ => rfl
  · split
    · exact .leaves rfl rfl rfl rfl fun _ => rfl
    · next s _ =>
      have hpack : (c.pack m s).1.traceroutes = c.traceroutes := by
        rw [pack]
        split <;> rfl
      split
      · next hpacked =>
        rw [hpacked] at hpack
        exact .leaves (congrArg _ hpack) (congrArg _ hpack) rfl rfl fun _ => rfl
      · next hpacked =>
        rw [hpacked] at hpack
        exact .leaves (congrArg _ hpack) (congrArg _ hpack) rfl rfl fun _ => rfl
  · split
    · dsimp only
      split
      · exact .leaves rfl rfl rfl rfl fun _ => rfl
      · exact .leaves rfl rfl rfl rfl fun _ => rfl
    · exact .leaves rfl rfl rfl rfl fun _ => rfl
  · split
    · exact .leaves rfl rfl rfl rfl fun _ => rfl
    · exact .leaves rfl rfl rfl rfl fun _ => rfl
  · next result =>
    cases result with
    | ok id => exact .leaves rfl rfl rfl rfl fun _ => rfl
    | error e => exact .gives rfl
  · exact .leaves rfl rfl rfl rfl fun i => SlotUse.ofStages_self i m.now stage

/-! ### Turns -/

/-- What the client stores of a pair and how far the calls have come is what the history of the slot says. -/
structure TracksSlot (c : Client) (calls : Nat → TracerouteCall) (pair : NodeId × NodeId) (stages : Nat → CallStage)
    (cooldown : Duration) (start : Option Instant) (uses : List SlotUse) (since : Instant) : Prop where
  fixed : c.traceroutes.cooldown = cooldown
  history : SlotHistory cooldown start uses
  clock : ∀ u ∈ uses, u.now ≤ since
  mine : ∀ u ∈ uses, (calls u.call).pair = pair
  took : ∀ i, (calls i).pair = pair → ((∃ t, .taken i t ∈ uses) ↔ (stages i).tookSlot = true)
  gave : ∀ i, (calls i).pair = pair → ((∃ t, .given i t ∈ uses) ↔ (stages i).gaveSlot = true)
  slot : ∀ now, since ≤ now → c.traceroutes.lastSent.recent? cooldown now pair =
    (SlotUse.since? start uses).filter fun t => now - t < cooldown

namespace TracksSlot

variable {cooldown : Duration} {start : Option Instant} {uses : List SlotUse} {since : Instant} {c' : Client}
  {m : Moment}

theorem later (h : c.TracksSlot calls pair stages cooldown start uses since) {now : Instant} (hle : since ≤ now) :
    c.TracksSlot calls pair stages cooldown start uses now :=
  { h with
    clock := fun u hu => (h.clock u hu).trans hle
    slot := fun now' hnow => h.slot now' (hle.trans hnow) }

/-- What leaves the slot of the pair alone leaves its history alone. -/
theorem of_get? (h : c.TracksSlot calls pair stages cooldown start uses since)
    (hcooldown : c'.traceroutes.cooldown = c.traceroutes.cooldown)
    (hsent : c'.traceroutes.lastSent.get? pair = c.traceroutes.lastSent.get? pair) :
    c'.TracksSlot calls pair stages cooldown start uses since := by
  refine { h with fixed := hcooldown.trans h.fixed, slot := fun now hnow => ?_ }
  rw [← h.slot now hnow, Ledger.recent?, hsent]
  rfl

/-- A sweep drops what counts no more. -/
theorem maintain (h : c.TracksSlot calls pair stages cooldown start uses since) :
    (c.maintain since).TracksSlot calls pair stages cooldown start uses since := by
  obtain ⟨-, hsent⟩ := TracerouteTracker.agreeFrom_iff.1 (c.traceroutes.agreeFrom_purge since)
  rw [h.fixed] at hsent
  exact { h with slot := fun now hnow => (congrFun (hsent now hnow) pair).trans (h.slot now hnow) }

/-- A call of another pair, or one that neither takes nor gives back the slot. -/
theorem of_stage (h : c.TracksSlot calls pair stages cooldown start uses since) {i : Nat} {stage : CallStage}
    (hstage : (calls i).pair = pair → stage.tookSlot = (stages i).tookSlot ∧ stage.gaveSlot = (stages i).gaveSlot) :
    c.TracksSlot calls pair (fun j => if j = i then stage else stages j) cooldown start uses since := by
  refine { h with took := fun j hj => ?_, gave := fun j hj => ?_ }
  · rw [h.took j hj]
    split
    · next hji => rw [(hstage (hji ▸ hj)).1, hji]
    · rfl
  · rw [h.gave j hj]
    split
    · next hji => rw [(hstage (hji ▸ hj)).2, hji]
    · rfl

theorem takes (h : c.TracksSlot calls pair stages cooldown start uses m.now) {i : Nat} (hi : (calls i).pair = pair)
    (hstage : stages i = .started)
    (hfree : c.traceroutes.remaining? m.now (calls i).sender (calls i).target = none) :
    (c.withTraceroutes { c.traceroutes with
      lastSent := c.traceroutes.lastSent.insert (calls i).pair m.now }).TracksSlot calls pair
      (fun j => if j = i then .acquired else stages j) cooldown start (uses ++ [.taken i m.now]) m.now where
  fixed := h.fixed
  history := by
    refine .taken h.history h.clock (fun u hu hcall => ?_) fun t ht => ?_
    · -- A call that has used the slot before is not at its start.
      have hused : (∃ t, SlotUse.taken i t ∈ uses) ∨ ∃ t, SlotUse.given i t ∈ uses := by
        cases u with
        | taken _ t => exact .inl ⟨t, hcall ▸ hu⟩
        | given _ t => exact .inr ⟨t, hcall ▸ hu⟩
      rw [h.took i hi, h.gave i hi, hstage] at hused
      simp [CallStage.tookSlot, CallStage.gaveSlot] at hused
    · rw [TracerouteTracker.remaining?_eq_map, Option.map_eq_none_iff, h.fixed] at hfree
      have hslot := h.slot m.now le_rfl
      rw [← hi] at hslot
      rw [show ((calls i).sender, (calls i).target) = (calls i).pair from rfl, hslot, ht] at hfree
      simpa using hfree
  clock := List.forall_mem_append.2 ⟨h.clock, List.forall_mem_singleton.2 le_rfl⟩
  mine := List.forall_mem_append.2 ⟨h.mine, List.forall_mem_singleton.2 hi⟩
  took j hj := by
    by_cases hji : j = i
    · simp [hji, CallStage.tookSlot]
    · simpa [hji] using h.took j hj
  gave j hj := by
    have hgave := h.gave j hj
    by_cases hji : j = i
    · rw [hji, hstage] at hgave
      simpa [hji, CallStage.gaveSlot] using hgave
    · simpa [hji] using hgave
  slot now _ := by
    show (c.traceroutes.lastSent.insert (calls i).pair m.now).recent? cooldown now pair = _
    rw [Ledger.recent?, hi, Ledger.get?_insert_self, SlotUse.since?_append_taken]

theorem gives (h : c.TracksSlot calls pair stages cooldown start uses m.now) {i : Nat} (hi : (calls i).pair = pair)
    {e : MeshError} (hstage : stages i = .joined (.error e)) :
    (c.releaseSlot (calls i).sender (calls i).target).TracksSlot calls pair
      (fun j => if j = i then .returned (.error e) else stages j) cooldown start (uses ++ [.given i m.now]) m.now where
  fixed := h.fixed
  history := by
    refine .given h.history h.clock ?_ fun t ht => ?_
    · rw [h.took i hi, hstage]
      rfl
    · have hgave := (h.gave i hi).1 ⟨t, ht⟩
      rw [hstage] at hgave
      cases hgave
  clock := List.forall_mem_append.2 ⟨h.clock, List.forall_mem_singleton.2 le_rfl⟩
  mine := List.forall_mem_append.2 ⟨h.mine, List.forall_mem_singleton.2 hi⟩
  took j hj := by
    have htook := h.took j hj
    by_cases hji : j = i
    · rw [hji, hstage] at htook
      simpa [hji, CallStage.tookSlot] using htook
    · simpa [hji] using htook
  gave j hj := by
    by_cases hji : j = i
    · simp [hji, CallStage.gaveSlot]
    · simpa [hji] using h.gave j hj
  slot now _ := by
    show (c.traceroutes.lastSent.erase (calls i).pair).recent? cooldown now pair = _
    rw [Ledger.recent?, hi, Ledger.get?_erase_self, SlotUse.since?_append_given]

/-- One turn, no earlier than the history. -/
theorem turn (h : c.TracksSlot calls pair stages cooldown start uses m.now) (x : Turn) :
    let s := c.turn m calls stages x
    s.client.TracksSlot calls pair s.value cooldown start
      (uses ++ (x.slotUse? m.now calls pair stages s.value).toList) m.now := by
  have hempty : uses = uses ++ (none : Option SlotUse).toList := (List.append_nil uses).symm
  cases x with
  | call i s =>
    have hstep := c.slotStep_callStep m (calls i) (stages i) s
    show (c.callStep m (calls i) (stages i) s).client.TracksSlot calls pair
      (fun j => if j = i then (c.callStep m (calls i) (stages i) s).value else stages j) cooldown start
      (uses ++ (if (calls i).pair = pair then
        SlotUse.ofStages i m.now (stages i) (if i = i then (c.callStep m (calls i) (stages i) s).value else stages i)
        else none).toList) m.now
    rw [if_pos (rfl : i = i)]
    generalize (c.callStep m (calls i) (stages i) s).client = c' at hstep
    generalize (c.callStep m (calls i) (stages i) s).value = stage at hstep
    by_cases hi : (calls i).pair = pair
    · rw [if_pos hi]
      cases hstep with
      | takes hstage hfree =>
        rw [hstage]
        exact h.takes hi hstage hfree
      | gives hstage =>
        rw [hstage]
        exact h.gives hi hstage
      | leaves hsent hcooldown htook hgave huse =>
        rw [huse i, ← hempty]
        exact (h.of_get? hcooldown (by rw [hsent])).of_stage fun _ => ⟨htook, hgave⟩
    · -- The slot of another pair.
      rw [if_neg hi, ← hempty]
      have hpair : pair ≠ (calls i).pair := fun heq => hi heq.symm
      refine of_stage ?_ fun hi' => absurd hi' hi
      cases hstep with
      | takes _ _ => exact h.of_get? rfl (Ledger.get?_insert_of_ne hpair _ _)
      | gives _ => exact h.of_get? rfl (Ledger.get?_erase_of_ne hpair _)
      | leaves hsent hcooldown _ _ _ => exact h.of_get? hcooldown (by rw [hsent])
  | deliver d =>
    show (c.receive m d).client.TracksSlot calls pair stages cooldown start
      (uses ++ (none : Option SlotUse).toList) m.now
    rw [← hempty]
    rcases c.receive_traceroutes m d with ⟨-, hsame⟩ | ⟨_, _, -, -, htaken⟩
    · exact h.of_get? (by rw [hsame]) (by rw [hsame])
    · exact h.of_get? (by rw [htaken]; rfl) (by rw [htaken]; rfl)
  | maintain =>
    show (c.maintain m.now).TracksSlot calls pair stages cooldown start (uses ++ (none : Option SlotUse).toList) m.now
    rw [← hempty]
    exact h.maintain

end TracksSlot

/-! ### Runs -/

/-- A run of calls that all are at their start. -/
theorem tracksSlot_interleave {turns : List (Moment × Turn)}
    (hclock : turns.Pairwise fun x y => x.1.now ≤ y.1.now) {since : Instant} (hsince : ∀ x ∈ turns, x.1.now ≤ since) :
    let s := c.interleave calls (fun _ => .started) turns
    s.client.TracksSlot calls pair s.value c.traceroutes.cooldown (c.traceroutes.lastSent.get? pair)
      (c.slotUses calls pair (fun _ => .started) turns) since := by
  induction turns using List.reverseRecOn generalizing since with
  | nil =>
    exact
      { fixed := rfl
        history := .start
        clock := fun u hu => nomatch hu
        mine := fun u hu => nomatch hu
        took := fun i _ => ⟨fun ⟨_, ht⟩ => (nomatch ht), nofun⟩
        gave := fun i _ => ⟨fun ⟨_, ht⟩ => (nomatch ht), nofun⟩
        slot := fun _ _ => rfl }
  | append_singleton turns x ih =>
    obtain ⟨m, x⟩ := x
    rw [List.pairwise_append] at hclock
    obtain ⟨hbefore, -, hlast⟩ := hclock
    have htracks := (ih hbefore fun y hy => hlast y hy (m, x) (List.mem_singleton_self _)).turn x
    rw [interleave_append_singleton, slotUses_append_singleton]
    exact htracks.later (hsince (m, x) (List.mem_append_right _ (List.mem_singleton_self _)))

/-- A call that fails leaves the slot free for the next one, whoever held it. -/
theorem acquired_of_failed {i j : Nat} {e : MeshError} (hi : (calls i).pair = pair) (hj : (calls j).pair = pair)
    (hfailed : stages i = .joined (.error e)) (hstarted : stages j = .started) (m m' : Moment) :
    (c.interleave calls stages [(m, .call i .conclude), (m', .call j .acquire)]).value j = .acquired := by
  have hne : j ≠ i := by
    rintro rfl
    rw [hstarted] at hfailed
    cases hfailed
  have hfree : (c.releaseSlot (calls i).sender (calls i).target).traceroutes.lastSent.get? (calls j).pair = none := by
    rw [hj, ← hi]
    exact Ledger.get?_erase_self _ _
  have hacquire : ((c.releaseSlot (calls i).sender (calls i).target).callStep m' (calls j) .started .acquire).value =
      .acquired := by
    have hremaining : (c.releaseSlot (calls i).sender (calls i).target).traceroutes.remaining? m'.now
        (calls j).sender (calls j).target = none := by
      rw [TracerouteTracker.remaining?, show ((calls j).sender, (calls j).target) = (calls j).pair from rfl, hfree]
      rfl
    simp only [callStep, acquireSlot, TracerouteTracker.acquire_eq, hremaining, Except.map]
    rfl
  simp only [interleave, turn, Step.andThen, Step.still, hfailed, callStep, concludeTraceroute, if_true, if_neg hne,
    hstarted]
  exact hacquire

/-- Calls between two nodes that are sent took the slot the cooldown apart, if each call that failed gave back the slot
that it took itself; and each does, if it fails before the cooldown is over. The slot that is given back is free for the
next call, whoever held it. -/
theorem traceroutes_spaced (c : Client) (calls : Nat → TracerouteCall) (pair : NodeId × NodeId)
    {turns : List (Moment × Turn)} (hclock : turns.Pairwise fun x y => x.1.now ≤ y.1.now) :
    let s := c.interleave calls (fun _ => .started) turns
    let uses := c.slotUses calls pair (fun _ => .started) turns
    let cooldown := c.traceroutes.cooldown
    (SlotUse.GiveOwn uses → ∀ i j id id' t t', i ≠ j → s.value i = .returned (.ok (.sent id)) →
      s.value j = .returned (.ok (.sent id')) → .taken i t ∈ uses → .taken j t' ∈ uses →
      t + cooldown ≤ t' ∨ t' + cooldown ≤ t) ∧
    (∀ i id, (calls i).pair = pair → s.value i = .returned (.ok (.sent id)) → ∃ t, .taken i t ∈ uses) ∧
    (SlotUse.Prompt cooldown uses → SlotUse.GiveOwn uses) ∧
    ∀ i j e m m', (calls i).pair = pair → (calls j).pair = pair → s.value i = .joined (.error e) →
      s.value j = .started → (c.interleave calls (fun _ => .started)
        (turns ++ [(m, .call i .conclude), (m', .call j .acquire)])).value j = .acquired := by
  intro s uses cooldown
  obtain ⟨since, hsince⟩ : ∃ since, ∀ x ∈ turns, x.1.now ≤ since :=
    ⟨(turns.map (·.1.now)).foldr max 0, fun x hx => List.le_max_of_le (List.mem_map_of_mem hx) le_rfl⟩
  have htracks : s.client.TracksSlot calls pair s.value cooldown (c.traceroutes.lastSent.get? pair) uses since :=
    tracksSlot_interleave hclock hsince
  have hkept : ∀ i id t, s.value i = .returned (.ok (.sent id)) → .taken i t ∈ uses → ∀ t, .given i t ∉ uses := by
    intro i id t hsent htaken t' hgiven
    have hgave := (htracks.gave i (htracks.mine _ htaken)).1 ⟨t', hgiven⟩
    rw [hsent] at hgave
    cases hgave
  refine ⟨fun hown i j id id' t t' hne hi hj hti htj => ?_, fun i id hi hsent => ?_, fun hprompt => ?_,
    fun i j e m m' hi hj hfailed hstarted => ?_⟩
  · exact htracks.history.spaced hown hne hti (hkept i id t hi hti) htj (hkept j id' t' hj htj)
  · rw [htracks.took i hi, hsent]
    rfl
  · exact htracks.history.giveOwn hprompt
  · rw [interleave_append]
    exact acquired_of_failed hi hj hfailed hstarted m m'

/-- The first call fails at once, and the other two take the slot exactly the cooldown apart. -/
theorem traceroutes_spaced_failed :
    let at' : Nat → Nat → CallStep → Moment × Turn := fun now i s => (⟨now, 0, fun _ => 0⟩, .call i s)
    let c := after (.ofNode ⟨256⟩) ⟨0, 0, fun _ => 0⟩ [(⟨0, 0, fun _ => 0⟩, .addLink { name := "udp" })]
    let calls : Nat → TracerouteCall := fun _ => ⟨⟨256⟩, ⟨768⟩, .unencrypted "clear", "note"⟩
    let turns := [at' 0 0 .acquire, at' 0 0 .offer, at' 10 0 (.reply 0 (some (.notConnected "udp"))), at' 10 0 .join,
      at' 10 0 .conclude, at' 20 1 .acquire, at' 20 1 .offer, at' 30 1 (.reply 0 none), at' 30 1 .join,
      at' 30 1 .conclude, at' 40 2 .acquire, at' 30020 3 .acquire, at' 30020 3 .offer, at' 30020 3 (.reply 0 none),
      at' 30020 3 .join, at' 30020 3 .conclude]
    let s := c.interleave calls (fun _ => .started) turns
    let uses := c.slotUses calls (⟨256⟩, ⟨768⟩) (fun _ => .started) turns
    SlotUse.Prompt c.traceroutes.cooldown uses ∧ SlotUse.GiveOwn uses ∧ s.value 1 = .returned (.ok (.sent 2)) ∧
      s.value 3 = .returned (.ok (.sent 3)) ∧ .taken 1 20 ∈ uses ∧ .taken 3 30020 ∈ uses ∧
      (20 + c.traceroutes.cooldown ≤ 30020 ∨ 30020 + c.traceroutes.cooldown ≤ 20) := by
  intro at' c calls turns s uses
  have huses : uses = [.taken 0 0, .given 0 10, .taken 1 20, .taken 3 30020] := by decide +kernel
  have hprompt : SlotUse.Prompt c.traceroutes.cooldown uses := by
    rw [huses, show c.traceroutes.cooldown = 30000 from rfl]
    intro i t t' ht ht'
    obtain ⟨rfl, rfl⟩ : i = 0 ∧ t' = 10 := by simpa using ht'
    obtain rfl : t = 0 := by simpa using ht
    decide
  obtain ⟨hspaced, -, hown, -⟩ := traceroutes_spaced c calls (⟨256⟩, ⟨768⟩)
    (show turns.Pairwise fun x y => x.1.now ≤ y.1.now by decide)
  have h1 : s.value 1 = .returned (.ok (.sent 2)) := by cbv
  have h3 : s.value 3 = .returned (.ok (.sent 3)) := by cbv
  refine ⟨hprompt, hown hprompt, h1, h3, ?_, ?_, hspaced (hown hprompt) 1 3 2 3 20 30020 (by decide) h1 h3 ?_ ?_⟩
  all_goals
    show _ ∈ uses
    rw [huses]
    simp

/-- A call that fails late gives back the slot of the next one, so a third is sent a millisecond behind that. -/
theorem traceroutes_not_spaced :
    let at' : Nat → Nat → CallStep → Moment × Turn := fun now i s => (⟨now, 0, fun _ => 0⟩, .call i s)
    let c := after (.ofNode ⟨256⟩) ⟨0, 0, fun _ => 0⟩ [(⟨0, 0, fun _ => 0⟩, .addLink { name := "udp" })]
    let calls : Nat → TracerouteCall := fun _ => ⟨⟨256⟩, ⟨768⟩, .unencrypted "clear", "note"⟩
    let turns := [at' 0 0 .acquire, at' 0 0 .offer, at' 30000 1 .acquire, at' 30000 1 .offer,
      at' 30000 1 (.reply 0 none), at' 30000 1 .join, at' 30000 1 .conclude,
      at' 30000 0 (.reply 0 (some (.notConnected "udp"))), at' 30000 0 .join, at' 30000 0 .conclude,
      at' 30001 2 .acquire, at' 30001 2 .offer, at' 30001 2 (.reply 0 none), at' 30001 2 .join, at' 30001 2 .conclude]
    let s := c.interleave calls (fun _ => .started) turns
    let uses := c.slotUses calls (⟨256⟩, ⟨768⟩) (fun _ => .started) turns
    turns.Pairwise (fun x y => x.1.now ≤ y.1.now) ∧ c.traceroutes.cooldown = 30000 ∧
      s.value 1 = .returned (.ok (.sent 2)) ∧ s.value 2 = .returned (.ok (.sent 3)) ∧
      uses = [.taken 0 0, .taken 1 30000, .given 0 30000, .taken 2 30001] ∧ ¬SlotUse.GiveOwn uses := by
  intro at' c calls turns s uses
  have huses : uses = [.taken 0 0, .taken 1 30000, .given 0 30000, .taken 2 30001] := by decide +kernel
  refine ⟨by decide, rfl, by cbv, by cbv, huses, fun hown => ?_⟩
  have hlast := hown [.taken 0 0, .taken 1 30000] 0 30000 [.taken 2 30001] huses
  exact absurd hlast (by decide)

end Client

end RadioMesh
