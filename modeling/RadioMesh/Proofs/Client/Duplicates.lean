import RadioMesh.Proofs.Client.Frame
import RadioMesh.Proofs.Store.Seen

/-!
Which deliveries of a run get past the door. A run's past is the list of its deliveries; `passed` tells from
it alone which of them were let through, and in every state that a run reaches the stored times agree with
it, whatever else the run does.
-/

namespace RadioMesh

/-! ### The deliveries of a run -/

def Delivery.arrival (d : Delivery) (now : Instant) : Arrival :=
  ⟨now, ⟨d.packet.sender⟩, d.packet.id⟩

namespace Action

def arrival? (now : Instant) : Action → Option Arrival
  | .receive d => some (d.arrival now)
  | _ => none

/-- The deliveries among the actions of a run. -/
def arrivals (actions : List (Moment × Action)) : List Arrival :=
  actions.filterMap fun x => x.2.arrival? x.1.now

/-- The clock never goes back. -/
def Forward (actions : List (Moment × Action)) : Prop :=
  actions.Pairwise fun x y => x.1.now ≤ y.1.now

theorem Forward.until {earlier later : List (Moment × Action)} {x : Moment × Action}
    (h : Forward (earlier ++ x :: later)) : Forward (earlier ++ [x]) :=
  h.sublist ((List.Sublist.refl _).append (List.singleton_sublist.2 List.mem_cons_self))

theorem Forward.before {actions : List (Moment × Action)} {x : Moment × Action} (h : Forward (actions ++ [x])) :
    Forward actions ∧ ∀ y ∈ actions, y.1.now ≤ x.1.now := by
  obtain ⟨hbefore, -, hlast⟩ := List.pairwise_append.1 h
  exact ⟨hbefore, fun y hy => hlast y hy x (List.mem_singleton_self x)⟩

/-- What holds at the beginning, stays while time passes, and is kept by each action at its moment, holds behind every
run. -/
theorem Forward.induction {P : List (Moment × Action) → Instant → Prop} (hnil : ∀ now, P [] now)
    (hlater : ∀ {actions now now'}, P actions now → now ≤ now' → P actions now')
    (hstep : ∀ {actions m} a, (∀ x ∈ actions, x.1.now ≤ m.now) → P actions m.now → P (actions ++ [(m, a)]) m.now)
    {actions : List (Moment × Action)} (h : Forward actions) {now : Instant} (hle : ∀ x ∈ actions, x.1.now ≤ now) :
    P actions now := by
  induction actions using List.reverseRecOn generalizing now with
  | nil => exact hnil now
  | append_singleton actions x ih =>
    obtain ⟨hbefore, hle'⟩ := h.before
    exact hlater (hstep x.2 hle' (ih hbefore hle')) (hle x (List.mem_append_right _ (List.mem_singleton_self x)))

theorem arrivals_append (xs ys : List (Moment × Action)) : arrivals (xs ++ ys) = arrivals xs ++ arrivals ys :=
  List.filterMap_append

theorem now_of_mem_arrivals {actions : List (Moment × Action)} {now : Instant} {b : Arrival}
    (h : ∀ x ∈ actions, x.1.now ≤ now) (hb : b ∈ arrivals actions) : b.now ≤ now := by
  obtain ⟨⟨m, a⟩, hx, hb⟩ := List.mem_filterMap.1 hb
  cases a with
  | receive d =>
    rw [← Option.some.inj hb]
    exact h _ hx
  | _ => cases hb

end Action

namespace Arrival

variable {ttl : Duration}

theorem mem_of_mem_passed {arrivals : List Arrival} {b : Arrival} (hb : b ∈ passed ttl arrivals) :
    b ∈ arrivals := by
  induction arrivals using List.reverseRecOn with
  | nil => exact hb
  | append_singleton arrivals a ih =>
    rw [passed_append_singleton, pass] at hb
    split at hb
    · rcases List.mem_append.1 hb with hb | hb
      · exact List.mem_append_left _ (ih hb)
      · exact List.mem_append_right _ hb
    · exact List.mem_append_left _ (ih hb)

theorem mem_passed_append {arrivals : List Arrival} {b : Arrival} (hb : b ∈ passed ttl arrivals)
    (more : List Arrival) : b ∈ passed ttl (arrivals ++ more) := by
  induction more using List.reverseRecOn with
  | nil => rwa [List.append_nil]
  | append_singleton more a ih =>
    rw [← List.append_assoc, passed_append_singleton]
    exact mem_pass_of_mem ih

end Arrival

namespace Client

open RadioMesh.Action

/-! ### Steps -/

theorem enter_fst (c : Client) (now : Instant) (p : MeshPacket) :
    (c.enter now p).1 = true ↔ c.seen.isDuplicate now ⟨p.sender⟩ p.id = false ∧ c.isManaged ⟨p.sender⟩ = false := by
  rw [← SeenPackets.record_fst]
  show (!(c.seen.record now ⟨p.sender⟩ p.id).1 && !c.isManaged ⟨p.sender⟩) = true ↔ _
  rw [Bool.and_eq_true, Bool.not_eq_true', Bool.not_eq_true']

theorem receive_of_not_enter {c : Client} {m : Moment} {d : Delivery}
    (h : (c.enter m.now d.packet).1 = false) : c.receive m d = .still (c.enter m.now d.packet).2 () := by
  show (if (c.enter m.now d.packet).1 = true then _ else Step.still (c.enter m.now d.packet).2 ()) = _
  rw [h, if_neg Bool.false_ne_true]

/-- What is done about a packet that was let in: it is opened, and what it means is reacted to. -/
def handle (c : Client) (m : Moment) (d : Delivery) : Step Unit :=
  match c.open? d with
  | none => .still c ()
  | some r => (c.react m r).1.perform m (c.react m r).2

theorem receive_eq_handle {c : Client} {m : Moment} {d : Delivery} (h : (c.enter m.now d.packet).1 = true) :
    c.receive m d = (c.enter m.now d.packet).2.handle m d := by
  show (if (c.enter m.now d.packet).1 = true then (c.enter m.now d.packet).2.handle m d else _) = _
  rw [if_pos h]

theorem receive_of_enter {c : Client} {m : Moment} {d : Delivery} (h : (c.enter m.now d.packet).1 = true)
    {r : Received} (hopen : (c.enter m.now d.packet).2.open? d = some r) :
    c.receive m d = ((c.enter m.now d.packet).2.react m r).1.perform m ((c.enter m.now d.packet).2.react m r).2 := by
  rw [receive_eq_handle h, handle, hopen]

theorem effects_handle_of_event {c : Client} {m : Moment} {d : Delivery} {r : Received} {event : MeshEvent}
    (hopen : c.open? d = some r) (hevent : Meaning.ofData (r.envelope m.epoch) m.epoch r.data = .event event) :
    (c.handle m d).effects = [.event event] := by
  have hreact : c.react m r = (c, .event event) := by
    unfold react
    dsimp only
    rw [hevent]
  rw [handle, hopen]
  dsimp only
  rw [hreact, perform]

theorem seenAfter_ttl (seen : SeenPackets) (now : Instant) (a : Action) : (seenAfter seen now a).ttl = seen.ttl := by
  cases a with
  | receive d => exact SeenPackets.record_ttl _ _ _ _
  | _ => rfl

theorem remembers_seenAfter {seen : SeenPackets} {actions : List (Moment × Action)} {m : Moment}
    (h : seen.Remembers (Arrival.passed seen.ttl (arrivals actions)) m.now) (hle : ∀ x ∈ actions, x.1.now ≤ m.now)
    (a : Action) :
    (seenAfter seen m.now a).Remembers (Arrival.passed seen.ttl (arrivals (actions ++ [(m, a)]))) m.now := by
  rw [arrivals_append]
  cases a with
  | receive d =>
    show (seen.record _ _ _).2.Remembers (Arrival.passed _ (arrivals actions ++ [d.arrival m.now])) _
    rw [Arrival.passed_append_singleton]
    exact h.record (a := d.arrival m.now) fun b hb => now_of_mem_arrivals hle (Arrival.mem_of_mem_passed hb)
  | maintain =>
    show (seen.purge m.now).Remembers (Arrival.passed _ (arrivals actions ++ [])) _
    rw [List.append_nil]
    exact h.purge
  | _ =>
    show seen.Remembers (Arrival.passed _ (arrivals actions ++ [])) _
    rw [List.append_nil]
    exact h

/-! ### Runs -/

theorem run_seen_ttl (s : Settings) (m₀ : Moment) (actions : List (Moment × Action)) :
    (after s m₀ actions).seen.ttl = s.dedupTtl := by
  induction actions using List.reverseRecOn with
  | nil => rfl
  | append_singleton actions x ih =>
    rw [after, run_append_singleton, (act_frame _ _ _).seen, seenAfter_ttl]
    exact ih

theorem run_remembers (s : Settings) (m₀ : Moment) {actions : List (Moment × Action)} (hforward : Forward actions)
    {now : Instant} (hle : ∀ x ∈ actions, x.1.now ≤ now) :
    (after s m₀ actions).seen.Remembers (Arrival.passed s.dedupTtl (arrivals actions)) now := by
  refine hforward.induction (P := fun actions now => (after s m₀ actions).seen.Remembers
    (Arrival.passed s.dedupTtl (arrivals actions)) now) (SeenPackets.remembers_ofTtl s.dedupTtl) (·.later ·)
    (fun {actions m} a hle hstep => ?_) hle
  rw [← run_seen_ttl s m₀ actions] at hstep ⊢
  rw [after, run_append_singleton, (act_frame _ _ _).seen]
  exact remembers_seenAfter hstep hle a

/-! ### Time that passes -/

def maintenance (instants : List Instant) : List (Moment × Action) :=
  instants.map fun now => (⟨now, 0, fun _ => 0⟩, .maintain)

theorem run_maintenance (c : Client) (instants : List Instant) :
    (c.run (maintenance instants)).client = instants.foldl maintain c := by
  induction instants generalizing c with
  | nil => rfl
  | cons now instants ih => exact ih (c.maintain now)

theorem ticks_ascending (start interval since stop : Instant) :
    (ticks start interval since stop).Pairwise (· ≤ ·) := by
  rw [ticks]
  split
  · exact .nil
  · refine List.pairwise_map.2 (List.pairwise_lt_range.imp fun hlt => ?_)
    exact Nat.add_le_add_left (Nat.mul_le_mul_right _ (Nat.add_le_add_left (Nat.le_of_lt hlt) _)) _

theorem within_of_offset {start since stop first offset : Nat} (hfirst : since - start < first)
    (hle : first ≤ offset) (hstop : offset ≤ stop - start) (hpos : 0 < offset) :
    since < start + offset ∧ start + offset ≤ stop := by
  omega

theorem mem_ticks {start interval since stop now : Instant} (h : now ∈ ticks start interval since stop) :
    since < now ∧ now ≤ stop := by
  rw [ticks] at h
  split at h
  · cases h
  · next hpos =>
    obtain ⟨i, hi, rfl⟩ := List.mem_map.1 h
    rw [List.mem_range] at hi
    have hbefore : since - start < ((since - start) / interval + 1) * interval :=
      Nat.lt_mul_of_div_lt (Nat.lt_succ_self _) (Nat.pos_of_ne_zero hpos)
    have hstop := Nat.div_mul_le_self (stop - start) interval
    generalize (since - start) / interval = before at hi hbefore ⊢
    generalize (stop - start) / interval = last at hi hstop
    have hnow : (before + 1) * interval ≤ (before + 1 + i) * interval :=
      Nat.mul_le_mul_right _ (Nat.le_add_right _ _)
    have hlast : (before + 1 + i) * interval ≤ last * interval := Nat.mul_le_mul_right _ (by omega)
    have hpast : 0 < (before + 1 + i) * interval := Nat.mul_pos (by omega) (Nat.pos_of_ne_zero hpos)
    exact within_of_offset hbefore hnow (Nat.le_trans hlast hstop) hpast

/-- A client that maintains itself while time passes does what a run of maintenance does. -/
theorem exists_run_eq_elapse (c : Client) (since stop : Instant) :
    ∃ actions, Forward actions ∧ (∀ x ∈ actions, since < x.1.now ∧ x.1.now ≤ stop) ∧
      (c.run actions).client = c.elapse since stop := by
  unfold elapse
  split
  · exact ⟨[], .nil, fun _ h => absurd h List.not_mem_nil, rfl⟩
  · next start _ =>
    have hrun := c.run_maintenance (ticks start c.maintenanceInterval since stop)
    refine ⟨_, ?_, fun x hx => ?_, hrun⟩
    · exact List.pairwise_map.2 (ticks_ascending start c.maintenanceInterval since stop)
    · obtain ⟨now, hnow, rfl⟩ := List.mem_map.1 hx
      exact mem_ticks hnow

/-! ### The door -/

section Door
variable (s : Settings) (m₀ : Moment) {actions : List (Moment × Action)} {m : Moment} {d : Delivery}

theorem remembers_after (hforward : Forward (actions ++ [(m, .receive d)])) :
    (after s m₀ actions).seen.Remembers (Arrival.passed s.dedupTtl (arrivals actions)) m.now := by
  obtain ⟨hbefore, -, hlast⟩ := List.pairwise_append.1 hforward
  exact run_remembers s m₀ hbefore fun x hx => hlast x hx _ (List.mem_singleton_self _)

theorem enter_iff (hforward : Forward (actions ++ [(m, .receive d)])) :
    ((after s m₀ actions).enter m.now d.packet).1 = true ↔
      (after s m₀ actions).isManaged ⟨d.packet.sender⟩ = false ∧
        (d.arrival m.now).IsNew s.dedupTtl (Arrival.passed s.dedupTtl (arrivals actions)) := by
  have hdup := (remembers_after s m₀ hforward).isDuplicate_iff (a := d.arrival m.now)
  rw [show (after s m₀ actions).seen.ttl = s.dedupTtl from run_seen_ttl s m₀ actions] at hdup
  rw [enter_fst, and_comm, ← Bool.not_eq_true]
  refine and_congr_right fun _ => ?_
  rw [← not_not (a := Arrival.IsNew _ _ _), ← hdup, Bool.not_eq_true]
  rfl

theorem enter_of_effects (c : Client) (h : (c.receive m d).effects ≠ []) :
    (c.enter m.now d.packet).1 = true := by
  by_contra hout
  rw [Bool.not_eq_true] at hout
  rw [receive_of_not_enter hout] at h
  exact h rfl

/-- The owner is told of what a packet means exactly if the packet is let in. -/
theorem receive_event_iff {c : Client} {r : Received} {event : MeshEvent} (hopen : c.open? d = some r)
    (hevent : Meaning.ofData (r.envelope m.epoch) m.epoch r.data = .event event) :
    (c.receive m d).effects = [.event event] ↔ (c.enter m.now d.packet).1 = true := by
  constructor
  · intro heffects
    refine enter_of_effects c ?_
    rw [heffects]
    exact List.cons_ne_nil _ _
  · intro henter
    -- What is remembered of the packets has no part in how one is opened.
    have hopen' : (c.enter m.now d.packet).2.open? d = some r := hopen
    rw [receive_eq_handle henter, effects_handle_of_event hopen' hevent]

theorem mem_passed_of_enter (hforward : Forward (actions ++ [(m, .receive d)]))
    (henter : ((after s m₀ actions).enter m.now d.packet).1 = true) (between : List (Moment × Action)) :
    d.arrival m.now ∈ Arrival.passed s.dedupTtl (arrivals (actions ++ (m, .receive d) :: between)) := by
  have hnew := ((enter_iff s m₀ hforward).1 henter).2
  have hmem : d.arrival m.now ∈ Arrival.passed s.dedupTtl (arrivals actions ++ [d.arrival m.now]) := by
    rw [Arrival.passed_append_singleton]
    exact Arrival.mem_pass_of_isNew hnew
  have hmore := Arrival.mem_passed_append hmem (arrivals between)
  rw [List.append_assoc] at hmore
  rwa [arrivals_append]

end Door

/-- A delivery is let in if its sender is not a node of the bridge and nothing like it was let through lately. One that is
let in is opened and reacted to, whatever came before it, and one that is not is dropped. -/
theorem receive_once (s : Settings) (m₀ : Moment) (actions : List (Moment × Action)) (m : Moment) (d : Delivery)
    (hforward : Forward (actions ++ [(m, .receive d)])) :
    let c := after s m₀ actions
    let a := d.arrival m.now
    let past := Arrival.passed s.dedupTtl (arrivals actions)
    ((c.enter m.now d.packet).1 = true ↔ c.isManaged a.sender = false ∧ a.IsNew s.dedupTtl past) ∧
    ((c.enter m.now d.packet).1 = true → c.receive m d = (c.enter m.now d.packet).2.handle m d) ∧
    ((c.enter m.now d.packet).1 = false → c.receive m d = .still (c.enter m.now d.packet).2 ()) ∧
    (∀ r event, c.open? d = some r → Meaning.ofData (r.envelope m.epoch) m.epoch r.data = .event event →
      ((c.receive m d).effects = [.event event] ↔ c.isManaged a.sender = false ∧ a.IsNew s.dedupTtl past)) ∧
    (c.isManaged a.sender = true → (c.receive m d).effects = []) ∧
    (¬a.IsNew s.dedupTtl past →
      a.id ≠ 0 ∧ ∃ b ∈ past, b.sender = a.sender ∧ b.id = a.id ∧ a.now - b.now < s.dedupTtl) ∧
    (∀ sender, c.seen.seen.get? (SeenPackets.key sender 0) = none) ∧
    ∀ actions₁ m₁ d₁ between, actions = actions₁ ++ (m₁, .receive d₁) :: between →
      d₁.packet.sender = d.packet.sender → d₁.packet.id = d.packet.id → d.packet.id ≠ 0 →
      ((after s m₀ actions₁).receive m₁ d₁).effects ≠ [] → (c.receive m d).effects ≠ [] →
      s.dedupTtl ≤ m.now - m₁.now := by
  intro c a past
  have henter : (c.enter m.now d.packet).1 = true ↔ c.isManaged a.sender = false ∧ a.IsNew s.dedupTtl past :=
    enter_iff s m₀ hforward
  refine ⟨henter, receive_eq_handle, receive_of_not_enter,
    fun r event hopen hevent => (receive_event_iff hopen hevent).trans henter, fun hmanaged => ?_,
    Arrival.not_isNew_iff.1, (remembers_after s m₀ hforward).zero, ?_⟩
  · by_contra heffects
    have hunmanaged := (henter.1 (enter_of_effects c heffects)).1
    rw [hmanaged] at hunmanaged
    cases hunmanaged
  · rintro actions₁ m₁ d₁ between rfl hsender hid hne heffects₁ heffects
    have hpast : d₁.arrival m₁.now ∈ past :=
      mem_passed_of_enter s m₀ hforward.before.1.until (enter_of_effects _ heffects₁) between
    rcases (henter.1 (enter_of_effects c heffects)).2 with hzero | hall
    · exact absurd hzero hne
    · exact hall _ hpast (congrArg NodeId.mk hsender) hid

/-- The same text again within two hours, behind maintenance, is dropped; when the two hours are over, the owner is told
of it once more. -/
theorem receive_once_repeated :
    let tick (now : Instant) : Moment := ⟨now, 0, fun _ => 0⟩
    let data : Data := { portNumber := Port.textMessage.number, payload := [104, 105] }
    let d : Delivery :=
      ⟨{ sender := 7, dest := 0xFFFFFFFF, id := 9, body := some (.decoded data) }, none, none, .udp⟩
    let actions := [(tick 0, .receive d), (tick 5, .receive d), (tick 6, .maintain)]
    let c := after (.ofNode ⟨1⟩) (tick 0) actions
    Forward (actions ++ [(tick 7199999, .receive d)]) ∧ Forward (actions ++ [(tick 7200000, .receive d)]) ∧
      (c.receive (tick 7199999) d).effects = [] ∧
      ∃ r, c.open? d = some r ∧
        (c.receive (tick 7200000) d).effects = [.event (.message (r.envelope 0) "hi" 0)] := by
  intro tick data d actions c
  have hsoon : Forward (actions ++ [(tick 7199999, .receive d)]) := by
    unfold Forward
    decide
  have hlate : Forward (actions ++ [(tick 7200000, .receive d)]) := by
    unfold Forward
    decide
  obtain ⟨henter, -, hstill, -⟩ := receive_once (.ofNode ⟨1⟩) (tick 0) actions (tick 7199999) d hsoon
  have hout : (c.enter (tick 7199999).now d.packet).1 = false :=
    Bool.eq_false_iff.2 fun h => absurd (henter.1 h).2 (by decide)
  obtain ⟨-, -, -, htold, -⟩ := receive_once (.ofNode ⟨1⟩) (tick 0) actions (tick 7200000) d hlate
  obtain ⟨r, hopen, hmeaning⟩ : ∃ r, c.open? d = some r ∧
      Meaning.ofData (r.envelope 0) 0 r.data = .event (.message (r.envelope 0) "hi" 0) :=
    ⟨_, rfl, by decide +kernel⟩
  refine ⟨hsoon, hlate, ?_, r, hopen, (htold r _ hopen hmeaning).2 ⟨by decide +kernel, by decide⟩⟩
  rw [hstill hout]
  rfl

end Client

end RadioMesh
