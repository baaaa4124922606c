import RadioMesh.Proofs.Store.Ledger
import RadioMesh.Store.Seen
import RadioMesh.Store.Throttle
import RadioMesh.Traceroute.Tracker

/-!
Stores that forget. A record counts for a while after it was made, and checks ask for records that still count.
Two stores with the same records that count answer every later check alike, and a sweep leaves those records as they
are as long as it keeps records for no shorter time than they count.
-/

namespace RadioMesh

/-- From an instant on, two states look the same. -/
def AgreeFrom {α β : Type} (view : α → Instant → β) (since : Instant) (a a' : α) : Prop :=
  ∀ now, since ≤ now → view a' now = view a now

namespace AgreeFrom

variable {α β : Type} {view : α → Instant → β} {since later : Instant} {a a' a'' : α}

theorem refl (since : Instant) (a : α) : AgreeFrom view since a a := fun _ _ => rfl

theorem symm (h : AgreeFrom view since a a') : AgreeFrom view since a' a := fun now hnow => (h now hnow).symm

theorem trans (h : AgreeFrom view since a a') (h' : AgreeFrom view since a' a'') : AgreeFrom view since a a'' :=
  fun now hnow => (h' now hnow).trans (h now hnow)

theorem mono (h : AgreeFrom view since a a') (hle : since ≤ later) : AgreeFrom view later a a' :=
  fun now hnow => h now (hle.trans hnow)

theorem now (h : AgreeFrom view since a a') : view a' since = view a since := h since le_rfl

end AgreeFrom

/-! ### Records that count -/

namespace Ledger

variable {κ : Type} [DecidableEq κ] {limit : Duration} {since : Instant} {l l' : Ledger κ Instant}

/-- What was recorded less than `limit` ago. -/
def recent? (limit : Duration) (l : Ledger κ Instant) (now : Instant) (k : κ) : Option Instant :=
  (l.get? k).filter fun stamp => now - stamp < limit

theorem any_get? (limit : Duration) (l : Ledger κ Instant) (now : Instant) (k : κ) :
    (l.get? k).any (fun stamp => now - stamp < limit) = (l.recent? limit now k).isSome := by
  unfold recent?
  cases l.get? k with
  | none => rfl
  | some stamp => by_cases h : now - stamp < limit <;> simp [h]

theorem agreeFrom_insert (h : AgreeFrom (recent? limit) since l l') (k : κ) (stamp : Instant) :
    AgreeFrom (recent? limit) since (l.insert k stamp) (l'.insert k stamp) := by
  intro now hnow
  funext k'
  have hrest := congrFun (h now hnow) k'
  unfold recent? at hrest ⊢
  by_cases hk : k' = k
  · simp [hk]
  · rw [get?_insert_of_ne hk, get?_insert_of_ne hk, hrest]

theorem agreeFrom_erase (h : AgreeFrom (recent? limit) since l l') (k : κ) :
    AgreeFrom (recent? limit) since (l.erase k) (l'.erase k) := by
  intro now hnow
  funext k'
  have hrest := congrFun (h now hnow) k'
  unfold recent? at hrest ⊢
  by_cases hk : k' = k
  · simp [hk]
  · rw [get?_erase_of_ne hk, get?_erase_of_ne hk, hrest]

/-- What a sweep drops counts no more, then or later. -/
theorem agreeFrom_sweep (l : Ledger κ Instant) {keep : Duration} (hkeep : limit ≤ keep) (since : Instant) :
    AgreeFrom (recent? limit) since l (l.filter fun _ stamp => since - stamp < keep) := by
  intro now hnow
  funext k
  unfold recent?
  rw [get?_filter]
  cases l.get? k with
  | none => rfl
  | some stamp =>
    by_cases hkept : since - stamp < keep
    · simp only [Option.filter_some, hkept, decide_true, if_true]
    · have hage : since - stamp ≤ now - stamp := Nat.sub_le_sub_right hnow stamp
      have hold : ¬now - stamp < limit := fun hlt => hkept (hage.trans_lt (hlt.trans_le hkeep))
      simp [Option.filter_some, hkept, hold]

end Ledger

/-! ### Packets that were seen -/

namespace SeenPackets

variable {since : Instant} {s s' : SeenPackets}

/-- The packets that count as seen, and how long they do. -/
def view (s : SeenPackets) (now : Instant) : Duration × (UInt64 → Option Instant) :=
  (s.ttl, s.seen.recent? s.ttl now)

theorem agreeFrom_iff : AgreeFrom view since s s' ↔
    s'.ttl = s.ttl ∧ AgreeFrom (Ledger.recent? s.ttl) since s.seen s'.seen := by
  constructor
  · intro h
    have httl : s'.ttl = s.ttl := congrArg Prod.fst h.now
    refine ⟨httl, fun now hnow => ?_⟩
    have hseen : s'.seen.recent? s'.ttl now = s.seen.recent? s.ttl now := congrArg Prod.snd (h now hnow)
    rwa [httl] at hseen
  · rintro ⟨httl, hseen⟩ now hnow
    unfold view
    rw [httl, hseen now hnow]

theorem agreeFrom_purge (s : SeenPackets) (now : Instant) : AgreeFrom view now s (s.purge now) :=
  agreeFrom_iff.2 ⟨rfl, Ledger.agreeFrom_sweep s.seen le_rfl now⟩

theorem isDuplicate_eq (h : AgreeFrom view since s s') (sender : NodeId) (id : UInt32) :
    s'.isDuplicate since sender id = s.isDuplicate since sender id := by
  obtain ⟨httl, hseen⟩ := agreeFrom_iff.1 h
  unfold isDuplicate isFresh
  rw [httl, Ledger.any_get?, Ledger.any_get?, hseen.now]

theorem record_agreeFrom (h : AgreeFrom view since s s') (sender : NodeId) (id : UInt32) :
    (s'.record since sender id).1 = (s.record since sender id).1 ∧
      AgreeFrom view since (s.record since sender id).2 (s'.record since sender id).2 := by
  unfold record
  rw [isDuplicate_eq h]
  split_ifs
  · exact ⟨rfl, h⟩
  · exact ⟨rfl, h⟩
  · obtain ⟨httl, hseen⟩ := agreeFrom_iff.1 h
    exact ⟨rfl, agreeFrom_iff.2 ⟨httl, Ledger.agreeFrom_insert hseen _ _⟩⟩

end SeenPackets

/-! ### Answers that are spaced -/

namespace RequestThrottle

variable {since : Instant} {t t' : RequestThrottle}

/-- The periods that have not passed, and how long they are. -/
def view (t : RequestThrottle) (now : Instant) : Duration × (RequestKind → NodeId → Option Instant) :=
  (t.period, fun kind => (t.answered kind).recent? t.period now)

theorem agreeFrom_iff : AgreeFrom view since t t' ↔
    t'.period = t.period ∧ ∀ kind, AgreeFrom (Ledger.recent? t.period) since (t.answered kind) (t'.answered kind) := by
  constructor
  · intro h
    have hperiod : t'.period = t.period := congrArg Prod.fst h.now
    refine ⟨hperiod, fun kind now hnow => ?_⟩
    have hanswered : (t'.answered kind).recent? t'.period now = (t.answered kind).recent? t.period now :=
      congrFun (congrArg Prod.snd (h now hnow)) kind
    rwa [hperiod] at hanswered
  · rintro ⟨hperiod, hanswered⟩ now hnow
    have hall : ∀ kind, _ = _ := fun kind => hanswered kind now hnow
    unfold view
    simp only [hperiod, hall]

theorem agreeFrom_purge (t : RequestThrottle) (now : Instant) : AgreeFrom view now t (t.purge now) :=
  agreeFrom_iff.2 ⟨rfl, fun kind => by cases kind <;> exact Ledger.agreeFrom_sweep _ le_rfl now⟩

theorem isBlocked_eq (h : AgreeFrom view since t t') (kind : RequestKind) (node : NodeId) :
    t'.isBlocked kind since node = t.isBlocked kind since node := by
  obtain ⟨hperiod, hanswered⟩ := agreeFrom_iff.1 h
  unfold isBlocked isCooling
  rw [hperiod, Ledger.any_get?, Ledger.any_get?, (hanswered kind).now]

theorem agreeFrom_start (h : AgreeFrom view since t t') (kind : RequestKind) (now : Instant) (node : NodeId) :
    AgreeFrom view since (t.start kind now node) (t'.start kind now node) := by
  obtain ⟨hperiod, hanswered⟩ := agreeFrom_iff.1 h
  refine agreeFrom_iff.2 ⟨by cases kind <;> exact hperiod, fun kind' => ?_⟩
  cases kind <;> cases kind'
  · exact Ledger.agreeFrom_insert (hanswered .telemetry) _ _
  · exact hanswered .neighborInfo
  · exact hanswered .telemetry
  · exact Ledger.agreeFrom_insert (hanswered .neighborInfo) _ _

theorem pass_agreeFrom (h : AgreeFrom view since t t') (kind : RequestKind) (node : NodeId) :
    (t'.pass kind since node).1 = (t.pass kind since node).1 ∧
      AgreeFrom view since (t.pass kind since node).2 (t'.pass kind since node).2 := by
  unfold pass
  rw [isBlocked_eq h]
  split
  · exact ⟨rfl, h⟩
  · exact ⟨rfl, agreeFrom_start h kind since node⟩

end RequestThrottle

/-! ### Slots of traceroutes -/

namespace TracerouteTracker

variable {since : Instant} {t t' : TracerouteTracker}

/-- The slots that are taken, and for how long they are. Requests that wait for their answer are left out. -/
def view (t : TracerouteTracker) (now : Instant) : Duration × (NodeId × NodeId → Option Instant) :=
  (t.cooldown, t.lastSent.recent? t.cooldown now)

theorem agreeFrom_iff : AgreeFrom view since t t' ↔
    t'.cooldown = t.cooldown ∧ AgreeFrom (Ledger.recent? t.cooldown) since t.lastSent t'.lastSent := by
  constructor
  · intro h
    have hcooldown : t'.cooldown = t.cooldown := congrArg Prod.fst h.now
    refine ⟨hcooldown, fun now hnow => ?_⟩
    have hsent : t'.lastSent.recent? t'.cooldown now = t.lastSent.recent? t.cooldown now :=
      congrArg Prod.snd (h now hnow)
    rwa [hcooldown] at hsent
  · rintro ⟨hcooldown, hsent⟩ now hnow
    unfold view
    rw [hcooldown, hsent now hnow]

/-- Slots are kept for twice the time that they are taken. -/
theorem agreeFrom_purge (t : TracerouteTracker) (now : Instant) : AgreeFrom view now t (t.purge now) :=
  agreeFrom_iff.2 ⟨rfl, Ledger.agreeFrom_sweep t.lastSent (Nat.le_mul_of_pos_left _ (by decide)) now⟩

theorem remaining?_eq_map (t : TracerouteTracker) (now : Instant) (sender target : NodeId) :
    t.remaining? now sender target =
      (t.lastSent.recent? t.cooldown now (sender, target)).map fun sent => t.cooldown - (now - sent) := by
  unfold remaining? Ledger.recent?
  cases t.lastSent.get? (sender, target) with
  | none => rfl
  | some sent =>
    rw [Option.bind_some, Option.filter_some, Duration.left?]
    rcases Nat.lt_trichotomy (now - sent) t.cooldown with hless | heq | hmore
    · have hne : t.cooldown - (now - sent) ≠ 0 := Nat.sub_ne_zero_of_lt hless
      simp [hless, hless.le, hne]
    · simp [heq]
    · simp [Nat.not_le.2 hmore, Nat.lt_asymm hmore]

/-- A slot is refused for as long as there is something left to wait. -/
theorem acquire_eq (t : TracerouteTracker) (now : Instant) (sender target : NodeId) :
    t.acquire now sender target = match t.remaining? now sender target with
      | some wait => .error wait
      | none => .ok { t with lastSent := t.lastSent.insert (sender, target) now } := by
  rw [remaining?_eq_map, Ledger.recent?, acquire]
  cases (t.lastSent.get? (sender, target)).filter fun sent => now - sent < t.cooldown with
  | none => rfl
  | some sent => rfl

theorem remaining?_eq (h : AgreeFrom view since t t') (sender target : NodeId) :
    t'.remaining? since sender target = t.remaining? since sender target := by
  obtain ⟨hcooldown, hsent⟩ := agreeFrom_iff.1 h
  rw [remaining?_eq_map, remaining?_eq_map, hcooldown, hsent.now]

theorem agreeFrom_release (h : AgreeFrom view since t t') (sender target : NodeId) :
    AgreeFrom view since (t.release sender target) (t'.release sender target) := by
  obtain ⟨hcooldown, hsent⟩ := agreeFrom_iff.1 h
  exact agreeFrom_iff.2 ⟨hcooldown, Ledger.agreeFrom_erase hsent _⟩

/-- Both refuse a slot with the same wait, or both give it. -/
theorem acquire_agreeFrom (h : AgreeFrom view since t t') (sender target : NodeId) :
    (∃ wait, t.acquire since sender target = .error wait ∧ t'.acquire since sender target = .error wait) ∨
      ∃ taken taken', t.acquire since sender target = .ok taken ∧ t'.acquire since sender target = .ok taken' ∧
        AgreeFrom view since taken taken' := by
  rw [acquire_eq, acquire_eq, remaining?_eq h]
  cases t.remaining? since sender target with
  | some wait => exact .inl ⟨wait, rfl, rfl⟩
  | none =>
    obtain ⟨hcooldown, hsent⟩ := agreeFrom_iff.1 h
    exact .inr ⟨_, _, rfl, rfl, agreeFrom_iff.2 ⟨hcooldown, Ledger.agreeFrom_insert hsent _ _⟩⟩

end TracerouteTracker

end RadioMesh
