import RadioMesh.Proofs.Store.Expiry

/-!
What a tracker knows of the requests that were sent. Of a pair it knows when its last request was sent, as long as
that bars another one. Under an ID it has the request that was sent under it, until the request is handed over or
swept away.
-/

namespace RadioMesh

/-- The nodes that a request goes between. -/
def PendingTraceroute.pair (r : PendingTraceroute) : NodeId × NodeId :=
  (r.sender, r.target)

namespace TracerouteTracker

variable {t t' : TracerouteTracker} {now now' : Instant} {id : UInt32} {r : PendingTraceroute}

/-- The slot of a pair taken, whoever had it. -/
def taken (t : TracerouteTracker) (now : Instant) (sender target : NodeId) : TracerouteTracker :=
  { t with lastSent := t.lastSent.insert (sender, target) now }

theorem remaining?_eq_some_iff {sender target : NodeId} {wait : Duration} :
    t.remaining? now sender target = some wait ↔
      ∃ stamp, t.lastSent.get? (sender, target) = some stamp ∧ now - stamp < t.cooldown ∧
        wait = t.cooldown - (now - stamp) := by
  rw [remaining?_eq_map, Option.map_eq_some_iff]
  simp only [Ledger.recent?, Option.filter_eq_some_iff, decide_eq_true_eq, and_assoc, @eq_comm _ wait]

/-- What is left to wait is never nothing, and never more than the cooldown. -/
theorem remaining?_bounds {sender target : NodeId} {wait : Duration} (h : t.remaining? now sender target = some wait) :
    0 < wait ∧ wait ≤ t.cooldown := by
  obtain ⟨stamp, -, hless, rfl⟩ := remaining?_eq_some_iff.1 h
  exact ⟨Nat.sub_pos_of_lt hless, Nat.sub_le _ _⟩

/-! ### Slots -/

/-- The slots tell which requests were sent until an instant, as far as they bar others. -/
structure Remembers (t : TracerouteTracker) (sent : List PendingTraceroute) (now : Instant) : Prop where
  sound : ∀ pair stamp, t.lastSent.get? pair = some stamp → ∃ r ∈ sent, r.pair = pair ∧ r.sentAt = stamp
  complete : ∀ r ∈ sent, now - r.sentAt < t.cooldown → t.lastSent.get? r.pair = some r.sentAt

theorem remembers_ofTimes (cooldown timeout : Duration) (now : Instant) :
    (ofTimes cooldown timeout).Remembers [] now where
  sound _ _ h := nomatch h
  complete _ h := nomatch h

namespace Remembers

variable {sent : List PendingTraceroute} {sender target : NodeId}

theorem later (h : t.Remembers sent now) (hle : now ≤ now') : t.Remembers sent now' where
  sound := h.sound
  complete r hr hless := h.complete r hr ((Nat.sub_le_sub_right hle r.sentAt).trans_lt hless)

theorem of_slots (h : t.Remembers sent now) (hslots : t'.lastSent = t.lastSent) (hcooldown : t'.cooldown = t.cooldown) :
    t'.Remembers sent now where
  sound := hslots ▸ h.sound
  complete := hslots ▸ hcooldown ▸ h.complete

/-- A pair has to wait exactly if a request between its nodes was sent less than the cooldown ago. -/
theorem remaining?_iff (h : t.Remembers sent now) {wait : Duration} : t.remaining? now sender target = some wait ↔
    ∃ r ∈ sent, r.pair = (sender, target) ∧ now - r.sentAt < t.cooldown ∧ wait = t.cooldown - (now - r.sentAt) := by
  rw [remaining?_eq_some_iff]
  constructor
  · rintro ⟨stamp, hstamp, hless, hwait⟩
    obtain ⟨r, hr, hpair, rfl⟩ := h.sound _ _ hstamp
    exact ⟨r, hr, hpair, hless, hwait⟩
  · rintro ⟨r, hr, hpair, hless, hwait⟩
    exact ⟨r.sentAt, hpair ▸ h.complete r hr hless, hless, hwait⟩

theorem not_recent (h : t.Remembers sent now) (hfree : t.remaining? now sender target = none) (hr : r ∈ sent)
    (hpair : r.pair = (sender, target)) : ¬now - r.sentAt < t.cooldown := fun hless =>
  nomatch hfree.symm.trans (h.remaining?_iff.2 ⟨r, hr, hpair, hless, rfl⟩)

/-- A request that is sent takes the place of those before it, which bar no others any more. -/
theorem send (h : t.Remembers sent now) (hfree : t.remaining? now r.sender r.target = none) (hnow : r.sentAt = now)
    (id : UInt32) : ((t.taken now r.sender r.target).add id r).Remembers (sent ++ [r]) now where
  sound pair stamp hstamp := by
    change (t.lastSent.insert r.pair now).get? pair = some stamp at hstamp
    by_cases hpair : pair = r.pair
    · rw [hpair, Ledger.get?_insert_self] at hstamp
      cases hstamp
      exact ⟨r, List.mem_append_right _ (List.mem_singleton_self r), hpair.symm, hnow⟩
    · rw [Ledger.get?_insert_of_ne hpair] at hstamp
      obtain ⟨r', hr', hpair', hstamp'⟩ := h.sound pair stamp hstamp
      exact ⟨r', List.mem_append_left _ hr', hpair', hstamp'⟩
  complete r' hr' hless := by
    show (t.lastSent.insert r.pair now).get? r'.pair = some r'.sentAt
    rcases List.mem_append.1 hr' with hold | hnew
    · have hne : r'.pair ≠ r.pair := fun hpair => h.not_recent hfree hold hpair hless
      rw [Ledger.get?_insert_of_ne hne]
      exact h.complete r' hold hless
    · cases List.mem_singleton.1 hnew
      rw [Ledger.get?_insert_self, hnow]

/-- A slot that is taken and given back is free, as it was before. -/
theorem fail (h : t.Remembers sent now) (hfree : t.remaining? now sender target = none) :
    ((t.taken now sender target).release sender target).Remembers sent now where
  sound pair stamp hstamp := by
    change ((t.lastSent.insert (sender, target) now).erase (sender, target)).get? pair = some stamp at hstamp
    by_cases hpair : pair = (sender, target)
    · rw [hpair, Ledger.get?_erase_self] at hstamp
      cases hstamp
    · rw [Ledger.get?_erase_of_ne hpair, Ledger.get?_insert_of_ne hpair] at hstamp
      exact h.sound pair stamp hstamp
  complete r hr hless := by
    have hne : r.pair ≠ (sender, target) := fun hpair => h.not_recent hfree hr hpair hless
    show ((t.lastSent.insert (sender, target) now).erase (sender, target)).get? r.pair = some r.sentAt
    rw [Ledger.get?_erase_of_ne hne, Ledger.get?_insert_of_ne hne]
    exact h.complete r hr hless

/-- Slots are swept only when they bar no others any more. -/
theorem purge (h : t.Remembers sent now) : (t.purge now).Remembers sent now where
  sound pair stamp hstamp := by
    change (t.lastSent.filter _).get? pair = some stamp at hstamp
    rw [Ledger.get?_filter] at hstamp
    exact h.sound pair stamp (Option.eq_some_of_filter_eq_some hstamp)
  complete r hr hless := by
    have hkept : now - r.sentAt < 2 * t.cooldown := hless.trans_le (Nat.le_mul_of_pos_left _ (by decide))
    show (t.lastSent.filter _).get? r.pair = some r.sentAt
    rw [Ledger.get?_filter, h.complete r hr hless, Option.filter_some, if_pos (decide_eq_true hkept)]

end Remembers

theorem remaining?_release (t : TracerouteTracker) (now : Instant) (sender target : NodeId) :
    (t.release sender target).remaining? now sender target = none := by
  rw [remaining?_eq_map, Option.map_eq_none_iff]
  show Option.filter _ ((t.lastSent.erase (sender, target)).get? (sender, target)) = none
  rw [Ledger.get?_erase_self]
  rfl

/-! ### Requests that wait -/

/-- What waits was sent and not handed over, and what was handed over was sent and handed over once. -/
structure Accounts (t : TracerouteTracker) (sent handed : List (UInt32 × PendingTraceroute)) : Prop where
  waiting : ∀ id r, t.pending.get? id = some r → (id, r) ∈ sent ∧ id ∉ handed.map (·.1)
  subset : handed ⊆ sent
  once : (handed.map (·.1)).Nodup

theorem accounts_ofTimes (cooldown timeout : Duration) : (ofTimes cooldown timeout).Accounts [] [] where
  waiting _ _ h := nomatch h
  subset _ h := h
  once := .nil

namespace Accounts

variable {sent handed : List (UInt32 × PendingTraceroute)}

theorem of_pending (h : t.Accounts sent handed) (hpending : t'.pending = t.pending) : t'.Accounts sent handed where
  waiting := hpending ▸ h.waiting
  subset := h.subset
  once := h.once

/-- A request that is sent under a new ID waits. -/
theorem add (h : t.Accounts sent handed) (hnew : id ∉ sent.map (·.1)) (r : PendingTraceroute) :
    (t.add id r).Accounts (sent ++ [(id, r)]) handed where
  waiting id' r' hr' := by
    change (t.pending.insert id r).get? id' = some r' at hr'
    by_cases hid : id' = id
    · subst hid
      rw [Ledger.get?_insert_self] at hr'
      cases hr'
      have hnot : id' ∉ handed.map (·.1) := fun hmem => hnew (List.map_subset _ h.subset hmem)
      exact ⟨List.mem_append_right _ (List.mem_singleton_self _), hnot⟩
    · rw [Ledger.get?_insert_of_ne hid] at hr'
      obtain ⟨hsent, hnot⟩ := h.waiting id' r' hr'
      exact ⟨List.mem_append_left _ hsent, hnot⟩
  subset := List.subset_append_of_subset_left _ h.subset
  once := h.once

/-- A request that is handed over waits no more. -/
theorem take (h : t.Accounts sent handed) (id : UInt32) :
    (t.take id).2.Accounts sent (handed ++ ((t.take id).1.map (id, ·)).toList) := by
  have hwaiting : ∀ id' r', (t.take id).2.pending.get? id' = some r' → id' ≠ id ∧ t.pending.get? id' = some r' := by
    intro id' r' hr'
    change (t.pending.erase id).get? id' = some r' at hr'
    by_cases hid : id' = id
    · rw [hid, Ledger.get?_erase_self] at hr'
      cases hr'
    · exact ⟨hid, (Ledger.get?_erase_of_ne hid _) ▸ hr'⟩
  cases hfound : t.pending.get? id with
  | none =>
    have hnone : (t.take id).1 = none := hfound
    rw [hnone, Option.map_none, Option.toList_none, List.append_nil]
    exact ⟨fun id' r' hr' => h.waiting id' r' (hwaiting id' r' hr').2, h.subset, h.once⟩
  | some r =>
    have hsome : (t.take id).1 = some r := hfound
    obtain ⟨hsent, hnot⟩ := h.waiting id r hfound
    rw [hsome, Option.map_some, Option.toList_some]
    refine ⟨fun id' r' hr' => ?_, ?_, ?_⟩
    · obtain ⟨hne, hold⟩ := hwaiting id' r' hr'
      obtain ⟨hsent', hnot'⟩ := h.waiting id' r' hold
      exact ⟨hsent', by simpa using ⟨by simpa using hnot', hne⟩⟩
    · exact List.append_subset.2 ⟨h.subset, List.cons_subset.2 ⟨hsent, List.nil_subset _⟩⟩
    · rw [List.map_append, List.nodup_append_comm]
      exact List.nodup_cons.2 ⟨hnot, h.once⟩

theorem purge (h : t.Accounts sent handed) (now : Instant) : (t.purge now).Accounts sent handed where
  waiting id r hr := by
    change (t.pending.filter _).get? id = some r at hr
    rw [Ledger.get?_filter] at hr
    exact h.waiting id r (Option.eq_some_of_filter_eq_some hr)
  subset := h.subset
  once := h.once

end Accounts

end TracerouteTracker

end RadioMesh
