import RadioMesh.Proofs.Store.Ledger
import RadioMesh.Store.Seen

/-!
Which packets count as new, told from their arrivals alone, and that the stored times say the same. What is
stored of a packet is when it was let through last; a packet that is no longer stored was let through too
long ago to matter.
-/

namespace RadioMesh

/-! ### Arrivals -/

/-- A packet that came in. -/
structure Arrival where
  now : Instant
  sender : NodeId
  id : UInt32
deriving DecidableEq, Repr

namespace Arrival

/-- No packet of the same sender and ID was let through less than `ttl` ago; without an ID none is the
same. -/
def IsNew (ttl : Duration) (past : List Arrival) (a : Arrival) : Prop :=
  a.id = 0 ∨ ∀ b ∈ past, b.sender = a.sender → b.id = a.id → ttl ≤ a.now - b.now

instance (ttl : Duration) (past : List Arrival) (a : Arrival) : Decidable (a.IsNew ttl past) :=
  inferInstanceAs (Decidable (_ ∨ _))

/-- What was let through, with one more arrival. -/
def pass (ttl : Duration) (past : List Arrival) (a : Arrival) : List Arrival :=
  if a.IsNew ttl past then past ++ [a] else past

/-- Those arrivals that are let through. -/
def passed (ttl : Duration) (arrivals : List Arrival) : List Arrival :=
  arrivals.foldl (pass ttl) []

theorem passed_append_singleton (ttl : Duration) (arrivals : List Arrival) (a : Arrival) :
    passed ttl (arrivals ++ [a]) = pass ttl (passed ttl arrivals) a := by
  rw [passed, List.foldl_append]
  rfl

theorem mem_pass_of_mem {ttl : Duration} {past : List Arrival} {a b : Arrival} (hb : b ∈ past) :
    b ∈ pass ttl past a := by
  rw [pass]
  split
  · exact List.mem_append_left _ hb
  · exact hb

theorem mem_pass_of_isNew {ttl : Duration} {past : List Arrival} {a : Arrival} (ha : a.IsNew ttl past) :
    a ∈ pass ttl past a := by
  rw [pass, if_pos ha]
  exact List.mem_append_right _ (List.mem_singleton_self a)

theorem not_isNew_iff {ttl : Duration} {past : List Arrival} {a : Arrival} :
    ¬a.IsNew ttl past ↔ a.id ≠ 0 ∧ ∃ b ∈ past, b.sender = a.sender ∧ b.id = a.id ∧ a.now - b.now < ttl := by
  rw [IsNew, not_or]
  refine and_congr_right fun _ => ?_
  simp only [not_forall, exists_prop, Nat.not_le]

end Arrival

/-! ### Keys -/

namespace SeenPackets

theorem key_inj {n n' : NodeId} {i i' : UInt32} (h : key n i = key n' i') : n = n' ∧ i = i' := by
  have hbits : ∀ (n : NodeId) (i : UInt32), (key n i).toBitVec =
      n.value.toBitVec.setWidth 64 <<< 32 ||| i.toBitVec.setWidth 64 := fun _ _ => rfl
  have hget : ∀ k < 64, (key n i).toBitVec.getLsbD k = (key n' i').toBitVec.getLsbD k := fun k _ => by rw [h]
  simp only [hbits, BitVec.getLsbD_or, BitVec.getLsbD_shiftLeft, BitVec.getLsbD_setWidth] at hget
  have hsender : n.value = n'.value := UInt32.toBitVec_inj.1 <| BitVec.eq_of_getLsbD_eq fun k hk => by
    have hhigh := hget (k + 32) (by omega)
    have hi : ∀ w : BitVec 32, w.getLsbD (k + 32) = false := fun w => BitVec.getLsbD_of_ge w _ (by omega)
    simpa [hi, hk, show k + 32 < 64 by omega, show k < 64 by omega] using hhigh
  have hid : i = i' := UInt32.toBitVec_inj.1 <| BitVec.eq_of_getLsbD_eq fun k hk => by
    have hlow := hget k (by omega)
    simpa [hk, show k < 64 by omega] using hlow
  exact ⟨congrArg NodeId.mk hsender, hid⟩

/-! ### What is remembered -/

/-- What is stored at an instant tells which arrivals were let through until then, as far as it matters. -/
structure Remembers (s : SeenPackets) (past : List Arrival) (now : Instant) : Prop where
  zero : ∀ sender, s.seen.get? (key sender 0) = none
  sound : ∀ sender id stamp, s.seen.get? (key sender id) = some stamp → ⟨stamp, sender, id⟩ ∈ past
  complete : ∀ b ∈ past, b.id ≠ 0 →
    (∃ stamp, s.seen.get? (key b.sender b.id) = some stamp ∧ b.now ≤ stamp) ∨ s.ttl ≤ now - b.now

theorem remembers_ofTtl (ttl : Duration) (now : Instant) : (ofTtl ttl).Remembers [] now where
  zero _ := rfl
  sound _ _ _ h := nomatch h
  complete _ h := nomatch h

namespace Remembers

variable {s : SeenPackets} {past : List Arrival} {now now' : Instant}

theorem later (h : s.Remembers past now) (hle : now ≤ now') : s.Remembers past now' where
  zero := h.zero
  sound := h.sound
  complete b hb hid := by
    rcases h.complete b hb hid with hstored | hold
    · exact .inl hstored
    · exact .inr (Nat.le_trans hold (Nat.sub_le_sub_right hle b.now))

theorem isDuplicate_iff {a : Arrival} (h : s.Remembers past a.now) :
    s.isDuplicate a.now a.sender a.id = true ↔ ¬a.IsNew s.ttl past := by
  rw [Arrival.not_isNew_iff, isDuplicate, Bool.and_eq_true, decide_eq_true_eq]
  refine and_congr_right fun hid => ?_
  constructor
  · intro hany
    obtain ⟨stamp, hstored, hfresh⟩ := (Option.any_eq_true _ _).1 hany
    exact ⟨_, h.sound a.sender a.id stamp hstored, rfl, rfl, of_decide_eq_true hfresh⟩
  · rintro ⟨b, hb, hsender, hbid, hlt⟩
    have hb' := h.complete b hb (by rw [hbid]; exact hid)
    rw [hsender, hbid] at hb'
    rcases hb' with ⟨stamp, hstored, hle⟩ | hold
    · rw [hstored]
      exact decide_eq_true (Nat.lt_of_le_of_lt (Nat.sub_le_sub_left hle a.now) hlt)
    · exact absurd hold (Nat.not_le_of_lt hlt)

theorem purge (h : s.Remembers past now) : (s.purge now).Remembers past now where
  zero sender := by
    show (Ledger.filter _ _).get? _ = none
    rw [Ledger.get?_filter, h.zero]
    rfl
  sound sender id stamp hstored := by
    change (Ledger.filter _ _).get? _ = _ at hstored
    rw [Ledger.get?_filter] at hstored
    exact h.sound sender id stamp (Option.eq_some_of_filter_eq_some hstored)
  complete b hb hid := by
    rcases h.complete b hb hid with ⟨stamp, hstored, hle⟩ | hold
    · by_cases hfresh : s.isFresh now stamp = true
      · refine .inl ⟨stamp, ?_, hle⟩
        show (Ledger.filter _ _).get? _ = _
        rw [Ledger.get?_filter, hstored, Option.filter_some, if_pos hfresh]
      · have hstale : s.ttl ≤ now - stamp := Nat.le_of_not_lt fun hlt => hfresh (decide_eq_true hlt)
        exact .inr (Nat.le_trans hstale (Nat.sub_le_sub_left hle now))
    · exact .inr hold

/-- A packet let through is stored in the place of what was stored of it. -/
theorem insert {a : Arrival} (h : s.Remembers past a.now) (hid : a.id ≠ 0) (hpast : ∀ b ∈ past, b.now ≤ a.now) :
    ({ s with seen := s.seen.insert (key a.sender a.id) a.now } : SeenPackets).Remembers (past ++ [a]) a.now where
  zero sender := by
    show (Ledger.insert _ _ _).get? _ = none
    rw [Ledger.get?_insert_of_ne fun hk => hid (key_inj hk).2.symm]
    exact h.zero sender
  sound sender id stamp hstored := by
    change (Ledger.insert _ _ _).get? _ = _ at hstored
    by_cases hk : key sender id = key a.sender a.id
    · obtain ⟨rfl, rfl⟩ := key_inj hk
      rw [Ledger.get?_insert_self] at hstored
      rw [← Option.some.inj hstored]
      exact List.mem_append_right _ (List.mem_singleton_self a)
    · rw [Ledger.get?_insert_of_ne hk] at hstored
      exact List.mem_append_left _ (h.sound sender id stamp hstored)
  complete b hb hbid := by
    by_cases hk : key b.sender b.id = key a.sender a.id
    · refine .inl ⟨a.now, ?_, ?_⟩
      · show (Ledger.insert _ _ _).get? _ = _
        rw [hk, Ledger.get?_insert_self]
      · rcases List.mem_append.1 hb with hb | hb
        · exact hpast b hb
        · rw [List.mem_singleton.1 hb]
    · have hb' : b ∈ past := by
        rcases List.mem_append.1 hb with hb | hb
        · exact hb
        · exact absurd (by rw [List.mem_singleton.1 hb]) hk
      rcases h.complete b hb' hbid with ⟨stamp, hstored, hle⟩ | hold
      · refine .inl ⟨stamp, ?_, hle⟩
        show (Ledger.insert _ _ _).get? _ = _
        rw [Ledger.get?_insert_of_ne hk, hstored]
      · exact .inr hold

theorem record {a : Arrival} (h : s.Remembers past a.now) (hpast : ∀ b ∈ past, b.now ≤ a.now) :
    (s.record a.now a.sender a.id).2.Remembers (a.pass s.ttl past) a.now := by
  rw [SeenPackets.record, Arrival.pass]
  by_cases hid : a.id = 0
  · -- Packets without an ID pass and leave nothing behind.
    have hnew : a.IsNew s.ttl past := .inl hid
    rw [if_pos hid, if_pos hnew]
    exact
      { zero := h.zero
        sound := fun sender id stamp hstored => List.mem_append_left _ (h.sound sender id stamp hstored)
        complete := fun b hb hbid => by
          rcases List.mem_append.1 hb with hb | hb
          · exact h.complete b hb hbid
          · rw [List.mem_singleton.1 hb] at hbid
            exact absurd hid hbid }
  · rw [if_neg hid]
    by_cases hdup : s.isDuplicate a.now a.sender a.id = true
    · rw [if_pos hdup, if_neg (h.isDuplicate_iff.1 hdup)]
      exact h
    · rw [if_neg hdup, if_pos (not_not.1 fun hnew => hdup (h.isDuplicate_iff.2 hnew))]
      exact h.insert hid hpast

end Remembers

theorem record_fst (s : SeenPackets) (now : Instant) (sender : NodeId) (id : UInt32) :
    (s.record now sender id).1 = s.isDuplicate now sender id := by
  rw [record]
  by_cases hid : id = 0
  · rw [if_pos hid, isDuplicate, decide_eq_false (not_not.2 hid)]
    rfl
  · rw [if_neg hid]
    split
    · next hdup => exact hdup.symm
    · next hdup => exact (Bool.eq_false_iff.2 hdup).symm

@[simp] theorem record_ttl (s : SeenPackets) (now : Instant) (sender : NodeId) (id : UInt32) :
    (s.record now sender id).2.ttl = s.ttl := by
  rw [record]
  split
  · rfl
  · split
    · rfl
    · rfl

/-! ### Without one packet -/

/-- As if a packet had never come in. -/
def without (s : SeenPackets) (sender : NodeId) (id : UInt32) : SeenPackets :=
  { s with seen := s.seen.erase (key sender id) }

theorem record_of_zero (s : SeenPackets) (now : Instant) (sender : NodeId) : (s.record now sender 0).2 = s := rfl

theorem without_record_self (s : SeenPackets) (now : Instant) (sender : NodeId) (id : UInt32) :
    (s.record now sender id).2.without sender id = s.without sender id := by
  rw [record]
  split
  · rfl
  · split
    · rfl
    · rw [without, Ledger.erase_insert_self]
      rfl

theorem purge_without (s : SeenPackets) (now : Instant) (sender : NodeId) (id : UInt32) :
    (s.without sender id).purge now = (s.purge now).without sender id := by
  rw [purge, purge, without, without, Ledger.erase_filter]
  rfl

variable {sender sender' : NodeId} {id id' : UInt32}

theorem isDuplicate_without (s : SeenPackets) (now : Instant) (h : ¬(sender' = sender ∧ id' = id)) :
    (s.without sender id).isDuplicate now sender' id' = s.isDuplicate now sender' id' := by
  rw [isDuplicate, isDuplicate, without, Ledger.get?_erase_of_ne fun hkey => h (key_inj hkey)]
  rfl

theorem record_without (s : SeenPackets) (now : Instant) (h : ¬(sender' = sender ∧ id' = id)) :
    (s.without sender id).record now sender' id' =
      ((s.record now sender' id').1, (s.record now sender' id').2.without sender id) := by
  rw [record, record, isDuplicate_without s now h]
  split
  · rfl
  · split
    · rfl
    · rw [without, without, Ledger.erase_insert_of_ne fun hkey => h (key_inj hkey)]

end SeenPackets

end RadioMesh
