import Mathlib
import RadioMesh.PacketId

/-!
The IDs that one generator allocates. An allocation counts by one, or by two if its first random word makes 0 of a
counter whose low bits are 0. It cannot count past the same low bits a second time before the counter has gone all the
way round, so two allocations with the same low bits have at least 1022 others between them.
-/

namespace RadioMesh.PacketIds

/-! ### Passes of an allocation -/

/-- An allocation counts and takes a random word until the two make an ID. It took so many passes. -/
inductive Draws : PacketIds → (Nat → UInt32) → (passes : Nat) → UInt32 → PacketIds → Prop
  | done {g : PacketIds} {words : Nat → UInt32} (hid : compose (g.counter + 1) (words 0) ≠ 0) :
    Draws g words 1 (compose (g.counter + 1) (words 0)) ⟨g.counter + 1⟩
  | again {g g' : PacketIds} {words : Nat → UInt32} {passes : Nat} {id : UInt32}
    (hid : compose (g.counter + 1) (words 0) = 0)
    (hrest : Draws ⟨g.counter + 1⟩ (fun i => words (i + 1)) passes id g') : Draws g words (passes + 1) id g'

namespace Draws

variable {g g' g'' : PacketIds} {words : Nat → UInt32} {passes passes' : Nat} {id id' : UInt32}

theorem ne_zero (h : g.Draws words passes id g') : id ≠ 0 := by
  induction h with
  | done hid => exact hid
  | again _ _ ih => exact ih

theorem unique (h : g.Draws words passes id g') (h' : g.Draws words passes' id' g'') :
    passes' = passes ∧ id' = id ∧ g'' = g' := by
  induction h generalizing passes' with
  | done hid =>
    cases h' with
    | done _ => exact ⟨rfl, rfl, rfl⟩
    | again hid' _ => exact absurd hid' hid
  | again hid _ ih =>
    cases h' with
    | done hid' => exact absurd hid hid'
    | again _ hrest =>
      obtain ⟨rfl, hsame⟩ := ih hrest
      exact ⟨rfl, hsame⟩

end Draws

theorem exists_draws_of_within? {limit : Nat} {g g' : PacketIds} {words : Nat → UInt32} {id : UInt32}
    (h : within? limit g words = some (id, g')) : ∃ passes ≤ limit, g.Draws words passes id g' := by
  induction limit generalizing g words with
  | zero => cases h
  | succ limit ih =>
    rw [within?] at h
    split at h
    · next hid =>
      obtain ⟨passes, hle, hrest⟩ := ih h
      exact ⟨passes + 1, Nat.succ_le_succ hle, .again hid hrest⟩
    · next hid =>
      cases h
      exact ⟨1, Nat.succ_le_succ (Nat.zero_le limit), .done hid⟩

/-- Two passes are enough, whatever the random words are. -/
theorem exists_draws_next (g : PacketIds) (words : Nat → UInt32) :
    ∃ passes ≤ 2, g.Draws words passes (g.next words).1 (g.next words).2 :=
  exists_draws_of_within? (Option.some_get _).symm

theorem exists_draws_iff (g : PacketIds) (words : Nat → UInt32) :
    ∃ passes ≤ 2, ∀ n id g', g.Draws words n id g' ↔ n = passes ∧ g.next words = (id, g') := by
  obtain ⟨passes, hle, hdraws⟩ := g.exists_draws_next words
  refine ⟨passes, hle, fun n id g' => ⟨fun h => ?_, ?_⟩⟩
  · obtain ⟨rfl, rfl, rfl⟩ := hdraws.unique h
    exact ⟨rfl, rfl⟩
  · rintro ⟨rfl, hnext⟩
    rwa [hnext] at hdraws

theorem next_ne_zero (g : PacketIds) (words : Nat → UInt32) : (g.next words).1 ≠ 0 := by
  obtain ⟨passes, -, hdraws⟩ := g.exists_draws_next words
  exact hdraws.ne_zero

/-! ### Low bits -/

/-- What the low bits of a word count. -/
def low (w : UInt32) : Nat := w.toNat % 1024

theorem low_lt (w : UInt32) : low w < 1024 := Nat.mod_lt _ (by decide)

theorem low_eq (w : UInt32) : low w = (w &&& counterMask).toNat := by
  have hmask : counterMask.toNat = 2 ^ 10 - 1 := rfl
  rw [UInt32.toNat_and, hmask, Nat.and_two_pow_sub_one_eq_mod]
  rfl

theorem low_compose_eq (counter word : UInt32) : low (compose counter word) = low counter := by
  rw [low_eq, low_eq, low_compose]

/-- The counter's wrap keeps its low bits in step. -/
theorem low_succ (counter : UInt32) : low (counter + 1) = (low counter + 1) % 1024 := by
  have hone : (1 : UInt32).toNat = 1 := rfl
  rw [low, low, UInt32.toNat_add, hone]
  omega

theorem low_zero : low 0 = 0 := rfl

/-- An allocation leaves the counter at the low bits of its ID, one further than before, or two if it went past 0. -/
theorem low_next (g : PacketIds) (words : Nat → UInt32) :
    low (g.next words).2.counter = low (g.next words).1 ∧
      (low (g.next words).1 = (low g.counter + 1) % 1024 ∨
        low g.counter = 1023 ∧ low (g.next words).1 = 1) := by
  obtain ⟨passes, hle, hdraws⟩ := g.exists_draws_next words
  generalize g.next words = drawn at hdraws
  obtain ⟨id, g'⟩ := drawn
  dsimp only at hdraws ⊢
  cases hdraws with
  | done hid => exact ⟨(low_compose_eq _ _).symm, .inl ((low_compose_eq _ _).trans (low_succ _))⟩
  | again hid hrest =>
    have hzero : low (g.counter + 1) = 0 := by rw [← low_compose_eq _ (words 0), hid, low_zero]
    have hlast : low g.counter = 1023 := by
      have hlt := low_lt g.counter
      rw [low_succ] at hzero
      omega
    cases hrest with
    | done _ =>
      refine ⟨(low_compose_eq _ _).symm, .inr ⟨hlast, ?_⟩⟩
      rw [low_compose_eq, low_succ, hzero]
    | again hid' _ => exact absurd hid' (compose_succ_ne_zero hid _)

/-! ### Allocations in a row -/

/-- The IDs of allocations one after the other, each with random words of its own. -/
def allocate (g : PacketIds) : List (Nat → UInt32) → List UInt32
  | [] => []
  | words :: rest => (g.next words).1 :: (g.next words).2.allocate rest

theorem zero_not_mem_allocate (g : PacketIds) (draws : List (Nat → UInt32)) : 0 ∉ g.allocate draws := by
  induction draws generalizing g with
  | nil => exact List.not_mem_nil
  | cons words draws ih =>
    rw [allocate, List.mem_cons, not_or]
    exact ⟨(g.next_ne_zero words).symm, ih _⟩

theorem drop_allocate (g : PacketIds) (draws : List (Nat → UInt32)) (n : Nat) :
    ∃ g' : PacketIds, (g.allocate draws).drop n = g'.allocate (draws.drop n) := by
  induction n generalizing g draws with
  | zero => exact ⟨g, rfl⟩
  | succ n ih =>
    cases draws with
    | nil => exact ⟨g, rfl⟩
    | cons words draws => exact ih (g.next words).2 draws

/-- Allocations do not come to low bits that are `ahead` of the counter before they have counted that far. They may go
past one value on the way, if 0 lies there. -/
theorem low_ne_of_getElem? {g : PacketIds} {draws : List (Nat → UInt32)} {k : Nat} {id : UInt32}
    (ahead : Nat) (hid : (g.allocate draws)[k]? = some id) (hahead : ahead ≤ 1024)
    (hk : k + 1 + (if 1024 < low g.counter + ahead then 1 else 0) < ahead) :
    low id ≠ (low g.counter + ahead) % 1024 := by
  induction draws generalizing g k ahead with
  | nil => cases hid
  | cons words draws ih =>
    obtain ⟨hcounter, hnext⟩ := g.low_next words
    have hlt := low_lt g.counter
    cases k with
    | zero =>
      cases hid
      split at hk <;> omega
    | succ k =>
      have hrest : ∀ left ≤ 1024, k + 1 + (if 1024 < low (g.next words).1 + left then 1 else 0) < left →
          low id ≠ (low (g.next words).1 + left) % 1024 := fun left => by
        rw [← hcounter]
        exact ih left hid
      -- The way that is left is shorter by what was counted. Behind a 0 that was gone past there is none on it.
      rcases hnext with hone | ⟨hlast, htwo⟩
      · have hne := hrest (ahead - 1) (by omega) (by split at hk <;> split <;> omega)
        omega
      · have hne := hrest (ahead - 2) (by omega) (by split at hk <;> split <;> omega)
        omega

theorem nodup_take_allocate (g : PacketIds) (draws : List (Nat → UInt32)) (n : Nat) (hn : n ≤ 1023) :
    ((g.allocate draws).take n).Nodup := by
  induction draws generalizing g n with
  | nil => simp [allocate]
  | cons words draws ih =>
    cases n with
    | zero => simp
    | succ n =>
      rw [allocate, List.take_succ_cons, List.nodup_cons]
      refine ⟨fun hmem => ?_, ih _ n (by omega)⟩
      obtain ⟨k, hk⟩ := List.mem_iff_getElem?.1 hmem
      obtain ⟨hcounter, -⟩ := g.low_next words
      rw [List.getElem?_take] at hk
      split at hk
      · -- The counter stands at the low bits of this ID, so they are all the way round ahead of it.
        have hne := low_ne_of_getElem? 1024 hk le_rfl (by split <;> omega)
        rw [hcounter] at hne
        have hlt := low_lt (g.next words).1
        omega
      · cases hk

/-- An allocation ends after two passes at most, and gives no 0. Of any 1023 allocations in a row, from any counter on
and with any random words, no two have the same ID. -/
theorem allocate_apart (g : PacketIds) (draws : List (Nat → UInt32)) :
    (∀ (current : PacketIds) (words : Nat → UInt32), ∃ passes ≤ 2, ∀ n id later,
      current.Draws words n id later ↔ n = passes ∧ current.next words = (id, later)) ∧
    0 ∉ g.allocate draws ∧
    ∀ n, (((g.allocate draws).drop n).take 1023).Nodup := by
  refine ⟨exists_draws_iff, g.zero_not_mem_allocate draws, fun n => ?_⟩
  obtain ⟨g', hdrop⟩ := g.drop_allocate draws n
  rw [hdrop]
  exact g'.nodup_take_allocate _ 1023 le_rfl

end RadioMesh.PacketIds
