import Mathlib
import RadioMesh.Moment

/-!
The slot of a pair of nodes over time, told from who took it and who gave it back. Giving it back empties it, whoever
holds it, so the slot keeps the distance between those who take it as long as each gives back what it took itself.
-/

namespace RadioMesh

/-- What a call does with the slot of its pair. -/
inductive SlotUse
  | taken (call : Nat) (now : Instant)
  | given (call : Nat) (now : Instant)
deriving DecidableEq, Repr

namespace SlotUse

def call : SlotUse → Nat
  | taken i _ => i
  | given i _ => i

def now : SlotUse → Instant
  | taken _ now => now
  | given _ now => now

/-- Since when the slot is taken, if it was taken since `start` before its uses. -/
def since? (start : Option Instant) (uses : List SlotUse) : Option Instant :=
  uses.foldl (fun _ u => match u with
    | taken _ now => some now
    | given _ _ => none) start

/-- The last call that took the slot. -/
def lastTaker? (uses : List SlotUse) : Option Nat :=
  uses.foldl (fun last u => match u with
    | taken i _ => some i
    | given _ _ => last) none

@[simp] theorem since?_append_taken (start : Option Instant) (uses : List SlotUse) (i : Nat) (now : Instant) :
    since? start (uses ++ [taken i now]) = some now := by
  simp [since?]

@[simp] theorem since?_append_given (start : Option Instant) (uses : List SlotUse) (i : Nat) (now : Instant) :
    since? start (uses ++ [given i now]) = none := by
  simp [since?]

@[simp] theorem lastTaker?_append_taken (uses : List SlotUse) (i : Nat) (now : Instant) :
    lastTaker? (uses ++ [taken i now]) = some i := by
  simp [lastTaker?]

/-- Each call that gives the slot back is the last that took it. -/
def GiveOwn (uses : List SlotUse) : Prop :=
  ∀ earlier i now later, uses = earlier ++ given i now :: later → lastTaker? earlier = some i

/-- Each call that gives the slot back does so less than the cooldown after it took it. -/
def Prompt (cooldown : Duration) (uses : List SlotUse) : Prop :=
  ∀ i t t', taken i t ∈ uses → given i t' ∈ uses → t' < t + cooldown

theorem GiveOwn.of_append {uses more : List SlotUse} (h : GiveOwn (uses ++ more)) : GiveOwn uses := by
  rintro earlier i now later rfl
  exact h earlier i now (later ++ more) (by simp)

theorem Prompt.of_append {cooldown : Duration} {uses more : List SlotUse} (h : Prompt cooldown (uses ++ more)) :
    Prompt cooldown uses :=
  fun i t t' hi hi' => h i t t' (List.mem_append_left _ hi) (List.mem_append_left _ hi')

theorem not_given_of_append {uses more : List SlotUse} {i : Nat} (h : ∀ t, given i t ∉ uses ++ more) :
    ∀ t, given i t ∉ uses :=
  fun t ht => h t (List.mem_append_left _ ht)

theorem GiveOwn.append_taken {uses : List SlotUse} (h : GiveOwn uses) (j : Nat) (t : Instant) :
    GiveOwn (uses ++ [taken j t]) := by
  intro earlier i now later huses
  rcases List.eq_nil_or_concat later with rfl | ⟨later, u, rfl⟩
  · have hlast := (List.append_inj' huses rfl).2
    cases hlast
  · rw [List.concat_eq_append, ← List.cons_append, ← List.append_assoc] at huses
    exact h earlier i now later (List.append_inj' huses rfl).1

theorem GiveOwn.append_given {uses : List SlotUse} (h : GiveOwn uses) {j : Nat} (hlast : lastTaker? uses = some j)
    (t : Instant) : GiveOwn (uses ++ [given j t]) := by
  intro earlier i now later huses
  rcases List.eq_nil_or_concat later with rfl | ⟨later, u, rfl⟩
  · obtain ⟨hearlier, hgiven⟩ := List.append_inj' huses rfl
    cases hgiven
    rwa [← hearlier]
  · rw [List.concat_eq_append, ← List.cons_append, ← List.append_assoc] at huses
    exact h earlier i now later (List.append_inj' huses rfl).1

end SlotUse

open SlotUse

/-- Uses of a slot, one behind the other: a call takes the slot once, when it has been taken for the whole cooldown or
is free, and gives it back at most once, behind that. -/
inductive SlotHistory (cooldown : Duration) (start : Option Instant) : List SlotUse → Prop
  | start : SlotHistory cooldown start []
  | taken {uses : List SlotUse} {i : Nat} {now : Instant} (before : SlotHistory cooldown start uses)
    (hclock : ∀ u ∈ uses, u.now ≤ now) (hfresh : ∀ u ∈ uses, u.call ≠ i)
    (hfree : ∀ t, since? start uses = some t → cooldown ≤ now - t) :
    SlotHistory cooldown start (uses ++ [taken i now])
  | given {uses : List SlotUse} {i : Nat} {now : Instant} (before : SlotHistory cooldown start uses)
    (hclock : ∀ u ∈ uses, u.now ≤ now) (htaken : ∃ t, taken i t ∈ uses) (hkept : ∀ t, given i t ∉ uses) :
    SlotHistory cooldown start (uses ++ [given i now])

namespace SlotHistory

variable {cooldown : Duration} {start : Option Instant} {uses : List SlotUse} {i j : Nat} {t t' : Instant}

/-- A call that keeps the slot is the last that took it, or the cooldown is over since. -/
theorem holds_or_over (h : SlotHistory cooldown start uses) (hown : GiveOwn uses) (hi : SlotUse.taken i t ∈ uses)
    (hkept : ∀ t, SlotUse.given i t ∉ uses) :
    (lastTaker? uses = some i ∧ since? start uses = some t) ∨ ∃ u ∈ uses, t + cooldown ≤ u.now := by
  induction h with
  | start => cases hi
  | @taken uses j now before hclock hfresh hfree ih =>
    rcases List.mem_append.1 hi with hbefore | hnow
    · rcases ih hown.of_append hbefore (not_given_of_append hkept) with ⟨-, hsince⟩ | ⟨u, hu, hover⟩
      · have hle : t ≤ now := hclock _ hbefore
        exact .inr ⟨.taken j now, by simp, (Nat.le_sub_iff_add_le' hle).1 (hfree t hsince)⟩
      · exact .inr ⟨u, List.mem_append_left _ hu, hover⟩
    · cases List.mem_singleton.1 hnow
      exact .inl ⟨by simp, by simp⟩
  | @given uses j now before hclock htaken _ ih =>
    have hbefore : SlotUse.taken i t ∈ uses := by simpa using hi
    rcases ih hown.of_append hbefore (not_given_of_append hkept) with ⟨hlast, -⟩ | ⟨u, hu, hover⟩
    · -- The call that gives the slot back would be the one that keeps it.
      cases hlast.symm.trans (hown uses j now [] rfl)
      exact absurd (List.mem_append_right _ (List.mem_singleton_self _)) (hkept now)
    · exact .inr ⟨u, List.mem_append_left _ hu, hover⟩

/-- When the slot can be taken, the cooldown is over for all calls that keep it. -/
theorem over_of_free {now : Instant} (h : SlotHistory cooldown start uses) (hown : GiveOwn uses)
    (hi : SlotUse.taken i t ∈ uses) (hkept : ∀ t, SlotUse.given i t ∉ uses) (hclock : ∀ u ∈ uses, u.now ≤ now)
    (hfree : ∀ t, since? start uses = some t → cooldown ≤ now - t) : t + cooldown ≤ now := by
  rcases h.holds_or_over hown hi hkept with ⟨-, hsince⟩ | ⟨u, hu, hover⟩
  · have hle : t ≤ now := hclock _ hi
    exact (Nat.le_sub_iff_add_le' hle).1 (hfree t hsince)
  · exact hover.trans (hclock u hu)

/-- Two calls that keep the slot took it the cooldown apart. -/
theorem spaced (h : SlotHistory cooldown start uses) (hown : GiveOwn uses) (hne : i ≠ j)
    (hi : SlotUse.taken i t ∈ uses) (hkept : ∀ t, SlotUse.given i t ∉ uses)
    (hj : SlotUse.taken j t' ∈ uses) (hkept' : ∀ t, SlotUse.given j t ∉ uses) :
    t + cooldown ≤ t' ∨ t' + cooldown ≤ t := by
  induction h with
  | start => cases hi
  | @taken uses k now before hclock hfresh hfree ih =>
    have hown' := hown.of_append
    have hi' := not_given_of_append hkept
    have hj' := not_given_of_append hkept'
    rcases List.mem_append.1 hi with hbefore | hnow
    · rcases List.mem_append.1 hj with hbefore' | hnow
      · exact ih hown' hbefore hi' hbefore' hj'
      · cases List.mem_singleton.1 hnow
        exact .inl (before.over_of_free hown' hbefore hi' hclock hfree)
    · cases List.mem_singleton.1 hnow
      rcases List.mem_append.1 hj with hbefore' | hnow
      · exact .inr (before.over_of_free hown' hbefore' hj' hclock hfree)
      · cases List.mem_singleton.1 hnow
        exact absurd rfl hne
  | @given uses k now before hclock htaken _ ih =>
    exact ih hown.of_append (by simpa using hi) (not_given_of_append hkept) (by simpa using hj)
      (not_given_of_append hkept')

/-- A call that is done before its cooldown is over gives back its own slot, if those before it were. -/
theorem giveOwn (h : SlotHistory cooldown start uses) (hprompt : Prompt cooldown uses) : GiveOwn uses := by
  induction h with
  | start =>
    intro earlier i now later huses
    simp at huses
  | @taken uses j now before hclock hfresh hfree ih =>
    exact (ih hprompt.of_append).append_taken j now
  | @given uses j now before hclock htaken hkept ih =>
    have hown := ih hprompt.of_append
    obtain ⟨t, ht⟩ := htaken
    rcases before.holds_or_over hown ht hkept with ⟨hlast, -⟩ | ⟨u, hu, hover⟩
    · exact hown.append_given hlast now
    · have hlt := hprompt j t now (List.mem_append_left _ ht) (by simp)
      exact absurd (hover.trans (hclock u hu)) (Nat.not_le.2 hlt)

end SlotHistory

end RadioMesh
