import RadioMesh.Proofs.Store.Expiry

/-!
Which requests a throttle lets through, told from the requests alone: those of one kind to one node that lie a period
behind all of them that were let through before. What is stored of a node is when it was let through last; of a node
that is no longer stored the period is over.
-/

namespace RadioMesh

/-! ### Requests -/

/-- A request for an automatic answer of a node. -/
structure Ask where
  now : Instant
  kind : RequestKind
  node : NodeId
deriving DecidableEq, Repr

/-- Instants that keep a distance to those before them, from the first on. -/
def spaced (period : Duration) (instants : List Instant) : List Instant :=
  instants.foldl (fun kept now => if ∀ t ∈ kept, period ≤ now - t then kept ++ [now] else kept) []

namespace Ask

/-- When a node was asked for a kind of answer. -/
def instants (kind : RequestKind) (node : NodeId) (asks : List Ask) : List Instant :=
  (asks.filter fun a => a.kind = kind ∧ a.node = node).map (·.now)

/-- When a node is let through with a kind of answer. -/
def letThrough (period : Duration) (kind : RequestKind) (node : NodeId) (asks : List Ask) : List Instant :=
  spaced period (instants kind node asks)

end Ask

theorem spaced_append_singleton (period : Duration) (instants : List Instant) (now : Instant) :
    spaced period (instants ++ [now]) = if ∀ t ∈ spaced period instants, period ≤ now - t then
      spaced period instants ++ [now] else spaced period instants := by
  rw [spaced, List.foldl_append]
  rfl

namespace Ask

variable {period : Duration} {kind : RequestKind} {node : NodeId} {asks : List Ask} {a : Ask}

theorem letThrough_append_of_eq (h : a.kind = kind ∧ a.node = node) :
    letThrough period kind node (asks ++ [a]) = if ∀ t ∈ letThrough period kind node asks, period ≤ a.now - t then
      letThrough period kind node asks ++ [a.now] else letThrough period kind node asks := by
  have hinstants : instants kind node (asks ++ [a]) = instants kind node asks ++ [a.now] := by
    simp [instants, h]
  rw [letThrough, hinstants, spaced_append_singleton]
  rfl

/-- Requests of another kind or to another node have no influence. -/
theorem letThrough_append_of_ne (h : ¬(a.kind = kind ∧ a.node = node)) :
    letThrough period kind node (asks ++ [a]) = letThrough period kind node asks := by
  have hinstants : instants kind node (asks ++ [a]) = instants kind node asks := by
    simp [instants, h]
  rw [letThrough, hinstants]
  rfl

/-- A request that lies a period behind those that were let through before is let through. -/
theorem mem_letThrough_self (h : ∀ t ∈ letThrough period a.kind a.node asks, period ≤ a.now - t) :
    a.now ∈ letThrough period a.kind a.node (asks ++ [a]) := by
  rw [letThrough_append_of_eq ⟨rfl, rfl⟩, if_pos h]
  exact List.mem_append_right _ (List.mem_singleton_self _)

theorem mem_letThrough_append {t : Instant} (h : t ∈ letThrough period kind node asks) (more : List Ask) :
    t ∈ letThrough period kind node (asks ++ more) := by
  induction more using List.reverseRecOn with
  | nil => rwa [List.append_nil]
  | append_singleton more a ih =>
    rw [← List.append_assoc]
    by_cases hself : a.kind = kind ∧ a.node = node
    · rw [letThrough_append_of_eq hself]
      split
      · exact List.mem_append_left _ ih
      · exact ih
    · rwa [letThrough_append_of_ne hself]

/-- What one more request adds is its own instant, if it is let through. -/
theorem mem_letThrough_append_singleton {t : Instant} (h : t ∈ letThrough period kind node (asks ++ [a])) :
    t ∈ letThrough period kind node asks ∨
      a.kind = kind ∧ a.node = node ∧ t = a.now ∧ ∀ t ∈ letThrough period kind node asks, period ≤ a.now - t := by
  by_cases hself : a.kind = kind ∧ a.node = node
  · rw [letThrough_append_of_eq hself] at h
    split at h
    · next hspaced =>
      rcases List.mem_append.1 h with hold | hnew
      · exact .inl hold
      · exact .inr ⟨hself.1, hself.2, List.mem_singleton.1 hnew, hspaced⟩
    · exact .inl h
  · rw [letThrough_append_of_ne hself] at h
    exact .inl h

end Ask

/-! ### What is remembered -/

namespace RequestThrottle

variable {t : RequestThrottle} {asks : List Ask} {now now' : Instant} {kind : RequestKind} {node : NodeId}

/-- What is stored at an instant tells which requests were let through until then, as far as it matters. -/
structure Remembers (t : RequestThrottle) (asks : List Ask) (now : Instant) : Prop where
  sound : ∀ kind node stamp, (t.answered kind).get? node = some stamp → stamp ∈ Ask.letThrough t.period kind node asks
  complete : ∀ kind node, ∀ stamp ∈ Ask.letThrough t.period kind node asks, now - stamp < t.period →
    (t.answered kind).get? node = some stamp

theorem isBlocked_iff : t.isBlocked kind now node = true ↔
    ∃ stamp, (t.answered kind).get? node = some stamp ∧ now - stamp < t.period := by
  simp [isBlocked, isCooling, Option.any_eq_true]

@[simp] theorem start_period (t : RequestThrottle) (kind : RequestKind) (now : Instant) (node : NodeId) :
    (t.start kind now node).period = t.period := by
  cases kind <;> rfl

theorem answered_start_self (t : RequestThrottle) (kind : RequestKind) (now : Instant) (node : NodeId) :
    (t.start kind now node).answered kind = (t.answered kind).insert node now := by
  cases kind <;> rfl

theorem answered_start_of_ne {kind' : RequestKind} (h : kind' ≠ kind) (t : RequestThrottle) (now : Instant)
    (node : NodeId) : (t.start kind now node).answered kind' = t.answered kind' := by
  cases kind <;> cases kind'
  · exact absurd rfl h
  · rfl
  · rfl
  · exact absurd rfl h

theorem answered_purge (t : RequestThrottle) (kind : RequestKind) (now : Instant) :
    (t.purge now).answered kind = (t.answered kind).filter fun _ stamp => t.isCooling now stamp := by
  cases kind <;> rfl

theorem remembers_ofPeriod (period : Duration) (now : Instant) : (ofPeriod period).Remembers [] now where
  sound kind _ _ h := by cases kind <;> cases h
  complete _ _ _ h := nomatch h

namespace Remembers

theorem later (h : t.Remembers asks now) (hle : now ≤ now') : t.Remembers asks now' where
  sound := h.sound
  complete kind node stamp hmem hlt :=
    h.complete kind node stamp hmem ((Nat.sub_le_sub_right hle stamp).trans_lt hlt)

theorem isBlocked_iff (h : t.Remembers asks now) : t.isBlocked kind now node = true ↔
    ∃ stamp ∈ Ask.letThrough t.period kind node asks, now - stamp < t.period := by
  rw [RequestThrottle.isBlocked_iff]
  constructor
  · rintro ⟨stamp, hstored, hlt⟩
    exact ⟨stamp, h.sound kind node stamp hstored, hlt⟩
  · rintro ⟨stamp, hmem, hlt⟩
    exact ⟨stamp, h.complete kind node stamp hmem hlt, hlt⟩

theorem not_isBlocked_iff (h : t.Remembers asks now) : t.isBlocked kind now node = false ↔
    ∀ stamp ∈ Ask.letThrough t.period kind node asks, t.period ≤ now - stamp := by
  rw [← Bool.not_eq_true, h.isBlocked_iff]
  simp only [not_exists, not_and, Nat.not_lt]

theorem purge (h : t.Remembers asks now) : (t.purge now).Remembers asks now where
  sound kind node stamp hstored := by
    rw [answered_purge, Ledger.get?_filter] at hstored
    exact h.sound kind node stamp (Option.eq_some_of_filter_eq_some hstored)
  complete kind node stamp hmem hlt := by
    have hcooling : t.isCooling now stamp = true := decide_eq_true hlt
    rw [answered_purge, Ledger.get?_filter, h.complete kind node stamp hmem hlt, Option.filter_some, if_pos hcooling]

theorem refused {a : Ask} (h : t.Remembers asks a.now) (hblocked : t.isBlocked a.kind a.now a.node = true) :
    t.Remembers (asks ++ [a]) a.now := by
  have hsame : ∀ kind node,
      Ask.letThrough t.period kind node (asks ++ [a]) = Ask.letThrough t.period kind node asks := by
    intro kind node
    by_cases hself : a.kind = kind ∧ a.node = node
    · obtain ⟨stamp, hmem, hlt⟩ := h.isBlocked_iff.1 hblocked
      rw [hself.1, hself.2] at hmem
      rw [Ask.letThrough_append_of_eq hself, if_neg fun hall => absurd hlt (Nat.not_lt.2 (hall stamp hmem))]
    · exact Ask.letThrough_append_of_ne hself
  constructor
  · intro kind node stamp hstored
    rw [hsame]
    exact h.sound kind node stamp hstored
  · intro kind node stamp hmem
    rw [hsame] at hmem
    exact h.complete kind node stamp hmem

theorem start {a : Ask} (h : t.Remembers asks a.now) (hpasses : t.isBlocked a.kind a.now a.node = false) :
    (t.start a.kind a.now a.node).Remembers (asks ++ [a]) a.now := by
  have hspaced := h.not_isBlocked_iff.1 hpasses
  have hself : Ask.letThrough t.period a.kind a.node (asks ++ [a]) =
      Ask.letThrough t.period a.kind a.node asks ++ [a.now] := by
    rw [Ask.letThrough_append_of_eq ⟨rfl, rfl⟩, if_pos hspaced]
  constructor
  · intro kind node stamp hstored
    rw [start_period]
    by_cases hkind : kind = a.kind
    · subst hkind
      rw [answered_start_self] at hstored
      by_cases hnode : node = a.node
      · subst hnode
        rw [Ledger.get?_insert_self] at hstored
        rw [hself, ← Option.some.inj hstored]
        exact List.mem_append_right _ (List.mem_singleton_self _)
      · rw [Ledger.get?_insert_of_ne hnode] at hstored
        rw [Ask.letThrough_append_of_ne fun hsame => hnode hsame.2.symm]
        exact h.sound _ node stamp hstored
    · rw [answered_start_of_ne hkind] at hstored
      rw [Ask.letThrough_append_of_ne fun hsame => hkind hsame.1.symm]
      exact h.sound kind node stamp hstored
  · intro kind node stamp hmem hlt
    rw [start_period] at hmem hlt
    by_cases hkind : kind = a.kind
    · subst hkind
      rw [answered_start_self]
      by_cases hnode : node = a.node
      · subst hnode
        rw [Ledger.get?_insert_self]
        rw [hself] at hmem
        rcases List.mem_append.1 hmem with hold | hnew
        · -- What was let through before lies a period back, since the node is let through again.
          exact absurd hlt (Nat.not_lt.2 (hspaced stamp hold))
        · rw [List.mem_singleton.1 hnew]
      · rw [Ask.letThrough_append_of_ne fun hsame => hnode hsame.2.symm] at hmem
        rw [Ledger.get?_insert_of_ne hnode]
        exact h.complete _ node stamp hmem hlt
    · rw [Ask.letThrough_append_of_ne fun hsame => hkind hsame.1.symm] at hmem
      rw [answered_start_of_ne hkind]
      exact h.complete kind node stamp hmem hlt

end Remembers

end RequestThrottle

end RadioMesh
