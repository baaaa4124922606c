import Mathlib
import RadioMesh.Store.Ledger

/-!
Looking up in a ledger what was inserted and filtered.
-/

namespace RadioMesh.Ledger

variable {κ ν : Type} [DecidableEq κ]

theorem find?_cons_key (e : κ × ν) (es : List (κ × ν)) (k : κ) :
    (e :: es).find? (fun e => e.1 = k) = if e.1 = k then some e else es.find? fun e => e.1 = k := by
  by_cases h : e.1 = k <;> simp [h]

theorem find?_filter_of_distinct {es : List (κ × ν)} (h : es.Pairwise fun a b => a.1 ≠ b.1) (p : κ × ν → Bool)
    (k : κ) : (es.filter p).find? (fun e => e.1 = k) = (es.find? fun e => e.1 = k).filter p := by
  induction es with
  | nil => rfl
  | cons e es ih =>
    obtain ⟨hne, htail⟩ := List.pairwise_cons.1 h
    rw [find?_cons_key]
    by_cases hk : e.1 = k
    · rw [if_pos hk, Option.filter_some]
      by_cases hp : p e = true
      · rw [List.filter_cons_of_pos hp, find?_cons_key, if_pos hk, if_pos hp]
      · -- No later entry has the key, so nothing takes the place of the one that is gone.
        rw [List.filter_cons_of_neg hp, if_neg hp, List.find?_eq_none]
        intro e' he' hk'
        exact hne e' (List.mem_filter.1 he').1 (hk.trans (of_decide_eq_true hk').symm)
    · rw [if_neg hk, ← ih htail]
      by_cases hp : p e = true
      · rw [List.filter_cons_of_pos hp, find?_cons_key, if_neg hk]
      · rw [List.filter_cons_of_neg hp]

theorem get?_filter (l : Ledger κ ν) (p : κ → ν → Bool) (k : κ) :
    (l.filter p).get? k = (l.get? k).filter (p k) := by
  rw [get?, get?]
  show ((l.entries.filter fun e => p e.1 e.2).find? fun e => e.1 = k).map _ = _
  rw [find?_filter_of_distinct l.distinct]
  cases hfind : l.entries.find? fun e => e.1 = k with
  | none => rfl
  | some e =>
    have hfound := List.find?_some (p := fun e : κ × ν => decide (e.1 = k)) hfind
    rw [Option.map_some, Option.filter_some, Option.filter_some, ← of_decide_eq_true hfound]
    split
    · rfl
    · rfl

@[simp] theorem get?_erase_self (l : Ledger κ ν) (k : κ) : (l.erase k).get? k = none := by
  rw [erase, get?_filter, Option.filter_eq_none_iff]
  exact fun _ _ hne => of_decide_eq_true hne rfl

theorem get?_erase_of_ne {k k' : κ} (h : k' ≠ k) (l : Ledger κ ν) : (l.erase k).get? k' = l.get? k' := by
  rw [erase, get?_filter]
  cases l.get? k' with
  | none => rfl
  | some v => rw [Option.filter_some, if_pos (decide_eq_true h)]

@[simp] theorem get?_insert_self (l : Ledger κ ν) (k : κ) (v : ν) : (l.insert k v).get? k = some v := by
  rw [get?, insert, find?_cons_key, if_pos rfl]
  rfl

theorem get?_insert_of_ne {k k' : κ} (h : k' ≠ k) (l : Ledger κ ν) (v : ν) :
    (l.insert k v).get? k' = l.get? k' := by
  rw [get?, insert, find?_cons_key, if_neg fun hk => h hk.symm]
  exact get?_erase_of_ne h l

/-! ### Without one key -/

omit [DecidableEq κ] in
theorem ext_entries {l l' : Ledger κ ν} (h : l.entries = l'.entries) : l = l' := by
  cases l
  cases l'
  cases h
  rfl

theorem erase_filter (l : Ledger κ ν) (p : κ → ν → Bool) (k : κ) : (l.filter p).erase k = (l.erase k).filter p :=
  ext_entries (by simp only [erase, filter, List.filter_filter, Bool.and_comm])

theorem erase_insert_self (l : Ledger κ ν) (k : κ) (v : ν) : (l.insert k v).erase k = l.erase k :=
  ext_entries (by simp [erase, insert, filter])

theorem erase_insert_of_ne {k k' : κ} (h : k' ≠ k) (l : Ledger κ ν) (v : ν) :
    (l.insert k' v).erase k = (l.erase k).insert k' v :=
  ext_entries (by simp [erase, insert, filter, h, Bool.and_comm])

end RadioMesh.Ledger
