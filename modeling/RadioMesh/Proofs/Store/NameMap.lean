import Mathlib
import RadioMesh.Store.NameMap

/-!
A name map has one entry for a name, so what it has under each name determines it.
-/

namespace RadioMesh.NameMap

variable {α : Type}

theorem eq_of_mem_of_mem {es : List (String × α)} (h : es.Pairwise fun a b => a.1 < b.1) {a b : String × α}
    (ha : a ∈ es) (hb : b ∈ es) (hname : a.1 = b.1) : a = b := by
  induction es with
  | nil => cases ha
  | cons e es ih =>
    obtain ⟨hhead, htail⟩ := List.pairwise_cons.1 h
    rcases List.mem_cons.1 ha with rfl | ha'
    · rcases List.mem_cons.1 hb with rfl | hb'
      · rfl
      · exact absurd (hname ▸ hhead b hb') (String.lt_irrefl _)
    · rcases List.mem_cons.1 hb with rfl | hb'
      · exact absurd (hname ▸ hhead a ha') (String.lt_irrefl _)
      · exact ih htail ha' hb'

theorem mem_entries_of_get? {m : NameMap α} {name : String} {v : α} (h : m.get? name = some v) :
    (name, v) ∈ m.entries := by
  obtain ⟨e, hfind, rfl⟩ := Option.map_eq_some_iff.1 h
  have hname : (e.1 == name) = true := List.find?_some (p := fun e : String × α => e.1 == name) hfind
  rw [← eq_of_beq hname]
  exact List.mem_of_find?_eq_some hfind

theorem get?_of_mem_entries {m : NameMap α} {name : String} {v : α} (h : (name, v) ∈ m.entries) :
    m.get? name = some v := by
  rw [get?]
  cases hfind : m.entries.find? fun e => e.1 == name with
  | none => exact absurd (List.find?_eq_none.1 hfind _ h) (by simp)
  | some e =>
    have hname : (e.1 == name) = true := List.find?_some (p := fun e : String × α => e.1 == name) hfind
    rw [eq_of_mem_of_mem m.ascending (List.mem_of_find?_eq_some hfind) h (eq_of_beq hname)]
    rfl

theorem get?_eq_some_iff {m : NameMap α} {name : String} {v : α} :
    m.get? name = some v ↔ (name, v) ∈ m.entries :=
  ⟨mem_entries_of_get?, get?_of_mem_entries⟩

theorem mem_keys_iff {m : NameMap α} {name : String} : name ∈ m.keys ↔ (m.get? name).isSome = true := by
  rw [Option.isSome_iff_exists, keys, List.mem_map]
  constructor
  · rintro ⟨⟨name, v⟩, he, rfl⟩
    exact ⟨v, get?_of_mem_entries he⟩
  · rintro ⟨v, hv⟩
    exact ⟨(name, v), mem_entries_of_get? hv, rfl⟩

theorem get?_insert (m : NameMap α) (name : String) (v : α) (other : String) :
    (m.insert name v).get? other = if other = name then some v else m.get? other := by
  show ((place name v m.entries).find? fun e => e.1 == other).map (·.2) =
    if other = name then some v else (m.entries.find? fun e => e.1 == other).map (·.2)
  induction m.entries with
  | nil =>
    rw [place]
    by_cases h : other = name
    · simp [h]
    · simp [h, Ne.symm h]
  | cons e es ih =>
    unfold place
    split
    · by_cases h : other = name
      · simp [h]
      · simp [h, Ne.symm h]
    · split
      · next heq =>
        by_cases h : other = name
        · simp [h]
        · simp [h, Ne.symm h, ← heq]
      · next hne =>
        rw [List.find?_cons, List.find?_cons]
        cases hother : e.1 == other with
        | false => exact ih
        | true =>
          have hlater : other ≠ name := fun h => hne (h ▸ (eq_of_beq hother).symm)
          simp [hlater]

theorem insertIfNew_of_new (m : NameMap α) (e : String × α) (h : m.get? e.1 = none) :
    m.insertIfNew e.1 e.2 = m.insert e.1 e.2 := by
  rw [insertIfNew, contains, h]
  rfl

theorem get?_insertIfNew (m : NameMap α) (name : String) (v : α) (other : String) :
    (m.insertIfNew name v).get? other = if other = name then some ((m.get? name).getD v) else m.get? other := by
  cases hname : m.get? name with
  | none => rw [insertIfNew_of_new m (name, v) hname, get?_insert, Option.getD_none]
  | some v' =>
    have hkept : m.insertIfNew name v = m := if_pos (by rw [contains, hname]; rfl)
    rw [hkept, Option.getD_some]
    split
    · next heq => rw [heq, hname]
    · rfl

theorem nodup_keys (m : NameMap α) : m.keys.Nodup :=
  List.Pairwise.map _ (fun _ _ hlt heq => String.lt_irrefl _ (heq ▸ hlt)) m.ascending

theorem nodup_entries (m : NameMap α) : m.entries.Nodup :=
  m.nodup_keys.of_map _

/-! ### What determines a map -/

/-- Maps with the same entries are the same. -/
theorem eq_of_perm {m m' : NameMap α} (h : m.entries.Perm m'.entries) : m = m' := by
  have hentries : m.entries = m'.entries :=
    h.eq_of_pairwise (fun a b _ _ hab hba => absurd (String.lt_trans hab hba) (String.lt_irrefl _))
      m.ascending m'.ascending
  obtain ⟨entries, _⟩ := m
  cases hentries
  rfl

/-- Maps that have the same under each name are the same. -/
theorem ext_get? {m m' : NameMap α} (h : ∀ name, m.get? name = m'.get? name) : m = m' := by
  have hmem : ∀ e, e ∈ m.entries ↔ e ∈ m'.entries := fun ⟨name, v⟩ => by
    rw [← get?_eq_some_iff, ← get?_eq_some_iff, h]
  exact eq_of_perm ((List.perm_ext_iff_of_nodup m.nodup_entries m'.nodup_entries).2 hmem)

section Order
variable (m : NameMap α) {name other : String} (h : name ≠ other) (v w : α)
include h

/-- What is put under different names may be put there in either order. -/
theorem insert_comm : (m.insert name v).insert other w = (m.insert other w).insert name v :=
  ext_get? fun x => by
    simp only [get?_insert]
    by_cases hx : x = name
    · rw [if_neg (hx ▸ h), if_pos hx, if_pos hx]
    · rw [if_neg hx, if_neg hx]

theorem insertIfNew_comm : (m.insertIfNew name v).insertIfNew other w = (m.insertIfNew other w).insertIfNew name v :=
  ext_get? fun x => by
    simp only [get?_insertIfNew, if_neg h, if_neg h.symm]
    by_cases hx : x = name
    · rw [if_neg (hx ▸ h), if_pos hx, if_pos hx]
    · rw [if_neg hx, if_neg hx]

end Order

/-! ### Maps from entries -/

theorem perm_place {name : String} (v : α) {es : List (String × α)} (h : ∀ e ∈ es, e.1 ≠ name) :
    (place name v es).Perm ((name, v) :: es) := by
  induction es with
  | nil => exact .refl _
  | cons e es ih =>
    obtain ⟨hhead, htail⟩ := List.forall_mem_cons.1 h
    unfold place
    split
    · exact .refl _
    · rw [if_neg hhead.symm]
      exact ((ih htail).cons e).trans (.swap _ _ _)

theorem perm_insert {m : NameMap α} {name : String} (h : m.get? name = none) (v : α) :
    (m.insert name v).entries.Perm ((name, v) :: m.entries) := by
  refine perm_place v fun e he hname => ?_
  rw [← hname, get?_of_mem_entries he] at h
  cases h

section Fold
variable {f : NameMap α → String × α → NameMap α}
  (hf : ∀ m e, m.get? e.1 = none → f m e = m.insert e.1 e.2)
include hf

/-- Entries that are put in one after another under new names are all there. -/
theorem perm_foldl {es : List (String × α)} (hnodup : (es.map (·.1)).Nodup) {m : NameMap α}
    (hnew : ∀ e ∈ es, m.get? e.1 = none) : (es.foldl f m).entries.Perm (es ++ m.entries) := by
  induction es generalizing m with
  | nil => exact .refl _
  | cons e es ih =>
    obtain ⟨hhead, htail⟩ := List.nodup_cons.1 hnodup
    obtain ⟨hnewHead, hnewTail⟩ := List.forall_mem_cons.1 hnew
    have hnewNext : ∀ e' ∈ es, (m.insert e.1 e.2).get? e'.1 = none := fun e' he' => by
      rw [get?_insert, if_neg fun heq => hhead (List.mem_map.2 ⟨e', he', heq⟩)]
      exact hnewTail e' he'
    rw [List.foldl_cons, hf m e hnewHead]
    have hlater : (es ++ (m.insert e.1 e.2).entries).Perm (es ++ e :: m.entries) :=
      (perm_insert hnewHead e.2).append_left es
    exact (ih htail hnewNext).trans (hlater.trans List.perm_middle)

theorem foldl_toList (m : NameMap α) : m.toList.foldl f ∅ = m := by
  refine eq_of_perm ?_
  have hperm := perm_foldl hf m.nodup_keys fun e _ => (rfl : (∅ : NameMap α).get? e.1 = none)
  rwa [show (∅ : NameMap α).entries = [] from rfl, List.append_nil] at hperm

end Fold

end RadioMesh.NameMap
