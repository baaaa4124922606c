/-!
Values by name, in name order. Two maps with the same content are equal, whatever order it was put in.
-/

namespace RadioMesh

structure NameMap (α : Type) where
  entries : List (String × α)
  ascending : entries.Pairwise fun a b => a.1 < b.1

namespace NameMap

variable {α : Type}

def empty : NameMap α := ⟨[], .nil⟩

instance : EmptyCollection (NameMap α) := ⟨empty⟩

instance : Inhabited (NameMap α) := ⟨empty⟩

/-- The entries with the value at a name replaced or put in its place. -/
def place (name : String) (value : α) : List (String × α) → List (String × α)
  | [] => [(name, value)]
  | e :: rest =>
    if name < e.1 then (name, value) :: e :: rest
    else if name = e.1 then (name, value) :: rest
    else e :: place name value rest

theorem mem_place {name : String} {value : α} {es : List (String × α)} {x : String × α}
    (h : x ∈ place name value es) : x = (name, value) ∨ x ∈ es := by
  induction es with
  | nil => simpa [place] using h
  | cons e rest ih =>
    unfold place at h
    split at h
    · simpa using h
    · split at h
      · simp only [List.mem_cons] at h ⊢
        exact h.imp id .inr
      · simp only [List.mem_cons] at h ⊢
        rcases h with h | h
        · exact .inr (.inl h)
        · exact (ih h).imp id .inr

theorem pairwise_place {name : String} {value : α} {es : List (String × α)}
    (h : es.Pairwise fun a b => a.1 < b.1) : (place name value es).Pairwise fun a b => a.1 < b.1 := by
  induction es with
  | nil => simp [place]
  | cons e rest ih =>
    obtain ⟨hhead, htail⟩ := List.pairwise_cons.1 h
    unfold place
    split
    · next hlt =>
      refine List.pairwise_cons.2 ⟨fun x hx => ?_, h⟩
      rcases List.mem_cons.1 hx with rfl | hx
      · exact hlt
      · exact String.lt_trans hlt (hhead x hx)
    · next hge =>
      split
      · next heq => exact List.pairwise_cons.2 ⟨fun x hx => heq ▸ hhead x hx, htail⟩
      · next hne =>
        refine List.pairwise_cons.2 ⟨fun x hx => ?_, ih htail⟩
        rcases mem_place hx with rfl | hx
        · exact Decidable.byContradiction fun hnl =>
            hne (String.le_antisymm (String.not_lt.1 hnl) (String.not_lt.1 hge))
        · exact hhead x hx

/-- Replaces what the name had. -/
def insert (m : NameMap α) (name : String) (value : α) : NameMap α :=
  ⟨place name value m.entries, pairwise_place m.ascending⟩

def get? (m : NameMap α) (name : String) : Option α :=
  (m.entries.find? fun e => e.1 == name).map (·.2)

def contains (m : NameMap α) (name : String) : Bool :=
  (m.get? name).isSome

/-- Keeps what the name had. -/
def insertIfNew (m : NameMap α) (name : String) (value : α) : NameMap α :=
  if m.contains name then m else m.insert name value

def toList (m : NameMap α) : List (String × α) := m.entries

def keys (m : NameMap α) : List String := m.entries.map (·.1)

def values (m : NameMap α) : List α := m.entries.map (·.2)

end NameMap

end RadioMesh
