import Mathlib.Data.List.Nodup
import RadioMesh.Proofs.Toml.Statement

/-!
What the statements of blocks make of a document. The fields of the open table stand at one place of the
document; assignments add to them there, and a header moves on to a place of its own.
-/

namespace RadioMesh.Toml

/-! ### Fields by name -/

namespace Fields

theorem alter_new {name : String} {fields : Fields} (h : name ∉ fields.map (·.1)) (change : Option Node → Option Node) :
    alter name change fields = (change none).map fun n => fields ++ [(name, n)] := by
  induction fields with
  | nil => rfl
  | cons f fields ih =>
    simp only [List.map_cons, List.mem_cons, not_or] at h
    rw [alter, if_neg (Ne.symm h.1), ih h.2, Option.map_map]
    rfl

theorem alter_of_not_mem {name : String} {front : Fields} (h : name ∉ front.map (·.1)) (n : Node) (back : Fields)
    (change : Option Node → Option Node) :
    alter name change (front ++ (name, n) :: back) = (change (some n)).map fun n => front ++ (name, n) :: back := by
  induction front with
  | nil => simp [alter]
  | cons f front ih =>
    simp only [List.map_cons, List.mem_cons, not_or] at h
    rw [List.cons_append, alter, if_neg (Ne.symm h.1), ih h.2, Option.map_map]
    rfl

theorem within_append (made : Origin) (change : Origin → Fields → Option Fields) (path below : List String)
    (origin : Origin) (fields : Fields) :
    within made change (path ++ below) origin fields = within made (within made change below) path origin fields := by
  induction path generalizing origin fields with
  | nil => rfl
  | cons k path ih =>
    rw [List.cons_append, within, within]
    simp only [ih]

end Fields

/-! ### The open table -/

/-- A path leads to one place of a document, whatever fields the table there has. -/
def LeadsTo (path : List String) (place : Fields → Fields) : Prop :=
  ∀ (fields : Fields) (change : Origin → Fields → Option Fields),
    Fields.within .implied change path .header (place fields) = (change .header fields).map place

section Places

variable {name : String} {front : Fields} (hname : name ∉ front.map (·.1)) (back : Fields)
include hname

theorem leadsTo_table : LeadsTo [name] fun fields => front ++ (name, .table .header fields) :: back := by
  intro fields change
  rw [Fields.within, Fields.alter_of_not_mem hname]
  simp [Fields.within, Option.map_map, Function.comp_def]

theorem LeadsTo.element {path : List String} {place : Fields → Fields} (h : LeadsTo path place) (items : List Fields) :
    LeadsTo (path ++ [name]) fun fields => place (front ++ (name, .tables (items ++ [fields])) :: back) := by
  intro fields change
  rw [Fields.within_append, h, Fields.within, Fields.alter_of_not_mem hname]
  simp [Fields.within, Option.map_map, Function.comp_def]

end Places

section Statements

variable {path : List String} {place : Fields → Fields} (h : LeadsTo path place) {fields : Fields}
include h

theorem LeadsTo.add_assign {name : String} (hname : name ∉ fields.map (·.1)) (v : Value) :
    Draft.add ⟨place fields, path⟩ (.assign [] name v) = some ⟨place (fields ++ [(name, .value v)]), path⟩ := by
  rw [Draft.add, h]
  simp [Fields.assign, Fields.within, Fields.addNew, Fields.alter_new hname]

/-- Settings go into the open table, in their order. -/
theorem LeadsTo.add_settings {settings : List (String × Plain)} (distinct : (settings.map (·.1)).Nodup)
    (apart : ∀ s ∈ settings, s.1 ∉ fields.map (·.1)) :
    (settings.map fun s => Statement.assign [] s.1 s.2.meant).foldlM Draft.add ⟨place fields, path⟩ =
      some ⟨place (fields ++ settings.map fun s => (s.1, .value s.2.meant)), path⟩ := by
  induction settings generalizing fields with
  | nil => simp
  | cons s settings ih =>
    simp only [List.map_cons, List.nodup_cons, List.mem_cons, forall_eq_or_imp] at distinct apart
    have hrest : ∀ r ∈ settings, r.1 ∉ (fields ++ [(s.1, Node.value s.2.meant)]).map (·.1) := fun r hr => by
      have hne : r.1 ≠ s.1 := fun heq => distinct.1 (List.mem_map.mpr ⟨r, hr, heq⟩)
      simpa [hne] using apart.2 r hr
    rw [List.map_cons, List.foldlM_cons, h.add_assign apart.1]
    simpa using ih distinct.2 hrest

end Statements

/-! ### Blocks -/

def Block.fields (b : Block) : Fields :=
  b.settings.map fun s => (s.1, .value s.2.meant)

/-- A block for a new table. -/
theorem foldlM_table {b : Block} {name : String} (hb : b.heading = .table [name])
    (distinct : (b.settings.map (·.1)).Nodup) {root : Fields} (hname : name ∉ root.map (·.1)) (current : List String) :
    b.statements.foldlM Draft.add ⟨root, current⟩ = some ⟨root ++ [(name, .table .header b.fields)], [name]⟩ := by
  have hhead : Draft.add ⟨root, current⟩ b.heading.statement = some ⟨root ++ [(name, .table .header [])], [name]⟩ := by
    simp [hb, Heading.statement, Draft.add, Fields.openTable, Fields.within, Fields.alter_new hname]
  rw [Block.statements, List.foldlM_cons, hhead]
  exact (leadsTo_table hname []).add_settings distinct (by simp)

/-- Blocks for new tables, each with its name. -/
theorem foldlM_tables (blocks : List (String × Block)) (root : Fields)
    (hblocks : ∀ b ∈ blocks, b.2.heading = .table [b.1] ∧ (b.2.settings.map (·.1)).Nodup)
    (distinct : (root.map (·.1) ++ blocks.map (·.1)).Nodup) (current : List String) :
    ∃ last, (blocks.flatMap fun b => b.2.statements).foldlM Draft.add ⟨root, current⟩ =
      some ⟨root ++ blocks.map fun b => (b.1, .table .header b.2.fields), last⟩ := by
  induction blocks generalizing root current with
  | nil => exact ⟨current, by simp⟩
  | cons b blocks ih =>
    simp only [List.mem_cons, forall_eq_or_imp] at hblocks
    have hname : b.1 ∉ root.map (·.1) := fun hmem =>
      (List.nodup_append.mp distinct).2.2 _ hmem _ List.mem_cons_self rfl
    have hrest : ((root ++ [(b.1, Node.table .header b.2.fields)]).map (·.1) ++ blocks.map (·.1)).Nodup := by
      simpa using distinct
    obtain ⟨last, hlast⟩ := ih _ hblocks.2 hrest [b.1]
    refine ⟨last, ?_⟩
    rw [List.flatMap_cons, List.foldlM_append, foldlM_table hblocks.1.1 hblocks.1.2 hname]
    simpa using hlast

section Elements

variable {path : List String} {place : Fields → Fields} (h : LeadsTo path place) {name : String}
include h

/-- A block for the first table of an array. -/
theorem LeadsTo.foldlM_first {b : Block} (hb : b.heading = .element (path ++ [name]))
    (distinct : (b.settings.map (·.1)).Nodup) {fields : Fields} (hname : name ∉ fields.map (·.1))
    (current : List String) :
    b.statements.foldlM Draft.add ⟨place fields, current⟩ =
      some ⟨place (fields ++ [(name, .tables [b.fields])]), path ++ [name]⟩ := by
  have hhead : Draft.add ⟨place fields, current⟩ b.heading.statement =
      some ⟨place (fields ++ [(name, .tables [[]])]), path ++ [name]⟩ := by
    simp [hb, Heading.statement, Draft.add, Fields.openElement, h fields, Fields.alter_new hname]
  rw [Block.statements, List.foldlM_cons, hhead]
  exact (h.element hname [] []).add_settings distinct (by simp)

/-- A block for one more table of an array. -/
theorem LeadsTo.foldlM_next {b : Block} (hb : b.heading = .element (path ++ [name]))
    (distinct : (b.settings.map (·.1)).Nodup) {front : Fields} (hname : name ∉ front.map (·.1)) (items : List Fields)
    (current : List String) :
    b.statements.foldlM Draft.add ⟨place (front ++ [(name, .tables items)]), current⟩ =
      some ⟨place (front ++ [(name, .tables (items ++ [b.fields]))]), path ++ [name]⟩ := by
  have hhead : Draft.add ⟨place (front ++ [(name, .tables items)]), current⟩ b.heading.statement =
      some ⟨place (front ++ [(name, .tables (items ++ [[]]))]), path ++ [name]⟩ := by
    simp [hb, Heading.statement, Draft.add, Fields.openElement, h (front ++ [(name, .tables items)]),
      Fields.alter_of_not_mem hname]
  rw [Block.statements, List.foldlM_cons, hhead]
  exact (h.element hname [] items).add_settings distinct (by simp)

/-- Blocks for all tables of an array. -/
theorem LeadsTo.foldlM_elements {blocks : List Block} (hne : blocks ≠ [])
    (hblocks : ∀ d ∈ blocks, d.heading = .element (path ++ [name]) ∧ (d.settings.map (·.1)).Nodup)
    {fields : Fields} (hname : name ∉ fields.map (·.1)) (current : List String) :
    (blocks.flatMap Block.statements).foldlM Draft.add ⟨place fields, current⟩ =
      some ⟨place (fields ++ [(name, .tables (blocks.map Block.fields))]), path ++ [name]⟩ := by
  have hmore (items : List Fields) (blocks : List Block)
      (hblocks : ∀ d ∈ blocks, d.heading = .element (path ++ [name]) ∧ (d.settings.map (·.1)).Nodup) :
      (blocks.flatMap Block.statements).foldlM Draft.add ⟨place (fields ++ [(name, .tables items)]), path ++ [name]⟩ =
        some ⟨place (fields ++ [(name, .tables (items ++ blocks.map Block.fields))]), path ++ [name]⟩ := by
    induction blocks generalizing items with
    | nil => simp
    | cons d blocks ih =>
      simp only [List.mem_cons, forall_eq_or_imp] at hblocks
      rw [List.flatMap_cons, List.foldlM_append, h.foldlM_next hblocks.1.1 hblocks.1.2 hname]
      simpa using ih (items ++ [d.fields]) hblocks.2
  obtain ⟨b, blocks, rfl⟩ := List.exists_cons_of_ne_nil hne
  simp only [List.mem_cons, forall_eq_or_imp] at hblocks
  rw [List.flatMap_cons, List.foldlM_append, h.foldlM_first hblocks.1.1 hblocks.1.2 hname]
  exact hmore [b.fields] blocks hblocks.2

end Elements

/-! ### Values -/

theorem fieldValues_append (front back : Fields) :
    fieldValues (front ++ back) = fieldValues front ++ fieldValues back := by
  induction front with
  | nil => rfl
  | cons f front ih => rw [List.cons_append, fieldValues, fieldValues, ih, List.cons_append]

/-- The settings of a block as values by name. -/
def Block.content (b : Block) : List (String × Value) :=
  b.settings.map fun s => (s.1, s.2.meant)

theorem fieldValues_fields (b : Block) : fieldValues b.fields = b.content := by
  have hsettings (settings : List (String × Plain)) :
      fieldValues (settings.map fun s => (s.1, Node.value s.2.meant)) = settings.map fun s => (s.1, s.2.meant) := by
    induction settings with
    | nil => rfl
    | cons s settings ih => rw [List.map_cons, fieldValues, ih, Node.toValue, List.map_cons]
  exact hsettings b.settings

theorem itemValues_fields (blocks : List Block) :
    itemValues (blocks.map Block.fields) = blocks.map fun b => .table b.content := by
  induction blocks with
  | nil => rfl
  | cons b blocks ih => rw [List.map_cons, itemValues, ih, fieldValues_fields, List.map_cons]

end RadioMesh.Toml
