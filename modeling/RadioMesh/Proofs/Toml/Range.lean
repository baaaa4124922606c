import Mathlib.Data.List.Basic
import Mathlib.Data.Option.Basic
import RadioMesh.Toml.Document

/-!
Whole numbers of a document have 64 bits. A reader of tokens refuses all others, and nothing that is done with
values on the way to the root makes new ones.
-/

namespace RadioMesh.Toml

/-- Every whole number in a value has 64 bits. -/
inductive Value.Fits : Value → Prop
  | string (s : String) : Fits (.string s)
  | integer {n : Int} (low : Int64.minValue.toInt ≤ n) (high : n ≤ Int64.maxValue.toInt) : Fits (.integer n)
  | float (x : Binary64) : Fits (.float x)
  | boolean (b : Bool) : Fits (.boolean b)
  | datetime (text : String) : Fits (.datetime text)
  | array {items : List Value} (h : ∀ v ∈ items, Fits v) : Fits (.array items)
  | table {fields : List (String × Value)} (h : ∀ f ∈ fields, Fits f.2) : Fits (.table fields)

inductive Node.Fits : Node → Prop
  | value {v : Value} (h : v.Fits) : Fits (.value v)
  | table (origin : Origin) {fields : List (String × Node)} (h : ∀ f ∈ fields, Fits f.2) : Fits (.table origin fields)
  | tables {items : List (List (String × Node))} (h : ∀ fields ∈ items, ∀ f ∈ fields, Fits f.2) : Fits (.tables items)

/-! ### Tokens -/

namespace Token

theorem of_inRange? {n m : Int} (h : inRange? n = some m) : Value.Fits (.integer m) := by
  unfold inRange? at h
  split_ifs at h with hn
  obtain rfl := Option.some.inj h
  exact .integer hn.1 hn.2

theorem of_basedInteger? {base : Nat} {cs : List Char} {n : Int} (h : basedInteger? base cs = some n) :
    Value.Fits (.integer n) := by
  obtain ⟨ds, -, h⟩ := Option.bind_eq_some_iff.mp h
  exact of_inRange? h

theorem of_integer? {cs : List Char} {n : Int} (h : integer? cs = some n) : Value.Fits (.integer n) := by
  unfold integer? at h
  split at h
  · exact of_basedInteger? h
  · exact of_basedInteger? h
  · exact of_basedInteger? h
  · obtain ⟨ds, -, h⟩ := Option.bind_eq_some_iff.mp h
    exact of_inRange? h

theorem fits_of_value? {cs : List Char} {v : Value} (h : value? cs = some v) : v.Fits := by
  unfold value? at h
  split_ifs at h
  · obtain rfl := Option.some.inj h
    exact .boolean true
  · obtain rfl := Option.some.inj h
    exact .boolean false
  · obtain rfl := Option.some.inj h
    exact .datetime _
  · rcases (Option.orElse_eq_some _ _ _).mp h with h | ⟨-, h⟩
    · obtain ⟨x, -, rfl⟩ := Option.map_eq_some_iff.mp h
      exact .float x
    · obtain ⟨n, hn, rfl⟩ := Option.map_eq_some_iff.mp h
      exact of_integer? hn

theorem fits_of_read? {cs rest : List Char} {v : Value} (h : read? cs = some (v, rest)) : v.Fits := by
  obtain ⟨w, hw, heq⟩ := Option.map_eq_some_iff.mp h
  obtain ⟨rfl, -⟩ := Prod.mk.inj heq
  exact fits_of_value? hw

end Token

/-! ### Tables under construction -/

namespace Fields

/-- Every whole number in the fields has 64 bits. -/
def Fits (fields : Fields) : Prop := ∀ f ∈ fields, f.2.Fits

/-- A change of a field brings no whole number that has more bits. -/
def Sound (change : Option Node → Option Node) : Prop :=
  ∀ was is, (∀ n, was = some n → n.Fits) → change was = some is → is.Fits

theorem Fits.alter {name : String} {change : Option Node → Option Node} (hchange : Sound change)
    {fields changed : Fields} (hfields : fields.Fits) (h : alter name change fields = some changed) : changed.Fits := by
  induction fields generalizing changed with
  | nil =>
    obtain ⟨n, hn, rfl⟩ := Option.map_eq_some_iff.mp h
    simpa [Fits] using hchange none n (by simp) hn
  | cons f fields ih =>
    obtain ⟨hf, hfields⟩ := List.forall_mem_cons.mp hfields
    unfold Fields.alter at h
    split_ifs at h
    · obtain ⟨n, hn, rfl⟩ := Option.map_eq_some_iff.mp h
      exact List.forall_mem_cons.mpr ⟨hchange _ n (by simpa using hf) hn, hfields⟩
    · obtain ⟨rest, hrest, rfl⟩ := Option.map_eq_some_iff.mp h
      exact List.forall_mem_cons.mpr ⟨hf, ih hfields hrest⟩

theorem Fits.nil : Fits [] := List.forall_mem_nil _

theorem Fits.within {made : Origin} {change : Origin → Fields → Option Fields}
    (hchange : ∀ origin fields changed, Fits fields → change origin fields = some changed → Fits changed)
    (path : List String) {origin : Origin} {fields changed : Fields} (hfields : fields.Fits)
    (h : within made change path origin fields = some changed) : changed.Fits := by
  induction path generalizing origin fields changed with
  | nil => exact hchange origin fields changed hfields h
  | cons k path ih =>
    unfold Fields.within at h
    refine hfields.alter (fun was is hwas his => ?_) h
    rcases was with - | (v | ⟨origin, inner⟩ | items)
    · obtain ⟨inner, hinner, rfl⟩ := Option.map_eq_some_iff.mp his
      exact .table made (ih .nil hinner)
    · cases his
    · have hwas := hwas _ rfl
      simp only at his
      split_ifs at his
      obtain ⟨filled, hfilled, rfl⟩ := Option.map_eq_some_iff.mp his
      cases hwas with
      | table _ hinner => exact .table origin (ih hinner hfilled)
    · have hwas := hwas _ rfl
      obtain ⟨last, hlast, his⟩ := Option.bind_eq_some_iff.mp his
      obtain ⟨filled, hfilled, rfl⟩ := Option.map_eq_some_iff.mp his
      cases hwas with
      | tables hitems =>
        refine .tables fun fields hmem => ?_
        rcases List.mem_append.mp hmem with hmem | hmem
        · exact hitems fields (List.dropLast_subset items hmem)
        · rw [List.mem_singleton.mp hmem]
          exact ih (hitems last (List.mem_of_getLast? hlast)) hfilled

theorem Fits.assign {path : List String} {name : String} {v : Value} (hv : v.Fits) {origin : Origin}
    {fields changed : Fields} (hfields : fields.Fits) (h : assign path name v origin fields = some changed) :
    changed.Fits := by
  refine hfields.within (fun origin fields changed hfields h => ?_) path h
  split_ifs at h
  refine hfields.alter (fun was is _ his => ?_) h
  cases was with
  | none => exact Option.some.inj his ▸ .value hv
  | some n => cases his

theorem Fits.openTable {path : List String} {name : String} {fields changed : Fields} (hfields : fields.Fits)
    (h : openTable path name fields = some changed) : changed.Fits := by
  refine hfields.within (fun _ fields changed hfields h => hfields.alter (fun was is hwas his => ?_) h) path h
  rcases was with - | (v | ⟨origin, inner⟩ | items)
  · exact Option.some.inj his ▸ .table .header Fits.nil
  · cases his
  · cases origin with
    | implied =>
      cases hwas _ rfl with
      | table _ hinner => exact Option.some.inj his ▸ .table .header hinner
    | header => cases his
    | dotted => cases his
  · cases his

theorem Fits.openElement {path : List String} {name : String} {fields changed : Fields} (hfields : fields.Fits)
    (h : openElement path name fields = some changed) : changed.Fits := by
  refine hfields.within (fun _ fields changed hfields h => hfields.alter (fun was is hwas his => ?_) h) path h
  rcases was with - | (v | ⟨origin, inner⟩ | items)
  · exact Option.some.inj his ▸ .tables fun fields hmem => List.mem_singleton.mp hmem ▸ Fits.nil
  · cases his
  · cases his
  · cases hwas _ rfl with
    | tables hitems =>
      refine Option.some.inj his ▸ .tables fun fields hmem => ?_
      rcases List.mem_append.mp hmem with hmem | hmem
      · exact hitems fields hmem
      · exact List.mem_singleton.mp hmem ▸ Fits.nil

end Fields

mutual

theorem Node.Fits.toValue : ∀ {n : Node}, n.Fits → n.toValue.Fits
  | .value _, .value h => h
  | .table _ _, .table _ h => .table (Fields.Fits.fieldValues h)
  | .tables _, .tables h => .array (Fields.fits_itemValues h)

theorem Fields.Fits.fieldValues : ∀ {fields : Fields}, fields.Fits → ∀ f ∈ Toml.fieldValues fields, f.2.Fits
  | [], _ => List.forall_mem_nil _
  | _ :: _, h => List.forall_mem_cons.mpr
    ⟨Node.Fits.toValue (List.forall_mem_cons.mp h).1, Fields.Fits.fieldValues (List.forall_mem_cons.mp h).2⟩

theorem Fields.fits_itemValues : ∀ {items : List Fields}, (∀ fields ∈ items, fields.Fits) →
    ∀ v ∈ itemValues items, v.Fits
  | [], _ => List.forall_mem_nil _
  | _ :: _, h => List.forall_mem_cons.mpr
    ⟨.table (Fields.Fits.fieldValues (List.forall_mem_cons.mp h).1),
      Fields.fits_itemValues (List.forall_mem_cons.mp h).2⟩

end

namespace Statement

/-! ### Values in brackets and braces -/

section Nested

variable {inner? : List Char → Option (Value × List Char)} (hinner : ∀ cs v rest, inner? cs = some (v, rest) → v.Fits)
include hinner

theorem fits_of_assignment? {cs rest : List Char} {path : List String} {name : String} {v : Value}
    (h : assignment? inner? cs = some ((path, name, v), rest)) : v.Fits := by
  obtain ⟨_, -, h⟩ := Option.bind_eq_some_iff.mp h
  obtain ⟨_, -, h⟩ := Option.bind_eq_some_iff.mp h
  obtain ⟨⟨w, _⟩, hw, h⟩ := Option.bind_eq_some_iff.mp h
  cases h
  exact hinner _ _ _ hw

theorem fits_of_items? {fuel : Nat} {cs rest : List Char} {vs : List Value}
    (h : items? inner? fuel cs = some (vs, rest)) : ∀ v ∈ vs, v.Fits := by
  induction fuel generalizing cs vs rest with
  | zero => cases h
  | succ fuel ih =>
    unfold items? at h
    split at h
    · cases h
      exact List.forall_mem_nil _
    · obtain ⟨⟨v, _⟩, hv, h⟩ := Option.bind_eq_some_iff.mp h
      simp only at h
      split at h
      · obtain ⟨⟨vs, _⟩, hvs, h⟩ := Option.bind_eq_some_iff.mp h
        cases h
        exact List.forall_mem_cons.mpr ⟨hinner _ _ _ hv, ih hvs⟩
      · cases h
        simpa using hinner _ _ _ hv
      · cases h

theorem fits_of_inlineFields? {fuel : Nat} {fields filled : Fields} (hfields : fields.Fits) {cs rest : List Char}
    (h : inlineFields? inner? fuel fields cs = some (filled, rest)) : filled.Fits := by
  induction fuel generalizing fields cs with
  | zero => cases h
  | succ fuel ih =>
    unfold inlineFields? at h
    obtain ⟨⟨⟨path, name, v⟩, _⟩, hv, h⟩ := Option.bind_eq_some_iff.mp h
    obtain ⟨more, hmore, h⟩ := Option.bind_eq_some_iff.mp h
    have hmore := hfields.assign (fits_of_assignment? hinner hv) hmore
    split at h
    · exact ih hmore h
    · cases h
      exact hmore
    · cases h

theorem fits_of_inlineTable? {cs rest : List Char} {v : Value} (h : inlineTable? inner? cs = some (v, rest)) :
    v.Fits := by
  unfold inlineTable? at h
  split at h
  · cases h
    exact .table (List.forall_mem_nil _)
  · obtain ⟨⟨filled, _⟩, hfilled, h⟩ := Option.map_eq_some_iff.mp h
    cases h
    exact .table (fits_of_inlineFields? hinner Fields.Fits.nil hfilled).fieldValues

end Nested

theorem fits_of_value? {depth : Nat} {cs rest : List Char} {v : Value} (h : value? depth cs = some (v, rest)) :
    v.Fits := by
  induction depth using Nat.strongRecOn generalizing cs rest v with
  | ind depth ih =>
    unfold value? at h
    split at h
    · obtain ⟨_, -, h⟩ := Option.map_eq_some_iff.mp h
      cases h
      exact .string _
    · obtain ⟨_, -, h⟩ := Option.map_eq_some_iff.mp h
      cases h
      exact .string _
    · rename_i inner
      obtain ⟨⟨vs, _⟩, hvs, h⟩ := Option.map_eq_some_iff.mp h
      cases h
      exact .array (fits_of_items? (fun _ _ _ => ih inner (Nat.lt_add_one inner)) hvs)
    · rename_i inner
      exact fits_of_inlineTable? (fun _ _ _ => ih inner (Nat.lt_add_one inner)) h
    · exact Token.fits_of_read? h

/-- Every whole number that a statement assigns has 64 bits. -/
def Fits : Statement → Prop
  | .assign _ _ v => v.Fits
  | _ => True

theorem fits_of_header? (make : List String → String → Statement) (hmake : ∀ path name, (make path name).Fits)
    {closing cs rest : List Char} {s : Statement} (h : header? make closing cs = some (s, rest)) : s.Fits := by
  obtain ⟨⟨⟨path, name⟩, _⟩, -, h⟩ := Option.bind_eq_some_iff.mp h
  obtain ⟨_, -, h⟩ := Option.bind_eq_some_iff.mp h
  cases h
  exact hmake path name

theorem fits_of_read? {cs rest : List Char} {s : Statement} (h : read? cs = some (s, rest)) : s.Fits := by
  unfold read? at h
  split at h
  · exact fits_of_header? .element (fun _ _ => trivial) h
  · exact fits_of_header? .table (fun _ _ => trivial) h
  · obtain ⟨⟨⟨path, name, v⟩, _⟩, hv, h⟩ := Option.map_eq_some_iff.mp h
    cases h
    exact fits_of_assignment? (fun _ _ _ => fits_of_value?) hv

theorem fits_of_readAll? {fuel : Nat} {cs : List Char} {ss : List Statement} (h : readAll? fuel cs = some ss) :
    ∀ s ∈ ss, s.Fits := by
  induction fuel generalizing cs ss with
  | zero => cases h
  | succ fuel ih =>
    unfold readAll? at h
    split at h
    · cases h
      exact List.forall_mem_nil _
    · obtain ⟨⟨s, _⟩, hs, h⟩ := Option.bind_eq_some_iff.mp h
      obtain ⟨rest, -, h⟩ := Option.bind_eq_some_iff.mp h
      obtain ⟨ss, hss, h⟩ := Option.bind_eq_some_iff.mp h
      cases h
      exact List.forall_mem_cons.mpr ⟨fits_of_read? hs, ih hss⟩

end Statement

/-! ### Documents -/

theorem Draft.fits_add {d e : Draft} (hd : d.root.Fits) {s : Statement} (hs : s.Fits) (h : d.add s = some e) :
    e.root.Fits := by
  cases s with
  | table path name =>
    obtain ⟨root, hroot, rfl⟩ := Option.map_eq_some_iff.mp h
    exact hd.openTable hroot
  | element path name =>
    obtain ⟨root, hroot, rfl⟩ := Option.map_eq_some_iff.mp h
    exact hd.openElement hroot
  | assign path name v =>
    obtain ⟨root, hroot, rfl⟩ := Option.map_eq_some_iff.mp h
    exact hd.within (fun _ _ _ hfields h => hfields.assign hs h) _ hroot

theorem Draft.fits_foldlM {d e : Draft} (hd : d.root.Fits) {ss : List Statement} (hs : ∀ s ∈ ss, s.Fits)
    (h : ss.foldlM Draft.add d = some e) : e.root.Fits := by
  induction ss generalizing d with
  | nil => exact Option.some.inj h ▸ hd
  | cons s ss ih =>
    obtain ⟨f, hf, h⟩ := Option.bind_eq_some_iff.mp h
    obtain ⟨hfirst, hs⟩ := List.forall_mem_cons.mp hs
    exact ih (fits_add hd hfirst hf) hs h

/-- Every whole number in a document has 64 bits. -/
theorem fits_of_read? {text : String} {v : Value} (h : read? text = some v) : v.Fits := by
  obtain ⟨ss, hss, h⟩ := Option.bind_eq_some_iff.mp h
  obtain ⟨d, hd, h⟩ := Option.bind_eq_some_iff.mp h
  obtain rfl := Option.some.inj h
  exact .table (Draft.fits_foldlM Fields.Fits.nil (Statement.fits_of_readAll? hss) hd).fieldValues

end RadioMesh.Toml
