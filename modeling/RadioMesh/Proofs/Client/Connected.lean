import Mathlib.Data.List.Nodup
import RadioMesh.Proofs.Client.LinkNotices

/-!
Whether a client is connected goes by its links, and what it tells of losses goes by their names. The two agree
in every run of reports exactly when no two links share a name.
-/

namespace RadioMesh

/-! ### Last reports -/

/-- The last report of the link at a place. -/
def lastReport? (reports : List (Nat × LinkReport)) (k : Nat) : Option LinkReport :=
  (reports.filter fun (i, _) => i = k).getLast?.map (·.2)

@[simp] theorem lastReport?_nil (k : Nat) : lastReport? [] k = none := rfl

@[simp] theorem lastReport?_append_singleton (reports : List (Nat × LinkReport)) (i : Nat) (r : LinkReport)
    (k : Nat) : lastReport? (reports ++ [(i, r)]) k = if i = k then some r else lastReport? reports k := by
  by_cases h : i = k <;> simp [lastReport?, h]

/-- The link at a place reported, and no loss last. -/
def IsUp (reports : List (Nat × LinkReport)) (k : Nat) : Prop :=
  ∃ r, lastReport? reports k = some r ∧ r ≠ .lost

instance (reports : List (Nat × LinkReport)) (k : Nat) : Decidable (IsUp reports k) :=
  decidable_of_iff ((lastReport? reports k).any (· ≠ .lost) = true) (by simp [IsUp, Option.any_eq_true])

theorem not_isUp_nil (k : Nat) : ¬IsUp [] k := by
  simp [IsUp]

theorem isUp_append_singleton {reports : List (Nat × LinkReport)} {i : Nat} {r : LinkReport} {k : Nat} :
    IsUp (reports ++ [(i, r)]) k ↔ if i = k then r ≠ .lost else IsUp reports k := by
  by_cases h : i = k <;> simp [IsUp, h]

namespace Client

open LinkCall

/-- Links report by their places, one after the other. -/
def reportAll (c : Client) : List (Nat × LinkReport) → Step Unit
  | [] => .still c ()
  | (i, r) :: rest => (c.report i r).andThen fun c () => c.reportAll rest

theorem reportAll_append_singleton (c : Client) (reports : List (Nat × LinkReport)) (i : Nat) (r : LinkReport) :
    (c.reportAll (reports ++ [(i, r)])).client = ((c.reportAll reports).client.report i r).client := by
  induction reports generalizing c with
  | nil => rfl
  | cons report reports ih => exact ih (c.report report.1 report.2).client

/-- The reports by the names of the links, if there is a link at their place. -/
def named (names : List String) (reports : List (Nat × LinkReport)) : List LinkCall :=
  reports.filterMap fun (i, r) => names[i]?.map (.report · r)

section Named
variable {names : List String} {reports : List (Nat × LinkReport)} {i : Nat} {r : LinkReport}

theorem named_append_of_none (h : names[i]? = none) : named names (reports ++ [(i, r)]) = named names reports := by
  simp [named, List.filterMap_append, h]

theorem named_append_of_some {name : String} (h : names[i]? = some name) :
    named names (reports ++ [(i, r)]) = named names reports ++ [LinkCall.report name r] := by
  simp [named, List.filterMap_append, h]

end Named

/-- A report that comes after others tells that the mesh is lost. -/
def TellsLost (c : Client) (reports : List (Nat × LinkReport)) (i : Nat) (r : LinkReport) : Prop :=
  .connection .lost ∈ ((c.reportAll reports).client.report i r).events

/-- A new client with a link of each name. -/
def ofNames (s : Settings) (m : Moment) (names : List String) : Client :=
  ofLinks s m (names.map fun name => { name := name })

/-! ### One report -/

section Report
variable {c : Client} {i : Nat} {l : Link}

theorem report_of_none (h : c.links[i]? = none) (r : LinkReport) : c.report i r = .still c () := by
  simp only [report, h]

theorem report_of_some (h : c.links[i]? = some l) (r : LinkReport) :
    c.report i r = (c.modifyLink i fun l => { l with connected := r ≠ .lost }).heed (.report l.name r) := by
  simp only [report, h, heed]

@[simp] theorem links_hear (name : String) (r : LinkReport) : (c.hear name r).client.links = c.links := by
  cases r <;> simp only [hear, comeUp, goDown] <;> split <;> rfl

theorem links_report (r : LinkReport) (k : Nat) :
    (c.report i r).client.links[k]? =
      c.links[k]?.map fun l => if i = k then { l with connected := r ≠ .lost } else l := by
  cases h : c.links[i]? with
  | none =>
    rw [report_of_none h]
    by_cases hk : i = k
    · simp [Step.still, ← hk, h]
    · simp [Step.still, hk]
  | some l =>
    rw [report_of_some h, heed, links_hear, modifyLink, List.getElem?_modify]
    by_cases hk : i = k <;> simp [hk]

theorem toFinset_up_report (h : c.links[i]? = some l) (r : LinkReport) :
    (c.report i r).client.up.toFinset = upAfter c.up.toFinset (.report l.name r) := by
  rw [report_of_some h, toFinset_up_heed, modifyLink]

theorem report_tells_lost_iff (h : c.links[i]? = some l) {r : LinkReport} :
    .connection .lost ∈ (c.report i r).events ↔ r = .lost ∧ c.up.toFinset = {l.name} := by
  rw [report_of_some h, (heeds _ _).lost_iff]
  simp [modifyLink, and_assoc]

end Report

/-! ### Runs of reports -/

section Reports
variable (s : Settings) (m : Moment) {names : List String} {reports : List (Nat × LinkReport)}

theorem links_reportAll (names : List String) (reports : List (Nat × LinkReport)) (k : Nat) :
    ((ofNames s m names).reportAll reports).client.links[k]? =
      names[k]?.map fun name => { name := name, connected := IsUp reports k } := by
  induction reports using List.reverseRecOn with
  | nil => simp [reportAll, Step.still, ofNames, ofLinks, not_isUp_nil]
  | append_singleton reports report ih =>
    obtain ⟨i, r⟩ := report
    rw [reportAll_append_singleton, links_report, ih]
    cases names[k]? with
    | none => rfl
    | some name => by_cases hk : i = k <;> simp [isUp_append_singleton, hk]

theorem isConnected_reportAll :
    ((ofNames s m names).reportAll reports).client.isConnected = true ↔
      ∃ k name, names[k]? = some name ∧ IsUp reports k := by
  simp only [isConnected, List.any_eq_true, List.mem_iff_getElem?, links_reportAll, Option.map_eq_some_iff]
  constructor
  · rintro ⟨l, ⟨k, name, hname, rfl⟩, hl⟩
    exact ⟨k, name, hname, by simpa using hl⟩
  · rintro ⟨k, name, hname, hup⟩
    exact ⟨_, ⟨k, name, hname, rfl⟩, by simpa using hup⟩

theorem toFinset_up_reportAll :
    ((ofNames s m names).reportAll reports).client.up.toFinset = LinkCall.up (named names reports) := by
  induction reports using List.reverseRecOn with
  | nil => rfl
  | append_singleton reports report ih =>
    obtain ⟨i, r⟩ := report
    have hlink := links_reportAll s m names reports i
    rw [reportAll_append_singleton]
    cases hi : names[i]? with
    | none =>
      rw [hi, Option.map_none] at hlink
      rw [report_of_none hlink, named_append_of_none hi]
      exact ih
    | some name =>
      rw [hi, Option.map_some] at hlink
      rw [toFinset_up_report hlink, named_append_of_some hi, up_append_singleton, ih]

theorem tellsLost_iff {i : Nat} {r : LinkReport} :
    (ofNames s m names).TellsLost reports i r ↔
      ∃ name, names[i]? = some name ∧ r = .lost ∧ LinkCall.up (named names reports) = {name} := by
  have hlink := links_reportAll s m names reports i
  rw [TellsLost, ← toFinset_up_reportAll s m]
  cases hi : names[i]? with
  | none =>
    rw [hi, Option.map_none] at hlink
    simp [report_of_none hlink]
  | some name =>
    rw [hi, Option.map_some] at hlink
    simp [report_tells_lost_iff hlink]

end Reports

/-! ### Distinct names -/

section Distinct
variable {s : Settings} {m : Moment} {names : List String} {reports : List (Nat × LinkReport)}

/-- The names that are up are those of the links that are. -/
theorem mem_up_named (hnames : names.Nodup) {name : String} :
    name ∈ LinkCall.up (named names reports) ↔ ∃ k, names[k]? = some name ∧ IsUp reports k := by
  induction reports using List.reverseRecOn with
  | nil => simp [named, LinkCall.up, not_isUp_nil]
  | append_singleton reports report ih =>
    obtain ⟨i, r⟩ := report
    simp only [isUp_append_singleton]
    cases hi : names[i]? with
    | none =>
      -- The report is of no link, so that none changes.
      rw [named_append_of_none hi, ih]
      refine exists_congr fun k => and_congr_right fun hk => ?_
      have hne : i ≠ k := by
        rintro rfl
        simp [hi] at hk
      rw [if_neg hne]
    | some own =>
      rw [named_append_of_some hi, up_append_singleton]
      by_cases hname : name = own
      · -- Only this link has the name.
        subst hname
        have hbound : i < names.length := (List.getElem?_eq_some_iff.1 hi).1
        have hplace : ∀ k, names[k]? = some name ↔ i = k := fun k => by
          rw [← List.getElem?_inj hbound hnames, hi, eq_comm]
        simp only [hplace, exists_eq_left', if_true]
        cases r <;> simp [upAfter]
      · -- Links of other names stay as they were.
        have hplace : ∀ k, names[k]? = some name → i ≠ k := by
          rintro k hk rfl
          exact hname (Option.some_inj.1 (hk.symm.trans hi))
        have hkept : name ∈ upAfter (LinkCall.up (named names reports)) (.report own r) ↔
            name ∈ LinkCall.up (named names reports) := by
          cases r <;> simp [upAfter, hname]
        rw [hkept, ih]
        refine exists_congr fun k => and_congr_right fun hk => ?_
        rw [if_neg (hplace k hk)]

theorem isConnected_iff_up (hnames : names.Nodup) :
    ((ofNames s m names).reportAll reports).client.isConnected = true ↔ LinkCall.up (named names reports) ≠ ∅ := by
  simp only [isConnected_reportAll, ← Finset.nonempty_iff_ne_empty, Finset.Nonempty, mem_up_named hnames]
  exact exists_comm

theorem not_isConnected_iff_up (hnames : names.Nodup) :
    ((ofNames s m names).reportAll reports).client.isConnected = false ↔ LinkCall.up (named names reports) = ∅ := by
  rw [← Bool.not_eq_true, isConnected_iff_up hnames, not_not]

theorem not_isConnected_of_tellsLost (hnames : names.Nodup) {i : Nat} {r : LinkReport}
    (h : (ofNames s m names).TellsLost reports i r) :
    ((ofNames s m names).reportAll (reports ++ [(i, r)])).client.isConnected = false := by
  obtain ⟨name, hi, rfl, hup⟩ := (tellsLost_iff s m).1 h
  rw [not_isConnected_iff_up hnames, named_append_of_some hi, up_append_singleton, hup]
  simp [upAfter]

theorem tellsLost_of_isConnected (hnames : names.Nodup) {i : Nat} {r : LinkReport}
    (hbefore : ((ofNames s m names).reportAll reports).client.isConnected = true)
    (hafter : ((ofNames s m names).reportAll (reports ++ [(i, r)])).client.isConnected = false) :
    (ofNames s m names).TellsLost reports i r := by
  rw [isConnected_iff_up hnames] at hbefore
  rw [not_isConnected_iff_up hnames] at hafter
  cases hi : names[i]? with
  | none =>
    rw [named_append_of_none hi] at hafter
    exact absurd hafter hbefore
  | some own =>
    rw [named_append_of_some hi, up_append_singleton] at hafter
    rcases upAfter_eq_empty hbefore hafter with hcall | ⟨name, hcall, hup⟩
    · exact LinkCall.noConfusion hcall
    · cases hcall
      exact (tellsLost_iff s m).2 ⟨_, hi, rfl, hup⟩

end Distinct

/-! ### Links that share a name -/

section Shared
variable {s : Settings} {m : Moment} {names : List String} {i j : Nat} {name : String}

theorem exists_shared (h : ¬names.Nodup) :
    ∃ (i j : Nat) (name : String), i ≠ j ∧ names[i]? = some name ∧ names[j]? = some name := by
  simp only [List.nodup_iff_getElem?_ne_getElem?, not_forall, not_not] at h
  obtain ⟨i, j, hij, hj, hname⟩ := h
  rw [List.getElem?_eq_getElem hj] at hname
  exact ⟨i, j, names[j], hij.ne, hname, List.getElem?_eq_getElem hj⟩

/-- The loss of one of two links is told though the other is connected. -/
theorem tellsLost_of_shared (hij : i ≠ j) (hi : names[i]? = some name) (hj : names[j]? = some name) :
    (ofNames s m names).TellsLost [(i, .started), (j, .started)] i .lost ∧
      ((ofNames s m names).reportAll [(i, .started), (j, .started), (i, .lost)]).client.isConnected = true := by
  refine ⟨(tellsLost_iff s m).2 ⟨name, hi, rfl, ?_⟩, (isConnected_reportAll s m).2 ⟨j, name, hj, ?_⟩⟩
  · simp [named, hi, hj, LinkCall.up, upAfter]
  · simp [IsUp, lastReport?, hij]

/-- The loss of the other one is not told. -/
theorem not_tellsLost_of_shared (hi : names[i]? = some name) (hj : names[j]? = some name) :
    ¬(ofNames s m names).TellsLost [(i, .started), (j, .started), (i, .lost)] j .lost ∧
      ((ofNames s m names).reportAll [(i, .started), (j, .started), (i, .lost), (j, .lost)]).client.isConnected =
        false := by
  constructor
  · rw [tellsLost_iff]
    simp [named, hi, hj, LinkCall.up, upAfter]
  · rw [← Bool.not_eq_true, isConnected_reportAll]
    rintro ⟨k, -, -, hup⟩
    by_cases hik : i = k <;> by_cases hjk : j = k <;> simp [IsUp, lastReport?, hik, hjk] at hup

end Shared

/-- The flag of every link is that of its last report. A loss is told only when no link is connected, and told
whenever the last one is lost, in all runs exactly if no two links share a name. -/
theorem losses_agree_iff_nodup (s : Settings) (m : Moment) (names : List String) :
    let c := ofNames s m names
    (∀ reports (k : Nat), (c.reportAll reports).client.links[k]? =
      names[k]?.map fun name => { name := name, connected := IsUp reports k }) ∧
    ((∀ reports i r, c.TellsLost reports i r →
      (c.reportAll (reports ++ [(i, r)])).client.isConnected = false) ↔ names.Nodup) ∧
    ((∀ reports i r, (c.reportAll reports).client.isConnected = true →
      (c.reportAll (reports ++ [(i, r)])).client.isConnected = false → c.TellsLost reports i r) ↔ names.Nodup) := by
  intro c
  refine ⟨links_reportAll s m names, ⟨fun h => ?_, fun hnames _ _ _ => not_isConnected_of_tellsLost hnames⟩,
    fun h => ?_, fun hnames _ _ _ => tellsLost_of_isConnected hnames⟩
  · by_contra hnames
    obtain ⟨i, j, name, hij, hi, hj⟩ := exists_shared hnames
    obtain ⟨htold, hconnected⟩ := tellsLost_of_shared (s := s) (m := m) hij hi hj
    exact absurd (h _ _ _ htold) (by simpa using hconnected)
  · by_contra hnames
    obtain ⟨i, j, name, hij, hi, hj⟩ := exists_shared hnames
    obtain ⟨-, hconnected⟩ := tellsLost_of_shared (s := s) (m := m) hij hi hj
    obtain ⟨hsilent, hlost⟩ := not_tellsLost_of_shared (s := s) (m := m) hi hj
    exact hsilent (h _ _ _ hconnected hlost)

theorem losses_agree_iff_nodup_distinct :
    let c := ofNames (.ofNode ⟨1⟩) ⟨0, 0, fun _ => 0⟩ ["mqtt", "udp"]
    ["mqtt", "udp"].Nodup ∧
      ∀ reports i r, (c.reportAll reports).client.isConnected = true →
        (c.reportAll (reports ++ [(i, r)])).client.isConnected = false → c.TellsLost reports i r := by
  intro c
  have hnames : ["mqtt", "udp"].Nodup := by decide
  obtain ⟨-, -, htold⟩ := losses_agree_iff_nodup (.ofNode ⟨1⟩) ⟨0, 0, fun _ => 0⟩ ["mqtt", "udp"]
  exact ⟨hnames, htold.2 hnames⟩

/-- Of two links of one name, the loss of the first is told and that of the last one is not. -/
theorem losses_disagree_udp_udp :
    let c := ofNames (.ofNode ⟨1⟩) ⟨0, 0, fun _ => 0⟩ ["udp", "udp"]
    let started : List (Nat × LinkReport) := [(0, .started), (1, .started)]
    let first : Nat × LinkReport := (0, .lost)
    let last : Nat × LinkReport := (1, .lost)
    c.TellsLost started first.1 first.2 ∧ (c.reportAll (started ++ [first])).client.isConnected = true ∧
      ¬c.TellsLost (started ++ [first]) last.1 last.2 ∧
      (c.reportAll (started ++ [first] ++ [last])).client.isConnected = false := by
  intro c started first last
  exact ⟨List.mem_singleton_self _, rfl, List.not_mem_nil, rfl⟩

end Client

end RadioMesh
