import RadioMesh.Proofs.Client.Frame

/-!
What the owner is told when links come up and are lost. The names that are up form a set: a report adds its
name or takes it out, and disconnecting empties the set. The owner hears of the mesh when a report fills the
empty set and when a loss takes the last name, and of nothing else; so what the owner hears alternates, but for
the owner's own disconnecting.
-/

namespace RadioMesh

/-! ### What a step tells -/

def Effect.event? : Effect → Option MeshEvent
  | .event e => some e
  | _ => none

/-- What a step tells the owner. -/
def Step.events {α : Type} (s : Step α) : List MeshEvent :=
  s.effects.filterMap Effect.event?

@[simp] theorem Step.events_still {α : Type} (c : Client) (value : α) : (Step.still c value).events = [] := rfl

@[simp] theorem Step.events_andThen {α β : Type} (s : Step α) (next : Client → α → Step β) :
    (s.andThen next).events = s.events ++ (next s.client s.value).events := by
  simp [Step.events, Step.andThen, List.filterMap_append]

theorem Step.mem_events {α : Type} {s : Step α} {e : MeshEvent} : e ∈ s.events ↔ .event e ∈ s.effects := by
  simp only [Step.events, List.mem_filterMap]
  constructor
  · rintro ⟨effect, heffect, he⟩
    cases effect <;> cases he
    exact heffect
  · exact fun h => ⟨_, h, rfl⟩

/-! ### Reports and disconnecting -/

/-- What changes the names that are up. -/
inductive LinkCall
  | report (name : String) (report : LinkReport)
  | disconnect
deriving DecidableEq, Repr

namespace LinkCall

/-- The names that are up behind a call. -/
def upAfter (up : Finset String) : LinkCall → Finset String
  | .report name .started => insert name up
  | .report name .restarted => insert name up
  | .report name .lost => up.erase name
  | .disconnect => ∅

/-- The names that are up behind calls, if none was up before them. -/
def up (calls : List LinkCall) : Finset String :=
  calls.foldl upAfter ∅

@[simp] theorem up_append_singleton (calls : List LinkCall) (x : LinkCall) :
    up (calls ++ [x]) = upAfter (up calls) x := by
  simp [up]

/-- Only a report of a name that loses it, being the last one, or the owner empties the set. -/
theorem upAfter_eq_empty {names : Finset String} {x : LinkCall} (h : names ≠ ∅) (hx : upAfter names x = ∅) :
    x = .disconnect ∨ ∃ name, x = .report name .lost ∧ names = {name} := by
  cases x with
  | disconnect => exact .inl rfl
  | report name r =>
    cases r with
    | started => exact absurd hx (Finset.insert_ne_empty _ _)
    | restarted => exact absurd hx (Finset.insert_ne_empty _ _)
    | lost => exact .inr ⟨name, rfl, (Finset.erase_eq_empty_iff _ _).1 hx |>.resolve_left h⟩

end LinkCall

namespace Client

open LinkCall

def heed (c : Client) : LinkCall → Step Unit
  | .report name r => c.hear name r
  | .disconnect => c.disconnect

def heedAll (c : Client) : List LinkCall → Step Unit
  | [] => .still c ()
  | x :: rest => (c.heed x).andThen fun c () => c.heedAll rest

/-- All that a call can tell and leave behind, by the names that are up and whether the mesh was ever reached. -/
inductive Heeds (names : Finset String) (ever : Bool) (x : LinkCall) : List MeshEvent → Bool → Prop
  | rises (hbefore : names = ∅) (hafter : upAfter names x ≠ ∅) :
    Heeds names ever x [.connection (.connected ever)] true
  | falls {name : String} (hcall : x = .report name .lost) (hbefore : names = {name}) :
    Heeds names ever x [.connection .lost] ever
  | quiet (hrises : names = ∅ → upAfter names x = ∅) (hfalls : ∀ name, x = .report name .lost → names ≠ {name}) :
    Heeds names ever x [] ever

namespace Heeds

variable {names : Finset String} {ever ever' : Bool} {x : LinkCall} {events : List MeshEvent}

theorem connected_iff (h : Heeds names ever x events ever') {restarted : Bool} :
    .connection (.connected restarted) ∈ events ↔ names = ∅ ∧ upAfter names x ≠ ∅ ∧ restarted = ever := by
  cases h with
  | rises hbefore hafter => simp [hbefore, hbefore ▸ hafter]
  | falls hcall hbefore => simp [hbefore]
  | quiet hrises hfalls =>
    simp only [List.not_mem_nil, false_iff]
    exact fun ⟨hbefore, hafter, _⟩ => hafter (hrises hbefore)

theorem lost_iff (h : Heeds names ever x events ever') :
    .connection .lost ∈ events ↔ ∃ name, x = .report name .lost ∧ names = {name} := by
  cases h with
  | rises hbefore hafter => simp [hbefore]
  | @falls name hcall hbefore => simp [hcall, hbefore]
  | quiet hrises hfalls => simpa using hfalls

theorem only_connection (h : Heeds names ever x events ever') :
    (∀ e ∈ events, ∃ state, e = .connection state) ∧ events.length ≤ 1 := by
  cases h <;> simp

theorem ever_iff (h : Heeds names ever x events ever') :
    ever' = true ↔ ever = true ∨ ∃ restarted, .connection (.connected restarted) ∈ events := by
  cases h <;> simp

end Heeds

variable {c : Client}

theorem toFinset_eq_singleton_iff {names : List String} {name : String} :
    names.toFinset = {name} ↔ name ∈ names ∧ (names.filter (· ≠ name)).isEmpty = true := by
  simp only [Finset.ext_iff, List.mem_toFinset, Finset.mem_singleton, List.isEmpty_iff, List.filter_eq_nil_iff,
    decide_eq_true_eq, not_not]
  constructor
  · exact fun h => ⟨(h name).2 rfl, fun other hother => (h other).1 hother⟩
  · rintro ⟨hmem, hall⟩ other
    exact ⟨hall other, fun h => h ▸ hmem⟩

theorem heeds_comeUp (name : String) {r : LinkReport} (hr : r ≠ .lost) :
    Heeds c.up.toFinset c.everConnected (.report name r) (c.comeUp name).events
      (c.comeUp name).client.everConnected := by
  rw [comeUp]
  by_cases hup : c.up = []
  · rw [if_pos (List.isEmpty_iff.2 hup)]
    refine .rises (by simp [hup]) ?_
    cases r with
    | lost => exact absurd rfl hr
    | _ => exact Finset.insert_ne_empty _ _
  · rw [if_neg fun h => hup (List.isEmpty_iff.1 h)]
    refine .quiet (fun h => absurd (List.toFinset_eq_empty_iff _ |>.1 h) hup) fun _ hcall => ?_
    cases hcall
    exact absurd rfl hr

theorem heeds_goDown (name : String) :
    Heeds c.up.toFinset c.everConnected (.report name .lost) (c.goDown name).events
      (c.goDown name).client.everConnected := by
  rw [goDown]
  by_cases hlast : c.up.toFinset = {name}
  · rw [if_pos (toFinset_eq_singleton_iff.1 hlast)]
    exact .falls rfl hlast
  · rw [if_neg fun h => hlast (toFinset_eq_singleton_iff.2 h)]
    refine .quiet (fun h => ?_) fun other hcall => ?_
    · simp [h, upAfter]
    · cases hcall
      exact hlast

theorem heeds (c : Client) (x : LinkCall) :
    Heeds c.up.toFinset c.everConnected x (c.heed x).events (c.heed x).client.everConnected := by
  cases x with
  | disconnect =>
    have hevents : (c.heed .disconnect).events = [] := by
      simp [heed, disconnect, Step.events, Effect.event?]
    rw [hevents]
    exact .quiet (fun _ => rfl) fun _ => LinkCall.noConfusion
  | report name r =>
    cases r with
    | started => exact heeds_comeUp name LinkReport.noConfusion
    | restarted => exact heeds_comeUp name LinkReport.noConfusion
    | lost => exact heeds_goDown name

theorem toFinset_up_comeUp (name : String) : (c.comeUp name).client.up.toFinset = insert name c.up.toFinset := by
  have hup : (if name ∈ c.up then c.up else name :: c.up).toFinset = insert name c.up.toFinset := by
    split
    · next h => rw [Finset.insert_eq_of_mem (List.mem_toFinset.2 h)]
    · exact List.toFinset_cons
  rw [comeUp]
  split
  · exact hup
  · exact hup

theorem toFinset_up_goDown (name : String) : (c.goDown name).client.up.toFinset = c.up.toFinset.erase name := by
  have hup : (c.up.filter (· ≠ name)).toFinset = c.up.toFinset.erase name := by
    ext other
    simp [and_comm]
  rw [goDown]
  split
  · exact hup
  · exact hup

theorem toFinset_up_heed (c : Client) (x : LinkCall) :
    (c.heed x).client.up.toFinset = upAfter c.up.toFinset x := by
  cases x with
  | disconnect => rfl
  | report name r =>
    cases r with
    | started => exact toFinset_up_comeUp name
    | restarted => exact toFinset_up_comeUp name
    | lost => exact toFinset_up_goDown name

/-! ### Calls one after the other -/

theorem heedAll_append_singleton (c : Client) (calls : List LinkCall) (x : LinkCall) :
    (c.heedAll (calls ++ [x])).client = ((c.heedAll calls).client.heed x).client ∧
      (c.heedAll (calls ++ [x])).events = (c.heedAll calls).events ++ ((c.heedAll calls).client.heed x).events := by
  induction calls generalizing c with
  | nil => simp [heedAll, Step.andThen, Step.events, Step.still]
  | cons y calls ih =>
    obtain ⟨hclient, hevents⟩ := ih (c.heed y).client
    refine ⟨hclient, ?_⟩
    simp only [List.cons_append, heedAll, Step.events_andThen, hevents, List.append_assoc]
    rfl

/-- A new client with links. -/
def ofLinks (s : Settings) (m : Moment) (links : List Link) : Client :=
  { ofSettings s m with links := links }

/-- A call that comes after others tells of a state of the mesh. -/
def Tells (c : Client) (earlier : List LinkCall) (x : LinkCall) (state : ConnectionState) : Prop :=
  .connection state ∈ ((c.heedAll earlier).client.heed x).events

/-- The state behind calls, told from the calls and from what they told. -/
structure Follows (c : Client) (calls : List LinkCall) : Prop where
  up : (c.heedAll calls).client.up.toFinset = LinkCall.up calls
  ever : (c.heedAll calls).client.everConnected = true ↔
    ∃ restarted, .connection (.connected restarted) ∈ (c.heedAll calls).events

theorem follows (s : Settings) (m : Moment) (links : List Link) (calls : List LinkCall) :
    (ofLinks s m links).Follows calls := by
  induction calls using List.reverseRecOn with
  | nil => exact ⟨rfl, by simp [heedAll, Step.still, ofLinks, ofSettings, Step.events]⟩
  | append_singleton calls x ih =>
    obtain ⟨hclient, hevents⟩ := heedAll_append_singleton (ofLinks s m links) calls x
    refine ⟨?_, ?_⟩
    · rw [hclient, toFinset_up_heed, ih.up, up_append_singleton]
    · rw [hclient, hevents, (heeds _ x).ever_iff, ih.ever]
      simp [exists_or]

namespace Follows

variable {calls : List LinkCall} {x : LinkCall}

theorem heeds (h : c.Follows calls) :
    Heeds (LinkCall.up calls) (c.heedAll calls).client.everConnected x ((c.heedAll calls).client.heed x).events
      ((c.heedAll calls).client.heed x).client.everConnected :=
  h.up ▸ Client.heeds _ x

theorem tells_connected_iff (h : c.Follows calls) {restarted : Bool} :
    c.Tells calls x (.connected restarted) ↔ LinkCall.up calls = ∅ ∧ LinkCall.up (calls ++ [x]) ≠ ∅ ∧
      restarted = (c.heedAll calls).client.everConnected := by
  rw [up_append_singleton]
  exact h.heeds.connected_iff

theorem tells_lost_iff (h : c.Follows calls) :
    c.Tells calls x .lost ↔ ∃ name, x = .report name .lost ∧ LinkCall.up calls = {name} :=
  h.heeds.lost_iff

end Follows

/-! ### What is told between two of the same -/

/-- What holds with one element and no more with all that follow it ends with one of them. -/
theorem exists_turn {α : Type} {P : List α → Prop} {earlier : List α} {x : α} (h : P (earlier ++ [x]))
    (between : List α) (hend : ¬P (earlier ++ x :: between)) :
    ∃ b z rest, between = b ++ z :: rest ∧ P (earlier ++ x :: b) ∧ ¬P ((earlier ++ x :: b) ++ [z]) := by
  induction between generalizing earlier x with
  | nil => exact absurd h hend
  | cons z rest ih =>
    by_cases hz : P ((earlier ++ [x]) ++ [z])
    · obtain ⟨b, z', rest', rfl, hb, hz'⟩ := ih hz (by simpa using hend)
      exact ⟨z :: b, z', rest', rfl, by simpa using hb, by simpa using hz'⟩
    · exact ⟨[], z, rest, rfl, h, hz⟩

section Between
variable {earlier between : List LinkCall} {x y : LinkCall}

theorem exists_lost_between (hfollows : ∀ calls, c.Follows calls) {first second : Bool}
    (hx : c.Tells earlier x (.connected first)) (hy : c.Tells (earlier ++ x :: between) y (.connected second)) :
    ∃ b z rest, between = b ++ z :: rest ∧ (z = .disconnect ∨ c.Tells (earlier ++ x :: b) z .lost) := by
  obtain ⟨-, hup, -⟩ := (hfollows _).tells_connected_iff.1 hx
  obtain ⟨hdown, -, -⟩ := (hfollows _).tells_connected_iff.1 hy
  obtain ⟨b, z, rest, rfl, hbefore, hafter⟩ := exists_turn (P := fun calls => LinkCall.up calls ≠ ∅)
    hup between (by simpa using hdown)
  refine ⟨b, z, rest, rfl, ?_⟩
  rw [not_not, up_append_singleton] at hafter
  rcases upAfter_eq_empty hbefore hafter with hz | hz
  · exact .inl hz
  · exact .inr ((hfollows _).tells_lost_iff.2 hz)

theorem exists_connected_between (hfollows : ∀ calls, c.Follows calls) (hx : c.Tells earlier x .lost)
    (hy : c.Tells (earlier ++ x :: between) y .lost) :
    ∃ b z rest restarted, between = b ++ z :: rest ∧ c.Tells (earlier ++ x :: b) z (.connected restarted) := by
  obtain ⟨name, rfl, hone⟩ := (hfollows _).tells_lost_iff.1 hx
  obtain ⟨other, -, hother⟩ := (hfollows _).tells_lost_iff.1 hy
  have hdown : LinkCall.up (earlier ++ [.report name .lost]) = ∅ := by simp [hone, upAfter]
  obtain ⟨b, z, rest, rfl, hbefore, hafter⟩ := exists_turn (P := fun calls => LinkCall.up calls = ∅)
    hdown between (by simp [hother])
  exact ⟨b, z, rest, _, rfl, (hfollows _).tells_connected_iff.2 ⟨hbefore, hafter, rfl⟩⟩

end Between

/-! ### Runs -/

theorem restarted_iff (hfollows : ∀ calls, c.Follows calls) {calls : List LinkCall} {earlier later : List MeshEvent}
    {restarted : Bool} (h : (c.heedAll calls).events = earlier ++ .connection (.connected restarted) :: later) :
    restarted = true ↔ ∃ before, .connection (.connected before) ∈ earlier := by
  -- On the end of the calls; the last one tells nothing, or the event in question, or one behind it.
  induction calls using List.reverseRecOn generalizing later with
  | nil => simp [heedAll] at h
  | append_singleton calls x ih =>
    rw [(heedAll_append_singleton c calls x).2] at h
    have hheeds := (hfollows calls).heeds (x := x)
    generalize hevents : ((c.heedAll calls).client.heed x).events = events at h hheeds
    rcases events with _ | ⟨e, _ | ⟨e', events⟩⟩
    · exact ih (by simpa using h)
    · rcases List.eq_nil_or_concat later with rfl | ⟨later', e', rfl⟩
      · obtain ⟨rfl, he⟩ := List.append_inj' h rfl
        cases he
        obtain ⟨-, -, rfl⟩ := hheeds.connected_iff.1 (List.mem_singleton_self _)
        exact (hfollows calls).ever
      · have hboth : (c.heedAll calls).events ++ [e] =
            (earlier ++ .connection (.connected restarted) :: later') ++ [e'] := by
          simpa using h
        obtain ⟨hinit, -⟩ := List.append_inj' hboth rfl
        exact ih hinit
    · exact absurd hheeds.only_connection.2 (by simp)

/-- The owner hears of the mesh when the set of names that are up is filled and when a loss empties it, and the
two kinds of notices take turns. Only the first connection is no restart. -/
theorem links_told (s : Settings) (m : Moment) (links : List Link) :
    let c := ofLinks s m links
    (∀ calls x,
      ((∃ restarted, c.Tells calls x (.connected restarted)) ↔
        LinkCall.up calls = ∅ ∧ LinkCall.up (calls ++ [x]) ≠ ∅) ∧
      (c.Tells calls x .lost ↔
        (∃ name, x = .report name .lost) ∧ (LinkCall.up calls).card = 1 ∧ LinkCall.up (calls ++ [x]) = ∅) ∧
      (∀ e ∈ ((c.heedAll calls).client.heed x).events, ∃ state, e = .connection state) ∧
      ((c.heedAll calls).client.heed x).events.length ≤ 1) ∧
    (∀ calls earlier restarted later,
      (c.heedAll calls).events = earlier ++ .connection (.connected restarted) :: later →
      (restarted = true ↔ ∃ before, .connection (.connected before) ∈ earlier)) ∧
    (∀ earlier x between y first second,
      c.Tells earlier x (.connected first) → c.Tells (earlier ++ x :: between) y (.connected second) →
      ∃ b z rest, between = b ++ z :: rest ∧ (z = .disconnect ∨ c.Tells (earlier ++ x :: b) z .lost)) ∧
    ∀ earlier x between y, c.Tells earlier x .lost → c.Tells (earlier ++ x :: between) y .lost →
      ∃ b z rest restarted, between = b ++ z :: rest ∧ c.Tells (earlier ++ x :: b) z (.connected restarted) := by
  intro c
  have hfollows : ∀ calls, c.Follows calls := follows s m links
  refine ⟨fun calls x => ⟨?_, ?_, (hfollows calls).heeds.only_connection⟩, fun _ _ _ _ => restarted_iff hfollows,
    fun _ _ _ _ _ _ => exists_lost_between hfollows, fun _ _ _ _ => exists_connected_between hfollows⟩
  · simp only [(hfollows calls).tells_connected_iff, exists_and_left, exists_eq, and_true]
  · rw [(hfollows calls).tells_lost_iff, up_append_singleton]
    constructor
    · rintro ⟨name, rfl, hup⟩
      exact ⟨⟨name, rfl⟩, by simp [hup], by simp [hup, upAfter]⟩
    · rintro ⟨⟨name, rfl⟩, hcard, hdown⟩
      have hne : LinkCall.up calls ≠ ∅ := fun h => by simp [h] at hcard
      exact ⟨name, rfl, ((Finset.erase_eq_empty_iff _ _).1 hdown).resolve_left hne⟩

/-- Two links that come up and are lost, and one that comes up again. -/
theorem links_told_again :
    let c := ofLinks (.ofNode ⟨1⟩) ⟨0, 0, fun _ => 0⟩ [{ name := "mqtt" }, { name := "udp" }]
    let between : List LinkCall := [.report "udp" .started, .report "mqtt" .lost, .report "udp" .lost]
    c.Tells [] (.report "mqtt" .started) (.connected false) ∧
      c.Tells (.report "mqtt" .started :: between) (.report "udp" .restarted) (.connected true) ∧
      ∃ b z rest, between = b ++ z :: rest ∧
        (z = .disconnect ∨ c.Tells (.report "mqtt" .started :: b) z .lost) := by
  intro c between
  have hfirst : c.Tells [] (.report "mqtt" .started) (.connected false) := List.mem_singleton_self _
  have hagain : c.Tells (.report "mqtt" .started :: between) (.report "udp" .restarted) (.connected true) :=
    List.mem_singleton_self _
  obtain ⟨-, -, hbetween, -⟩ := links_told (.ofNode ⟨1⟩) ⟨0, 0, fun _ => 0⟩ [{ name := "mqtt" }, { name := "udp" }]
  exact ⟨hfirst, hagain, hbetween [] _ _ _ _ _ hfirst hagain⟩

end Client

end RadioMesh
