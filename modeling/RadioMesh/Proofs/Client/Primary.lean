import RadioMesh.Proofs.Client.Joins
import RadioMesh.Proofs.Client.OnAir

/-!
The channel for announcements. It is the definition that was chosen last, kept beside the joined channels. A join that
is no choice replaces what stands under a name and not what was chosen, so the two agree exactly as long as the name of
the chosen definition is not given another one.
-/

namespace RadioMesh.Client

open RadioMesh.Action RadioMesh.ChannelDef

/-- An action that chooses the channel for announcements. -/
def Chooses (a : Action) : Prop :=
  ∃ d, a = .setPrimary d

theorem primaryAfter_of_not_chooses {a : Action} (h : ¬Chooses a) (primary : ChannelDef) :
    a.primaryAfter primary = primary := by
  cases a with
  | setPrimary d => exact absurd ⟨d, rfl⟩ h
  | _ => rfl

theorem primary_act (c : Client) (m : Moment) (a : Action) :
    (c.act m a).client.primary = a.primaryAfter c.primary := by
  cases ha : a.joins? with
  | none =>
    have hchooses : ¬Chooses a := by
      rintro ⟨d, rfl⟩
      cases ha
    rw [(c.act_of_not_joins m ha).2.1, primaryAfter_of_not_chooses hchooses]
  | some d => rw [(act_of_joins? ha).2]

/-- A run leaves the choice alone that was made before. -/
theorem primary_run {c : Client} {actions : List (Moment × Action)} (h : ∀ x ∈ actions, ¬Chooses x.2) :
    (c.run actions).client.primary = c.primary := by
  induction actions generalizing c with
  | nil => rfl
  | cons x actions ih =>
    show ((c.act x.1 x.2).client.run actions).client.primary = c.primary
    rw [ih fun y hy => h y (List.mem_cons_of_mem x hy), primary_act,
      primaryAfter_of_not_chooses (h x List.mem_cons_self)]

/-- Of the choices in a run, one is the last. -/
theorem exists_last_choice {actions : List (Moment × Action)} (h : ∃ x ∈ actions, Chooses x.2) :
    ∃ earlier m d later, actions = earlier ++ (m, .setPrimary d) :: later ∧ ∀ x ∈ later, ¬Chooses x.2 := by
  induction actions using List.reverseRecOn with
  | nil =>
    obtain ⟨x, hx, -⟩ := h
    cases hx
  | append_singleton actions x ih =>
    obtain ⟨m, a⟩ := x
    by_cases hlast : Chooses a
    · obtain ⟨d, rfl⟩ := hlast
      exact ⟨actions, m, d, [], rfl, fun _ hx => nomatch hx⟩
    · have hbefore : ∃ x ∈ actions, Chooses x.2 := by
        obtain ⟨x, hx, hchooses⟩ := h
        rcases List.mem_append.1 hx with hx | hx
        · exact ⟨x, hx, hchooses⟩
        · rw [List.mem_singleton.1 hx] at hchooses
          exact absurd hchooses hlast
      obtain ⟨earlier, m', d, later, rfl, hlater⟩ := ih hbefore
      refine ⟨earlier, m', d, later ++ [(m, a)], by simp, fun x hx => ?_⟩
      rcases List.mem_append.1 hx with hx | hx
      · exact hlater x hx
      · rw [List.mem_singleton.1 hx]
        exact hlast

section Choice
variable {s : Settings} {m₀ m : Moment} {earlier later : List (Moment × Action)} {d : ChannelDef}

theorem primary_after_choice (h : ∀ x ∈ later, ¬Chooses x.2) :
    (after s m₀ (earlier ++ (m, .setPrimary d) :: later)).primary = d := by
  rw [after, run_append_client]
  exact (primary_run h).trans (primary_act _ m (.setPrimary d))

/-- What stands under the name of a choice: the definition that was joined last behind it, or else the choice. -/
theorem channel?_after_choice : (after s m₀ (earlier ++ (m, .setPrimary d) :: later)).channel? d.name =
    (latest? (joins later) d.name).or (some d) := by
  have hjoins : joins (earlier ++ (m, .setPrimary d) :: later) = (joins earlier ++ [d]) ++ joins later := by
    simp [joins, joins?]
  rw [channel?_after, hjoins, latest?_append, latest?_append_singleton, if_pos rfl]

end Choice

/-- Behind a choice the channel for announcements is the definition that was chosen last. It is the one on record under
its name exactly if the joins since then did not leave another definition under that name. What is sent on no channel of
its own goes out on the chosen definition in either case. -/
theorem primary_recorded_iff (s : Settings) (m₀ m : Moment) (earlier later : List (Moment × Action))
    (d : ChannelDef) :
    let actions := earlier ++ (m, .setPrimary d) :: later
    let c := after s m₀ actions
    ∃ before m' chosen since, actions = before ++ (m', .setPrimary chosen) :: since ∧
      (∀ x ∈ since, ¬Chooses x.2) ∧ c.primary = chosen ∧
      (c.channel? c.primary.name = some c.primary ↔ ∀ e, latest? (joins since) chosen.name = some e → e = chosen) ∧
      ∀ q : Request, (∀ channel, q.channelOr channel = channel) → ∀ m i name p,
        .sent i name p ∈ (c.send m q).effects → ∃ data, c.Conveys chosen data p name := by
  intro actions c
  obtain ⟨before, m', chosen, since, hactions, hsince⟩ :=
    exists_last_choice ⟨(m, .setPrimary d), List.mem_append_right earlier List.mem_cons_self, d, rfl⟩
  have hafter : c = after s m₀ (before ++ (m', .setPrimary chosen) :: since) := congrArg (after s m₀) hactions
  have hprimary : c.primary = chosen := by rw [hafter, primary_after_choice hsince]
  refine ⟨before, m', chosen, since, hactions, hsince, hprimary, ?_, fun q hq m i name p hsent => ?_⟩
  · rw [hprimary, hafter, channel?_after_choice]
    cases latest? (joins since) chosen.name with
    | none => simp
    | some e => simp
  · obtain ⟨submission, hcompose, -, hcarries⟩ := send_sent hsent
    have hchannel : submission.channel = chosen := by rw [compose_channel hcompose, hq, hprimary]
    exact ⟨submission.data, hchannel ▸ hcarries.conveys⟩

/-- The chosen channel is joined again with another key. Acknowledgements still go out under the replaced one. -/
theorem primary_outdated :
    let m : Moment := ⟨0, 0, fun _ => 0⟩
    let chosen : ChannelDef := ⟨"X", Key.expand 1⟩
    let other : ChannelDef := ⟨"X", Key.expand 2⟩
    let c := after (.ofNode ⟨256⟩) m
      [(m, .addLink { name := "udp" }), (m, .setPrimary chosen), (m, .addChannel other)]
    c.channel? c.primary.name = some other ∧ c.primary = chosen ∧ other.key ≠ chosen.key ∧
      ∃ p covered, .sent 0 "X" p ∈ (c.send m (.ack ⟨256⟩ ⟨768⟩ 9)).effects ∧ p.body = some (.encrypted covered) ∧
        ∃ data, applyKey chosen.key (Data.schema.encode data) p.id p.sender = .ok covered := by
  intro m chosen other c
  have hc : c = after (.ofNode ⟨256⟩) m
      ([(m, .addLink { name := "udp" })] ++ (m, .setPrimary chosen) :: [(m, .addChannel other)]) := rfl
  have hlater : ∀ x ∈ [(m, Action.addChannel other)], ¬Chooses x.2 := by
    rintro x hx ⟨d, hd⟩
    cases List.mem_singleton.1 hx
    cases hd
  have hprimary : c.primary = chosen := by rw [hc, primary_after_choice hlater]
  have hrecorded : c.channel? c.primary.name = some other := by
    rw [hprimary, hc, channel?_after_choice]
    rfl
  have hkey : IsChannelKey chosen.key := .inr (.inl rfl)
  have hcheck : c.check ⟨chosen, Routing.schema.encode (.ofError .delivered),
      answerInfo .routing .channelKey ⟨256⟩ ⟨768⟩ 9⟩ = .ok () := by decide +kernel
  obtain ⟨p, heffects, -, hsent⟩ := exists_send (c := c) (m := m) (r := .ack ⟨256⟩ ⟨768⟩ 9) rfl hcheck hkey rfl
  obtain ⟨covered, hbody, hopened⟩ := hsent.body
  refine ⟨hrecorded, hprimary, by decide, p, covered, ?_, hbody, _, applyKey_symm hopened⟩
  rw [heffects]
  exact List.mem_singleton_self _

end RadioMesh.Client
