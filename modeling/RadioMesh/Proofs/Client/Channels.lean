import RadioMesh.Proofs.Client.Frame
import RadioMesh.Proofs.Store.NameMap

/-!
Joined channels stand under their own names, so no two of them share one. That puts the channel a packet was
sent on in front of all others that may have sent it.
-/

namespace RadioMesh

/-! ### Names -/

/-- Every channel stands under its own name. -/
def ChannelDef.Named (channels : NameMap ChannelDef) : Prop :=
  ∀ e ∈ channels.entries, e.2.name = e.1

namespace ChannelDef.Named

variable {channels : NameMap ChannelDef}

theorem insert (h : Named channels) (d : ChannelDef) : Named (channels.insert d.name d) := by
  intro e he
  rcases NameMap.mem_place he with rfl | he
  · rfl
  · exact h e he

theorem eq_of_name (h : Named channels) {c d : ChannelDef} (hc : channels.get? c.name = some c)
    (hd : d ∈ channels.values) (hname : d.name = c.name) : d = c := by
  obtain ⟨e, he, rfl⟩ := List.mem_map.1 hd
  have hentry : e = (c.name, c) :=
    NameMap.eq_of_mem_of_mem channels.ascending he (NameMap.mem_entries_of_get? hc) ((h e he).symm.trans hname)
  rw [hentry]

end ChannelDef.Named

namespace Client

theorem channels_named_after (s : Settings) (m₀ : Moment) (actions : List (Moment × Action)) :
    ChannelDef.Named (after s m₀ actions).channels := by
  induction actions using List.reverseRecOn with
  | nil => exact fun _ h => nomatch h
  | append_singleton actions x ih =>
    rw [after, run_append_singleton]
    rcases (act_frame _ x.1 x.2).joins with hsame | ⟨d, hjoined⟩
    · rw [hsame]
      exact ih
    · rw [hjoined]
      exact ChannelDef.Named.insert ih d

/-! ### The order of the candidates -/

theorem ranked_eq (p : MeshPacket) (name : Option String) (cs : List ChannelDef) :
    ranked p name cs = cs.filter (rank p name · = 0) ++ (cs.filter (rank p name · = 1) ++
      (cs.filter (rank p name · = 2) ++ (cs.filter (rank p name · = 3) ++ []))) := rfl

/-- A channel of rank 0 comes first unless another one of the joined channels has that rank, too. -/
theorem exists_ranked_eq_cons {p : MeshPacket} {name : Option String} {joined others : List ChannelDef}
    {c : ChannelDef} (hc : c ∈ joined) (hrank : rank p name c = 0)
    (honly : ∀ d ∈ joined, rank p name d = 0 → d = c) :
    ∃ rest, ranked p name (joined ++ others) = c :: rest := by
  rw [ranked_eq, List.filter_append]
  cases hfilter : joined.filter (rank p name · = 0) with
  | nil =>
    have hmem : c ∈ joined.filter (rank p name · = 0) := List.mem_filter.2 ⟨hc, decide_eq_true hrank⟩
    rw [hfilter] at hmem
    cases hmem
  | cons d rest =>
    have hd : d ∈ joined.filter (rank p name · = 0) := by
      rw [hfilter]
      exact List.mem_cons_self
    obtain ⟨hjoined, hzero⟩ := List.mem_filter.1 hd
    rw [honly d hjoined (of_decide_eq_true hzero)]
    exact ⟨_, rfl⟩

theorem rank_lt (p : MeshPacket) (name : Option String) (c : ChannelDef) : rank p name c < 4 := by
  rw [rank]
  split
  · split <;> decide
  · split <;> decide

theorem ranked_singleton (p : MeshPacket) (name : Option String) (c : ChannelDef) : ranked p name [c] = [c] := by
  have hlt := rank_lt p name c
  rw [ranked_eq]
  generalize hrank : rank p name c = k at hlt
  have hfilter : ∀ i, [c].filter (rank p name · = i) = if k = i then [c] else [] := fun i => by
    rw [List.filter_singleton, hrank]
    by_cases hi : k = i
    · rw [if_pos hi, decide_eq_true hi, cond_true]
    · rw [if_neg hi, decide_eq_false hi, cond_false]
  rw [hfilter, hfilter, hfilter, hfilter]
  interval_cases k <;> rfl

end Client

end RadioMesh
