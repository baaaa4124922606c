import RadioMesh.Client.Overlap
import RadioMesh.Proofs.Client.Transmission

/-!
The packets that a client builds, whether or not a link accepts them. What goes out is these packets and nothing
else, each on every link that accepts it.
-/

namespace RadioMesh.Client

variable {c : Client} {m : Moment} {o : Outgoing}

/-- The packet that a request comes to. -/
def built? (c : Client) (m : Moment) (r : Request) : Option Outgoing :=
  match c.compose m r with
  | .error _ => none
  | .ok s => (c.pack m s).2.toOption

/-- The packets of requests that are sent one after the other. -/
def built (c : Client) (m : Moment) : List Request → List Outgoing
  | [] => []
  | r :: rest => (c.built? m r).toList ++ (c.send m r).client.built (m.skip wordsUsed) rest

theorem carries_of_pack {s : Submission} (h : (c.pack m s).2 = .ok o) :
    c.check s = .ok () ∧ c.Carries s (c.packetIds.next m.words).1 o.channel o.packet := by
  rw [pack] at h
  cases hcheck : c.check s with
  | error e =>
    rw [hcheck] at h
    cases h
  | ok _ =>
    rw [hcheck] at h
    exact ⟨rfl, carries_of_protect h⟩

theorem exists_of_built? {r : Request} (h : c.built? m r = some o) :
    ∃ s, c.compose m r = .ok s ∧ (c.pack m s).2 = .ok o := by
  unfold built? at h
  split at h
  · cases h
  · next s hcompose =>
    refine ⟨s, hcompose, ?_⟩
    cases hpack : (c.pack m s).2 with
    | error e => simp [hpack, Except.toOption] at h
    | ok o' => simpa [hpack, Except.toOption] using h

theorem built?_of_protect {r : Request} {s : Submission} (hcompose : c.compose m r = .ok s)
    (hcheck : c.check s = .ok ())
    (hprotect : c.protect s (c.header m.epoch s (c.packetIds.next m.words).1) (m.words 2) = .ok o) :
    c.built? m r = some o := by
  simp only [built?, hcompose, pack, hcheck, hprotect, Except.toOption]

/-! ### What goes out -/

theorem transmit_eq_pack (c : Client) (m : Moment) (s : Submission) :
    c.transmit m s = match (c.pack m s).2 with
      | .error e => .still (c.pack m s).1 (.error e)
      | .ok o => ⟨(c.pack m s).1, accepted c.links o, (fanOut c.links).map fun () => o.packet.id⟩ := by
  rw [transmit, pack]
  cases hcheck : c.check s with
  | error e => rfl
  | ok _ =>
    dsimp only
    cases hprotect : c.protect s (c.header m.epoch s (c.packetIds.next m.words).1) (m.words 2) with
    | error e => rfl
    | ok o =>
      show Step.mk _ _ ((fanOut c.links).map fun () => (c.packetIds.next m.words).1) =
        Step.mk _ _ ((fanOut c.links).map fun () => o.packet.id)
      rw [(carries_of_protect hprotect).id]

theorem transmit_of_pack_eq_error {s : Submission} {e : MeshError} (h : (c.pack m s).2 = .error e) :
    c.transmit m s = .still (c.pack m s).1 (.error e) := by
  rw [transmit_eq_pack, h]

theorem transmit_of_pack_eq_ok {s : Submission} (h : (c.pack m s).2 = .ok o) :
    c.transmit m s = ⟨(c.pack m s).1, accepted c.links o, (fanOut c.links).map fun () => o.packet.id⟩ := by
  rw [transmit_eq_pack, h]

theorem send_effects (c : Client) (m : Moment) (r : Request) :
    (c.send m r).effects = (c.built? m r).toList.flatMap (accepted c.links) := by
  rw [send, built?]
  cases c.compose m r with
  | error e => rfl
  | ok s =>
    have htransmit : (c.transmit m s).effects = (c.pack m s).2.toOption.toList.flatMap (accepted c.links) := by
      rw [transmit_eq_pack]
      obtain ⟨c', _ | o⟩ := c.pack m s
      · rfl
      · simp [Except.toOption]
    dsimp only
    split
    · exact htransmit
    · exact htransmit

theorem send_effects_of_built? {r : Request} (h : c.built? m r = some o) :
    (c.send m r).effects = accepted c.links o := by
  simp [send_effects, h]

theorem send_value {r : Request} (h : c.built? m r = some o) :
    (c.send m r).value = (fanOut c.links).map fun () => o.packet.id := by
  obtain ⟨s, hcompose, hpack⟩ := exists_of_built? h
  rw [send, hcompose]
  dsimp only
  rw [transmit_of_pack_eq_ok hpack]
  cases fanOut c.links with
  | error e => rfl
  | ok _ => rfl

theorem sendAll_effects (c : Client) (m : Moment) (rs : List Request) :
    (c.sendAll m rs).effects = (c.built m rs).flatMap (accepted c.links) := by
  induction rs generalizing c m with
  | nil => rfl
  | cons r rs ih =>
    have hlinks : (c.send m r).client.links = c.links := by
      obtain ⟨_, _, h⟩ := c.send_client m r
      rw [h]
    rw [built, List.flatMap_append, ← hlinks, ← ih, hlinks, ← send_effects]
    rfl

/-- What goes out is the packet, on the links that have no fault. -/
theorem mem_accepted_iff {links : List Link} {e : Effect} : e ∈ accepted links o ↔
    ∃ i l, links[i]? = some l ∧ l.fault = none ∧ e = .sent i o.channel o.packet := by
  constructor
  · intro h
    obtain ⟨⟨l, i⟩, hl, rfl⟩ := List.mem_map.1 h
    obtain ⟨hmem, hfault⟩ := List.mem_filter.1 hl
    exact ⟨i, l, List.mem_zipIdx_iff_getElem?.1 hmem, Option.isNone_iff_eq_none.1 hfault, rfl⟩
  · rintro ⟨i, l, hl, hfault, rfl⟩
    have hmem : (l, i) ∈ links.zipIdx := List.mem_zipIdx_iff_getElem?.2 hl
    exact List.mem_map.2 ⟨(l, i), List.mem_filter.2 ⟨hmem, Option.isNone_iff_eq_none.2 hfault⟩, rfl⟩

theorem exists_of_mem_accepted {links : List Link} {e : Effect} (h : e ∈ accepted links o) :
    ∃ i, e = .sent i o.channel o.packet ∧ ∃ l ∈ links, l.fault = none := by
  obtain ⟨i, l, hl, hfault, he⟩ := mem_accepted_iff.1 h
  exact ⟨i, he, l, List.mem_of_getElem? hl, hfault⟩

theorem fanOut_eq_ok {links : List Link} {l : Link} (hl : l ∈ links) (hfault : l.fault = none) :
    fanOut links = .ok () := by
  have hne : links.isEmpty = false := List.isEmpty_eq_false_iff.2 (List.ne_nil_of_mem hl)
  have hrefusals : (refusals links).length ≠ links.length := by
    intro hall
    rw [refusals, List.length_filterMap_eq_countP, List.countP_eq_length] at hall
    have hsome := hall l hl
    rw [hfault] at hsome
    cases hsome
  rw [fanOut, hne, if_neg Bool.false_ne_true, if_neg hrefusals]

theorem fanOut_eq_ok_iff {links : List Link} : fanOut links = .ok () ↔ ∃ l ∈ links, l.fault = none := by
  constructor
  · intro h
    unfold fanOut at h
    split at h
    · cases h
    · split at h
      · cases h
      · next hrefusals =>
        rw [refusals, List.length_filterMap_eq_countP, List.countP_eq_length] at hrefusals
        obtain ⟨l, hl, hfault⟩ := not_forall₂.1 hrefusals
        exact ⟨l, hl, Option.not_isSome_iff_eq_none.1 hfault⟩
  · rintro ⟨l, hl, hfault⟩
    exact fanOut_eq_ok hl hfault

/-- The ID of a packet is told exactly if a link accepts the packet. -/
theorem map_fanOut_eq_ok_iff {links : List Link} {id : UInt32} :
    (fanOut links).map (fun () => o.packet.id) = .ok id ↔
      ∃ i name p, .sent i name p ∈ accepted links o ∧ p.id = id := by
  constructor
  · intro h
    cases hfan : fanOut links with
    | error e =>
      rw [hfan] at h
      cases h
    | ok _ =>
      rw [hfan] at h
      cases h
      obtain ⟨l, hl, hfault⟩ := fanOut_eq_ok_iff.1 hfan
      obtain ⟨i, hi⟩ := List.mem_iff_getElem?.1 hl
      exact ⟨i, _, _, mem_accepted_iff.2 ⟨i, l, hi, hfault, rfl⟩, rfl⟩
  · rintro ⟨i, name, p, hsent, rfl⟩
    obtain ⟨i, l, hl, hfault, heq⟩ := mem_accepted_iff.1 hsent
    cases heq
    rw [fanOut_eq_ok (List.mem_of_getElem? hl) hfault]
    rfl

theorem send_value_of_not_built {r : Request} (h : c.built? m r = none) : ∃ e, (c.send m r).value = .error e := by
  unfold built? at h
  rw [send]
  cases hcompose : c.compose m r with
  | error e => exact ⟨e, rfl⟩
  | ok s =>
    rw [hcompose] at h
    dsimp only at h ⊢
    cases hpack : (c.pack m s).2 with
    | error e =>
      rw [transmit_of_pack_eq_error hpack]
      exact ⟨e, rfl⟩
    | ok o =>
      rw [hpack] at h
      cases h

/-- The sender is told an ID exactly if a packet with that ID went out. -/
theorem send_value_eq_ok_iff {r : Request} {id : UInt32} :
    (c.send m r).value = .ok id ↔ ∃ i name p, .sent i name p ∈ (c.send m r).effects ∧ p.id = id := by
  cases hbuilt : c.built? m r with
  | none =>
    obtain ⟨e, hvalue⟩ := send_value_of_not_built hbuilt
    rw [hvalue, send_effects, hbuilt]
    exact iff_of_false (fun h => nomatch h) fun ⟨_, _, _, hsent, _⟩ => nomatch hsent
  | some o => rw [send_value hbuilt, send_effects_of_built? hbuilt, map_fanOut_eq_ok_iff]

theorem send_value_of_sent {r : Request} {i : Nat} {name : String} {p : MeshPacket}
    (h : .sent i name p ∈ (c.send m r).effects) : (c.send m r).value = .ok p.id :=
  send_value_eq_ok_iff.2 ⟨i, name, p, h, rfl⟩

theorem send_effects_of_error {r : Request} {e : MeshError} (h : (c.send m r).value = .error e) :
    (c.send m r).effects = [] := by
  refine List.eq_nil_iff_forall_not_mem.2 fun effect heffect => ?_
  have hmem := heffect
  rw [send_effects] at hmem
  obtain ⟨o, -, haccepted⟩ := List.mem_flatMap.1 hmem
  obtain ⟨_, rfl, -⟩ := exists_of_mem_accepted haccepted
  cases h.symm.trans (send_value_of_sent heffect)

theorem length_built_le (c : Client) (m : Moment) (rs : List Request) : (c.built m rs).length ≤ rs.length := by
  induction rs generalizing c m with
  | nil => exact Nat.le_refl 0
  | cons r rs ih =>
    have hrest := ih (c.send m r).client (m.skip wordsUsed)
    have hfirst : (c.built? m r).toList.length ≤ 1 := by cases c.built? m r <;> simp
    simp only [built, List.length_append, List.length_cons]
    omega

theorem exists_of_mem_built {rs : List Request} (h : o ∈ c.built m rs) :
    ∃ r ∈ rs, ∃ c' m', c.SameSetup c' ∧ c'.built? m' r = some o := by
  induction rs generalizing c m with
  | nil => cases h
  | cons r rs ih =>
    rcases List.mem_append.1 h with hfirst | hrest
    · exact ⟨r, List.mem_cons_self, c, m, ⟨rfl, rfl, rfl, rfl⟩, Option.mem_toList.1 hfirst⟩
    · obtain ⟨q, hq, c', m', hsetup, hbuilt⟩ := ih hrest
      exact ⟨q, List.mem_cons_of_mem r hq, c', m', (c.sameSetup_send m r).trans hsetup, hbuilt⟩

/-- If two requests come to two packets, the first one is that of the first request. -/
theorem built?_of_built_pair {q q' : Request} {first second : Outgoing} (h : c.built m [q, q'] = [first, second]) :
    c.built? m q = some first := by
  have hrest := length_built_le (c.send m q).client (m.skip wordsUsed) [q']
  rw [built] at h
  cases hfirst : c.built? m q with
  | none =>
    rw [hfirst, Option.toList_none, List.nil_append] at h
    simp [h] at hrest
  | some o =>
    rw [hfirst, Option.toList_some, List.singleton_append] at h
    rw [(List.cons.inj h).1]

end RadioMesh.Client
