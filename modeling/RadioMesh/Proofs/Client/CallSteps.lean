import RadioMesh.Proofs.Client.Outgoing

/-!
A traceroute that nothing comes between. Each link replies to an offer as its state says, and the replies come in any
order. Taken one after the other, the steps of a call are the call that the owner makes.
-/

namespace RadioMesh

/-- The same but for the order of the effects. -/
structure Step.Rearranges {α : Type} (u t : Step α) : Prop where
  client : u.client = t.client
  effects : u.effects.Perm t.effects
  value : u.value = t.value

/-! ### Offers -/

/-- A packet that was offered to a link, and what the link replied. -/
structure Offer where
  link : Nat
  out : Client.Outgoing
  reply : Reply
deriving DecidableEq, Repr

namespace Offer

/-- A packet that the link accepted is on it. -/
def effect? (x : Offer) : Option Effect :=
  match x.reply with
  | .accepted => some (.sent x.link x.out.channel x.out.packet)
  | _ => none

/-- The link replies. -/
def step (x : Offer) : CallStep :=
  .reply x.link x.reply.fault?

end Offer

/-- The links with their places, in the order in which they reply. -/
def CallStep.replies (links : List (Link × Nat)) : List CallStep :=
  links.map fun (l, i) => .reply i l.fault

/-- All steps of a call. -/
def CallStep.all (links : List (Link × Nat)) : List CallStep :=
  .acquire :: .offer :: CallStep.replies links ++ [.join, .conclude]

/-- Steps with nothing between them. -/
def CallStep.moves (m : Moment) (steps : List CallStep) : List (Moment × Move) :=
  steps.map fun s => (m, .call s)

namespace Reply

theorem fault?_ofFault (fault : Option TransportError) : (ofFault fault).fault? = fault := by
  cases fault with
  | none => rfl
  | some fault => rfl

theorem filterMap_fault? (links : List Link) :
    (links.map fun l => ofFault l.fault).filterMap fault? = Client.refusals links := by
  rw [List.filterMap_map, Client.refusals]
  exact List.filterMap_congr fun l _ => fault?_ofFault l.fault

theorem awaited_not_mem (links : List Link) : awaited ∉ links.map fun l => ofFault l.fault := by
  intro h
  obtain ⟨l, -, hl⟩ := List.mem_map.1 h
  cases hfault : l.fault with
  | none =>
    rw [hfault] at hl
    cases hl
  | some fault =>
    rw [hfault] at hl
    cases hl

theorem gather?_ofFault (links : List Link) :
    gather? (links.map fun l => ofFault l.fault) = some (Client.fanOut links) := by
  rw [gather?, if_neg (awaited_not_mem links), filterMap_fault?, List.isEmpty_map, List.length_map, Client.fanOut]
  dsimp only
  split
  · rfl
  · split
    · rfl
    · rfl

end Reply

namespace Client

/-- A packet offered to links, each of which replies as its state says. -/
def offersTo (links : List Link) (o : Outgoing) : List Offer :=
  links.zipIdx.map fun (l, i) => ⟨i, o, .ofFault l.fault⟩

/-- What links made of an offer when those at some places have replied. -/
def repliesBy (links : List Link) (places : List Nat) : List Reply :=
  links.zipIdx.map fun (l, i) => if i ∈ places then .ofFault l.fault else .awaited

section Offers
variable (links : List Link) (o : Outgoing)

theorem map_link_offersTo : (offersTo links o).map (·.link) = List.range links.length := by
  rw [offersTo, List.map_map, List.range_eq_range']
  exact List.zipIdx_map_snd 0 links

theorem map_reply_offersTo : (offersTo links o).map (·.reply) = links.map fun l => .ofFault l.fault := by
  have hlinks : links.map (fun l => Reply.ofFault l.fault) =
      (links.zipIdx.map Prod.fst).map fun l => .ofFault l.fault := by
    rw [List.zipIdx_map_fst]
  rw [hlinks, offersTo, List.map_map, List.map_map]
  rfl

/-- What goes out is what was offered and accepted. -/
theorem filterMap_effect?_offersTo : (offersTo links o).filterMap Offer.effect? = accepted links o := by
  have heffect : ∀ x : Link × Nat, (Offer.effect? ⟨x.2, o, .ofFault x.1.fault⟩) =
      if x.1.fault.isNone then some (.sent x.2 o.channel o.packet) else none := by
    rintro ⟨⟨name, connected, _ | fault⟩, i⟩
    · rfl
    · rfl
  rw [offersTo, List.filterMap_map, accepted, ← List.filterMap_eq_map, List.filterMap_filter]
  exact List.filterMap_congr fun x _ => heffect x

variable {links o} {places : List Nat} {x : Offer}

theorem out_of_mem_offersTo (h : x ∈ offersTo links o) : x.out = o := by
  obtain ⟨⟨l, i⟩, -, rfl⟩ := List.mem_map.1 h
  rfl

theorem getElem?_repliesBy (links : List Link) (places : List Nat) (i : Nat) :
    (repliesBy links places)[i]? = links[i]?.map fun l => if i ∈ places then .ofFault l.fault else .awaited := by
  simp [repliesBy, List.getElem?_zipIdx, Option.map_map, Function.comp_def]

theorem repliesBy_nil (links : List Link) : repliesBy links [] = links.map fun _ => .awaited :=
  List.ext_getElem? fun i => by rw [getElem?_repliesBy, List.getElem?_map]; simp

theorem repliesBy_of_forall_mem (h : ∀ i < links.length, i ∈ places) :
    repliesBy links places = links.map fun l => .ofFault l.fault := by
  refine List.ext_getElem? fun i => ?_
  rw [getElem?_repliesBy, List.getElem?_map]
  refine Option.map_congr fun l hl => ?_
  rw [if_pos (h i (List.getElem?_eq_some_iff.1 hl).1)]

theorem set_repliesBy {i : Nat} {l : Link} (hl : links[i]? = some l) :
    (repliesBy links places).set i (.ofFault l.fault) = repliesBy links (places ++ [i]) := by
  refine List.ext_getElem? fun j => ?_
  rw [List.getElem?_set, getElem?_repliesBy, getElem?_repliesBy]
  by_cases hij : i = j
  · subst hij
    rw [hl]
    simp [repliesBy, (List.getElem?_eq_some_iff.1 hl).1]
  · simp [hij, Ne.symm hij]

end Offers

variable {c : Client} {call : TracerouteCall} {stage : CallStage} {m : Moment}

/-- A request that is noted nowhere is sent as its submission is. -/
theorem send_eq_transmit (c : Client) (m : Moment) {r : Request} {s : Submission} (h : c.compose m r = .ok s)
    (hnote : ∀ c' : Client, c'.noteSent m.now r = c') : c.send m r = c.transmit m s := by
  rw [send, h]
  dsimp only
  split
  · next e hvalue => rw [← hvalue]
  · next id hvalue => rw [hnote, ← hvalue]

theorem send_traceroute (c : Client) (m : Moment) (sender target : NodeId) (channel : ChannelDef) {s : Submission}
    (h : c.compose m (.traceroute sender target channel) = .ok s) :
    c.send m (.traceroute sender target channel) = c.transmit m s :=
  c.send_eq_transmit m h fun _ => rfl

theorem overlap_append (c : Client) (call : TracerouteCall) (stage : CallStage) (xs ys : List (Moment × Move)) :
    c.overlap call stage (xs ++ ys) =
      (c.overlap call stage xs).andThen fun c' stage' => c'.overlap call stage' ys := by
  induction xs generalizing c stage with
  | nil => rfl
  | cons x xs ih =>
    show (c.move x.1 call stage x.2).andThen (fun c' stage' => c'.overlap call stage' (xs ++ ys)) = _
    simp only [Step.andThen, ih, overlap, List.append_assoc]

theorem overlap_call (c : Client) (call : TracerouteCall) (stage : CallStage) (m : Moment) (s : CallStep)
    (steps : List CallStep) :
    c.overlap call stage (CallStep.moves m (s :: steps)) =
      (c.callStep m call stage s).andThen fun c' stage' => c'.overlap call stage' (CallStep.moves m steps) :=
  rfl

/-- Steps of a call that are not the next one change nothing. -/
theorem overlap_idle {steps : List CallStep} (h : ∀ s ∈ steps, c.callStep m call stage s = .still c stage) :
    c.overlap call stage (CallStep.moves m steps) = .still c stage := by
  induction steps with
  | nil => rfl
  | cons s steps ih =>
    rw [overlap_call, h s List.mem_cons_self]
    exact ih fun s' hs' => h s' (List.mem_cons_of_mem s hs')

theorem callStep_reply {links : List Link} {o : Outgoing} {places : List Nat} {x : Offer} (hx : x ∈ offersTo links o)
    (hplace : x.link ∉ places) : c.callStep m call (.offered o (repliesBy links places)) x.step =
      ⟨c, x.effect?.toList, .offered o (repliesBy links (places ++ [x.link]))⟩ := by
  obtain ⟨⟨l, i⟩, hmem, rfl⟩ := List.mem_map.1 hx
  have hl : links[i]? = some l := List.mem_zipIdx_iff_getElem?.1 hmem
  have hawaited : (repliesBy links places)[i]? = some .awaited := by
    rw [getElem?_repliesBy, hl, Option.map_some, if_neg hplace]
  rw [Offer.step, Reply.fault?_ofFault, callStep, if_pos hawaited, set_repliesBy hl]
  cases hfault : l.fault with
  | none => simp [Offer.effect?, hfault, Reply.ofFault]
  | some fault => simp [Offer.effect?, hfault, Reply.ofFault, Step.still]

/-- Links accept or refuse one after the other. -/
theorem overlap_replies (c : Client) (call : TracerouteCall) (m : Moment) {links : List Link} {o : Outgoing}
    {places : List Nat} {xs : List Offer} (hxs : ∀ x ∈ xs, x ∈ offersTo links o)
    (hnodup : (places ++ xs.map (·.link)).Nodup) :
    c.overlap call (.offered o (repliesBy links places)) (CallStep.moves m (xs.map Offer.step)) =
      ⟨c, xs.filterMap Offer.effect?, .offered o (repliesBy links (places ++ xs.map (·.link)))⟩ := by
  -- On the links that have not replied; the others are at the places.
  induction xs generalizing places with
  | nil =>
    rw [List.map_nil, List.map_nil, List.append_nil]
    rfl
  | cons x xs ih =>
    have hplace : x.link ∉ places := fun hmem =>
      (List.nodup_append.1 hnodup).2.2 x.link hmem x.link List.mem_cons_self rfl
    have hrest : places ++ (x :: xs).map (·.link) = places ++ [x.link] ++ xs.map (·.link) := by
      rw [List.append_assoc]
      rfl
    rw [List.map_cons, overlap_call, callStep_reply (hxs x List.mem_cons_self) hplace, Step.andThen]
    dsimp only
    rw [hrest] at hnodup ⊢
    rw [ih (fun y hy => hxs y (List.mem_cons_of_mem x hy)) hnodup, List.filterMap_cons]
    cases x.effect? with
    | none => rfl
    | some e => rfl

theorem overlap_moves_append (c : Client) (call : TracerouteCall) (stage : CallStage) (m : Moment)
    (xs ys : List CallStep) : c.overlap call stage (CallStep.moves m (xs ++ ys)) =
      (c.overlap call stage (CallStep.moves m xs)).andThen fun c' stage' =>
        c'.overlap call stage' (CallStep.moves m ys) := by
  rw [CallStep.moves, List.map_append, overlap_append]
  rfl

/-- What an offer comes to that is under way, whichever link replies first. -/
theorem overlap_offered (c : Client) (call : TracerouteCall) (m : Moment) {links : List Link} {o : Outgoing}
    {xs : List Offer} (h : xs.Perm (offersTo links o)) :
    (c.overlap call (.offered o (links.map fun _ => .awaited))
      (CallStep.moves m (xs.map Offer.step ++ [.join]))).Rearranges
        ⟨c, accepted links o, .joined ((fanOut links).map fun () => o.packet.id)⟩ := by
  have hplaces : (xs.map Offer.link).Perm (List.range links.length) := by
    rw [← map_link_offersTo links o]
    exact h.map _
  have hnodup : ([] ++ xs.map Offer.link).Nodup := hplaces.nodup_iff.2 List.nodup_range
  have hreplies := c.overlap_replies call m (fun x hx => h.mem_iff.1 hx) hnodup
  have hall : repliesBy links ([] ++ xs.map Offer.link) = links.map fun l => .ofFault l.fault :=
    repliesBy_of_forall_mem fun i hi => hplaces.mem_iff.2 (List.mem_range.2 hi)
  have hjoin : c.callStep m call (.offered o (links.map fun l => .ofFault l.fault)) .join =
      .still c (.joined ((fanOut links).map fun () => o.packet.id)) := by
    rw [callStep, Reply.gather?_ofFault]
  rw [← repliesBy_nil, overlap_moves_append, hreplies, hall, Step.andThen]
  dsimp only
  rw [overlap_call, hjoin]
  refine ⟨rfl, ?_, rfl⟩
  show (xs.filterMap Offer.effect? ++ []).Perm _
  rw [List.append_nil, ← filterMap_effect?_offersTo]
  exact h.filterMap _

theorem callStep_returned (outcome : Except MeshError TracerouteOutcome) (s : CallStep) :
    c.callStep m call (.returned outcome) s = .still c (.returned outcome) := by
  cases s with
  | _ => rfl

/-- Nobody replies to an offer that came to an end before it was made. -/
theorem overlap_joined (c : Client) (result : Except MeshError UInt32) (links : List (Link × Nat)) :
    c.overlap call (.joined result) (CallStep.moves m (CallStep.replies links ++ [CallStep.join])) =
      .still c (.joined result) := by
  refine overlap_idle fun step hstep => ?_
  rcases List.mem_append.1 hstep with hreply | hjoin
  · obtain ⟨x, -, rfl⟩ := List.mem_map.1 hreply
    rfl
  · cases List.mem_singleton.1 hjoin
    rfl

theorem map_step_offers (links : List (Link × Nat)) (o : Outgoing) :
    (links.map fun (l, i) => (⟨i, o, .ofFault l.fault⟩ : Offer)).map Offer.step = CallStep.replies links := by
  rw [List.map_map, CallStep.replies]
  refine List.map_congr_left fun x _ => ?_
  rw [Function.comp_apply, Offer.step, Reply.fault?_ofFault]

/-- What a call's offer comes to. -/
theorem overlap_offer (c : Client) (call : TracerouteCall) (m : Moment) {links : List (Link × Nat)}
    (h : links.Perm c.links.zipIdx) :
    (c.overlap call .acquired (CallStep.moves m (.offer :: (CallStep.replies links ++ [.join])))).Rearranges
      ((c.send m (.traceroute call.sender call.target call.channel)).map .joined) := by
  obtain ⟨s, hcompose⟩ : ∃ s, c.compose m (.traceroute call.sender call.target call.channel) = .ok s := ⟨_, rfl⟩
  rw [send_traceroute c m _ _ _ hcompose, transmit_eq_pack, overlap_call, callStep, hcompose]
  dsimp only
  obtain ⟨c', packed⟩ := c.pack m s
  cases packed with
  | error e =>
    show (c'.overlap call (.joined (.error e)) _).Rearranges _
    rw [overlap_joined]
    exact ⟨rfl, .refl _, rfl⟩
  | ok o =>
    show (c'.overlap call (.offered o (c.links.map fun _ => .awaited)) _).Rearranges _
    rw [← map_step_offers links o]
    exact c'.overlap_offered call m (h.map _)

/-- A call that nothing comes between is the call that the owner makes. -/
theorem overlap_all (c : Client) (call : TracerouteCall) (m : Moment) {links : List (Link × Nat)}
    (h : links.Perm c.links.zipIdx) :
    (c.overlap call .started (CallStep.moves m (CallStep.all links))).Rearranges
      ((c.requestTraceroute m call.sender call.target call.channel call.context).map .returned) := by
  rw [requestTraceroute, CallStep.all, List.cons_append, overlap_call, callStep]
  cases hacquire : c.acquireSlot m.now call.sender call.target with
  | error wait =>
    show (c.overlap call (.returned (.ok (.rateLimited wait))) (CallStep.moves m _)).Rearranges _
    rw [overlap_idle fun s _ => callStep_returned _ s]
    exact ⟨rfl, .refl _, rfl⟩
  | ok c' =>
    have hlinks : c'.links = c.links := by
      obtain ⟨taken, -, rfl⟩ := exists_of_acquireSlot hacquire
      rfl
    have hsteps : CallStep.offer :: CallStep.replies links ++ [.join, .conclude] =
        .offer :: (CallStep.replies links ++ [.join]) ++ [.conclude] := by
      rw [List.cons_append, List.cons_append, List.append_assoc]
      rfl
    rw [← hlinks] at h
    obtain ⟨hclient, heffects, hvalue⟩ := c'.overlap_offer call m h
    show (c'.overlap call .acquired (CallStep.moves m _)).Rearranges _
    rw [hsteps, overlap_moves_append, Step.andThen, hclient, hvalue]
    refine ⟨rfl, ?_, rfl⟩
    show (_ ++ []).Perm _
    rw [List.append_nil]
    exact heffects

end Client

end RadioMesh
