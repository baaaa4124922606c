import RadioMesh.Proofs.Wire.Schema
import RadioMesh.Proofs.Wire.Spelling

/-!
How the records of a message may be laid out. Records that a message type does not know may stand anywhere,
neighboring records of different fields may change places, the elements of a repeated scalar may be spread over
records as one likes, and all that inside embedded messages too: what is read stays the same.
-/

namespace RadioMesh.Wire

variable {M N α β γ σ : Type}

/-! ### Fields that do not meet -/

/-- A field reads its records into one place of a message, by what is in that place. -/
class Field.ReadsInto {β : outParam Type} (f : Field M) (get : outParam (M → β)) (set : outParam (β → M → M)) :
    Prop where
  exists_read : ∃ read : Nat → Record → β → Option β, ∀ depth r m, r.number ∈ f.numbers →
    f.merge? depth r m = (read depth r (get m)).map fun v => set v m

namespace Field.ReadsInto

variable {number : Nat} {name : String}

instance plain {s : Scalar α} {get : M → α} {set : α → M → M} : (Field.plain number name s get set).ReadsInto get set :=
  ⟨fun _ r _ => s.take? r.payload, fun _ _ _ _ => rfl⟩

instance optional {s : Scalar α} {get : M → Option α} {set : Option α → M → M} :
    (Field.optional number name s get set).ReadsInto get set :=
  ⟨fun _ r _ => (s.take? r.payload).map some, fun _ _ _ _ => by
    simp only [Field.optional, Option.map_map, Function.comp_def]⟩

instance packed {s : Scalar α} {get : M → List α} {set : List α → M → M} :
    (Field.packed number name s get set).ReadsInto get set := by
  refine ⟨fun _ r vs => match r.payload with
    | .bytes b => do
      let ps ← readPacked? s.form b
      let ws ← ps.mapM s.take?
      return vs ++ ws
    | p => (s.take? p).map fun v => vs ++ [v], fun depth r m _ => ?_⟩
  obtain ⟨_, p⟩ := r
  cases p with
  | bytes b =>
    simp only [Field.packed, Option.bind_eq_bind, Option.pure_def, Option.map_bind, Function.comp_def, Option.map_some]
  | _ => simp only [Field.packed, Option.map_map, Function.comp_def]

instance message {s : Schema N} {get : M → Option N} {set : Option N → M → M} :
    (Field.message number name s get set).ReadsInto get set :=
  ⟨fun depth r v => (s.mergeEmbedded? depth (v.getD s.empty) r.payload).map some, fun _ _ _ _ => by
    simp only [Field.message, Option.map_map, Function.comp_def]⟩

instance messages {s : Schema N} {get : M → List N} {set : List N → M → M} :
    (Field.messages number name s get set).ReadsInto get set :=
  ⟨fun depth r vs => (s.mergeEmbedded? depth s.empty r.payload).map fun v => vs ++ [v], fun _ _ _ _ => by
    simp only [Field.messages, Option.map_map, Function.comp_def]⟩

instance choice {alternatives : List (Alternative σ)} {get : M → Option σ} {set : Option σ → M → M} :
    (Field.choice name alternatives get set).ReadsInto get set := by
  refine ⟨fun depth r v => match alternatives.find? (·.number == r.number) with
    | none => none
    | some a => (a.take? depth v r.payload).map some, fun depth r m hnumber => ?_⟩
  obtain ⟨a, ha, hnumber⟩ := List.mem_map.1 hnumber
  obtain ⟨a', ha'⟩ : ∃ a', alternatives.find? (·.number == r.number) = some a' :=
    Option.isSome_iff_exists.1 (List.find?_isSome.2 ⟨a, ha, beq_iff_eq.2 hnumber⟩)
  simp only [Field.choice, ha', Option.map_map, Function.comp_def]

end Field.ReadsInto

/-- Records of two fields may be read in either order. -/
def Field.Commute (f g : Field M) : Prop :=
  ∀ depth r r' m, r.number ∈ f.numbers → r'.number ∈ g.numbers →
    (f.merge? depth r m).bind (g.merge? depth r') = (g.merge? depth r' m).bind (f.merge? depth r)

instance : Std.Symm (Field.Commute (M := M)) :=
  ⟨fun _ _ h depth r r' m hr hr' => (h depth r' r m hr' hr).symm⟩

/-- Fields that read into different places. Those of a record do by definition, so that `simp` tells for all pairs of a
message's fields at once. -/
@[simp] theorem Field.Commute.of_apart {f g : Field M} {get : M → β} {set : β → M → M} {get' : M → γ} {set' : γ → M → M}
    [hf : f.ReadsInto get set] [hg : g.ReadsInto get' set'] (hget : ∀ v m, get (set' v m) = get m)
    (hget' : ∀ v m, get' (set v m) = get' m) (hset : ∀ v w m, set v (set' w m) = set' w (set v m)) : f.Commute g := by
  obtain ⟨read, hread⟩ := hf.exists_read
  obtain ⟨read', hread'⟩ := hg.exists_read
  intro depth r r' m hr hr'
  have hfirst : (f.merge? depth r m).bind (g.merge? depth r') =
      (read depth r (get m)).bind fun v => (read' depth r' (get' m)).map fun w => set' w (set v m) := by
    rw [hread depth r m hr, Option.bind_map]
    refine Option.bind_congr fun v _ => ?_
    rw [Function.comp_apply, hread' depth r' _ hr', hget']
  have hsecond : (g.merge? depth r' m).bind (f.merge? depth r) =
      (read' depth r' (get' m)).bind fun w => (read depth r (get m)).map fun v => set' w (set v m) := by
    rw [hread' depth r' m hr', Option.bind_map]
    refine Option.bind_congr fun w _ => ?_
    rw [Function.comp_apply, hread depth r _ hr, hget]
    simp only [hset]
  rw [hfirst, hsecond]
  cases read depth r (get m) with
  | none => cases read' depth r' (get' m) <;> rfl
  | some v => cases read' depth r' (get' m) <;> rfl

/-- A schema whose fields have numbers of their own and do not meet. -/
structure Schema.Orderly (s : Schema M) : Prop where
  separate : s.Separate
  commute : s.fields.Pairwise Field.Commute

/-! ### Layouts -/

/-- A field that reads records of a number as messages. -/
inductive Field.Embeds (s' : Schema N) (n : Nat) : Field M → Prop
  | message {name : String} {get : M → Option N} {set : Option N → M → M} :
    Embeds s' n (.message n name s' get set)
  | messages {name : String} {get : M → List N} {set : List N → M → M} : Embeds s' n (.messages n name s' get set)
  | choice {σ : Type} {name name' : String} {alternatives : List (Alternative σ)} {get : M → Option σ}
    {set : Option σ → M → M} {inject : N → σ} {project? : σ → Option N}
    (h : .message n name' s' inject project? ∈ alternatives) : Embeds s' n (.choice name alternatives get set)

/-- Records of a number hold messages of another schema, which is orderly too. -/
structure Schema.Embeds (s : Schema M) (n : Nat) (s' : Schema N) : Prop where
  field : ∃ f ∈ s.fields, f.Embeds s' n
  orderly : s'.Orderly

/-- Records of a number hold elements of a list, whose payloads have a form. -/
inductive Schema.Repeats (s : Schema M) (n : Nat) (form : Form) : Prop
  | packed {α : Type} {name : String} {c : Scalar α} {get : M → List α} {set : List α → M → M}
    (hfield : .packed n name c get set ∈ s.fields) (hform : c.form = form) (hbytes : form ≠ .bytes)
    (hget : ∀ vs m, get (set vs m) = vs) (hset : ∀ vs ws m, set ws (set vs m) = set ws m)
    (hsame : ∀ m, set (get m) m = m)

/-- Records that hold the elements of a list, some packed into one record, some in a record each. -/
inductive Elements (n : Nat) (form : Form) : List Record → List Payload → Prop
  | nil : Elements n form [] []
  | packed {ps qs : List Payload} {rs : List Record} {b : Bytes} (hb : PackedSpells form ps b)
    (rest : Elements n form rs qs) : Elements n form (⟨n, .bytes b⟩ :: rs) (ps ++ qs)
  | single {p : Payload} {ps : List Payload} {rs : List Record} (hform : p.form = form)
    (rest : Elements n form rs ps) : Elements n form (⟨n, p⟩ :: rs) (p :: ps)

/-- Two layouts of the records of one message: one may have records that the message does not know, neighbors that
are of different fields may change places (a choice is one field, whatever its alternative), the elements of a list
may be grouped in another way, and what is embedded may be laid out in another way. -/
inductive Relaid : {M : Type} → Schema M → Nat → List Record → List Record → Prop
  | refl {M : Type} {s : Schema M} {depth : Nat} {rs : List Record} : Relaid s depth rs rs
  | symm {M : Type} {s : Schema M} {depth : Nat} {rs rs' : List Record} (h : Relaid s depth rs rs') :
    Relaid s depth rs' rs
  | trans {M : Type} {s : Schema M} {depth : Nat} {rs rs' rs'' : List Record} (h : Relaid s depth rs rs')
    (h' : Relaid s depth rs' rs'') : Relaid s depth rs rs''
  | within {M : Type} {s : Schema M} {depth : Nat} {rs rs' : List Record} (front back : List Record)
    (h : Relaid s depth rs rs') : Relaid s depth (front ++ rs ++ back) (front ++ rs' ++ back)
  | added {M : Type} {s : Schema M} {depth : Nat} {r : Record} (h : ∀ f ∈ s.fields, r.number ∉ f.numbers) :
    Relaid s depth [] [r]
  | swapped {M : Type} {s : Schema M} {depth : Nat} {r r' : Record}
    (h : ∀ f ∈ s.fields, ¬(r.number ∈ f.numbers ∧ r'.number ∈ f.numbers)) : Relaid s depth [r, r'] [r', r]
  | regrouped {M : Type} {s : Schema M} {depth n : Nat} {form : Form} {rs rs' : List Record} {ps : List Payload}
    (hfield : s.Repeats n form) (h : Elements n form rs ps) (h' : Elements n form rs' ps) : Relaid s depth rs rs'
  | inside {M N : Type} {s : Schema M} {s' : Schema N} {depth n : Nat} {b b' : Bytes} {rs rs' : List Record}
    (hfield : s.Embeds n s') (hb : Spells depth rs b) (hb' : Spells depth rs' b') (h : Relaid s' depth rs rs') :
    Relaid s (depth + 1) [⟨n, .bytes b⟩] [⟨n, .bytes b'⟩]

/-! ### What is read -/

namespace Field.Embeds

variable {s' : Schema N} {n : Nat} {f : Field M}

theorem mem_numbers (h : f.Embeds s' n) : n ∈ f.numbers := by
  cases h with
  | message => exact List.mem_singleton_self n
  | messages => exact List.mem_singleton_self n
  | choice h => exact List.mem_map_of_mem h

/-- Payloads that read alike as messages read alike as records of the field. -/
theorem merge?_congr (h : f.Embeds s' n) (hnodup : f.numbers.Nodup) {depth : Nat} {p p' : Payload}
    (hsame : ∀ a, s'.mergeEmbedded? depth a p = s'.mergeEmbedded? depth a p') (m : M) :
    f.merge? depth ⟨n, p⟩ m = f.merge? depth ⟨n, p'⟩ m := by
  cases h with
  | message => simp only [Field.message, hsame]
  | messages => simp only [Field.messages, hsame]
  | @choice _ _ _ alternatives _ _ _ _ h =>
    have hfind : alternatives.find? (·.number == n) = some _ := find?_of_nodup hnodup h
    simp only [Field.choice, hfind, Alternative.message, hsame]

end Field.Embeds

namespace Schema

variable {s : Schema M} {depth : Nat}

theorem mergeRecords?_append (a : M) (rs rs' : List Record) :
    s.mergeRecords? depth a (rs ++ rs') = (s.mergeRecords? depth a rs).bind fun b => s.mergeRecords? depth b rs' :=
  List.foldlM_append

theorem mergeRecords?_singleton (a : M) (r : Record) : s.mergeRecords? depth a [r] = s.mergeRecord? depth a r :=
  Option.bind_fun_some _

theorem mergeRecord?_of_unknown {r : Record} (h : ∀ f ∈ s.fields, r.number ∉ f.numbers) (a : M) :
    s.mergeRecord? depth a r = some a := by
  have hnone : s.fields.find? (·.numbers.contains r.number) = none :=
    List.find?_eq_none.2 fun f hf hcontains => h f hf (List.contains_iff_mem.1 hcontains)
  rw [mergeRecord?, hnone]

/-- A record is one of a field, or it is not known. -/
theorem mergeRecord?_cases (s : Schema M) (r : Record) :
    (∀ f ∈ s.fields, r.number ∉ f.numbers) ∨
      ∃ f ∈ s.fields, r.number ∈ f.numbers ∧ ∀ depth a, s.mergeRecord? depth a r = f.merge? depth r a := by
  cases hfind : s.fields.find? (·.numbers.contains r.number) with
  | none =>
    refine .inl fun f hf hmem => ?_
    exact List.find?_eq_none.1 hfind f hf (List.contains_iff_mem.2 hmem)
  | some f =>
    refine .inr ⟨f, List.mem_of_find?_eq_some hfind, List.contains_iff_mem.1 ?_, fun depth a => ?_⟩
    · exact List.find?_some (p := fun f : Field M => f.numbers.contains r.number) hfind
    · rw [mergeRecord?, hfind]

theorem Separate.nodup_numbers (hs : s.Separate) {f : Field M} (hf : f ∈ s.fields) : f.numbers.Nodup :=
  (List.nodup_flatMap.1 hs).1 f hf

namespace Orderly

variable (hs : s.Orderly)
include hs

theorem commute_of_ne {f g : Field M} (hf : f ∈ s.fields) (hg : g ∈ s.fields) (hne : f ≠ g) : f.Commute g :=
  hs.commute.forall hf hg hne

theorem mergeRecords?_swap {r r' : Record} (h : ∀ f ∈ s.fields, ¬(r.number ∈ f.numbers ∧ r'.number ∈ f.numbers))
    (a : M) : s.mergeRecords? depth a [r, r'] = s.mergeRecords? depth a [r', r] := by
  have hpair : ∀ r r' : Record, s.mergeRecords? depth a [r, r'] =
      (s.mergeRecord? depth a r).bind fun b => s.mergeRecord? depth b r' := fun r r' => by
    rw [← List.singleton_append, mergeRecords?_append, mergeRecords?_singleton]
    exact Option.bind_congr fun b _ => mergeRecords?_singleton b r'
  rw [hpair, hpair]
  rcases s.mergeRecord?_cases r with hunknown | ⟨f, hf, hr, hmerge⟩
  · simp only [mergeRecord?_of_unknown hunknown, Option.bind_some, Option.bind_fun_some]
  rcases s.mergeRecord?_cases r' with hunknown | ⟨g, hg, hr', hmerge'⟩
  · simp only [mergeRecord?_of_unknown hunknown, Option.bind_some, Option.bind_fun_some]
  have hne : f ≠ g := fun heq => h f hf ⟨hr, heq ▸ hr'⟩
  simp only [hmerge, hmerge']
  exact hs.commute_of_ne hf hg hne depth r r' a hr hr'

end Orderly

theorem foldlM_elements {n : Nat} {name : String} {c : Scalar α} {get : M → List α} {set : List α → M → M}
    (hbytes : c.form ≠ .bytes) (hget : ∀ vs m, get (set vs m) = vs)
    (hset : ∀ vs ws m, set ws (set vs m) = set ws m) (hsame : ∀ m, set (get m) m = m) {rs : List Record}
    {ps : List Payload} (h : Elements n c.form rs ps) (a : M) :
    rs.foldlM (fun a r => (Field.packed n name c get set).merge? depth r a) a =
      (ps.mapM c.take?).map fun vs => set (get a ++ vs) a := by
  induction h generalizing a with
  | nil =>
    show some a = some (set (get a ++ []) a)
    rw [List.append_nil, hsame]
  | @packed ps qs rs b hb _ ih =>
    have hmerge : (Field.packed n name c get set).merge? depth ⟨n, .bytes b⟩ a =
        (ps.mapM c.take?).map fun vs => set (get a ++ vs) a := by
      simp only [Field.packed, readPacked?_eq_some_iff.2 hb, Option.bind_eq_bind, Option.bind_some, Option.pure_def]
      exact (Option.map_eq_bind).symm
    rw [List.foldlM_cons, hmerge, List.mapM_append]
    cases ps.mapM c.take? with
    | none => rfl
    | some vs =>
      show List.foldlM _ (set (get a ++ vs) a) rs = _
      rw [ih, hget]
      cases qs.mapM c.take? with
      | none => rfl
      | some ws =>
        show some (set (get a ++ vs ++ ws) (set (get a ++ vs) a)) = some (set (get a ++ (vs ++ ws)) a)
        rw [hset, List.append_assoc]
  | @single p ps rs hform _ ih =>
    have hmerge : (Field.packed n name c get set).merge? depth ⟨n, p⟩ a =
        (c.take? p).map fun v => set (get a ++ [v]) a := by
      cases p with
      | bytes b => exact absurd hform.symm hbytes
      | _ => rfl
    rw [List.foldlM_cons, hmerge, List.mapM_cons]
    cases c.take? p with
    | none => rfl
    | some v =>
      show List.foldlM _ (set (get a ++ [v]) a) rs = _
      rw [ih, hget]
      cases ps.mapM c.take? with
      | none => rfl
      | some ws =>
        show some (set (get a ++ [v] ++ ws) (set (get a ++ [v]) a)) = some (set (get a ++ v :: ws) a)
        rw [hset, List.append_assoc, List.singleton_append]

theorem number_of_elements {n : Nat} {form : Form} {rs : List Record} {ps : List Payload}
    (h : Elements n form rs ps) : ∀ r ∈ rs, r.number = n := by
  induction h with
  | nil => exact fun _ hr => nomatch hr
  | packed _ _ ih => exact List.forall_mem_cons.2 ⟨rfl, ih⟩
  | single _ _ ih => exact List.forall_mem_cons.2 ⟨rfl, ih⟩

theorem Repeats.mergeRecords?_eq {n : Nat} {form : Form} (hfield : s.Repeats n form) (hs : s.Separate)
    {rs rs' : List Record} {ps : List Payload} (h : Elements n form rs ps) (h' : Elements n form rs' ps) (a : M) :
    s.mergeRecords? depth a rs = s.mergeRecords? depth a rs' := by
  obtain ⟨hfield, rfl, hbytes, hget, hset, hsame⟩ := hfield
  rw [hs.mergeRecords?_field hfield fun r hr => List.mem_singleton.2 (number_of_elements h r hr),
    hs.mergeRecords?_field hfield fun r hr => List.mem_singleton.2 (number_of_elements h' r hr),
    foldlM_elements hbytes hget hset hsame h, foldlM_elements hbytes hget hset hsame h']

end Schema

/-! ### Layouts are read alike -/

theorem Schema.mergeEmbedded?_congr {s' : Schema N} {depth : Nat} {b b' : Bytes} {rs rs' : List Record}
    (hb : Spells depth rs b) (hb' : Spells depth rs' b')
    (hsame : ∀ a, s'.mergeRecords? depth a rs = s'.mergeRecords? depth a rs') (a : N) :
    s'.mergeEmbedded? (depth + 1) a (.bytes b) = s'.mergeEmbedded? (depth + 1) a (.bytes b') := by
  simp only [mergeEmbedded?, records?_eq_some_iff.2 hb, records?_eq_some_iff.2 hb', Option.bind_eq_bind,
    Option.bind_some, hsame]

/-- Two layouts of one message do the same to whatever was read before. -/
theorem Relaid.mergeRecords?_eq {s : Schema M} {depth : Nat} {rs rs' : List Record} (h : Relaid s depth rs rs')
    (hs : s.Orderly) (a : M) : s.mergeRecords? depth a rs = s.mergeRecords? depth a rs' := by
  induction h with
  | refl => rfl
  | symm _ ih => exact (ih hs a).symm
  | trans _ _ ih ih' => exact (ih hs a).trans (ih' hs a)
  | within front back _ ih =>
    simp only [Schema.mergeRecords?_append]
    congr 1
    exact Option.bind_congr fun b _ => ih hs b
  | added h => rw [Schema.mergeRecords?_singleton, Schema.mergeRecord?_of_unknown h]; rfl
  | swapped h => exact hs.mergeRecords?_swap h a
  | regrouped hfield h h' => exact hfield.mergeRecords?_eq hs.separate h h' a
  | @inside _ _ s s' depth n b b' rs rs' hfield hb hb' _ ih =>
    obtain ⟨f, hf, hembeds⟩ := hfield.field
    have hmerge : ∀ p, s.mergeRecord? (depth + 1) a ⟨n, p⟩ = f.merge? (depth + 1) ⟨n, p⟩ a := fun p => by
      rw [Schema.mergeRecord?, hs.separate.find?_eq hf hembeds.mem_numbers]
    rw [Schema.mergeRecords?_singleton, Schema.mergeRecords?_singleton, hmerge, hmerge]
    exact hembeds.merge?_congr (hs.separate.nodup_numbers hf)
      (Schema.mergeEmbedded?_congr hb hb' fun a => ih hfield.orderly a) a

/-- What a byte string is read as depends on its records alone, and not on their layout. -/
structure Schema.IgnoresLayout (s : Schema M) : Prop where
  spelled : ∀ bs m, s.decode? bs = some m → ∃ rs, Spells maxDepth rs bs
  decode?_eq : ∀ rs rs' bs bs', Spells maxDepth rs bs → Spells maxDepth rs' bs' → Relaid s maxDepth rs rs' →
    s.decode? bs = s.decode? bs'

theorem Schema.Orderly.ignoresLayout {s : Schema M} (hs : s.Orderly) : s.IgnoresLayout where
  spelled bs m h := by
    obtain ⟨rs, hrs, -⟩ := Option.bind_eq_some_iff.1 h
    exact ⟨rs, records?_eq_some_iff.1 hrs⟩
  decode?_eq rs rs' bs bs' h h' hrelaid := by
    simp only [decode?, records?_eq_some_iff.2 h, records?_eq_some_iff.2 h', Option.bind_eq_bind, Option.bind_some,
      hrelaid.mergeRecords?_eq hs]

end RadioMesh.Wire
