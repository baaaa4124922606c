import RadioMesh.Proofs.Wire.Record
import RadioMesh.Wire.Schema

/-!
What a schema needs so that its messages are read back: each field's records are sound, carry numbers of
the field, are as long as the field says, and, read into a message without the field, set it as it was.
The fields of a message are read one after the other, so a message is built up field by field
(`Transfers`). A value that a plain field leaves out comes back as the default (`Scalar.settle`).
-/

namespace RadioMesh.Wire

variable {M N α σ : Type}

/-! ### Scalars -/

/-- All values of a scalar have one form, which is not that of a group. -/
class Scalar.Lawful (s : Scalar α) : Prop where
  form_put : ∀ v, (s.put v).form = s.form
  form_ne : s.form ≠ .groupStart

/-- Only the default value is left out. -/
class Scalar.Exact (s : Scalar α) : Prop where
  eq_default : ∀ v, s.omits v = true → v = s.default

namespace Scalar

/-- A value as a plain field brings it back. -/
def settle (s : Scalar α) (v : α) : α :=
  if s.omits v then s.default else v

theorem settle_eq (s : Scalar α) [s.Exact] (v : α) : s.settle v = v := by
  unfold settle
  split
  · next h => exact (Exact.eq_default v h).symm
  · rfl

instance : uint32.Lawful := ⟨fun _ => rfl, by decide⟩

instance : uint64.Lawful := ⟨fun _ => rfl, by decide⟩

instance : int32.Lawful := ⟨fun _ => rfl, by decide⟩

instance : bool.Lawful := ⟨fun _ => rfl, by decide⟩

instance : fixed32.Lawful := ⟨fun _ => rfl, by decide⟩

instance : sfixed32.Lawful := ⟨fun _ => rfl, by decide⟩

instance : float.Lawful := ⟨fun _ => rfl, by decide⟩

instance : bytes.Lawful := ⟨fun _ => rfl, by decide⟩

instance : text.Lawful := ⟨fun _ => rfl, by decide⟩

instance : uint32.Exact := ⟨fun _ h => eq_of_beq h⟩

instance : uint64.Exact := ⟨fun _ h => eq_of_beq h⟩

instance : int32.Exact := ⟨fun _ h => eq_of_beq h⟩

instance : bool.Exact := ⟨fun v h => by cases v; exacts [rfl, absurd h (by decide)]⟩

instance : fixed32.Exact := ⟨fun _ h => eq_of_beq h⟩

instance : sfixed32.Exact := ⟨fun _ h => eq_of_beq h⟩

instance : bytes.Exact := ⟨fun _ h => List.isEmpty_iff.1 h⟩

instance : text.Exact := ⟨fun _ h => String.isEmpty_iff.1 h⟩

theorem mapM_take?_map_put (s : Scalar α) (vs : List α) : (vs.map s.put).mapM s.take? = some vs := by
  induction vs with
  | nil => rfl
  | cons v vs ih =>
    rw [List.map_cons, List.mapM_cons, s.take_put, ih]
    rfl

end Scalar

theorem Payload.sound_of_length {p : Payload} (hf : p.form ≠ .groupStart) (hl : p.content.length < 2 ^ 64) :
    p.Sound := by
  cases p with
  | bytes b =>
    rw [Payload.content, List.length_append] at hl
    exact Nat.lt_of_le_of_lt (Nat.le_add_left _ _) hl
  | group => exact absurd rfl hf
  | varint n => trivial
  | fixed64 w => trivial
  | fixed32 w => trivial

theorem Scalar.sound_put (s : Scalar α) [s.Lawful] {v : α} (hl : (s.put v).content.length < 2 ^ 64) :
    (s.put v).Sound :=
  Payload.sound_of_length (by rw [Lawful.form_put]; exact Lawful.form_ne) hl

theorem Scalar.length_contents (s : Scalar α) (vs : List α) :
    (vs.flatMap fun v => (s.put v).content).length = vs.foldr (fun v n => (s.put v).size + n) 0 := by
  induction vs with
  | nil => rfl
  | cons v vs ih => rw [List.flatMap_cons, List.length_append, length_content, ih, List.foldr_cons]

theorem length_le_of_mem_flatMap {β γ : Type} {f : β → List γ} {xs : List β} {x : β} (hx : x ∈ xs) :
    (f x).length ≤ (xs.flatMap f).length := by
  have hle := (List.sublist_flatten_of_mem (List.mem_map_of_mem (f := f) hx)).length_le
  rwa [← List.flatMap_def] at hle

theorem Scalar.readPacked?_contents (s : Scalar α) [s.Lawful] (vs : List α)
    (hlt : (vs.flatMap fun v => (s.put v).content).length < 2 ^ 64) :
    readPacked? s.form (vs.flatMap fun v => (s.put v).content) = some (vs.map s.put) := by
  have hcontents : (vs.flatMap fun v => (s.put v).content) = (vs.map s.put).flatMap Payload.content := by
    rw [List.flatMap_map]
  rw [hcontents]
  refine readPacked?_flatMap_content (fun p hp => ?_) fun p hp => ?_
  · obtain ⟨v, hv, rfl⟩ := List.mem_map.1 hp
    exact s.sound_put (Nat.lt_of_le_of_lt (length_le_of_mem_flatMap (f := fun v => (s.put v).content) hv) hlt)
  · obtain ⟨v, -, rfl⟩ := List.mem_map.1 hp
    exact Scalar.Lawful.form_put v

/-! ### One field -/

instance (number : Nat) : Decidable (IsFieldNumber number) :=
  inferInstanceAs (Decidable (_ ∧ _))

/-- The bytes of a field in a message. -/
def Field.bytes (f : Field M) (m : M) : Bytes :=
  (f.records m).flatMap Record.write

/-- A field's records of `m` are well formed, and reading them into `a` gives `b`. -/
structure Field.Carries (f : Field M) (depth : Nat) (m a b : M) : Prop where
  number : ∀ r ∈ f.records m, r.number ∈ f.numbers
  sound : (f.bytes m).length < 2 ^ 64 → ∀ r ∈ f.records m, r.Sound
  length : f.length m = (f.bytes m).length
  read : (f.bytes m).length < 2 ^ 64 → (f.records m).foldlM (fun a r => f.merge? depth r a) a = some b

/-- What a schema promises: `encodedLength` is the length of the encoding, and messages that are nested in
no more than `depth - height` others are read back, as `settle` makes them. -/
structure Schema.RoundTrips (s : Schema M) (height : Nat) (settle : M → M) : Prop where
  length : ∀ m, s.encodedLength m = (s.encode m).length
  read : ∀ depth, height ≤ depth → ∀ m, (s.encode m).length < 2 ^ 64 →
    (records? depth (s.encode m)).bind (s.mergeRecords? depth s.empty) = some (settle m)

/-- The written form of one record, whether it is sound or not. -/
theorem Record.length_write_of_form {r : Record} (h : r.payload.form ≠ .groupStart) :
    r.write.length = keySize r.number + r.payload.size := by
  have hne : r.payload ≠ .group := fun hg => h (by rw [hg]; rfl)
  rw [Record.write, if_neg hne, List.append_nil, List.length_append, length_writeKey, length_content]

theorem Payload.form_bytes_ne (b : Bytes) : (Payload.bytes b).form ≠ .groupStart :=
  (by decide : Form.bytes ≠ .groupStart)

theorem Record.length_content_le {r : Record} (h : r.payload.form ≠ .groupStart) :
    r.payload.content.length ≤ r.write.length := by
  rw [r.length_write_of_form h, length_content]
  exact Nat.le_add_left _ _

/-- An embedded message that is not there yet. -/
theorem Schema.RoundTrips.mergeEmbedded? {s : Schema N} {height : Nat} {settle : N → N}
    (hs : s.RoundTrips height settle) {depth : Nat} (hd : height < depth) {v : N}
    (hl : (Payload.bytes (s.encode v)).content.length < 2 ^ 64) :
    s.mergeEmbedded? depth s.empty (.bytes (s.encode v)) = some (settle v) := by
  obtain ⟨d, rfl⟩ : ∃ d, depth = d + 1 := ⟨depth - 1, by omega⟩
  rw [Payload.content, List.length_append] at hl
  exact hs.read d (by omega) v (by omega)

namespace Field.Carries

variable {depth : Nat} {m a : M} {number : Nat} {name : String}

/-- A field that writes no record. -/
theorem of_nil {f : Field M} (hr : f.records m = []) (hl : f.length m = 0) : f.Carries depth m a a where
  number := by simp [hr]
  sound := by simp [hr]
  length := by rw [hl, Field.bytes, hr]; rfl
  read _ := by rw [hr]; rfl

/-- A field that writes one record. -/
theorem of_singleton {f : Field M} {r : Record} {b : M} (hr : f.records m = [r])
    (hl : f.length m = keySize r.number + r.payload.size) (hn : IsFieldNumber r.number)
    (hm : r.number ∈ f.numbers) (hf : r.payload.form ≠ .groupStart)
    (hread : r.payload.content.length < 2 ^ 64 → f.merge? depth r a = some b) : f.Carries depth m a b := by
  have hbytes : f.bytes m = r.write := by rw [Field.bytes, hr, List.flatMap_singleton]
  refine ⟨?_, ?_, ?_, ?_⟩
  · rw [hr]
    intro r' hr'
    rw [List.mem_singleton.1 hr']
    exact hm
  · intro hlt r' hr'
    rw [hr, List.mem_singleton] at hr'
    subst hr'
    rw [hbytes] at hlt
    exact ⟨hn, Payload.sound_of_length hf (Nat.lt_of_le_of_lt (Record.length_content_le hf) hlt)⟩
  · rw [hl, hbytes, Record.length_write_of_form hf]
  · intro hlt
    rw [hbytes] at hlt
    rw [hr, List.foldlM_cons, hread (Nat.lt_of_le_of_lt (Record.length_content_le hf) hlt)]
    rfl

section Scalar
variable {s : Scalar α} [s.Lawful]

/-- A plain field, whose value may be left out. -/
theorem settled {get : M → α} {set : α → M → M} (hn : IsFieldNumber number) (hset : set s.default a = a) :
    (Field.plain number name s get set).Carries depth m a (set (s.settle (get m)) a) := by
  by_cases homit : s.omits (get m) = true
  · rw [Scalar.settle, if_pos homit, hset]
    exact of_nil (if_pos homit) (if_pos homit)
  · rw [Scalar.settle, if_neg homit]
    refine of_singleton (if_neg homit) (if_neg homit) hn List.mem_cons_self ?_ fun _ => ?_
    · rw [Scalar.Lawful.form_put]
      exact Scalar.Lawful.form_ne
    · show (s.take? (s.put (get m))).map _ = _
      rw [s.take_put, Option.map_some]

theorem plain [s.Exact] {get : M → α} {set : α → M → M} (hn : IsFieldNumber number) (hset : set s.default a = a) :
    (Field.plain number name s get set).Carries depth m a (set (get m) a) := by
  have h : (Field.plain number name s get set).Carries depth m a (set (s.settle (get m)) a) := settled hn hset
  rwa [s.settle_eq] at h

theorem optional {get : M → Option α} {set : Option α → M → M} (hn : IsFieldNumber number)
    (hset : set none a = a) : (Field.optional number name s get set).Carries depth m a (set (get m) a) := by
  cases hget : get m with
  | none =>
    rw [hset]
    exact of_nil (by simp [Field.optional, hget]) (by simp [Field.optional, hget])
  | some v =>
    refine of_singleton (r := ⟨number, s.put v⟩) (by simp [Field.optional, hget])
      (by simp [Field.optional, hget]) hn List.mem_cons_self ?_ fun _ => ?_
    · rw [Scalar.Lawful.form_put]
      exact Scalar.Lawful.form_ne
    · show (s.take? (s.put v)).map _ = _
      rw [s.take_put, Option.map_some]

theorem packed {get : M → List α} {set : List α → M → M} (hn : IsFieldNumber number) (hget : get a = [])
    (hset : set [] a = a) : (Field.packed number name s get set).Carries depth m a (set (get m) a) := by
  by_cases hempty : (get m).isEmpty = true
  · rw [List.isEmpty_iff.1 hempty, hset]
    exact of_nil (if_pos hempty) (if_pos hempty)
  · refine of_singleton (if_neg hempty) ?_ hn List.mem_cons_self (Payload.form_bytes_ne _) fun hlt => ?_
    · show (if (get m).isEmpty then 0 else _) = _
      rw [if_neg hempty, ← s.length_contents]
      rfl
    · rw [Payload.content, List.length_append] at hlt
      have hread := s.readPacked?_contents (get m) (by omega)
      simp only [Field.packed, hread, s.mapM_take?_map_put, hget, List.nil_append, Option.bind_eq_bind,
        Option.bind_some, Option.pure_def]

end Scalar

section Embedded
variable {s : Schema N} {height : Nat} {settle : N → N}

theorem message (hs : s.RoundTrips height settle) {get : M → Option N} {set : Option N → M → M}
    (hd : height < depth) (hn : IsFieldNumber number) (hget : get a = none) (hset : set none a = a) :
    (Field.message number name s get set).Carries depth m a (set ((get m).map settle) a) := by
  cases hm : get m with
  | none =>
    rw [Option.map_none, hset]
    exact of_nil (by simp [Field.message, hm]) (by simp [Field.message, hm])
  | some v =>
    refine of_singleton (r := ⟨number, .bytes (s.encode v)⟩) (by simp [Field.message, hm]) ?_ hn
      List.mem_cons_self (Payload.form_bytes_ne _) fun hlt => ?_
    · simp only [Field.message, hm, Option.elim_some, hs.length, Payload.size]
    · simp only [Field.message, hget, Option.getD_none, hs.mergeEmbedded? hd hlt, Option.map_some]

theorem length_embedded (hs : s.RoundTrips height settle) (vs : List N) :
    ((vs.map fun v => (⟨number, .bytes (s.encode v)⟩ : Record)).flatMap Record.write).length =
      vs.foldr (fun v n => keySize number + delimitedSize (s.encodedLength v) + n) 0 := by
  induction vs with
  | nil => rfl
  | cons v vs ih =>
    rw [List.map_cons, List.flatMap_cons, List.length_append, ih, List.foldr_cons, hs.length,
      Record.length_write_of_form (Payload.form_bytes_ne _)]
    rfl

/-- What was read before stays in front of what is still to be read. -/
theorem foldlM_messages (number : Nat) (name : String) (hs : s.RoundTrips height settle) {get : M → List N}
    {set : List N → M → M} (hd : height < depth) (hgetset : ∀ xs, get (set xs a) = xs)
    (hsetset : ∀ xs ys, set ys (set xs a) = set ys a) {vs : List N}
    (hvs : ∀ v ∈ vs, (Payload.bytes (s.encode v)).content.length < 2 ^ 64) (xs : List N) :
    (vs.map fun v => (⟨number, .bytes (s.encode v)⟩ : Record)).foldlM
        (fun a r => (Field.messages number name s get set).merge? depth r a) (set xs a) =
      some (set (xs ++ vs.map settle) a) := by
  induction vs generalizing xs with
  | nil =>
    rw [List.map_nil, List.map_nil, List.append_nil]
    rfl
  | cons v vs ih =>
    have hv : (Field.messages number name s get set).merge? depth ⟨number, .bytes (s.encode v)⟩ (set xs a) =
        some (set (xs ++ [settle v]) a) := by
      simp only [Field.messages, hs.mergeEmbedded? hd (hvs v List.mem_cons_self), Option.map_some, hgetset,
        hsetset]
    rw [List.map_cons, List.foldlM_cons, hv]
    simp only [Option.bind_eq_bind, Option.bind_some]
    rw [ih (fun v' hv' => hvs v' (List.mem_cons_of_mem v hv')) (xs ++ [settle v]), List.map_cons,
      List.append_assoc, List.singleton_append]

/-- The message is built up by its setter alone, which may be used again and again. -/
theorem messages (hs : s.RoundTrips height settle) {get : M → List N} {set : List N → M → M}
    (hd : height < depth) (hn : IsFieldNumber number) (hset : set [] a = a)
    (hgetset : ∀ xs, get (set xs a) = xs) (hsetset : ∀ xs ys, set ys (set xs a) = set ys a) :
    (Field.messages number name s get set).Carries depth m a (set ((get m).map settle) a) := by
  have hsmall : ((Field.messages number name s get set).bytes m).length < 2 ^ 64 →
      ∀ v ∈ get m, (Payload.bytes (s.encode v)).content.length < 2 ^ 64 := fun hlt v hv => by
    have hcontent := Record.length_content_le (r := ⟨number, .bytes (s.encode v)⟩) (Payload.form_bytes_ne _)
    have hwrite := length_le_of_mem_flatMap (f := Record.write)
      (List.mem_map_of_mem (f := fun v => (⟨number, .bytes (s.encode v)⟩ : Record)) hv)
    exact Nat.lt_of_le_of_lt (Nat.le_trans hcontent hwrite) hlt
  refine ⟨?_, ?_, ?_, ?_⟩
  · intro r hr
    obtain ⟨v, -, rfl⟩ := List.mem_map.1 hr
    exact List.mem_cons_self
  · intro hlt r hr
    obtain ⟨v, hv, rfl⟩ := List.mem_map.1 hr
    exact ⟨hn, Payload.sound_of_length (Payload.form_bytes_ne _) (hsmall hlt v hv)⟩
  · exact (length_embedded hs (get m)).symm
  · intro hlt
    have hread := foldlM_messages number name hs hd hgetset hsetset (hsmall hlt) []
    rwa [hset, List.nil_append] at hread

end Embedded

end Field.Carries

/-! ### Alternatives -/

/-- The alternative writes `v`, and reads it as `w`. -/
structure Alternative.Carries (x : Alternative σ) (depth : Nat) (v w : σ) (p : Payload) : Prop where
  put : x.put? v = some p
  size : x.size? v = some p.size
  form : p.form ≠ .groupStart
  take : p.content.length < 2 ^ 64 → x.take? depth none p = some w

namespace Alternative.Carries

variable {depth number : Nat} {name : String}

theorem scalar {s : Scalar α} [s.Lawful] {inject : α → σ} {project? : σ → Option α} {n : α}
    (h : project? (inject n) = some n) :
    (Alternative.scalar number name s inject project?).Carries depth (inject n) (inject n) (s.put n) where
  put := by simp only [Alternative.scalar, h, Option.map_some]
  size := by simp only [Alternative.scalar, h, Option.map_some]
  form := by rw [Scalar.Lawful.form_put]; exact Scalar.Lawful.form_ne
  take _ := by simp only [Alternative.scalar, s.take_put, Option.map_some]

theorem message {s : Schema N} {height : Nat} {settle : N → N} (hs : s.RoundTrips height settle)
    (hd : height < depth) {inject : N → σ} {project? : σ → Option N} {n : N} (h : project? (inject n) = some n) :
    (Alternative.message number name s inject project?).Carries depth (inject n) (inject (settle n))
      (.bytes (s.encode n)) where
  put := by simp only [Alternative.message, h, Option.map_some]
  size := by simp only [Alternative.message, h, Option.map_some, hs.length, Payload.size]
  form := Payload.form_bytes_ne _
  take hlt := by
    simp only [Alternative.message, Option.bind_none, Option.getD_none, hs.mergeEmbedded? hd hlt, Option.map_some]

end Alternative.Carries

/-- The first of the alternatives that writes `v` reads it back. -/
def Alternative.Chosen (alternatives : List (Alternative σ)) (depth : Nat) (v : σ) : Prop :=
  ∃ (i : Nat) (x : Alternative σ) (p : Payload), alternatives[i]? = some x ∧ x.Carries depth v v p ∧
    (alternatives.take i).all (fun y => (y.put? v).isNone && (y.size? v).isNone) = true

theorem find?_of_nodup {β : Type} {f : β → Nat} {xs : List β} (hnodup : (xs.map f).Nodup) {x : β} (hx : x ∈ xs) :
    xs.find? (f · == f x) = some x := by
  obtain ⟨y, hy⟩ : ∃ y, xs.find? (f · == f x) = some y :=
    Option.isSome_iff_exists.1 (List.find?_isSome.2 ⟨x, hx, beq_self_eq_true _⟩)
  have hfound : (f y == f x) = true := List.find?_some (p := fun z => f z == f x) hy
  rw [hy, List.inj_on_of_nodup_map hnodup (List.mem_of_find?_eq_some hy) hx (eq_of_beq hfound)]

theorem findSome?_of_take {β γ : Type} {f : β → Option γ} {xs : List β} {i : Nat} {x : β} (hx : xs[i]? = some x)
    (hfirst : ∀ y ∈ xs.take i, f y = none) {c : γ} (hc : f x = some c) : xs.findSome? f = some c := by
  induction xs generalizing i with
  | nil => cases hx
  | cons y ys ih =>
    cases i with
    | zero =>
      rw [List.getElem?_cons_zero, Option.some.injEq] at hx
      rw [hx, List.findSome?_cons_of_isSome (by rw [hc]; rfl), hc]
    | succ i =>
      rw [List.getElem?_cons_succ] at hx
      rw [List.findSome?_cons_of_isNone (by rw [hfirst y List.mem_cons_self]; rfl)]
      exact ih hx fun z hz => hfirst z (List.mem_cons_of_mem y hz)

theorem Field.Carries.choice {depth : Nat} {m a : M} {name : String} {alternatives : List (Alternative σ)}
    {get : M → Option σ} {set : Option σ → M → M}
    (hnumbers : ∀ x ∈ alternatives, IsFieldNumber x.number) (hnodup : (alternatives.map (·.number)).Nodup)
    (hget : get a = none) (hset : set none a = a)
    (hchosen : ∀ v, Alternative.Chosen alternatives depth v) :
    (Field.choice name alternatives get set).Carries depth m a (set (get m) a) := by
  cases hm : get m with
  | none =>
    rw [hset]
    exact of_nil (by simp only [Field.choice, hm]) (by simp only [Field.choice, hm])
  | some v =>
    obtain ⟨i, x, p, hx, hcarries, hfirst⟩ := hchosen v
    have hmem : x ∈ alternatives := List.mem_of_getElem? hx
    have hnone : ∀ y ∈ alternatives.take i, y.put? v = none ∧ y.size? v = none := fun y hy => by
      have h := List.all_eq_true.1 hfirst y hy
      rwa [Bool.and_eq_true, Option.isNone_iff_eq_none, Option.isNone_iff_eq_none] at h
    have hput : (alternatives.findSome? fun y => (y.put? v).map fun p => (⟨y.number, p⟩ : Record)) =
        some ⟨x.number, p⟩ :=
      findSome?_of_take hx (fun y hy => by rw [(hnone y hy).1, Option.map_none])
        (by rw [hcarries.put, Option.map_some])
    have hsize : (alternatives.findSome? fun y => (y.size? v).map fun n => keySize y.number + n) =
        some (keySize x.number + p.size) :=
      findSome?_of_take hx (fun y hy => by rw [(hnone y hy).2, Option.map_none])
        (by rw [hcarries.size, Option.map_some])
    have hfind : alternatives.find? (·.number == x.number) = some x := find?_of_nodup hnodup hmem
    refine of_singleton (r := ⟨x.number, p⟩) ?_ ?_ (hnumbers x hmem) (List.mem_map_of_mem hmem) hcarries.form
      fun hlt => ?_
    · simp only [Field.choice, hm, hput, Option.toList_some]
    · simp only [Field.choice, hm, hsize, Option.getD_some]
    · simp only [Field.choice, hfind, hget, hcarries.take hlt, Option.map_some]

/-! ### All fields -/

/-- The fields, read one after the other, turn `a` into the last message. -/
inductive Transfers (depth : Nat) (m : M) : List (Field M) → M → M → Prop
  | done {a : M} : Transfers depth m [] a a
  | field {f : Field M} {fs : List (Field M)} {a b c : M} (head : f.Carries depth m a b)
    (tail : Transfers depth m fs b c) : Transfers depth m (f :: fs) a c

namespace Transfers

variable {depth : Nat} {m a b : M} {fs : List (Field M)}

theorem length (h : Transfers depth m fs a b) :
    fs.foldr (fun f n => f.length m + n) 0 = ((fs.flatMap (·.records m)).flatMap Record.write).length := by
  induction h with
  | done => rfl
  | field head tail ih =>
    rw [List.foldr_cons, ih, head.length, List.flatMap_cons, List.flatMap_append, List.length_append]
    rfl

theorem sound (h : Transfers depth m fs a b)
    (hlt : ((fs.flatMap (·.records m)).flatMap Record.write).length < 2 ^ 64) :
    ∀ r ∈ fs.flatMap (·.records m), r.Sound := by
  induction h with
  | done => intro r hr; cases hr
  | field head tail ih =>
    rw [List.flatMap_cons, List.flatMap_append, List.length_append] at hlt
    intro r hr
    rw [List.flatMap_cons, List.mem_append] at hr
    rcases hr with hr | hr
    · exact head.sound (Nat.lt_of_le_of_lt (Nat.le_add_right _ _) hlt) r hr
    · exact ih (Nat.lt_of_le_of_lt (Nat.le_add_left _ _) hlt) r hr

end Transfers

namespace Schema

variable {s : Schema M} {depth : Nat}

/-- No number belongs to two fields. -/
def Separate (s : Schema M) : Prop :=
  (s.fields.flatMap (·.numbers)).Nodup

instance (s : Schema M) : Decidable s.Separate :=
  inferInstanceAs (Decidable (List.Nodup _))

theorem Separate.find?_eq (hs : s.Separate) {f : Field M} (hf : f ∈ s.fields) {n : Nat} (hn : n ∈ f.numbers) :
    s.fields.find? (·.numbers.contains n) = some f := by
  rw [Separate] at hs
  generalize s.fields = fs at hs hf
  induction fs with
  | nil => cases hf
  | cons g gs ih =>
    rw [List.flatMap_cons, List.nodup_append] at hs
    obtain ⟨-, hgs, hdisjoint⟩ := hs
    by_cases hg : n ∈ g.numbers
    · rcases List.mem_cons.1 hf with rfl | hf
      · exact List.find?_cons_of_pos (List.contains_iff_mem.2 hg)
      · exact absurd rfl (hdisjoint n hg n (List.mem_flatMap.2 ⟨f, hf, hn⟩))
    · rcases List.mem_cons.1 hf with rfl | hf
      · exact absurd hn hg
      · rw [List.find?_cons]
        split
        · next h => exact absurd (List.contains_iff_mem.1 h) hg
        · exact ih hgs hf

theorem Separate.mergeRecords?_field (hs : s.Separate) {f : Field M} (hf : f ∈ s.fields) {rs : List Record}
    (hrs : ∀ r ∈ rs, r.number ∈ f.numbers) (a : M) :
    s.mergeRecords? depth a rs = rs.foldlM (fun a r => f.merge? depth r a) a := by
  rw [mergeRecords?]
  induction rs generalizing a with
  | nil => rfl
  | cons r rs ih =>
    have hr : s.mergeRecord? depth a r = f.merge? depth r a := by
      rw [mergeRecord?, hs.find?_eq hf (hrs r List.mem_cons_self)]
    rw [List.foldlM_cons, List.foldlM_cons, hr]
    exact bind_congr fun b => ih (fun r' hr' => hrs r' (List.mem_cons_of_mem r hr')) b

theorem Separate.mergeRecords?_transfers (hs : s.Separate) {m a b : M} {fs : List (Field M)}
    (hfs : ∀ f ∈ fs, f ∈ s.fields) (h : Transfers depth m fs a b)
    (hlt : ((fs.flatMap (·.records m)).flatMap Record.write).length < 2 ^ 64) :
    s.mergeRecords? depth a (fs.flatMap (·.records m)) = some b := by
  induction h with
  | done => rfl
  | @field f fs a b c head tail ih =>
    rw [List.flatMap_cons, List.flatMap_append, List.length_append] at hlt
    have hhead : s.mergeRecords? depth a (f.records m) = some b := by
      rw [hs.mergeRecords?_field (hfs f List.mem_cons_self) head.number]
      exact head.read (Nat.lt_of_le_of_lt (Nat.le_add_right _ _) hlt)
    have htail := ih (fun g hg => hfs g (List.mem_cons_of_mem f hg))
      (Nat.lt_of_le_of_lt (Nat.le_add_left _ _) hlt)
    rw [mergeRecords?] at hhead htail ⊢
    rw [List.flatMap_cons, List.foldlM_append, hhead]
    exact htail

theorem RoundTrips.of_transfers {height : Nat} {settle : M → M} (hs : s.Separate)
    (h : ∀ depth, height ≤ depth → ∀ m, Transfers depth m s.fields s.empty (settle m)) :
    s.RoundTrips height settle where
  length m := (h height (Nat.le_refl _) m).length
  read depth hd m hlt := by
    have ht := h depth hd m
    rw [encode, records, records?_flatMap_write (ht.sound hlt) depth, Option.bind_some]
    exact hs.mergeRecords?_transfers (fun _ hf => hf) ht hlt

theorem RoundTrips.decode?_encode {height : Nat} {settle : M → M} (hs : s.RoundTrips height settle)
    (hd : height ≤ maxDepth) {m : M} (hlt : (s.encode m).length < 2 ^ 64) :
    s.decode? (s.encode m) = some (settle m) :=
  hs.read maxDepth hd m hlt

end Schema

/-! ### Messages without others in them -/

/-- A field that brings its value from one message into another, which is blank where the value belongs. -/
class Field.Copies (f : Field M) (copy : outParam (M → M → M)) (blank : outParam (M → Prop)) : Prop where
  carries : (∀ n ∈ f.numbers, IsFieldNumber n) → ∀ depth m a, blank a → f.Carries depth m a (copy m a)

namespace Field.Copies

variable {number : Nat} {name : String} {s : Scalar α} [s.Lawful]

instance plain [s.Exact] {get : M → α} {set : α → M → M} :
    (Field.plain number name s get set).Copies (fun m => set (get m)) fun a => set s.default a = a :=
  ⟨fun hn _ _ _ hblank => .plain (hn number List.mem_cons_self) hblank⟩

instance optional {get : M → Option α} {set : Option α → M → M} :
    (Field.optional number name s get set).Copies (fun m => set (get m)) fun a => set none a = a :=
  ⟨fun hn _ _ _ hblank => .optional (hn number List.mem_cons_self) hblank⟩

instance packed {get : M → List α} {set : List α → M → M} :
    (Field.packed number name s get set).Copies (fun m => set (get m)) fun a => get a = [] ∧ set [] a = a :=
  ⟨fun hn _ _ _ hblank => .packed (hn number List.mem_cons_self) hblank.1 hblank.2⟩

end Field.Copies

/-- Fields that bring their values over one after the other. -/
class Field.CopiesAll (fs : List (Field M)) (copy : outParam (M → M → M)) (blank : outParam (M → M → Prop)) : Prop where
  transfers : (∀ n ∈ fs.flatMap (·.numbers), IsFieldNumber n) → ∀ depth m a, blank m a →
    Transfers depth m fs a (copy m a)

namespace Field.CopiesAll

instance nil : CopiesAll ([] : List (Field M)) (fun _ a => a) fun _ _ => True :=
  ⟨fun _ _ _ _ _ => .done⟩

instance cons {f : Field M} {fs : List (Field M)} {copy copy' : M → M → M} {blank : M → Prop}
    {blank' : M → M → Prop} [hf : f.Copies copy blank] [hfs : CopiesAll fs copy' blank'] :
    CopiesAll (f :: fs) (fun m a => copy' m (copy m a)) fun m a => blank a ∧ blank' m (copy m a) := by
  refine ⟨fun hn depth m a hblank => ?_⟩
  rw [List.flatMap_cons, List.forall_mem_append] at hn
  exact .field (hf.carries hn.1 depth m a hblank.1) (hfs.transfers hn.2 depth m _ hblank.2)

end Field.CopiesAll

theorem Schema.RoundTrips.of_copies {empty : M} {fs : List (Field M)} {copy : M → M → M} {blank : M → M → Prop}
    {settle : M → M} [hfs : Field.CopiesAll fs copy blank] (hs : (Schema.mk empty fs).Separate)
    (hn : ∀ n ∈ fs.flatMap (·.numbers), IsFieldNumber n) (hblank : ∀ m, blank m empty)
    (hcopy : ∀ m, copy m empty = settle m) : (Schema.mk empty fs).RoundTrips 0 settle :=
  .of_transfers hs fun depth _ m => hcopy m ▸ hfs.transfers hn depth m empty (hblank m)

end RadioMesh.Wire
