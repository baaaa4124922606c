import RadioMesh.Proofs.Wire.Record

/-!
The bytes that make a record, said without the reader. A number may take more bytes than it needs, and a group
holds fields and further groups. The reader takes exactly these bytes, whatever follows them.
-/

namespace RadioMesh.Wire

/-! ### Numbers and keys -/

namespace Varint

/-- The spellings of a number from its byte at `index` on: seven bits a byte, lowest first, with the high bit on
all bytes but the last. The tenth byte is the last one and holds one bit. -/
inductive Spells : Nat → Nat → Bytes → Prop
  | last {index : Nat} {b : UInt8} (hb : b < 128) (htenth : index = 9 → b < 2) : Spells index b.toNat [b]
  | more {index n : Nat} {b : UInt8} {bs : Bytes} (hb : ¬b < 128) (hindex : index ≠ 9) (h : Spells (index + 1) n bs) :
    Spells index (n * 128 + (b.toNat - 128)) (b :: bs)

theorem Spells.readFrom? {index n : Nat} {bs : Bytes} (h : Spells index n bs) (rest : Bytes) :
    readFrom? index (bs ++ rest) = some (n, rest) := by
  induction h with
  | last hb htenth =>
    rw [List.singleton_append, Varint.readFrom?, if_pos hb,
      if_neg fun hfull => UInt8.not_lt.2 hfull.2 (htenth hfull.1)]
  | more hb hindex _ ih => rw [List.cons_append, Varint.readFrom?, if_neg hb, if_neg hindex, ih]

theorem exists_spells_of_readFrom? {index n : Nat} {bs rest : Bytes} (h : readFrom? index bs = some (n, rest)) :
    ∃ front, bs = front ++ rest ∧ Spells index n front := by
  induction bs generalizing index n with
  | nil => cases h
  | cons b bs ih =>
    unfold readFrom? at h
    split at h
    · next hb =>
      split at h
      · cases h
      · next hfits =>
        cases h
        exact ⟨[b], rfl, .last hb fun hindex => UInt8.not_le.1 fun hle => hfits ⟨hindex, hle⟩⟩
    · next hb =>
      split at h
      · cases h
      · next hindex =>
        split at h
        · cases h
        · next hrest =>
          simp only [Option.some.injEq, Prod.mk.injEq] at h
          obtain ⟨rfl, rfl⟩ := h
          obtain ⟨front, rfl, hspells⟩ := ih hrest
          exact ⟨b :: front, rfl, .more hb hindex hspells⟩

theorem Spells.read? {n : Nat} {bs : Bytes} (h : Spells 0 n bs) (rest : Bytes) : read? (bs ++ rest) = some (n, rest) :=
  h.readFrom? rest

end Varint

/-- The spellings of a field number with a form. -/
structure KeySpells (number : Nat) (form : Form) (bs : Bytes) : Prop where
  fits : IsFieldNumber number
  spells : Varint.Spells 0 (8 * number + form.code) bs

theorem Form.code_of_ofCode? {code : Nat} {form : Form} (h : Form.ofCode? code = some form) : form.code = code := by
  unfold Form.ofCode? at h
  split at h <;> cases h <;> rfl

theorem KeySpells.readKey? {number : Nat} {form : Form} {bs : Bytes} (h : KeySpells number form bs) (rest : Bytes) :
    readKey? (bs ++ rest) = some ((number, form), rest) := by
  have hcode := form.code_le
  obtain ⟨hpos, hlt⟩ := h.fits
  have hmod : (8 * number + form.code) % 8 = form.code := by omega
  have hdiv : (8 * number + form.code) / 8 = number := by omega
  have hsize : UInt32.size = 2 ^ 32 := rfl
  have hfits : 8 * number + form.code < UInt32.size ∧ 8 ≤ 8 * number + form.code := by omega
  rw [Wire.readKey?, h.spells.read?]
  simp only [hmod, hdiv, Form.ofCode?_code, if_pos hfits]

theorem exists_keySpells_of_readKey? {number : Nat} {form : Form} {bs rest : Bytes}
    (h : readKey? bs = some ((number, form), rest)) : ∃ front, bs = front ++ rest ∧ KeySpells number form front := by
  unfold readKey? at h
  split at h
  · cases h
  · next key _ hread =>
    split at h
    · cases h
    · next hform =>
      split at h
      · next hfits =>
        cases h
        obtain ⟨front, rfl, hspells⟩ := Varint.exists_spells_of_readFrom? hread
        have hcode := Form.code_of_ofCode? hform
        have hsize : UInt32.size = 2 ^ 32 := rfl
        refine ⟨front, rfl, ⟨by omega, by omega⟩, ?_⟩
        rwa [hcode, Nat.div_add_mod]
      · cases h

/-! ### Payloads -/

/-- The spellings of what stands behind the key of a payload that is no group. -/
inductive Payload.Spells : Payload → Bytes → Prop
  | varint {n : Nat} {bs : Bytes} (h : Varint.Spells 0 n bs) : Spells (.varint (UInt64.ofNat n)) bs
  | fixed64 {low high : UInt32} {front back : Bytes} (hlow : Spells (.fixed32 low) front)
    (hhigh : Spells (.fixed32 high) back) : Spells (.fixed64 (low.toUInt64 ||| high.toUInt64 <<< 32)) (front ++ back)
  | bytes {b length : Bytes} (h : Varint.Spells 0 b.length length) : Spells (.bytes b) (length ++ b)
  | fixed32 (a b c d : UInt8) : Spells (.fixed32 (Bytes.word32 a b c d)) [a, b, c, d]

theorem Payload.Spells.readWord32? {w : UInt32} {bs : Bytes} (h : (Payload.fixed32 w).Spells bs) (rest : Bytes) :
    readWord32? (bs ++ rest) = some (w, rest) := by
  cases h with
  | fixed32 a b c d => rfl

theorem Payload.Spells.readPlain? {p : Payload} {bs : Bytes} (h : p.Spells bs) (rest : Bytes) :
    readPlain? p.form (bs ++ rest) = some (p, rest) := by
  cases h with
  | varint h => simp only [Payload.form, Wire.readPlain?, h.read?, Option.map_some]
  | fixed64 hlow hhigh =>
    simp only [Payload.form, Wire.readPlain?, readWord64?, List.append_assoc, hlow.readWord32?, hhigh.readWord32?,
      Option.bind_eq_bind, Option.bind_some, Option.pure_def, Option.map_some]
  | bytes h =>
    simp only [Payload.form, Wire.readPlain?, readBytes?, List.append_assoc, h.read?, Option.bind_eq_bind,
      Option.bind_some, take?_append, Option.map_some]
  | fixed32 a b c d => rfl

theorem Payload.Spells.form_ne {p : Payload} {bs : Bytes} (h : p.Spells bs) :
    p.form ≠ .groupStart ∧ p.form ≠ .groupEnd := by
  cases h <;> exact ⟨Form.noConfusion, Form.noConfusion⟩

theorem exists_spells_of_readWord32? {bs rest : Bytes} {w : UInt32} (h : readWord32? bs = some (w, rest)) :
    ∃ front, bs = front ++ rest ∧ (Payload.fixed32 w).Spells front := by
  unfold readWord32? at h
  split at h
  · next a b c d _ =>
    cases h
    exact ⟨[a, b, c, d], rfl, .fixed32 a b c d⟩
  · cases h

theorem exists_spells_of_readPlain? {form : Form} {p : Payload} {bs rest : Bytes}
    (h : readPlain? form bs = some (p, rest)) : p.form = form ∧ ∃ front, bs = front ++ rest ∧ p.Spells front := by
  cases form with
  | varint =>
    obtain ⟨⟨n, rest'⟩, hread, he⟩ := Option.map_eq_some_iff.1 h
    cases he
    obtain ⟨front, rfl, hspells⟩ := Varint.exists_spells_of_readFrom? hread
    exact ⟨rfl, front, rfl, .varint hspells⟩
  | fixed64 =>
    obtain ⟨⟨w, rest'⟩, hread, he⟩ := Option.map_eq_some_iff.1 h
    cases he
    obtain ⟨⟨low, after⟩, hlow, hread⟩ := Option.bind_eq_some_iff.1 hread
    obtain ⟨⟨high, after'⟩, hhigh, he⟩ := Option.bind_eq_some_iff.1 hread
    cases he
    obtain ⟨front, rfl, hfront⟩ := exists_spells_of_readWord32? hlow
    obtain ⟨back, rfl, hback⟩ := exists_spells_of_readWord32? hhigh
    exact ⟨rfl, front ++ back, (List.append_assoc _ _ _).symm, .fixed64 hfront hback⟩
  | bytes =>
    obtain ⟨⟨b, rest'⟩, hread, he⟩ := Option.map_eq_some_iff.1 h
    cases he
    obtain ⟨⟨n, after⟩, hlength, htake⟩ := Option.bind_eq_some_iff.1 hread
    obtain ⟨front, rfl, hspells⟩ := Varint.exists_spells_of_readFrom? hlength
    dsimp only [take?] at htake
    split at htake
    · next hle =>
      cases htake
      refine ⟨rfl, front ++ after.take n, by rw [List.append_assoc, List.take_append_drop], .bytes ?_⟩
      rwa [List.length_take, Nat.min_eq_left hle]
    · cases htake
  | fixed32 =>
    obtain ⟨⟨w, rest'⟩, hread, he⟩ := Option.map_eq_some_iff.1 h
    cases he
    exact ⟨rfl, exists_spells_of_readWord32? hread⟩
  | groupStart => cases h
  | groupEnd => cases h

/-! ### Groups -/

/-- What may stand in a group: fields, and groups that hold one level less. Without a level there is nothing. -/
inductive GroupFill : Nat → Bytes → Prop
  | nil {levels : Nat} : GroupFill levels []
  | field {levels number : Nat} {p : Payload} {key content bs : Bytes} (hkey : KeySpells number p.form key)
    (hcontent : p.Spells content) (rest : GroupFill (levels + 1) bs) : GroupFill (levels + 1) (key ++ content ++ bs)
  | group {levels number : Nat} {start inner stop bs : Bytes} (hstart : KeySpells number .groupStart start)
    (hinner : GroupFill levels inner) (hstop : KeySpells number .groupEnd stop) (rest : GroupFill (levels + 1) bs) :
    GroupFill (levels + 1) (start ++ inner ++ stop ++ bs)

theorem closeGroups?_of_groupStep? {depth inner : Nat} {outer opened : List Nat} {bs rest : Bytes}
    (h : groupStep? depth inner outer bs = some (opened, rest)) :
    closeGroups? depth (inner :: outer) bs = closeGroups? depth opened rest := by
  rw [closeGroups?]
  split
  · next h' =>
    rw [h] at h'
    cases h'
  · next h' =>
    rw [h] at h'
    cases h'
    rfl

theorem groupStep?_field {depth inner number : Nat} {outer : List Nat} {p : Payload} {key content : Bytes}
    (hkey : KeySpells number p.form key) (hcontent : p.Spells content) (hroom : outer.length + 1 < depth)
    (rest : Bytes) : groupStep? depth inner outer (key ++ content ++ rest) = some (inner :: outer, rest) := by
  obtain ⟨hstart, hstop⟩ := hcontent.form_ne
  rw [groupStep?, List.append_assoc, hkey.readKey?]
  split
  · next h => cases h
  · next h =>
    simp only [Option.some.injEq, Prod.mk.injEq] at h
    exact absurd h.1.2 hstop
  · next h =>
    simp only [Option.some.injEq, Prod.mk.injEq] at h
    obtain ⟨⟨rfl, rfl⟩, rfl⟩ := h
    rw [if_pos hroom, if_neg hstart, hcontent.readPlain?, Option.map_some]

theorem groupStep?_start {depth inner number : Nat} {outer : List Nat} {key : Bytes}
    (hkey : KeySpells number .groupStart key) (hroom : outer.length + 1 < depth) (rest : Bytes) :
    groupStep? depth inner outer (key ++ rest) = some (number :: inner :: outer, rest) := by
  rw [groupStep?, hkey.readKey?]
  show (if outer.length + 1 < depth then _ else none) = _
  rw [if_pos hroom, if_pos rfl]

theorem groupStep?_stop {depth number : Nat} {outer : List Nat} {key : Bytes} (hkey : KeySpells number .groupEnd key)
    (rest : Bytes) : groupStep? depth number outer (key ++ rest) = some (outer, rest) := by
  rw [groupStep?, hkey.readKey?]
  exact if_pos rfl

theorem GroupFill.closeGroups? {levels : Nat} {bs : Bytes} (h : GroupFill levels bs) {depth inner : Nat}
    {outer : List Nat} (hroom : outer.length + 1 + levels ≤ depth) (rest : Bytes) :
    closeGroups? depth (inner :: outer) (bs ++ rest) = closeGroups? depth (inner :: outer) rest := by
  induction h generalizing inner outer rest with
  | nil => rfl
  | field hkey hcontent _ ih =>
    rw [List.append_assoc, closeGroups?_of_groupStep? (groupStep?_field hkey hcontent (by omega) _), ih hroom]
  | @group levels _ _ _ _ _ hstart _ hstop _ ihinner ih =>
    have hdeeper : (inner :: outer).length + 1 + levels ≤ depth := by
      rw [List.length_cons]
      omega
    rw [List.append_assoc, List.append_assoc, List.append_assoc,
      closeGroups?_of_groupStep? (groupStep?_start hstart (by omega) _), ihinner hdeeper,
      closeGroups?_of_groupStep? (groupStep?_stop hstop _), ih hroom]

/-- What one step inside a group takes. -/
theorem groupStep?_cases {depth inner : Nat} {outer opened : List Nat} {bs rest : Bytes}
    (h : groupStep? depth inner outer bs = some (opened, rest)) :
    (opened = outer ∧ ∃ key, bs = key ++ rest ∧ KeySpells inner .groupEnd key) ∨
    (outer.length + 1 < depth ∧
      ((∃ number key, bs = key ++ rest ∧ opened = number :: inner :: outer ∧ KeySpells number .groupStart key) ∨
        ∃ number p key content, bs = key ++ content ++ rest ∧ opened = inner :: outer ∧
          KeySpells number p.form key ∧ Payload.Spells p content)) := by
  unfold groupStep? at h
  split at h
  · cases h
  · next hread =>
    split at h
    · next hsame =>
      cases h
      obtain ⟨key, rfl, hkey⟩ := exists_keySpells_of_readKey? hread
      exact .inl ⟨rfl, key, rfl, hsame ▸ hkey⟩
    · cases h
  · next number form _ _ hread =>
    obtain ⟨key, rfl, hkey⟩ := exists_keySpells_of_readKey? hread
    split at h
    · next hroom =>
      refine .inr ⟨hroom, ?_⟩
      split at h
      · next hstart =>
        cases h
        exact .inl ⟨number, key, rfl, rfl, hstart ▸ hkey⟩
      · obtain ⟨⟨p, rest'⟩, hplain, he⟩ := Option.map_eq_some_iff.1 h
        cases he
        obtain ⟨rfl, content, rfl, hcontent⟩ := exists_spells_of_readPlain? hplain
        exact .inr ⟨number, p, key, content, (List.append_assoc _ _ _).symm, rfl, hkey, hcontent⟩
    · cases h

/-- A group that is closed was filled, up to its own end mark. -/
theorem exists_groupFill_of_closeGroups? {depth inner : Nat} {outer : List Nat} {bs rest : Bytes}
    (h : closeGroups? depth (inner :: outer) bs = some rest) :
    ∃ fill stop after, bs = fill ++ stop ++ after ∧ GroupFill (depth - (outer.length + 1)) fill ∧
      KeySpells inner .groupEnd stop ∧ closeGroups? depth outer after = some rest := by
  -- A group inside is closed before the one that holds it goes on, so the bytes get fewer, not the groups.
  induction hlength : bs.length using Nat.strongRecOn generalizing inner outer bs with
  | _ n ih =>
    subst hlength
    cases hstep : groupStep? depth inner outer bs with
    | none =>
      rw [closeGroups?] at h
      split at h
      · cases h
      · next h' =>
        rw [hstep] at h'
        cases h'
    | some step =>
      obtain ⟨opened, tail⟩ := step
      have hshorter := length_lt_of_groupStep? hstep
      rw [closeGroups?_of_groupStep? hstep] at h
      rcases groupStep?_cases hstep with ⟨rfl, key, rfl, hkey⟩ |
        ⟨hroom, ⟨number, key, rfl, rfl, hkey⟩ | ⟨number, p, key, content, rfl, rfl, hkey, hcontent⟩⟩
      · exact ⟨[], key, tail, rfl, .nil, hkey, h⟩
      · obtain ⟨levels, hlevels⟩ := Nat.exists_eq_add_of_lt hroom
        obtain ⟨fill, stop, after, rfl, hfill, hstop, hafter⟩ := ih _ hshorter h rfl
        have hless : after.length < (key ++ (fill ++ stop ++ after)).length := by
          simp only [List.length_append] at hshorter ⊢
          omega
        obtain ⟨fill', stop', after', rfl, hfill', hstop', hafter'⟩ := ih _ hless hafter rfl
        refine ⟨key ++ fill ++ stop ++ fill', stop', after', by simp only [List.append_assoc], ?_, hstop', hafter'⟩
        rw [List.length_cons] at hfill
        rw [show depth - (outer.length + 1) = levels + 1 by omega] at hfill' ⊢
        rw [show depth - (outer.length + 1 + 1) = levels by omega] at hfill
        exact .group hkey hfill hstop hfill'
      · obtain ⟨levels, hlevels⟩ := Nat.exists_eq_add_of_lt hroom
        obtain ⟨fill, stop, after, rfl, hfill, hstop, hafter⟩ := ih _ hshorter h rfl
        refine ⟨key ++ content ++ fill, stop, after, by simp only [List.append_assoc], ?_, hstop, hafter⟩
        rw [show depth - (outer.length + 1) = levels + 1 by omega] at hfill ⊢
        exact .field hkey hcontent hfill

/-! ### Records -/

/-- The spellings of a record that may hold as many levels of groups as the depth says. -/
inductive Record.Spells : Nat → Record → Bytes → Prop
  | plain {depth number : Nat} {p : Payload} {key content : Bytes} (hkey : KeySpells number p.form key)
    (hcontent : p.Spells content) : Spells depth ⟨number, p⟩ (key ++ content)
  | group {depth number : Nat} {start fill stop : Bytes} (hstart : KeySpells number .groupStart start)
    (hfill : GroupFill depth fill) (hstop : KeySpells number .groupEnd stop) :
    Spells (depth + 1) ⟨number, .group⟩ (start ++ fill ++ stop)

theorem Record.Spells.readRecord? {depth : Nat} {r : Record} {bs : Bytes} (h : r.Spells depth bs) (rest : Bytes) :
    readRecord? depth (bs ++ rest) = some (r, rest) := by
  cases h with
  | plain hkey hcontent =>
    rw [Wire.readRecord?, List.append_assoc, hkey.readKey?]
    split
    · next h => cases h
    · next h =>
      simp only [Option.some.injEq, Prod.mk.injEq] at h
      exact absurd h.1.2 hcontent.form_ne.1
    · next h =>
      simp only [Option.some.injEq, Prod.mk.injEq] at h
      obtain ⟨⟨rfl, rfl⟩, rfl⟩ := h
      rw [hcontent.readPlain?, Option.map_some]
  | @group depth number start fill stop hstart hfill hstop =>
    have hroom : ([] : List Nat).length + 1 + depth ≤ depth + 1 := by
      rw [List.length_nil]
      omega
    rw [Wire.readRecord?, List.append_assoc, List.append_assoc, hstart.readKey?]
    show (if 0 < depth + 1 then _ else none) = _
    rw [if_pos (Nat.succ_pos depth), hfill.closeGroups? hroom,
      closeGroups?_of_groupStep? (groupStep?_stop hstop rest), Wire.closeGroups?, Option.map_some]

theorem exists_spells_of_readRecord? {depth : Nat} {r : Record} {bs rest : Bytes}
    (h : readRecord? depth bs = some (r, rest)) : ∃ front, bs = front ++ rest ∧ r.Spells depth front := by
  unfold readRecord? at h
  split at h
  · cases h
  · next hread =>
    obtain ⟨start, rfl, hstart⟩ := exists_keySpells_of_readKey? hread
    split at h
    · next hdepth =>
      obtain ⟨depth, rfl⟩ := Nat.exists_eq_add_of_lt hdepth
      obtain ⟨after, hclose, he⟩ := Option.map_eq_some_iff.1 h
      cases he
      obtain ⟨fill, stop, after', rfl, hfill, hstop, hafter⟩ := exists_groupFill_of_closeGroups? hclose
      rw [closeGroups?] at hafter
      cases hafter
      rw [Nat.zero_add] at hfill ⊢
      exact ⟨start ++ fill ++ stop, by simp only [List.append_assoc], .group hstart hfill hstop⟩
    · cases h
  · next hread =>
    obtain ⟨key, rfl, hkey⟩ := exists_keySpells_of_readKey? hread
    obtain ⟨⟨p, rest'⟩, hplain, he⟩ := Option.map_eq_some_iff.1 h
    cases he
    obtain ⟨rfl, content, rfl, hcontent⟩ := exists_spells_of_readPlain? hplain
    exact ⟨key ++ content, (List.append_assoc _ _ _).symm, .plain hkey hcontent⟩

/-- The spellings of records one after the other. -/
inductive Spells (depth : Nat) : List Record → Bytes → Prop
  | nil : Spells depth [] []
  | cons {r : Record} {rs : List Record} {front bs : Bytes} (head : r.Spells depth front) (tail : Spells depth rs bs) :
    Spells depth (r :: rs) (front ++ bs)

/-- A byte string is read as the records that it spells. -/
theorem records?_eq_some_iff {depth : Nat} {bs : Bytes} {rs : List Record} :
    records? depth bs = some rs ↔ Spells depth rs bs := by
  constructor
  · intro h
    fun_induction records? depth bs generalizing rs with
    | case1 =>
      cases h
      exact .nil
    | case2 => cases h
    | case3 b bs r rest hread ih =>
      obtain ⟨rs', hrest, rfl⟩ := Option.map_eq_some_iff.1 h
      obtain ⟨front, hbs, hr⟩ := exists_spells_of_readRecord? hread
      rw [hbs]
      exact .cons hr (ih hrest)
  · intro h
    induction h with
    | nil => rw [records?]
    | cons head _ ih => rw [records?_of_readRecord? (head.readRecord? _), ih, Option.map_some]

/-! ### Packed payloads -/

/-- The spellings of payloads of one form one after the other. -/
inductive PackedSpells (form : Form) : List Payload → Bytes → Prop
  | nil : PackedSpells form [] []
  | cons {p : Payload} {ps : List Payload} {front bs : Bytes} (hform : p.form = form) (head : p.Spells front)
    (tail : PackedSpells form ps bs) : PackedSpells form (p :: ps) (front ++ bs)

theorem readPacked?_eq_some_iff {form : Form} {bs : Bytes} {ps : List Payload} :
    readPacked? form bs = some ps ↔ PackedSpells form ps bs := by
  constructor
  · intro h
    fun_induction readPacked? form bs generalizing ps with
    | case1 =>
      cases h
      exact .nil
    | case2 => cases h
    | case3 b bs p rest hread ih =>
      obtain ⟨ps', hrest, rfl⟩ := Option.map_eq_some_iff.1 h
      obtain ⟨hform, front, hbs, hp⟩ := exists_spells_of_readPlain? hread
      rw [hbs]
      exact .cons hform hp (ih hrest)
  · intro h
    induction h with
    | nil => rw [readPacked?]
    | cons hform head _ ih =>
      subst hform
      rw [readPacked?_of_readPlain? (head.readPlain? _), ih, Option.map_some]

end RadioMesh.Wire
