import RadioMesh.Wire.Varint

/-!
Field records: a field number with a payload of one of five forms. A byte string is a sequence of them or
nothing. What a group holds is read for its form only, so a group's content is not kept.
-/

namespace RadioMesh.Wire

inductive Payload
  | varint (value : UInt64)
  | fixed64 (value : UInt64)
  | bytes (value : Bytes)
  | group
  | fixed32 (value : UInt32)
deriving DecidableEq, Repr

structure Record where
  number : Nat
  payload : Payload
deriving DecidableEq, Repr

/-! ### Keys -/

inductive Form
  | varint
  | fixed64
  | bytes
  | groupStart
  | groupEnd
  | fixed32
deriving DecidableEq, Repr

def Form.code : Form → Nat
  | .varint => 0
  | .fixed64 => 1
  | .bytes => 2
  | .groupStart => 3
  | .groupEnd => 4
  | .fixed32 => 5

def Form.ofCode? : Nat → Option Form
  | 0 => some .varint
  | 1 => some .fixed64
  | 2 => some .bytes
  | 3 => some .groupStart
  | 4 => some .groupEnd
  | 5 => some .fixed32
  | _ => none

def writeKey (number : Nat) (form : Form) : Bytes :=
  Varint.write (8 * number + form.code)

/-- The field number and form in front. A key fits 32 bits and its field number is not 0. -/
def readKey? (bs : Bytes) : Option ((Nat × Form) × Bytes) :=
  match Varint.read? bs with
  | none => none
  | some (key, rest) =>
    match Form.ofCode? (key % 8) with
    | none => none
    | some form => if key < UInt32.size ∧ 8 ≤ key then some ((key / 8, form), rest) else none

theorem length_lt_of_readKey? {bs rest : Bytes} {key : Nat × Form} (h : readKey? bs = some (key, rest)) :
    rest.length < bs.length := by
  unfold readKey? at h
  split at h
  · cases h
  · next hr =>
    split at h
    · cases h
    · split at h
      · cases h
        exact Varint.length_lt_of_read? hr
      · cases h

/-! ### Payloads -/

/-- The first `n` bytes and what follows, if there are as many. -/
def take? (n : Nat) (bs : Bytes) : Option (Bytes × Bytes) :=
  if n ≤ bs.length then some (bs.take n, bs.drop n) else none

def readWord32? : Bytes → Option (UInt32 × Bytes)
  | a :: b :: c :: d :: rest => some (Bytes.word32 a b c d, rest)
  | _ => none

def readWord64? (bs : Bytes) : Option (UInt64 × Bytes) := do
  let (low, rest) ← readWord32? bs
  let (high, rest) ← readWord32? rest
  return (low.toUInt64 ||| high.toUInt64 <<< 32, rest)

def readBytes? (bs : Bytes) : Option (Bytes × Bytes) := do
  let (n, rest) ← Varint.read? bs
  take? n rest

/-- A payload that is no group. -/
def readPlain? : Form → Bytes → Option (Payload × Bytes)
  | .varint, bs => (Varint.read? bs).map fun (n, rest) => (.varint (UInt64.ofNat n), rest)
  | .fixed64, bs => (readWord64? bs).map fun (w, rest) => (.fixed64 w, rest)
  | .bytes, bs => (readBytes? bs).map fun (b, rest) => (.bytes b, rest)
  | .fixed32, bs => (readWord32? bs).map fun (w, rest) => (.fixed32 w, rest)
  | .groupStart, _ => none
  | .groupEnd, _ => none

theorem length_lt_of_readWord32? {bs rest : Bytes} {w : UInt32} (h : readWord32? bs = some (w, rest)) :
    rest.length < bs.length := by
  unfold readWord32? at h
  split at h
  · cases h
    simp
    omega
  · cases h

theorem length_lt_of_readPlain? {form : Form} {bs rest : Bytes} {p : Payload}
    (h : readPlain? form bs = some (p, rest)) : rest.length < bs.length := by
  cases form with
  | varint =>
    simp only [readPlain?, Option.map_eq_some_iff, Prod.exists, Prod.mk.injEq] at h
    obtain ⟨_, _, hr, _, rfl⟩ := h
    exact Varint.length_lt_of_read? hr
  | fixed64 =>
    simp only [readPlain?, readWord64?, Option.bind_eq_bind, Option.pure_def, Option.map_eq_some_iff,
      Option.bind_eq_some_iff, Prod.exists, Prod.mk.injEq] at h
    obtain ⟨_, _, ⟨_, _, h₁, _, _, h₂, he⟩, _, rfl⟩ := h
    cases he
    exact Nat.lt_trans (length_lt_of_readWord32? h₂) (length_lt_of_readWord32? h₁)
  | bytes =>
    simp only [readPlain?, readBytes?, take?, Option.bind_eq_bind, Option.map_eq_some_iff,
      Option.bind_eq_some_iff, Prod.exists, Prod.mk.injEq] at h
    obtain ⟨_, _, ⟨_, _, h₁, h₂⟩, _, rfl⟩ := h
    have := Varint.length_lt_of_read? h₁
    split at h₂
    · cases h₂
      simp
      omega
    · cases h₂
  | fixed32 =>
    simp only [readPlain?, Option.map_eq_some_iff, Prod.exists, Prod.mk.injEq] at h
    obtain ⟨_, _, hr, _, rfl⟩ := h
    exact length_lt_of_readWord32? hr
  | groupStart => cases h
  | groupEnd => cases h

/-! ### Groups -/

/-- One field or end mark inside the groups that are open, innermost first: the groups open behind it and
what follows. A field may stand inside fewer than `depth` groups. -/
def groupStep? (depth inner : Nat) (outer : List Nat) (bs : Bytes) : Option (List Nat × Bytes) :=
  match readKey? bs with
  | none => none
  | some ((number, .groupEnd), rest) => if number = inner then some (outer, rest) else none
  | some ((number, form), rest) =>
    if outer.length + 1 < depth then
      if form = .groupStart then some (number :: inner :: outer, rest)
      else (readPlain? form rest).map fun (_, rest') => (inner :: outer, rest')
    else none

theorem length_lt_of_groupStep? {depth inner : Nat} {outer opened : List Nat} {bs rest : Bytes}
    (h : groupStep? depth inner outer bs = some (opened, rest)) : rest.length < bs.length := by
  unfold groupStep? at h
  split at h
  · cases h
  · next hk =>
    split at h
    · cases h
      exact length_lt_of_readKey? hk
    · cases h
  · next hk =>
    split at h
    · split at h
      · cases h
        exact length_lt_of_readKey? hk
      · obtain ⟨_, hp, he⟩ := Option.map_eq_some_iff.1 h
        cases he
        exact Nat.lt_trans (length_lt_of_readPlain? hp) (length_lt_of_readKey? hk)
    · cases h

/-- What follows the groups that are open. -/
def closeGroups? (depth : Nat) (opened : List Nat) (bs : Bytes) : Option Bytes :=
  match opened with
  | [] => some bs
  | inner :: outer =>
    match _h : groupStep? depth inner outer bs with
    | none => none
    | some (opened, rest) => closeGroups? depth opened rest
termination_by bs.length
decreasing_by exact length_lt_of_groupStep? _h

theorem length_le_of_closeGroups? {depth : Nat} {opened : List Nat} {bs rest : Bytes}
    (h : closeGroups? depth opened bs = some rest) : rest.length ≤ bs.length := by
  fun_induction closeGroups? depth opened bs with
  | case1 => cases h; exact Nat.le_refl _
  | case2 => cases h
  | case3 _ _ _ _ _ hs ih => exact Nat.le_trans (ih h) (Nat.le_of_lt (length_lt_of_groupStep? hs))

/-! ### Records -/

def readRecord? (depth : Nat) (bs : Bytes) : Option (Record × Bytes) :=
  match readKey? bs with
  | none => none
  | some ((number, .groupStart), rest) =>
    if 0 < depth then (closeGroups? depth [number] rest).map fun rest' => (⟨number, .group⟩, rest') else none
  | some ((number, form), rest) => (readPlain? form rest).map fun (p, rest') => (⟨number, p⟩, rest')

theorem length_lt_of_readRecord? {depth : Nat} {bs rest : Bytes} {r : Record}
    (h : readRecord? depth bs = some (r, rest)) : rest.length < bs.length := by
  unfold readRecord? at h
  split at h
  · cases h
  · next hk =>
    split at h
    · obtain ⟨_, hc, he⟩ := Option.map_eq_some_iff.1 h
      cases he
      exact Nat.lt_of_le_of_lt (length_le_of_closeGroups? hc) (length_lt_of_readKey? hk)
    · cases h
  · next hk =>
    obtain ⟨_, hp, he⟩ := Option.map_eq_some_iff.1 h
    cases he
    exact Nat.lt_trans (length_lt_of_readPlain? hp) (length_lt_of_readKey? hk)

/-- All records of a byte string. -/
def records? (depth : Nat) (bs : Bytes) : Option (List Record) :=
  match bs with
  | [] => some []
  | b :: bs =>
    match _h : readRecord? depth (b :: bs) with
    | none => none
    | some (r, rest) => (records? depth rest).map (r :: ·)
termination_by bs.length
decreasing_by exact length_lt_of_readRecord? _h

/-- Payloads of one form, one after the other. -/
def readPacked? (form : Form) (bs : Bytes) : Option (List Payload) :=
  match bs with
  | [] => some []
  | b :: bs =>
    match _h : readPlain? form (b :: bs) with
    | none => none
    | some (p, rest) => (readPacked? form rest).map (p :: ·)
termination_by bs.length
decreasing_by exact length_lt_of_readPlain? _h

/-! ### Writing -/

def Payload.form : Payload → Form
  | .varint _ => .varint
  | .fixed64 _ => .fixed64
  | .bytes _ => .bytes
  | .group => .groupStart
  | .fixed32 _ => .fixed32

/-- What stands behind the key; a group has only its end mark, which repeats the key. -/
def Payload.content : Payload → Bytes
  | .varint n => Varint.write n.toNat
  | .fixed64 w => Bytes.ofWord64 w
  | .bytes b => Varint.write b.length ++ b
  | .group => []
  | .fixed32 w => Bytes.ofWord32 w

def Record.write (r : Record) : Bytes :=
  writeKey r.number r.payload.form ++ r.payload.content ++
    (if r.payload = .group then writeKey r.number .groupEnd else [])

/-- The length of a key, which is the same for all forms. -/
def keySize (number : Nat) : Nat :=
  Varint.size (8 * number)

/-- The length of a byte string of a length, with the length in front. -/
def delimitedSize (length : Nat) : Nat :=
  Varint.size length + length

/-- The length of a payload's content. -/
def Payload.size : Payload → Nat
  | .varint n => Varint.size n.toNat
  | .fixed64 _ => 8
  | .bytes b => delimitedSize b.length
  | .group => 0
  | .fixed32 _ => 4

end RadioMesh.Wire
