import RadioMesh.Client.Classify
import RadioMesh.Proofs.Channel.KeyText
import RadioMesh.Proofs.Text.Base64Exact

/-!
Which texts are key texts, and of which key. Blanks around a text, its alphabet and missing padding make no difference;
what is left must be what is written for the key, symbol by symbol.
-/

namespace RadioMesh.Key

open Text Text.Base64

/-! ### What a text comes to -/

/-- A text filled up to a multiple of four characters. -/
def filled (cs : List Char) : List Char :=
  cs ++ List.replicate ((4 - cs.length % 4) % 4) '='

/-- A text without blanks around it, in the standard alphabet and filled up. -/
def standardForm (text : String) : List Char :=
  filled ((trimmed text.toList).map standardSymbol)

/-- The character of a six-bit value. -/
def letter (n : Nat) : Char :=
  Char.ofNat (symbol n).toNat

variable {text : String} {bs : Bytes} {cs lead body trail : List Char} {c : Char} {k : Nat}

theorem toList_encode (bs : Bytes) : (encode bs).toList = (symbols bs).map fun b => Char.ofNat b.toNat := by
  rw [encode, String.toList_ofList]

theorem ofNat_toNat_injective : Function.Injective fun b : UInt8 => Char.ofNat b.toNat := by
  intro a b h
  have hvalid (b : UInt8) : b.toNat.isValidChar := .inl (b.toNat_lt.trans (by decide))
  have hnat := congrArg Char.toNat h
  dsimp only at hnat
  rw [Char.toNat_ofNat, Char.toNat_ofNat, if_pos (hvalid a), if_pos (hvalid b)] at hnat
  exact UInt8.toNat_inj.1 hnat

theorem utf8Size_of_mem_encode : ∀ c ∈ (encode bs).toList, c.utf8Size = 1 :=
  forall_mem_encode (by decide) (by decide) bs

theorem isBlank_of_mem_encode : ∀ c ∈ (encode bs).toList, isBlank c = false :=
  forall_mem_encode (by decide) (by decide) bs

theorem standardSymbol_of_mem_encode : ∀ c ∈ (encode bs).toList, standardSymbol c = c :=
  forall_mem_encode (P := fun c => standardSymbol c = c) (by decide) (by decide) bs

/-- The other alphabet has no symbols but ASCII characters either. -/
theorem utf8Size_of_standardSymbol (h : (standardSymbol c).utf8Size = 1) : c.utf8Size = 1 := by
  unfold standardSymbol at h
  split at h
  · next hc => rw [hc]; rfl
  · split at h
    · next hc => rw [hc]; rfl
    · exact h

theorem isBlank_standardSymbol (c : Char) : isBlank (standardSymbol c) = isBlank c := by
  unfold standardSymbol
  split
  · next hc => rw [hc]; rfl
  · split
    · next hc => rw [hc]; rfl
    · rfl

/-- Bytes are counted where characters are meant, which comes to the same for a text of ASCII characters. -/
theorem missingPadding_eq (h : ∀ c ∈ cs, c.utf8Size = 1) :
    missingPadding cs = List.replicate ((4 - cs.length % 4) % 4) '=' := by
  have hsize : String.utf8Len cs = cs.length := by
    induction cs with
    | nil => rfl
    | cons c cs ih =>
      rw [String.utf8Len_cons, ih fun c' hc' => h c' (List.mem_cons_of_mem c hc'), h c List.mem_cons_self]
      rfl
  rw [missingPadding, String.utf8ByteSize_ofList, hsize]

theorem normalized_eq_encode_iff : normalized text = encode bs ↔ standardForm text = (encode bs).toList := by
  rw [← String.toList_inj, normalized, String.toList_ofList, standardForm, filled, List.length_map]
  generalize trimmed text.toList = cs
  by_cases hascii : ∀ c ∈ cs, c.utf8Size = 1
  · rw [missingPadding_eq hascii]
  · -- Neither form is a written one, as one of the characters is none that is written.
    have hfalse (rest : List Char) : cs.map standardSymbol ++ rest ≠ (encode bs).toList := fun h =>
      hascii fun c hc => utf8Size_of_standardSymbol (@utf8Size_of_mem_encode bs _
        (h ▸ List.mem_append_left _ (List.mem_map_of_mem hc)))
    exact iff_of_false (hfalse _) (hfalse _)

theorem parse_eq_ok_iff : parse text = .ok bs ↔ standardForm text = (encode bs).toList := by
  rw [← normalized_eq_encode_iff, ← decode_eq_ok_iff]
  constructor
  · exact eq_ok_of_mapError
  · intro h
    rw [parse, h]
    rfl

theorem refused_of_forall_ne (h : ∀ bs, standardForm text ≠ (encode bs).toList) :
    ∃ fault, parse text = .error (.key fault) := by
  cases hdecode : decode (normalized text) with
  | ok bs => exact absurd (normalized_eq_encode_iff.1 (decode_eq_ok_iff.1 hdecode)) (h bs)
  | error fault => exact ⟨fault, by rw [parse, hdecode]; rfl⟩

/-! ### Ways to write a key -/

/-- A symbol of the standard alphabet in the URL-safe one. -/
def urlSymbol (c : Char) : Char :=
  if c = '+' then '-' else if c = '/' then '_' else c

def unpadded (cs : List Char) : List Char :=
  cs.filter (· ≠ '=')

/-- The forms of a key in either alphabet, with their padding and without. -/
def forms (bs : Bytes) : List (List Char) :=
  let cs := (encode bs).toList
  [cs, unpadded cs, cs.map urlSymbol, (unpadded cs).map urlSymbol]

/-- A text is read whatever blanks are around it, whichever alphabet its symbols are from and however much of its
padding is missing. -/
theorem parse_of_body (hblank : ∀ c ∈ lead ++ trail, isBlank c = true) (hk : k < 4)
    (hbody : body.map standardSymbol ++ List.replicate k '=' = (encode bs).toList) :
    parse (String.ofList (lead ++ (body ++ trail))) = .ok bs := by
  have hchar : ∀ c ∈ body, isBlank c = false := by
    intro c hc
    rw [← isBlank_standardSymbol]
    exact @isBlank_of_mem_encode bs _ (hbody ▸ List.mem_append_left _ (List.mem_map_of_mem hc))
  have hlength : (4 - body.length % 4) % 4 = k := by
    have hsize := congrArg List.length hbody
    have hmod := length_symbols_mod bs
    rw [toList_encode, List.length_append, List.length_map, List.length_map, List.length_replicate] at hsize
    omega
  rw [parse_eq_ok_iff, standardForm, String.toList_ofList,
    trimmed_append (fun c hc => hblank c (List.mem_append_left _ hc)) hchar
      fun c hc => hblank c (List.mem_append_right _ hc), filled, List.length_map, hlength, hbody]

theorem map_standardSymbol_encode (bs : Bytes) : (encode bs).toList.map standardSymbol = (encode bs).toList :=
  (List.map_congr_left standardSymbol_of_mem_encode).trans (List.map_id' _)

theorem standardSymbol_urlSymbol_of_mem_encode : ∀ c ∈ (encode bs).toList, standardSymbol (urlSymbol c) = c :=
  forall_mem_encode (P := fun c => standardSymbol (urlSymbol c) = c) (by decide) (by decide) bs

theorem map_standardSymbol_map_urlSymbol (h : ∀ c ∈ cs, c ∈ (encode bs).toList) :
    (cs.map urlSymbol).map standardSymbol = cs := by
  rw [List.map_map]
  exact (List.map_congr_left fun c hc => standardSymbol_urlSymbol_of_mem_encode c (h c hc)).trans (List.map_id' _)

/-- A written key is its symbols and at most two signs of padding. -/
theorem encode_eq_unpadded_append (bs : Bytes) :
    ∃ k < 4, unpadded (encode bs).toList ++ List.replicate k '=' = (encode bs).toList := by
  obtain ⟨body, k, hbody, hpad, hk⟩ := exists_symbols_eq_append bs
  have hkept : ∀ c ∈ body.map fun b => Char.ofNat b.toNat, decide (c ≠ '=') = true := by
    intro c hc
    obtain ⟨b, hb, rfl⟩ := List.mem_map.1 hc
    exact decide_eq_true fun h => hpad (@ofNat_toNat_injective _ pad h ▸ hb)
  have hdropped : ∀ c ∈ List.replicate k '=', ¬decide (c ≠ '=') = true := fun c hc => by
    rw [List.eq_of_mem_replicate hc]
    decide
  refine ⟨k, by omega, ?_⟩
  rw [toList_encode, hbody, List.map_append, List.map_replicate, unpadded, List.filter_append,
    List.filter_eq_self.2 hkept]
  show _ ++ (List.replicate k '=').filter _ ++ _ = _
  rw [List.filter_eq_nil_iff.2 hdropped, List.append_nil]
  rfl

theorem parse_of_mem_forms (hblank : ∀ c ∈ lead ++ trail, isBlank c = true) (hbody : body ∈ forms bs) :
    parse (String.ofList (lead ++ (body ++ trail))) = .ok bs := by
  have hwritten : (encode bs).toList.map standardSymbol ++ List.replicate 0 '=' = (encode bs).toList := by
    rw [map_standardSymbol_encode, List.replicate_zero, List.append_nil]
  obtain ⟨k, hk, hunpadded⟩ := encode_eq_unpadded_append bs
  have hsub : ∀ c ∈ unpadded (encode bs).toList, c ∈ (encode bs).toList := fun c hc => (List.mem_filter.1 hc).1
  simp only [forms, List.mem_cons, List.not_mem_nil, or_false] at hbody
  rcases hbody with rfl | rfl | rfl | rfl
  · exact parse_of_body hblank (by decide) hwritten
  · refine parse_of_body hblank hk ?_
    rw [(List.map_congr_left fun c hc => standardSymbol_of_mem_encode c (hsub c hc)).trans (List.map_id' _), hunpadded]
  · refine parse_of_body (k := 0) hblank (by decide) ?_
    rw [map_standardSymbol_map_urlSymbol fun _ => id, List.replicate_zero, List.append_nil]
  · refine parse_of_body hblank hk ?_
    rw [map_standardSymbol_map_urlSymbol hsub, hunpadded]

/-! ### Texts that are no keys -/

/-- What is wrong with a text in the standard alphabet that is no key. -/
inductive Malformed : List Char → Prop
  | blank {cs : List Char} {c : Char} (hc : c ∈ cs) (hblank : isBlank c = true) : Malformed cs
  /-- Padding in front of the third symbol of a group. -/
  | earlyPadding {front back : List Char} (hearly : front.length % 4 < 2) : Malformed (front ++ '=' :: back)
  | symbolBehindPadding {front back : List Char} {c : Char} (hc : c ∈ back) (hsymbol : c ≠ '=') :
    Malformed (front ++ '=' :: back)
  /-- Bits of the last symbol that no byte takes. -/
  | fourBits {front : List Char} {c : Char} {n : Nat} (hn : n < 64) (hbits : n % 16 ≠ 0) :
    Malformed (front ++ [c, letter n, '=', '='])
  | twoBits {front : List Char} {c c' : Char} {n : Nat} (hn : n < 64) (hbits : n % 4 ≠ 0) :
    Malformed (front ++ [c, c', letter n, '='])

/-- The bytes of a written key, parted as its characters are. -/
theorem exists_symbols_of_encode {front back : List Char} (h : (encode bs).toList = front ++ back) :
    ∃ front' back' : Bytes, symbols bs = front' ++ back' ∧ front.length = front'.length ∧
      back = back'.map fun b => Char.ofNat b.toNat := by
  rw [toList_encode] at h
  obtain ⟨front', back', hbs, rfl, hback⟩ := List.map_eq_append_iff.1 h
  exact ⟨front', back', hbs, List.length_map _, hback.symm⟩

theorem exists_last_group_of_encode {front : List Char} {c₁ c₂ c₃ c₄ : Char}
    (h : (encode bs).toList = front ++ [c₁, c₂, c₃, c₄]) :
    ∃ front' a₁ a₂ a₃ a₄, symbols bs = front' ++ [a₁, a₂, a₃, a₄] ∧ c₂ = Char.ofNat a₂.toNat ∧
      c₃ = Char.ofNat a₃.toNat ∧ c₄ = Char.ofNat a₄.toNat := by
  obtain ⟨front', back, hbs, -, hback⟩ := exists_symbols_of_encode h
  rcases back with _ | ⟨a₁, _ | ⟨a₂, _ | ⟨a₃, _ | ⟨a₄, _ | ⟨a₅, back⟩⟩⟩⟩⟩ <;>
    simp only [List.map_cons, List.map_nil, List.cons.injEq, reduceCtorEq, and_false, and_true] at hback
  exact ⟨front', a₁, a₂, a₃, a₄, hbs, hback.2⟩

theorem eq_pad_of_ofNat {b : UInt8} (h : '=' = Char.ofNat b.toNat) : b = pad :=
  (@ofNat_toNat_injective pad _ h).symm

theorem eq_symbol_of_letter {b : UInt8} {n : Nat} (h : letter n = Char.ofNat b.toNat) : b = symbol n :=
  (@ofNat_toNat_injective (symbol n) _ h).symm

theorem padding_encode {front back : List Char} (h : (encode bs).toList = front ++ '=' :: back) :
    2 ≤ front.length % 4 ∧ ∀ c ∈ back, c = '=' := by
  obtain ⟨front', back', hbs, hlength, hback⟩ := exists_symbols_of_encode h
  obtain ⟨b, rest, rfl, hb, rfl⟩ := List.map_eq_cons_iff.1 hback.symm
  cases eq_pad_of_ofNat hb.symm
  obtain ⟨hfront, hpads⟩ := pad_at_end hbs
  refine ⟨hlength ▸ hfront, fun c hc => ?_⟩
  obtain ⟨b, hb, rfl⟩ := List.mem_map.1 hc
  rw [hpads b hb]
  rfl

theorem not_malformed_encode (bs : Bytes) : ¬Malformed (encode bs).toList := by
  generalize hcs : (encode bs).toList = cs
  intro h
  cases h with
  | blank hc hblank =>
    rw [isBlank_of_mem_encode _ (hcs ▸ hc)] at hblank
    cases hblank
  | earlyPadding hearly => exact absurd (padding_encode hcs).1 (Nat.not_le_of_lt hearly)
  | symbolBehindPadding hc hsymbol => exact hsymbol ((padding_encode hcs).2 _ hc)
  | fourBits hn hbits =>
    obtain ⟨front', a₁, a₂, a₃, a₄, hbs, h₂, h₃, h₄⟩ := exists_last_group_of_encode hcs
    rw [eq_symbol_of_letter h₂, eq_pad_of_ofNat h₃, eq_pad_of_ofNat h₄] at hbs
    exact hbits (mod_eq_zero_of_two_pads hn hbs)
  | twoBits hn hbits =>
    obtain ⟨front', a₁, a₂, a₃, a₄, hbs, -, h₃, h₄⟩ := exists_last_group_of_encode hcs
    rw [eq_symbol_of_letter h₃, eq_pad_of_ofNat h₄] at hbs
    exact hbits (mod_eq_zero_of_one_pad hn hbs)

/-! ### Published keys -/

/-- The public key of a node is told as a text of it. -/
theorem ofData_nodeInfo {d : Data} {u : User} (e : Envelope) (epoch : UInt32) (hport : d.port = .nodeinfo)
    (hread : User.schema.decode? d.payload = some u) :
    ∃ info, Meaning.ofData e epoch d = .event (.nodeInfo e info) ∧
      info.publicKey = if u.publicKey = [] then none else some (encode u.publicKey) := by
  have hmeaning : Meaning.ofData e epoch d = Meaning.ofUser e u := by
    unfold Meaning.ofData
    rw [hport]
    show Meaning.ofPayload User.schema d (Meaning.ofUser e) = _
    rw [Meaning.ofPayload, hread]
  exact ⟨_, hmeaning, rfl⟩

/-- A text is read as a key exactly if, without the blanks around it, in the standard alphabet and filled up to a
multiple of four characters, it is the text that is written for the key. So each key is read from its forms in either
alphabet, with padding or without and with any blanks around; the key that a node publishes is read from the text that
is told; and a text with a blank, padding or bits where none may be is refused. -/
theorem parse_exact (text : String) (bs : Bytes) :
    (parse text = .ok bs ↔ standardForm text = (encode bs).toList) ∧
    (∀ lead trail, (∀ c ∈ lead ++ trail, isBlank c = true) → ∀ body ∈ forms bs,
      parse (String.ofList (lead ++ (body ++ trail))) = .ok bs) ∧
    (∀ d u, d.port = .nodeinfo → User.schema.decode? d.payload = some u → ∀ e epoch,
      ∃ info, Meaning.ofData e epoch d = .event (.nodeInfo e info) ∧ (info.publicKey = none ↔ u.publicKey = []) ∧
        ∀ key, info.publicKey = some key → parse key = .ok u.publicKey) ∧
    (Malformed (standardForm text) → ∃ fault, parse text = .error (.key fault)) := by
  refine ⟨parse_eq_ok_iff, fun lead trail hblank body => parse_of_mem_forms hblank, fun d u hport hread e epoch => ?_,
    fun hmalformed => ?_⟩
  · obtain ⟨info, hinfo, hkey⟩ := ofData_nodeInfo e epoch hport hread
    refine ⟨info, hinfo, ?_, fun key htold => ?_⟩
    · rw [hkey]
      split
      · next hnil => exact iff_of_true rfl hnil
      · next hnil => exact iff_of_false (Option.some_ne_none _) hnil
    · rw [hkey] at htold
      split at htold
      · cases htold
      · cases htold
        exact parse_encode u.publicKey
  · exact refused_of_forall_ne fun bs hform => not_malformed_encode bs (hform ▸ hmalformed)

/-- Two bytes in the URL-safe alphabet without their padding, between blanks; and the same with a bit too many. -/
theorem parse_exact_urlSafe :
    parse "\u2003-_8\n" = .ok [0xFB, 0xFF] ∧ ∃ fault, parse "-_9" = .error (.key fault) := by
  obtain ⟨-, hforms, -, -⟩ := parse_exact "" [0xFB, 0xFF]
  obtain ⟨-, -, -, hrefused⟩ := parse_exact "-_9" []
  have htext : String.ofList (['\u2003'] ++ (['-', '_', '8'] ++ ['\n'])) = "\u2003-_8\n" := by decide +kernel
  have hmem : ['-', '_', '8'] ∈ forms [0xFB, 0xFF] := by decide +kernel
  have hform : standardForm "-_9" = ['+', '/', letter 61, '='] := by decide +kernel
  have hmalformed : Malformed ['+', '/', letter 61, '='] := @Malformed.twoBits [] _ _ 61 (by decide) (by decide)
  exact ⟨htext ▸ hforms ['\u2003'] ['\n'] (by simp [isBlank]) _ hmem, hrefused (hform ▸ hmalformed)⟩

end RadioMesh.Key
