import RadioMesh.Proofs.Direct

/-!
Sealing and opening are inverse to each other. A sealed form is opened to a text if and only if it is what sealing makes
of that text with the extra word that it carries; so of all marks that could stand in it, one is accepted.
-/

namespace RadioMesh.Direct

/-- The sealed form of a text under an agreed key: the covered text, its mark, and the extra word. -/
def IsSealed (key text : Bytes) (id sender extra : UInt32) (sealed : Bytes) : Prop :=
  ∃ body mark, Cipher.Ccm.Seals (Cipher.Aes.cipher key) (nonce id sender extra) text body mark ∧
    sealed = body ++ mark ++ Bytes.ofWord32 extra

/-- The extra word that a sealed form carries in its last four bytes. -/
def extraIn (sealed : Bytes) : UInt32 :=
  extraOf (sealed.drop (sealed.length - extraLength))

/-! ### Under an agreed key -/

section Agreed
variable {key text sealed : Bytes} {id sender extra : UInt32}

theorem sealWith?_eq_some_iff :
    sealWith? key text id sender extra = some sealed ↔ IsSealed key text id sender extra sealed := by
  have hnonce : (nonce id sender extra).length = 13 := rfl
  constructor
  · intro h
    obtain ⟨body, mark, hseal, -, rfl⟩ := exists_of_sealWith? h
    exact ⟨body, mark, (Cipher.Ccm.seal?_eq_some_iff hnonce).1 hseal, rfl⟩
  · rintro ⟨body, mark, hseals, rfl⟩
    rw [sealWith?, (Cipher.Ccm.seal?_eq_some_iff hnonce).2 hseals]
    rfl

theorem length_sealed (h : sealWith? key text id sender extra = some sealed) :
    sealed.length = text.length + overhead := by
  obtain ⟨body, mark, hseal, hmark, rfl⟩ := exists_of_sealWith? h
  have hbody : body.length = text.length := by
    rw [Cipher.Ccm.seal?] at hseal
    split at hseal
    · cases hseal
      exact Cipher.Ccm.length_cover _ _ _
    · cases hseal
  rw [List.length_append, List.length_append, hbody, hmark]
  rfl

theorem ofWord32_extraOf {tail : Bytes} (h : tail.length = extraLength) : Bytes.ofWord32 (extraOf tail) = tail := by
  match tail, h with
  | [a, b, c, d], _ => exact Bytes.ofWord32_word32 a b c d

/-- Bytes that could be a sealed form fall into a body, a mark and four bytes more. -/
theorem exists_parts (h : overhead ≤ sealed.length) : ∃ body mark tail, sealed = body ++ mark ++ tail ∧
    mark.length = Cipher.Ccm.tagLength ∧ tail.length = extraLength := by
  have hover : overhead = Cipher.Ccm.tagLength + extraLength := rfl
  refine ⟨sealed.take (sealed.length - overhead), (sealed.drop (sealed.length - overhead)).take Cipher.Ccm.tagLength,
    (sealed.drop (sealed.length - overhead)).drop Cipher.Ccm.tagLength, ?_, ?_, ?_⟩
  · rw [List.append_assoc, List.take_append_drop, List.take_append_drop]
  · rw [List.length_take, List.length_drop]
    omega
  · rw [List.length_drop, List.length_drop]
    omega

theorem extraIn_append {body mark tail : Bytes} (h : tail.length = extraLength) :
    extraIn (body ++ mark ++ tail) = extraOf tail := by
  rw [extraIn, List.length_append, h, Nat.add_sub_cancel, List.drop_left]

/-- Opening is the inverse of sealing with the extra word that is there. -/
theorem openWith?_eq_some_iff (h : overhead ≤ sealed.length) :
    openWith? key sealed id sender = some text ↔ sealWith? key text id sender (extraIn sealed) = some sealed := by
  refine ⟨fun hopen => ?_, openWith?_of_sealWith?⟩
  obtain ⟨body, mark, tail, rfl, hmark, htail⟩ := exists_parts h
  rw [openWith?_append hmark htail] at hopen
  rw [extraIn_append htail, sealWith?, Cipher.Ccm.seal?_of_open? hopen, Option.map_some, ofWord32_extraOf htail]

theorem openWith?_eq_none {body mark mark' tail : Bytes} (hmark : mark.length = Cipher.Ccm.tagLength)
    (hmark' : mark'.length = Cipher.Ccm.tagLength) (htail : tail.length = extraLength) (hne : mark' ≠ mark)
    (h : openWith? key (body ++ mark ++ tail) id sender = some text) :
    openWith? key (body ++ mark' ++ tail) id sender = none := by
  rw [openWith?_append hmark htail] at h
  rw [openWith?_append hmark' htail]
  exact Cipher.Ccm.open?_eq_none h hne

end Agreed

/-! ### Between two nodes -/

section Keys
variable {privateKey publicKey text sealed : Bytes} {id sender : UInt32} {e : CryptoError}

/-- What is refused, in the order of the checks. -/
theorem openFrom_eq_error_iff : openFrom sealed privateKey publicKey id sender = .error e ↔
    (sealed.length < overhead ∧ e = .tooShort sealed.length) ∨
      (overhead ≤ sealed.length ∧ sharedKey privateKey publicKey = .error e) ∨
      (overhead ≤ sealed.length ∧ (∃ key, sharedKey privateKey publicKey = .ok key ∧
        openWith? key sealed id sender = none) ∧ e = .authentication) := by
  rcases Nat.lt_or_ge sealed.length overhead with hshort | hlong
  · have hnot : ¬overhead ≤ sealed.length := Nat.not_le.2 hshort
    rw [openFrom, if_pos hshort]
    simp [hshort, hnot, throw, throwThe, MonadExceptOf.throw, bind, Except.bind, eq_comm]
  · have hnot : ¬sealed.length < overhead := Nat.not_lt.2 hlong
    rw [openFrom, if_neg hnot]
    cases hshared : sharedKey privateKey publicKey with
    | error cause => simp [hnot, hlong, bind, Except.bind]
    | ok key =>
      cases hopen : openWith? key sealed id sender with
      | none => simp [hnot, hlong, hopen, throw, throwThe, MonadExceptOf.throw, bind, Except.bind, eq_comm]
      | some text => simp [hnot, hlong, hopen, bind, Except.bind, pure, Except.pure]

/-- Sealing between two nodes, said of the key that they agree on. -/
structure SealsExactly (key privateKey publicKey : Bytes) (id sender : UInt32) : Prop where
  /-- Every text that fits is sealed, and opened again by whoever comes to the same key. -/
  seals : ∀ text extra, text.length ≤ 65535 → ∃ sealed,
    sealFor text privateKey publicKey id sender extra = .ok sealed ∧ sealed.length = text.length + 12 ∧
      ∀ privateKey' publicKey', sharedKey privateKey' publicKey' = .ok key →
        openFrom sealed privateKey' publicKey' id sender = .ok text
  layout : ∀ text extra sealed, sealFor text privateKey publicKey id sender extra = .ok sealed ↔
    IsSealed key text id sender extra sealed
  /-- What opens is what sealing makes with the extra word that is there. -/
  opens : ∀ sealed text, openFrom sealed privateKey publicKey id sender = .ok text ↔
    12 ≤ sealed.length ∧ sealFor text privateKey publicKey id sender (extraIn sealed) = .ok sealed
  /-- Any other mark in the place of an accepted one is refused. -/
  marks : ∀ body mark mark' tail text, mark.length = 8 → mark'.length = 8 → tail.length = 4 → mark' ≠ mark →
    openFrom (body ++ mark ++ tail) privateKey publicKey id sender = .ok text →
      openFrom (body ++ mark' ++ tail) privateKey publicKey id sender = .error .authentication

theorem sealFor_eq_ok_iff_of_shared {key : Bytes} {extra : UInt32} (hkey : sharedKey privateKey publicKey = .ok key) :
    sealFor text privateKey publicKey id sender extra = .ok sealed ↔
      sealWith? key text id sender extra = some sealed := by
  simp [sealFor_eq_ok_iff, hkey]

theorem openFrom_eq_ok_iff_of_shared {key : Bytes} (hkey : sharedKey privateKey publicKey = .ok key) :
    openFrom sealed privateKey publicKey id sender = .ok text ↔
      overhead ≤ sealed.length ∧ openWith? key sealed id sender = some text := by
  simp [openFrom_eq_ok_iff, hkey]

theorem sealsExactly {key : Bytes} (hkey : sharedKey privateKey publicKey = .ok key) (hprivate : privateKey.length = 32)
    (hpublic : publicKey.length = 32) (id sender : UInt32) : SealsExactly key privateKey publicKey id sender where
  seals := by
    intro text extra htext
    obtain ⟨sealed, hsealed⟩ := exists_sealFor hprivate hpublic htext id sender extra
    have hseal := (sealFor_eq_ok_iff_of_shared hkey).1 hsealed
    exact ⟨sealed, hsealed, length_sealed hseal, fun _ _ hkey' => openFrom_of_sealFor hsealed (hkey'.trans hkey.symm)⟩
  layout := by
    intro text extra sealed
    rw [sealFor_eq_ok_iff_of_shared hkey, sealWith?_eq_some_iff]
  opens := by
    intro sealed text
    rw [openFrom_eq_ok_iff_of_shared hkey, sealFor_eq_ok_iff_of_shared hkey]
    exact and_congr_right fun hlong => openWith?_eq_some_iff hlong
  marks := by
    intro body mark mark' tail text hmark hmark' htail hne hopen
    obtain ⟨hlong, hopen⟩ := (openFrom_eq_ok_iff_of_shared hkey).1 hopen
    have hlong' : overhead ≤ (body ++ mark' ++ tail).length := by
      rw [List.length_append, List.length_append, hmark', htail]
      exact Nat.le_add_left 12 body.length
    exact openFrom_eq_error_iff.2
      (.inr (.inr ⟨hlong', ⟨key, hkey, openWith?_eq_none hmark hmark' htail hne hopen⟩, rfl⟩))

/-- Sealing and opening are exact inverses, and bytes too short, then a private and then a public key of another length
are refused before anything is opened. -/
theorem sealing_exact (hprivate : privateKey.length = 32) (hpublic : publicKey.length = 32) (id sender : UInt32) :
    (∃ key, sharedKey privateKey publicKey = .ok key ∧ SealsExactly key privateKey publicKey id sender) ∧
    ∀ sealed a b,
      (sealed.length < 12 → openFrom sealed a b id sender = .error (.tooShort sealed.length)) ∧
      (12 ≤ sealed.length → a.length ≠ 32 → openFrom sealed a b id sender = .error (.keyLength a.length)) ∧
      (12 ≤ sealed.length → a.length = 32 → b.length ≠ 32 →
        openFrom sealed a b id sender = .error (.keyLength b.length)) := by
  refine ⟨⟨_, sharedKey_eq hprivate hpublic, sealsExactly (sharedKey_eq hprivate hpublic) hprivate hpublic id sender⟩,
    fun sealed a b => ⟨fun hshort => ?_, fun hlong ha => ?_, fun hlong ha hb => ?_⟩⟩
  · exact openFrom_eq_error_iff.2 (.inl ⟨hshort, rfl⟩)
  · exact openFrom_eq_error_iff.2 (.inr (.inl ⟨hlong, sharedKey_eq_error_iff.2 (.inl ⟨ha, rfl⟩)⟩))
  · exact openFrom_eq_error_iff.2 (.inr (.inl ⟨hlong, sharedKey_eq_error_iff.2 (.inr ⟨ha, hb, rfl⟩)⟩))

/-- A text of two bytes, sealed for the owner of the other key and opened with the same pair. -/
theorem sealing_exact_short :
    (List.replicate 32 0x11 : Bytes).length = 32 ∧ (List.replicate 32 0x22 : Bytes).length = 32 ∧
      ∃ sealed, sealFor [104, 105] (List.replicate 32 0x11) (List.replicate 32 0x22) 77 0xA11CE 5 = .ok sealed ∧
        sealed.length = 14 ∧
        openFrom sealed (List.replicate 32 0x11) (List.replicate 32 0x22) 77 0xA11CE = .ok [104, 105] ∧
        openFrom (sealed.take 11) (List.replicate 32 0x11) (List.replicate 32 0x22) 77 0xA11CE =
          .error (.tooShort 11) := by
  have hprivate : (List.replicate 32 0x11 : Bytes).length = 32 := rfl
  have hpublic : (List.replicate 32 0x22 : Bytes).length = 32 := rfl
  obtain ⟨⟨key, hkey, hexact⟩, hrefused⟩ := sealing_exact hprivate hpublic 77 0xA11CE
  obtain ⟨sealed, hsealed, hlength, hopens⟩ := hexact.seals [104, 105] 5 (by decide)
  have hshort : (sealed.take 11).length = 11 := by rw [List.length_take, hlength]; rfl
  have htooShort := (hrefused (sealed.take 11) (List.replicate 32 0x11) (List.replicate 32 0x22)).1 (by omega)
  exact ⟨hprivate, hpublic, sealed, hsealed, hlength, hopens _ _ hkey, by rw [htooShort, hshort]⟩

end Keys

end RadioMesh.Direct
