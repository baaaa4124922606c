import RadioMesh.Direct
import RadioMesh.Proofs.Bytes
import RadioMesh.Proofs.Cipher.Ccm

/-!
What is sealed for a node is opened by that node. The text comes back whatever it is, as the cover is taken
off by the call that put it on and the tag is computed anew; only the two sides' agreed key has to be one.
-/

namespace RadioMesh

/-! ### Results of computations that can fail -/

theorem exists_of_bind_eq_ok {ε α β : Type} {x : Except ε α} {f : α → Except ε β} {b : β}
    (h : x >>= f = .ok b) : ∃ a, x = .ok a ∧ f a = .ok b := by
  cases x with
  | error e => cases h
  | ok a => exact ⟨a, rfl, h⟩

theorem eq_ok_of_mapError {ε ε' α : Type} {x : Except ε α} {f : ε → ε'} {a : α}
    (h : x.mapError f = .ok a) : x = .ok a := by
  cases x with
  | error e => cases h
  | ok b =>
    cases h
    rfl

theorem bind_eq_error_iff {ε α β : Type} {x : Except ε α} {f : α → Except ε β} {e : ε} :
    x >>= f = .error e ↔ x = .error e ∨ ∃ a, x = .ok a ∧ f a = .error e := by
  cases x with
  | error e' => simp [bind, Except.bind]
  | ok a => simp [bind, Except.bind]

theorem mapError_eq_error_iff {ε ε' α : Type} {x : Except ε α} {f : ε → ε'} {e : ε'} :
    x.mapError f = .error e ↔ ∃ cause, x = .error cause ∧ e = f cause := by
  cases x with
  | error cause => simp [Except.mapError, eq_comm]
  | ok a => simp [Except.mapError]

/-! ### Sealed forms -/

namespace Direct

theorem extraOf_ofWord32 (w : UInt32) : extraOf (Bytes.ofWord32 w) = w :=
  Bytes.word32_ofWord32 w

theorem exists_of_sealWith? {key text sealed : Bytes} {id sender extra : UInt32}
    (h : sealWith? key text id sender extra = some sealed) :
    ∃ body mark, Cipher.Ccm.seal? (Cipher.Aes.cipher key) (nonce id sender extra) text = some (body, mark) ∧
      mark.length = Cipher.Ccm.tagLength ∧ sealed = body ++ mark ++ Bytes.ofWord32 extra := by
  obtain ⟨⟨body, mark⟩, hseal, rfl⟩ := Option.map_eq_some_iff.1 h
  refine ⟨body, mark, hseal, ?_, rfl⟩
  rw [Cipher.Ccm.seal?] at hseal
  split at hseal
  · cases hseal
    exact Cipher.Ccm.length_tag _ _ _
  · cases hseal

/-- Opening cuts where sealing joins, as the mark and the extra word have fixed lengths. -/
theorem openWith?_append {key body mark tail : Bytes} (hmark : mark.length = Cipher.Ccm.tagLength)
    (htail : tail.length = extraLength) (id sender : UInt32) :
    openWith? key (body ++ mark ++ tail) id sender =
      Cipher.Ccm.open? (Cipher.Aes.cipher key) (nonce id sender (extraOf tail)) body mark := by
  have hsplit : (body ++ mark ++ tail).length - overhead = body.length := by
    rw [List.length_append, List.length_append, hmark, htail, Nat.add_assoc]
    exact Nat.add_sub_cancel _ _
  have hbody : (body ++ mark ++ tail).take body.length = body := by
    rw [List.append_assoc, List.take_left]
  have hrest : (body ++ mark ++ tail).drop body.length = mark ++ tail := by
    rw [List.append_assoc, List.drop_left]
  have hextra : (body ++ mark ++ tail).drop (body.length + Cipher.Ccm.tagLength) = tail := by
    rw [← hmark, ← List.length_append, List.drop_left]
  simp only [openWith?, hsplit]
  rw [hbody, hrest, hextra, ← hmark, List.take_left]

theorem openWith?_of_sealWith? {key text sealed : Bytes} {id sender extra : UInt32}
    (h : sealWith? key text id sender extra = some sealed) : openWith? key sealed id sender = some text := by
  obtain ⟨body, mark, hseal, hmark, rfl⟩ := exists_of_sealWith? h
  rw [openWith?_append hmark rfl, extraOf_ofWord32]
  exact Cipher.Ccm.open?_of_seal? hseal

theorem length_of_sealWith? {key text sealed : Bytes} {id sender extra : UInt32}
    (h : sealWith? key text id sender extra = some sealed) : overhead ≤ sealed.length := by
  obtain ⟨body, mark, -, hmark, rfl⟩ := exists_of_sealWith? h
  rw [List.length_append, List.length_append, hmark]
  show 8 + 4 ≤ body.length + 8 + 4
  omega

theorem checkLength_eq_ok {key : Bytes} (h : key.length = 32) : checkLength key = .ok () :=
  if_pos h

theorem sharedKey_eq {privateKey publicKey : Bytes} (hprivate : privateKey.length = 32)
    (hpublic : publicKey.length = 32) :
    sharedKey privateKey publicKey = .ok (Cipher.Sha256.digest (Cipher.Curve25519.agree privateKey publicKey)) := by
  rw [sharedKey, checkLength_eq_ok hprivate, checkLength_eq_ok hpublic]
  rfl

theorem sealFor_eq_ok_iff {text privateKey publicKey sealed : Bytes} {id sender extra : UInt32} :
    sealFor text privateKey publicKey id sender extra = .ok sealed ↔
      ∃ key, sharedKey privateKey publicKey = .ok key ∧ sealWith? key text id sender extra = some sealed := by
  constructor
  · intro h
    obtain ⟨key, hkey, hseal⟩ := exists_of_bind_eq_ok h
    refine ⟨key, hkey, ?_⟩
    split at hseal
    · next hsome =>
      cases hseal
      exact hsome
    · cases hseal
  · rintro ⟨key, hkey, hseal⟩
    simp only [sealFor, hkey, hseal, bind, Except.bind]
    rfl

theorem openFrom_eq_ok_iff {sealed privateKey publicKey text : Bytes} {id sender : UInt32} :
    openFrom sealed privateKey publicKey id sender = .ok text ↔ overhead ≤ sealed.length ∧
      ∃ key, sharedKey privateKey publicKey = .ok key ∧ openWith? key sealed id sender = some text := by
  rcases Nat.lt_or_ge sealed.length overhead with hshort | hlong
  · rw [openFrom, if_pos hshort]
    exact ⟨(nomatch ·), fun h => absurd h.1 (Nat.not_le.2 hshort)⟩
  rw [openFrom, if_neg (Nat.not_lt.2 hlong)]
  constructor
  · intro h
    obtain ⟨key, hkey, hopen⟩ := exists_of_bind_eq_ok h
    refine ⟨hlong, key, hkey, ?_⟩
    split at hopen
    · next hsome =>
      cases hopen
      exact hsome
    · cases hopen
  · rintro ⟨-, key, hkey, hopen⟩
    simp only [hkey, hopen, bind, Except.bind]
    rfl

/-- A text is opened with any pair of keys that agrees on the key it was sealed under. -/
theorem openFrom_of_sealFor {text privateKey publicKey privateKey' publicKey' sealed : Bytes}
    {id sender extra : UInt32} (h : sealFor text privateKey publicKey id sender extra = .ok sealed)
    (hagree : sharedKey privateKey' publicKey' = sharedKey privateKey publicKey) :
    openFrom sealed privateKey' publicKey' id sender = .ok text := by
  obtain ⟨key, hkey, hseal⟩ := sealFor_eq_ok_iff.1 h
  exact openFrom_eq_ok_iff.2
    ⟨length_of_sealWith? hseal, key, hagree.trans hkey, openWith?_of_sealWith? hseal⟩

/-- Every text that fits can be sealed. -/
theorem exists_sealFor {text privateKey publicKey : Bytes} (hprivate : privateKey.length = 32)
    (hpublic : publicKey.length = 32) (htext : text.length ≤ Cipher.Ccm.maxLength) (id sender extra : UInt32) :
    ∃ sealed, sealFor text privateKey publicKey id sender extra = .ok sealed := by
  have hkey := sharedKey_eq hprivate hpublic
  generalize Cipher.Sha256.digest (Cipher.Curve25519.agree privateKey publicKey) = key at hkey
  have hseal : ∃ sealed, sealWith? key text id sender extra = some sealed := by
    rw [sealWith?, Cipher.Ccm.seal?, if_pos htext]
    exact ⟨_, rfl⟩
  obtain ⟨sealed, hseal⟩ := hseal
  exact ⟨sealed, sealFor_eq_ok_iff.2 ⟨key, hkey, hseal⟩⟩

/-! ### Public keys -/

theorem length_toLittleEndian (count n : Nat) :
    (Cipher.Curve25519.toLittleEndian count n).length = count := by
  induction count generalizing n with
  | zero => rfl
  | succ count ih => exact congrArg Nat.succ (ih (n / 256))

theorem length_curve_publicKey (privateKey : Bytes) : (Cipher.Curve25519.publicKey privateKey).length = 32 :=
  length_toLittleEndian _ _

/-- Both sides come to one key. -/
theorem sharedKey_comm {a b : Bytes} (ha : a.length = 32) (hb : b.length = 32)
    (hagree : Cipher.Curve25519.agree a (Cipher.Curve25519.publicKey b) =
      Cipher.Curve25519.agree b (Cipher.Curve25519.publicKey a)) :
    sharedKey b (Cipher.Curve25519.publicKey a) = sharedKey a (Cipher.Curve25519.publicKey b) := by
  rw [sharedKey_eq hb (length_curve_publicKey a), sharedKey_eq ha (length_curve_publicKey b), hagree]

theorem publicKey_eq {privateKey : Bytes} (h : privateKey.length = 32) :
    publicKey privateKey = .ok (Cipher.Curve25519.publicKey privateKey) := by
  rw [publicKey, checkLength_eq_ok h]
  rfl

theorem length_of_publicKey {privateKey key : Bytes} (h : publicKey privateKey = .ok key) : key.length = 32 := by
  obtain ⟨-, -, hkey⟩ := exists_of_bind_eq_ok h
  cases hkey
  exact length_curve_publicKey privateKey

theorem checkLength_eq_error_iff {key : Bytes} {e : CryptoError} :
    checkLength key = .error e ↔ key.length ≠ 32 ∧ e = .keyLength key.length := by
  rw [checkLength]
  split
  · next h => exact ⟨(nomatch ·), fun herror => absurd h herror.1⟩
  · next h => exact ⟨fun herror => by cases herror; exact ⟨h, rfl⟩, fun herror => by rw [herror.2]⟩

/-- The private key's length is looked at first. -/
theorem sharedKey_eq_error_iff {privateKey publicKey : Bytes} {e : CryptoError} :
    sharedKey privateKey publicKey = .error e ↔
      (privateKey.length ≠ 32 ∧ e = .keyLength privateKey.length) ∨
        (privateKey.length = 32 ∧ publicKey.length ≠ 32 ∧ e = .keyLength publicKey.length) := by
  by_cases hprivate : privateKey.length = 32
  · by_cases hpublic : publicKey.length = 32
    · simp [sharedKey_eq hprivate hpublic, hprivate, hpublic]
    · have herror : sharedKey privateKey publicKey = .error (.keyLength publicKey.length) := by
        rw [sharedKey, checkLength_eq_ok hprivate, checkLength_eq_error_iff.2 ⟨hpublic, rfl⟩]
        rfl
      simp [herror, hprivate, hpublic, eq_comm]
  · have herror : sharedKey privateKey publicKey = .error (.keyLength privateKey.length) := by
      rw [sharedKey, checkLength_eq_error_iff.2 ⟨hprivate, rfl⟩]
      rfl
    simp [herror, hprivate, eq_comm]

theorem publicKey_eq_error_iff {privateKey : Bytes} {e : CryptoError} :
    publicKey privateKey = .error e ↔ privateKey.length ≠ 32 ∧ e = .keyLength privateKey.length := by
  rw [publicKey, bind_eq_error_iff, checkLength_eq_error_iff]
  exact or_iff_left fun ⟨_, _, hreturn⟩ => nomatch hreturn

/-- A text that fits is refused for the length of a key alone. -/
theorem sealFor_eq_error_iff {text privateKey publicKey : Bytes} {id sender extra : UInt32} {e : CryptoError}
    (hprivate : privateKey.length = 32) (htext : text.length ≤ Cipher.Ccm.maxLength) :
    sealFor text privateKey publicKey id sender extra = .error e ↔
      publicKey.length ≠ 32 ∧ e = .keyLength publicKey.length := by
  by_cases hpublic : publicKey.length = 32
  · obtain ⟨sealed, hsealed⟩ := exists_sealFor hprivate hpublic htext id sender extra
    rw [hsealed]
    exact ⟨(nomatch ·), fun h => absurd hpublic h.1⟩
  · have hshared : sharedKey privateKey publicKey = .error (.keyLength publicKey.length) :=
      sharedKey_eq_error_iff.2 (.inr ⟨hprivate, hpublic, rfl⟩)
    rw [sealFor, hshared]
    exact ⟨fun h => by cases h; exact ⟨hpublic, rfl⟩, fun h => by rw [h.2]; rfl⟩

end Direct

end RadioMesh
