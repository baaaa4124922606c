import RadioMesh.Proofs.Floating.Decimal
import RadioMesh.Proofs.Floating.Reading

/-!
Numbers are read back from what is written. The fewest digits give the number itself, or the one NaN for a NaN, and a
fixed number of places gives some number. The exact expansion, which stands behind the seventeen digits, is short
enough to be read.
-/

namespace RadioMesh

/-- The number with one pattern for all NaNs. -/
def Binary64.canonical (x : Binary64) : Binary64 :=
  if x.view = .nan then .nan else x

namespace Floating

open Binary64

/-! ### Positional notation -/

/-- The digits of a number with at least one before the point. -/
def padded (n places : Nat) : List Char :=
  zeros (places + 1 - (decimalDigits n).length) ++ decimalDigits n

theorem isDigit_of_mem_padded {n places : Nat} {c : Char} (h : c ∈ padded n places) : c.isDigit = true := by
  rcases List.mem_append.1 h with h | h
  · exact isDigit_of_mem_zeros h
  · exact Text.digits_toDigits n c h

theorem lt_length_padded (n places : Nat) : places < (padded n places).length := by
  rw [padded, List.length_append, zeros, List.length_replicate]
  omega

theorem digitsValue_padded (n places : Nat) : digitsValue (padded n places) = n := by
  rw [padded, digitsValue_zeros_append, digitsValue_decimalDigits]

theorem read_withPlaces (negative : Bool) (n places : Nat) :
    read (String.ofList (minus negative ++ withPlaces n places)) = .ok (ofDecimal negative n (-places)) := by
  have hlength := lt_length_padded n places
  have hwhole : ∀ c ∈ (padded n places).take ((padded n places).length - places), c.isDigit = true :=
    fun c hc => isDigit_of_mem_padded (List.mem_of_mem_take hc)
  have hpart : ∀ c ∈ (padded n places).drop ((padded n places).length - places), c.isDigit = true :=
    fun c hc => isDigit_of_mem_padded (List.mem_of_mem_drop hc)
  have hne : (padded n places).take ((padded n places).length - places) ≠ [] := by
    rw [Ne, ← List.length_eq_zero_iff, List.length_take]
    omega
  have hwithPlaces : withPlaces n places =
      if places = 0 then (padded n places).take ((padded n places).length - places)
      else (padded n places).take ((padded n places).length - places) ++
        '.' :: (padded n places).drop ((padded n places).length - places) := rfl
  rw [hwithPlaces]
  split
  · next hplaces =>
    rw [read_whole hwhole hne, hplaces, Nat.sub_zero, List.take_length, digitsValue_padded]
    rfl
  · rw [read_point hwhole hne hpart, List.take_append_drop, digitsValue_padded, List.length_drop,
      Nat.sub_sub_self (Nat.le_of_lt hlength)]

theorem read_positional (negative : Bool) (digits : Nat) (exponent : Int) :
    read (String.ofList (minus negative ++ positional digits exponent)) = .ok (ofDecimal negative digits exponent) := by
  unfold positional
  split
  · next h =>
    obtain ⟨k, rfl⟩ := Int.eq_ofNat_of_zero_le h
    have hdigits : ∀ c ∈ decimalDigits digits ++ zeros k, c.isDigit = true := fun c hc =>
      (List.mem_append.1 hc).elim (Text.digits_toDigits digits c) isDigit_of_mem_zeros
    have hne : decimalDigits digits ++ zeros k ≠ [] :=
      List.append_ne_nil_of_left_ne_nil Nat.toDigits_ne_nil _
    rw [Int.toNat_natCast, read_whole hdigits hne, digitsValue_append_zeros, digitsValue_decimalDigits,
      ofDecimal_mul_pow, zero_add]
  · rw [read_withPlaces, show (-((-exponent).toNat : Int)) = exponent by omega]

theorem read_nan : read "NaN" = .ok .nan := by
  decide +kernel

theorem read_nameOf (negative : Bool) : read (String.ofList (nameOf negative)) = .ok (.infinity negative) := by
  cases negative <;> rfl

/-! ### Fixed places -/

theorem exists_read_fixed (places : Nat) (x : Binary64) : ∃ y, read (fixed places x) = .ok y := by
  unfold fixed
  cases x.view with
  | nan => exact ⟨.nan, read_nan⟩
  | infinite negative => exact ⟨_, read_nameOf negative⟩
  | finite negative m e => exact ⟨_, read_withPlaces negative _ places⟩

/-! ### Fewest digits -/

theorem ofDecimal_of_onGrid? {x : Binary64} {num den n : Nat} {k : Int} (h : onGrid? x num den k = some n) :
    ofDecimal false n k = x := by
  unfold onGrid? at h
  generalize (if 0 ≤ k then (num, den * Nat.pow 10 k.toNat) else (num * Nat.pow 10 (-k).toNat, den)) = fraction at h
  obtain ⟨num, den⟩ := fraction
  dsimp only at h
  split at h
  · next hlow =>
    cases h
    exact eq_of_beq hlow.1
  · split at h
    · next hhigh =>
      cases h
      exact eq_of_beq hhigh
    · cases h

theorem ofDecimal_normalized (negative : Bool) (fuel digits : Nat) (e : Int) :
    ofDecimal negative (normalized fuel digits e).1 (normalized fuel digits e).2 = ofDecimal negative digits e := by
  induction fuel generalizing digits e with
  | zero => rfl
  | succ fuel ih =>
    unfold normalized
    split
    · next hzero => rw [ih, ← ofDecimal_mul_ten, Nat.div_mul_cancel (Nat.dvd_of_mod_eq_zero hzero)]
    · rfl

theorem two_pow_le_pow {a b c n : Nat} (hn : 2 ^ c ≤ n) (h : a ≤ c * b) : 2 ^ a ≤ n ^ b :=
  calc 2 ^ a ≤ 2 ^ (c * b) := Nat.pow_le_pow_right (by decide) h
    _ = (2 ^ c) ^ b := Nat.pow_mul 2 c b
    _ ≤ n ^ b := Nat.pow_le_pow_left hn b

/-- A ratio of the format's range, written out in full. -/
theorem ofDecimal_exact {num l : Nat} (hpos : 0 < num) (hlt : num < 2 ^ 1024) (hl : l ≤ 1074) :
    ofDecimal false (num * 5 ^ l) (-l) = ofRatio false num (2 ^ l) := by
  have hdigits : 0 < num * 5 ^ l := Nat.mul_pos hpos (Nat.pow_pos (by decide))
  have hupper : (Nat.toDigits 10 (num * 5 ^ l)).length ≤ 400 + l := by
    refine (Nat.length_toDigits_le_iff (by decide) (by omega)).2 ?_
    have hsmall : num < 10 ^ 400 := hlt.trans_le (two_pow_le_pow (c := 3) (by decide) (by decide))
    rw [pow_add]
    exact Nat.mul_lt_mul_of_lt_of_le hsmall (Nat.pow_le_pow_left (by decide) l) (Nat.pow_pos (by decide))
  have hlower : l < (Nat.toDigits 10 (num * 5 ^ l)).length + 401 := by
    by_contra hshort
    obtain ⟨k, rfl⟩ : ∃ k, l = k + 401 := ⟨l - 401, by omega⟩
    have hk : 0 < k := by
      have := Nat.length_toDigits_pos (b := 10) (n := num * 5 ^ (k + 401))
      omega
    have hbelow := (Nat.length_toDigits_le_iff (n := num * 5 ^ (k + 401)) (b := 10) (by decide) hk).1 (by omega)
    have hhalves : 2 ^ k ≤ 5 ^ 401 := two_pow_le_pow (c := 2) (by decide) (by omega)
    have habove : 10 ^ k ≤ num * 5 ^ (k + 401) :=
      calc 10 ^ k = 2 ^ k * 5 ^ k := Nat.mul_pow 2 5 k
        _ ≤ 5 ^ 401 * 5 ^ k := Nat.mul_le_mul_right _ hhalves
        _ = 1 * 5 ^ (k + 401) := by rw [Nat.one_mul, pow_add, Nat.mul_comm]
        _ ≤ num * 5 ^ (k + 401) := Nat.mul_le_mul_right _ hpos
    omega
  rw [ofDecimal_eq, if_neg (by omega), if_neg (by omega)]
  refine ofRatio_congr false ?_ (Nat.pow_pos (by decide)) (Nat.two_pow_pos l)
  rw [show (-(l : Int)).toNat = 0 by omega, show (-(-(l : Int))).toNat = l by omega, pow_zero, Nat.mul_one,
    Nat.mul_assoc, ← Nat.mul_pow]

theorem exists_scale {m : Nat} {e : Int} (hlt : m < 2 * implicitBit) (hleast : -1074 ≤ e) (hmost : e ≤ 971) :
    ∃ num l, scale m 1 e = (num, 2 ^ l) ∧ num < 2 ^ 1024 ∧ l ≤ 1074 := by
  have hm : m < 2 ^ 53 := hlt
  unfold scale
  split
  · refine ⟨m * 2 ^ e.toNat, 0, by rw [Nat.shiftLeft_eq, pow_zero], ?_, by decide⟩
    have hscaled : m * 2 ^ e.toNat < 2 ^ (53 + e.toNat) := by
      rw [pow_add]
      exact Nat.mul_lt_mul_of_pos_right hm (Nat.two_pow_pos _)
    exact hscaled.trans_le (pow_le_pow_right₀ one_le_two (by omega))
  · have hbelow : m < 2 ^ 1024 := hm.trans_le (pow_le_pow_right₀ one_le_two (by decide))
    exact ⟨m, (-e).toNat, by rw [Nat.shiftLeft_eq, Nat.one_mul], hbelow, by omega⟩

theorem ofDecimal_shortestOf {num l : Nat} (hpos : 0 < num) (hlt : num < 2 ^ 1024) (hl : l ≤ 1074) :
    ofDecimal false (shortestOf (ofRatio false num (2 ^ l)) num (2 ^ l)).1
      (shortestOf (ofRatio false num (2 ^ l)) num (2 ^ l)).2 = ofRatio false num (2 ^ l) := by
  unfold shortestOf
  dsimp only
  split
  · next n k hfound =>
    obtain ⟨i, -, hi⟩ := List.exists_of_findSome?_eq_some hfound
    obtain ⟨n', hgrid, heq⟩ := Option.map_eq_some_iff.1 hi
    cases heq
    rw [ofDecimal_normalized, ofDecimal_of_onGrid? hgrid]
  · rw [Nat.log2_two_pow]
    exact ofDecimal_exact hpos hlt hl

theorem read_shortest (x : Binary64) : read (shortest x) = .ok x.canonical := by
  unfold shortest canonical
  cases hview : x.view with
  | nan => rfl
  | infinite negative =>
    rw [of_view_infinite hview]
    exact read_nameOf negative
  | finite negative m e =>
    obtain ⟨hleast, hmost, hlt, -⟩ := of_view_finite hview
    have hself := ofScaled_of_view hview
    rw [if_neg nofun]
    dsimp only
    split
    · next hm =>
      have hread := read_whole (List.all_eq_true.1 (by decide : ['0'].all Char.isDigit = true)) (by decide) negative
      rw [hread]
      simp only [ofScaled, ofRatio, if_pos (scale_num_eq_zero_iff.2 hm)] at hself
      rw [← hself]
      rfl
    · next hm =>
      have hpos : 0 < (scale m 1 e).1 := Nat.pos_of_ne_zero (scale_num_eq_zero_iff.not.2 hm)
      obtain ⟨num, l, hscale, hnum, hl⟩ := exists_scale hlt hleast hmost
      simp only [ofScaled, hscale] at hself
      simp only [hscale] at hpos ⊢
      rw [read_positional, ofDecimal_of_positive (ofDecimal_shortestOf hpos hnum hl), hself]

/-! ### The characters of a number -/

/-- What a written number consists of. -/
def isNumeral (c : Char) : Bool :=
  c.isAlphanum || c == '-' || c == '.'

theorem isNumeral_of_isDigit {c : Char} (h : c.isDigit = true) : isNumeral c = true := by
  simp [isNumeral, Char.isAlphanum, h]

theorem isNumeral_of_mem_minus {negative : Bool} {c : Char} (h : c ∈ minus negative) : isNumeral c = true := by
  cases negative with
  | false => cases h
  | true =>
    rw [List.mem_singleton.1 h]
    rfl

theorem isNumeral_of_mem_withPlaces {n places : Nat} {c : Char} (h : c ∈ withPlaces n places) :
    isNumeral c = true := by
  have hpadded : ∀ c ∈ padded n places, isNumeral c = true :=
    fun c hc => isNumeral_of_isDigit (isDigit_of_mem_padded hc)
  have hwhole : ∀ c ∈ (padded n places).take ((padded n places).length - places), isNumeral c = true :=
    fun c hc => hpadded c (List.mem_of_mem_take hc)
  unfold withPlaces at h
  split at h
  · exact hwhole c h
  · rcases List.mem_append.1 h with h | h
    · exact hwhole c h
    · rcases List.mem_cons.1 h with rfl | h
      · rfl
      · exact hpadded c (List.mem_of_mem_drop h)

theorem isNumeral_of_mem_positional {digits : Nat} {exponent : Int} {c : Char} (h : c ∈ positional digits exponent) :
    isNumeral c = true := by
  unfold positional at h
  split at h
  · rcases List.mem_append.1 h with h | h
    · exact isNumeral_of_isDigit (Text.digits_toDigits digits c h)
    · exact isNumeral_of_isDigit (isDigit_of_mem_zeros h)
  · exact isNumeral_of_mem_withPlaces h

theorem isNumeral_of_mem_nan : ∀ c ∈ "NaN".toList, isNumeral c = true :=
  List.all_eq_true.1 rfl

theorem isNumeral_of_mem_nameOf (negative : Bool) :
    ∀ c ∈ (String.ofList (nameOf negative)).toList, isNumeral c = true := by
  rw [String.toList_ofList]
  cases negative <;> exact List.all_eq_true.1 rfl

theorem isNumeral_of_mem_minus_append {negative : Bool} {cs : List Char} (hcs : ∀ c ∈ cs, isNumeral c = true) :
    ∀ c ∈ (String.ofList (minus negative ++ cs)).toList, isNumeral c = true := by
  intro c hc
  rw [String.toList_ofList] at hc
  exact (List.mem_append.1 hc).elim isNumeral_of_mem_minus (hcs c)

theorem isNumeral_of_mem_fixed (places : Nat) (x : Binary64) : ∀ c ∈ (fixed places x).toList, isNumeral c = true := by
  unfold fixed
  cases x.view with
  | nan => exact isNumeral_of_mem_nan
  | infinite negative => exact isNumeral_of_mem_nameOf negative
  | finite negative m e => exact isNumeral_of_mem_minus_append fun c hc => isNumeral_of_mem_withPlaces hc

theorem isNumeral_of_mem_shortest (x : Binary64) : ∀ c ∈ (shortest x).toList, isNumeral c = true := by
  unfold shortest
  cases x.view with
  | nan => exact isNumeral_of_mem_nan
  | infinite negative => exact isNumeral_of_mem_nameOf negative
  | finite negative m e =>
    dsimp only
    split
    · exact isNumeral_of_mem_minus_append (List.all_eq_true.1 rfl)
    · exact isNumeral_of_mem_minus_append fun c hc => isNumeral_of_mem_positional hc

end Floating

end RadioMesh
