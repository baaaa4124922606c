import Mathlib.Data.List.Basic
import RadioMesh.Toml.Quoted

/-!
Strings in quotes are read back. Each of the four notations reads back what is written in it, under what the
notation can show; the style that a writer takes is one that can show the string.
-/

namespace RadioMesh.Toml.Quoted

/-! ### Characters between double quotes -/

/-- What stands for a character between double quotes: the character, a letter behind a backslash, or its code
point in four digits. -/
inductive Shows (c : Char) : List Char → Prop
  | plain (text : isText c = true) (quote : c ≠ '"') (backslash : c ≠ '\\') : Shows c [c]
  | named (x : Char) (names : escape? x = some c) : Shows c ['\\', x]
  | coded (w x y z : Char) (codes : codePoint? [w, x, y, z] = some c) : Shows c ['\\', 'u', w, x, y, z]

theorem codePoint?_hexDigits {n : Nat} (h : n < 128) : codePoint? (hexDigits n) = some (Char.ofNat n) := by
  revert n
  decide +kernel

theorem toNat_lt_of_isControl {c : Char} (h : isControl c = true) : c.toNat < 128 := by
  simp only [isControl, isText, Bool.and_eq_true, Bool.not_eq_true', Bool.or_eq_false_iff, Bool.and_eq_false_iff,
    decide_eq_false_iff_not, decide_eq_true_eq, Nat.not_le, not_not] at h
  omega

theorem isText_of_not_isControl {c : Char} (h : isControl c = false) (newline : c ≠ '\n') : isText c = true := by
  simpa [isControl, newline] using h

theorem shows_escaped (c : Char) : Shows c (escaped c) := by
  unfold escaped
  split_ifs with hb ht hn hf hr hq hs hc
  · exact .named 'b' (by rw [hb]; rfl)
  · exact .named 't' (by rw [ht]; rfl)
  · exact .named 'n' (by rw [hn]; rfl)
  · exact .named 'f' (by rw [hf]; rfl)
  · exact .named 'r' (by rw [hr]; rfl)
  · exact .named '"' (by rw [hq]; rfl)
  · exact .named '\\' (by rw [hs]; rfl)
  · have hcode := codePoint?_hexDigits (toNat_lt_of_isControl hc)
    rw [Char.ofNat_toNat] at hcode
    exact .coded _ _ _ _ hcode
  · exact .plain (isText_of_not_isControl (by simpa using hc) hn) hq hs

theorem lineChar?_of_isText {c : Char} (h : isText c = true) : lineChar? c = some c := by
  simp [lineChar?, h]

theorem Shows.basic? {c : Char} {cs : List Char} (h : Shows c cs) (rest : List Char) :
    Quoted.basic? (cs ++ rest) = before (some c) (Quoted.basic? rest) := by
  cases h with
  | plain text quote backslash => simp [Quoted.basic?, backslash, textChar?, text]
  | named x names =>
    -- The letters of code points name no character.
    have hu : x ≠ 'u' := fun h => by simp [h, escape?] at names
    have hU : x ≠ 'U' := fun h => by simp [h, escape?] at names
    simp [Quoted.basic?, hu, hU, names]
  | coded w x y z codes => simp [Quoted.basic?, codes]

theorem Shows.lines? {c : Char} {cs : List Char} (h : Shows c cs) (rest : List Char) :
    Quoted.lines? .inText (cs ++ rest) = before (some c) (Quoted.lines? .inText rest) := by
  cases h with
  | plain text quote backslash => simp [Quoted.lines?, quote, backslash, lineChar?_of_isText text]
  | named x names =>
    have hu : x ≠ 'u' := fun h => by simp [h, escape?] at names
    have hU : x ≠ 'U' := fun h => by simp [h, escape?] at names
    -- Nor does a blank: it would join two lines.
    have hn : x ≠ '\n' := fun h => by simp [h, escape?] at names
    have hs : isSpace x = false := by
      by_contra hx
      simp only [isSpace, Bool.or_eq_true, beq_iff_eq, Bool.not_eq_false] at hx
      rcases hx with rfl | rfl <;> simp [escape?] at names
    simp [Quoted.lines?, hu, hU, hn, hs, names]
  | coded w x y z codes => simp [Quoted.lines?, codes]

/-! ### One line -/

theorem basic?_escaped (cs rest : List Char) : basic? (cs.flatMap escaped ++ '"' :: rest) = some (cs, rest) := by
  induction cs with
  | nil => simp [basic?]
  | cons c cs ih =>
    rw [List.flatMap_cons, List.append_assoc, (shows_escaped c).basic?, ih]
    rfl

theorem literal?_append {cs : List Char} (text : ∀ c ∈ cs, isText c = true) (quote : '\'' ∉ cs) (rest : List Char) :
    literal? (cs ++ '\'' :: rest) = some (cs, rest) := by
  induction cs with
  | nil => simp [literal?]
  | cons c cs ih =>
    simp only [List.mem_cons, not_or, forall_eq_or_imp] at text quote
    simp [literal?, Ne.symm quote.1, textChar?, text.1, ih text.2 quote.2, before]

/-! ### Several lines with escapes -/

theorem lines?_quote {t : List Char} (h : ∀ u, t ≠ '"' :: '"' :: u) :
    lines? .inText ('"' :: t) = before (some '"') (lines? .inText t) := by
  simp [lines?, h, lineChar?_of_isText (show isText '"' = true from rfl)]

/-- Up to two quotes right before the closing ones are read as part of the string. -/
theorem lines?_closing {rest : List Char} (h : rest.head? ≠ some '"') {cs : List Char}
    (short : cs = [] ∨ cs = ['"'] ∨ cs = ['"', '"']) :
    lines? .inText (cs ++ '"' :: '"' :: '"' :: rest) = some (cs, rest) := by
  -- A row of four and a row of five are other cases of the reader.
  have h1 : ∀ u, rest ≠ '"' :: u := fun u hu => h (by rw [hu]; rfl)
  have h2 : ∀ u, rest ≠ '"' :: '"' :: u := fun u => h1 _
  rcases short with rfl | rfl | rfl <;> simp [lines?]

theorem Shows.head {c : Char} {cs : List Char} (h : Shows c cs) :
    ∃ d ds, cs = d :: ds ∧ d ≠ '"' ∧ (d = '\n' → c = '\n') := by
  cases h with
  | plain text quote backslash => exact ⟨c, [], rfl, quote, id⟩
  | named x names => exact ⟨'\\', [x], rfl, by decide, fun h => absurd h (by decide)⟩
  | coded w x y z codes => exact ⟨'\\', ['u', w, x, y, z], rfl, by decide, fun h => absurd h (by decide)⟩

/-- Where a quote stands in written lines, the string has one, and less than two are before it. -/
theorem escapedLines_eq_quote {quotes : Nat} {c : Char} {cs t u : List Char}
    (h : escapedLines quotes (c :: cs) ++ t = '"' :: u) :
    (c = '"' ∧ quotes < 2) ∧ escapedLines (quotes + 1) cs ++ t = u := by
  unfold escapedLines at h
  split_ifs at h with hn hq
  · exact absurd (List.cons.inj h).1 (by rw [hn]; decide)
  · exact ⟨hq, (List.cons.inj h).2⟩
  · obtain ⟨d, ds, hd, hne, -⟩ := (shows_escaped c).head
    rw [hd] at h
    exact absurd (List.cons.inj h).1 hne

theorem lines?_escapedLines (quotes : Nat) (cs : List Char) {rest : List Char} (h : rest.head? ≠ some '"') :
    lines? .inText (escapedLines quotes cs ++ '"' :: '"' :: '"' :: rest) = some (cs, rest) := by
  induction cs generalizing quotes with
  | nil => exact lines?_closing h (.inl rfl)
  | cons c cs ih =>
    unfold escapedLines
    split_ifs with hn hq
    · simp [lines?, hn, lineChar?, ih 0, before]
    · obtain ⟨rfl, hq⟩ := hq
      by_cases ht : ∃ u, escapedLines (quotes + 1) cs ++ '"' :: '"' :: '"' :: rest = '"' :: '"' :: u
      · -- Two more quotes follow: they belong to the closing ones, maybe after one of the string.
        obtain ⟨u, hu⟩ := ht
        cases cs with
        | nil => exact lines?_closing h (.inr (.inl rfl))
        | cons d ds =>
          obtain ⟨⟨rfl, hd⟩, hv⟩ := escapedLines_eq_quote hu
          cases ds with
          | nil =>
            have hz : escapedLines (quotes + 1) ['"'] = ['"'] := by simp [escapedLines, hd]
            rw [hz]
            exact lines?_closing h (.inr (.inr rfl))
          | cons e es =>
            have := (escapedLines_eq_quote hv).1.2
            omega
      · rw [List.cons_append, lines?_quote (fun u hu => ht ⟨u, hu⟩), ih]
        rfl
    · rw [List.append_assoc, (shows_escaped c).lines?, ih]
      rfl

/-! ### Several lines as they are -/

theorem literalLines?_quote {t : List Char} (h : ∀ u, t ≠ '\'' :: '\'' :: u) :
    literalLines? ('\'' :: t) = before (some '\'') (literalLines? t) := by
  simp [literalLines?, h, lineChar?_of_isText (show isText '\'' = true from rfl)]

theorem literalLines?_closing {rest : List Char} (h : rest.head? ≠ some '\'') {cs : List Char}
    (short : cs = [] ∨ cs = ['\''] ∨ cs = ['\'', '\'']) :
    literalLines? (cs ++ '\'' :: '\'' :: '\'' :: rest) = some (cs, rest) := by
  have h1 : ∀ u, rest ≠ '\'' :: u := fun u hu => h (by rw [hu]; rfl)
  have h2 : ∀ u, rest ≠ '\'' :: '\'' :: u := fun u => h1 _
  rcases short with rfl | rfl | rfl <;> simp [literalLines?]

theorem literalLines?_append {cs : List Char} (shown : ∀ c ∈ cs, lineChar? c = some c)
    (rows : ∀ pre post, cs ≠ pre ++ '\'' :: '\'' :: '\'' :: post) {rest : List Char} (h : rest.head? ≠ some '\'') :
    literalLines? (cs ++ '\'' :: '\'' :: '\'' :: rest) = some (cs, rest) := by
  induction cs with
  | nil => exact literalLines?_closing h (.inl rfl)
  | cons c cs ih =>
    simp only [List.mem_cons, forall_eq_or_imp] at shown
    have ih := ih shown.2 fun pre post hcs => rows (c :: pre) post (by rw [hcs]; rfl)
    by_cases hc : c = '\''
    · subst hc
      by_cases ht : ∃ u, cs ++ '\'' :: '\'' :: '\'' :: rest = '\'' :: '\'' :: u
      · obtain ⟨u, hu⟩ := ht
        rcases cs with - | ⟨d, - | ⟨e, es⟩⟩
        · exact literalLines?_closing h (.inr (.inl rfl))
        · obtain ⟨rfl, -⟩ := List.cons.inj hu
          exact literalLines?_closing h (.inr (.inr rfl))
        · obtain ⟨rfl, htail⟩ := List.cons.inj hu
          exact absurd (by rw [(List.cons.inj htail).1]; rfl) (rows [] es)
      · rw [List.cons_append, literalLines?_quote fun u hu => ht ⟨u, hu⟩, ih]
        rfl
    · rw [List.cons_append, literalLines?]
      · rw [ih, shown.1]
        rfl
      all_goals simp [hc]

/-! ### Rows of one character -/

/-- One character counted: how long the row is that it ends, and the longest row so far. -/
def rowStep (c : Char) (s : Nat × Nat) (x : Char) : Nat × Nat :=
  if x = c then (s.1 + 1, max s.2 (s.1 + 1)) else (0, s.2)

theorem longestRow_eq (c : Char) (cs : List Char) : longestRow c cs = (cs.foldl (rowStep c) (0, 0)).2 := rfl

theorem foldl_rowStep_le (c : Char) {s : Nat × Nat} (h : s.1 ≤ s.2) (cs : List Char) :
    (cs.foldl (rowStep c) s).1 ≤ (cs.foldl (rowStep c) s).2 ∧ s.2 ≤ (cs.foldl (rowStep c) s).2 := by
  induction cs generalizing s with
  | nil => exact ⟨h, Nat.le_refl _⟩
  | cons x cs ih =>
    have hs : (rowStep c s x).1 ≤ (rowStep c s x).2 ∧ s.2 ≤ (rowStep c s x).2 := by
      unfold rowStep
      split_ifs <;> simp only [Nat.zero_le, true_and] <;> omega
    exact ⟨(ih hs.1).1, Nat.le_trans hs.2 (ih hs.1).2⟩

theorem foldl_rowStep_replicate (c : Char) (n : Nat) (s : Nat × Nat) :
    ((List.replicate n c).foldl (rowStep c) s).1 = s.1 + n := by
  induction n generalizing s with
  | zero => rfl
  | succ n ih =>
    rw [List.replicate_succ, List.foldl_cons, ih, rowStep, if_pos rfl]
    omega

theorem le_longestRow (c : Char) (n : Nat) (pre post : List Char) :
    n ≤ longestRow c (pre ++ (List.replicate n c ++ post)) := by
  rw [longestRow_eq, List.foldl_append, List.foldl_append]
  have hpre := foldl_rowStep_le c (show (0, 0).1 ≤ (0, 0).2 from Nat.le_refl 0) pre
  have hrow := foldl_rowStep_le c hpre.1 (List.replicate n c)
  have hpost := foldl_rowStep_le c hrow.1 post
  rw [foldl_rowStep_replicate] at hrow
  exact Nat.le_trans (Nat.le_trans (Nat.le_add_left _ _) hrow.1) hpost.2

theorem not_mem_of_longestRow {c : Char} {cs : List Char} (h : longestRow c cs = 0) : c ∉ cs := by
  intro hc
  obtain ⟨pre, post, rfl⟩ := List.append_of_mem hc
  have := le_longestRow c 1 pre post
  rw [List.replicate_one, List.singleton_append, h] at this
  omega

/-! ### Any style -/

theorem isText_of_mem {cs : List Char} (control : cs.any isControl = false) {c : Char} (hc : c ∈ cs) :
    isText c = true ∨ c = '\n' := by
  by_cases newline : c = '\n'
  · exact .inr newline
  · rw [List.any_eq_false] at control
    exact .inl (isText_of_not_isControl (by simpa using control c hc) newline)

theorem dropLineEnd_opening {cs shown : List Char} (h : '\n' ∉ cs → shown.head? ≠ some '\n') :
    dropLineEnd (opening cs ++ shown) = shown := by
  unfold opening
  split_ifs with newline
  · rfl
  · have h := h (by simpa using newline)
    cases shown with
    | nil => rfl
    | cons c shown =>
      have hc : c ≠ '\n' := fun hc => h (by rw [hc]; rfl)
      simp [dropLineEnd, hc]

theorem head?_escapedLines {cs : List Char} (h : '\n' ∉ cs) (rest : List Char) :
    (escapedLines 0 cs ++ '"' :: rest).head? ≠ some '\n' := by
  cases cs with
  | nil => simp [escapedLines]
  | cons c cs =>
    have hc : c ≠ '\n' := fun hc => h (by simp [hc])
    unfold escapedLines
    rw [if_neg hc]
    split_ifs with hq
    · simp [hc]
    · obtain ⟨d, ds, hd, -, hnew⟩ := (shows_escaped c).head
      rw [hd]
      simpa using fun hdn => hc (hnew hdn)

section Read

variable (cs : List Char) {rest : List Char}

theorem read?_basic (h : rest.head? ≠ some '"') :
    read? ('"' :: cs.flatMap escaped ++ ['"'] ++ rest) = some (cs, rest) := by
  have hopen : ∀ u, cs.flatMap escaped ++ '"' :: rest ≠ '"' :: '"' :: u := by
    intro u hu
    cases cs with
    | nil => exact h (by rw [(List.cons.inj hu).2]; rfl)
    | cons c cs =>
      obtain ⟨d, ds, hd, hne, -⟩ := (shows_escaped c).head
      rw [List.flatMap_cons, hd] at hu
      exact hne (List.cons.inj hu).1
  rw [List.append_assoc, List.cons_append, List.singleton_append, read?]
  · exact basic?_escaped cs rest
  · exact hopen

theorem read?_literal (hne : cs ≠ []) (shown : ∀ c ∈ cs, isText c = true) (quote : '\'' ∉ cs) :
    read? ('\'' :: cs ++ ['\''] ++ rest) = some (cs, rest) := by
  have hopen : ∀ u, cs ++ '\'' :: rest ≠ '\'' :: '\'' :: u := by
    intro u hu
    cases cs with
    | nil => exact hne rfl
    | cons c cs => exact quote (by rw [(List.cons.inj hu).1]; exact List.mem_cons_self)
  rw [List.append_assoc, List.cons_append, List.singleton_append, read?]
  · exact literal?_append shown quote rest
  · exact hopen

theorem read?_lines (h : rest.head? ≠ some '"') :
    read? (['"', '"', '"'] ++ opening cs ++ escapedLines 0 cs ++ ['"', '"', '"'] ++ rest) = some (cs, rest) := by
  have hopen : dropLineEnd (opening cs ++ (escapedLines 0 cs ++ '"' :: '"' :: '"' :: rest)) =
      escapedLines 0 cs ++ '"' :: '"' :: '"' :: rest := dropLineEnd_opening fun hn => head?_escapedLines hn _
  simp only [List.append_assoc, List.cons_append, List.nil_append, read?]
  rw [hopen]
  exact lines?_escapedLines 0 cs h

theorem read?_literalLines (h : rest.head? ≠ some '\'') (control : cs.any isControl = false)
    (short : longestRow '\'' cs ≤ 2) :
    read? (['\'', '\'', '\''] ++ opening cs ++ cs ++ ['\'', '\'', '\''] ++ rest) = some (cs, rest) := by
  have shown : ∀ c ∈ cs, lineChar? c = some c := fun c hc => by
    rcases isText_of_mem control hc with text | rfl
    · exact lineChar?_of_isText text
    · rfl
  have rows : ∀ pre post, cs ≠ pre ++ '\'' :: '\'' :: '\'' :: post := fun pre post hcs => by
    have hrow := le_longestRow '\'' 3 pre post
    rw [show pre ++ (List.replicate 3 '\'' ++ post) = cs from hcs.symm] at hrow
    omega
  have hopen : dropLineEnd (opening cs ++ (cs ++ '\'' :: '\'' :: '\'' :: rest)) =
      cs ++ '\'' :: '\'' :: '\'' :: rest := dropLineEnd_opening fun hn => by
    cases cs with
    | nil => simp
    | cons c cs => simpa using fun hc : c = '\n' => hn (by rw [hc]; exact List.mem_cons_self)
  simp only [List.append_assoc, List.cons_append, List.nil_append, read?]
  rw [hopen]
  exact literalLines?_append shown rows h

end Read

theorem of_styleOf_literal {cs : List Char} (h : styleOf cs = .literal) :
    cs ≠ [] ∧ (∀ c ∈ cs, isText c = true) ∧ '\'' ∉ cs := by
  simp only [styleOf] at h
  split_ifs at h with hbasic hliteral
  obtain ⟨control, newline, row⟩ := hliteral
  refine ⟨fun hcs => hbasic (by rw [hcs]; decide), fun c hc => ?_, not_mem_of_longestRow row⟩
  rcases isText_of_mem (by simpa using control) hc with text | rfl
  · exact text
  · simp [hc] at newline

theorem of_styleOf_literalLines {cs : List Char} (h : styleOf cs = .literalLines) :
    cs.any isControl = false ∧ longestRow '\'' cs ≤ 2 := by
  simp only [styleOf] at h
  split_ifs at h with hbasic hliteral hlines hliteralLines
  exact ⟨by simpa using hliteralLines.1, hliteralLines.2⟩

/-- A string is read back, whatever comes after its closing quotes but another quote. -/
theorem read?_write (cs rest : List Char) (hdouble : rest.head? ≠ some '"')
    (hsingle : rest.head? ≠ some '\'') : read? (write cs ++ rest) = some (cs, rest) := by
  unfold write
  cases style : styleOf cs with
  | basic => exact read?_basic cs hdouble
  | literal =>
    obtain ⟨hne, shown, quote⟩ := of_styleOf_literal style
    exact read?_literal cs hne shown quote
  | lines => exact read?_lines cs hdouble
  | literalLines =>
    obtain ⟨control, short⟩ := of_styleOf_literalLines style
    exact read?_literalLines cs hsingle control short

/-! ### What is never written -/

theorem Shows.no_return {c : Char} {cs : List Char} (h : Shows c cs) : '\r' ∉ cs := by
  have hdigit : Bytes.hexValue? '\r' = none := rfl
  cases h with
  | plain text quote backslash =>
    intro h
    rw [← List.mem_singleton.mp h] at text
    exact absurd text (by decide)
  | named x names =>
    intro h
    have hx : x = '\r' := by simpa [eq_comm] using h
    simp [hx, escape?] at names
  | coded w x y z codes =>
    simp only [codePoint?, List.foldlM_cons, List.foldlM_nil, Option.bind_eq_bind, Option.bind_eq_some_iff,
      Option.map_eq_some_iff] at codes
    obtain ⟨_, ⟨_, ⟨_, hw, -⟩, _, ⟨_, hx, -⟩, _, ⟨_, hy, -⟩, _, ⟨_, hz, -⟩, -⟩, -⟩ := codes
    intro h
    rcases (by simpa using h : '\r' = w ∨ '\r' = x ∨ '\r' = y ∨ '\r' = z) with rfl | rfl | rfl | rfl <;>
      simp_all

theorem no_return_escapedLines (quotes : Nat) (cs : List Char) : '\r' ∉ escapedLines quotes cs := by
  induction cs generalizing quotes with
  | nil => simp [escapedLines]
  | cons c cs ih =>
    unfold escapedLines
    split_ifs with hn hq
    · simp [hn, ih]
    · simp [hq, ih]
    · simp [ih, (shows_escaped c).no_return]

theorem no_return_of_isText {cs : List Char} (shown : ∀ c ∈ cs, isText c = true ∨ c = '\n') : '\r' ∉ cs := by
  intro h
  rcases shown _ h with text | newline
  · exact absurd text (by decide)
  · exact absurd newline (by decide)

/-- Carriage returns are always escaped. -/
theorem no_return_write (cs : List Char) : '\r' ∉ write cs := by
  have hopening : '\r' ∉ opening cs := by
    unfold opening
    split_ifs <;> simp
  unfold write
  cases style : styleOf cs with
  | basic => simpa using fun c _ => (shows_escaped c).no_return
  | literal => simpa using no_return_of_isText fun c hc => .inl ((of_styleOf_literal style).2.1 c hc)
  | lines => simpa using ⟨hopening, no_return_escapedLines 0 cs⟩
  | literalLines =>
    simpa using ⟨hopening, no_return_of_isText fun c hc => isText_of_mem (of_styleOf_literalLines style).1 hc⟩

/-- A written string starts with a quote of its notation. -/
theorem head_write (cs : List Char) : ∃ c ds, write cs = c :: ds ∧ (c = '"' ∨ c = '\'') := by
  unfold write
  cases styleOf cs
  · exact ⟨_, _, rfl, .inl rfl⟩
  · exact ⟨_, _, rfl, .inr rfl⟩
  · exact ⟨_, _, rfl, .inl rfl⟩
  · exact ⟨_, _, rfl, .inr rfl⟩

end RadioMesh.Toml.Quoted
