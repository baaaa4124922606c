import Mathlib.Data.List.Forall2
import RadioMesh.Proofs.Toml.Quoted
import RadioMesh.Proofs.Toml.Token
import RadioMesh.Toml.Block
import RadioMesh.Toml.Document

/-!
Blocks are read back as statements, one for each of their lines. What a line holds is read up to its end, so
lines are read one after another, and the empty lines between blocks are passed over.
-/

namespace RadioMesh.Toml

open Statement

/-! ### What is written and what it stands for -/

/-- A name that needs no quotes. -/
def isBareName (name : String) : Bool :=
  !name.toList.isEmpty && name.toList.all isBare

def Plain.meant : Plain → Value
  | .text s => .string s
  | .number n => .integer n
  | .truth b => .boolean b

@[simp] theorem Plain.meant_text (s : String) : (Plain.text s).meant = .string s := rfl

@[simp] theorem Plain.meant_number (n : Nat) : (Plain.number n).meant = .integer n := rfl

@[simp] theorem Plain.meant_truth (b : Bool) : (Plain.truth b).meant = .boolean b := rfl

/-- Numbers of a document have 63 bits and a sign. -/
def Plain.Fits : Plain → Prop
  | .number n => (n : Int) ≤ Int64.maxValue.toInt
  | _ => True

def Heading.path : Heading → List String
  | .table path => path
  | .element path => path

def Heading.statement : Heading → Statement
  | .table path => .table path.dropLast (path.getLastD "")
  | .element path => .element path.dropLast (path.getLastD "")

def Block.statements (b : Block) : List Statement :=
  b.heading.statement :: b.settings.map fun s => .assign [] s.1 s.2.meant

/-- A block that can be read back. -/
structure Block.Sound (b : Block) : Prop where
  named : b.heading.path ≠ []
  shallow : b.heading.path.length ≤ maxDepth
  bare : ∀ name ∈ b.heading.path, isBareName name = true
  settings : ∀ s ∈ b.settings, isBareName s.1 = true ∧ s.2.Fits

def Heading.line : Heading → List Char
  | .table path => '[' :: (String.intercalate "." path).toList ++ [']']
  | .element path => '[' :: '[' :: (String.intercalate "." path).toList ++ [']', ']']

def settingLine (s : String × Plain) : List Char :=
  s.1.toList ++ ' ' :: '=' :: ' ' :: s.2.write.toList

def Block.lines (b : Block) : List (List Char) :=
  b.heading.line :: b.settings.map settingLine

theorem Block.toList_write (b : Block) : b.write.toList = b.lines.flatMap (· ++ ['\n']) := by
  have hheading : b.heading.write.toList = b.heading.line ++ ['\n'] := by
    cases h : b.heading <;> simp [Heading.write, Heading.line]
  simp [Block.write, Block.lines, hheading, List.flatMap_map, settingLine, String.toList_join]

namespace Statement

/-! ### Keys -/

theorem bare_of_isBareName {name : String} (h : isBareName name = true) : ∀ c ∈ name.toList, isBare c = true :=
  List.all_eq_true.mp (Bool.and_eq_true_iff.mp h).2

theorem exists_of_isBareName {name : String} (h : isBareName name = true) :
    ∃ c cs, name.toList = c :: cs ∧ isBare c = true := by
  have bare := bare_of_isBareName h
  cases hcs : name.toList with
  | nil => simp [isBareName, hcs] at h
  | cons c cs => exact ⟨c, cs, rfl, bare c (by simp [hcs])⟩

theorem ne_of_isBare {c x : Char} (hc : isBare c = true) (hx : isBare x = false) : c ≠ x := by
  rintro rfl
  rw [hc] at hx
  exact absurd hx (by decide)

theorem isSpace_of_isBare {c : Char} (h : isBare c = true) : Quoted.isSpace c = false := by
  simp [Quoted.isSpace, ne_of_isBare h (x := ' ') rfl, ne_of_isBare h (x := '\t') rfl]

theorem skipSpace_bare {name : String} (h : isBareName name = true) (rest : List Char) :
    skipSpace (name.toList ++ rest) = name.toList ++ rest := by
  obtain ⟨c, cs, hcs, hc⟩ := exists_of_isBareName h
  simp [skipSpace, hcs, isSpace_of_isBare hc]

theorem key?_bare {name : String} (h : isBareName name = true) {x : Char} (hx : isBare x = false) (rest : List Char) :
    key? (name.toList ++ x :: rest) = some (name.toList, x :: rest) := by
  have hspan := Text.span_append_cons (bare_of_isBareName h) hx rest
  obtain ⟨c, cs, hcs, hc⟩ := exists_of_isBareName h
  rw [hcs] at hspan ⊢
  have hdouble : c ≠ '"' := ne_of_isBare hc rfl
  have hsingle : c ≠ '\'' := ne_of_isBare hc rfl
  rw [key?]
  · rw [hspan]
    simp
  · simpa using hdouble
  · simpa using hsingle

/-- Bare names with dots between them are read up to where another character stands, and blanks behind them are
passed over. -/
theorem path?_names {path : List String} {name : String} (hpath : ∀ k ∈ path, isBareName k = true)
    (hname : isBareName name = true) {room : Nat} (hroom : path.length < room) {x : Char} (hx : isBare x = false)
    {rest tail : List Char} {y : Char} (hrest : skipSpace (x :: rest) = y :: tail) (hy : y ≠ '.') :
    path? room ((String.intercalate "." (path ++ [name])).toList ++ x :: rest) = some ((path, name), y :: tail) := by
  induction path generalizing room with
  | nil =>
    obtain ⟨room, rfl⟩ := Nat.exists_eq_add_one.mpr hroom
    simp [path?, skipSpace_bare hname, key?_bare hname hx, hrest, hy]
  | cons k path ih =>
    simp only [List.mem_cons, forall_eq_or_imp] at hpath
    obtain ⟨room, rfl⟩ := Nat.exists_eq_add_one.mpr (Nat.zero_lt_of_lt hroom)
    have ih := ih hpath.2 (by simpa using hroom)
    have hdot : isBare '.' = false := rfl
    have hskip (t : List Char) : skipSpace ('.' :: t) = '.' :: t := rfl
    rw [List.cons_append, String.intercalate_cons_of_ne_nil (by simp)]
    simp only [String.toList_append, List.append_assoc, show ".".toList = ['.'] from rfl, List.singleton_append]
    simp [path?, skipSpace_bare hpath.1, key?_bare hpath.1 hdot, hskip, ih, -String.toList_intercalate]

/-! ### Values -/

theorem value?_token (depth : Nat) {c : Char} (hc : c.isAlphanum = true) (cs : List Char) :
    value? depth (c :: cs) = Token.read? (c :: cs) := by
  have hne : ∀ x : Char, x.isAlphanum = false → c ≠ x := fun x hx h => by
    rw [← h, hc] at hx
    exact absurd hx (by decide)
  unfold value?
  simp [hne '"' rfl, hne '\'' rfl, hne '[' rfl, hne '\x7b' rfl]

theorem value?_quoted (depth : Nat) {c : Char} (hc : c = '"' ∨ c = '\'') (cs : List Char) :
    value? depth (c :: cs) = (Quoted.read? (c :: cs)).map fun taken => (.string (String.ofList taken.1), taken.2) := by
  unfold value?
  rcases hc with rfl | rfl <;> rfl

theorem exists_number (n : Nat) : ∃ d ds, (toString n).toList = d :: ds ∧ d.isAlphanum = true := by
  obtain ⟨d, ds, hds⟩ := List.exists_cons_of_ne_nil (Nat.toDigits_ne_nil (b := 10) (n := n))
  have hd : d.isDigit = true := Text.digits_toDigits n d (by simp [hds])
  exact ⟨d, ds, by rw [Nat.toString_eq_ofList_toDigits, String.toList_ofList, hds], by simp [Char.isAlphanum, hd]⟩

theorem exists_truth (b : Bool) : ∃ c cs, (toString b).toList = c :: cs ∧ c.isAlphanum = true := by
  cases b
  · exact ⟨'f', ['a', 'l', 's', 'e'], rfl, rfl⟩
  · exact ⟨'t', ['r', 'u', 'e'], rfl, rfl⟩

theorem value?_write {v : Plain} (h : v.Fits) (depth : Nat) (rest : List Char) :
    value? depth (v.write.toList ++ '\n' :: rest) = some (v.meant, '\n' :: rest) := by
  cases v with
  | text s =>
    have hread := Quoted.read?_write s.toList ('\n' :: rest) (by simp) (by simp)
    obtain ⟨c, cs, hcs, hc⟩ := Quoted.head_write s.toList
    rw [hcs] at hread
    rw [Plain.write, String.toList_ofList, hcs, List.cons_append, value?_quoted depth hc, ← List.cons_append, hread]
    simp
  | number n =>
    have hread := Token.read?_number h rest
    obtain ⟨d, ds, hds, hd⟩ := exists_number n
    rw [hds] at hread
    rw [Plain.write, hds]
    exact (value?_token depth hd _).trans hread
  | truth b =>
    have hread := Token.read?_truth b rest
    obtain ⟨c, cs, hcs, hc⟩ := exists_truth b
    rw [hcs] at hread
    rw [Plain.write, hcs]
    exact (value?_token depth hc _).trans hread

theorem skipSpace_write (v : Plain) (rest : List Char) :
    skipSpace (v.write.toList ++ rest) = v.write.toList ++ rest := by
  have hskip {c : Char} (hc : c.isAlphanum = true ∨ c = '"' ∨ c = '\'') (cs : List Char) :
      skipSpace (c :: cs) = c :: cs := by
    have hspace : Quoted.isSpace c = false := by
      rcases hc with hc | rfl | rfl
      · exact isSpace_of_isBare (by simp [isBare, hc])
      · rfl
      · rfl
    simp [skipSpace, hspace]
  cases v with
  | text s =>
    obtain ⟨c, cs, hcs, hc⟩ := Quoted.head_write s.toList
    rw [Plain.write, String.toList_ofList, hcs, List.cons_append, hskip (.inr hc)]
  | number n =>
    obtain ⟨d, ds, hds, hd⟩ := exists_number n
    rw [Plain.write, hds, List.cons_append, hskip (.inl hd)]
  | truth b =>
    obtain ⟨c, cs, hcs, hc⟩ := exists_truth b
    rw [Plain.write, hcs, List.cons_append, hskip (.inl hc)]

/-! ### Lines -/

/-- A line of text that is read as a statement. -/
structure Line (cs : List Char) (s : Statement) : Prop where
  starts : ∃ c t, cs = c :: t ∧ (isBare c = true ∨ c = '[')
  reads : ∀ rest, read? (cs ++ '\n' :: rest) = some (s, '\n' :: rest)

theorem read?_assignment {c : Char} (hc : c ≠ '[') (cs : List Char) :
    read? (c :: cs) = (assignment? (value? maxDepth) (c :: cs)).map fun a => (.assign a.1.1 a.1.2.1 a.1.2.2, a.2) := by
  unfold read?
  simp [hc]

theorem line_setting {s : String × Plain} (bare : isBareName s.1 = true) (fits : s.2.Fits) :
    Line (settingLine s) (.assign [] s.1 s.2.meant) := by
  obtain ⟨c, cs, hcs, hc⟩ := exists_of_isBareName bare
  refine ⟨⟨c, _, by rw [settingLine, hcs]; rfl, .inl hc⟩, fun rest => ?_⟩
  have hpath : path? maxDepth ((String.intercalate "." ([] ++ [s.1])).toList ++
      ' ' :: '=' :: ' ' :: (s.2.write.toList ++ '\n' :: rest)) =
      some (([], s.1), '=' :: ' ' :: (s.2.write.toList ++ '\n' :: rest)) :=
    path?_names (by simp) bare (by decide) rfl rfl (by decide)
  rw [List.nil_append, String.intercalate_singleton] at hpath
  have hshape : settingLine s ++ '\n' :: rest =
      s.1.toList ++ ' ' :: '=' :: ' ' :: (s.2.write.toList ++ '\n' :: rest) := by
    simp [settingLine]
  have hvalue : skipSpace (' ' :: (s.2.write.toList ++ '\n' :: rest)) = s.2.write.toList ++ '\n' :: rest :=
    skipSpace_write s.2 _
  have hread : assignment? (value? maxDepth) (settingLine s ++ '\n' :: rest) =
      some (([], s.1, s.2.meant), '\n' :: rest) := by
    rw [hshape, assignment?, hpath]
    simp [after?, hvalue, value?_write fits]
  rw [hshape, hcs, List.cons_append, read?_assignment (ne_of_isBare hc rfl), ← List.cons_append, ← hcs, ← hshape, hread]
  rfl

theorem read?_table {c : Char} (hc : c ≠ '[') (cs : List Char) :
    read? ('[' :: c :: cs) = header? .table [']'] (c :: cs) := by
  unfold read?
  simp [hc]

theorem exists_of_names {path : List String} {name : String} (hpath : ∀ k ∈ path, isBareName k = true)
    (hname : isBareName name = true) :
    ∃ c cs, (String.intercalate "." (path ++ [name])).toList = c :: cs ∧ isBare c = true := by
  cases path with
  | nil => simpa using exists_of_isBareName hname
  | cons k path =>
    obtain ⟨c, cs, hcs, hc⟩ := exists_of_isBareName (hpath k List.mem_cons_self)
    rw [List.cons_append, String.intercalate_cons_of_ne_nil (by simp), String.toList_append, String.toList_append, hcs]
    exact ⟨c, _, rfl, hc⟩

theorem line_heading {h : Heading} (named : h.path ≠ []) (shallow : h.path.length ≤ maxDepth)
    (bare : ∀ name ∈ h.path, isBareName name = true) : Line h.line h.statement := by
  obtain hnil | ⟨ks, k, hks⟩ := List.eq_nil_or_concat' h.path
  · exact absurd hnil named
  rw [hks] at bare shallow
  have hbare : ∀ name ∈ ks, isBareName name = true := fun name hname => bare name (by simp [hname])
  have hroom : ks.length < maxDepth := by
    rw [List.length_append, List.length_singleton] at shallow
    omega
  have hpath (rest : List Char) :
      path? maxDepth ((String.intercalate "." (ks ++ [k])).toList ++ ']' :: rest) = some ((ks, k), ']' :: rest) :=
    path?_names hbare (bare k (by simp)) hroom rfl rfl (by decide)
  cases h with
  | table path =>
    obtain rfl : path = ks ++ [k] := hks
    refine ⟨⟨'[', _, rfl, .inr rfl⟩, fun rest => ?_⟩
    obtain ⟨c, cs, hcs, hc⟩ := exists_of_names hbare (bare k (by simp))
    have hshape : (Heading.table (ks ++ [k])).line ++ '\n' :: rest =
        '[' :: ((String.intercalate "." (ks ++ [k])).toList ++ ']' :: '\n' :: rest) := by
      simp [Heading.line]
    rw [hshape, hcs, List.cons_append, read?_table (ne_of_isBare hc rfl), ← List.cons_append, ← hcs, header?, hpath]
    simp [Heading.statement, after?]
  | element path =>
    obtain rfl : path = ks ++ [k] := hks
    refine ⟨⟨'[', _, rfl, .inr rfl⟩, fun rest => ?_⟩
    simp [Heading.line, Heading.statement, read?, header?, hpath, after?, -String.toList_intercalate]

/-! ### Texts -/

theorem skipFiller_line {cs : List Char} {s : Statement} (h : Line cs s) (rest : List Char) :
    skipFiller false (cs ++ rest) = cs ++ rest := by
  obtain ⟨c, t, rfl, hc⟩ := h.starts
  rcases hc with hc | rfl
  · simp [skipFiller, isSpace_of_isBare hc, ne_of_isBare hc (x := '\n') rfl, ne_of_isBare hc (x := '#') rfl]
  · rfl

theorem readAll?_line {cs : List Char} {s : Statement} (h : Line cs s) (fuel : Nat) (rest : List Char) :
    readAll? (fuel + 1) (cs ++ '\n' :: rest) = (readAll? fuel rest).map (s :: ·) := by
  have hskip := skipFiller_line h ('\n' :: rest)
  have hread := h.reads rest
  obtain ⟨c, t, rfl, -⟩ := h.starts
  rw [List.cons_append] at hskip hread ⊢
  rw [readAll?, hskip]
  have hafter : afterLine? ('\n' :: rest) = some rest := rfl
  simp only [hread, hafter, Option.bind_eq_bind, Option.bind_some, Option.pure_def]
  cases readAll? fuel rest <;> rfl

theorem readAll?_newline (fuel : Nat) (rest : List Char) :
    readAll? (fuel + 1) ('\n' :: rest) = readAll? (fuel + 1) rest := by
  have hskip : skipFiller false ('\n' :: rest) = skipFiller false rest := by simp [skipFiller]
  rw [readAll?, readAll?, hskip]

theorem readAll?_lines {lines : List (List Char)} {ss : List Statement} (h : List.Forall₂ Line lines ss) (fuel : Nat)
    (rest : List Char) :
    readAll? (fuel + ss.length) (lines.flatMap (· ++ ['\n']) ++ rest) = (readAll? fuel rest).map (ss ++ ·) := by
  induction h with
  | nil => simp
  | @cons cs s lines ss hline _ ih =>
    have hshape : (cs :: lines).flatMap (· ++ ['\n']) ++ rest =
        cs ++ '\n' :: (lines.flatMap (· ++ ['\n']) ++ rest) := by
      simp
    rw [hshape, List.length_cons, ← Nat.add_assoc, readAll?_line hline, ih, Option.map_map]
    rfl

end Statement

theorem Block.Sound.lines {b : Block} (h : b.Sound) : List.Forall₂ Line b.lines b.statements := by
  refine .cons (line_heading h.named h.shallow h.bare) ?_
  rw [List.forall₂_map_left_iff, List.forall₂_map_right_iff]
  exact List.forall₂_same.mpr fun s hs => line_setting (h.settings s hs).1 (h.settings s hs).2

theorem Block.length_statements_le (b : Block) : b.statements.length ≤ b.write.toList.length := by
  have hcount : b.statements.length = b.lines.length := by simp [Block.statements, Block.lines]
  have hlines (lines : List (List Char)) : lines.length ≤ (lines.flatMap (· ++ ['\n'])).length := by
    induction lines with
    | nil => exact Nat.le_refl _
    | cons cs lines ih =>
      simp only [List.flatMap_cons, List.length_append, List.length_cons, List.length_nil] at ih ⊢
      omega
  rw [b.toList_write, hcount]
  exact hlines b.lines

theorem readAll?_block {b : Block} (h : b.Sound) (fuel : Nat) (rest : List Char) :
    readAll? (fuel + b.statements.length) (b.write.toList ++ rest) = (readAll? fuel rest).map (b.statements ++ ·) := by
  rw [b.toList_write]
  exact readAll?_lines h.lines fuel rest

theorem toList_write_singleton (b : Block) : (write [b]).toList = b.write.toList := by
  simp [write]

theorem toList_write_cons (b d : Block) (blocks : List Block) :
    (write (b :: d :: blocks)).toList = b.write.toList ++ '\n' :: (write (d :: blocks)).toList := by
  simp [write]

/-- Blocks are read back as their statements, one after another. -/
theorem readAll?_write {blocks : List Block} (h : ∀ b ∈ blocks, b.Sound) {fuel : Nat}
    (hfuel : (write blocks).toList.length < fuel) :
    readAll? fuel (write blocks).toList = some (blocks.flatMap Block.statements) := by
  have hend (left : Nat) : readAll? (left + 1) [] = some [] := rfl
  induction blocks generalizing fuel with
  | nil =>
    obtain ⟨left, rfl⟩ := Nat.exists_eq_add_one.mpr (Nat.zero_lt_of_lt hfuel)
    exact hend left
  | cons b blocks ih =>
    simp only [List.mem_cons, forall_eq_or_imp] at h
    have hcount := b.length_statements_le
    cases blocks with
    | nil =>
      rw [toList_write_singleton] at hfuel ⊢
      obtain ⟨left, rfl⟩ := Nat.exists_eq_add_of_le' (show b.statements.length + 1 ≤ fuel by omega)
      have hblock := readAll?_block h.1 (left + 1) []
      rw [List.append_nil, hend] at hblock
      rw [show left + (b.statements.length + 1) = left + 1 + b.statements.length by omega, hblock]
      simp
    | cons d blocks =>
      rw [toList_write_cons, List.length_append, List.length_cons] at hfuel
      obtain ⟨left, rfl⟩ := Nat.exists_eq_add_of_le' (show b.statements.length + 1 ≤ fuel by omega)
      have ih : readAll? (left + 1) (write (d :: blocks)).toList = some ((d :: blocks).flatMap Block.statements) :=
        ih h.2 (by omega)
      rw [toList_write_cons, show left + (b.statements.length + 1) = left + 1 + b.statements.length by omega,
        readAll?_block h.1, readAll?_newline, ih]
      rfl

/-! ### What is done to a text first -/

theorem unifyLines_eq_self {cs : List Char} (h : '\r' ∉ cs) : unifyLines cs = cs := by
  fun_induction unifyLines cs with
  | case1 rest ih => simp at h
  | case2 c rest hc ih => rw [ih fun hr => h (List.mem_cons_of_mem c hr)]
  | case3 => rfl

theorem not_mem_intercalate {c : Char} {separator : String} {parts : List String} (hseparator : c ∉ separator.toList)
    (h : ∀ p ∈ parts, c ∉ p.toList) : c ∉ (String.intercalate separator parts).toList := by
  induction parts with
  | nil => simp
  | cons p parts ih =>
    simp only [List.mem_cons, forall_eq_or_imp] at h
    by_cases hnil : parts = []
    · simpa [hnil] using h.1
    · rw [String.intercalate_cons_of_ne_nil hnil, String.toList_append, String.toList_append, List.mem_append,
        List.mem_append]
      rintro ((hc | hc) | hc)
      · exact h.1 hc
      · exact hseparator hc
      · exact ih h.2 hc

theorem no_return_of_isBareName {name : String} (h : isBareName name = true) : '\r' ∉ name.toList :=
  fun hr => absurd (bare_of_isBareName h _ hr) (by decide)

theorem no_return_plain (v : Plain) : '\r' ∉ v.write.toList := by
  cases v with
  | text s => simpa [Plain.write] using Quoted.no_return_write s.toList
  | number n =>
    intro hr
    rw [Plain.write, Nat.toString_eq_ofList_toDigits, String.toList_ofList] at hr
    exact absurd (Text.digits_toDigits n _ hr) (by decide)
  | truth b => cases b <;> simp [Plain.write, toString]

theorem Block.Sound.no_return {b : Block} (h : b.Sound) : '\r' ∉ b.write.toList := by
  have hnames : '\r' ∉ (String.intercalate "." b.heading.path).toList :=
    not_mem_intercalate (by simp) fun name hname => no_return_of_isBareName (h.bare name hname)
  have hheading : '\r' ∉ b.heading.line := by
    cases hb : b.heading <;> simpa [Heading.line, Heading.path, hb, -String.toList_intercalate] using hnames
  have hsettings : ∀ s ∈ b.settings, '\r' ∉ settingLine s := fun s hs => by
    simpa [settingLine] using ⟨no_return_of_isBareName (h.settings s hs).1, no_return_plain s.2⟩
  rw [b.toList_write]
  simpa [Block.lines] using ⟨hheading, fun name v hs => hsettings (name, v) hs⟩

theorem no_return_write {blocks : List Block} (h : ∀ b ∈ blocks, b.Sound) : '\r' ∉ (write blocks).toList := by
  refine not_mem_intercalate (by simp) ?_
  simpa using fun b hb => (h b hb).no_return

theorem dropMark_write (blocks : List Block) : dropMark (write blocks).toList = (write blocks).toList := by
  have hblock (b : Block) (rest : List Char) : dropMark (b.write.toList ++ rest) = b.write.toList ++ rest := by
    rw [b.toList_write, Block.lines]
    cases b.heading <;> rfl
  match blocks with
  | [] => rfl
  | [b] => simpa [toList_write_singleton] using hblock b []
  | b :: d :: blocks => rw [toList_write_cons, hblock]

/-- What blocks are read as is told by their statements. -/
theorem read?_write {blocks : List Block} (h : ∀ b ∈ blocks, b.Sound) :
    read? (write blocks) = ((blocks.flatMap Block.statements).foldlM Draft.add Draft.empty).map fun d =>
      .table (fieldValues d.root) := by
  rw [read?, dropMark_write, unifyLines_eq_self (no_return_write h)]
  simp only [readAll?_write h (Nat.lt_add_one _), Option.bind_eq_bind, Option.bind_some, Option.pure_def]
  cases (blocks.flatMap Block.statements).foldlM Draft.add Draft.empty <;> rfl

end RadioMesh.Toml
