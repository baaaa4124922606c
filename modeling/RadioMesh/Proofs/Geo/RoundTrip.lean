import RadioMesh.Proofs.Direct
import RadioMesh.Proofs.Geo.Pieces
import RadioMesh.Proofs.Store.NameMap

/-!
A location is read back from its text. The text has the parameters in the order of their spellings and the query in the
order of its names, so pieces with different names must commute when they are read. A name that has a field of its own
is in neither map of a location that was read; a map that has one would be read back without it.
-/

namespace RadioMesh.GeoUri

open Text.Percent

/-! ### Names with fields of their own -/

/-- Neither map has a name that has a field of its own. -/
structure Proper (g : GeoUri) : Prop where
  uncertainty : g.otherParams.get? "u" = none
  crs : g.otherParams.get? "crs" = none
  zoom : g.queryParams.get? "z" = none
  query : g.queryParams.get? "q" = none

namespace Proper
variable {g g' : GeoUri}

theorem addParam {param : List Char} (h : g.Proper) (hg : g.addParam param = .ok g') : g'.Proper := by
  obtain ⟨⟨name, value⟩, -, hg⟩ := exists_of_bind_eq_ok hg
  dsimp only at hg
  split at hg
  · obtain ⟨u, -, hg⟩ := exists_of_bind_eq_ok hg
    cases hg
    exact ⟨h.uncertainty, h.crs, h.zoom, h.query⟩
  · next hu =>
    split at hg
    · cases hg
      exact ⟨h.uncertainty, h.crs, h.zoom, h.query⟩
    · next hcrs =>
      cases hg
      have hkept {own : String} (hne : name ≠ own) (hown : g.otherParams.get? own = none) :
          (g.otherParams.insert name value).get? own = none := by
        rw [NameMap.get?_insert, if_neg hne.symm, hown]
      exact ⟨hkept hu h.uncertainty, hkept hcrs h.crs, h.zoom, h.query⟩

theorem addQuery {pair : List Char} (h : g.Proper) (hg : g.addQuery pair = .ok g') : g'.Proper := by
  obtain ⟨⟨name, value⟩, -, hg⟩ := exists_of_bind_eq_ok hg
  dsimp only at hg
  split at hg
  · obtain ⟨z, -, hg⟩ := exists_of_bind_eq_ok hg
    cases hg
    exact ⟨h.uncertainty, h.crs, h.zoom, h.query⟩
  · next hz =>
    split at hg
    · cases hg
      exact ⟨h.uncertainty, h.crs, h.zoom, h.query⟩
    · next hq =>
      cases hg
      have hkept {own : String} (hne : name ≠ own) (hown : g.queryParams.get? own = none) :
          (g.queryParams.insertIfNew name value).get? own = none := by
        rw [NameMap.get?_insertIfNew, if_neg hne.symm, hown]
      exact ⟨h.uncertainty, h.crs, hkept hz h.zoom, hkept hq h.query⟩

theorem foldlM {add : GeoUri → List Char → Except GeoFault GeoUri}
    (hadd : ∀ {g g' : GeoUri} {piece : List Char}, g.Proper → add g piece = .ok g' → g'.Proper)
    {pieces : List (List Char)} (h : g.Proper) (hg : pieces.foldlM add g = .ok g') : g'.Proper := by
  induction pieces generalizing g with
  | nil =>
    cases hg
    exact h
  | cons piece pieces ih =>
    rw [List.foldlM_cons] at hg
    obtain ⟨next, hnext, hg⟩ := exists_of_bind_eq_ok hg
    exact ih (hadd h hnext) hg

theorem readCoordinates {parts : List (List Char)} (h : readCoordinates parts = .ok g) : g.Proper := by
  unfold GeoUri.readCoordinates at h
  split at h
  · obtain ⟨lat, -, h⟩ := exists_of_bind_eq_ok h
    obtain ⟨lon, -, h⟩ := exists_of_bind_eq_ok h
    cases h
    exact ⟨rfl, rfl, rfl, rfl⟩
  · obtain ⟨lat, -, h⟩ := exists_of_bind_eq_ok h
    obtain ⟨lon, -, h⟩ := exists_of_bind_eq_ok h
    obtain ⟨alt, -, h⟩ := exists_of_bind_eq_ok h
    cases h
    exact ⟨rfl, rfl, rfl, rfl⟩
  · cases h

theorem ofText {text : String} (h : ofText text = .ok g) : g.Proper := by
  unfold GeoUri.ofText at h
  split at h
  · obtain ⟨first, hfirst, h⟩ := exists_of_bind_eq_ok (eq_ok_of_mapError h)
    obtain ⟨second, hsecond, h⟩ := exists_of_bind_eq_ok h
    exact foldlM addQuery (foldlM addParam (readCoordinates hfirst) hsecond) h
  · cases h

end Proper

/-! ### Names and values in any order -/

/-- What two names of their own have, and what a map has. -/
def pairs (a b : String) (x y : Option String) (m : NameMap String) : List (String × String) :=
  x.toList.map (a, ·) ++ y.toList.map (b, ·) ++ m.toList

section Pairs
variable {a b : String} {x y : Option String} {m : NameMap String}

theorem ne_of_mem_toList (h : m.get? a = none) {p : String × String} (hp : p ∈ m.toList) : p.1 ≠ a := by
  rintro rfl
  rw [NameMap.get?_of_mem_entries hp] at h
  cases h

theorem nodup_pairs (hab : a ≠ b) (ha : m.get? a = none) (hb : m.get? b = none) :
    ((pairs a b x y m).map (·.1)).Nodup := by
  have hkeys : (m.toList.map (·.1)).Nodup := m.nodup_keys
  have hnew {name : String} (h : m.get? name = none) : name ∉ m.toList.map (·.1) := fun hmem => by
    obtain ⟨p, hp, rfl⟩ := List.mem_map.1 hmem
    exact ne_of_mem_toList h hp rfl
  have hnewA := hnew ha
  have hnewB := hnew hb
  unfold pairs
  cases x <;> cases y <;> simp_all

theorem eq_some_of_mem_pairs (hab : a ≠ b) (ha : m.get? a = none) {p : String × String} (hp : p ∈ pairs a b x y m)
    (hname : p.1 = a) : x = some p.2 := by
  rcases List.mem_append.1 hp with hp | hp
  · rcases List.mem_append.1 hp with hp | hp
    · obtain ⟨v, hv, rfl⟩ := List.mem_map.1 hp
      exact Option.mem_toList.1 hv
    · obtain ⟨v, -, rfl⟩ := List.mem_map.1 hp
      exact absurd hname.symm hab
  · exact absurd hname (ne_of_mem_toList ha hp)

/-- Takes in a name and its value: two names have fields of their own, any other goes into a map. -/
def assign (a b : String) (first second : GeoUri → String → GeoUri) (other : GeoUri → String × String → GeoUri)
    (g : GeoUri) (p : String × String) : GeoUri :=
  if p.1 = a then first g p.2 else if p.1 = b then second g p.2 else other g p

section Assign
variable {first second : GeoUri → String → GeoUri} {other : GeoUri → String × String → GeoUri}

theorem assign_comm (hfields : ∀ g v w, second (first g v) w = first (second g w) v)
    (hfirst : ∀ g v p, other (first g v) p = first (other g p) v)
    (hsecond : ∀ g v p, other (second g v) p = second (other g p) v)
    (hother : ∀ g p q, p.1 ≠ q.1 → other (other g p) q = other (other g q) p) (g : GeoUri) (p q : String × String)
    (h : p.1 ≠ q.1) : assign a b first second other (assign a b first second other g p) q =
      assign a b first second other (assign a b first second other g q) p := by
  unfold assign
  split_ifs with hqa hpa hpb hqb hpa hpb hpa hpb
  · exact absurd (hpa.trans hqa.symm) h
  · exact (hfields _ _ _).symm
  · exact (hfirst _ _ _).symm
  · exact hfields _ _ _
  · exact absurd (hpb.trans hqb.symm) h
  · exact (hsecond _ _ _).symm
  · exact hfirst _ _ _
  · exact hsecond _ _ _
  · exact hother _ _ _ h

theorem foldl_assign (hab : a ≠ b) (ha : m.get? a = none) (hb : m.get? b = none) (g : GeoUri) :
    (pairs a b x y m).foldl (assign a b first second other) g =
      m.toList.foldl other (y.toList.foldl second (x.toList.foldl first g)) := by
  have hmap (g : GeoUri) : m.toList.foldl (assign a b first second other) g = m.toList.foldl other g :=
    List.foldl_ext _ _ _ fun g p hp => by
      rw [assign, if_neg (ne_of_mem_toList ha hp), if_neg (ne_of_mem_toList hb hp)]
  rw [pairs, List.foldl_append, List.foldl_append, hmap, List.foldl_map, List.foldl_map]
  simp only [assign, if_pos, if_neg hab.symm]

/-- A map is made again from its entries where each of them goes into the map. -/
theorem foldl_into {f : NameMap String → String × String → NameMap String}
    (hf : ∀ m e, m.get? e.1 = none → f m e = m.insert e.1 e.2) (into : NameMap String → GeoUri)
    (hother : ∀ m p, other (into m) p = into (f m p)) (m : NameMap String) :
    m.toList.foldl other (into ∅) = into m :=
  (List.foldl_hom into hother).trans (congrArg into (NameMap.foldl_toList hf m))

end Assign

end Pairs

/-- How a name and its value are written. -/
def piece (p : String × String) : List Char :=
  (pair p.1 p.2).toList

/-- Pieces that commute are read alike in any order. -/
theorem foldlM_pieces {add : GeoUri → List Char → Except GeoFault GeoUri} {put : GeoUri → String × String → GeoUri}
    {written known : List (String × String)} (hperm : written.Perm known)
    (hadd : ∀ p ∈ known, ∀ g, add g (piece p) = .ok (put g p))
    (hcomm : ∀ g p q, p.1 ≠ q.1 → put (put g p) q = put (put g q) p) (hnodup : (known.map (·.1)).Nodup)
    (g : GeoUri) : (written.map piece).foldlM add g = .ok (known.foldl put g) := by
  have hordered : written.foldl put g = known.foldl put g := by
    refine hperm.foldl_eq' (fun p hp q hq g => ?_) g
    by_cases hname : p.1 = q.1
    · have hinj := List.inj_on_of_nodup_map hnodup
      rw [hinj (hperm.mem_iff.1 hp) (hperm.mem_iff.1 hq) hname]
    · exact hcomm g p q hname
  have hadd' : ∀ p ∈ written, ∀ g, add g (piece p) = .ok (put g p) :=
    fun p hp => hadd p (hperm.mem_iff.1 hp)
  rw [← hordered]
  clear hperm hordered
  induction written generalizing g with
  | nil => rfl
  | cons p written ih =>
    obtain ⟨hp, hrest⟩ := List.forall_mem_cons.1 hadd'
    rw [List.map_cons, List.foldlM_cons, hp]
    exact ih _ hrest

/-! ### Parameters -/

def withParam : GeoUri → String × String → GeoUri :=
  assign "u" "crs" (fun g text => { g with uncertainty := (readNumber .uncertainty text).toOption })
    (fun g crs => { g with crs := some crs }) fun g p => { g with otherParams := g.otherParams.insert p.1 p.2 }

theorem withParam_comm : ∀ (g : GeoUri) (p q : String × String), p.1 ≠ q.1 →
    (g.withParam p).withParam q = (g.withParam q).withParam p :=
  assign_comm (by intros; dsimp only) (by intros; dsimp only) (by intros; dsimp only)
    fun g _ _ h => congrArg (fun m => { g with otherParams := m }) (NameMap.insert_comm _ h _ _)

theorem addParam_piece {p : String × String} (h : p.1 = "u" → ∃ u, readNumber .uncertainty p.2 = .ok u) (g : GeoUri) :
    g.addParam (piece p) = .ok (g.withParam p) := by
  rw [addParam, piece, readPair_pair]
  unfold withParam assign
  show (if p.1 = "u" then _ else _) = _
  by_cases hu : p.1 = "u"
  · obtain ⟨u, hread⟩ := h hu
    simp only [if_pos hu, hread]
    rfl
  · rw [if_neg hu, if_neg hu]
    by_cases hcrs : p.1 = "crs"
    · rw [if_pos hcrs, if_pos hcrs]
      rfl
    · rw [if_neg hcrs, if_neg hcrs]
      rfl

def paramPairs (g : GeoUri) : List (String × String) :=
  pairs "u" "crs" (g.uncertainty.map Floating.shortest) g.crs g.otherParams

theorem readNumber_shortest (u : Binary64) : readNumber .uncertainty (Floating.shortest u) = .ok u.canonical :=
  readNumber_numeral (Floating.isNumeral_of_mem_shortest u) _ (Floating.read_shortest u)

theorem exists_params (g : GeoUri) : ∃ written : List (String × String), written.Perm g.paramPairs ∧
    g.params.map String.toList = written.map piece := by
  have huncertainty (u : Binary64) : "u=" ++ Floating.shortest u = pair "u" (Floating.shortest u) := by
    rw [pair, encode_numeral (Floating.isNumeral_of_mem_shortest u)]
    rfl
  have hcrs (crs : String) : "crs=" ++ encode crs = pair "crs" crs := rfl
  have hall : (g.uncertainty.toList.map fun u => "u=" ++ Floating.shortest u) ++
      (g.crs.toList.map fun crs => "crs=" ++ encode crs) ++
      (g.otherParams.toList.map fun p => pair p.1 p.2) = g.paramPairs.map fun p => pair p.1 p.2 := by
    simp only [paramPairs, pairs, huncertainty, hcrs]
    cases g.uncertainty <;> cases g.crs <;> simp
  have hperm : g.params.Perm (g.paramPairs.map fun p => pair p.1 p.2) := hall ▸ List.mergeSort_perm _ _
  obtain ⟨written, hwritten, hsame⟩ :=
    (congrFun₂ (List.eq_map_comp_perm fun p : String × String => pair p.1 p.2) g.params g.paramPairs).mpr hperm
  refine ⟨written, hsame, ?_⟩
  rw [hwritten, List.map_map]
  rfl

theorem Proper.read_param {g : GeoUri} (h : g.Proper) {p : String × String} (hp : p ∈ g.paramPairs) (hu : p.1 = "u") :
    ∃ u, readNumber .uncertainty p.2 = .ok u := by
  have hvalue := eq_some_of_mem_pairs (by decide) h.uncertainty hp hu
  obtain ⟨u, -, hshortest⟩ := Option.map_eq_some_iff.1 hvalue
  rw [← hshortest]
  exact ⟨_, readNumber_shortest u⟩

theorem Proper.foldlM_params {g : GeoUri} (h : g.Proper) (lat lon : Binary64) (alt : Option Binary64) :
    (g.params.map String.toList).foldlM GeoUri.addParam { latitude := lat, longitude := lon, altitude := alt } =
      .ok { latitude := lat, longitude := lon, altitude := alt, uncertainty := g.uncertainty.map Binary64.canonical,
            crs := g.crs, otherParams := g.otherParams } := by
  obtain ⟨written, hperm, hwritten⟩ := g.exists_params
  have hadd : ∀ p ∈ g.paramPairs, ∀ g' : GeoUri, g'.addParam (piece p) = .ok (g'.withParam p) :=
    fun p hp => addParam_piece (h.read_param hp)
  have hnodup : (g.paramPairs.map (·.1)).Nodup := nodup_pairs (by decide) h.uncertainty h.crs
  rw [hwritten]
  refine (foldlM_pieces hperm hadd withParam_comm hnodup _).trans (congrArg Except.ok ?_)
  rw [paramPairs, withParam, foldl_assign (by decide) h.uncertainty h.crs]
  refine Eq.trans (congrArg (List.foldl _ · _) ?_) (foldl_into (fun _ _ _ => rfl)
    (fun m => { latitude := lat, longitude := lon, altitude := alt, uncertainty := g.uncertainty.map Binary64.canonical,
                crs := g.crs, otherParams := m }) (fun _ _ => rfl) g.otherParams)
  cases g.uncertainty <;> cases g.crs <;> simp [readNumber_shortest, Except.toOption]

/-! ### The query -/

def withQuery : GeoUri → String × String → GeoUri :=
  assign "z" "q" (fun g text => { g with zoom := (Text.Number.read text).toOption })
    (fun g q => { g with query := some q }) fun g p => { g with queryParams := g.queryParams.insertIfNew p.1 p.2 }

theorem withQuery_comm : ∀ (g : GeoUri) (p q : String × String), p.1 ≠ q.1 →
    (g.withQuery p).withQuery q = (g.withQuery q).withQuery p :=
  assign_comm (by intros; dsimp only) (by intros; dsimp only) (by intros; dsimp only)
    fun g _ _ h => congrArg (fun m => { g with queryParams := m }) (NameMap.insertIfNew_comm _ h _ _)

theorem addQuery_piece {p : String × String} (h : p.1 = "z" → ∃ z, Text.Number.read p.2 = .ok z) (g : GeoUri) :
    g.addQuery (piece p) = .ok (g.withQuery p) := by
  rw [addQuery, piece, readPair_pair]
  unfold withQuery assign
  show (if p.1 = "z" then _ else _) = _
  by_cases hz : p.1 = "z"
  · obtain ⟨z, hread⟩ := h hz
    simp only [if_pos hz, hread]
    rfl
  · rw [if_neg hz, if_neg hz]
    by_cases hq : p.1 = "q"
    · rw [if_pos hq, if_pos hq]
      rfl
    · rw [if_neg hq, if_neg hq]
      rfl

def queryPairs (g : GeoUri) : List (String × String) :=
  pairs "z" "q" (g.zoom.map fun z => toString z.toNat) g.query g.queryParams

theorem Proper.nodup_queryPairs {g : GeoUri} (h : g.Proper) : (g.queryPairs.map (·.1)).Nodup :=
  nodup_pairs (by decide) h.zoom h.query

theorem Proper.queryMap_perm {g : GeoUri} (h : g.Proper) : g.queryMap.toList.Perm g.queryPairs := by
  have hfirst (name v : String) : (∅ : NameMap String).insertIfNew name v = (∅ : NameMap String).insert name v :=
    NameMap.insertIfNew_of_new ∅ (name, v) rfl
  have hsecond (z q : String) : ((∅ : NameMap String).insert "z" z).insertIfNew "q" q =
      ((∅ : NameMap String).insert "z" z).insert "q" q := by
    refine NameMap.insertIfNew_of_new _ ("q", q) ?_
    exact (NameMap.get?_insert _ _ _ _).trans (if_neg (by simp))
  have hmap : g.queryMap = g.queryPairs.foldl (fun m p => m.insertIfNew p.1 p.2) ∅ := by
    unfold queryMap queryPairs
    cases g.zoom <;> cases g.query <;> simp [pairs, hfirst, hsecond]
  have hperm := NameMap.perm_foldl NameMap.insertIfNew_of_new h.nodup_queryPairs
    (fun e _ => (rfl : (∅ : NameMap String).get? e.1 = none))
  rw [show (∅ : NameMap String).entries = [] from rfl, List.append_nil] at hperm
  exact hmap ▸ hperm

theorem Proper.read_zoom {g : GeoUri} (h : g.Proper) {p : String × String} (hp : p ∈ g.queryPairs) (hz : p.1 = "z") :
    ∃ z, Text.Number.read p.2 = .ok z := by
  have hvalue := eq_some_of_mem_pairs (by decide) h.zoom hp hz
  obtain ⟨z, -, htext⟩ := Option.map_eq_some_iff.1 hvalue
  rw [← htext]
  exact ⟨z, Text.Number.read_toString z⟩

theorem Proper.foldlM_queries {g : GeoUri} (h : g.Proper) (g' : GeoUri) :
    (g.queryMap.toList.map piece).foldlM GeoUri.addQuery { g' with zoom := none, query := none, queryParams := ∅ } =
      .ok { g' with zoom := g.zoom, query := g.query, queryParams := g.queryParams } := by
  have hadd : ∀ p ∈ g.queryPairs, ∀ g' : GeoUri, g'.addQuery (piece p) = .ok (g'.withQuery p) :=
    fun p hp => addQuery_piece (h.read_zoom hp)
  refine (foldlM_pieces h.queryMap_perm hadd withQuery_comm h.nodup_queryPairs _).trans (congrArg Except.ok ?_)
  have hread (z : UInt32) : Text.Number.read z.toNat.repr = .ok z := Text.Number.read_toString z
  rw [queryPairs, withQuery, foldl_assign (by decide) h.zoom h.query]
  refine Eq.trans (congrArg (List.foldl _ · _) ?_) (foldl_into NameMap.insertIfNew_of_new
    (fun m => { g' with zoom := g.zoom, query := g.query, queryParams := m }) (fun _ _ => rfl) g.queryParams)
  cases g.zoom <;> cases g.query <;> simp [hread, Except.toOption]

/-! ### The whole text -/

/-- The coordinates behind the first. -/
def laterCoordinates (g : GeoUri) : List String :=
  Floating.fixed 5 g.longitude :: g.altitude.toList.map (Floating.fixed 3)

def coordinatesText (first : String) (later : List String) : List Char :=
  first.toList ++ (later.map String.toList).flatMap (',' :: ·)

/-- What stands in front of the query. -/
def mainText (first : String) (later : List String) (params : List (List Char)) : List Char :=
  coordinatesText first later ++ params.flatMap (';' :: ·)

def queryText : List (List Char) → List Char
  | [] => []
  | p :: ps => '?' :: (p ++ ps.flatMap ('&' :: ·))

theorem toList_text (g : GeoUri) : g.text.toList = 'g' :: 'e' :: 'o' :: ':' ::
    (mainText (Floating.fixed 5 g.latitude) g.laterCoordinates (g.params.map String.toList) ++
      queryText (g.queryMap.toList.map piece)) := by
  have htext : g.text = "geo:" ++ Floating.fixed 5 g.latitude ++ "," ++ Floating.fixed 5 g.longitude ++
      String.join (g.altitude.toList.map fun a => "," ++ Floating.fixed 3 a) ++ String.join (g.params.map (";" ++ ·)) ++
      if (g.queryMap.toList.map fun p => pair p.1 p.2).isEmpty then ""
      else "?" ++ String.intercalate "&" (g.queryMap.toList.map fun p => pair p.1 p.2) := rfl
  have hquery (ps : List (String × String)) :
      (if (ps.map fun p => pair p.1 p.2).isEmpty then ""
        else "?" ++ String.intercalate "&" (ps.map fun p => pair p.1 p.2)).toList = queryText (ps.map piece) := by
    cases ps with
    | nil => rfl
    | cons p ps =>
      rw [List.map_cons, List.isEmpty_cons, if_neg Bool.false_ne_true, String.toList_append, toList_intercalate_cons,
        List.map_map]
      rfl
  have hmarked (mark : String) (c : Char) (h : mark.toList = [c]) (pieces : List String) :
      (String.join (pieces.map (mark ++ ·))).toList = (pieces.map String.toList).flatMap (c :: ·) := by
    rw [String.toList_join, List.flatMap_map, List.flatMap_map]
    simp only [String.toList_append, h, List.singleton_append]
  have haltitude : (g.altitude.toList.map fun a => "," ++ Floating.fixed 3 a) =
      (g.altitude.toList.map (Floating.fixed 3)).map ("," ++ ·) := List.map_map.symm
  simp only [htext, String.toList_append, hquery, hmarked ";" ';' rfl, haltitude, hmarked "," ',' rfl]
  simp [mainText, coordinatesText, laterCoordinates]

theorem filter_pieces (ps : List (String × String)) : (ps.map piece).filter (· ≠ []) = ps.map piece := by
  refine List.filter_eq_self.2 fun s hs => ?_
  obtain ⟨p, -, rfl⟩ := List.mem_map.1 hs
  exact decide_eq_true (pair_ne_nil p.1 p.2)

theorem not_mem_piece {mark : Char} (h : mark ∈ marks) (hne : mark ≠ '=') (ps : List (String × String)) :
    ∀ s ∈ ps.map piece, mark ∉ s := by
  intro s hs
  obtain ⟨p, -, rfl⟩ := List.mem_map.1 hs
  exact not_mem_pair h hne p.1 p.2

section Layout
variable {first : String} {later : List String}
  (h : ∀ s ∈ first :: later, ∀ c ∈ s.toList, Floating.isNumeral c = true)
include h

theorem not_mem_coordinate {mark : Char} (hmark : Floating.isNumeral mark = false) :
    mark ∉ first.toList ∧ ∀ s ∈ later.map String.toList, mark ∉ s := by
  obtain ⟨hfirst, hlater⟩ := List.forall_mem_cons.1 h
  refine ⟨not_mem_numeral hfirst hmark, fun s hs => ?_⟩
  obtain ⟨coordinate, hcoordinate, rfl⟩ := List.mem_map.1 hs
  exact not_mem_numeral (hlater coordinate hcoordinate) hmark

theorem not_mem_coordinatesText {mark : Char} (hmark : Floating.isNumeral mark = false) (hne : mark ≠ ',') :
    mark ∉ coordinatesText first later :=
  have hunmarked := not_mem_coordinate h hmark
  not_mem_pieces hunmarked.1 hne hunmarked.2

theorem split_coordinatesText : split ',' (coordinatesText first later) = first.toList :: later.map String.toList :=
  have hunmarked := not_mem_coordinate h (rfl : Floating.isNumeral ',' = false)
  split_pieces hunmarked.1 hunmarked.2

theorem split_mainText (params : List (String × String)) :
    split ';' (mainText first later (params.map piece)) = coordinatesText first later :: params.map piece :=
  split_pieces (not_mem_coordinatesText h rfl (by decide)) (not_mem_piece (by decide) (by decide) params)

theorem cut_text (params queries : List (String × String)) :
    ∃ query, cut '?' (mainText first later (params.map piece) ++ queryText (queries.map piece)) =
        (mainText first later (params.map piece), query) ∧
      (split '&' (query.getD [])).filter (· ≠ []) = queries.map piece := by
  have hmain : '?' ∉ mainText first later (params.map piece) :=
    not_mem_pieces (not_mem_coordinatesText h rfl (by decide)) (by decide)
      (not_mem_piece (by decide) (by decide) params)
  cases queries with
  | nil =>
    refine ⟨none, ?_, rfl⟩
    rw [List.map_nil, queryText, List.append_nil, cut_eq_self hmain]
  | cons q qs =>
    have hqueries : ∀ s ∈ (q :: qs).map piece, '&' ∉ s := not_mem_piece (by decide) (by decide) (q :: qs)
    obtain ⟨hq, hqs⟩ := List.forall_mem_cons.1 hqueries
    refine ⟨some (piece q ++ (qs.map piece).flatMap ('&' :: ·)), ?_, ?_⟩
    · rw [List.map_cons, queryText, cut_append_cons hmain]
    · rw [Option.getD_some, split_pieces hq hqs, ← List.map_cons, filter_pieces]

theorem readRest_text (params queries : List (String × String)) :
    readRest (mainText first later (params.map piece) ++ queryText (queries.map piece)) = (do
      let g ← readCoordinates (first.toList :: later.map String.toList)
      let g ← (params.map piece).foldlM addParam g
      (queries.map piece).foldlM addQuery g) := by
  obtain ⟨query, hcut, hquery⟩ := cut_text h params queries
  simp only [readRest, hcut, split_mainText h, List.headD_cons, split_coordinatesText h, List.tail_cons, filter_pieces,
    hquery]

end Layout

theorem exists_readCoordinates (g : GeoUri) : ∃ lat lon alt,
    readCoordinates ((Floating.fixed 5 g.latitude).toList :: g.laterCoordinates.map String.toList) =
      .ok { latitude := lat, longitude := lon, altitude := alt } ∧ alt.isSome = g.altitude.isSome := by
  have hread (which : GeoNumber) (places : Nat) (x : Binary64) :
      ∃ y, readNumber which (String.ofList (Floating.fixed places x).toList) = .ok y := by
    obtain ⟨y, hy⟩ := Floating.exists_read_fixed places x
    rw [String.ofList_toList]
    exact ⟨y, readNumber_numeral (Floating.isNumeral_of_mem_fixed places x) which hy⟩
  obtain ⟨lat, hlat⟩ := hread .latitude 5 g.latitude
  obtain ⟨lon, hlon⟩ := hread .longitude 5 g.longitude
  unfold laterCoordinates
  cases g.altitude with
  | none =>
    refine ⟨lat, lon, none, ?_, rfl⟩
    simp only [Option.toList_none, List.map_nil, List.map_cons, readCoordinates, hlat, hlon]
    rfl
  | some altitude =>
    obtain ⟨alt, halt⟩ := hread .altitude 3 altitude
    refine ⟨lat, lon, some alt, ?_, rfl⟩
    simp only [Option.toList_some, List.map_nil, List.map_cons, readCoordinates, hlat, hlon, halt]
    rfl

theorem isNumeral_of_mem_coordinate (g : GeoUri) :
    ∀ s ∈ Floating.fixed 5 g.latitude :: g.laterCoordinates, ∀ c ∈ s.toList, Floating.isNumeral c = true := by
  intro s hs
  rcases List.mem_cons.1 hs with rfl | hs
  · exact Floating.isNumeral_of_mem_fixed 5 g.latitude
  · rcases List.mem_cons.1 hs with rfl | hs
    · exact Floating.isNumeral_of_mem_fixed 5 g.longitude
    · obtain ⟨a, -, rfl⟩ := List.mem_map.1 hs
      exact Floating.isNumeral_of_mem_fixed 3 a

/-- What is read has no name with a field of its own in its maps. Any such location is read back from its text: the
coordinates as far as they were written, the uncertainty with one pattern for all NaNs, everything else as it was. -/
theorem ofText_text_proper : (∀ text g, ofText text = .ok g → g.Proper) ∧
    ∀ g : GeoUri, g.Proper → ∃ lat lon alt,
      ofText g.text = .ok { g with latitude := lat, longitude := lon, altitude := alt,
                                   uncertainty := g.uncertainty.map Binary64.canonical } ∧
        alt.isSome = g.altitude.isSome := by
  refine ⟨fun text g => Proper.ofText, fun g h => ?_⟩
  obtain ⟨lat, lon, alt, hcoordinates, halt⟩ := g.exists_readCoordinates
  obtain ⟨written, -, hparams⟩ := g.exists_params
  have hrest : readRest (mainText (Floating.fixed 5 g.latitude) g.laterCoordinates (g.params.map String.toList) ++
      queryText (g.queryMap.toList.map piece)) =
        .ok { g with latitude := lat, longitude := lon, altitude := alt,
                     uncertainty := g.uncertainty.map Binary64.canonical } := by
    rw [hparams, readRest_text g.isNumeral_of_mem_coordinate, hcoordinates, ← hparams]
    show ((g.params.map String.toList).foldlM addParam { latitude := lat, longitude := lon, altitude := alt } >>=
      fun g' => (g.queryMap.toList.map piece).foldlM addQuery g') = _
    rw [h.foldlM_params]
    exact h.foldlM_queries { g with latitude := lat, longitude := lon, altitude := alt,
                                    uncertainty := g.uncertainty.map Binary64.canonical }
  refine ⟨lat, lon, alt, ?_, halt⟩
  rw [ofText, toList_text]
  exact congrArg (Except.mapError IdentifierError.geo) hrest

/-- A location with marks in its names and values, some of which are empty. -/
def marked : GeoUri where
  latitude := ⟨0x4049C00000000000⟩
  longitude := ⟨0xBFC0000000000000⟩
  altitude := some ⟨0x4041800000000000⟩
  uncertainty := some ⟨0x3FB999999999999A⟩
  crs := some "wgs84;u=1"
  zoom := some 15
  query := some "50% + \u00e9"
  otherParams := (((∅ : NameMap String).insert "a&b" "c=d?").insert "" "").insert "z" "z"
  queryParams := ((∅ : NameMap String).insert "u" "+").insert "x,y" ""

theorem ofText_text_proper_marked : ∃ lat lon alt,
    ofText marked.text = .ok { marked with latitude := lat, longitude := lon, altitude := alt } ∧
      alt.isSome = true := by
  have hproper : marked.Proper := ⟨by decide, by decide, by decide, by decide⟩
  have hnumber : marked.uncertainty.map Binary64.canonical = marked.uncertainty := by decide +kernel
  obtain ⟨lat, lon, alt, hread, halt⟩ := ofText_text_proper.2 marked hproper
  rw [hnumber] at hread
  exact ⟨lat, lon, alt, hread, halt⟩

end RadioMesh.GeoUri
