import RadioMesh.Proofs.Client.ChannelDelivery
import RadioMesh.Proofs.Client.Joins
import RadioMesh.Proofs.Client.Reception

/-!
Which channel a covered packet is taken for. A wrong key may make data of a packet, too, so the order in which keys are
tried decides. That order is told here by a key that orders all channels, and not by how the candidates came together:
the packet's channel is the least of those that read it.
-/

namespace RadioMesh

/-! ### Sorted lists -/

section Sorted

variable {α β κ κ' : Type} [LinearOrder κ] [LinearOrder κ']

theorem findSome?_eq_some_iff_of_pairwise {k : α → κ} {f : α → Option β} {l : List α} {b : β}
    (h : l.Pairwise fun x y => k x < k y) :
    l.findSome? f = some b ↔ ∃ a ∈ l, f a = some b ∧ ∀ x ∈ l, (f x).isSome = true → k a ≤ k x := by
  rw [List.findSome?_eq_some_iff]
  constructor
  · rintro ⟨front, a, rest, rfl, ha, hfront⟩
    refine ⟨a, by simp, ha, fun x hx hread => ?_⟩
    rcases List.mem_append.1 hx with hx | hx
    · rw [hfront x hx] at hread
      cases hread
    · rcases List.mem_cons.1 hx with rfl | hx
      · exact le_refl _
      · exact ((List.pairwise_cons.1 (List.pairwise_append.1 h).2.1).1 x hx).le
  · rintro ⟨a, hmem, ha, hleast⟩
    obtain ⟨front, rest, rfl⟩ := List.append_of_mem hmem
    refine ⟨front, a, rest, rfl, ha, fun x hx => ?_⟩
    -- What stands in front is less than the least that counts.
    have hlt : k x < k a := (List.pairwise_append.1 h).2.2 x hx a List.mem_cons_self
    by_contra hread
    exact (hleast x (List.mem_append_left _ hx) (Option.isSome_iff_ne_none.2 hread)).not_gt hlt

theorem pairwise_mergeSort_key (k : α → κ) (l : List α) :
    (l.mergeSort fun x y => decide (k x ≤ k y)).Pairwise fun x y => k x ≤ k y :=
  (List.pairwise_mergeSort (fun x y z => by simpa using le_trans) (fun x y => by simpa using le_total (k x) (k y))
    l).imp of_decide_eq_true

/-- Sorting is stable: what one key does not tell apart stays as it was. -/
theorem filter_mergeSort (k : α → κ) (l : List α) (i : κ) :
    (l.mergeSort fun x y => decide (k x ≤ k y)).filter (k · = i) = l.filter (k · = i) := by
  have halike : (l.filter (k · = i)).Pairwise fun x y => decide (k x ≤ k y) = true :=
    List.pairwise_of_forall_mem_list fun x hx y hy => by
      have hx := of_decide_eq_true (List.mem_filter.1 hx).2
      have hy := of_decide_eq_true (List.mem_filter.1 hy).2
      rw [hx, hy]
      exact decide_eq_true (le_refl i)
  have hsub : (l.filter (k · = i)).Sublist (l.mergeSort fun x y => decide (k x ≤ k y)) :=
    List.sublist_mergeSort (fun x y z => by simpa using le_trans) (fun x y => by simpa using le_total (k x) (k y))
      halike List.filter_sublist
  have hfilter := hsub.filter (k · = i)
  rw [List.filter_filter] at hfilter
  simp only [Bool.and_self] at hfilter
  exact (hfilter.eq_of_length ((List.mergeSort_perm l _).filter _).length_eq.symm).symm

/-- Sorted by one key, what was sorted by another is sorted by both. -/
theorem pairwise_mergeSort_toLex {k : α → κ} {k' : α → κ'} {l : List α} (h : l.Pairwise fun x y => k' x < k' y) :
    (l.mergeSort fun x y => decide (k x ≤ k y)).Pairwise fun x y => toLex (k x, k' x) < toLex (k y, k' y) := by
  refine List.pairwise_iff_forall_sublist.2 fun {x y} hxy => ?_
  have hle : k x ≤ k y := List.pairwise_iff_forall_sublist.1 (pairwise_mergeSort_key k l) hxy
  rw [Prod.Lex.toLex_lt_toLex]
  rcases hle.lt_or_eq with hlt | heq
  · exact .inl hlt
  · have halike : [x, y].filter (k · = k y) = [x, y] := List.filter_eq_self.2 (by simp [heq])
    have hfilter := hxy.filter (k · = k y)
    rw [filter_mergeSort, halike] at hfilter
    exact .inr ⟨heq, List.pairwise_iff_forall_sublist.1 (h.filter (k · = k y)) hfilter⟩

theorem eq_of_pairwise_lt_of_mem_iff {k : α → κ} {l l' : List α} (h : l.Pairwise fun x y => k x < k y)
    (h' : l'.Pairwise fun x y => k x < k y) (hmem : ∀ x, x ∈ l ↔ x ∈ l') : l = l' := by
  have hirrefl : Std.Irrefl fun x y => k x < k y := ⟨fun x => lt_irrefl (k x)⟩
  have hantisymm : Std.Antisymm fun x y => k x < k y := ⟨fun x y hxy hyx => absurd hxy hyx.not_gt⟩
  exact h.eq_of_mem_iff h' hmem

end Sorted

/-! ### Keys that read a packet -/

/-- The channel's key makes a record of what the packet covers, and the port of the record is a known one. -/
structure ChannelDef.Reads (channel : ChannelDef) (p : MeshPacket) (covered : Bytes) (data : Data) : Prop where
  key : IsChannelKey channel.key
  plain : ∃ plain, applyKey channel.key covered p.id p.sender = .ok plain ∧ Data.schema.decode? plain = some data
  port : data.portNumber ≠ 0 ∧ ∃ port : Port, port.number = data.portNumber

namespace Client

open RadioMesh.ChannelDef RadioMesh.Action

theorem readWith?_eq_some_iff {p : MeshPacket} {covered : Bytes} {tried channel : ChannelDef} {data : Data} :
    readWith? p covered tried = some (data, channel) ↔ channel = tried ∧ tried.Reads p covered data := by
  constructor
  · intro h
    refine ⟨readWith?_snd h, ?_⟩
    unfold readWith? at h
    split at h
    · cases h
    · next plain hplain =>
      split at h
      · cases h
      · next hread =>
        cases h
        obtain ⟨hdata, hport⟩ := Data.read_eq_ok_iff.1 hread
        exact ⟨isChannelKey_of_applyKey hplain, ⟨plain, hplain, hdata⟩, Data.port_ne_unknown_iff.1 hport⟩
  · rintro ⟨rfl, -, ⟨plain, hplain, hdata⟩, hport⟩
    have hread := Data.read_eq_ok_iff.2 ⟨hdata, Data.port_ne_unknown_iff.2 hport⟩
    simp only [readWith?, hplain, hread]

theorem isSome_readWith?_iff {p : MeshPacket} {covered : Bytes} {channel : ChannelDef} :
    (readWith? p covered channel).isSome = true ↔ ∃ data, channel.Reads p covered data := by
  rw [Option.isSome_iff_exists]
  constructor
  · rintro ⟨⟨data, channel'⟩, h⟩
    exact ⟨data, (readWith?_eq_some_iff.1 h).2⟩
  · rintro ⟨data, h⟩
    exact ⟨(data, channel), readWith?_eq_some_iff.2 ⟨rfl, h⟩⟩

/-! ### The order of the candidates -/

/-- How badly a channel fits a packet: by its name, and only then by its hash. -/
def mismatch (p : MeshPacket) (name : Option String) (channel : ChannelDef) : Bool ×ₗ Bool :=
  toLex (decide (some channel.name ≠ name), decide (channel.hash.toUInt32 ≠ p.channel))

/-- The place of a channel before packets come in: the joined ones by name, and then the primary one. -/
def listedAt (c : Client) (channel : ChannelDef) : Bool ×ₗ String :=
  toLex (decide (channel ∉ c.channelList), channel.name)

/-- The order in which a client tries the keys of channels on a delivery. -/
def precedence (c : Client) (d : Delivery) (channel : ChannelDef) : (Bool ×ₗ Bool) ×ₗ Bool ×ₗ String :=
  toLex (mismatch d.packet d.channel channel, c.listedAt channel)

theorem rank_le_iff {p : MeshPacket} {name : Option String} {x y : ChannelDef} :
    rank p name x ≤ rank p name y ↔ mismatch p name x ≤ mismatch p name y := by
  unfold rank mismatch
  rw [Prod.Lex.toLex_le_toLex]
  by_cases hx : some x.name = name <;> by_cases hy : some y.name = name <;>
    by_cases hx' : x.hash.toUInt32 = p.channel <;> by_cases hy' : y.hash.toUInt32 = p.channel <;>
    simp [hx, hy, hx', hy']

variable {c : Client} {d : Delivery} {p : MeshPacket} {name : Option String}

/-- The channels that a packet may belong to. -/
def IsCandidate (c : Client) (channel : ChannelDef) : Prop :=
  channel ∈ c.channelList ∨ channel = c.primary

theorem mem_candidates_iff {channel : ChannelDef} : channel ∈ c.candidates ↔ c.IsCandidate channel := by
  rw [candidates, IsCandidate]
  split
  · next hprimary => exact ⟨.inl, fun h => h.elim id fun heq => heq ▸ hprimary⟩
  · rw [List.mem_append, List.mem_singleton]

theorem mem_ranked_iff {cs : List ChannelDef} {channel : ChannelDef} : channel ∈ ranked p name cs ↔ channel ∈ cs := by
  refine ⟨mem_of_mem_ranked, fun h => List.mem_flatMap.2 ⟨rank p name channel, ?_, ?_⟩⟩
  · exact List.mem_range.2 (rank_lt p name channel)
  · exact List.mem_filter.2 ⟨h, decide_eq_true rfl⟩

theorem candidates_pairwise (hnamed : Named c.channels) :
    c.candidates.Pairwise fun x y => c.listedAt x < c.listedAt y := by
  have hlisted : c.channelList.Pairwise fun x y => c.listedAt x < c.listedAt y := by
    refine (channelList_ascending hnamed).imp_of_mem fun {x y} hx hy hlt => ?_
    rw [listedAt, listedAt, Prod.Lex.toLex_lt_toLex]
    exact .inr ⟨by simp [hx, hy], hlt⟩
  rw [candidates]
  split
  · exact hlisted
  · next hprimary =>
    refine List.pairwise_append.2 ⟨hlisted, List.pairwise_singleton _ _, fun x hx y hy => ?_⟩
    rw [List.mem_singleton.1 hy, listedAt, listedAt, Prod.Lex.toLex_lt_toLex]
    exact .inl (by simp [hx, hprimary])

theorem ranked_pairwise {κ : Type} [LinearOrder κ] {k : ChannelDef → κ} {cs : List ChannelDef}
    (h : cs.Pairwise fun x y => k x < k y) :
    (ranked p name cs).Pairwise fun x y => toLex (mismatch p name x, k x) < toLex (mismatch p name y, k y) := by
  refine List.pairwise_flatMap.2 ⟨fun r _ => ?_, List.pairwise_lt_range.imp fun {r r'} hlt x hx y hy => ?_⟩
  · refine (h.filter _).imp_of_mem fun {x y} hx hy hlt => ?_
    have hrank : rank p name x = rank p name y :=
      (of_decide_eq_true (List.mem_filter.1 hx).2).trans (of_decide_eq_true (List.mem_filter.1 hy).2).symm
    rw [Prod.Lex.toLex_lt_toLex]
    exact .inr ⟨le_antisymm (rank_le_iff.1 hrank.le) (rank_le_iff.1 hrank.ge), hlt⟩
  · have hx := of_decide_eq_true (List.mem_filter.1 hx).2
    have hy := of_decide_eq_true (List.mem_filter.1 hy).2
    rw [Prod.Lex.toLex_lt_toLex]
    refine .inl (lt_iff_lt_of_le_iff_le rank_le_iff |>.1 ?_)
    rwa [hx, hy]

/-! ### The search -/

/-- The channel reads what a delivery covers, and it is the first of the candidates that do. -/
structure IsFirst (c : Client) (d : Delivery) (covered : Bytes) (data : Data) (channel : ChannelDef) : Prop where
  candidate : c.IsCandidate channel
  reads : channel.Reads d.packet covered data
  first : ∀ other data', c.IsCandidate other → other.Reads d.packet covered data' →
    c.precedence d channel ≤ c.precedence d other

theorem isSome_openWithChannels?_iff {covered : Bytes} :
    (c.openWithChannels? p covered name).isSome = true ↔
      ∃ channel data, c.IsCandidate channel ∧ channel.Reads p covered data := by
  rw [openWithChannels?, List.findSome?_isSome_iff]
  simp only [mem_ranked_iff, mem_candidates_iff, isSome_readWith?_iff, exists_and_left]

theorem openWithChannels?_eq_some_iff (hnamed : Named c.channels) {covered : Bytes} {data : Data}
    {channel : ChannelDef} :
    c.openWithChannels? d.packet covered d.channel = some (data, channel) ↔ c.IsFirst d covered data channel := by
  have hsorted : (ranked d.packet d.channel c.candidates).Pairwise fun x y => c.precedence d x < c.precedence d y :=
    ranked_pairwise (candidates_pairwise hnamed)
  rw [openWithChannels?, findSome?_eq_some_iff_of_pairwise hsorted]
  simp only [mem_ranked_iff, mem_candidates_iff, isSome_readWith?_iff]
  constructor
  · rintro ⟨tried, hcandidate, hread, hfirst⟩
    obtain ⟨rfl, hreads⟩ := readWith?_eq_some_iff.1 hread
    exact ⟨hcandidate, hreads, fun other data' hother hreads' => hfirst other hother ⟨data', hreads'⟩⟩
  · intro h
    refine ⟨channel, h.candidate, readWith?_eq_some_iff.2 ⟨rfl, h.reads⟩, fun other hother hread => ?_⟩
    obtain ⟨data', hreads'⟩ := hread
    exact h.first other data' hother hreads'

/-- The search over joined channels that are listed in any order: they are sorted by name, the primary channel comes
behind them unless it is one of them, and those that fit the packet better are tried first. -/
def searchListed (listing : List ChannelDef) (primary : ChannelDef) (p : MeshPacket) (covered : Bytes)
    (name : Option String) : Option (Data × ChannelDef) :=
  let joined := listing.mergeSort fun x y => decide (x.name ≤ y.name)
  let tried := if primary ∈ joined then joined else joined ++ [primary]
  (tried.mergeSort fun x y => decide (mismatch p name x ≤ mismatch p name y)).findSome? (readWith? p covered)

theorem mergeSort_name_eq (hnamed : Named c.channels) {listing : List ChannelDef} (h : listing.Perm c.channelList) :
    (listing.mergeSort fun x y => decide (x.name ≤ y.name)) = c.channelList := by
  have hascending := channelList_ascending hnamed
  have hnames : (c.channelList.map (·.name)).Nodup := (List.pairwise_map.2 hascending).imp fun hlt => hlt.ne
  have hperm := (List.mergeSort_perm listing fun x y => decide (x.name ≤ y.name)).trans h
  exact hperm.eq_of_pairwise (fun x y hx hy hxy hyx =>
    List.inj_on_of_nodup_map hnames (hperm.mem_iff.1 hx) hy (le_antisymm hxy hyx))
    (pairwise_mergeSort_key (·.name) listing) (hascending.imp fun hlt => hlt.le)

theorem mergeSort_mismatch_eq (hnamed : Named c.channels) :
    (c.candidates.mergeSort fun x y => decide (mismatch p name x ≤ mismatch p name y)) = ranked p name c.candidates :=
  eq_of_pairwise_lt_of_mem_iff (pairwise_mergeSort_toLex (candidates_pairwise hnamed))
    (ranked_pairwise (candidates_pairwise hnamed)) fun x => by rw [List.mem_mergeSort, mem_ranked_iff]

theorem searchListed_eq (hnamed : Named c.channels) {listing : List ChannelDef} (h : listing.Perm c.channelList)
    (covered : Bytes) : searchListed listing c.primary p covered name = c.openWithChannels? p covered name := by
  rw [openWithChannels?, ← mergeSort_mismatch_eq hnamed, searchListed, mergeSort_name_eq hnamed h]
  rfl

theorem openWithChannels?_congr {c' : Client} (hchannels : c'.channels = c.channels) (hprimary : c'.primary = c.primary)
    (covered : Bytes) : c'.openWithChannels? p covered name = c.openWithChannels? p covered name := by
  rw [openWithChannels?, openWithChannels?, candidates, candidates, channelList, channelList, hchannels, hprimary]

/-- Channels are the same after runs that leave the same definitions behind. -/
theorem channels_after_eq {s s' : Settings} {m₀ m₀' : Moment} {actions actions' : List (Moment × Action)}
    (h : ∀ name, latest? (joins actions') name = latest? (joins actions) name) :
    (after s' m₀' actions').channels = (after s m₀ actions).channels := by
  refine NameMap.ext_get? fun name => ?_
  show (after s' m₀' actions').channel? name = (after s m₀ actions).channel? name
  rw [channel?_after, channel?_after, h]

/-- A covered packet that keys of nodes do not open is opened just if some joined channel or the primary one reads it,
and the first one that does is reported: the name that the link gave counts most, then the hash, and then the joined
channels come by name and a primary one that was not joined comes last. In what order the joined channels are listed
makes no difference, and in what order they were joined makes none. -/
theorem key_search (s : Settings) (m₀ : Moment) (actions : List (Moment × Action)) (d : Delivery) (covered : Bytes)
    (hbody : d.packet.body = some (.encrypted covered)) (hdirect : (after s m₀ actions).NotDirect d) :
    let c := after s m₀ actions
    ((c.open? d).isSome = true ↔ ∃ channel data, c.IsCandidate channel ∧ channel.Reads d.packet covered data) ∧
    (∀ r, c.open? d = some r ↔ ∃ data channel, c.IsFirst d covered data channel ∧ r = d.keyed data channel) ∧
    (∀ listing : List ChannelDef, listing.Perm c.channelList →
      c.open? d = (searchListed listing c.primary d.packet covered d.channel).map
        fun (data, channel) => d.keyed data channel) ∧
    ∀ s' m₀' actions', (after s' m₀' actions').primary = c.primary → (after s' m₀' actions').NotDirect d →
      ((joins actions').Perm (joins actions) ∧ ((joins actions).map (·.name)).Nodup ∨
        ∀ name, latest? (joins actions') name = latest? (joins actions) name) →
      (after s' m₀' actions').open? d = c.open? d := by
  intro c
  have hnamed : Named c.channels := channels_named_after s m₀ actions
  have hopen := open?_of_not_direct hbody hdirect
  refine ⟨?_, fun r => ?_, fun listing hlisting => ?_, fun s' m₀' actions' hprimary hdirect' hjoins => ?_⟩
  · rw [hopen, Option.isSome_map]
    exact isSome_openWithChannels?_iff
  · rw [hopen, Option.map_eq_some_iff]
    constructor
    · rintro ⟨⟨data, channel⟩, hfound, rfl⟩
      exact ⟨data, channel, (openWithChannels?_eq_some_iff hnamed).1 hfound, rfl⟩
    · rintro ⟨data, channel, hfirst, rfl⟩
      exact ⟨(data, channel), (openWithChannels?_eq_some_iff hnamed).2 hfirst, rfl⟩
  · rw [hopen, searchListed_eq hnamed hlisting]
  · have hlatest : ∀ name, latest? (joins actions') name = latest? (joins actions) name :=
      hjoins.elim (fun h => latest?_eq_of_perm h.1 h.2) id
    rw [hopen, open?_of_not_direct hbody hdirect',
      openWithChannels?_congr (channels_after_eq hlatest) hprimary]

/-- Two channels in the clear read the packet. Their names stand against the one that comes first by its hash, in
whatever order they were joined. -/
theorem key_search_hash :
    let m : Moment := ⟨0, 0, fun _ => 0⟩
    let first : ChannelDef := ⟨"Alpha", []⟩
    let second : ChannelDef := ⟨"Beta", []⟩
    let data : Data := { portNumber := Port.textMessage.number, payload := [104, 105] }
    let covered := Data.schema.encode data
    let p : MeshPacket :=
      { sender := 16, dest := 0xFFFFFFFF, channel := second.hash.toUInt32, body := some (.encrypted covered) }
    let d : Delivery := ⟨p, none, none, .udp⟩
    let c := after (.ofNode ⟨17⟩) m [(m, .addChannel first), (m, .addChannel second)]
    let c' := after (.ofNode ⟨17⟩) m [(m, .addChannel second), (m, .addChannel first)]
    c.open? d = some (d.keyed data second) ∧ c'.open? d = some (d.keyed data second) := by
  intro m first second data covered p d c c'
  have hdirect : ∀ c : Client, c.NotDirect d := fun c => c.notDirect_of_isBroadcast rfl
  obtain ⟨-, hfound, -, horder⟩ := key_search (.ofNode ⟨17⟩) m [(m, .addChannel first), (m, .addChannel second)] d
    covered rfl (hdirect _)
  obtain ⟨hdecode, hport⟩ := Data.read_eq_ok_iff.1 (Data.read_encode (d := data) (by decide) (by decide))
  have hreads : second.Reads p covered data := ⟨.inl rfl, ⟨covered, rfl, hdecode⟩, Data.port_ne_unknown_iff.1 hport⟩
  have hleast : ∀ other ∈ c.candidates, c.precedence d second ≤ c.precedence d other := by decide
  have hopen := (hfound _).2 ⟨data, second, ⟨.inl (by decide), hreads, fun other _ hother _ =>
    hleast other (mem_candidates_iff.2 hother)⟩, rfl⟩
  have hsame := horder (.ofNode ⟨17⟩) m [(m, .addChannel second), (m, .addChannel first)] rfl (hdirect _)
    (.inl ⟨.swap _ _ _, by decide⟩)
  exact ⟨hopen, hsame.trans hopen⟩

end Client

end RadioMesh
