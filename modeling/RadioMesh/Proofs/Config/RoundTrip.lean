import Mathlib.Data.List.Basic
import RadioMesh.Config.Save
import RadioMesh.Proofs.Toml.Document
import RadioMesh.Proofs.Toml.Range

/-!
Saved configurations are loaded as they were. Every section is read back from its blocks, with what is absent
left out, and what a document can hold bounds the one number that might not fit into another document.
-/

namespace RadioMesh.Config

open Toml (Value Block Plain Fields isBareName)

/-! ### Blocks of sections -/

/-- A configuration fits into a document. The interval is the only number of it that may be too large. -/
def Fits (c : Config) : Prop :=
  (Plain.number c.mesh.neighborInterval.toNat).Fits

theorem fits_number {n : Nat} (h : n < UInt32.size) : (Plain.number n).Fits := by
  have hmax : Int64.maxValue.toInt = 9223372036854775807 := by decide
  rw [Plain.Fits, hmax]
  simp only [UInt32.size] at h
  omega

theorem fits_absent : (Plain.number ({} : MeshConfig).neighborInterval.toNat).Fits :=
  fits_number (by decide)

theorem fits_text (s : String) : (Plain.text s).Fits := trivial

theorem fits_truth (b : Bool) : (Plain.truth b).Fits := trivial

/-- Settings that can be read back under their names. -/
structure Readable (settings : List (String × Plain)) : Prop where
  plain : ∀ s ∈ settings, isBareName s.1 = true ∧ s.2.Fits
  distinct : (settings.map (·.1)).Nodup

theorem readable_node (c : NodeConfig) : Readable (nodeBlock c).settings := by
  obtain ⟨id, longName, shortName, privateKey, publicKey⟩ := c
  constructor
  · cases privateKey <;> cases publicKey <;> simp [nodeBlock, maybeText, fits_text] <;> decide
  · cases privateKey <;> cases publicKey <;> simp [nodeBlock, maybeText]

theorem readable_mesh {c : Config} (h : c.Fits) : Readable (meshBlock c.mesh).settings := by
  have hhop := fits_number c.mesh.hopLimit.toNat_lt_size
  rw [Fits] at h
  constructor
  · simp [meshBlock, fits_text, hhop, h]
    decide
  · simp [meshBlock]

theorem readable_channel (c : ChannelConfig) : Readable (channelBlock c).settings := by
  obtain ⟨name, key⟩ := c
  constructor
  · cases key <;> simp [channelBlock, maybeText, fits_text] <;> decide
  · cases key <;> simp [channelBlock, maybeText]

theorem readable_broker (c : BrokerConfig) : Readable (brokerBlock c).settings := by
  have hport := fits_number (Nat.lt_trans c.port.toNat_lt_size (by decide))
  obtain ⟨enabled, host, port, username, password, rootTopic, clientId, tls⟩ := c
  constructor
  · cases username <;> cases password <;> simp [brokerBlock, maybeText, fits_text, fits_truth, hport] <;> decide
  · cases username <;> cases password <;> simp [brokerBlock, maybeText]

theorem readable_multicast (c : MulticastConfig) : Readable (multicastBlock c).settings := by
  have hport := fits_number (Nat.lt_trans c.port.toNat_lt_size (by decide))
  obtain ⟨enabled, group, port, localAddress⟩ := c
  constructor
  · cases localAddress <;> simp [multicastBlock, maybeText, fits_text, fits_truth, hport] <;> decide
  · cases localAddress <;> simp [multicastBlock, maybeText]

theorem readable_logging (c : LoggingConfig) : Readable (loggingBlock c).settings := by
  constructor
  · simp [loggingBlock, fits_text]
    decide
  · simp [loggingBlock]

/-! ### Settings -/

theorem number?_natCast {limit n : Nat} (h : n < limit) : number? limit (.integer n) = some n := by
  have hnat : (n : Int).toNat? = some n := rfl
  simp [number?, hnat, h]

theorem word16?_toNat (n : UInt16) : word16? (.integer n.toNat) = some n := by
  rw [word16?, number?_natCast n.toNat_lt_size]
  simp

theorem word32?_toNat (n : UInt32) : word32? (.integer n.toNat) = some n := by
  rw [word32?, number?_natCast n.toNat_lt_size]
  simp

theorem word64?_toNat (n : UInt64) : word64? (.integer n.toNat) = some n := by
  rw [word64?, number?_natCast n.toNat_lt_size]
  simp

/-! ### Sections -/

theorem orElse_some {α : Type} (v : Value) (read : Value → Option α) (absent : α) :
    orElse (some v) read absent = read v := rfl

theorem orElse_none {α : Type} (read : Value → Option α) (absent : α) : orElse none read absent = some absent := rfl

theorem section?_table (fs : List (String × Value)) : section? (.table fs) = some fun _ name => fs.lookup name :=
  rfl

theorem text?_string (s : String) : text? (.string s) = some s := rfl

theorem truth?_boolean (b : Bool) : truth? (.boolean b) = some b := rfl

theorem maybe_text (s : Option String) : maybe (s.map Value.string) text? = some s := by
  cases s <;> rfl

theorem lookup_maybeText (name key : String) (s : Option String) :
    ((maybeText name s).map fun s => (s.1, s.2.meant)).lookup key =
      if key = name then s.map Value.string else none := by
  cases s with
  | none => simp [maybeText]
  | some s => by_cases h : key = name <;> simp [maybeText, List.lookup_cons, h, beq_eq_false_iff_ne.mpr]

theorem node?_content (c : NodeConfig) : node? (.table (nodeBlock c).content) = some c := by
  simp [node?, section?_table, nodeBlock, Block.content, List.lookup_append, lookup_maybeText, List.lookup_cons,
    orElse_some, maybe_text, text?_string]

theorem channel?_content (c : ChannelConfig) : channel? (.table (channelBlock c).content) = some c := by
  simp [channel?, section?_table, channelBlock, Block.content, lookup_maybeText, List.lookup_cons, maybe_text,
    text?_string]

theorem channels?_content (cs : List ChannelConfig) :
    list? channel? (.array (cs.map fun c => .table (channelBlock c).content)) = some cs := by
  induction cs with
  | nil => rfl
  | cons c cs ih =>
    rw [list?] at ih
    simp [list?, channel?_content, ih]

theorem mesh?_content (c : MeshConfig) :
    mesh? (.table ((meshBlock c).content ++
      [("channels", .array (c.channels.map fun ch => .table (channelBlock ch).content))])) = some c := by
  have hchannels := channels?_content c.channels
  generalize Value.array (c.channels.map fun ch => .table (channelBlock ch).content) = v at hchannels ⊢
  simp [mesh?, section?_table, meshBlock, Block.content, List.lookup_cons, orElse_some, text?_string, word32?_toNat,
    word64?_toNat, hchannels]

theorem broker?_content (c : BrokerConfig) : broker? (.table (brokerBlock c).content) = some c := by
  simp [broker?, section?_table, brokerBlock, Block.content, List.lookup_append, lookup_maybeText,
    List.lookup_cons, orElse_some, maybe_text, text?_string, truth?_boolean, word16?_toNat]

theorem multicast?_content (c : MulticastConfig) : multicast? (.table (multicastBlock c).content) = some c := by
  simp [multicast?, section?_table, multicastBlock, Block.content, lookup_maybeText,
    List.lookup_cons, orElse_some, maybe_text, text?_string, truth?_boolean, word16?_toNat]

theorem logging?_content (c : LoggingConfig) : logging? (.table (loggingBlock c).content) = some c := by
  simp [logging?, section?_table, loggingBlock, Block.content, List.lookup_cons, text?_string]

/-! ### Documents -/

theorem Readable.sound {b : Block} (h : Readable b.settings) (path : List String) (hpath : b.heading.path = path)
    (bare : path ≠ [] ∧ path.length ≤ Toml.Statement.maxDepth ∧ ∀ name ∈ path, isBareName name = true) : b.Sound := by
  subst hpath
  exact ⟨bare.1, bare.2.1, bare.2.2, h.plain⟩

theorem sound_blocks {c : Config} (h : c.Fits) : ∀ b ∈ c.blocks, b.Sound := by
  intro b hb
  simp only [blocks, List.mem_append, List.mem_cons, List.mem_map, List.not_mem_nil, or_false] at hb
  rcases hb with (rfl | rfl | ⟨ch, -, rfl⟩) | rfl | rfl | rfl
  · exact (readable_node c.node).sound ["node"] rfl (by decide)
  · exact (readable_mesh h).sound ["mesh"] rfl (by decide)
  · exact (readable_channel ch).sound ["mesh", "channels"] rfl (by decide)
  · exact (readable_broker c.broker).sound ["mqtt"] rfl (by decide)
  · exact (readable_multicast c.multicast).sound ["multicast"] rfl (by decide)
  · exact (readable_logging c.logging).sound ["logging"] rfl (by decide)

/-- The root table of a saved configuration. -/
def root (c : Config) : List (String × Value) := [
  ("node", .table (nodeBlock c.node).content),
  ("mesh", .table ((meshBlock c.mesh).content ++
    [("channels", .array (c.mesh.channels.map fun ch => .table (channelBlock ch).content))])),
  ("mqtt", .table (brokerBlock c.broker).content),
  ("multicast", .table (multicastBlock c.multicast).content),
  ("logging", .table (loggingBlock c.logging).content)]

theorem ofRoot?_root (c : Config) : ofRoot? (.table c.root) = some c := by
  simp [ofRoot?, section?_table, root, List.lookup_cons, orElse_some, node?_content, mesh?_content, broker?_content,
    multicast?_content, logging?_content]

/-- What the blocks of a configuration make of an empty document. Without a channel no block would tell of the
list. -/
theorem foldlM_blocks {c : Config} (h : c.Fits) (hchannels : c.mesh.channels ≠ []) :
    ∃ last, (c.blocks.flatMap Block.statements).foldlM Toml.Draft.add Toml.Draft.empty = some ⟨[
      ("node", .table .header (nodeBlock c.node).fields),
      ("mesh", .table .header ((meshBlock c.mesh).fields ++
        [("channels", .tables ((c.mesh.channels.map channelBlock).map Block.fields))])),
      ("mqtt", .table .header (brokerBlock c.broker).fields),
      ("multicast", .table .header (multicastBlock c.multicast).fields),
      ("logging", .table .header (loggingBlock c.logging).fields)], last⟩ := by
  have hmesh : "mesh" ∉ [("node", Toml.Node.table .header (nodeBlock c.node).fields)].map (·.1) := by simp
  have hfree : "channels" ∉ (meshBlock c.mesh).fields.map (·.1) := by simp [Block.fields, meshBlock]
  have hblocks : ∀ b ∈ c.mesh.channels.map channelBlock,
      b.heading = .element (["mesh"] ++ ["channels"]) ∧ (b.settings.map (·.1)).Nodup := by
    simpa using fun ch _ => ⟨rfl, (readable_channel ch).distinct⟩
  have helements := (Toml.leadsTo_table hmesh []).foldlM_elements (by simpa using hchannels) hblocks hfree
  obtain ⟨first, hfirst⟩ := Toml.foldlM_tables [("node", nodeBlock c.node), ("mesh", meshBlock c.mesh)] []
    (by simpa using ⟨⟨rfl, (readable_node c.node).distinct⟩, rfl, (readable_mesh h).distinct⟩) (by simp) []
  obtain ⟨last, hlast⟩ := Toml.foldlM_tables
    [("mqtt", brokerBlock c.broker), ("multicast", multicastBlock c.multicast), ("logging", loggingBlock c.logging)]
    [("node", .table .header (nodeBlock c.node).fields), ("mesh", .table .header ((meshBlock c.mesh).fields ++
      [("channels", .tables ((c.mesh.channels.map channelBlock).map Block.fields))]))]
    (by simpa using ⟨⟨rfl, (readable_broker c.broker).distinct⟩, ⟨rfl, (readable_multicast c.multicast).distinct⟩,
      rfl, (readable_logging c.logging).distinct⟩) (by simp) ["mesh", "channels"]
  have hshape : c.blocks.flatMap Block.statements =
      ([("node", nodeBlock c.node), ("mesh", meshBlock c.mesh)].flatMap fun b => b.2.statements) ++
      ((c.mesh.channels.map channelBlock).flatMap Block.statements ++
        [("mqtt", brokerBlock c.broker), ("multicast", multicastBlock c.multicast),
          ("logging", loggingBlock c.logging)].flatMap fun b => b.2.statements) := by
    simp [blocks]
  have hmiddle := helements first
  simp only [List.map_cons, List.map_nil, List.nil_append, List.cons_append] at hfirst hmiddle hlast
  refine ⟨last, ?_⟩
  rw [hshape, List.foldlM_append, Toml.Draft.empty, hfirst, Option.bind_eq_bind, Option.bind_some, List.foldlM_append,
    hmiddle]
  exact hlast

theorem read?_text {c : Config} (h : c.Fits) (hchannels : c.mesh.channels ≠ []) :
    Toml.read? c.text = some (.table c.root) := by
  obtain ⟨last, hlast⟩ := foldlM_blocks h hchannels
  have hitems : Toml.itemValues (c.mesh.channels.map (Block.fields ∘ channelBlock)) =
      c.mesh.channels.map fun ch => .table (channelBlock ch).content := by
    rw [← List.map_map, Toml.itemValues_fields, List.map_map]
    rfl
  rw [text, Toml.read?_write (sound_blocks h), hlast]
  simp [root, Toml.fieldValues, Toml.Node.toValue, Toml.fieldValues_append, Toml.fieldValues_fields, hitems]

/-! ### Loaded configurations -/

theorem fits_of_section? {v w : Value} (h : v.Fits) {get : Nat → String → Option Value} (hget : section? v = some get)
    {place : Nat} {name : String} (hw : get place name = some w) : w.Fits := by
  cases h with
  | table hfields =>
    obtain rfl := Option.some.inj hget
    obtain ⟨front, back, rfl, -⟩ := List.lookup_eq_some_iff.mp hw
    exact hfields (name, w) (by simp)
  | array hitems =>
    obtain rfl := Option.some.inj hget
    exact hitems w (List.mem_of_getElem? hw)
  | datetime =>
    obtain rfl := Option.some.inj hget
    cases hw
  | _ => cases hget

theorem fits_of_word64? {v : Value} (h : v.Fits) {n : UInt64} (hn : word64? v = some n) :
    (Plain.number n.toNat).Fits := by
  obtain ⟨m, hm, rfl⟩ := Option.map_eq_some_iff.mp hn
  cases h with
  | integer low high =>
    rename_i k
    obtain ⟨hm, hlt⟩ := Option.filter_eq_some_iff.mp hm
    have hk : k = m := by
      cases k with
      | ofNat k => exact congrArg Int.ofNat (Option.some.inj hm)
      | negSucc k => cases hm
    rw [Plain.Fits, UInt64.toNat_ofNat_of_lt' (by simpa using hlt), ← hk]
    exact high
  | _ => cases hm

/-- The interval of a section that a document has fits into another one, as does the one that stands in for it. -/
theorem fits_of_mesh? {v : Value} (h : v.Fits) {c : MeshConfig} (hc : mesh? v = some c) :
    (Plain.number c.neighborInterval.toNat).Fits := by
  obtain ⟨get, hget, hc⟩ := Option.bind_eq_some_iff.mp hc
  obtain ⟨_, -, hc⟩ := Option.bind_eq_some_iff.mp hc
  obtain ⟨_, -, hc⟩ := Option.bind_eq_some_iff.mp hc
  obtain ⟨_, -, hc⟩ := Option.bind_eq_some_iff.mp hc
  obtain ⟨interval, hinterval, hc⟩ := Option.bind_eq_some_iff.mp hc
  obtain rfl := Option.some.inj hc
  cases hfound : get 3 "neighbor_broadcast_interval_secs" with
  | none =>
    rw [hfound, orElse_none] at hinterval
    obtain rfl := Option.some.inj hinterval
    exact fits_absent
  | some w =>
    rw [hfound, orElse_some] at hinterval
    exact fits_of_word64? (fits_of_section? h hget hfound) hinterval

theorem fits_of_ofRoot? {v : Value} (h : v.Fits) {c : Config} (hc : ofRoot? v = some c) : c.Fits := by
  obtain ⟨get, hget, hc⟩ := Option.bind_eq_some_iff.mp hc
  obtain ⟨_, -, hc⟩ := Option.bind_eq_some_iff.mp hc
  obtain ⟨mesh, hmesh, hc⟩ := Option.bind_eq_some_iff.mp hc
  obtain ⟨_, -, hc⟩ := Option.bind_eq_some_iff.mp hc
  obtain ⟨_, -, hc⟩ := Option.bind_eq_some_iff.mp hc
  obtain ⟨_, -, hc⟩ := Option.bind_eq_some_iff.mp hc
  obtain rfl := Option.some.inj hc
  obtain ⟨w, hw, hmesh⟩ := Option.bind_eq_some_iff.mp hmesh
  exact fits_of_mesh? (fits_of_section? h hget hw) hmesh

theorem ofText_eq_ok {text : String} {c : Config} (h : ofText text = .ok c) : c.Fits ∧ c.check = .ok () := by
  unfold ofText at h
  split at h
  · cases h
  · rename_i d hd
    obtain ⟨v, hv, hd⟩ := Option.bind_eq_some_iff.mp hd
    cases hcheck : d.check with
    | error e => simp [hcheck, Except.map] at h
    | ok =>
      obtain rfl : d = c := by simpa [hcheck, Except.map] using h
      exact ⟨fits_of_ofRoot? (Toml.fits_of_read? hv) hd, hcheck⟩

theorem channels_ne_nil_of_check {c : Config} (h : c.check = .ok ()) : c.mesh.channels ≠ [] := by
  intro hnil
  rw [check, hnil] at h
  cases hid : c.nodeId <;> cases hdefs : c.channelDefs <;> rw [hid, hdefs] at h <;> cases h

theorem ofText_text {c : Config} (h : c.Fits) (hcheck : c.check = .ok ()) : ofText c.text = .ok c := by
  rw [ofText, read?_text h (channels_ne_nil_of_check hcheck), Option.bind_some, ofRoot?_root]
  simp [hcheck, Except.map]

theorem save_eq_ok {c : Config} (h : c.Fits) : c.save = .ok c.text := if_pos h

/-- A configuration that was loaded can be saved, and what is saved is loaded as the same configuration, whether a
new one might be created or not. -/
theorem load_save {text : String} {c : Config} (h : load (some text) = .ok c) :
    ∃ saved, c.save = .ok saved ∧ load (some saved) = .ok c ∧
      ∀ words, loadOrCreate (some saved) words = .ok (c, saved) := by
  obtain ⟨hfits, hcheck⟩ := ofText_eq_ok h
  have hload := ofText_text hfits hcheck
  refine ⟨c.text, save_eq_ok hfits, hload, fun words => ?_⟩
  simp [loadOrCreate, hload, Except.map]

theorem load_save_quoted :
    ∃ c, load (some ("[node]\nid = \"!a1b2c3d4\"\nlong_name = \"caf\\u00e9 \\\"x\\\"\\r\\n\\u0007'\"\n[mesh]\n" ++
        "[[mesh.channels]]\nname = \"LongFast\"\nkey = \"\"\n[[mesh.channels]]\nname = \"bare\"\n")) = .ok c ∧
      c.node.longName = "café \"x\"\r\n\x07'" ∧ c.mesh.channels = [⟨"LongFast", some ""⟩, ⟨"bare", none⟩] ∧
      ∃ saved, c.save = .ok saved ∧ load (some saved) = .ok c ∧
        ∀ words, loadOrCreate (some saved) words = .ok (c, saved) := by
  refine ⟨
    { node := { id := "!a1b2c3d4", longName := "café \"x\"\r\n\x07'" }
      mesh := { channels := [⟨"LongFast", some ""⟩, ⟨"bare", none⟩] } }, ?loaded, rfl, rfl, load_save ?loaded⟩
  decide +kernel

end RadioMesh.Config
