import RadioMesh.Proofs.Channel.KeyText
import RadioMesh.Proofs.Client.FanOut
import RadioMesh.Proofs.Config.RoundTrip

/-!
What a configuration that was loaded is good for. Its node, its channels and the settings of its client and its broker
are there, as the check reads them. The check reads a channel's key text but does not look at the length of the key,
so there are channels that no packet goes out on.
-/

namespace RadioMesh

/-! ### Keys as they are written -/

theorem Key.isChannelKey_expanded_iff {written : Bytes} :
    IsChannelKey (expanded written) ↔ written.length = 1 ∨ IsChannelKey written := by
  by_cases hone : written.length = 1
  · obtain ⟨index, rfl⟩ := List.length_eq_one_iff.1 hone
    refine ⟨fun _ => .inl rfl, fun _ => ?_⟩
    rw [expanded, expand]
    split
    · exact .inl rfl
    · exact .inr (.inl rfl)
  · rw [expanded_of_length_ne_one hone]
    exact ⟨.inr, fun h => h.resolve_left hone⟩

/-- A channel without a key text, or with that of a key that covers data, in its short form or in full. -/
def ChannelConfig.HasCipherKey (ch : ChannelConfig) : Prop :=
  ∀ text, ch.key = some text → text ≠ "" → ∃ written, Key.parse text = .ok written ∧
    (written.length = 1 ∨ IsChannelKey written)

namespace Config

variable {c : Config} {ch : ChannelConfig} {d : ChannelDef}

theorem name_of_ofChannel (h : ofChannel ch = .ok d) : d.name = ch.name := by
  obtain ⟨written, rfl⟩ := ChannelDef.exists_key_of_ofKeyText (eq_ok_of_mapError h)
  rfl

theorem isChannelKey_iff_of_ofChannel (h : ofChannel ch = .ok d) : IsChannelKey d.key ↔ ch.HasCipherKey := by
  have hmade := eq_ok_of_mapError h
  unfold ChannelDef.ofKeyText at hmade
  split at hmade
  · next hkey =>
    cases hmade
    refine ⟨fun _ text htext => ?_, fun _ => .inl rfl⟩
    cases hkey.symm.trans htext
  · next text hkey =>
    split at hmade
    · next hempty =>
      cases hmade
      refine ⟨fun _ text' htext' hne => ?_, fun _ => .inl rfl⟩
      rw [hkey, Option.some.injEq] at htext'
      exact absurd (htext' ▸ hempty) hne
    · next hne =>
      cases hparse : Key.parse text with
      | error e =>
        rw [hparse] at hmade
        cases hmade
      | ok written =>
        rw [hparse] at hmade
        cases hmade
        rw [Key.isChannelKey_expanded_iff]
        constructor
        · intro hlength text' htext' _
          rw [hkey, Option.some.injEq] at htext'
          exact ⟨written, htext' ▸ hparse, hlength⟩
        · intro hcipher
          obtain ⟨written', hparse', hlength⟩ := hcipher text hkey hne
          rw [hparse] at hparse'
          cases hparse'
          exact hlength

/-! ### What the check has seen -/

theorem exists_of_check (h : c.check = .ok ()) : (∃ node, c.nodeId = .ok node) ∧ (∃ ds, c.channelDefs = .ok ds) ∧
    ∃ ch ∈ c.mesh.channels, ch.name = c.mesh.primaryChannel := by
  obtain ⟨node, hnode, h⟩ := exists_of_bind_eq_ok h
  obtain ⟨ds, hds, h⟩ := exists_of_bind_eq_ok h
  refine ⟨⟨node, hnode⟩, ⟨ds, hds⟩, ?_⟩
  by_contra hnone
  have hany : c.mesh.channels.any (·.name = c.mesh.primaryChannel) = false := by
    simpa using hnone
  rw [hany] at h
  cases h

/-- Channels are made one by one. -/
theorem forall₂_of_mapM {ε α β : Type} {f : α → Except ε β} {xs : List α} {ys : List β} (h : xs.mapM f = .ok ys) :
    List.Forall₂ (fun x y => f x = .ok y) xs ys := by
  induction xs generalizing ys with
  | nil =>
    cases h
    exact .nil
  | cons x xs ih =>
    rw [List.mapM_cons] at h
    obtain ⟨y, hy, h⟩ := exists_of_bind_eq_ok h
    obtain ⟨rest, hrest, h⟩ := exists_of_bind_eq_ok h
    cases h
    exact .cons hy (ih hrest)

/-- The first channel of a name is made from the first one that is listed under it. -/
theorem exists_find?_of_forall₂ {chs : List ChannelConfig} {ds : List ChannelDef}
    (h : List.Forall₂ (fun ch d => ofChannel ch = .ok d) chs ds) {name : String}
    (hlisted : ∃ ch ∈ chs, ch.name = name) :
    ∃ ch d, chs.find? (·.name = name) = some ch ∧ ofChannel ch = .ok d ∧ ds.find? (·.name = name) = some d := by
  induction h with
  | nil =>
    obtain ⟨ch, hch, -⟩ := hlisted
    cases hch
  | @cons ch d chs ds hmade hrest ih =>
    have hname := name_of_ofChannel hmade
    by_cases hfirst : ch.name = name
    · refine ⟨ch, d, List.find?_cons_of_pos (by simpa using hfirst), hmade, List.find?_cons_of_pos ?_⟩
      simpa [hname] using hfirst
    · obtain ⟨ch', hch', hname'⟩ := hlisted
      have hmem : ch' ∈ chs := (List.mem_cons.1 hch').resolve_left fun heq => hfirst (heq ▸ hname')
      rw [List.find?_cons_of_neg (by simpa using hfirst), List.find?_cons_of_neg (by simpa [hname] using hfirst)]
      exact ih ⟨ch', hmem, hname'⟩

end Config

/-! ### Channels in use -/

/-- A submission that may be sent under its channel's key. -/
structure Submission.KeyedBy (s : Submission) (client : Client) (d : ChannelDef) : Prop where
  channel : s.channel = d
  protection : s.info.protection = .channelKey
  check : client.check s = .ok ()

namespace Submission.KeyedBy

variable {s : Submission} {client : Client} {d : ChannelDef} {m : Moment}

theorem exists_pack (h : s.KeyedBy client d) (hkey : IsChannelKey d.key) : ∃ o, (client.pack m s).2 = .ok o := by
  obtain ⟨rfl, hprotection, hcheck⟩ := h
  cases hpack : (client.pack m s).2 with
  | ok o => exact ⟨o, rfl⟩
  | error e =>
    cases Client.pack_eq_error_iff.1 hpack with
    | unmanaged hmanaged => exact absurd (Client.check_eq_ok_iff.1 hcheck).1 (Bool.eq_false_iff.1 hmanaged)
    | tooLarge _ hpayload => exact absurd (Client.check_eq_ok_iff.1 hcheck).2 (Nat.not_le.2 hpayload)
    | channelKey _ _ hnot => exact absurd hkey hnot
    | _ _ hdirect =>
      rw [hprotection] at hdirect
      cases hdirect

theorem transmit_refused (h : s.KeyedBy client d) (hkey : ¬IsChannelKey d.key) :
    (client.transmit m s).value = .error (.crypto (.keyLength d.key.length)) ∧ (client.transmit m s).effects = [] := by
  obtain ⟨rfl, hprotection, hcheck⟩ := h
  have hpack : (client.pack m s).2 = .error (.crypto (.keyLength s.channel.key.length)) :=
    Client.pack_eq_error_iff.2 (.channelKey hcheck hprotection hkey)
  rw [Client.transmit_of_pack_eq_error hpack]
  exact ⟨rfl, rfl⟩

end Submission.KeyedBy

namespace Config

variable {c : Config} {ch : ChannelConfig} {d : ChannelDef}

/-- A channel that a listed one was made, and what it is good for. -/
structure Serves (ch : ChannelConfig) (d : ChannelDef) : Prop where
  made : ofChannel ch = .ok d
  name : d.name = ch.name
  /-- With a key that fits the cipher, all data can be covered. -/
  covers : ch.HasCipherKey → ∀ data id sender, ∃ covered, applyKey d.key data id sender = .ok covered
  /-- So every packet gets as far as the links. -/
  packs : ch.HasCipherKey → ∀ (client : Client) (m : Moment) (s : Submission), s.KeyedBy client d →
    ∃ o, (client.pack m s).2 = .ok o
  /-- With another key, none can. -/
  spoils : ¬ch.HasCipherKey → ∀ data id sender, applyKey d.key data id sender = .error (.keyLength d.key.length)
  /-- This is noticed when the first packet is to go out, and the packet does not. -/
  refuses : ¬ch.HasCipherKey → ∀ (client : Client) (m : Moment) (s : Submission), s.KeyedBy client d →
    (client.transmit m s).value = .error (.crypto (.keyLength d.key.length)) ∧ (client.transmit m s).effects = []

theorem serves_of_ofChannel (h : ofChannel ch = .ok d) : Serves ch d where
  made := h
  name := name_of_ofChannel h
  covers hcipher data id sender := by
    obtain ⟨covered, hcovered, -⟩ := exists_applyKey ((isChannelKey_iff_of_ofChannel h).2 hcipher) data id sender
    exact ⟨covered, hcovered⟩
  packs hcipher _ _ _ hs := hs.exists_pack ((isChannelKey_iff_of_ofChannel h).2 hcipher)
  spoils hcipher := applyKey_of_not_isChannelKey fun hkey => hcipher ((isChannelKey_iff_of_ofChannel h).1 hkey)
  refuses hcipher _ _ _ hs := hs.transmit_refused fun hkey => hcipher ((isChannelKey_iff_of_ofChannel h).1 hkey)

/-- What a configuration is good for. -/
structure Usable (c : Config) : Prop where
  node : ∃ node, c.nodeId = .ok node
  settings : ∃ s, c.settings = .ok s
  broker : ∃ s, c.brokerSettings = .ok s
  /-- Every listed channel is made, in its place. -/
  channels : ∃ ds, c.channelDefs = .ok ds ∧ List.Forall₂ Serves c.mesh.channels ds
  /-- The primary one is made from the first one that is listed under its name. -/
  primary : ∃ ch d, c.mesh.channels.find? (·.name = c.mesh.primaryChannel) = some ch ∧ ofChannel ch = .ok d ∧
    c.primaryDef = .ok d

theorem usable_of_check (h : c.check = .ok ()) : c.Usable := by
  obtain ⟨⟨node, hnode⟩, ⟨ds, hds⟩, hlisted⟩ := exists_of_check h
  have hmade := forall₂_of_mapM hds
  obtain ⟨ch, d, hfirst, hch, hd⟩ := exists_find?_of_forall₂ hmade hlisted
  refine ⟨⟨node, hnode⟩, ?_, ?_, ⟨ds, hds, hmade.imp fun _ _ => serves_of_ofChannel⟩, ch, d, hfirst, hch, ?_⟩
  · rw [settings, hnode]
    exact ⟨_, rfl⟩
  · rw [brokerSettings, hnode]
    exact ⟨_, rfl⟩
  · rw [primaryDef, hds]
    simp only [bind, Except.bind, hd]
    rfl

/-- A configuration that was loaded is usable, but for channels whose keys do not fit the cipher. -/
theorem load_usable {text : String} {c : Config} (h : load (some text) = .ok c) : c.Usable :=
  usable_of_check (ofText_eq_ok h).2

/-- A key of two bytes. -/
def shortKeyText : String :=
  "[node]\nid = \"!a1b2c3d4\"\n[mesh]\nprimary_channel = \"X\"\n[[mesh.channels]]\nname = \"X\"\nkey = \"AQI=\"\n"

/-- What is loaded with it. -/
def shortKeyConfig : Config where
  node := { id := "!a1b2c3d4" }
  mesh := { primaryChannel := "X", channels := [⟨"X", some "AQI="⟩] }

theorem load_usable_shortKey : load (some shortKeyText) = .ok shortKeyConfig ∧ shortKeyConfig.Usable := by
  have hload : load (some shortKeyText) = .ok shortKeyConfig := by decide +kernel
  exact ⟨hload, load_usable hload⟩

/-- Not every channel of a configuration that was loaded can cover data. -/
theorem load_uncovered : ¬∀ (text : String) (c : Config), load (some text) = .ok c → ∀ ch ∈ c.mesh.channels,
    ∀ d, ofChannel ch = .ok d → ∀ data id sender, ∃ covered, applyKey d.key data id sender = .ok covered := by
  intro h
  have hload : load (some shortKeyText) = .ok shortKeyConfig := by decide +kernel
  have hmade : ofChannel ⟨"X", some "AQI="⟩ = .ok ⟨"X", [1, 2]⟩ := by decide +kernel
  obtain ⟨covered, hcovered⟩ := h _ _ hload _ List.mem_cons_self _ hmade [] 1 1
  cases hcovered

end Config

end RadioMesh
