import RadioMesh.Proofs.Client.NeighborLists
import RadioMesh.Proofs.Client.Setup
import RadioMesh.Proofs.Client.Spacing
import RadioMesh.Proofs.Config.RoundTrip

/-!
The interval at which neighbors are told of. A client keeps the last interval that was set as whole seconds in 32 bits,
and that is what its answers tell. Configurations can hold more seconds than that, which come around to fewer.
-/

namespace RadioMesh

/-! ### Seconds -/

namespace Duration

theorem toNat_toSeconds (d : Duration) : d.toSeconds.toNat = d / 1000 % 2 ^ 32 :=
  UInt32.toNat_ofNat

theorem toSeconds_eq_zero_iff (d : Duration) : d.toSeconds = 0 ↔ 2 ^ 32 ∣ d / 1000 := by
  rw [← UInt32.toNat_inj, toNat_toSeconds, UInt32.toNat_zero, Nat.dvd_iff_mod_eq_zero]

/-- Seconds are kept as far as they fit, and by chance if they come around to the most that fits. -/
theorem toSeconds_saturates_iff (d : Duration) : d.toSeconds.toNat = min (d / 1000) (2 ^ 32 - 1) ↔
    d / 1000 < 2 ^ 32 ∨ d / 1000 % 2 ^ 32 = 2 ^ 32 - 1 := by
  rw [toNat_toSeconds]
  rcases Nat.lt_or_ge (d / 1000) (2 ^ 32) with hfits | hlarge
  · rw [Nat.mod_eq_of_lt hfits, min_eq_left (Nat.le_sub_one_of_lt hfits)]
    exact iff_of_true rfl (.inl hfits)
  · rw [min_eq_right ((Nat.sub_le _ 1).trans hlarge)]
    exact (or_iff_right (Nat.not_lt.2 hlarge)).symm

theorem seconds_div (n : Nat) : seconds n / 1000 = n :=
  Nat.mul_div_cancel_left n (by decide)

end Duration

/-! ### Answers -/

namespace Client

variable {c : Client} {m : Moment} {d : Delivery} {r : Received} {q : Request}

theorem mem_react_of_mem_reactionTo (hopen : c.open? d = some r) (hq : q ∈ (c.reactionTo m d).requests) :
    q ∈ ((c.enter m.now d.packet).2.react m r).2.requests := by
  have hopen' : (c.enter m.now d.packet).2.open? d = some r := hopen
  unfold reactionTo at hq
  dsimp only at hq
  rw [hopen'] at hq
  split at hq
  · exact hq
  · cases hq

/-- What goes out on a request for neighbors is a list of them that tells the client's own interval. -/
theorem receive_tells_interval {n : NeighborInfo} (hopen : c.open? d = some r)
    (hmeaning : Meaning.ofData (r.envelope m.epoch) m.epoch r.data = .neighborInfoRequest n) {i : Nat} {name : String}
    {p : MeshPacket} (h : .sent i name p ∈ (c.receive m d).effects) : ∃ data info, c.Conveys r.channel data p name ∧
      data.port = .neighborinfo ∧ NeighborInfo.schema.decode? data.payload = some info ∧
      info.broadcastIntervalSecs = c.neighborInterval := by
  obtain ⟨q, hq, c', m', hsetup, hsent⟩ := exists_request_of_sent h
  have hanswers := answersWith_of_mem_react (mem_react_of_mem_reactionTo hopen hq)
  rw [hmeaning] at hanswers
  cases hanswers with
  | neighbors n =>
    obtain ⟨data, hconveys, hport, hinfo⟩ := (Request.TellsNeighbors.asked _ _ _ _).conveys hsent
    exact ⟨data, _, hsetup.conveys hconveys, hport, hinfo, rfl⟩

/-! ### What is configured -/

/-- The interval that is set behind an action. -/
def setAfter (interval : Duration) : Action → Duration
  | .setNeighborInterval d => d
  | _ => interval

/-- The interval that was set last in a run, or with the settings. -/
def intervalSet (s : Settings) (actions : List (Moment × Action)) : Duration :=
  actions.foldl (fun interval x => setAfter interval x.2) s.neighborInterval

theorem neighborInterval_after (s : Settings) (m₀ : Moment) (actions : List (Moment × Action)) :
    (after s m₀ actions).neighborInterval = (intervalSet s actions).toSeconds := by
  induction actions using List.reverseRecOn with
  | nil => rfl
  | append_singleton actions x ih =>
    obtain ⟨m, a⟩ := x
    have hset : intervalSet s (actions ++ [(m, a)]) = setAfter (intervalSet s actions) a := by
      rw [intervalSet, List.foldl_append]
      rfl
    rw [hset, after, run_append_singleton, (act_sets _ m a).interval]
    cases a with
    | setNeighborInterval d => rfl
    | _ => exact ih

end Client

namespace Config

/-- A configuration with an interval of its own. -/
def ofInterval (secs : Nat) : Config where
  node := { id := "!a1b2c3d4" }
  mesh := { neighborInterval := UInt64.ofNat secs }

theorem check_ofInterval (secs : Nat) : (ofInterval secs).check = .ok () := by
  have hsame : (ofInterval secs).check = (ofInterval 0).check := by
    simp only [check, nodeId, channelDefs, ofInterval]
    rfl
  rw [hsame]
  decide +kernel

theorem fits_iff {c : Config} : c.Fits ↔ c.mesh.neighborInterval.toNat < 2 ^ 63 := by
  have hmax : Int64.maxValue.toInt = 9223372036854775807 := by decide
  rw [Fits, Toml.Plain.Fits, hmax]
  omega

/-- A document can hold every interval below the largest one of its numbers. -/
theorem exists_load {secs : Nat} (h : secs < 2 ^ 63) :
    ∃ text c, load (some text) = .ok c ∧ c.mesh.neighborInterval.toNat = secs := by
  have hsecs : (ofInterval secs).mesh.neighborInterval.toNat = secs := by
    have hsize : UInt64.size = 2 ^ 64 := rfl
    exact UInt64.toNat_ofNat_of_lt' (by omega)
  have hfits : (ofInterval secs).Fits := by rwa [fits_iff, hsecs]
  have hload := ofText_text hfits (check_ofInterval secs)
  generalize ofInterval secs = c at hsecs hload
  exact ⟨c.text, c, hload, hsecs⟩

/-- The settings of a configuration that was loaded have its interval. -/
theorem settings_of_load {text : String} {c : Config} (h : load (some text) = .ok c) :
    c.mesh.neighborInterval.toNat < 2 ^ 63 ∧
      ∃ s, c.settings = .ok s ∧ s.neighborInterval = .seconds c.mesh.neighborInterval.toNat := by
  obtain ⟨hfits, hcheck⟩ := ofText_eq_ok h
  obtain ⟨node, hnode, -⟩ := exists_of_bind_eq_ok hcheck
  refine ⟨fits_iff.1 hfits, ?_⟩
  rw [settings, hnode]
  exact ⟨_, rfl, rfl⟩

end Config

namespace Client

/-- The interval that a client reports and tells of is the whole seconds of what was set last, but only their lowest 32
bits. Of longer intervals the most that fits is told by chance alone, and each multiple of 2 ^ 32 is told as nothing.
Loaded configurations hold the intervals below 2 ^ 63, all of them. -/
theorem interval_wraps_iff (s : Settings) (m₀ : Moment) (actions : List (Moment × Action)) :
    let c := after s m₀ actions
    let secs := intervalSet s actions / 1000
    c.neighborInterval.toNat = secs % 2 ^ 32 ∧
    (c.neighborInterval.toNat = min secs (2 ^ 32 - 1) ↔ secs < 2 ^ 32 ∨ secs % 2 ^ 32 = 2 ^ 32 - 1) ∧
    (c.neighborInterval = 0 ↔ 2 ^ 32 ∣ secs) ∧
    (∀ m d r n, c.open? d = some r →
      Meaning.ofData (r.envelope m.epoch) m.epoch r.data = .neighborInfoRequest n → ∀ i name p,
        .sent i name p ∈ (c.receive m d).effects → ∃ data info, c.Conveys r.channel data p name ∧
          data.port = .neighborinfo ∧ NeighborInfo.schema.decode? data.payload = some info ∧
          info.broadcastIntervalSecs = c.neighborInterval) ∧
    (∀ text cfg, Config.load (some text) = .ok cfg → ∃ s, cfg.settings = .ok s ∧
      s.neighborInterval / 1000 = cfg.mesh.neighborInterval.toNat ∧ cfg.mesh.neighborInterval.toNat < 2 ^ 63) ∧
    ∀ n < 2 ^ 63, ∃ text cfg, Config.load (some text) = .ok cfg ∧ cfg.mesh.neighborInterval.toNat = n := by
  intro c secs
  have hinterval : c.neighborInterval = (intervalSet s actions).toSeconds := neighborInterval_after s m₀ actions
  refine ⟨?_, ?_, ?_, fun m d r n hopen hmeaning i name p => receive_tells_interval hopen hmeaning,
    fun text cfg hload => ?_, fun n => Config.exists_load⟩
  · rw [hinterval, Duration.toNat_toSeconds]
  · rw [hinterval, Duration.toSeconds_saturates_iff]
  · rw [hinterval, Duration.toSeconds_eq_zero_iff]
  · obtain ⟨hlt, s, hs, hseconds⟩ := Config.settings_of_load hload
    exact ⟨s, hs, by rw [hseconds, Duration.seconds_div], hlt⟩

/-- A minute that is set, and told to a node that asks. -/
theorem interval_wraps_minute :
    let m : Moment := ⟨0, 0, fun _ => 0⟩
    let channel : ChannelDef := .unencrypted "clear"
    let actions : List (Moment × Action) :=
      [(m, .addLink { name := "udp" }), (m, .setPrimary channel), (m, .setNeighborInterval (.seconds 60))]
    let c := after (.ofNode ⟨256⟩) m actions
    let data : Data := { portNumber := Port.neighborinfo.number, wantResponse := true }
    let d : Delivery := ⟨{ sender := 16, dest := 256, id := 5, body := some (.decoded data) }, some "clear", none, .udp⟩
    let p : MeshPacket :=
      { sender := 256, dest := 16, channel := 121, id := 1, hopLimit := 3, priority := 80, hopStart := 3
        body := some (.encrypted [8, 71, 18, 8, 8, 128, 2, 16, 128, 2, 24, 60, 53, 5, 0, 0, 0, 72, 1]) }
    c.neighborInterval.toNat = min 60 (2 ^ 32 - 1) ∧ .sent 0 "clear" p ∈ (c.receive m d).effects ∧
      ∃ data info, c.Conveys channel data p "clear" ∧ data.port = .neighborinfo ∧
        NeighborInfo.schema.decode? data.payload = some info ∧ info.broadcastIntervalSecs = 60 := by
  intro m channel actions c data d p
  obtain ⟨-, hsaturates, -, htells, -⟩ := interval_wraps_iff (.ofNode ⟨256⟩) m actions
  have hsecs : intervalSet (.ofNode ⟨256⟩) actions / 1000 = 60 := Duration.seconds_div 60
  rw [hsecs] at hsaturates
  have hsent : .sent 0 "clear" p ∈ (c.receive m d).effects := by decide +kernel
  have hopen : c.open? d = some ⟨d.packet, data, channel, .none, d.via, .udp⟩ := by decide +kernel
  exact ⟨hsaturates.2 (.inl (by decide)), hsent, htells m d _ {} hopen (by decide +kernel) 0 "clear" p hsent⟩

/-- A hundred and thirty-six years and some are loaded and come around to no time at all, and one second more is set and
comes around to one second. -/
theorem interval_wraps_long :
    let text := "[node]\nid = \"!a1b2c3d4\"\n[mesh]\nneighbor_broadcast_interval_secs = 4294967296\n"
    let m : Moment := ⟨0, 0, fun _ => 0⟩
    ∃ cfg s, Config.load (some text) = .ok cfg ∧ cfg.mesh.neighborInterval = 4294967296 ∧ cfg.settings = .ok s ∧
      (ofSettings s m).neighborInterval = 0 ∧
      ((ofSettings s m).setNeighborInterval (.seconds 4294967297)).neighborInterval = 1 := by
  refine ⟨Config.ofInterval 4294967296, { Settings.ofNode ⟨0xA1B2C3D4⟩ with neighborInterval := .seconds 4294967296 },
    ?_, rfl, ?_, by decide, by decide⟩
  · decide +kernel
  · decide +kernel

end Client

end RadioMesh
