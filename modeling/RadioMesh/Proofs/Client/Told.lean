import RadioMesh.Client.Run
import RadioMesh.Proofs.Channel.Cipher

/-!
What the requests that go out under the key of a channel tell. Each kind of request composes one submission,
and what a receiver makes of the submission's data is the one event that the request is about.
-/

namespace RadioMesh

/-! ### What a request tells -/

/-- What a request under the key of a channel comes to: what is sent, and the event of those who hear it by
their envelope and time of day. -/
structure Told where
  channel : ChannelDef
  sender : NodeId
  dest : NodeId
  payload : Bytes
  event : Envelope → UInt32 → MeshEvent

namespace Told

def message (sender dest : NodeId) (channel : ChannelDef) (text : String) (replyId : UInt32) : Told :=
  ⟨channel, sender, dest, Bytes.ofString text, fun e _ => .message e text replyId⟩

def reaction (sender dest : NodeId) (channel : ChannelDef) (target : UInt32) (emoji : String) : Told :=
  ⟨channel, sender, dest, Bytes.ofString emoji, fun e _ => .reaction e emoji target⟩

def waypoint (sender dest : NodeId) (channel : ChannelDef) (w : Waypoint) : Told :=
  ⟨channel, sender, dest, Waypoint.schema.encode w, fun e epoch => .waypoint e
    { id := w.id
      latitude := w.latitude.map GeoUri.degrees
      longitude := w.longitude.map GeoUri.degrees
      name := w.name
      description := w.description
      icon := Meaning.icon? w.icon
      lockedTo := ⟨w.lockedTo⟩
      expire := w.expire
      expired := w.expire ≠ 0 && w.expire ≤ epoch }⟩

/-- The key text of a node's public key; none without a key. -/
def publicKeyText? : Option Bytes → Option String
  | none => none
  | some [] => none
  | some key => some (Text.Base64.encode key)

def nodeInfo (c : Client) (sender dest : NodeId) (longName shortName : String) (publicKey : Option Bytes) : Told :=
  ⟨c.primary, sender, dest, User.schema.encode (c.user sender longName shortName publicKey), fun e _ => .nodeInfo e
    { longName := longName
      shortName := shortName
      publicKey := publicKeyText? publicKey
      hardware := Hardware.privateHw.number
      role := (c.roleOf sender).number
      isUnmessagable := sender = c.nodeId }⟩

def ack (c : Client) (sender dest : NodeId) (packetId : UInt32) (reason : RoutingError) : Told :=
  ⟨c.primary, sender, dest, Routing.schema.encode (.ofError reason), fun e _ => .ack e packetId reason.number⟩

end Told

namespace Client

/-- What a request tells, if it goes out under the key of a channel and nothing but its size can stop it. -/
def told? (c : Client) (now : Instant) : Request → Option Told
  | .message sender dest channel text replyId false => some (.message sender dest channel text replyId)
  | .reaction sender dest channel target emoji false => some (.reaction sender dest channel target emoji)
  | .waypoint sender dest channel w => some (.waypoint sender dest channel w)
  | .nodeInfo sender dest longName shortName _ publicKey =>
    match c.checkNodeInfo now sender longName shortName with
    | .ok () => some (.nodeInfo c sender dest longName shortName publicKey)
    | .error _ => none
  | .ack sender dest packetId => if packetId = 0 then none else some (.ack c sender dest packetId .delivered)
  | .nack dest packetId => if packetId = 0 then none else some (.ack c c.nodeId dest packetId .gotNak)
  | _ => none

end Client

/-- A submission that goes out as told, under the channel's key, and whose data means what is told. -/
structure Submission.Tells (s : Submission) (t : Told) : Prop where
  channel : s.channel = t.channel
  sender : s.info.sender = t.sender
  dest : s.info.dest = t.dest
  payload : s.payload = t.payload
  protection : s.info.protection = .channelKey
  port : s.info.port ≠ .unknown
  meaning : s.payload.length < 2 ^ 64 → ∀ e epoch, Meaning.ofData e epoch s.data = .event (t.event e epoch)

theorem Submission.port_data (s : Submission) : s.data.port = s.info.port := by
  show (Port.ofNumber? s.info.port.number).getD .unknown = s.info.port
  rw [Port.ofNumber?_number, Option.getD_some]

/-- What fits is read as it was written. -/
theorem Submission.read_encode_data {s : Submission} (hport : s.info.port ≠ .unknown)
    (hlength : s.payload.length ≤ maxPayloadLength) : Data.read (Data.schema.encode s.data) = .ok s.data :=
  Data.read_encode (by rw [s.port_data]; exact hport) (Nat.lt_of_le_of_lt hlength (by decide))

theorem Text.Utf8.lossy_ofString (s : String) : lossy (Bytes.ofString s) = s := by
  rw [lossy, decode?_ofString]

theorem Submission.ofPayload_data {M : Type} {s : Wire.Schema M} {height : Nat} (hs : s.RoundTrips height fun m => m)
    (hheight : height ≤ Wire.Schema.maxDepth) {m : M} (hlength : (s.encode m).length < 2 ^ 64)
    (channel : ChannelDef) (info : PacketInfo) (meaning : M → Meaning) :
    Meaning.ofPayload s (data ⟨channel, s.encode m, info⟩) meaning = meaning m := by
  have hdecode : s.decode? (data ⟨channel, s.encode m, info⟩).payload = some m := hs.decode?_encode hheight hlength
  rw [Meaning.ofPayload, hdecode]

theorem Client.publicKeyText_user (c : Client) (sender : NodeId) (longName shortName : String)
    (publicKey : Option Bytes) :
    let u := c.user sender longName shortName publicKey
    (if u.publicKey = [] then none else some (Text.Base64.encode u.publicKey)) = Told.publicKeyText? publicKey := by
  rcases publicKey with _ | _ | ⟨b, bs⟩ <;> rfl

theorem Client.isUnmessagable_user (c : Client) (sender : NodeId) (longName shortName : String)
    (publicKey : Option Bytes) :
    (c.user sender longName shortName publicKey).isUnmessagable.getD false = decide (sender = c.nodeId) := by
  show (if sender = c.nodeId then some true else none).getD false = _
  split
  · next h => exact (decide_eq_true h).symm
  · next h => exact (decide_eq_false h).symm

/-! ### Kinds of requests -/

namespace Submission.Tells

open Client

variable {c : Client} {sender dest : NodeId} {channel : ChannelDef}

theorem message (text : String) (replyId : UInt32) :
    Tells ⟨channel, Bytes.ofString text, { textInfo sender dest false with replyId := replyId }⟩
      (.message sender dest channel text replyId) where
  channel := rfl
  sender := rfl
  dest := rfl
  payload := rfl
  protection := rfl
  port := Port.noConfusion
  meaning _ e epoch := by
    rw [Meaning.ofData, port_data]
    show Meaning.event (.message e (Text.Utf8.lossy (Bytes.ofString text)) replyId) = _
    rw [Text.Utf8.lossy_ofString]
    rfl

theorem reaction (target : UInt32) (emoji : String) :
    Tells ⟨channel, Bytes.ofString emoji, { textInfo sender dest false with replyId := target, emoji := true }⟩
      (.reaction sender dest channel target emoji) where
  channel := rfl
  sender := rfl
  dest := rfl
  payload := rfl
  protection := rfl
  port := Port.noConfusion
  meaning _ e epoch := by
    rw [Meaning.ofData, port_data]
    show Meaning.event (.reaction e (Text.Utf8.lossy (Bytes.ofString emoji)) target) = _
    rw [Text.Utf8.lossy_ofString]
    rfl

theorem waypoint (w : Waypoint) :
    Tells ⟨channel, Waypoint.schema.encode w, keyedInfo .waypoint sender dest⟩
      (.waypoint sender dest channel w) where
  channel := rfl
  sender := rfl
  dest := rfl
  payload := rfl
  protection := rfl
  port := Port.noConfusion
  meaning hlength e epoch := by
    rw [Meaning.ofData, port_data]
    show Meaning.ofPayload Waypoint.schema _ _ = _
    rw [ofPayload_data Waypoint.roundTrips (by decide) hlength]
    rfl

theorem nodeInfo (longName shortName : String) (wantResponse : Bool) (publicKey : Option Bytes) :
    Tells ⟨c.primary, User.schema.encode (c.user sender longName shortName publicKey),
      asking (keyedInfo .nodeinfo sender dest) wantResponse⟩
      (.nodeInfo c sender dest longName shortName publicKey) where
  channel := rfl
  sender := rfl
  dest := rfl
  payload := rfl
  protection := rfl
  port := Port.noConfusion
  meaning hlength e epoch := by
    rw [Meaning.ofData, port_data]
    show Meaning.ofPayload User.schema _ _ = _
    rw [ofPayload_data User.roundTrips (by decide) hlength]
    rw [Meaning.ofUser, publicKeyText_user, isUnmessagable_user]
    rfl

theorem ack {packetId : UInt32} (hid : packetId ≠ 0) (reason : RoutingError) :
    Tells ⟨c.primary, Routing.schema.encode (.ofError reason),
      answerInfo .routing .channelKey sender dest packetId⟩ (.ack c sender dest packetId reason) where
  channel := rfl
  sender := rfl
  dest := rfl
  payload := rfl
  protection := rfl
  port := Port.noConfusion
  meaning hlength e epoch := by
    rw [Meaning.ofData, port_data]
    show Meaning.ofPayload Routing.schema _ _ = _
    rw [ofPayload_data Routing.roundTrips (by decide) hlength]
    exact if_pos hid

end Submission.Tells

theorem Client.exists_tells {c : Client} {m : Moment} {r : Request} {t : Told} (h : c.told? m.now r = some t) :
    ∃ s, c.compose m r = .ok s ∧ s.Tells t := by
  unfold told? at h
  split at h
  · cases h
    exact ⟨_, rfl, .message _ _⟩
  · cases h
    exact ⟨_, rfl, .reaction _ _⟩
  · cases h
    exact ⟨_, rfl, .waypoint _⟩
  · next wantResponse _ =>
    split at h
    · next hcheck =>
      cases h
      refine ⟨_, ?_, .nodeInfo _ _ wantResponse _⟩
      rw [compose, hcheck]
      rfl
    · cases h
  · split at h
    · cases h
    · next hid =>
      cases h
      exact ⟨_, rfl, .ack hid _⟩
  · split at h
    · cases h
    · next hid =>
      cases h
      exact ⟨_, rfl, .ack hid _⟩
  · cases h

end RadioMesh
