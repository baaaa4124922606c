import RadioMesh.Channel.Basic
import RadioMesh.Cipher.Aes
import RadioMesh.Message.Packet

/-!
Channel encryption: counter mode under the channel's key, from a block that packet and sender determine.
Data is taken for readable when it decodes and has a known port.
-/

namespace RadioMesh

/-- Packet, sender, and four zero bytes that count the blocks of the packet. -/
def counterBlock (id sender : UInt32) : Cipher.Block :=
  Cipher.Block.ofBytes (Bytes.ofWord64 id.toUInt64 ++ Bytes.ofWord32 sender)

/-- Data under a channel key; the same call encrypts and decrypts. Without a key it stays as it is. -/
def applyKey (key data : Bytes) (id sender : UInt32) : Except CryptoError Bytes :=
  if key = [] then .ok data
  else if key.length = 16 ∨ key.length = 32 then
    .ok (Cipher.counterMode (Cipher.Aes.cipher key) (counterBlock id sender) data)
  else .error (.keyLength key.length)

/-- The data record of a plaintext. What a wrong key makes of a payload hardly ever is one. -/
def Data.read (plain : Bytes) : Except CryptoError Data :=
  match Data.schema.decode? plain with
  | some d => if d.port = .unknown then .error .payload else .ok d
  | none => .error .payload

/-- The data of a packet, decrypted with a channel key if need be. -/
def MeshPacket.dataWith (p : MeshPacket) (key : Bytes) : Except CryptoError Data :=
  match p.body with
  | some (.decoded d) => .ok d
  | some (.encrypted b) => do
    let plain ← applyKey key b p.id p.sender
    Data.read plain
  | none => .error .noPayload

end RadioMesh
