/-
Voice frames (`NXCA`): `send_call_audio` seals one to a saved contact and sends it as a datagram, and the task
that listens to datagrams opens it with the key of the sender's contact. Neither looks at the blocked users.
-/
import NodeX.Core.Net
import NodeX.Kad.Wire
import NodeX.Messenger.Inbox

namespace NodeX.Messenger

open NodeX.Lib

/-! ## The frame -/

def audioMagic : Bytes := utf8 "NXCA"

def audioInfo : Bytes := utf8 "NodeX-call-audio-v1"

def audioRates (rate : Nat) : Bool := 8000 ≤ rate && rate ≤ 48000

/-- The call id with its length, the sequence number and the rate, as the frame has them and as it is bound to them. -/
def audioHeader (idLen : UInt8) (callId : Bytes) (seq : UInt64) (rate : UInt32) : Bytes :=
  idLen :: (callId ++ toBe 8 seq.toNat ++ toBe 4 rate.toNat)

/-- The associated data: the two parties and the header. -/
def audioAad (parties header : Bytes) : Bytes := audioInfo ++ parties ++ header

/-- The key of one frame. -/
def audioKey (C : Crypto) (nonce dhEphemeral dhStatic : Bytes) : Bytes :=
  C.hkdf (some nonce) (dhEphemeral ++ dhStatic) audioInfo

/-- `i16::to_le_bytes` of every sample. -/
def pcmBytes (samples : List UInt16) : Bytes := samples.flatMap fun (s : UInt16) => [s.toUInt8, (s >>> 8).toUInt8]

/-- `i16::from_le_bytes` of every pair; a last odd byte is left. -/
def pcmSamples : Bytes → List UInt16
  | lo :: hi :: rest => (lo.toUInt16 + hi.toUInt16 * 256) :: pcmSamples rest
  | _ => []

/-! ## Sending -/

section Sending

variable {C : Crypto} (T : PresenceText) (me : UserIdentity C)

/-- `send_call_audio` up to the datagram and where it goes. -/
def callAudioFrame (db : MessengerDb) (routing : Option (List Kad.Contact)) (recipientIdHex callId : String)
    (samples : List UInt16) (rate : UInt32) (seq : UInt64) (nonce ephSeed : Bytes) :
    Outcome (SocketAddr × Bytes) MessengerError :=
  let pcm := pcmBytes samples
  let callBytes := utf8 callId
  if pcm.length > 900 || callBytes.isEmpty || !audioRates rate.toNat then
    .err (.other "Invalid or oversized real-time audio frame")
  else
    ((NodeId.fromHex recipientIdHex).mapErr fun e => .other ("Invalid recipient hex: " ++ e)).bind fun recipientId =>
      let missing : MessengerError := .recipientVerifiedKeyMissing recipientIdHex
      match db.contacts.lookup recipientIdHex with
      | none => .err missing
      | some c =>
        ((hexDecode c.x25519PubHex).mapErr .other).bind fun key =>
          match key with
          | none => .err missing
          | some key =>
            if key.length ≠ 32 then .err missing
            else if callBytes.length > 128 then .err (.other "call ID too long")
            else
              let frameKey := audioKey C nonce (C.dh ephSeed key) (C.dh me.x25519Secret key)
              let parties := me.userId.bytes ++ recipientId.bytes
              let header := audioHeader (UInt8.ofNat callBytes.length) callBytes seq rate
              let ciphertext := C.aeadEncrypt frameKey nonce (audioAad parties header) pcm
              let found := routing.bind fun contacts => (contacts.find? (·.id = recipientId)).map (·.addr)
              match (T.parseAddr c.lastSeenAddr).or found with
              | none => .err (.peerNotFound recipientIdHex)
              | some addr =>
                .ok (addr, audioMagic ++ parties ++ header ++ nonce ++ C.xPublic ephSeed ++
                  toBe 2 ciphertext.length ++ ciphertext)

end Sending

/-! ## Receiving -/

/-- `MessengerEvent::CallAudioFrameReceived`. -/
structure CallAudioFrame where
  senderId : String
  callId : String
  seq : UInt64
  sampleRate : UInt32
  pcm : List UInt16
deriving DecidableEq

/-- `audio_sequences`: the last sequence number of a stream. -/
abbrev AudioSequences := KeyedList (Prod.fst : String × UInt64 → String)

/-- What the first checks find in a packet. -/
structure AudioPacket where
  senderId : NodeId
  recipientId : NodeId
  idLen : UInt8
  callId : String
  seq : UInt64
  rate : UInt32
  nonce : Bytes
  eph : Bytes
  ciphertext : Bytes
deriving DecidableEq

variable {C : Crypto} (J : PayloadJson) (me : UserIdentity C)

/-- A packet that is long enough, of a rate that is played, and ends with its ciphertext. -/
def audioPacket (packet : Bytes) : Option AudioPacket := do
  guard (120 ≤ packet.length ∧ packet.take 4 = audioMagic)
  let senderId ← id? packet 4
  let recipientId ← id? packet 24
  let idLen ← u8? packet 44
  let n := idLen.toNat
  guard (n ≠ 0 ∧ n ≤ 128 ∧ 45 + n + 8 + 4 + 12 + 32 + 2 + 16 ≤ packet.length)
  let callBytes ← slice? packet 45 n
  let seq ← u64? packet (45 + n)
  let rate ← u32? packet (53 + n)
  guard (audioRates rate.toNat = true)
  let nonce ← slice? packet (57 + n) 12
  let eph ← slice? packet (69 + n) 32
  let ctLen ← u16? packet (101 + n)
  guard (16 ≤ ctLen.toNat ∧ ctLen.toNat ≤ 1100 ∧ packet.length = 103 + n + ctLen.toNat)
  some ⟨senderId, recipientId, idLen, J.utf8Lossy callBytes, seq, rate, nonce, eph, packet.drop (103 + n)⟩

/-- The plaintext of a packet for this user from a contact with a key. -/
def openAudio (contacts : Finmap fun _ : String => SavedContact) (p : AudioPacket) : Option Bytes :=
  if p.recipientId ≠ me.userId then none
  else
    match contacts.lookup p.senderId.toHex with
    | none => none
    | some c =>
      match hexDecode c.x25519PubHex with
      | .ok (some senderX) =>
        if senderX.length ≠ 32 then none
        else
          C.aeadDecrypt (audioKey C p.nonce (C.dh me.x25519Secret p.eph) (C.dh me.x25519Secret senderX)) p.nonce
            (audioAad (p.senderId.bytes ++ p.recipientId.bytes) (audioHeader p.idLen (utf8 p.callId) p.seq p.rate))
            p.ciphertext
      | _ => none

def maxAudioStreams : Nat := 4096

/-- The listening task with one datagram: the sequence numbers after it, and the frame it reports. -/
def receiveAudio (contacts : Finmap fun _ : String => SavedContact) (sequences : AudioSequences) (packet : Bytes) :
    AudioSequences × Option CallAudioFrame :=
  match audioPacket J packet with
  | none => (sequences, none)
  | some p =>
    match openAudio me contacts p with
    | none => (sequences, none)
    | some plain =>
      let streamKey := p.senderId.toHex ++ ":" ++ p.callId
      if (sequences.get? streamKey).any fun last => p.seq ≤ last.2 then (sequences, none)
      else if sequences.list.length ≥ maxAudioStreams && (sequences.get? streamKey).isNone then (sequences, none)
      else
        (sequences.upsert (streamKey, p.seq),
          if plain.length % 2 ≠ 0 then none
          else some ⟨p.senderId.toHex, p.callId, p.seq, p.rate, pcmSamples plain⟩)

end NodeX.Messenger
