/-
From `send_message` to the receive loop: a message is encoded, split if it is too large for one datagram, told apart
from voice frames by its first bytes, put together again and decoded.
-/
import NodeX.Kad.Reassembly
import NodeX.Kad.Rpc
import NodeX.Kad.WireRoundTrip

namespace NodeX.Kad

open NodeX.Lib

/-! ## What is sent -/

/-- The datagrams of `send_message`; the id is the one drawn for the chunks. -/
def RpcMessage.sendMessage (crc32 : Bytes → UInt32) (messageId : Vector UInt8 16) (m : RpcMessage) :
    Except String (List Bytes) := do
  let bytes ← m.encode
  if bytes.length > chunkThreshold then return (UdpChunk.splitData crc32 messageId bytes).map UdpChunk.toBytes
  else return [bytes]

namespace RpcPayload

/-- What of a payload is encoded: a list of contacts up to the limit, and none beside a value. -/
def sent : RpcPayload → RpcPayload
  | .findNodeResp contacts => .findNodeResp (contacts.take maxContacts)
  | .findValueResp (some value) _ => .findValueResp (some value) []
  | .findValueResp none contacts => .findValueResp none (contacts.take maxContacts)
  | p => p

def contacts : RpcPayload → List Contact
  | .findNodeResp contacts | .findValueResp _ contacts => contacts
  | _ => []

theorem toCPayload_sent (p : RpcPayload) : RpcMessage.toCPayload p.sent = RpcMessage.toCPayload p := by
  cases p with
  | findNodeResp contacts =>
    show Except.ok (msgFindNodeResp, CMessagePayload.findNodeResp _) = .ok (msgFindNodeResp, .findNodeResp _)
    rw [List.take_take, Nat.min_self]
  | findValueResp value contacts =>
    cases value with
    | some value => rfl
    | none =>
      show Except.ok (msgFindValueResp, CMessagePayload.findValueResp 0 0 [] _) =
        .ok (msgFindValueResp, .findValueResp 0 0 [] _)
      rw [List.take_take, Nat.min_self]
  | _ => rfl

theorem estimatedSize_sent (p : RpcPayload) : RpcMessage.estimatedSize p.sent = RpcMessage.estimatedSize p := by
  cases p with
  | findValueResp value contacts => cases value <;> rfl
  | _ => rfl

theorem carried_sent (p : RpcPayload) : p.sent.carried = p.sent := by
  cases p with
  | findValueResp value contacts => cases value <;> rfl
  | _ => rfl

theorem of_not_tooLarge {value : Bytes} {x : Except String (UInt8 × CMessagePayload)} {fields : UInt8 × CMessagePayload}
    (h : (if value.length > maxValueSize then .error (RpcMessage.tooLarge value) else x) = .ok fields) :
    value.length ≤ maxValueSize ∧ x = .ok fields := by
  split at h
  · cases h
  · exact ⟨by omega, h⟩

/-- What is not refused is within the limits as it is sent, if its contacts are accepted. -/
theorem withinLimits_sent {p : RpcPayload} {fields : UInt8 × CMessagePayload}
    (h : RpcMessage.toCPayload p = .ok fields) (hacc : ∀ c ∈ p.sent.contacts, c.Accepted) : p.sent.WithinLimits := by
  have htake : ∀ contacts : List Contact, (contacts.take maxContacts).length ≤ maxContacts :=
    fun contacts => List.length_take_le _ _
  cases p with
  | store key value => exact (of_not_tooLarge h).1
  | findNodeResp contacts => exact ⟨htake contacts, hacc⟩
  | findValueResp value contacts =>
    cases value with
    | some value =>
      refine ⟨?_, Nat.zero_le _, hacc⟩
      rintro v ⟨⟩
      exact (of_not_tooLarge h).1
    | none => exact ⟨fun v hv => absurd hv (Option.not_mem_none v), htake contacts, hacc⟩
  | _ => trivial

/-- What is read has accepted contacts. -/
theorem accepted_of_read {p p' : RpcPayload} {msgType : UInt8} {fields : CMessagePayload}
    (h : RpcMessage.toCPayload p = .ok (msgType, fields)) (hread : RpcMessage.fromCPayload msgType fields = .ok p') :
    ∀ c ∈ p.sent.contacts, c.Accepted := by
  have hrows : ∀ {contacts : List Contact} {f : List Contact → RpcPayload},
      ((contacts.map contactToC).mapM cToContact).map f = .ok p' → ∀ c ∈ contacts, c.Accepted := by
    intro contacts f hf c hc
    cases hm : (contacts.map contactToC).mapM cToContact with
    | error e =>
      rw [hm] at hf
      cases hf
    | ok cs => exact accepted_of_mapM hm _ (List.mem_map_of_mem hc)
  cases p with
  | findNodeResp contacts =>
    cases h
    exact hrows hread
  | findValueResp value contacts =>
    cases value with
    | some value => exact List.forall_mem_nil _
    | none =>
      cases h
      exact hrows hread
  | _ => exact List.forall_mem_nil _

end RpcPayload

namespace RpcMessage

variable {m m' : RpcMessage} {bytes : Bytes}

def sent (m : RpcMessage) : RpcMessage := { m with payload := m.payload.sent }

theorem encode_sent (m : RpcMessage) : m.sent.encode = m.encode := by
  unfold encode toCMessage sent
  dsimp only
  rw [RpcPayload.toCPayload_sent, RpcPayload.estimatedSize_sent]

theorem toCPayload_of_encode (h : m.encode = .ok bytes) : ∃ msgType fields,
    toCPayload m.payload = .ok (msgType, fields) ∧ ∃ rest, bytes = [msgType] ++ rest ∧
      bytes.length ≤ estimatedSize m.payload := by
  cases hfields : toCPayload m.payload with
  | error e =>
    unfold encode toCMessage at h
    rw [hfields] at h
    cases h
  | ok p =>
    obtain ⟨msgType, fields⟩ := p
    have henc := (encode_eq_ok hfields).1 h
    unfold ffiEncodeMessage at henc
    obtain ⟨payload, -, henc⟩ := Option.bind_eq_some_iff.1 henc
    dsimp only at henc
    split at henc
    · rename_i hroom
      obtain rfl := Option.some.inj henc
      refine ⟨msgType, fields, rfl, toBe 8 m.requestId.toNat ++ m.senderId.bytes ++ payload, ?_, hroom⟩
      simp only [List.append_assoc]
    · cases henc

/-- What is encoded is decoded to what was sent of it, if the contacts are accepted, and not at all otherwise. -/
theorem decode_of_encode (h : m.encode = .ok bytes) :
    decode bytes = .ok m' ↔ m' = m.sent ∧ ∀ c ∈ m.sent.payload.contacts, c.Accepted := by
  obtain ⟨msgType, fields, hfields, -⟩ := toCPayload_of_encode h
  have hforward : (∀ c ∈ m.sent.payload.contacts, c.Accepted) → decode bytes = .ok m.sent := by
    intro hacc
    obtain ⟨bytes', henc, hdec⟩ := decode_encode (m := m.sent) (RpcPayload.withinLimits_sent hfields hacc)
    rw [encode_sent, h] at henc
    obtain rfl := Except.ok.inj henc
    rw [hdec]
    unfold carried sent
    dsimp only
    rw [RpcPayload.carried_sent]
  constructor
  · intro hdec
    have hacc : ∀ c ∈ m.sent.payload.contacts, c.Accepted := by
      obtain ⟨bytes', henc, hread⟩ := decode_encode_of_toCPayload hfields
      obtain rfl := Except.ok.inj (henc.symm.trans h)
      rw [hdec] at hread
      cases hp : fromCPayload msgType fields with
      | error e =>
        rw [hp] at hread
        cases hread
      | ok p' => exact RpcPayload.accepted_of_read hfields hp
    exact ⟨Except.ok.inj (hdec.symm.trans (hforward hacc)), hacc⟩
  · rintro ⟨rfl, hacc⟩
    exact hforward hacc

/-! ## Sizes and first bytes -/

/-- The types of the messages, none of which is the first letter of a magic, and the room they take. -/
theorem bounds_of_toCPayload {p : RpcPayload} {msgType : UInt8} {fields : CMessagePayload}
    (h : toCPayload p = .ok (msgType, fields)) : msgType ≤ 8 ∧ estimatedSize p ≤ 64 + maxValueSize := by
  have hsmall : 1024 ≤ 64 + maxValueSize := by decide
  cases p with
  | store key value =>
    obtain ⟨hlen, hfields⟩ := RpcPayload.of_not_tooLarge h
    cases hfields
    exact ⟨by decide, Nat.add_le_add_left hlen 64⟩
  | findValueResp value contacts =>
    cases value with
    | some value =>
      obtain ⟨hlen, hfields⟩ := RpcPayload.of_not_tooLarge h
      cases hfields
      exact ⟨by decide, Nat.add_le_add_left hlen 64⟩
    | none =>
      cases h
      exact ⟨by decide, hsmall⟩
  | _ =>
    cases h
    exact ⟨by decide, hsmall⟩

theorem length_encode_le (h : m.encode = .ok bytes) : bytes.length ≤ 64 + maxValueSize := by
  obtain ⟨msgType, fields, hfields, -, -, hlen⟩ := toCPayload_of_encode h
  exact hlen.trans (bounds_of_toCPayload hfields).2

theorem head_ne_of_encode (h : m.encode = .ok bytes) {magic : Bytes} (hmagic : magic.head? = some 78) :
    bytes.take 4 ≠ magic := by
  obtain ⟨msgType, fields, hfields, rest, rfl, -⟩ := toCPayload_of_encode h
  rintro rfl
  have htype : msgType = 78 := Option.some.inj hmagic
  have hle := (bounds_of_toCPayload hfields).1
  rw [htype] at hle
  exact absurd hle (by decide)

/-- What begins with a magic is not a message. -/
theorem decode_ne_of_head {magic : Bytes} (hmagic : magic.head? = some 78) (h : bytes.take 4 = magic) :
    decode bytes ≠ .ok m := by
  intro hdec
  obtain ⟨c, hc, -⟩ := decode_eq_ok.1 hdec
  unfold ffiDecodeMessage at hc
  simp only [Option.bind_eq_bind, Option.bind_eq_some_iff] at hc
  obtain ⟨msgType, htype, requestId, -, senderId, -, payload, hpayload, -⟩ := hc
  cases bytes with
  | nil =>
    rw [← h] at hmagic
    cases hmagic
  | cons b rest =>
    rw [← h] at hmagic
    obtain rfl : b = 78 := Option.some.inj hmagic
    obtain rfl : (78 : UInt8) = msgType := Option.some.inj htype
    cases hpayload

/-! ## The way of a message -/

/-- What the receive loop is to make of a message: what was sent of it if it accepts the contacts, else nothing. -/
def ReadAs (m : RpcMessage) (out : Option RpcMessage) : Prop :=
  ∀ m', out = some m' ↔ m' = m.sent ∧ ∀ c ∈ m.sent.payload.contacts, c.Accepted

theorem readAs_of_encode (h : m.encode = .ok bytes) : m.ReadAs (decode bytes).toOption := by
  intro m'
  rw [← decode_of_encode h]
  cases decode bytes <;> simp [Except.toOption]

end RpcMessage

section Receive

variable {crc32 : Bytes → UInt32} {asm : ChunkAssembler} {a : Arrival SocketAddr}

/-- A chunk is handed to the assembler, and what comes out is decoded. -/
theorem receive_of_chunk (h : a.bytes.take 4 = binaryMagic) :
    receive crc32 asm a.sender a.bytes a.now =
      ((asm.arrive crc32 a).1, (asm.arrive crc32 a).2.bind fun bytes => (RpcMessage.decode bytes).toOption) := by
  have hvoice : a.bytes.take 4 ≠ voiceMagic := by
    rw [h]
    decide
  unfold receive ChunkAssembler.arrive
  rw [if_neg hvoice, if_pos h, if_pos h]
  cases UdpChunk.fromBytes a.bytes with
  | error e => rfl
  | ok chunk =>
    dsimp only
    cases asm.addChunk crc32 a.sender chunk a.now <;> rfl

theorem receive_fst (crc32 : Bytes → UInt32) (asm : ChunkAssembler) (a : Arrival SocketAddr) :
    (receive crc32 asm a.sender a.bytes a.now).1 = (asm.arrive crc32 a).1 := by
  by_cases h : a.bytes.take 4 = binaryMagic
  · rw [receive_of_chunk h]
  · unfold receive ChunkAssembler.arrive
    rw [if_neg h, if_neg h]
    split <;> rfl

theorem receive_of_message {bytes : Bytes} {srcAddr : SocketAddr} {now : Nat} (hvoice : bytes.take 4 ≠ voiceMagic)
    (hchunk : bytes.take 4 ≠ binaryMagic) :
    receive crc32 asm srcAddr bytes now = (asm, (RpcMessage.decode bytes).toOption) := by
  unfold receive
  rw [if_neg hvoice, if_neg hchunk]

end Receive

open UdpChunk

/-- The receive loop without what it makes of the messages. -/
def receiveStep (crc32 : Bytes → UInt32) (asm : ChunkAssembler) (a : Arrival SocketAddr) : ChunkAssembler :=
  (receive crc32 asm a.sender a.bytes a.now).1

theorem sendMessage_of_encode {m : RpcMessage} {bytes : Bytes} (h : m.encode = .ok bytes) (crc32 : Bytes → UInt32)
    (messageId : Vector UInt8 16) :
    m.sendMessage crc32 messageId = if bytes.length > chunkThreshold then
      .ok ((splitData crc32 messageId bytes).map toBytes) else .ok [bytes] := by
  unfold RpcMessage.sendMessage
  rw [h]
  rfl

/-- A large message is a value of the largest size and what goes with it. -/
theorem length_payloads_of_encode {m : RpcMessage} {bytes : Bytes} (h : m.encode = .ok bytes) :
    (payloads bytes).length ≤ 132 := by
  have hlen := m.length_encode_le h
  rw [length_payloads]
  unfold maxValueSize at hlen
  unfold chunkPayloadSize
  omega

section Chunks

variable {crc32 : Bytes → UInt32} {messageId : Vector UInt8 16} {data d : Bytes}

theorem take_of_mem_chunks (hd : d ∈ (splitData crc32 messageId data).map toBytes) : d.take 4 = binaryMagic := by
  obtain ⟨c, hc, rfl⟩ := List.mem_map.1 hd
  exact take_toBytes_of_mem hc

theorem length_of_mem_chunks (hd : d ∈ (splitData crc32 messageId data).map toBytes) :
    d.length ≤ maxUdpPacketSize := by
  obtain ⟨c, hc, rfl⟩ := List.mem_map.1 hd
  obtain ⟨idx, raw, -, hraw, rfl⟩ := mem_splitData hc
  have hlen := length_of_mem_payloads hraw
  rw [length_toBytes rfl]
  unfold chunkPayloadSize at hlen
  unfold binaryHeaderSize maxUdpPacketSize
  omega

end Chunks

theorem receiveStep_eq (crc32 : Bytes → UInt32) : receiveStep crc32 = fun asm a => (asm.arrive crc32 a).1 := by
  funext asm a
  exact receive_fst crc32 asm a

/-- A large message is read with the last of its chunks, and not before. -/
theorem readAs_delivered {m : RpcMessage} {bytes : Bytes} (h : m.encode = .ok bytes) {crc32 : Bytes → UInt32}
    {messageId : Vector UInt8 16} {asm : ChunkAssembler} {srcAddr : SocketAddr} {start : Nat}
    {before : List (Arrival SocketAddr)} {last : Arrival SocketAddr}
    (hdelivered : asm.Delivered crc32 srcAddr messageId ((splitData crc32 messageId bytes).map toBytes) start
      before last) :
    Steps (receiveStep crc32) (fun asm a => a.sender = srcAddr →
        a.bytes ∈ (splitData crc32 messageId bytes).map toBytes →
        (receive crc32 asm a.sender a.bytes a.now).2 = none) asm before ∧
      m.ReadAs (receive crc32 (run (receiveStep crc32) asm before) last.sender last.bytes last.now).2 := by
  have hcount := length_payloads_of_encode h
  have hmax : maxChunksPerMessage.toNat = 256 := rfl
  obtain ⟨hnone, hsome⟩ := hdelivered.assembled (by omega)
  rw [receiveStep_eq]
  constructor
  · refine hnone.imp ?_
    intro asm a hout hsrc hmem
    rw [receive_of_chunk (take_of_mem_chunks hmem), hout hsrc hmem]
    rfl
  · rw [receive_of_chunk (take_of_mem_chunks hdelivered.last_mem), hsome]
    exact RpcMessage.readAs_of_encode h

namespace RpcMessage.Sample

/-- A value and a contact beside it. -/
def crowded : RpcMessage := { reply with payload := .findValueResp (some [104, 105]) [peer] }

def crowdedBytes : Bytes :=
  [msgFindValueResp] ++ toBe 8 7 ++ List.replicate 20 2 ++ [1] ++ toBe 4 2 ++ [104, 105] ++ [0]

/-- A message of three chunks. -/
def long : RpcMessage := { reply with payload := .store reply.senderId (List.replicate 1100 7) }

def longBytes : Bytes :=
  [msgStore] ++ toBe 8 7 ++ List.replicate 20 2 ++ List.replicate 20 2 ++ toBe 4 1100 ++ List.replicate 1100 7

/-- A checksum of its own; any does. -/
def byteSum (bytes : Bytes) : UInt32 := bytes.foldl (fun sum b => sum + b.toUInt32) 0

def chunkId : Vector UInt8 16 := Vector.replicate 16 9

def chunkFrom (sender : SocketAddr) (i now : Nat) : Arrival SocketAddr where
  sender
  bytes := (((splitData byteSum chunkId longBytes).map toBytes)[i]?).getD []
  now

/-- The chunks in another order, one of them twice, and in between a chunk of another sender with the same id. -/
def chunksBefore : List (Arrival SocketAddr) :=
  [chunkFrom peer.addr 2 5, chunkFrom peer.addr 0 6, chunkFrom { peer.addr with port := 1 } 1 7,
    chunkFrom peer.addr 2 8]

end RpcMessage.Sample

open RpcMessage.Sample in
theorem delivered_long : ChunkAssembler.Delivered byteSum { reassemblyTimeout := 30 } peer.addr chunkId
    ((splitData byteSum chunkId longBytes).map toBytes) 5 chunksBefore (chunkFrom peer.addr 1 9) where
  fresh := by decide
  admitted := by decide +kernel
  source := rfl
  last_mem := by decide +kernel
  last_new := by decide +kernel
  all := by decide +kernel

end NodeX.Kad
