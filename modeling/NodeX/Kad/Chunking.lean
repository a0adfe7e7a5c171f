/-
`chunking.rs`: messages too large for one datagram travel as numbered chunks, and the receive loop puts
the chunks of each sender's message together again. The checksum is CRC-32 of a library, a parameter
here; one clock reading stands for those of a call.

An assembler keeps the messages of all senders in one table under common limits. What a chunk does to
its own message depends on that message's parts so far and on whether there is room for another message;
to the others it does nothing but let the expired ones go.
-/
import NodeX.Core.Net
import NodeX.Lib.Keyed

namespace NodeX.Kad

open NodeX.Lib

/-! ## Chunks -/

def maxUdpPacketSize : Nat := 1200

def binaryHeaderSize : Nat := 28

def binaryMagic : Bytes := utf8 "NXCK"

def chunkPayloadSize : Nat := 500

structure UdpChunk where
  messageId : Vector UInt8 16
  chunkIndex : UInt16
  chunkCount : UInt16
  checksum : UInt32
  payloadHex : String
  rawData : Option Bytes
deriving DecidableEq

namespace UdpChunk

def decodePayload (c : UdpChunk) : Outcome Bytes :=
  match c.rawData with
  | some r => .ok r
  | none =>
    if (utf8 c.payloadHex).length % 2 ≠ 0 then .err "Invalid hex payload length" else hexPairs (utf8 c.payloadHex)

def toBytes (c : UdpChunk) : Bytes :=
  let raw := match c.decodePayload with
    | .ok r => r
    | _ => []
  binaryMagic ++ c.messageId.toList ++ toBe 2 c.chunkIndex.toNat ++ toBe 2 c.chunkCount.toNat ++
    toBe 4 c.checksum.toNat ++ raw

def fromBytes (bytes : Bytes) : Except String UdpChunk :=
  if bytes.length < binaryHeaderSize then .error "Packet too short for binary chunk"
  else if bytes.take 4 ≠ binaryMagic then .error "Invalid binary chunk magic"
  else
    match array? 16 bytes 4, u16? bytes 20, u16? bytes 22, u32? bytes 24 with
    | some messageId, some chunkIndex, some chunkCount, some checksum =>
      let raw := bytes.drop binaryHeaderSize
      .ok { messageId, chunkIndex, chunkCount, checksum, payloadHex := hexString raw, rawData := some raw }
    | _, _, _, _ => .error "Packet too short for binary chunk"

/-- `slice::chunks`. -/
def slices (size : Nat) : Nat → Bytes → List Bytes
  | 0, _ => []
  | count + 1, data => data.take size :: slices size count (data.drop size)

def splitData (crc32 : Bytes → UInt32) (messageId : Vector UInt8 16) (data : Bytes) : List UdpChunk :=
  if data.isEmpty then
    [{ messageId, chunkIndex := 0, chunkCount := 1, checksum := crc32 [], payloadHex := "", rawData := some [] }]
  else
    let count := (data.length + (chunkPayloadSize - 1)) / chunkPayloadSize
    (slices chunkPayloadSize count data).mapIdx fun idx slice =>
      { messageId, chunkIndex := UInt16.ofNat idx, chunkCount := UInt16.ofNat count, checksum := crc32 slice
        payloadHex := hexString slice, rawData := some slice }

end UdpChunk

/-! ## Assembling -/

def maxChunksPerMessage : UInt16 := 256

def maxPendingAssemblies : Nat := 256

def maxPendingPerIp : Nat := 16

structure PendingAssembly where
  chunks : KeyedList (Prod.fst : UInt16 × Bytes → UInt16) := ∅
  chunkCount : UInt16
  firstReceived : Nat
deriving DecidableEq

namespace PendingAssembly

/-- The parts in order, if none is missing. -/
def reassemble (entry : PendingAssembly) : Option Bytes :=
  ((List.range entry.chunkCount.toNat).mapM fun i => (entry.chunks.get? (UInt16.ofNat i)).map Prod.snd).map
    List.flatten

end PendingAssembly

/-- A sender and the id it gave its message. -/
abbrev AssemblyKey := SocketAddr × Vector UInt8 16

structure ChunkAssembler where
  pending : KeyedList (Prod.fst : AssemblyKey × PendingAssembly → AssemblyKey) := ∅
  reassemblyTimeout : Nat
deriving DecidableEq

namespace ChunkAssembler

def cleanupExpired (asm : ChunkAssembler) (now : Nat) : ChunkAssembler :=
  { asm with pending := asm.pending.filter fun e => now - e.2.firstReceived < asm.reassemblyTimeout }

/-- The message stored under a key. -/
def assembly? (asm : ChunkAssembler) (key : AssemblyKey) : Option PendingAssembly :=
  (asm.pending.get? key).map Prod.snd

/-- Neither limit is reached for another message of this sender. -/
def hasRoom (asm : ChunkAssembler) (srcAddr : SocketAddr) : Bool :=
  asm.pending.list.length < maxPendingAssemblies &&
    (asm.pending.list.filter fun e => e.1.1.ip = srcAddr.ip).length < maxPendingPerIp

/-- The part of `add_chunk` behind its checks: the table of messages and its limits. -/
def addPart (asm : ChunkAssembler) (srcAddr : SocketAddr) (chunk : UdpChunk) (raw : Bytes) (now : Nat) :
    ChunkAssembler × Option Bytes :=
  let key := (srcAddr, chunk.messageId)
  let found := asm.assembly? key
  if found.isNone && !asm.hasRoom srcAddr then (asm, none)
  else
    let entry := found.getD { chunkCount := chunk.chunkCount, firstReceived := now }
    if entry.chunkCount ≠ chunk.chunkCount then (asm, none)
    else
      let entry := { entry with chunks := entry.chunks.upsert (chunk.chunkIndex, raw) }
      let asm := { asm with pending := asm.pending.upsert (key, entry) }
      if entry.chunks.list.length = entry.chunkCount.toNat then
        match entry.reassemble with
        | none => (asm, none)
        | some assembled => ({ asm with pending := asm.pending.erase key }, some assembled)
      else (asm, none)

def addChunk (crc32 : Bytes → UInt32) (asm : ChunkAssembler) (srcAddr : SocketAddr) (chunk : UdpChunk) (now : Nat) :
    Outcome (ChunkAssembler × Option Bytes) :=
  let asm := asm.cleanupExpired now
  if chunk.chunkCount = 0 ∨ chunk.chunkCount > maxChunksPerMessage ∨ chunk.chunkIndex ≥ chunk.chunkCount then
    .ok (asm, none)
  else
    match chunk.decodePayload with
    | .panic => .panic
    | .err _ => .ok (asm, none)
    | .ok raw =>
      if crc32 raw ≠ chunk.checksum then .ok (asm, none)
      else if chunk.chunkCount = 1 ∧ chunk.chunkIndex = 0 then .ok (asm, some raw)
      else .ok (asm.addPart srcAddr chunk raw now)

/-! ## One message of the table -/

/-- The message under a key, unless its time is over. -/
def alive? (asm : ChunkAssembler) (now : Nat) (key : AssemblyKey) : Option PendingAssembly :=
  (asm.assembly? key).filter fun e => now - e.firstReceived < asm.reassemblyTimeout

/-- The table with the messages of one sender only. -/
def only (asm : ChunkAssembler) (srcAddr : SocketAddr) : ChunkAssembler :=
  { asm with pending := asm.pending.filter fun e => e.1.1 = srcAddr }

end ChunkAssembler

namespace PendingAssembly

/-- What a chunk behind the checks does to the message it belongs to. -/
def addPart (found : Option PendingAssembly) (room : Bool) (chunk : UdpChunk) (raw : Bytes) (now : Nat) :
    Option PendingAssembly × Option Bytes :=
  if found.isNone && !room then (none, none)
  else
    let entry := found.getD { chunkCount := chunk.chunkCount, firstReceived := now }
    if entry.chunkCount ≠ chunk.chunkCount then (found, none)
    else
      let entry := { entry with chunks := entry.chunks.upsert (chunk.chunkIndex, raw) }
      if entry.chunks.list.length = entry.chunkCount.toNat then
        match entry.reassemble with
        | none => (some entry, none)
        | some assembled => (none, some assembled)
      else (some entry, none)

/-- What a chunk does to the message it belongs to. -/
def addChunk (crc32 : Bytes → UInt32) (found : Option PendingAssembly) (room : Bool) (chunk : UdpChunk) (now : Nat) :
    Outcome (Option PendingAssembly × Option Bytes) :=
  if chunk.chunkCount = 0 ∨ chunk.chunkCount > maxChunksPerMessage ∨ chunk.chunkIndex ≥ chunk.chunkCount then
    .ok (found, none)
  else
    match chunk.decodePayload with
    | .panic => .panic
    | .err _ => .ok (found, none)
    | .ok raw =>
      if crc32 raw ≠ chunk.checksum then .ok (found, none)
      else if chunk.chunkCount = 1 ∧ chunk.chunkIndex = 0 then .ok (found, some raw)
      else .ok (addPart found room chunk raw now)

/-- The limits are nothing to a message that is being assembled. -/
theorem addChunk_room (crc32 : Bytes → UInt32) {found : Option PendingAssembly} (h : found.isSome) (room room' : Bool)
    (chunk : UdpChunk) (now : Nat) : addChunk crc32 found room chunk now = addChunk crc32 found room' chunk now := by
  obtain ⟨entry, rfl⟩ := Option.isSome_iff_exists.1 h
  rfl

end PendingAssembly

namespace ChunkAssembler

variable {crc32 : Bytes → UInt32} {asm asm' : ChunkAssembler} {srcAddr : SocketAddr} {chunk : UdpChunk} {raw : Bytes}
  {now now' : Nat} {out : Option Bytes}

@[simp] theorem assembly?_cleanupExpired (asm : ChunkAssembler) (now : Nat) (key : AssemblyKey) :
    (asm.cleanupExpired now).assembly? key = asm.alive? now key := by
  unfold cleanupExpired alive? assembly?
  rw [KeyedList.get?_filter]
  cases asm.pending.get? key with
  | none => rfl
  | some e => by_cases h : now - e.2.firstReceived < asm.reassemblyTimeout <;> simp [Option.filter, h]

/-- What is alive later is not cleaned up now. -/
theorem alive?_cleanupExpired (h : now ≤ now') (key : AssemblyKey) :
    (asm.cleanupExpired now).alive? now' key = asm.alive? now' key := by
  have htime : (asm.cleanupExpired now).reassemblyTimeout = asm.reassemblyTimeout := rfl
  rw [alive?, assembly?_cleanupExpired, htime, alive?, alive?, Option.filter_filter]
  congr 1
  funext e
  by_cases hl : now' - e.firstReceived < asm.reassemblyTimeout
  · have hl' : now - e.firstReceived < asm.reassemblyTimeout := by omega
    simp [hl, hl']
  · simp [hl]

theorem assembly?_upsert (pending : KeyedList (Prod.fst : AssemblyKey × PendingAssembly → AssemblyKey)) (timeout : Nat)
    (key key' : AssemblyKey) (entry : PendingAssembly) :
    (mk (pending.upsert (key, entry)) timeout).assembly? key' =
      if key = key' then some entry else (mk pending timeout).assembly? key' := by
  unfold assembly?
  rw [KeyedList.get?_upsert]
  split <;> rfl

theorem assembly?_erase (pending : KeyedList (Prod.fst : AssemblyKey × PendingAssembly → AssemblyKey)) (timeout : Nat)
    (key key' : AssemblyKey) :
    (mk (pending.erase key) timeout).assembly? key' =
      if key = key' then none else (mk pending timeout).assembly? key' := by
  unfold assembly?
  rw [KeyedList.get?_erase]
  split <;> rfl

/-- Behind the checks a chunk does to its own message what it does to that message alone. -/
theorem addPart_own (asm : ChunkAssembler) (srcAddr : SocketAddr) (chunk : UdpChunk) (raw : Bytes) (now : Nat) :
    ((asm.addPart srcAddr chunk raw now).1.assembly? (srcAddr, chunk.messageId),
        (asm.addPart srcAddr chunk raw now).2) =
      PendingAssembly.addPart (asm.assembly? (srcAddr, chunk.messageId)) (asm.hasRoom srcAddr) chunk raw now := by
  unfold addPart PendingAssembly.addPart
  simp only
  split
  · rename_i hfull
    have hnone : asm.assembly? (srcAddr, chunk.messageId) = none := by
      simpa using (Bool.and_eq_true_iff.1 hfull).1
    rw [hnone]
  · split
    · rfl
    · split
      · split
        · simp only [assembly?_upsert, if_true]
        · simp only [assembly?_erase, if_true]
      · simp only [assembly?_upsert, if_true]

/-- Behind the checks a chunk leaves the messages of other keys alone. -/
theorem addPart_other {key : AssemblyKey} (h : (srcAddr, chunk.messageId) ≠ key) :
    (asm.addPart srcAddr chunk raw now).1.assembly? key = asm.assembly? key := by
  unfold addPart
  simp only
  split
  · rfl
  · split
    · rfl
    · split
      · split
        · simp only [assembly?_upsert, if_neg h]
        · simp only [assembly?_erase, assembly?_upsert, if_neg h]
      · simp only [assembly?_upsert, if_neg h]

theorem addPart_timeout : (asm.addPart srcAddr chunk raw now).1.reassemblyTimeout = asm.reassemblyTimeout := by
  unfold addPart
  simp only
  repeat' split
  all_goals rfl

/-- The cases of `add_chunk`: nothing but the cleanup happens to the table, or a part is added to it. -/
theorem addChunk_eq_ok (h : asm.addChunk crc32 srcAddr chunk now = .ok (asm', out)) :
    asm' = asm.cleanupExpired now ∨ ∃ raw, asm' = ((asm.cleanupExpired now).addPart srcAddr chunk raw now).1 := by
  unfold addChunk at h
  simp only at h
  split at h
  · exact .inl (congrArg Prod.fst (Outcome.ok.inj h)).symm
  · split at h
    · cases h
    · exact .inl (congrArg Prod.fst (Outcome.ok.inj h)).symm
    · split at h
      · exact .inl (congrArg Prod.fst (Outcome.ok.inj h)).symm
      · split at h
        · exact .inl (congrArg Prod.fst (Outcome.ok.inj h)).symm
        · exact .inr ⟨_, (congrArg Prod.fst (Outcome.ok.inj h)).symm⟩

theorem addChunk_timeout (h : asm.addChunk crc32 srcAddr chunk now = .ok (asm', out)) :
    asm'.reassemblyTimeout = asm.reassemblyTimeout := by
  rcases addChunk_eq_ok h with rfl | ⟨raw, rfl⟩
  · rfl
  · exact addPart_timeout

/-- A chunk lets the expired messages of other keys go, and does nothing else to them. -/
theorem addChunk_other (h : asm.addChunk crc32 srcAddr chunk now = .ok (asm', out)) {key : AssemblyKey}
    (hkey : (srcAddr, chunk.messageId) ≠ key) : asm'.assembly? key = asm.alive? now key := by
  rcases addChunk_eq_ok h with rfl | ⟨raw, rfl⟩
  · exact assembly?_cleanupExpired asm now key
  · exact (addPart_other hkey).trans (assembly?_cleanupExpired asm now key)

/-- What a chunk does to its own message, and what comes of it, as if that message were alone. -/
theorem addChunk_own (crc32 : Bytes → UInt32) (asm : ChunkAssembler) (srcAddr : SocketAddr) (chunk : UdpChunk)
    (now : Nat) :
    (asm.addChunk crc32 srcAddr chunk now).map (fun p => (p.1.assembly? (srcAddr, chunk.messageId), p.2)) =
      PendingAssembly.addChunk crc32 (asm.alive? now (srcAddr, chunk.messageId))
        ((asm.cleanupExpired now).hasRoom srcAddr) chunk now := by
  have hfound := assembly?_cleanupExpired asm now (srcAddr, chunk.messageId)
  unfold addChunk PendingAssembly.addChunk
  simp only
  split
  · rw [Outcome.map, hfound]
  · split
    · rfl
    · rw [Outcome.map, hfound]
    · split
      · rw [Outcome.map, hfound]
      · split
        · rw [Outcome.map, hfound]
        · rw [Outcome.map, addPart_own, hfound]

theorem get?_only (asm : ChunkAssembler) (srcAddr : SocketAddr) (key : AssemblyKey) :
    (asm.only srcAddr).pending.get? key = if key.1 = srcAddr then (asm.assembly? key).map (key, ·) else none := by
  unfold only assembly?
  rw [KeyedList.get?_filter]
  cases hget : asm.pending.get? key with
  | none => split <;> rfl
  | some e =>
    have hkey : e.1 = key := KeyedList.key_of_get? hget
    subst hkey
    by_cases h : e.1.1 = srcAddr <;> simp [Option.filter, h]

/-- Which room a sender's own messages leave it depends on those alone. -/
theorem hasRoom_only (h : ∀ id, asm.alive? now (srcAddr, id) = asm'.alive? now (srcAddr, id)) :
    ((asm.cleanupExpired now).only srcAddr).hasRoom srcAddr =
      ((asm'.cleanupExpired now).only srcAddr).hasRoom srcAddr := by
  have hperm : ((asm.cleanupExpired now).only srcAddr).pending.list.Perm
      ((asm'.cleanupExpired now).only srcAddr).pending.list := by
    refine KeyedList.perm_of_get? fun key => ?_
    obtain ⟨addr, id⟩ := key
    rw [get?_only, get?_only, assembly?_cleanupExpired, assembly?_cleanupExpired]
    split
    · rename_i haddr
      obtain rfl : addr = srcAddr := haddr
      rw [h id]
    · rfl
  unfold hasRoom
  rw [hperm.length_eq, (hperm.filter _).length_eq]

end ChunkAssembler

namespace UdpChunk

/-- A chunk read from a datagram carries its bytes, so `add_chunk` does not panic on it. -/
theorem decodePayload_fromBytes {bytes : Bytes} {chunk : UdpChunk} (h : fromBytes bytes = .ok chunk) :
    chunk.decodePayload = .ok (bytes.drop binaryHeaderSize) := by
  unfold fromBytes at h
  split at h
  · cases h
  · split at h
    · cases h
    · split at h
      · cases h
        rfl
      · cases h

theorem addChunk_fromBytes (crc32 : Bytes → UInt32) (asm : ChunkAssembler) (srcAddr : SocketAddr) {bytes : Bytes}
    {chunk : UdpChunk} (h : fromBytes bytes = .ok chunk) (now : Nat) :
    ∃ p, asm.addChunk crc32 srcAddr chunk now = .ok p := by
  unfold ChunkAssembler.addChunk
  simp only [decodePayload_fromBytes h]
  repeat' split
  all_goals exact ⟨_, rfl⟩

end UdpChunk

end NodeX.Kad
