/-
`P2PTransportEngine.kt`: the chunks of the Android client, which sends and assembles them with code of its own. The
checksum of its library is that of the other one. A reading of the clock stands for those of a call; it is a wall clock,
and where it went back a message is as old as one that began just now.
-/
import NodeX.Kad.Pipeline

namespace NodeX.Kad

open NodeX.Lib UdpChunk

namespace P2PTransportEngine

/-! ## Sending and receiving -/

def bytesToHex (bytes : Bytes) : String := hexString bytes

/-- An unsigned big-endian number read off a buffer. -/
def unsigned (data : Bytes) (i width : Nat) : Nat := beNat ((data.drop i).take width)

structure ChunkAssembly where
  totalCount : Nat
  createdAt : Nat
  parts : KeyedList (Prod.fst : Nat × Bytes → Nat) := ∅
deriving DecidableEq

/-- `activeAssemblies`. -/
abbrev Assemblies := KeyedList (Prod.fst : String × ChunkAssembly → String)

/-- The bytes of a message all of whose parts are there. -/
def ChunkAssembly.full (assembly : ChunkAssembly) : Option Bytes :=
  let totalLen := (assembly.parts.list.map fun p => p.2.length).sum
  if totalLen > 128 * 1024 then none
  else
    ((List.range assembly.totalCount).mapM fun i => (assembly.parts.get? i).map Prod.snd).map List.flatten

def removeExpired (active : Assemblies) (now : Nat) : Assemblies :=
  active.filter fun e => !decide (now - e.2.createdAt > 30000)

/-- The part of `processIncomingChunk` behind its checks. -/
def addPart (active : Assemblies) (assemblyKey : String) (chunkCount chunkIdx : Nat) (payload : Bytes) (now : Nat) :
    Assemblies × Option Bytes :=
  let found := (active.get? assemblyKey).map Prod.snd
  if found.isNone ∧ active.list.length ≥ 128 then (active, none)
  else
    let assembly := found.getD { totalCount := chunkCount, createdAt := now }
    if assembly.totalCount ≠ chunkCount then (active.erase assemblyKey, none)
    else
      let assembly := { assembly with parts := assembly.parts.upsert (chunkIdx, payload) }
      if assembly.parts.list.length = assembly.totalCount then (active.erase assemblyKey, assembly.full)
      else (active.upsert (assemblyKey, assembly), none)

def processIncomingChunk (crc32 : Bytes → UInt32) (active : Assemblies) (data : Bytes) (senderKey : String)
    (now : Nat) : Assemblies × Option Bytes :=
  if data.length < 28 then (active, none)
  else
    let msgIdHex := bytesToHex ((data.drop 4).take 16)
    let chunkIdx := unsigned data 20 2
    let chunkCount := unsigned data 22 2
    if ¬(1 ≤ chunkCount ∧ chunkCount ≤ 256) ∨ ¬chunkIdx < chunkCount ∨ data.length > 528 then (active, none)
    else
      let expectedCrc := unsigned data 24 4
      let payload := data.drop 28
      if (crc32 payload).toNat ≠ expectedCrc then (active, none)
      else
        addPart (removeExpired active now) (senderKey ++ ":" ++ msgIdHex) chunkCount chunkIdx payload now

/-- `handleIncomingPacket`: what begins like a chunk and is long enough is one. -/
def arrive (crc32 : Bytes → UInt32) (active : Assemblies) (a : Arrival String) : Assemblies × Option Bytes :=
  if a.bytes.length ≥ 28 ∧ a.bytes.take 4 = [0x4E, 0x58, 0x43, 0x4B] then
    processIncomingChunk crc32 active a.bytes a.sender a.now
  else (active, none)

def splitIntoNxckChunks (crc32 : Bytes → UInt32) (msgId : Vector UInt8 16) (data : Bytes) : List Bytes :=
  let chunkSize := 500
  let chunkCount := (data.length + chunkSize - 1) / chunkSize
  (List.range chunkCount).map fun idx =>
    let start := idx * chunkSize
    let stop := min (start + chunkSize) data.length
    let slice := (data.drop start).take (stop - start)
    [0x4E, 0x58, 0x43, 0x4B] ++ msgId.toList ++ toBe 2 idx ++ toBe 2 chunkCount ++ toBe 4 (crc32 slice).toNat ++ slice

/-! ## What is sent -/

theorem magic_eq : binaryMagic = [0x4E, 0x58, 0x43, 0x4B] := by decide

theorem getElem_slices (size : Nat) : ∀ {count idx : Nat} (data : Bytes) (h : idx < (slices size count data).length),
    (slices size count data)[idx] = (data.drop (idx * size)).take size
  | 0, _, _, h => absurd h (Nat.not_lt_zero _)
  | count + 1, 0, data, h => by
    rw [Nat.zero_mul, List.drop_zero]
    rfl
  | count + 1, idx + 1, data, h => by
    have hidx : idx < (slices size count (data.drop size)).length := Nat.lt_of_succ_lt_succ h
    have hrest := getElem_slices size (data.drop size) hidx
    rw [List.drop_drop, Nat.add_comm, ← Nat.succ_mul] at hrest
    exact hrest

/-- Both clients cut a message into the same datagrams; an empty one is sent as no chunk at all here. -/
theorem splitIntoNxckChunks_eq (crc32 : Bytes → UInt32) (msgId : Vector UInt8 16) {data : Bytes}
    (hne : data ≠ []) (hlen : data.length ≤ 65589) :
    splitIntoNxckChunks crc32 msgId data = (splitData crc32 msgId data).map toBytes := by
  have hempty : ¬data.isEmpty = true := fun h => hne (List.isEmpty_iff.1 h)
  have hcount : (payloads data).length = (data.length + 499) / 500 := by
    unfold payloads
    rw [if_neg hempty, length_slices]
    rfl
  refine List.ext_getElem ?_ ?_
  · rw [List.length_map, length_splitData, hcount]
    unfold splitIntoNxckChunks
    rw [List.length_map, List.length_range]
    rfl
  · intro idx h h'
    have hidx : idx < (payloads data).length := by
      rwa [List.length_map, length_splitData] at h'
    have hraw : (payloads data)[idx] = (data.drop (idx * 500)).take 500 := by
      have hslices : payloads data = slices 500 ((data.length + 499) / 500) data := if_neg hempty
      simp only [hslices]
      exact getElem_slices 500 data _
    have hslice : (data.drop (idx * 500)).take (min (idx * 500 + 500) data.length - idx * 500) =
        (data.drop (idx * 500)).take 500 := by
      rw [List.take_eq_take_iff, List.length_drop]
      omega
    have hsent : ((splitData crc32 msgId data).map toBytes)[idx] =
        toBytes (framed crc32 msgId (payloads data).length idx (payloads data)[idx]) := by
      simp only [splitData_eq, List.getElem_map, List.getElem_mapIdx]
    rw [hsent, toBytes_eq rfl, hraw, magic_eq]
    unfold splitIntoNxckChunks
    simp only [List.getElem_map, List.getElem_range, hslice, List.append_assoc]
    have hindex : (UInt16.ofNat idx).toNat = idx := by
      rw [UInt16.toNat_ofNat']
      omega
    have htotal : (UInt16.ofNat (payloads data).length).toNat = (data.length + 499) / 500 := by
      rw [UInt16.toNat_ofNat', hcount]
      omega
    show _ = _ ++ (_ ++ (toBe 2 (UInt16.ofNat idx).toNat ++ (toBe 2 (UInt16.ofNat (payloads data).length).toNat ++ _)))
    rw [hindex, htotal]
    rfl

/-! ## Keys -/

theorem length_toList_bytesToHex (bytes : Bytes) : (bytesToHex bytes).toList.length = 2 * bytes.length := by
  unfold bytesToHex hexString
  rw [String.toList_ofList, List.length_flatMap]
  induction bytes with
  | nil => rfl
  | cons b bytes ih =>
    rw [List.map_cons, List.sum_cons, ih, List.length_cons, List.length_cons, List.length_cons, List.length_nil]
    omega

theorem bytesToHex_inj {bytes bytes' : Bytes} (h : bytesToHex bytes = bytesToHex bytes') : bytes = bytes' := by
  have hread := hexPairs_hexString bytes
  unfold bytesToHex at h
  rw [h, hexPairs_hexString] at hread
  exact (Outcome.ok.inj hread).symm

/-- Ids of one length behind the colon: the sender and the message are read off the key. -/
theorem assemblyKey_inj {senderKey senderKey' : String} {id id' : Bytes} (hlen : id.length = id'.length)
    (h : senderKey ++ ":" ++ bytesToHex id = senderKey' ++ ":" ++ bytesToHex id') :
    senderKey = senderKey' ∧ id = id' := by
  have hlist := congrArg String.toList h
  simp only [String.toList_append] at hlist
  obtain ⟨hsender, hhex⟩ := List.append_inj' hlist (by
    rw [length_toList_bytesToHex, length_toList_bytesToHex, hlen])
  exact ⟨String.toList_injective (List.append_cancel_right hsender), bytesToHex_inj (String.toList_injective hhex)⟩

/-! ## One message -/

section Assembling

variable {crc32 : Bytes → UInt32} {messageId : Vector UInt8 16} {data : Bytes} {start now : Nat} {active : Assemblies}
  {key : String} {came : List UdpChunk} {c : UdpChunk} {assembly : ChunkAssembly}

/-- What is kept of a chunk. -/
def partOf (c : UdpChunk) : Nat × Bytes := (c.chunkIndex.toNat, c.rawData.getD [])

variable (crc32 messageId) in
theorem map_index_splitData (hlen : (payloads data).length ≤ 256) :
    ((splitData crc32 messageId data).map fun c => (partOf c).1) = List.range (payloads data).length := by
  have h := congrArg (List.map UInt16.toNat) (UdpChunk.map_index_splitData crc32 messageId data)
  rw [List.map_map, List.map_map] at h
  refine h.trans (List.ext_getElem (by simp) ?_)
  intro i hi hi'
  rw [List.length_range] at hi'
  simp only [List.getElem_map, List.getElem_range, Function.comp_apply, UInt16.toNat_ofNat']
  omega

/-- An assembly of a message of `count` chunks, with the parts of those that came. -/
structure Holds (count start : Nat) (assembly : ChunkAssembly) (came : List UdpChunk) : Prop where
  totalCount : assembly.totalCount = count
  created : start ≤ assembly.createdAt
  parts : Collected partOf assembly.parts came

/-- A message of which these chunks came. -/
def Shows (count start : Nat) (key : String) (active : Assemblies) (came : List UdpChunk) : Prop :=
  (active.get? key = none ∧ came = []) ∨ ∃ assembly, active.get? key = some (key, assembly) ∧
    Holds count start assembly came

/-- The parts are given out in order, and are not too many. -/
theorem full_of_holds (hlen : (payloads data).length ≤ 256) (h : Holds (payloads data).length start assembly came)
    (hsub : came ⊆ splitData crc32 messageId data) (hall : splitData crc32 messageId data ⊆ came)
    (hdata : data.length ≤ 128 * 1024) : assembly.full = some data := by
  have hindex := map_index_splitData crc32 messageId hlen
  have htotal : (assembly.parts.list.map fun p => p.2.length).sum = data.length := by
    have hperm := h.parts.perm hsub hall (hindex ▸ List.nodup_range)
    rw [(hperm.map fun p => p.2.length).sum_eq, List.map_map]
    conv_rhs => rw [← flatten_payloads data, List.length_flatten, ← map_raw_splitData crc32 messageId data]
    rw [List.map_map]
    rfl
  have hparts : (List.range assembly.totalCount).mapM (fun i => (assembly.parts.get? i).map Prod.snd) =
      some (payloads data) := by
    rw [h.totalCount, ← hindex, List.mapM_map, ← map_raw_splitData crc32 messageId data]
    exact h.parts.mapM_get? hall
  unfold ChunkAssembly.full
  dsimp only
  rw [htotal, if_neg (by omega), hparts, Option.map_some, flatten_payloads]

/-- What a chunk of the message behind the checks does to it. -/
theorem addPart_of_shows (hlen : (payloads data).length ≤ 256) (hdata : data.length ≤ 128 * 1024)
    (hshows : Shows (payloads data).length start key active came) (hsub : came ⊆ splitData crc32 messageId data)
    (hc : c ∈ splitData crc32 messageId data) (hroom : active.get? key = none → active.list.length < 128)
    (hnow : start ≤ now) :
    (¬splitData crc32 messageId data ⊆ c :: came →
        Shows (payloads data).length start key
          (addPart active key (payloads data).length c.chunkIndex.toNat (partOf c).2 now).1 (c :: came) ∧
        (addPart active key (payloads data).length c.chunkIndex.toNat (partOf c).2 now).2 = none) ∧
      (splitData crc32 messageId data ⊆ c :: came →
        (addPart active key (payloads data).length c.chunkIndex.toNat (partOf c).2 now).2 = some data) := by
  have hindex := map_index_splitData crc32 messageId hlen
  have hnodup : ((splitData crc32 messageId data).map fun c => (partOf c).1).Nodup := hindex ▸ List.nodup_range
  have hholds : Holds (payloads data).length start
      (((active.get? key).map Prod.snd).getD { totalCount := (payloads data).length, createdAt := now }) came := by
    rcases hshows with ⟨hnone, rfl⟩ | ⟨assembly, hsome, h⟩
    · rw [hnone]
      exact ⟨rfl, hnow, collected_empty⟩
    · rw [hsome]
      exact h
  have hspace : ¬(((active.get? key).map Prod.snd).isNone ∧ active.list.length ≥ 128) := by
    rintro ⟨hnone, hfull⟩
    rw [Option.isNone_map, Option.isNone_iff_eq_none] at hnone
    have := hroom hnone
    omega
  unfold addPart
  dsimp only
  rw [if_neg hspace]
  generalize ((active.get? key).map Prod.snd).getD { totalCount := (payloads data).length, createdAt := now } =
    assembly at hholds
  have hpart : (c.chunkIndex.toNat, (partOf c).2) = partOf c := rfl
  rw [if_neg (not_not.2 hholds.totalCount), hpart]
  have hadded : Holds (payloads data).length start { assembly with parts := assembly.parts.upsert (partOf c) }
      (c :: came) := by
    refine ⟨hholds.totalCount, hholds.created, hholds.parts.upsert ?_⟩
    intro q hq hkey
    rw [List.inj_on_of_nodup_map hnodup (hsub hq) hc hkey]
  have hsub' : c :: came ⊆ splitData crc32 messageId data := List.cons_subset.2 ⟨hc, hsub⟩
  have hlength : (assembly.parts.upsert (partOf c)).list.length = assembly.totalCount ↔
      splitData crc32 messageId data ⊆ c :: came := by
    have hiff := hadded.parts.length_eq_iff hsub' hnodup
    rw [length_splitData] at hiff
    rw [← hiff, hholds.totalCount]
  constructor
  · intro hmissing
    rw [if_neg fun h => hmissing (hlength.1 h)]
    refine ⟨.inr ⟨_, ?_, hadded⟩, rfl⟩
    rw [KeyedList.get?_upsert, if_pos rfl]
  · intro hall
    rw [if_pos (hlength.2 hall)]
    exact full_of_holds hlen hadded hsub' hall hdata

theorem addPart_other {key' : String} (h : key' ≠ key) (chunkCount chunkIdx : Nat) (payload : Bytes) :
    (addPart active key' chunkCount chunkIdx payload now).1.get? key = active.get? key := by
  unfold addPart
  dsimp only
  split
  · rfl
  · split
    · rw [KeyedList.get?_erase, if_neg h]
    · split
      · rw [KeyedList.get?_erase, if_neg h]
      · rw [KeyedList.get?_upsert, if_neg h]

theorem get?_removeExpired (hshows : Shows (payloads data).length start key active came) (hnow : now - start < 30001) :
    (removeExpired active now).get? key = active.get? key := by
  unfold removeExpired
  rw [KeyedList.get?_filter]
  rcases hshows with ⟨hnone, -⟩ | ⟨assembly, hsome, hholds⟩
  · rw [hnone]
    rfl
  · have hcreated := hholds.created
    rw [hsome, Option.filter_some, if_pos]
    rw [Bool.not_eq_true', decide_eq_false_iff_not]
    dsimp only
    omega

theorem unsigned_of_at {i width n : Nat} (h : At data i (toBe width n)) (hn : n < 256 ^ width) :
    unsigned data i width = n := by
  have hbytes := h.2
  rw [length_toBe] at hbytes
  unfold unsigned
  rw [hbytes, beNat_toBe, Nat.mod_eq_of_lt hn]

/-- The key of a message. -/
def keyOf (senderKey : String) (messageId : Vector UInt8 16) : String :=
  senderKey ++ ":" ++ bytesToHex messageId.toList

/-- A chunk of the other client passes the checks. -/
theorem arrive_own (hlen : (payloads data).length ≤ 256) {a : Arrival String}
    (hc : c ∈ splitData crc32 messageId data) (hbytes : c.toBytes = a.bytes) :
    arrive crc32 active a = addPart (removeExpired active a.now) (keyOf a.sender messageId) (payloads data).length
      c.chunkIndex.toNat (partOf c).2 a.now := by
  have hcount := toNat_chunkCount_of_mem hlen hc
  have hindex := toNat_chunkIndex_lt_of_mem hc
  have hid := messageId_of_mem hc
  obtain ⟨hlaid, hraw, hcrc⟩ : Laid c (partOf c).2 c.toBytes ∧ (partOf c).2.length ≤ chunkPayloadSize ∧
      c.checksum = crc32 (partOf c).2 := by
    obtain ⟨idx, raw, -, hraw, rfl⟩ := mem_splitData hc
    exact ⟨laid_toBytes rfl, length_of_mem_payloads hraw, rfl⟩
  rw [hbytes] at hlaid
  have hsize := hlaid.length
  unfold binaryHeaderSize at hsize
  unfold chunkPayloadSize at hraw
  have hchecksum : unsigned a.bytes 24 4 = (crc32 (partOf c).2).toNat := by
    rw [unsigned_of_at hlaid.checksum (UInt32.toNat_lt _), hcrc]
  have hmessageId : (a.bytes.drop 4).take 16 = messageId.toList := by
    have h := hlaid.messageId.2
    rwa [Vector.length_toList, hid] at h
  have hpayload : a.bytes.drop 28 = (partOf c).2 := hlaid.raw
  unfold arrive processIncomingChunk
  rw [if_pos ⟨by omega, hlaid.magic.trans magic_eq⟩, if_neg (by omega)]
  dsimp only
  rw [unsigned_of_at hlaid.chunkIndex (UInt16.toNat_lt _), unsigned_of_at hlaid.chunkCount (UInt16.toNat_lt _),
    hchecksum, hpayload, hmessageId, hcount, if_neg (by omega), if_neg (not_not.2 rfl)]
  rfl

variable (crc32) in
/-- What is not a chunk of a message leaves it as it is while its time lasts. -/
theorem arrive_other {a : Arrival String} {senderKey : String}
    (hother : a.sender = senderKey → a.messageId? ≠ some messageId)
    (halive : (removeExpired active a.now).get? (keyOf senderKey messageId) = active.get? (keyOf senderKey messageId)) :
    (arrive crc32 active a).1.get? (keyOf senderKey messageId) = active.get? (keyOf senderKey messageId) := by
  unfold arrive
  split
  · rename_i hchunk
    obtain ⟨hsize, hmagic⟩ := hchunk
    unfold processIncomingChunk
    dsimp only
    split
    · rfl
    · split
      · rfl
      · split
        · rfl
        · refine (addPart_other ?_ _ _ _).trans halive
          intro hkey
          have hlen : ((a.bytes.drop 4).take 16).length = 16 := by
            rw [List.length_take, List.length_drop]
            omega
          obtain ⟨hsender, hid⟩ := assemblyKey_inj (by rw [hlen, Vector.length_toList]) hkey
          refine hother hsender ?_
          have hat : At a.bytes 4 messageId.toList := by
            refine ⟨by rw [Vector.length_toList]; omega, ?_⟩
            rw [Vector.length_toList, hid]
          have hfields : ∃ chunkIndex chunkCount checksum, u16? a.bytes 20 = some chunkIndex ∧
              u16? a.bytes 22 = some chunkCount ∧ u32? a.bytes 24 = some checksum := by
            unfold u16? u32? slice?
            rw [if_pos (by omega), if_pos (by omega), if_pos (by omega)]
            exact ⟨_, _, _, rfl, rfl, rfl⟩
          obtain ⟨chunkIndex, chunkCount, checksum, hindex, hcount, hchecksum⟩ := hfields
          unfold Arrival.messageId? fromBytes
          rw [if_neg (by unfold binaryHeaderSize; omega), if_neg (not_not.2 (hmagic.trans magic_eq.symm)),
            array?_eq_some.2 hat, hindex, hcount, hchecksum]
          rfl
  · rfl

/-- The datagrams of a message are delivered to an Android client, which has room for it. -/
def Delivered (crc32 : Bytes → UInt32) (active : Assemblies) (senderKey : String) (messageId : Vector UInt8 16)
    (datagrams : List Bytes) (start : Nat) (before : List (Arrival String)) (last : Arrival String) : Prop :=
  Kad.Delivered (fun active a => (arrive crc32 active a).1)
    (fun active => active.get? (keyOf senderKey messageId) = none)
    (fun active now => (removeExpired active now).list.length < 128) 30001 active senderKey messageId datagrams
    start before last

/-- What a chunk of a message does to it. -/
theorem shows_own (hlen : (payloads data).length ≤ 256) (hdata : data.length ≤ 128 * 1024) {a : Arrival String}
    (hshows : Shows (payloads data).length start (keyOf a.sender messageId) active came)
    (hsub : came ⊆ splitData crc32 messageId data) (hc : c ∈ splitData crc32 messageId data)
    (hbytes : c.toBytes = a.bytes) (hnow : a.now - start < 30001) (hstart : start ≤ a.now)
    (hroom : active.get? (keyOf a.sender messageId) = none → (removeExpired active a.now).list.length < 128) :
    (¬splitData crc32 messageId data ⊆ c :: came →
        Shows (payloads data).length start (keyOf a.sender messageId) (arrive crc32 active a).1 (c :: came) ∧
        (arrive crc32 active a).2 = none) ∧
      (splitData crc32 messageId data ⊆ c :: came → (arrive crc32 active a).2 = some data) := by
  have hsame := get?_removeExpired hshows hnow
  rw [arrive_own hlen hc hbytes]
  refine addPart_of_shows hlen hdata ?_ hsub hc (fun hnone => hroom (hsame.symm.trans hnone)) hstart
  unfold Shows
  rw [hsame]
  exact hshows

theorem assembles (hlen : (payloads data).length ≤ 256) (hdata : data.length ≤ 128 * 1024) {senderKey : String} :
    Assembles (fun active a => (arrive crc32 active a).1) (fun active a => (arrive crc32 active a).2)
      (Arrival.chunkOf? senderKey (splitData crc32 messageId data))
      (Admitted (fun active => active.get? (keyOf senderKey messageId) = none)
        (fun active now => (removeExpired active now).list.length < 128) 30001 senderKey messageId
        ((splitData crc32 messageId data).map toBytes) start)
      (splitData crc32 messageId data) (Shows (payloads data).length start (keyOf senderKey messageId)) data := by
  refine ⟨?_, ?_, ?_⟩
  · rintro active a came ⟨hothers, hnow, -⟩ ha hshows
    have hother := arrive_other crc32 (fun hsender hid =>
      Arrival.chunkOf?_eq_none ha hsender (hothers hsender hid)) (get?_removeExpired hshows hnow)
    unfold Shows
    rw [hother]
    exact hshows
  · rintro active a came c ⟨-, hnow, hadmitted⟩ ha hsub hmissing hshows
    obtain ⟨rfl, hc, hbytes⟩ := Arrival.chunkOf?_eq_some.1 ha
    obtain ⟨hstart, hroom⟩ := hadmitted rfl (List.mem_map.2 ⟨c, hc, hbytes⟩)
    exact (shows_own hlen hdata hshows hsub hc hbytes hnow hstart hroom).1 hmissing
  · rintro active a came c ⟨-, hnow, hadmitted⟩ ha hsub hall hshows
    obtain ⟨rfl, hc, hbytes⟩ := Arrival.chunkOf?_eq_some.1 ha
    obtain ⟨hstart, hroom⟩ := hadmitted rfl (List.mem_map.2 ⟨c, hc, hbytes⟩)
    exact (shows_own hlen hdata hshows hsub hc hbytes hnow hstart hroom).2 hall

end Assembling

/-! ## Both ways -/

/-- The chunks of a message that the one client sends are put together by the other, whatever the order in which they
arrive: with the last of them it gives out the bytes that were split, and not before. -/
theorem chunks_interoperate (crc32 : Bytes → UInt32) (messageId : Vector UInt8 16) {data : Bytes}
    (hlen : data.length ≤ 65589) :
    (∀ (active : Assemblies) senderKey start before last,
      Delivered crc32 active senderKey messageId ((splitData crc32 messageId data).map toBytes) start before last →
        Steps (fun active a => (arrive crc32 active a).1) (fun active a => a.sender = senderKey →
            a.bytes ∈ (splitData crc32 messageId data).map toBytes → (arrive crc32 active a).2 = none) active before ∧
          (arrive crc32 (run (fun active a => (arrive crc32 active a).1) active before) last).2 = some data) ∧
      ∀ (asm : ChunkAssembler) srcAddr start before last,
        asm.Delivered crc32 srcAddr messageId (splitIntoNxckChunks crc32 messageId data) start before last →
          Steps (fun asm a => (asm.arrive crc32 a).1) (fun asm a => a.sender = srcAddr →
              a.bytes ∈ splitIntoNxckChunks crc32 messageId data → (asm.arrive crc32 a).2 = none) asm before ∧
            ((run (fun asm a => (asm.arrive crc32 a).1) asm before).arrive crc32 last).2 = some data := by
  have hcount : (payloads data).length ≤ 256 := by
    rw [length_payloads]
    unfold chunkPayloadSize
    omega
  constructor
  · intro active senderKey start before last h
    exact Kad.Delivered.completes (assembles hcount (by omega)) (fun hfresh => .inl ⟨hfresh, rfl⟩) h
  · intro asm srcAddr start before last h
    have hne : data ≠ [] := by
      rintro rfl
      exact absurd h.last_mem List.not_mem_nil
    rw [splitIntoNxckChunks_eq crc32 messageId hne hlen] at h ⊢
    exact h.assembled hcount

section Sample

open RpcMessage.Sample

/-- The same arrivals at an Android client; the chunk of another sender has another key. -/
def atAndroid (a : Arrival SocketAddr) : Arrival String where
  sender := if a.sender = peer.addr then "192.168.1.50:9000" else "192.168.1.50:1"
  bytes := a.bytes
  now := a.now

theorem delivered_android : Delivered byteSum ∅ "192.168.1.50:9000" chunkId
    ((splitData byteSum chunkId longBytes).map toBytes) 5 (chunksBefore.map atAndroid)
    (atAndroid (chunkFrom peer.addr 1 9)) where
  fresh := rfl
  admitted := by decide +kernel
  source := by decide
  last_mem := by decide +kernel
  last_new := by decide +kernel
  all := by decide +kernel

theorem chunks_interoperate_long :
    (arrive byteSum (run (fun active a => (arrive byteSum active a).1) ∅ (chunksBefore.map atAndroid))
      (atAndroid (chunkFrom peer.addr 1 9))).2 = some longBytes ∧
    ((run (fun (asm : ChunkAssembler) a => (asm.arrive byteSum a).1) { reassemblyTimeout := 30 } chunksBefore).arrive
      byteSum (chunkFrom peer.addr 1 9)).2 = some longBytes := by
  have hlen : longBytes.length ≤ 65589 := by decide +kernel
  have hne : longBytes ≠ [] := by decide
  have hdelivered := delivered_long
  rw [← splitIntoNxckChunks_eq byteSum chunkId hne hlen] at hdelivered
  have hboth := chunks_interoperate byteSum chunkId hlen
  exact ⟨(hboth.1 _ _ _ _ _ delivered_android).2, (hboth.2 _ _ _ _ _ hdelivered).2⟩

end Sample

end P2PTransportEngine

end NodeX.Kad
