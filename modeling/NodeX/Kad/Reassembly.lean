/-
The chunks of a message, framed and read back, and put together again whatever the order in which they arrive: with the
last of them the assembler gives out the bytes that were split, and not before.
-/
import NodeX.Core.Buffer
import NodeX.Kad.Chunking
import NodeX.Lib.Collect

namespace NodeX.Kad

open NodeX.Lib

/-! ## Framing -/

namespace UdpChunk

variable {crc32 : Bytes → UInt32} {messageId : Vector UInt8 16} {data raw : Bytes} {c : UdpChunk}

theorem toBytes_eq (h : c.rawData = some raw) :
    c.toBytes = binaryMagic ++ (c.messageId.toList ++ (toBe 2 c.chunkIndex.toNat ++ (toBe 2 c.chunkCount.toNat ++
      (toBe 4 c.checksum.toNat ++ raw)))) := by
  have hpayload : c.decodePayload = .ok raw := by
    unfold decodePayload
    rw [h]
  unfold toBytes
  rw [hpayload]
  simp only [List.append_assoc]

theorem length_toBytes (h : c.rawData = some raw) : c.toBytes.length = binaryHeaderSize + raw.length := by
  rw [toBytes_eq h]
  simp only [List.length_append, length_toBe, Vector.length_toList]
  have hmagic : binaryMagic.length = 4 := by decide
  unfold binaryHeaderSize
  omega

theorem take_toBytes (h : c.rawData = some raw) : c.toBytes.take 4 = binaryMagic := by
  rw [toBytes_eq h]
  exact List.take_left' (by decide)

/-- Where the fields of a chunk are. -/
structure Laid (c : UdpChunk) (raw bytes : Bytes) : Prop where
  length : bytes.length = binaryHeaderSize + raw.length
  magic : bytes.take 4 = binaryMagic
  messageId : At bytes 4 c.messageId.toList
  chunkIndex : At bytes 20 (toBe 2 c.chunkIndex.toNat)
  chunkCount : At bytes 22 (toBe 2 c.chunkCount.toNat)
  checksum : At bytes 24 (toBe 4 c.checksum.toNat)
  raw : bytes.drop binaryHeaderSize = raw

theorem laid_toBytes (h : c.rawData = some raw) : Laid c raw c.toBytes := by
  have hlen := length_toBytes h
  have hat : At c.toBytes 0 (binaryMagic ++ (c.messageId.toList ++ (toBe 2 c.chunkIndex.toNat ++
      (toBe 2 c.chunkCount.toNat ++ (toBe 4 c.checksum.toNat ++ raw))))) := by
    rw [← toBytes_eq h]
    exact at_zero_self _
  have hmagic : binaryMagic.length = 4 := by decide
  simp only [at_append, hmagic, length_toBe, Vector.length_toList] at hat
  obtain ⟨-, hid, hindex, hcount, hchecksum, hraw⟩ := hat
  have hdrop := hraw.2
  rw [List.take_of_length_le] at hdrop
  · exact ⟨hlen, take_toBytes h, hid, hindex, hcount, hchecksum, hdrop⟩
  · rw [List.length_drop, hlen]
    unfold binaryHeaderSize
    omega

/-- A chunk is read as it was framed. -/
theorem fromBytes_toBytes (h : c.rawData = some raw) (hhex : c.payloadHex = hexString raw) :
    fromBytes c.toBytes = .ok c := by
  have hlaid := laid_toBytes h
  have hlen := hlaid.length
  unfold fromBytes
  rw [if_neg (by omega), if_neg (not_not.2 hlaid.magic), array?_eq_some.2 hlaid.messageId,
    u16?_eq_some.2 hlaid.chunkIndex, u16?_eq_some.2 hlaid.chunkCount, u32?_eq_some.2 hlaid.checksum]
  dsimp only
  rw [hlaid.raw, ← hhex, ← h]

/-! ## Splitting -/

/-- The payloads of the chunks; an empty message has one, which is empty. -/
def payloads (data : Bytes) : List Bytes :=
  if data.isEmpty then [[]]
  else slices chunkPayloadSize ((data.length + (chunkPayloadSize - 1)) / chunkPayloadSize) data

/-- One chunk of `count`. -/
def framed (crc32 : Bytes → UInt32) (messageId : Vector UInt8 16) (count idx : Nat) (raw : Bytes) : UdpChunk where
  messageId
  chunkIndex := UInt16.ofNat idx
  chunkCount := UInt16.ofNat count
  checksum := crc32 raw
  payloadHex := hexString raw
  rawData := some raw

theorem length_slices (size : Nat) : ∀ (count : Nat) (data : Bytes), (slices size count data).length = count
  | 0, _ => rfl
  | count + 1, _ => congrArg (· + 1) (length_slices size count _)

theorem flatten_slices (size : Nat) : ∀ (count : Nat) (data : Bytes), data.length ≤ count * size →
    (slices size count data).flatten = data
  | 0, data, h => by
    rw [Nat.zero_mul, Nat.le_zero, List.length_eq_zero_iff] at h
    exact h.symm
  | count + 1, data, h => by
    have hrest : (data.drop size).length ≤ count * size := by
      rw [List.length_drop, Nat.sub_le_iff_le_add]
      rwa [Nat.succ_mul] at h
    show data.take size ++ (slices size count (data.drop size)).flatten = data
    rw [flatten_slices size count _ hrest, List.take_append_drop]

theorem length_of_mem_slices (size : Nat) : ∀ {count : Nat} {data slice : Bytes}, slice ∈ slices size count data →
    slice.length ≤ size
  | 0, _, _, h => absurd h List.not_mem_nil
  | count + 1, data, slice, h => by
    rcases List.mem_cons.1 h with rfl | h
    · exact List.length_take_le _ _
    · exact length_of_mem_slices size h

theorem flatten_payloads (data : Bytes) : (payloads data).flatten = data := by
  unfold payloads
  split
  · rename_i h
    exact (List.isEmpty_iff.1 h).symm
  · refine flatten_slices _ _ _ ?_
    unfold chunkPayloadSize
    omega

theorem length_of_mem_payloads (h : raw ∈ payloads data) : raw.length ≤ chunkPayloadSize := by
  unfold payloads at h
  split at h
  · obtain rfl := List.mem_singleton.1 h
    exact Nat.zero_le _
  · exact length_of_mem_slices _ h

theorem length_payloads (data : Bytes) :
    (payloads data).length = max 1 ((data.length + (chunkPayloadSize - 1)) / chunkPayloadSize) := by
  unfold payloads
  split
  · rename_i h
    rw [List.isEmpty_iff.1 h]
    rfl
  · rename_i h
    rw [length_slices]
    have hpos : 0 < data.length := List.length_pos_iff.2 fun hnil => h (List.isEmpty_iff.2 hnil)
    unfold chunkPayloadSize
    omega

theorem splitData_eq (crc32 : Bytes → UInt32) (messageId : Vector UInt8 16) (data : Bytes) :
    splitData crc32 messageId data = (payloads data).mapIdx (framed crc32 messageId (payloads data).length) := by
  unfold splitData payloads
  split
  · rfl
  · rw [length_slices]
    rfl

variable (crc32 messageId data) in
theorem length_splitData : (splitData crc32 messageId data).length = (payloads data).length := by
  rw [splitData_eq, List.length_mapIdx]

theorem mem_splitData (h : c ∈ splitData crc32 messageId data) : ∃ idx raw, idx < (payloads data).length ∧
    raw ∈ payloads data ∧ c = framed crc32 messageId (payloads data).length idx raw := by
  rw [splitData_eq] at h
  obtain ⟨idx, hidx, rfl⟩ := List.mem_mapIdx.1 h
  exact ⟨idx, _, hidx, List.getElem_mem hidx, rfl⟩

/-- What is kept of a chunk. -/
def part (c : UdpChunk) : UInt16 × Bytes := (c.chunkIndex, c.rawData.getD [])

theorem map_index_splitData (crc32 : Bytes → UInt32) (messageId : Vector UInt8 16) (data : Bytes) :
    ((splitData crc32 messageId data).map fun c => (part c).1) =
      (List.range (payloads data).length).map UInt16.ofNat := by
  rw [splitData_eq]
  refine List.ext_getElem (by simp) ?_
  intro i hi hi'
  simp [part, framed]

theorem map_raw_splitData (crc32 : Bytes → UInt32) (messageId : Vector UInt8 16) (data : Bytes) :
    ((splitData crc32 messageId data).map fun c => (part c).2) = payloads data := by
  rw [splitData_eq]
  refine List.ext_getElem (by simp) ?_
  intro i hi hi'
  simp [part, framed]

variable (crc32 messageId) in
/-- No two chunks of a message that can be numbered have the same number. -/
theorem nodup_index_splitData (hlen : (payloads data).length ≤ maxChunksPerMessage.toNat) :
    ((splitData crc32 messageId data).map fun c => (part c).1).Nodup := by
  rw [map_index_splitData]
  refine List.nodup_range.map_on ?_
  intro i hi j hj hij
  rw [List.mem_range] at hi hj
  have hmax : maxChunksPerMessage.toNat = 256 := rfl
  have h := congrArg UInt16.toNat hij
  simp only [UInt16.toNat_ofNat'] at h
  omega

theorem toNat_chunkCount_of_mem (hlen : (payloads data).length ≤ maxChunksPerMessage.toNat)
    (hc : c ∈ splitData crc32 messageId data) : c.chunkCount.toNat = (payloads data).length := by
  have hmax : maxChunksPerMessage.toNat = 256 := rfl
  obtain ⟨idx, raw, -, -, rfl⟩ := mem_splitData hc
  show (UInt16.ofNat _).toNat = _
  rw [UInt16.toNat_ofNat']
  omega

theorem toNat_chunkIndex_lt_of_mem (hc : c ∈ splitData crc32 messageId data) :
    c.chunkIndex.toNat < (payloads data).length := by
  obtain ⟨idx, raw, hidx, -, rfl⟩ := mem_splitData hc
  show (UInt16.ofNat idx).toNat < _
  rw [UInt16.toNat_ofNat']
  exact (Nat.mod_le _ _).trans_lt hidx

/-- A chunk that stands alone is the whole message. -/
theorem splitData_eq_singleton (hone : (payloads data).length = 1) (hc : c ∈ splitData crc32 messageId data) :
    splitData crc32 messageId data = [c] ∧ (part c).2 = data := by
  obtain ⟨idx, raw, -, hraw, hframed⟩ := mem_splitData hc
  constructor
  · have hlen := length_splitData crc32 messageId data
    rw [hone] at hlen
    obtain ⟨c', hc'⟩ := List.length_eq_one_iff.1 hlen
    rw [hc'] at hc ⊢
    rw [List.mem_singleton.1 hc]
  · obtain ⟨raw', hpayloads⟩ := List.length_eq_one_iff.1 hone
    have hflat := flatten_payloads data
    rw [hpayloads] at hraw hflat
    obtain rfl := List.mem_singleton.1 hraw
    rw [hframed]
    exact (List.append_nil _).symm.trans hflat

end UdpChunk

/-! ## One message -/

namespace PendingAssembly

open UdpChunk

variable {crc32 : Bytes → UInt32} {messageId : Vector UInt8 16} {data raw : Bytes} {start now : Nat} {room : Bool}
  {found : Option PendingAssembly} {came : List UdpChunk} {c : UdpChunk} {entry : PendingAssembly}

/-- An entry of a message of `count` chunks, with the parts of those that came. -/
structure Holds (count start : Nat) (entry : PendingAssembly) (came : List UdpChunk) : Prop where
  chunkCount : entry.chunkCount = UInt16.ofNat count
  received : start ≤ entry.firstReceived
  chunks : Collected part entry.chunks came

/-- A message of which these chunks came. -/
def Shows (count start : Nat) (found : Option PendingAssembly) (came : List UdpChunk) : Prop :=
  (found = none ∧ came = []) ∨ ∃ entry, found = some entry ∧ Holds count start entry came

/-- The parts are given out in order. -/
theorem reassemble_of_holds (hlen : (payloads data).length ≤ maxChunksPerMessage.toNat)
    (h : Holds (payloads data).length start entry came) (hall : splitData crc32 messageId data ⊆ came) :
    entry.reassemble = some data := by
  have hmax : maxChunksPerMessage.toNat = 256 := rfl
  have hcount : entry.chunkCount.toNat = (payloads data).length := by
    rw [h.chunkCount, UInt16.toNat_ofNat']
    omega
  have hparts : (List.range (payloads data).length).mapM
      ((fun k => (entry.chunks.get? k).map Prod.snd) ∘ UInt16.ofNat) = some (payloads data) := by
    rw [← List.mapM_map, ← map_index_splitData crc32 messageId data, List.mapM_map,
      ← map_raw_splitData crc32 messageId data]
    exact h.chunks.mapM_get? hall
  unfold reassemble
  rw [hcount]
  exact (congrArg (Option.map List.flatten) hparts).trans (congrArg some (flatten_payloads data))

/-- What a chunk of the message behind the checks does to it. -/
theorem addPart_of_shows (hlen : (payloads data).length ≤ maxChunksPerMessage.toNat)
    (hshows : Shows (payloads data).length start found came) (hsub : came ⊆ splitData crc32 messageId data)
    (hc : c ∈ splitData crc32 messageId data) (hroom : found = none → room = true) (hnow : start ≤ now) :
    (¬splitData crc32 messageId data ⊆ c :: came → ∃ entry, addPart found room c (part c).2 now = (some entry, none) ∧
        Holds (payloads data).length start entry (c :: came)) ∧
      (splitData crc32 messageId data ⊆ c :: came → addPart found room c (part c).2 now = (none, some data)) := by
  have hmax : maxChunksPerMessage.toNat = 256 := rfl
  have hnodup := nodup_index_splitData crc32 messageId hlen
  have hcount : c.chunkCount = UInt16.ofNat (payloads data).length := by
    obtain ⟨idx, raw, -, -, rfl⟩ := mem_splitData hc
    rfl
  have hholds : Holds (payloads data).length start
      (found.getD { chunkCount := c.chunkCount, firstReceived := now }) came := by
    rcases hshows with ⟨rfl, rfl⟩ | ⟨entry, rfl, h⟩
    · exact ⟨hcount, hnow, collected_empty⟩
    · exact h
  have hspace : (found.isNone && !room) = false := by
    cases found with
    | none => rw [hroom rfl]; rfl
    | some entry => rfl
  unfold addPart
  rw [hspace, if_neg Bool.false_ne_true]
  dsimp only
  have hpart : (c.chunkIndex, (part c).2) = part c := rfl
  rw [if_neg (not_not.2 (hholds.chunkCount.trans hcount.symm)), hpart]
  generalize found.getD { chunkCount := c.chunkCount, firstReceived := now } = entry at hholds
  have hadded : Holds (payloads data).length start { entry with chunks := entry.chunks.upsert (part c) }
      (c :: came) := by
    refine ⟨hholds.chunkCount, hholds.received, hholds.chunks.upsert ?_⟩
    intro q hq hkey
    rw [List.inj_on_of_nodup_map hnodup (hsub hq) hc hkey]
  have hlength : (entry.chunks.upsert (part c)).list.length = entry.chunkCount.toNat ↔
      splitData crc32 messageId data ⊆ c :: came := by
    have hiff := hadded.chunks.length_eq_iff (List.cons_subset.2 ⟨hc, hsub⟩) hnodup
    rw [length_splitData] at hiff
    rw [← hiff, hholds.chunkCount, UInt16.toNat_ofNat', Nat.mod_eq_of_lt (by omega)]
  constructor
  · intro hmissing
    rw [if_neg fun h => hmissing (hlength.1 h)]
    exact ⟨_, rfl, hadded⟩
  · intro hall
    rw [if_pos (hlength.2 hall)]
    rw [reassemble_of_holds hlen hadded hall]

/-- What a chunk of the message does to it; the only chunk of a message is the message. -/
theorem addChunk_of_shows (hlen : (payloads data).length ≤ maxChunksPerMessage.toNat)
    (hshows : Shows (payloads data).length start found came) (hsub : came ⊆ splitData crc32 messageId data)
    (hc : c ∈ splitData crc32 messageId data) (hroom : found = none → room = true) (hnow : start ≤ now) :
    (¬splitData crc32 messageId data ⊆ c :: came → ∃ entry, addChunk crc32 found room c now = .ok (some entry, none) ∧
        Holds (payloads data).length start entry (c :: came)) ∧
      (splitData crc32 messageId data ⊆ c :: came →
        ∃ found', addChunk crc32 found room c now = .ok (found', some data)) := by
  have hmax : maxChunksPerMessage.toNat = 256 := rfl
  have hzero : (0 : UInt16).toNat = 0 := rfl
  have hcount := toNat_chunkCount_of_mem hlen hc
  have hindex := toNat_chunkIndex_lt_of_mem hc
  have hgeometry : ¬(c.chunkCount = 0 ∨ c.chunkCount > maxChunksPerMessage ∨ c.chunkIndex ≥ c.chunkCount) := by
    rw [← UInt16.toNat_inj, gt_iff_lt, UInt16.lt_iff_toNat_lt, ge_iff_le, UInt16.le_iff_toNat_le, hcount]
    omega
  obtain ⟨hpayload, hchecksum⟩ : c.decodePayload = .ok (part c).2 ∧ crc32 (part c).2 = c.checksum := by
    obtain ⟨idx, raw, -, -, rfl⟩ := mem_splitData hc
    exact ⟨rfl, rfl⟩
  unfold addChunk
  rw [if_neg hgeometry, hpayload]
  dsimp only
  rw [if_neg (not_not.2 hchecksum)]
  by_cases hone : (payloads data).length = 1
  · -- there is nothing to wait for
    have hcond : c.chunkCount = 1 ∧ c.chunkIndex = 0 := by
      rw [← UInt16.toNat_inj, ← UInt16.toNat_inj, hcount]
      exact ⟨hone, by omega⟩
    obtain ⟨hsplit, hdata⟩ := splitData_eq_singleton hone hc
    rw [if_pos hcond, hdata]
    refine ⟨fun hmissing => absurd ?_ hmissing, fun _ => ⟨found, rfl⟩⟩
    rw [hsplit]
    exact List.cons_subset.2 ⟨List.mem_cons_self, List.nil_subset _⟩
  · have hcond : ¬(c.chunkCount = 1 ∧ c.chunkIndex = 0) := by
      rintro ⟨h, -⟩
      rw [h] at hcount
      exact hone hcount.symm
    obtain ⟨hpart, hlast⟩ := addPart_of_shows hlen hshows hsub hc hroom hnow
    rw [if_neg hcond]
    constructor
    · intro hmissing
      obtain ⟨entry, heq, hholds⟩ := hpart hmissing
      exact ⟨entry, congrArg _ heq, hholds⟩
    · intro hall
      exact ⟨none, congrArg _ (hlast hall)⟩

end PendingAssembly

namespace UdpChunk

variable {crc32 : Bytes → UInt32} {messageId : Vector UInt8 16} {data : Bytes} {c : UdpChunk}

theorem fromBytes_toBytes_of_mem (h : c ∈ splitData crc32 messageId data) : fromBytes c.toBytes = .ok c := by
  obtain ⟨idx, raw, -, -, rfl⟩ := mem_splitData h
  exact fromBytes_toBytes rfl rfl

theorem messageId_of_mem (h : c ∈ splitData crc32 messageId data) : c.messageId = messageId := by
  obtain ⟨idx, raw, -, -, rfl⟩ := mem_splitData h
  rfl

theorem take_toBytes_of_mem (h : c ∈ splitData crc32 messageId data) : c.toBytes.take 4 = binaryMagic := by
  obtain ⟨idx, raw, -, -, rfl⟩ := mem_splitData h
  exact take_toBytes rfl

theorem toBytes_inj_of_mem {c' : UdpChunk} (h : c ∈ splitData crc32 messageId data)
    (h' : c' ∈ splitData crc32 messageId data) (hbytes : c.toBytes = c'.toBytes) : c = c' := by
  have hread := fromBytes_toBytes_of_mem h
  rw [hbytes, fromBytes_toBytes_of_mem h'] at hread
  exact (Except.ok.inj hread).symm

end UdpChunk

open UdpChunk

/-! ## Arrivals -/

/-- A datagram, who sent it and when it is read. -/
structure Arrival (σ : Type) where
  sender : σ
  bytes : Bytes
  now : Nat
deriving DecidableEq

section Arrivals

variable {S σ : Type} {crc32 : Bytes → UInt32} {messageId : Vector UInt8 16} {data : Bytes} {sender : σ}
  {a last : Arrival σ} {c : UdpChunk}

/-- The message id, if it is a chunk. -/
def Arrival.messageId? (a : Arrival σ) : Option (Vector UInt8 16) := (fromBytes a.bytes).toOption.map UdpChunk.messageId

/-- The chunk of a message that arrives from its sender. -/
def Arrival.chunkOf? [DecidableEq σ] (sender : σ) (chunks : List UdpChunk) (a : Arrival σ) : Option UdpChunk :=
  if a.sender = sender then chunks.find? fun c => c.toBytes = a.bytes else none

/-- What an arrival has to respect where a message is put together: nothing else is a chunk of this message, its time is
not over, and there is room for it where nothing of it is there. -/
def Admitted (absent : S → Prop) (room : S → Nat → Prop) (timeout : Nat) (sender : σ) (messageId : Vector UInt8 16)
    (datagrams : List Bytes) (start : Nat) (s : S) (a : Arrival σ) : Prop :=
  (a.sender = sender → a.messageId? = some messageId → a.bytes ∈ datagrams) ∧ a.now - start < timeout ∧
    (a.sender = sender → a.bytes ∈ datagrams → start ≤ a.now ∧ (absent s → room s a.now))

instance {absent : S → Prop} {room : S → Nat → Prop} [DecidableEq σ] [DecidablePred absent]
    [∀ s now, Decidable (room s now)] {timeout : Nat} {datagrams : List Bytes} {start : Nat} {s : S} :
    Decidable (Admitted absent room timeout sender messageId datagrams start s a) :=
  inferInstanceAs (Decidable (_ ∧ _))

/-- The datagrams of one message come from one sender, in any order and with duplicates, the last of them at the end,
and in between what else is admitted. -/
structure Delivered (step : S → Arrival σ → S) (absent : S → Prop) (room : S → Nat → Prop) (timeout : Nat) (s : S)
    (sender : σ) (messageId : Vector UInt8 16) (datagrams : List Bytes) (start : Nat) (before : List (Arrival σ))
    (last : Arrival σ) : Prop where
  fresh : absent s
  admitted : Steps step (Admitted absent room timeout sender messageId datagrams start) s (before ++ [last])
  source : last.sender = sender
  last_mem : last.bytes ∈ datagrams
  last_new : ∀ a ∈ before, a.sender = sender → a.bytes ≠ last.bytes
  all : ∀ bytes ∈ datagrams, bytes ≠ last.bytes → ∃ a ∈ before, a.sender = sender ∧ a.bytes = bytes

variable [DecidableEq σ]

theorem Arrival.chunkOf?_eq_some : a.chunkOf? sender (splitData crc32 messageId data) = some c ↔
    a.sender = sender ∧ c ∈ splitData crc32 messageId data ∧ c.toBytes = a.bytes := by
  unfold chunkOf?
  split
  · rename_i hsender
    constructor
    · intro h
      have hsame := List.find?_some h
      exact ⟨hsender, List.mem_of_find?_eq_some h, by simpa using hsame⟩
    · rintro ⟨-, hc, hbytes⟩
      cases hfind : (splitData crc32 messageId data).find? fun c => c.toBytes = a.bytes with
      | none => exact absurd hbytes (by simpa using List.find?_eq_none.1 hfind c hc)
      | some c' =>
        have hsame := List.find?_some hfind
        rw [toBytes_inj_of_mem (List.mem_of_find?_eq_some hfind) hc ((of_decide_eq_true hsame).trans hbytes.symm)]
  · rename_i hsender
    constructor
    · intro h
      cases h
    · rintro ⟨h, -⟩
      exact absurd h hsender

theorem Arrival.chunkOf?_eq_none (h : a.chunkOf? sender (splitData crc32 messageId data) = none)
    (hsender : a.sender = sender) : a.bytes ∉ (splitData crc32 messageId data).map toBytes := by
  intro hmem
  obtain ⟨c, hc, hbytes⟩ := List.mem_map.1 hmem
  rw [chunkOf?_eq_some.2 ⟨hsender, hc, hbytes⟩] at h
  cases h

/-- Who assembles the chunks of a message gives it out with the last of them, and not before. -/
theorem Delivered.completes {step : S → Arrival σ → S} {out : S → Arrival σ → Option Bytes} {absent : S → Prop}
    {room : S → Nat → Prop} {timeout start : Nat} {Shows : S → List UdpChunk → Prop} {s : S} {before : List (Arrival σ)}
    (hassembles : Assembles step out (Arrival.chunkOf? sender (splitData crc32 messageId data))
      (Admitted absent room timeout sender messageId ((splitData crc32 messageId data).map toBytes) start)
      (splitData crc32 messageId data) Shows data) (hshows : absent s → Shows s [])
    (h : Delivered step absent room timeout s sender messageId ((splitData crc32 messageId data).map toBytes) start
      before last) :
    Steps step (fun s a => a.sender = sender → a.bytes ∈ (splitData crc32 messageId data).map toBytes →
        out s a = none) s before ∧ out (run step s before) last = some data := by
  obtain ⟨c, hc, hbytes⟩ := List.mem_map.1 h.last_mem
  have hlast := Arrival.chunkOf?_eq_some.2 ⟨h.source, hc, hbytes⟩
  have hnot : c ∉ before.filterMap (Arrival.chunkOf? sender (splitData crc32 messageId data)) := by
    intro hmem
    obtain ⟨a, ha, hchunk⟩ := List.mem_filterMap.1 hmem
    obtain ⟨hsender, -, hsame⟩ := Arrival.chunkOf?_eq_some.1 hchunk
    exact h.last_new a ha hsender (hsame.symm.trans hbytes)
  have hall : splitData crc32 messageId data ⊆
      c :: before.filterMap (Arrival.chunkOf? sender (splitData crc32 messageId data)) := by
    intro c' hc'
    by_cases hsame : c'.toBytes = last.bytes
    · rw [toBytes_inj_of_mem hc' hc (hsame.trans hbytes.symm)]
      exact List.mem_cons_self
    · obtain ⟨a, ha, hsender, hsame'⟩ := h.all _ (List.mem_map_of_mem hc') hsame
      refine List.mem_cons_of_mem _ (List.mem_filterMap.2 ⟨a, ha, ?_⟩)
      exact Arrival.chunkOf?_eq_some.2 ⟨hsender, hc', hsame'.symm⟩
  obtain ⟨hnone, hsome⟩ := hassembles.completes (fun a c hchunk => (Arrival.chunkOf?_eq_some.1 hchunk).2.1)
    (hshows h.fresh) h.admitted hlast hnot hall
  refine ⟨hnone.imp ?_, hsome⟩
  intro s a hout hsender hmem
  obtain ⟨c', hc', hbytes'⟩ := List.mem_map.1 hmem
  refine hout ?_
  rw [Arrival.chunkOf?_eq_some.2 ⟨hsender, hc', hbytes'⟩]
  rfl

end Arrivals

/-! ## The assembler -/

namespace ChunkAssembler

variable {crc32 : Bytes → UInt32} {messageId : Vector UInt8 16} {data : Bytes} {srcAddr : SocketAddr}
  {start timeout : Nat} {asm : ChunkAssembler} {a last : Arrival SocketAddr} {before : List (Arrival SocketAddr)}
  {c : UdpChunk} {came : List UdpChunk}

/-- The receive loop with a datagram, up to the message: only chunks get to the assembler. -/
def arrive (crc32 : Bytes → UInt32) (asm : ChunkAssembler) (a : Arrival SocketAddr) : ChunkAssembler × Option Bytes :=
  if a.bytes.take 4 = binaryMagic then
    match fromBytes a.bytes with
    | .error _ => (asm, none)
    | .ok chunk =>
      match asm.addChunk crc32 a.sender chunk a.now with
      | .ok p => p
      | .err _ | .panic => (asm, none)
  else (asm, none)

/-- The datagrams of a message are delivered to an assembler, which has room for it. -/
def Delivered (crc32 : Bytes → UInt32) (asm : ChunkAssembler) (srcAddr : SocketAddr) (messageId : Vector UInt8 16)
    (datagrams : List Bytes) (start : Nat) (before : List (Arrival SocketAddr)) (last : Arrival SocketAddr) : Prop :=
  Kad.Delivered (fun asm a => (asm.arrive crc32 a).1) (fun asm => asm.assembly? (srcAddr, messageId) = none)
    (fun asm now => (asm.cleanupExpired now).hasRoom srcAddr) asm.reassemblyTimeout asm srcAddr messageId datagrams
    start before last

theorem alive?_of_inTime {now : Nat} {key : AssemblyKey}
    (h : ∀ entry, asm.assembly? key = some entry → now - entry.firstReceived < asm.reassemblyTimeout) :
    asm.alive? now key = asm.assembly? key := by
  unfold alive?
  cases hentry : asm.assembly? key with
  | none => rfl
  | some entry => rw [Option.filter_some, decide_eq_true (h entry hentry), if_pos rfl]

variable (crc32) in
/-- What is not a chunk of a message leaves it as it is while its time lasts. -/
theorem arrive_other {key : AssemblyKey}
    (hother : ∀ chunk, fromBytes a.bytes = .ok chunk → (a.sender, chunk.messageId) ≠ key)
    (halive : asm.alive? a.now key = asm.assembly? key) :
    (asm.arrive crc32 a).1.assembly? key = asm.assembly? key ∧
      (asm.arrive crc32 a).1.reassemblyTimeout = asm.reassemblyTimeout := by
  unfold arrive
  split
  · split
    · exact ⟨rfl, rfl⟩
    · rename_i chunk hread
      split
      · rename_i p hadd
        exact ⟨(addChunk_other hadd (hother chunk hread)).trans halive, addChunk_timeout hadd⟩
      · exact ⟨rfl, rfl⟩
      · exact ⟨rfl, rfl⟩
  · exact ⟨rfl, rfl⟩

variable (crc32 asm) in
/-- What a chunk of a message does to it, and what comes of it. -/
theorem arrive_own (hc : c ∈ splitData crc32 messageId data) (hbytes : c.toBytes = a.bytes) :
    (PendingAssembly.addChunk crc32 (asm.alive? a.now (a.sender, messageId))
        ((asm.cleanupExpired a.now).hasRoom a.sender) c a.now =
      .ok ((asm.arrive crc32 a).1.assembly? (a.sender, messageId), (asm.arrive crc32 a).2)) ∧
      (asm.arrive crc32 a).1.reassemblyTimeout = asm.reassemblyTimeout := by
  have hread : fromBytes a.bytes = .ok c := hbytes ▸ fromBytes_toBytes_of_mem hc
  obtain ⟨p, hadd⟩ := addChunk_fromBytes crc32 asm a.sender hread a.now
  have harrive : asm.arrive crc32 a = p := by
    unfold arrive
    rw [if_pos (hbytes ▸ take_toBytes_of_mem hc), hread]
    dsimp only
    rw [hadd]
  have hown := addChunk_own crc32 asm a.sender c a.now
  rw [hadd, messageId_of_mem hc] at hown
  rw [harrive]
  exact ⟨hown.symm, addChunk_timeout hadd⟩

/-- An assembler that shows which chunks of a message came. -/
def Shows (data : Bytes) (srcAddr : SocketAddr) (messageId : Vector UInt8 16) (start timeout : Nat)
    (asm : ChunkAssembler) (came : List UdpChunk) : Prop :=
  asm.reassemblyTimeout = timeout ∧
    PendingAssembly.Shows (payloads data).length start (asm.assembly? (srcAddr, messageId)) came

theorem Shows.alive (h : Shows data srcAddr messageId start timeout asm came) {now : Nat}
    (hnow : now - start < timeout) :
    asm.alive? now (srcAddr, messageId) = asm.assembly? (srcAddr, messageId) := by
  obtain ⟨htimeout, hshows⟩ := h
  refine alive?_of_inTime ?_
  intro entry hentry
  rw [hentry] at hshows
  rcases hshows with ⟨h, -⟩ | ⟨entry', h, hholds⟩
  · cases h
  · obtain rfl := Option.some.inj h
    have hreceived := hholds.received
    omega

/-- What a chunk of a message does to an assembler is read off the message alone. -/
theorem Shows.own (hlen : (payloads data).length ≤ maxChunksPerMessage.toNat)
    (h : Shows data srcAddr messageId start timeout asm came) (hsub : came ⊆ splitData crc32 messageId data)
    (hc : c ∈ splitData crc32 messageId data) (hbytes : c.toBytes = a.bytes) (hsrc : a.sender = srcAddr)
    (hnow : a.now - start < timeout) (hstart : start ≤ a.now)
    (hroom : asm.assembly? (srcAddr, messageId) = none → (asm.cleanupExpired a.now).hasRoom srcAddr) :
    (¬splitData crc32 messageId data ⊆ c :: came →
        Shows data srcAddr messageId start timeout (asm.arrive crc32 a).1 (c :: came) ∧ (asm.arrive crc32 a).2 = none) ∧
      (splitData crc32 messageId data ⊆ c :: came → (asm.arrive crc32 a).2 = some data) := by
  obtain ⟨harrive, htimeout⟩ := arrive_own crc32 asm hc hbytes
  rw [hsrc, h.alive hnow] at harrive
  obtain ⟨hpart, hlast⟩ := PendingAssembly.addChunk_of_shows hlen h.2 hsub hc hroom hstart
  constructor
  · intro hmissing
    obtain ⟨entry, heq, hholds⟩ := hpart hmissing
    have hpair := Outcome.ok.inj (harrive.symm.trans heq)
    exact ⟨⟨htimeout.trans h.1, .inr ⟨entry, congrArg Prod.fst hpair, hholds⟩⟩, congrArg Prod.snd hpair⟩
  · intro hall
    obtain ⟨found', heq⟩ := hlast hall
    exact congrArg Prod.snd (Outcome.ok.inj (harrive.symm.trans heq))

theorem assembles (hlen : (payloads data).length ≤ maxChunksPerMessage.toNat) :
    Assembles (fun asm a => (asm.arrive crc32 a).1) (fun asm a => (asm.arrive crc32 a).2)
      (Arrival.chunkOf? srcAddr (splitData crc32 messageId data))
      (Admitted (fun asm => asm.assembly? (srcAddr, messageId) = none)
        (fun asm now => (asm.cleanupExpired now).hasRoom srcAddr) timeout srcAddr messageId
        ((splitData crc32 messageId data).map toBytes) start)
      (splitData crc32 messageId data) (Shows data srcAddr messageId start timeout) data := by
  refine ⟨?_, ?_, ?_⟩
  · rintro asm a came ⟨hothers, hnow, -⟩ ha h
    have hother : ∀ chunk, fromBytes a.bytes = .ok chunk → (a.sender, chunk.messageId) ≠ (srcAddr, messageId) := by
      intro chunk hread hkey
      obtain ⟨hsrc, hid⟩ := Prod.mk.inj hkey
      have hid' : a.messageId? = some messageId := by
        unfold Arrival.messageId?
        rw [hread, ← hid]
        rfl
      exact Arrival.chunkOf?_eq_none ha hsrc (hothers hsrc hid')
    obtain ⟨hsame, htimeout⟩ := arrive_other crc32 hother (h.alive hnow)
    exact ⟨htimeout.trans h.1, hsame ▸ h.2⟩
  · rintro asm a came c ⟨-, hnow, hadmitted⟩ ha hsub hmissing h
    obtain ⟨hsrc, hc, hbytes⟩ := Arrival.chunkOf?_eq_some.1 ha
    obtain ⟨hstart, hroom⟩ := hadmitted hsrc (List.mem_map.2 ⟨c, hc, hbytes⟩)
    exact (h.own hlen hsub hc hbytes hsrc hnow hstart hroom).1 hmissing
  · rintro asm a came c ⟨-, hnow, hadmitted⟩ ha hsub hall h
    obtain ⟨hsrc, hc, hbytes⟩ := Arrival.chunkOf?_eq_some.1 ha
    obtain ⟨hstart, hroom⟩ := hadmitted hsrc (List.mem_map.2 ⟨c, hc, hbytes⟩)
    exact (h.own hlen hsub hc hbytes hsrc hnow hstart hroom).2 hall

/-- With the last chunk of a message the assembler gives out the bytes that were split, and not before. -/
theorem Delivered.assembled (hlen : (payloads data).length ≤ maxChunksPerMessage.toNat)
    (h : asm.Delivered crc32 srcAddr messageId ((splitData crc32 messageId data).map toBytes) start before last) :
    Steps (fun asm a => (asm.arrive crc32 a).1) (fun asm a => a.sender = srcAddr →
        a.bytes ∈ (splitData crc32 messageId data).map toBytes → (asm.arrive crc32 a).2 = none) asm before ∧
      ((run (fun asm a => (asm.arrive crc32 a).1) asm before).arrive crc32 last).2 = some data :=
  Kad.Delivered.completes (assembles hlen) (fun hfresh => ⟨rfl, .inl ⟨hfresh, rfl⟩⟩) h

end ChunkAssembler

end NodeX.Kad
