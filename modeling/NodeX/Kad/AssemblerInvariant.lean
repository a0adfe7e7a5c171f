/-
What holds of a chunk assembler after any calls of `add_chunk`: its limits, the shape of its entries, where their parts
come from, and that no part is missing when an entry is put together. The parts of an entry have different indices below
its count, so as many of them as the count are all of them.
-/
import NodeX.Kad.Chunking
import NodeX.Lib.Runs
import Mathlib.Data.List.Perm.Subperm

namespace NodeX.Kad

open NodeX.Lib

/-- One call of `add_chunk`. -/
structure ChunkCall where
  srcAddr : SocketAddr
  chunk : UdpChunk
  now : Nat

namespace ChunkCall

def key (c : ChunkCall) : AssemblyKey := (c.srcAddr, c.chunk.messageId)

/-- Geometry and checksum are right, and this is the payload. -/
structure Accepted (crc32 : Bytes → UInt32) (c : ChunkCall) (raw : Bytes) : Prop where
  pos : c.chunk.chunkCount ≠ 0
  le : c.chunk.chunkCount ≤ maxChunksPerMessage
  lt : c.chunk.chunkIndex < c.chunk.chunkCount
  decoded : c.chunk.decodePayload = .ok raw
  checksum : crc32 raw = c.chunk.checksum

/-- Geometry or checksum is wrong. -/
def Refused (crc32 : Bytes → UInt32) (c : ChunkCall) : Prop := ∀ raw, ¬c.Accepted crc32 raw

end ChunkCall

/-- A call with this key brought the part. -/
def SentPart (crc32 : Bytes → UInt32) (calls : List ChunkCall) (key : AssemblyKey) (count : UInt16)
    (part : UInt16 × Bytes) : Prop :=
  ∃ c ∈ calls, c.key = key ∧ c.chunk.chunkCount = count ∧ c.chunk.chunkIndex = part.1 ∧ c.Accepted crc32 part.2

/-- Several chunks, of which some have come, each from a call with this key. -/
structure PendingAssembly.WellFormed (crc32 : Bytes → UInt32) (calls : List ChunkCall) (key : AssemblyKey)
    (entry : PendingAssembly) : Prop where
  two_le : 2 ≤ entry.chunkCount.toNat
  le_max : entry.chunkCount ≤ maxChunksPerMessage
  index : ∀ part ∈ entry.chunks.list, part.1 < entry.chunkCount
  sent : ∀ part ∈ entry.chunks.list, SentPart crc32 calls key entry.chunkCount part
  missing : entry.chunks.list.length < entry.chunkCount.toNat

namespace ChunkAssembler

structure WellFormed (crc32 : Bytes → UInt32) (calls : List ChunkCall) (asm : ChunkAssembler) : Prop where
  total : asm.pending.list.length ≤ maxPendingAssemblies
  perIp : ∀ ip, (asm.pending.list.filter fun e => e.1.1.ip = ip).length ≤ maxPendingPerIp
  entries : ∀ e ∈ asm.pending.list, e.2.WellFormed crc32 calls e.1

/-- The assembler after a call; a payload that panics is decoded after the expired entries are removed. -/
def take (crc32 : Bytes → UInt32) (asm : ChunkAssembler) (c : ChunkCall) : ChunkAssembler :=
  match asm.addChunk crc32 c.srcAddr c.chunk c.now with
  | .ok p => p.1
  | _ => asm.cleanupExpired c.now

/-- The entry of a call with its part. -/
def joined (asm : ChunkAssembler) (c : ChunkCall) (raw : Bytes) : PendingAssembly :=
  let entry := (asm.alive? c.now c.key).getD { chunkCount := c.chunk.chunkCount, firstReceived := c.now }
  { entry with chunks := entry.chunks.upsert (c.chunk.chunkIndex, raw) }

/-- What a call does. -/
structure Serves (crc32 : Bytes → UInt32) (calls : List ChunkCall) (asm : ChunkAssembler) (c : ChunkCall) : Prop where
  /-- a refused chunk only lets the expired entries go -/
  refused : c.Refused crc32 → asm.take crc32 c = asm.cleanupExpired c.now ∧
    ∀ asm' data, asm.addChunk crc32 c.srcAddr c.chunk c.now ≠ .ok (asm', some data)
  /-- so does one whose count is not that of its entry -/
  mismatched : ∀ entry, asm.alive? c.now c.key = some entry → entry.chunkCount ≠ c.chunk.chunkCount →
    asm.take crc32 c = asm.cleanupExpired c.now
  /-- the entries of other keys stay as they are -/
  apart : ∀ key, c.key ≠ key → (asm.take crc32 c).assembly? key = asm.alive? c.now key
  /-- what is given out is made of parts that came with this key and this count -/
  output : ∀ asm' data, asm.addChunk crc32 c.srcAddr c.chunk c.now = .ok (asm', some data) →
    ∃ parts : List Bytes, parts.length = c.chunk.chunkCount.toNat ∧ data = parts.flatten ∧
      ∀ i, ∀ part ∈ parts[i]?, SentPart crc32 (calls ++ [c]) c.key c.chunk.chunkCount (UInt16.ofNat i, part)
  /-- no part is missing of an entry that has as many as its count -/
  complete : ∀ raw, c.Accepted crc32 raw → c.chunk.chunkCount ≠ 1 →
    (asm.joined c raw).chunkCount = c.chunk.chunkCount →
    (asm.joined c raw).chunks.list.length = (asm.joined c raw).chunkCount.toNat → (asm.joined c raw).reassemble ≠ none

end ChunkAssembler

/-! ## Entries -/

namespace PendingAssembly

variable {crc32 : Bytes → UInt32} {calls : List ChunkCall} {key : AssemblyKey} {entry : PendingAssembly}

/-- Different indices below the count, as many as the count, are all of them. -/
theorem exists_part (hindex : ∀ part ∈ entry.chunks.list, part.1 < entry.chunkCount)
    (hfull : entry.chunks.list.length = entry.chunkCount.toNat) {i : Nat} (hi : i < entry.chunkCount.toNat) :
    ∃ raw, entry.chunks.get? (UInt16.ofNat i) = some (UInt16.ofNat i, raw) := by
  have hnodup : (entry.chunks.list.map fun part => part.1.toNat).Nodup := by
    have hkeys := entry.chunks.nodup.map (f := UInt16.toNat) fun a b h => UInt16.toNat_inj.1 h
    rwa [List.map_map] at hkeys
  have hsub : (entry.chunks.list.map fun part => part.1.toNat) ⊆ List.range entry.chunkCount.toNat := by
    intro n hn
    obtain ⟨part, hpart, rfl⟩ := List.mem_map.1 hn
    exact List.mem_range.2 (UInt16.lt_iff_toNat_lt.1 (hindex part hpart))
  have hperm := (List.subperm_of_subset hnodup hsub).perm_of_length_le (by simp [hfull])
  obtain ⟨part, hpart, hn⟩ := List.mem_map.1 (hperm.mem_iff.2 (List.mem_range.2 hi))
  have hkey : part.1 = UInt16.ofNat i := by
    rw [← hn, UInt16.ofNat_toNat]
  exact ⟨part.2, hkey ▸ KeyedList.mem_iff_get?.1 hpart⟩

/-- What a full entry is put together to. -/
theorem reassemble_full (hindex : ∀ part ∈ entry.chunks.list, part.1 < entry.chunkCount)
    (hfull : entry.chunks.list.length = entry.chunkCount.toNat) :
    ∃ parts : List Bytes, entry.reassemble = some parts.flatten ∧ parts.length = entry.chunkCount.toNat ∧
      ∀ i, ∀ part ∈ parts[i]?, (UInt16.ofNat i, part) ∈ entry.chunks.list := by
  have hmapM : ∀ l : List Nat, (∀ i ∈ l, i < entry.chunkCount.toNat) →
      ∃ parts : List Bytes, l.mapM (fun i => (entry.chunks.get? (UInt16.ofNat i)).map Prod.snd) = some parts ∧
        List.Forall₂ (fun i part => (UInt16.ofNat i, part) ∈ entry.chunks.list) l parts := by
    intro l hl
    induction l with
    | nil => exact ⟨[], rfl, .nil⟩
    | cons i l ih =>
      obtain ⟨hi, hrest⟩ := List.forall_mem_cons.1 hl
      obtain ⟨raw, hraw⟩ := exists_part hindex hfull hi
      obtain ⟨parts, hparts, hall⟩ := ih hrest
      refine ⟨raw :: parts, ?_, .cons (KeyedList.mem_of_get? hraw) hall⟩
      rw [List.mapM_cons, hraw, hparts]
      rfl
  obtain ⟨parts, hparts, hall⟩ := hmapM (List.range entry.chunkCount.toNat) fun i hi => List.mem_range.1 hi
  have hlength : parts.length = entry.chunkCount.toNat := by
    rw [← hall.length_eq, List.length_range]
  refine ⟨parts, ?_, hlength, ?_⟩
  · unfold reassemble
    rw [hparts, Option.map_some]
  · intro i part hpart
    obtain ⟨hi, rfl⟩ := List.getElem?_eq_some_iff.1 hpart
    have hget := hall.get (i := i) (by rw [List.length_range]; omega) hi
    simpa using hget

end PendingAssembly

/-! ## One call -/

theorem SentPart.mono {crc32 : Bytes → UInt32} {calls : List ChunkCall} {key : AssemblyKey} {count : UInt16}
    {part : UInt16 × Bytes} (h : SentPart crc32 calls key count part) (c : ChunkCall) :
    SentPart crc32 (calls ++ [c]) key count part := by
  obtain ⟨c', hc', hrest⟩ := h
  exact ⟨c', List.mem_append_left _ hc', hrest⟩

theorem PendingAssembly.WellFormed.mono {crc32 : Bytes → UInt32} {calls : List ChunkCall} {key : AssemblyKey}
    {entry : PendingAssembly} (h : entry.WellFormed crc32 calls key) (c : ChunkCall) :
    entry.WellFormed crc32 (calls ++ [c]) key :=
  { h with sent := fun part hpart => (h.sent part hpart).mono c }

namespace ChunkAssembler

variable {crc32 : Bytes → UInt32} {calls : List ChunkCall} {asm : ChunkAssembler} {c : ChunkCall} {raw : Bytes}

/-- The table with the entry of a call. -/
def storing (asm : ChunkAssembler) (c : ChunkCall) (entry : PendingAssembly) : ChunkAssembler :=
  { asm.cleanupExpired c.now with pending := (asm.cleanupExpired c.now).pending.upsert (c.key, entry) }

/-- The table without the entry of a call. -/
def finishing (asm : ChunkAssembler) (c : ChunkCall) (entry : PendingAssembly) : ChunkAssembler :=
  { asm.storing c entry with pending := (asm.storing c entry).pending.erase c.key }

/-- The outcomes of a call: refused, a message of one chunk, or a part for the table. -/
theorem addChunk_cases (crc32 : Bytes → UInt32) (asm : ChunkAssembler) (c : ChunkCall) :
    (c.Refused crc32 ∧ (asm.addChunk crc32 c.srcAddr c.chunk c.now = .panic ∨
        asm.addChunk crc32 c.srcAddr c.chunk c.now = .ok (asm.cleanupExpired c.now, none))) ∨
      ∃ raw, c.Accepted crc32 raw ∧
        (c.chunk.chunkCount = 1 ∧ c.chunk.chunkIndex = 0 ∧
            asm.addChunk crc32 c.srcAddr c.chunk c.now = .ok (asm.cleanupExpired c.now, some raw) ∨
          c.chunk.chunkCount ≠ 1 ∧ asm.addChunk crc32 c.srcAddr c.chunk c.now =
            .ok ((asm.cleanupExpired c.now).addPart c.srcAddr c.chunk raw c.now)) := by
  unfold addChunk
  simp only
  split
  · rename_i hgeometry
    refine .inl ⟨fun raw h => ?_, .inr rfl⟩
    rcases hgeometry with h0 | hmax | hidx
    · exact h.pos h0
    · exact UInt16.not_lt.2 h.le hmax
    · exact UInt16.not_lt.2 hidx h.lt
  · rename_i hgeometry
    simp only [not_or] at hgeometry
    obtain ⟨hpos, hmax, hidx⟩ := hgeometry
    split
    · rename_i hpanic
      refine .inl ⟨fun raw h => ?_, .inl rfl⟩
      rw [h.decoded] at hpanic
      cases hpanic
    · rename_i herr
      refine .inl ⟨fun raw h => ?_, .inr rfl⟩
      rw [h.decoded] at herr
      cases herr
    · rename_i raw hraw
      split
      · rename_i hcrc
        refine .inl ⟨fun raw' h => ?_, .inr rfl⟩
        obtain rfl : raw = raw' := Outcome.ok.inj (hraw.symm.trans h.decoded)
        exact hcrc h.checksum
      · rename_i hcrc
        have haccepted : c.Accepted crc32 raw :=
          ⟨hpos, UInt16.not_lt.1 hmax, UInt16.not_le.1 hidx, hraw, not_not.1 hcrc⟩
        split
        · rename_i hone
          exact .inr ⟨raw, haccepted, .inl ⟨hone.1, hone.2, rfl⟩⟩
        · rename_i hone
          refine .inr ⟨raw, haccepted, .inr ⟨fun h1 => hone ⟨h1, ?_⟩, rfl⟩⟩
          have hlt := UInt16.lt_iff_toNat_lt.1 haccepted.lt
          rw [h1] at hlt
          exact UInt16.toNat_inj.1 (Nat.lt_one_iff.1 hlt)

/-- The outcomes of a part: no room, another count, or it joins its entry. -/
theorem addPart_cases (asm : ChunkAssembler) (c : ChunkCall) (raw : Bytes) :
    (asm.cleanupExpired c.now).addPart c.srcAddr c.chunk raw c.now = (asm.cleanupExpired c.now, none) ∨
      (asm.joined c raw).chunkCount = c.chunk.chunkCount ∧
        (asm.alive? c.now c.key = none → (asm.cleanupExpired c.now).hasRoom c.srcAddr = true) ∧
        ((asm.joined c raw).chunks.list.length ≠ (asm.joined c raw).chunkCount.toNat ∧
            (asm.cleanupExpired c.now).addPart c.srcAddr c.chunk raw c.now =
              (asm.storing c (asm.joined c raw), none) ∨
          (asm.joined c raw).chunks.list.length = (asm.joined c raw).chunkCount.toNat ∧
            ((asm.joined c raw).reassemble = none ∨ ∃ data, (asm.joined c raw).reassemble = some data ∧
              (asm.cleanupExpired c.now).addPart c.srcAddr c.chunk raw c.now =
                (asm.finishing c (asm.joined c raw), some data))) := by
  have hfound := assembly?_cleanupExpired asm c.now (c.srcAddr, c.chunk.messageId)
  unfold addPart
  simp only [hfound]
  split
  · exact .inl rfl
  · rename_i hroom
    split
    · exact .inl rfl
    · rename_i hcount
      have hroom' : asm.alive? c.now c.key = none → (asm.cleanupExpired c.now).hasRoom c.srcAddr = true := by
        intro hnone
        rw [ChunkCall.key] at hnone
        simpa [hnone] using hroom
      refine .inr ⟨not_not.1 hcount, hroom', ?_⟩
      split
      · rename_i hfull
        split
        · rename_i hmissing
          exact .inr ⟨hfull, .inl hmissing⟩
        · rename_i data hdata
          exact .inr ⟨hfull, .inr ⟨data, hdata, rfl⟩⟩
      · rename_i hfull
        exact .inl ⟨hfull, rfl⟩

/-- The entry of an accepted part, short of what is still missing. -/
structure Joined (crc32 : Bytes → UInt32) (calls : List ChunkCall) (key : AssemblyKey) (entry : PendingAssembly) :
    Prop where
  two_le : 2 ≤ entry.chunkCount.toNat
  le_max : entry.chunkCount ≤ maxChunksPerMessage
  index : ∀ part ∈ entry.chunks.list, part.1 < entry.chunkCount
  sent : ∀ part ∈ entry.chunks.list, SentPart crc32 calls key entry.chunkCount part
  length_le : entry.chunks.list.length ≤ entry.chunkCount.toNat

theorem Joined.wellFormed {key : AssemblyKey} {entry : PendingAssembly} (h : Joined crc32 calls key entry)
    (hlen : entry.chunks.list.length ≠ entry.chunkCount.toNat) : entry.WellFormed crc32 calls key :=
  { h with missing := lt_of_le_of_ne h.length_le hlen }

theorem alive?_wellFormed (hwf : asm.WellFormed crc32 calls) {now : Nat} {key : AssemblyKey} {entry : PendingAssembly}
    (h : asm.alive? now key = some entry) : entry.WellFormed crc32 calls key := by
  unfold alive? assembly? at h
  obtain ⟨hmap, -⟩ := Option.filter_eq_some_iff.1 h
  obtain ⟨e, he, rfl⟩ := Option.map_eq_some_iff.1 hmap
  obtain rfl : e.1 = key := KeyedList.key_of_get? he
  exact hwf.entries e (KeyedList.mem_of_get? he)

theorem joined_spec (hwf : asm.WellFormed crc32 calls) (hacc : c.Accepted crc32 raw) (hone : c.chunk.chunkCount ≠ 1)
    (hcount : (asm.joined c raw).chunkCount = c.chunk.chunkCount) :
    Joined crc32 (calls ++ [c]) c.key (asm.joined c raw) := by
  have hnew : SentPart crc32 (calls ++ [c]) c.key (asm.joined c raw).chunkCount (c.chunk.chunkIndex, raw) :=
    ⟨c, List.mem_append_right _ (List.mem_singleton_self c), rfl, hcount.symm, rfl, hacc⟩
  -- the parts that were there before the call
  have hold : ∀ part ∈ (asm.joined c raw).chunks.list, part = (c.chunk.chunkIndex, raw) ∨
      ∃ entry, asm.alive? c.now c.key = some entry ∧ part ∈ entry.chunks.list := by
    intro part hpart
    rcases mem_upsert Prod.fst hpart with rfl | hpart
    · exact .inl rfl
    · cases halive : asm.alive? c.now c.key with
      | none =>
        rw [halive] at hpart
        cases hpart
      | some entry =>
        rw [halive] at hpart
        exact .inr ⟨entry, rfl, hpart⟩
  have hsame : ∀ entry, asm.alive? c.now c.key = some entry → entry.chunkCount = (asm.joined c raw).chunkCount := by
    intro entry halive
    unfold joined
    rw [halive]
    rfl
  have hpos : c.chunk.chunkCount.toNat ≠ 0 := fun h => hacc.pos (UInt16.toNat_inj.1 h)
  have hne : c.chunk.chunkCount.toNat ≠ 1 := fun h => hone (UInt16.toNat_inj.1 h)
  refine ⟨?_, ?_, ?_, ?_, ?_⟩
  · rw [hcount]
    omega
  · rw [hcount]
    exact hacc.le
  · intro part hpart
    rcases hold part hpart with rfl | ⟨entry, halive, hmem⟩
    · rw [hcount]
      exact hacc.lt
    · rw [← hsame entry halive]
      exact (alive?_wellFormed hwf halive).index part hmem
  · intro part hpart
    rcases hold part hpart with rfl | ⟨entry, halive, hmem⟩
    · exact hnew
    · rw [← hsame entry halive]
      exact ((alive?_wellFormed hwf halive).sent part hmem).mono c
  · have hupsert := length_upsert_le Prod.fst (c.chunk.chunkIndex, raw)
      ((asm.alive? c.now c.key).getD { chunkCount := c.chunk.chunkCount, firstReceived := c.now }).chunks.list
    refine hupsert.trans ?_
    cases halive : asm.alive? c.now c.key with
    | none =>
      rw [hcount]
      simp only [Option.getD_none, KeyedList.list_empty, List.length_nil]
      omega
    | some entry =>
      rw [← hsame entry halive]
      exact (alive?_wellFormed hwf halive).missing

/-! ## The limits -/

def Limited (pending : KeyedList (Prod.fst : AssemblyKey × PendingAssembly → AssemblyKey)) : Prop :=
  pending.list.length ≤ maxPendingAssemblies ∧
    ∀ ip, (pending.list.filter fun e => e.1.1.ip = ip).length ≤ maxPendingPerIp

variable {pending pending' : KeyedList (Prod.fst : AssemblyKey × PendingAssembly → AssemblyKey)}

theorem limited_of_sublist (h : Limited pending) (hsub : List.Sublist pending'.list pending.list) : Limited pending' :=
  ⟨hsub.length_le.trans h.1, fun ip => (hsub.filter _).length_le.trans (h.2 ip)⟩

/-- The limits are about the keys. -/
theorem limited_of_keys (h : Limited pending) (hkeys : pending'.list.map Prod.fst = pending.list.map Prod.fst) :
    Limited pending' := by
  have hlength : pending'.list.length = pending.list.length := by
    simpa using congrArg List.length hkeys
  refine ⟨hlength ▸ h.1, fun ip => ?_⟩
  have hcount := congrArg (List.countP fun k : AssemblyKey => decide (k.1.ip = ip)) hkeys
  rw [List.countP_map, List.countP_map, List.countP_eq_length_filter, List.countP_eq_length_filter] at hcount
  exact hcount.trans_le (h.2 ip)

theorem limited_storing (h : Limited (asm.cleanupExpired c.now).pending) (entry : PendingAssembly)
    (hroom : asm.alive? c.now c.key = none → (asm.cleanupExpired c.now).hasRoom c.srcAddr = true) :
    Limited (asm.storing c entry).pending := by
  have hfound := assembly?_cleanupExpired asm c.now c.key
  unfold assembly? at hfound
  unfold storing
  cases hget : (asm.cleanupExpired c.now).pending.get? c.key with
  | none =>
    rw [hget] at hfound
    have hfree := hroom hfound.symm
    unfold hasRoom at hfree
    simp only [Bool.and_eq_true, decide_eq_true_eq] at hfree
    unfold Limited
    rw [KeyedList.list_upsert_of_none hget]
    refine ⟨?_, fun ip => ?_⟩
    · rw [List.length_append, List.length_singleton]
      exact hfree.1
    · rw [List.filter_append, List.length_append]
      by_cases hip : c.srcAddr.ip = ip
      · have hone : ([(c.key, entry)].filter fun e => e.1.1.ip = ip).length = 1 := by
          simp [ChunkCall.key, hip]
        rw [hone, ← hip]
        exact hfree.2
      · have hzero : ([(c.key, entry)].filter fun e => e.1.1.ip = ip).length = 0 := by
          simp [ChunkCall.key, hip]
        rw [hzero]
        exact h.2 ip
  | some e => exact limited_of_keys h (KeyedList.keys_upsert_of_some hget)

/-! ## All calls -/

theorem wellFormed_cleanupExpired (hwf : asm.WellFormed crc32 calls) (c : ChunkCall) :
    (asm.cleanupExpired c.now).WellFormed crc32 (calls ++ [c]) := by
  have hlimited : Limited (asm.cleanupExpired c.now).pending :=
    limited_of_sublist ⟨hwf.total, hwf.perIp⟩ List.filter_sublist
  exact ⟨hlimited.1, hlimited.2, fun e he => (hwf.entries e (List.mem_of_mem_filter he)).mono c⟩

/-- What a call leaves: the entries that have not expired, perhaps with the entry of its part or without it. -/
theorem take_cases (hwf : asm.WellFormed crc32 calls) (c : ChunkCall) :
    asm.take crc32 c = asm.cleanupExpired c.now ∨
      ∃ raw, Joined crc32 (calls ++ [c]) c.key (asm.joined c raw) ∧
        (asm.joined c raw).chunkCount = c.chunk.chunkCount ∧ Limited (asm.storing c (asm.joined c raw)).pending ∧
        ((asm.joined c raw).chunks.list.length ≠ (asm.joined c raw).chunkCount.toNat ∧
            asm.take crc32 c = asm.storing c (asm.joined c raw) ∨
          asm.take crc32 c = asm.finishing c (asm.joined c raw)) := by
  unfold take
  rcases addChunk_cases crc32 asm c with ⟨-, h | h⟩ | ⟨raw, hacc, ⟨-, -, h⟩ | ⟨hone, h⟩⟩
  · rw [h]
    exact .inl rfl
  · rw [h]
    exact .inl rfl
  · rw [h]
    exact .inl rfl
  · rw [h]
    have hlimits := wellFormed_cleanupExpired hwf c
    rcases addPart_cases asm c raw with hpart | ⟨hcount, hroom, ⟨hfull, hpart⟩ | ⟨hfull, hmissing | ⟨data, -, hpart⟩⟩⟩
    · rw [hpart]
      exact .inl rfl
    · have hjoined := joined_spec hwf hacc hone hcount
      rw [hpart]
      exact .inr ⟨raw, hjoined, hcount, limited_storing ⟨hlimits.total, hlimits.perIp⟩ _ hroom, .inl ⟨hfull, rfl⟩⟩
    · have hjoined := joined_spec hwf hacc hone hcount
      obtain ⟨parts, hparts, -⟩ := PendingAssembly.reassemble_full hjoined.index hfull
      rw [hparts] at hmissing
      cases hmissing
    · have hjoined := joined_spec hwf hacc hone hcount
      rw [hpart]
      exact .inr ⟨raw, hjoined, hcount, limited_storing ⟨hlimits.total, hlimits.perIp⟩ _ hroom, .inr rfl⟩

theorem wellFormed_take (hwf : asm.WellFormed crc32 calls) (c : ChunkCall) :
    (asm.take crc32 c).WellFormed crc32 (calls ++ [c]) := by
  have hclean := wellFormed_cleanupExpired hwf c
  rcases take_cases hwf c with h | ⟨raw, hjoined, -, hlimited, ⟨hfull, h⟩ | h⟩
  · rw [h]
    exact hclean
  · rw [h]
    refine ⟨hlimited.1, hlimited.2, fun e he => ?_⟩
    rcases mem_upsert Prod.fst he with rfl | he
    · exact hjoined.wellFormed hfull
    · exact hclean.entries e he
  · have herase : Limited (asm.finishing c (asm.joined c raw)).pending :=
      limited_of_sublist hlimited List.eraseP_sublist
    rw [h]
    refine ⟨herase.1, herase.2, fun e he => ?_⟩
    -- an entry that is left has another key, so it was there before
    have hget := KeyedList.mem_iff_get?.1 he
    unfold finishing storing at hget
    rw [KeyedList.get?_erase, KeyedList.get?_upsert] at hget
    split at hget
    · cases hget
    · exact hclean.entries e (KeyedList.mem_of_get? hget)

theorem take_other {key : AssemblyKey} (hkey : c.key ≠ key) :
    (asm.take crc32 c).assembly? key = asm.alive? c.now key := by
  unfold take
  split
  · rename_i p hp
    exact addChunk_other hp hkey
  · exact assembly?_cleanupExpired asm c.now key

/-- An entry with another count keeps the part away. -/
theorem take_mismatched {entry : PendingAssembly} (halive : asm.alive? c.now c.key = some entry)
    (hcount : entry.chunkCount ≠ c.chunk.chunkCount) : asm.take crc32 c = asm.cleanupExpired c.now := by
  unfold take
  rcases addChunk_cases crc32 asm c with ⟨-, h | h⟩ | ⟨raw, -, ⟨-, -, h⟩ | ⟨-, h⟩⟩
  · rw [h]
  · rw [h]
  · rw [h]
  · rw [h]
    rcases addPart_cases asm c raw with hpart | ⟨hjoined, -⟩
    · rw [hpart]
    · unfold joined at hjoined
      rw [halive] at hjoined
      exact absurd hjoined hcount

theorem serves (hwf : asm.WellFormed crc32 calls) (c : ChunkCall) : asm.Serves crc32 calls c where
  refused h := by
    unfold take
    rcases addChunk_cases crc32 asm c with ⟨-, hcall | hcall⟩ | ⟨raw, hacc, -⟩
    · rw [hcall]
      exact ⟨rfl, fun _ _ h' => by cases h'⟩
    · rw [hcall]
      exact ⟨rfl, fun _ _ h' => by cases h'⟩
    · exact absurd hacc (h raw)
  mismatched _ halive hcount := take_mismatched halive hcount
  apart _ hkey := take_other hkey
  output asm' data h := by
    rcases addChunk_cases crc32 asm c with ⟨-, hcall | hcall⟩ | ⟨raw, hacc, ⟨hone, hzero, hcall⟩ | ⟨hone, hcall⟩⟩
    · rw [hcall] at h
      cases h
    · rw [hcall] at h
      cases h
    · rw [hcall] at h
      obtain ⟨-, hdata⟩ := Prod.mk.inj (Outcome.ok.inj h)
      obtain rfl := Option.some.inj hdata
      refine ⟨[raw], by rw [hone]; rfl, by simp, fun i part hpart => ?_⟩
      obtain ⟨hi, rfl⟩ := List.getElem?_eq_some_iff.1 hpart
      obtain rfl : i = 0 := by simpa using hi
      exact ⟨c, List.mem_append_right _ (List.mem_singleton_self c), rfl, rfl, hzero, hacc⟩
    · rw [hcall] at h
      have hout := Outcome.ok.inj h
      rcases addPart_cases asm c raw with hpart | ⟨hcount, -, ⟨-, hpart⟩ | ⟨hfull, hmissing | ⟨data', hdata, hpart⟩⟩⟩
      · rw [hpart] at hout
        cases hout
      · rw [hpart] at hout
        cases hout
      · have hjoined := joined_spec hwf hacc hone hcount
        obtain ⟨parts, hparts, -⟩ := PendingAssembly.reassemble_full hjoined.index hfull
        rw [hparts] at hmissing
        cases hmissing
      · have hjoined := joined_spec hwf hacc hone hcount
        obtain ⟨parts, hparts, hlength, hmem⟩ := PendingAssembly.reassemble_full hjoined.index hfull
        rw [hpart] at hout
        obtain ⟨-, hsome⟩ := Prod.mk.inj hout
        obtain rfl := Option.some.inj hsome
        refine ⟨parts, hlength.trans (by rw [hcount]), Option.some.inj (hdata.symm.trans hparts), ?_⟩
        intro i part hi
        rw [← hcount]
        exact hjoined.sent _ (hmem i part hi)
  complete raw hacc hone hcount hfull := by
    have hjoined := joined_spec hwf hacc hone hcount
    obtain ⟨parts, hparts, -⟩ := PendingAssembly.reassemble_full hjoined.index hfull
    rw [hparts]
    exact Option.some_ne_none _

/-- After any calls the table is within its limits and its entries are well formed, and so the next call serves its
sender and nobody else. -/
theorem run_wellFormed_serves (crc32 : Bytes → UInt32) (timeout : Nat) (calls : List ChunkCall) :
    (run (take crc32) { reassemblyTimeout := timeout } calls).WellFormed crc32 calls ∧
      ∀ c, (run (take crc32) { reassemblyTimeout := timeout } calls).Serves crc32 calls c := by
  have hempty : WellFormed crc32 [] { reassemblyTimeout := timeout } :=
    ⟨Nat.zero_le _, fun ip => Nat.zero_le _, fun e he => by cases he⟩
  have hsteps : Steps (take crc32) (fun _ _ => True) { reassemblyTimeout := timeout } calls :=
    steps_of_forall (fun _ _ => trivial) _ _
  have hwf := run_history (I := WellFormed crc32) hempty (fun _ c hwf _ => wellFormed_take hwf c) calls hsteps
  exact ⟨hwf, serves hwf⟩

end ChunkAssembler

end NodeX.Kad
