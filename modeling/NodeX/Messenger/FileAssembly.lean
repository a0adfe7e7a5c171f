/-
`attachments.rs`: `assemble_file_transfer`, which puts the chunks of a transfer in order, opens them and compares their
hashes with those of the manifest. Manifest and chunks come from a peer. A read behind the end of the hashes and a nonce
of another length than twelve are panics, as is a buffer that is larger than any can be. What `create_file_transfer`
makes of a file comes back in any order; what a peer makes up is safe only where nothing of it is let through that the
code does not look at.
-/
import NodeX.Kad.Reassembly
import NodeX.Lib.Nearest
import NodeX.Messenger.FileChunks

namespace NodeX.Messenger

open NodeX.Lib NodeX.Kad

/-! ## Assembling -/

/-- `hex_decode` of `attachments.rs`, which does not trim and takes an empty text. -/
def attachmentHexDecode (s : String) : Outcome (Option Bytes) :=
  if (utf8 s).length % 2 ≠ 0 then .ok none
  else match hexPairs (utf8 s) with
    | .ok v => .ok (some v)
    | .err _ => .ok none
    | .panic => .panic

/-- `isize::MAX`, the most bytes a `Vec` has room for. -/
def maxCapacity : Nat := 2 ^ 63 - 1

/-- The room of a `Vec<u8>` after it has grown: at least twice what it was. -/
def grownCapacity (capacity needed : Nat) : Nat :=
  if needed ≤ capacity then capacity else max 8 (max (2 * capacity) needed)

/-- What a call comes to, and the room of the buffer it assembles the file in. -/
structure Assembled where
  reserved : Nat
  result : Outcome Bytes MessengerError

variable (C : Crypto) (F : FileCodecs) (m : FileManifest) (key : Bytes)

/-- The loop over the sorted chunks, with what is assembled so far and the room for it. -/
def assembleChunks : Nat → List MediaChunk → Bytes → Nat → Assembled
  | _, [], assembled, capacity =>
    if hexString (C.sha256 assembled) ≠ m.sha256Root then
      ⟨capacity, .err (.cryptoError "Root SHA-256 file hash mismatch")⟩
    else ⟨capacity, .ok assembled⟩
  | expectedIdx, chunk :: rest, assembled, capacity =>
    if chunk.chunkIndex ≠ expectedIdx then
      ⟨capacity, .err (.other ("Missing chunk index " ++ toString expectedIdx))⟩
    else if F.crc32 chunk.ciphertext ≠ chunk.checksum then
      ⟨capacity, .err (.cryptoError ("CRC32 checksum mismatch on chunk " ++ toString chunk.chunkIndex))⟩
    else if chunk.nonce.length ≠ 12 then ⟨capacity, .panic⟩
    else match C.aeadDecrypt key chunk.nonce [] chunk.ciphertext with
      | none => ⟨capacity, .err (.cryptoError "Chunk decrypt failed: aead::Error")⟩
      | some plaintext =>
        match m.chunkHashes[expectedIdx]? with
        | none => ⟨capacity, .panic⟩
        | some hash =>
          if hexString (C.sha256 plaintext) ≠ hash then
            ⟨capacity, .err (.cryptoError ("SHA-256 mismatch on chunk " ++ toString expectedIdx))⟩
          else
            let grown := grownCapacity capacity (assembled.length + plaintext.length)
            if maxCapacity < grown then ⟨grown, .panic⟩
            else assembleChunks (expectedIdx + 1) rest (assembled ++ plaintext) grown

def assembleFileTransfer (chunks : List MediaChunk) : Assembled :=
  if chunks.length ≠ m.chunkCount then
    ⟨0, .err (.other ("Incomplete transfer: received " ++ toString chunks.length ++ "/" ++ toString m.chunkCount ++
      " chunks"))⟩
  else match attachmentHexDecode m.encryptionKeyHex with
    | .panic => ⟨0, .panic⟩
    | .err _ | .ok none => ⟨0, .err (.cryptoError "Invalid manifest encryption key hex")⟩
    | .ok (some key) =>
      if key.length ≠ 32 then ⟨0, .err (.cryptoError "Manifest encryption key must be 32 bytes")⟩
      else if maxCapacity < m.fileSize then ⟨m.fileSize, .panic⟩
      else assembleChunks C F m key 0 (sortByKey MediaChunk.chunkIndex chunks) [] m.fileSize

/-! ## What the loop does at a chunk -/

/-- A chunk passes at its place: index, checksum, nonce, key and hash are right, and this is in it. -/
structure Passes (i : Nat) (chunk : MediaChunk) (plaintext : Bytes) : Prop where
  index : chunk.chunkIndex = i
  checksum : F.crc32 chunk.ciphertext = chunk.checksum
  nonce : chunk.nonce.length = 12
  opens : C.aeadDecrypt key chunk.nonce [] chunk.ciphertext = some plaintext
  hash : m.chunkHashes[i]? = some (hexString (C.sha256 plaintext))

/-- The loop does not panic at a chunk: if it comes as far as to open it, the nonce has twelve bytes, and if it is
opened there is a hash for it. -/
def Tolerates (i : Nat) (chunk : MediaChunk) : Prop :=
  chunk.chunkIndex = i → F.crc32 chunk.ciphertext = chunk.checksum → chunk.nonce.length = 12 ∧
    ((C.aeadDecrypt key chunk.nonce [] chunk.ciphertext).isSome → i < m.chunkHashes.length)

/-- Chunks that pass one after the other, and what is in them. -/
inductive PassAll : Nat → List MediaChunk → List Bytes → Prop
  | nil (i : Nat) : PassAll i [] []
  | cons {i : Nat} {chunk : MediaChunk} {plaintext : Bytes} {chunks : List MediaChunk} {plaintexts : List Bytes} :
    Passes C F m key i chunk plaintext → PassAll (i + 1) chunks plaintexts →
      PassAll i (chunk :: chunks) (plaintext :: plaintexts)

/-- The room of the buffer when these are appended to so many bytes. -/
def capacityAfter : Nat → Nat → List Bytes → Nat
  | capacity, _, [] => capacity
  | capacity, len, plaintext :: plaintexts =>
    capacityAfter (grownCapacity capacity (len + plaintext.length)) (len + plaintext.length) plaintexts

theorem le_grownCapacity (capacity needed : Nat) : capacity ≤ grownCapacity capacity needed := by
  unfold grownCapacity
  split <;> omega

theorem le_capacityAfter : ∀ (capacity len : Nat) (plaintexts : List Bytes),
    capacity ≤ capacityAfter capacity len plaintexts
  | _, _, [] => le_rfl
  | capacity, _, _ :: plaintexts => (le_grownCapacity capacity _).trans (le_capacityAfter _ _ plaintexts)

variable {C F m key} {i capacity : Nat} {chunk : MediaChunk} {chunks rest : List MediaChunk}
  {plaintext assembled bytes : Bytes} {plaintexts : List Bytes}

/-- A chunk that passes is appended. -/
theorem assembleChunks_of_passes (h : Passes C F m key i chunk plaintext)
    (hroom : grownCapacity capacity (assembled.length + plaintext.length) ≤ maxCapacity) :
    assembleChunks C F m key i (chunk :: rest) assembled capacity =
      assembleChunks C F m key (i + 1) rest (assembled ++ plaintext)
        (grownCapacity capacity (assembled.length + plaintext.length)) := by
  rw [assembleChunks, if_neg (not_not.2 h.index), if_neg (not_not.2 h.checksum), if_neg (not_not.2 h.nonce), h.opens]
  dsimp only
  rw [h.hash]
  dsimp only
  rw [if_neg (not_not.2 rfl), if_neg (by omega)]

/-- Where there is no room for it, the loop asks for more than there can be. -/
theorem assembleChunks_of_full (h : Passes C F m key i chunk plaintext)
    (hroom : maxCapacity < grownCapacity capacity (assembled.length + plaintext.length)) :
    assembleChunks C F m key i (chunk :: rest) assembled capacity =
      ⟨grownCapacity capacity (assembled.length + plaintext.length), .panic⟩ := by
  rw [assembleChunks, if_neg (not_not.2 h.index), if_neg (not_not.2 h.checksum), if_neg (not_not.2 h.nonce), h.opens]
  dsimp only
  rw [h.hash]
  dsimp only
  rw [if_neg (not_not.2 rfl), if_pos hroom]

/-- How the loop ends at a chunk that does not pass. -/
structure Stops (C : Crypto) (F : FileCodecs) (m : FileManifest) (key : Bytes) (i : Nat) (chunk : MediaChunk)
    (capacity : Nat) (a : Assembled) : Prop where
  reserved : a.reserved = capacity
  not_ok : ∀ bytes, a.result ≠ .ok bytes
  panic_iff : a.result = .panic ↔ ¬Tolerates C F m key i chunk

theorem stops_err {e : MessengerError} (h : Tolerates C F m key i chunk) :
    Stops C F m key i chunk capacity ⟨capacity, .err e⟩ where
  reserved := rfl
  not_ok _ h := by cases h
  panic_iff := iff_of_false (by simp) (not_not.2 h)

theorem stops_panic (h : ¬Tolerates C F m key i chunk) : Stops C F m key i chunk capacity ⟨capacity, .panic⟩ where
  reserved := rfl
  not_ok _ h := by cases h
  panic_iff := iff_of_true rfl h

/-- At a chunk that does not pass the loop ends. -/
theorem assembleChunks_of_not_passes (h : ∀ plaintext, ¬Passes C F m key i chunk plaintext) :
    Stops C F m key i chunk capacity (assembleChunks C F m key i (chunk :: rest) assembled capacity) := by
  rw [assembleChunks]
  split
  · rename_i hindex
    exact stops_err fun h => absurd h hindex
  rename_i hindex
  split
  · rename_i hchecksum
    exact stops_err fun _ h => absurd h hchecksum
  rename_i hchecksum
  split
  · rename_i hnonce
    exact stops_panic fun h => hnonce (h (not_not.1 hindex) (not_not.1 hchecksum)).1
  rename_i hnonce
  split
  · rename_i hopens
    refine stops_err fun _ _ => ⟨not_not.1 hnonce, ?_⟩
    intro hsome
    rw [hopens] at hsome
    cases hsome
  rename_i plaintext hopens
  split
  · rename_i hnone
    have hlen := List.getElem?_eq_none_iff.1 hnone
    refine stops_panic fun h => ?_
    have hlt := (h (not_not.1 hindex) (not_not.1 hchecksum)).2 (by rw [hopens]; rfl)
    omega
  rename_i hash hhash
  split
  · exact stops_err fun _ _ => ⟨not_not.1 hnonce, fun _ => (List.getElem?_eq_some_iff.1 hhash).1⟩
  · rename_i hsame
    refine absurd ⟨not_not.1 hindex, not_not.1 hchecksum, not_not.1 hnonce, hopens, ?_⟩ (h plaintext)
    rw [hhash, not_not.1 hsame]

theorem tolerates_of_passes (h : Passes C F m key i chunk plaintext) : Tolerates C F m key i chunk := by
  intro _ _
  exact ⟨h.nonce, fun _ => (List.getElem?_eq_some_iff.1 h.hash).1⟩

/-! ## What the loop does in a run -/

/-- Chunks that pass are appended one after the other. -/
theorem assembleChunks_of_passAll (h : PassAll C F m key i chunks plaintexts) :
    ∀ {assembled : Bytes} {capacity : Nat}, capacityAfter capacity assembled.length plaintexts ≤ maxCapacity →
      assembleChunks C F m key i (chunks ++ rest) assembled capacity =
        assembleChunks C F m key (i + chunks.length) rest (assembled ++ plaintexts.flatten)
          (capacityAfter capacity assembled.length plaintexts) := by
  induction h with
  | nil i =>
    intro assembled capacity _
    simp [capacityAfter]
  | @cons i chunk plaintext chunks plaintexts hpass _ ih =>
    intro assembled capacity hroom
    have hlen : assembled.length + plaintext.length = (assembled ++ plaintext).length := List.length_append.symm
    have hfirst := (le_capacityAfter _ (assembled.length + plaintext.length) plaintexts).trans hroom
    rw [List.cons_append, assembleChunks_of_passes hpass hfirst]
    rw [capacityAfter, hlen] at hroom
    rw [capacityAfter, hlen, ih hroom, List.length_cons, List.flatten_cons, List.append_assoc]
    rw [show i + 1 + chunks.length = i + (chunks.length + 1) by omega]

/-- What comes out was in chunks that all passed, and has the root hash. -/
theorem passAll_of_ok (h : (assembleChunks C F m key i chunks assembled capacity).result = .ok bytes) :
    hexString (C.sha256 bytes) = m.sha256Root ∧
      ∃ plaintexts, PassAll C F m key i chunks plaintexts ∧ bytes = assembled ++ plaintexts.flatten := by
  induction chunks generalizing i assembled capacity with
  | nil =>
    rw [assembleChunks] at h
    split at h
    · cases h
    · rename_i hroot
      cases h
      exact ⟨not_not.1 hroot, [], .nil i, by simp⟩
  | cons chunk rest ih =>
    by_cases hpass : ∃ plaintext, Passes C F m key i chunk plaintext
    · obtain ⟨plaintext, hpass⟩ := hpass
      by_cases hroom : grownCapacity capacity (assembled.length + plaintext.length) ≤ maxCapacity
      · rw [assembleChunks_of_passes hpass hroom] at h
        obtain ⟨hroot, plaintexts, hall, rfl⟩ := ih h
        refine ⟨hroot, plaintext :: plaintexts, .cons hpass hall, ?_⟩
        rw [List.flatten_cons, List.append_assoc]
      · rw [assembleChunks_of_full hpass (by omega)] at h
        cases h
    · have hstops := @assembleChunks_of_not_passes C F m key i capacity chunk rest assembled
        fun plaintext h => hpass ⟨plaintext, h⟩
      exact absurd h (hstops.not_ok bytes)

theorem map_index_of_passAll (h : PassAll C F m key i chunks plaintexts) :
    chunks.map MediaChunk.chunkIndex = List.range' i chunks.length := by
  induction h with
  | nil i => rfl
  | cons hpass _ ih =>
    rw [List.map_cons, List.length_cons, List.range'_succ, hpass.index, ih]

/-! ## When a call is safe -/

/-- The call returns, has asked for no more room than this, and what comes out has the root hash and this property. -/
structure Safe (m : FileManifest) (C : Crypto) (limit : Nat) (Q : Bytes → Prop) (a : Assembled) : Prop where
  returns : a.result ≠ .panic
  bounded : a.reserved ≤ limit
  sound : ∀ bytes, a.result = .ok bytes → hexString (C.sha256 bytes) = m.sha256Root ∧ Q bytes

/-- Wherever the chunks in front pass, there is room for them, the next one is tolerated, and after the last one what
has the root hash has the property. -/
def GuardedFrom (C : Crypto) (F : FileCodecs) (m : FileManifest) (key : Bytes) (limit : Nat) (Q : Bytes → Prop)
    (i : Nat) (chunks : List MediaChunk) (assembled : Bytes) (capacity : Nat) : Prop :=
  ∀ front back plaintexts, chunks = front ++ back → PassAll C F m key i front plaintexts →
    capacityAfter capacity assembled.length plaintexts ≤ limit ∧
      (∀ chunk rest, back = chunk :: rest → Tolerates C F m key (i + front.length) chunk) ∧
      (back = [] → hexString (C.sha256 (assembled ++ plaintexts.flatten)) = m.sha256Root →
        Q (assembled ++ plaintexts.flatten))

variable {limit : Nat} {Q : Bytes → Prop}

theorem guardedFrom_nil : GuardedFrom C F m key limit Q i [] assembled capacity ↔
    capacity ≤ limit ∧ (hexString (C.sha256 assembled) = m.sha256Root → Q assembled) := by
  constructor
  · intro h
    obtain ⟨hroom, -, hQ⟩ := h [] [] [] rfl (.nil i)
    rw [List.flatten_nil, List.append_nil] at hQ
    exact ⟨hroom, hQ rfl⟩
  · rintro ⟨hroom, hQ⟩ front back plaintexts hsplit hpass
    obtain ⟨rfl, rfl⟩ := List.append_eq_nil_iff.1 hsplit.symm
    cases hpass
    refine ⟨hroom, ?_, ?_⟩
    · intro _ _ h
      cases h
    · rwa [List.flatten_nil, List.append_nil, imp_iff_right rfl]

theorem guardedFrom_cons_of_passes (h : Passes C F m key i chunk plaintext) :
    GuardedFrom C F m key limit Q i (chunk :: rest) assembled capacity ↔
      GuardedFrom C F m key limit Q (i + 1) rest (assembled ++ plaintext)
        (grownCapacity capacity (assembled.length + plaintext.length)) := by
  unfold GuardedFrom
  constructor
  · intro hall front back plaintexts hsplit hpass
    have hfront := hall (chunk :: front) back (plaintext :: plaintexts) (by rw [hsplit]; rfl) (.cons h hpass)
    rw [capacityAfter, List.flatten_cons, List.length_cons, ← List.append_assoc] at hfront
    rw [List.length_append, show i + 1 + front.length = i + (front.length + 1) by omega]
    exact hfront
  · intro hall front back plaintexts hsplit hpass
    cases hpass with
    | nil =>
      obtain rfl : back = chunk :: rest := hsplit.symm
      obtain ⟨hroom, -, -⟩ := hall [] rest [] rfl (.nil (i + 1))
      refine ⟨(le_grownCapacity _ _).trans ((le_capacityAfter _ _ []).trans hroom), ?_, ?_⟩
      · rintro _ _ ⟨⟩
        exact tolerates_of_passes h
      · intro h
        cases h
    | cons hfirst hpass =>
      obtain ⟨rfl, rfl⟩ := List.cons.inj hsplit
      obtain rfl := Option.some.inj (h.opens.symm.trans hfirst.opens)
      have hfront := hall _ back _ rfl hpass
      rw [List.length_append] at hfront
      rw [capacityAfter, List.flatten_cons, List.length_cons, ← List.append_assoc]
      rwa [Nat.add_right_comm, Nat.add_assoc] at hfront

theorem guardedFrom_cons_of_not_passes (h : ∀ plaintext, ¬Passes C F m key i chunk plaintext) :
    GuardedFrom C F m key limit Q i (chunk :: rest) assembled capacity ↔
      capacity ≤ limit ∧ Tolerates C F m key i chunk := by
  constructor
  · intro hall
    obtain ⟨hroom, htolerates, -⟩ := hall [] (chunk :: rest) [] rfl (.nil i)
    exact ⟨hroom, htolerates chunk rest rfl⟩
  · rintro ⟨hroom, htolerates⟩ front back plaintexts hsplit hpass
    cases hpass with
    | nil =>
      obtain rfl : back = chunk :: rest := hsplit.symm
      refine ⟨hroom, ?_, ?_⟩
      · rintro _ _ ⟨⟩
        exact htolerates
      · intro h
        cases h
    | cons hfirst _ =>
      obtain ⟨rfl, -⟩ := List.cons.inj hsplit
      exact absurd hfirst (h _)

/-- The loop is safe exactly when it is guarded all along. -/
theorem safe_assembleChunks_iff (hlimit : limit ≤ maxCapacity) :
    Safe m C limit Q (assembleChunks C F m key i chunks assembled capacity) ↔
      GuardedFrom C F m key limit Q i chunks assembled capacity := by
  induction chunks generalizing i assembled capacity with
  | nil =>
    rw [guardedFrom_nil, assembleChunks]
    split
    · rename_i hroot
      constructor
      · intro h
        exact ⟨h.bounded, fun h => absurd h hroot⟩
      · rintro ⟨hroom, -⟩
        exact ⟨by simp, hroom, fun _ h => by cases h⟩
    · rename_i hroot
      constructor
      · intro h
        exact ⟨h.bounded, fun _ => (h.sound _ rfl).2⟩
      · rintro ⟨hroom, hQ⟩
        refine ⟨by simp, hroom, ?_⟩
        rintro _ ⟨⟩
        exact ⟨not_not.1 hroot, hQ (not_not.1 hroot)⟩
  | cons chunk rest ih =>
    by_cases hpass : ∃ plaintext, Passes C F m key i chunk plaintext
    · obtain ⟨plaintext, hpass⟩ := hpass
      rw [guardedFrom_cons_of_passes hpass]
      by_cases hroom : grownCapacity capacity (assembled.length + plaintext.length) ≤ maxCapacity
      · rw [assembleChunks_of_passes hpass hroom]
        exact ih
      · rw [assembleChunks_of_full hpass (by omega)]
        refine iff_of_false (fun h => h.returns rfl) ?_
        intro h
        have hfirst := (h [] rest [] rfl (.nil (i + 1))).1
        rw [capacityAfter] at hfirst
        omega
    · have hnot : ∀ plaintext, ¬Passes C F m key i chunk plaintext := fun plaintext h => hpass ⟨plaintext, h⟩
      have hstops := @assembleChunks_of_not_passes C F m key i capacity chunk rest assembled hnot
      rw [guardedFrom_cons_of_not_passes hnot]
      constructor
      · intro h
        refine ⟨hstops.reserved ▸ h.bounded, ?_⟩
        by_contra htolerates
        exact h.returns (hstops.panic_iff.2 htolerates)
      · rintro ⟨hroom, htolerates⟩
        refine ⟨?_, ?_, ?_⟩
        · intro hpanic
          exact hstops.panic_iff.1 hpanic htolerates
        · rw [hstops.reserved]
          exact hroom
        · intro bytes h
          exact absurd h (hstops.not_ok bytes)

/-- What the file is to fit: its length, and the id and number of chunks of all that it is made of. -/
def Matches (m : FileManifest) (chunks : List MediaChunk) (bytes : Bytes) : Prop :=
  bytes.length = m.fileSize ∧ ∀ chunk ∈ chunks, chunk.fileId = m.fileId ∧ chunk.chunkCount = m.chunkCount

def SafeOn (C : Crypto) (F : FileCodecs) (m : FileManifest) (chunks : List MediaChunk) : Prop :=
  Safe m C maxMediaFileBytes (Matches m chunks) (assembleFileTransfer C F m chunks)

/-- Where there are as many chunks as the manifest says, its key can be read as hex without a panic, and if that is
a key, the chunks in order are guarded; with none of them in front, this says that the size of the manifest is within
the limit. -/
def Guarded (C : Crypto) (F : FileCodecs) (m : FileManifest) (chunks : List MediaChunk) : Prop :=
  chunks.length = m.chunkCount → attachmentHexDecode m.encryptionKeyHex ≠ .panic ∧
    ∀ key, attachmentHexDecode m.encryptionKeyHex = .ok (some key) → key.length = 32 →
      GuardedFrom C F m key maxMediaFileBytes (Matches m chunks) 0 (sortByKey MediaChunk.chunkIndex chunks) []
        m.fileSize

theorem safe_err {e : MessengerError} : Safe m C limit Q ⟨0, .err e⟩ where
  returns h := by cases h
  bounded := Nat.zero_le _
  sound _ h := by cases h

theorem maxMediaFileBytes_le : maxMediaFileBytes ≤ maxCapacity := by decide

/-- Assembling a file from what a peer sent is safe exactly when manifest and chunks are guarded. -/
theorem safeOn_iff (C : Crypto) (F : FileCodecs) (m : FileManifest) (chunks : List MediaChunk) :
    SafeOn C F m chunks ↔ Guarded C F m chunks := by
  unfold SafeOn Guarded assembleFileTransfer
  by_cases hcount : chunks.length = m.chunkCount
  swap
  · rw [if_pos hcount]
    exact iff_of_true safe_err fun h => absurd h hcount
  rw [if_neg (not_not.2 hcount), imp_iff_right hcount]
  cases hread : attachmentHexDecode m.encryptionKeyHex with
  | panic => exact iff_of_false (fun h => h.returns rfl) fun h => h.1 rfl
  | err e => exact iff_of_true safe_err ⟨by simp, fun _ h => by cases h⟩
  | ok text =>
    cases text with
    | none => exact iff_of_true safe_err ⟨by simp, fun _ h => by cases h⟩
    | some key =>
      dsimp only
      by_cases hlen : key.length = 32
      swap
      · rw [if_pos hlen]
        refine iff_of_true safe_err ⟨by simp, ?_⟩
        rintro _ ⟨⟩ h
        exact absurd h hlen
      rw [if_neg (not_not.2 hlen)]
      -- with a key it is left to the room for the file, and to the loop
      split
      · rename_i hroom
        refine iff_of_false (fun h => h.returns rfl) ?_
        rintro ⟨-, h⟩
        have hfirst := (h key rfl hlen [] _ [] rfl (.nil 0)).1
        have hmax := maxMediaFileBytes_le
        rw [capacityAfter] at hfirst
        omega
      · rw [safe_assembleChunks_iff maxMediaFileBytes_le]
        constructor
        · intro h
          refine ⟨by simp, ?_⟩
          rintro _ ⟨⟩ _
          exact h
        · intro h
          exact h.2 key rfl hlen

theorem attachmentHexDecode_hexString (bs : Bytes) : attachmentHexDecode (hexString bs) = .ok (some bs) := by
  have hlen := NodeId.hexPairs_length (hexPairs_hexString bs)
  unfold attachmentHexDecode
  rw [if_neg, hexPairs_hexString]
  omega

/-! ## A chunk without a nonce -/

namespace Hostile

def manifest : FileManifest where
  fileId := "0_0"
  fileName := ""
  fileSize := 0
  mimeType := ""
  sha256Root := ""
  chunkSize := 0
  chunkCount := 1
  chunkHashes := []
  encryptionKeyHex := hexString (List.replicate 32 0)
  thumbnailBase64 := none

def bare : MediaChunk := ⟨"0_0", 0, 1, [], [], 0⟩

end Hostile

/-- The chunk has its index and its checksum, and the call panics at its nonce. -/
theorem safeOn_hostile : ¬SafeOn Crypto.transparent Sending.codecs Hostile.manifest [Hostile.bare] := by
  intro h
  refine h.returns ?_
  have hkey : attachmentHexDecode Hostile.manifest.encryptionKeyHex = .ok (some (List.replicate 32 0)) :=
    attachmentHexDecode_hexString _
  unfold assembleFileTransfer
  rw [if_neg (by decide), hkey]
  rfl

/-! ## What is created comes back -/

variable {raw : Bytes} {d : TransferDraw}

/-- The manifest that goes with the chunks of a file. -/
def manifestOf (C : Crypto) (F : FileCodecs) (fileName : String) (raw : Bytes) (thumbnail : Option Bytes)
    (d : TransferDraw) : FileManifest where
  fileId := transferId d.id raw.length
  fileName := fileName
  fileSize := raw.length
  mimeType := guessMimeType fileName
  sha256Root := hexString (C.sha256 raw)
  chunkSize := mediaChunkSize
  chunkCount := chunkCountOf raw
  chunkHashes := (UdpChunk.slices mediaChunkSize (chunkCountOf raw) raw).map fun slice => hexString (C.sha256 slice)
  encryptionKeyHex := hexString d.key.1
  thumbnailBase64 := thumbnail.map F.base64

def chunksOf (C : Crypto) (F : FileCodecs) (raw : Bytes) (d : TransferDraw) : List MediaChunk :=
  (UdpChunk.slices mediaChunkSize (chunkCountOf raw) raw).mapIdx (sealChunk C F raw d)

theorem createFileTransfer_eq (fileName : String) (thumbnail : Option Bytes) (h : raw.length ≤ maxMediaFileBytes) :
    createFileTransfer C F fileName raw thumbnail d =
      .ok (manifestOf C F fileName raw thumbnail d, chunksOf C F raw d) := by
  unfold createFileTransfer
  rw [if_neg (by omega)]
  rfl

theorem length_chunksOf : (chunksOf C F raw d).length = chunkCountOf raw := by
  rw [chunksOf, List.length_mapIdx, UdpChunk.length_slices]

/-- The pieces sealed from a place on pass from there. -/
theorem passAll_sealed (hC : C.Correct) {slices : List Bytes} :
    (∀ j slice, slices[j]? = some slice → m.chunkHashes[i + j]? = some (hexString (C.sha256 slice))) →
      PassAll C F m d.key.1 i (slices.mapIdx fun j slice => sealChunk C F raw d (i + j) slice) slices := by
  induction slices generalizing i with
  | nil =>
    intro _
    exact .nil i
  | cons slice slices ih =>
    intro hhashes
    rw [List.mapIdx_cons]
    refine .cons ⟨rfl, rfl, (d.nonces i).2, ?_, hhashes 0 slice rfl⟩ ?_
    · exact hC.aeadDecrypt_aeadEncrypt _ _ _ _ d.key.2 (d.nonces i).2
    · have hrest := ih (i := i + 1) fun j slice h => by
        rw [Nat.add_right_comm]
        exact hhashes (j + 1) slice h
      simpa only [Nat.add_right_comm, Nat.add_assoc] using hrest

theorem passAll_chunksOf (hC : C.Correct) (fileName : String) (thumbnail : Option Bytes) :
    PassAll C F (manifestOf C F fileName raw thumbnail d) d.key.1 0 (chunksOf C F raw d)
      (UdpChunk.slices mediaChunkSize (chunkCountOf raw) raw) := by
  have hhashes : ∀ j slice, (UdpChunk.slices mediaChunkSize (chunkCountOf raw) raw)[j]? = some slice →
      (manifestOf C F fileName raw thumbnail d).chunkHashes[0 + j]? = some (hexString (C.sha256 slice)) := by
    intro j slice h
    rw [Nat.zero_add, manifestOf, List.getElem?_map, h]
    rfl
  have hpass := @passAll_sealed C F _ 0 raw d hC _ hhashes
  simp only [Nat.zero_add] at hpass
  exact hpass

theorem map_index_chunksOf : (chunksOf C F raw d).map MediaChunk.chunkIndex = List.range' 0 (chunkCountOf raw) := by
  apply List.ext_getElem?
  intro j
  rw [List.getElem?_map, chunksOf, List.getElem?_mapIdx]
  by_cases hj : j < chunkCountOf raw
  · have hslice : j < (UdpChunk.slices mediaChunkSize (chunkCountOf raw) raw).length := by
      rw [UdpChunk.length_slices]
      exact hj
    rw [List.getElem?_eq_getElem hslice, List.getElem?_range' hj]
    simp [sealChunk]
  · have hslices : (UdpChunk.slices mediaChunkSize (chunkCountOf raw) raw)[j]? = none := by
      rw [List.getElem?_eq_none_iff, UdpChunk.length_slices]
      omega
    rw [hslices, Option.map_none, Option.map_none, Eq.comm, List.getElem?_eq_none_iff, List.length_range']
    omega

theorem pairwise_index_chunksOf : (chunksOf C F raw d).Pairwise fun a b => a.chunkIndex < b.chunkIndex := by
  rw [← List.pairwise_map, map_index_chunksOf]
  exact List.pairwise_lt_range'

/-- The pieces fit the buffer, which does not grow. -/
theorem capacityAfter_of_le : ∀ {len : Nat} {plaintexts : List Bytes}, len + plaintexts.flatten.length ≤ capacity →
    capacityAfter capacity len plaintexts = capacity
  | _, [], _ => rfl
  | len, plaintext :: plaintexts, h => by
    rw [List.flatten_cons, List.length_append] at h
    rw [capacityAfter, grownCapacity, if_pos (by omega)]
    exact capacityAfter_of_le (by omega)

theorem flatten_slices_chunkCountOf (raw : Bytes) :
    (UdpChunk.slices mediaChunkSize (chunkCountOf raw) raw).flatten = raw := by
  refine UdpChunk.flatten_slices _ _ _ ?_
  unfold chunkCountOf mediaChunkSize
  omega

/-- A call with as many chunks as the manifest has is the loop over them. -/
theorem assembleFileTransfer_manifestOf (fileName : String) (thumbnail : Option Bytes)
    (hsize : raw.length ≤ maxMediaFileBytes) (hcount : chunks.length = chunkCountOf raw) :
    assembleFileTransfer C F (manifestOf C F fileName raw thumbnail d) chunks =
      assembleChunks C F (manifestOf C F fileName raw thumbnail d) d.key.1 0
        (sortByKey MediaChunk.chunkIndex chunks) [] raw.length := by
  have hkey : attachmentHexDecode (manifestOf C F fileName raw thumbnail d).encryptionKeyHex = .ok (some d.key.1) :=
    attachmentHexDecode_hexString _
  have hmax := maxMediaFileBytes_le
  have hfits : ¬maxCapacity < (manifestOf C F fileName raw thumbnail d).fileSize := by
    show ¬maxCapacity < raw.length
    omega
  have hcounted : ¬chunks.length ≠ (manifestOf C F fileName raw thumbnail d).chunkCount := not_not.2 hcount
  unfold assembleFileTransfer
  rw [if_neg hcounted, hkey]
  dsimp only
  rw [if_neg (not_not.2 d.key.2), if_neg hfits]
  rfl

theorem index_of_map {n j : Nat} {c : MediaChunk} (hindex : chunks.map MediaChunk.chunkIndex = List.range' 0 n)
    (hc : chunks[j]? = some c) : c.chunkIndex = j := by
  have hj : j < n := by
    have hlt := (List.getElem?_eq_some_iff.1 hc).1
    have hlen := congrArg List.length hindex
    rw [List.length_map, List.length_range'] at hlen
    omega
  have hat : (chunks.map MediaChunk.chunkIndex)[j]? = some (0 + 1 * j) := by
    rw [hindex, List.getElem?_range' hj]
  rw [List.getElem?_map, hc] at hat
  have hindexed : c.chunkIndex = 0 + 1 * j := Option.some.inj hat
  omega

/-- Chunks of the file that pass one after the other are its first ones. -/
theorem eq_take_of_passAll (h : PassAll C F m key 0 chunks plaintexts) (hmem : ∀ c ∈ chunks, c ∈ chunksOf C F raw d) :
    chunks = (chunksOf C F raw d).take chunks.length := by
  apply List.ext_getElem?
  intro j
  rw [List.getElem?_take]
  split
  · rename_i hj
    obtain ⟨k, hk⟩ := List.mem_iff_getElem?.1 (hmem _ (List.getElem_mem hj))
    have hkj := (index_of_map map_index_chunksOf hk).symm.trans
      (index_of_map (map_index_of_passAll h) (List.getElem?_eq_getElem hj))
    rw [List.getElem?_eq_getElem hj, ← hk, hkj]
  · rw [List.getElem?_eq_none_iff]
    omega

theorem plaintexts_of_take (h : PassAll C F m key i chunks plaintexts) : ∀ {n : Nat} {found : List Bytes},
    PassAll C F m key i (chunks.take n) found → found = plaintexts.take n := by
  induction h with
  | nil i =>
    intro n found hfound
    rw [List.take_nil] at hfound
    cases hfound
    rw [List.take_nil]
  | cons hpass _ ih =>
    intro n found hfound
    cases n with
    | zero =>
      cases hfound
      rfl
    | succ n =>
      cases hfound with
      | cons hfirst hrest =>
        obtain rfl := Option.some.inj (hpass.opens.symm.trans hfirst.opens)
        rw [List.take_succ_cons, ih hrest]

theorem tolerates_of_mem (h : chunk ∈ chunksOf C F raw d) (fileName : String) (thumbnail : Option Bytes) :
    Tolerates C F (manifestOf C F fileName raw thumbnail d) key i chunk := by
  obtain ⟨j, hj, rfl⟩ := List.mem_mapIdx.1 h
  rintro rfl _
  refine ⟨(d.nonces j).2, fun _ => ?_⟩
  rw [manifestOf, List.length_map]
  exact hj

/-- Chunks of the file never make the loop panic, not even when some come twice. -/
theorem guardedFrom_of_mem (hC : C.Correct) (fileName : String) (thumbnail : Option Bytes)
    (hsize : raw.length ≤ maxMediaFileBytes) (hmem : ∀ c ∈ chunks, c ∈ chunksOf C F raw d) :
    GuardedFrom C F (manifestOf C F fileName raw thumbnail d) d.key.1 maxCapacity (fun _ => True) 0 chunks [] raw.length
    := by
  intro front back plaintexts hsplit hpass
  have hfront : ∀ c ∈ front, c ∈ chunksOf C F raw d := by
    intro c hc
    refine hmem c ?_
    rw [hsplit]
    exact List.mem_append_left _ hc
  refine ⟨?_, ?_, fun _ _ => trivial⟩
  · have htaken := eq_take_of_passAll hpass hfront
    rw [htaken] at hpass
    have hfound := plaintexts_of_take (@passAll_chunksOf C F raw d hC fileName thumbnail) hpass
    have hmax := maxMediaFileBytes_le
    have hlen : plaintexts.flatten.length ≤ raw.length := by
      have hall := congrArg List.length (flatten_slices_chunkCountOf raw)
      rw [← List.take_append_drop front.length (UdpChunk.slices _ _ _), ← hfound, List.flatten_append,
        List.length_append] at hall
      omega
    rw [capacityAfter_of_le (by simpa using hlen)]
    omega
  · intro c rest hback
    refine tolerates_of_mem (hmem c ?_) fileName thumbnail
    rw [hsplit, hback]
    exact List.mem_append_right _ List.mem_cons_self

/-- What a receiver makes of the chunks of a file. -/
structure RoundTrips (C : Crypto) (F : FileCodecs) (raw : Bytes) (manifest : FileManifest) (chunks : List MediaChunk) :
    Prop where
  any_order : ∀ l, l.Perm chunks → (assembleFileTransfer C F manifest l).result = .ok raw
  incomplete : ∀ l, l.Subperm chunks → ¬l.Perm chunks → ∃ e, (assembleFileTransfer C F manifest l).result = .err e
  repeated : ∀ l, (∀ c ∈ l, c ∈ chunks) → ¬(l.map MediaChunk.chunkIndex).Nodup →
    ∃ e, (assembleFileTransfer C F manifest l).result = .err e
  never_repeated : ∀ l, ¬(l.map MediaChunk.chunkIndex).Nodup →
    ∀ bytes, (assembleFileTransfer C F manifest l).result ≠ .ok bytes

/-- No list with an index twice comes out, whatever the manifest. -/
theorem nodup_of_ok (h : (assembleFileTransfer C F m chunks).result = .ok bytes) :
    (chunks.map MediaChunk.chunkIndex).Nodup := by
  unfold assembleFileTransfer at h
  split at h
  · cases h
  split at h
  · cases h
  · cases h
  · cases h
  split at h
  · cases h
  split at h
  · cases h
  obtain ⟨-, plaintexts, hpass, -⟩ := passAll_of_ok h
  rw [← ((perm_sortByKey MediaChunk.chunkIndex chunks).map MediaChunk.chunkIndex).nodup_iff,
    map_index_of_passAll hpass]
  exact List.nodup_range'

theorem exists_err_of_count (h : chunks.length ≠ m.chunkCount) :
    ∃ e, (assembleFileTransfer C F m chunks).result = .err e := by
  unfold assembleFileTransfer
  rw [if_pos h]
  exact ⟨_, rfl⟩

/-- A file of no more than the limit comes back from its chunks in any order, and from no other selection of them. -/
theorem createFileTransfer_roundTrips (hC : C.Correct) (F : FileCodecs) (fileName : String) (raw : Bytes)
    (thumbnail : Option Bytes) (d : TransferDraw) (hsize : raw.length ≤ maxMediaFileBytes) :
    ∃ manifest chunks, createFileTransfer C F fileName raw thumbnail d = .ok (manifest, chunks) ∧
      RoundTrips C F raw manifest chunks := by
  refine ⟨_, _, createFileTransfer_eq fileName thumbnail hsize, ?_, ?_, ?_, ?_⟩
  · intro l hl
    have hcount : l.length = chunkCountOf raw := hl.length_eq.trans length_chunksOf
    have hpass := @passAll_chunksOf C F raw d hC fileName thumbnail
    have hmax := maxMediaFileBytes_le
    have hroom : capacityAfter raw.length ([] : Bytes).length
        (UdpChunk.slices mediaChunkSize (chunkCountOf raw) raw) = raw.length := by
      refine capacityAfter_of_le ?_
      rw [flatten_slices_chunkCountOf]
      simp
    have hrun := @assembleChunks_of_passAll C F _ d.key.1 0 _ [] _ hpass [] raw.length (by rw [hroom]; omega)
    rw [List.append_nil, flatten_slices_chunkCountOf, List.nil_append] at hrun
    rw [assembleFileTransfer_manifestOf fileName thumbnail hsize hcount,
      sortByKey_eq_of_perm _ hl pairwise_index_chunksOf, hrun, assembleChunks, if_neg]
    exact not_not.2 rfl
  · intro l hl hnot
    refine exists_err_of_count ?_
    intro hcount
    exact hnot (hl.perm_of_length_le (by rw [length_chunksOf]; exact hcount.ge))
  · intro l hmem hrepeated
    by_cases hcount : l.length = chunkCountOf raw
    · rcases hresult : (assembleFileTransfer C F (manifestOf C F fileName raw thumbnail d) l).result with bytes | e | _
      · exact absurd (nodup_of_ok hresult) hrepeated
      · exact ⟨e, rfl⟩
      · rw [assembleFileTransfer_manifestOf fileName thumbnail hsize hcount] at hresult
        have hsorted : ∀ c ∈ sortByKey MediaChunk.chunkIndex l, c ∈ chunksOf C F raw d := fun c hc =>
          hmem c ((mem_sortByKey _).1 hc)
        have hsafe := (safe_assembleChunks_iff le_rfl).2 (guardedFrom_of_mem hC fileName thumbnail hsize hsorted)
        exact absurd hresult hsafe.returns
    · exact exists_err_of_count hcount
  · intro l hrepeated bytes h
    exact hrepeated (nodup_of_ok h)

theorem createFileTransfer_roundTrips_hello :
    utf8 "hello" ≠ [] ∧ ∃ manifest chunks,
      createFileTransfer Crypto.transparent Sending.codecs "hello.txt" (utf8 "hello") none Sending.draw =
        .ok (manifest, chunks) ∧ RoundTrips Crypto.transparent Sending.codecs (utf8 "hello") manifest chunks :=
  ⟨by decide, createFileTransfer_roundTrips Crypto.transparent_correct Sending.codecs "hello.txt" (utf8 "hello") none
    Sending.draw (by decide)⟩


end NodeX.Messenger
