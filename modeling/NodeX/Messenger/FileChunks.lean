/-
`attachments.rs`: a file is sealed in chunks of 32 KB, and each chunk is written as a JSON record into the DHT. A record
has its bytes as decimal numbers, so that one of a full chunk is larger than what a STORE carries.
-/
import NodeX.Core.Crypto
import NodeX.Kad.Chunking
import NodeX.Kad.FindValue
import NodeX.Messenger.Types

namespace NodeX.Messenger

open NodeX.Lib NodeX.Lib.Codec NodeX.Kad

/-! ## Transfers -/

def maxMediaFileBytes : Nat := 100 * 1024 * 1024

def mediaChunkSize : Nat := 32 * 1024

structure MediaChunk where
  fileId : String
  chunkIndex : Nat
  chunkCount : Nat
  nonce : Bytes
  ciphertext : Bytes
  checksum : UInt32
deriving DecidableEq

/-- `guess_mime_type`. No letter but those of ASCII has one of these endings in lower case. -/
def guessMimeType (fileName : String) : String :=
  let lower := fileName.toList.map Char.toLower
  let endsWith (ending : String) : Bool := ending.toList.isSuffixOf lower
  if endsWith ".png" then "image/png"
  else if endsWith ".jpg" || endsWith ".jpeg" then "image/jpeg"
  else if endsWith ".gif" then "image/gif"
  else if endsWith ".webp" then "image/webp"
  else if endsWith ".pdf" then "application/pdf"
  else if endsWith ".zip" then "application/zip"
  else "application/octet-stream"

/-- What a transfer draws: a number for its id, a key, and a nonce for each chunk. -/
structure TransferDraw where
  id : UInt64
  key : { k : Bytes // k.length = 32 }
  nonces : Nat → { n : Bytes // n.length = 12 }

/-- What other packages compute: CRC-32 and Base64. -/
structure FileCodecs where
  crc32 : Bytes → UInt32
  base64 : Bytes → String

variable (C : Crypto) (F : FileCodecs) (J : ValueJson)

/-- `format!("{:x}_{}", ..)`. -/
def transferId (id : UInt64) (size : Nat) : String :=
  String.ofList (Nat.toDigits 16 id.toNat) ++ "_" ++ toString size

def chunkCountOf (raw : Bytes) : Nat := (raw.length + (mediaChunkSize - 1)) / mediaChunkSize

def sealChunk (raw : Bytes) (d : TransferDraw) (idx : Nat) (slice : Bytes) : MediaChunk :=
  let ciphertext := C.aeadEncrypt d.key.1 (d.nonces idx).1 [] slice
  { fileId := transferId d.id raw.length, chunkIndex := idx, chunkCount := chunkCountOf raw
    nonce := (d.nonces idx).1, ciphertext, checksum := F.crc32 ciphertext }

def createFileTransfer (fileName : String) (raw : Bytes) (thumbnail : Option Bytes) (d : TransferDraw) :
    Except MessengerError (FileManifest × List MediaChunk) :=
  if raw.length > maxMediaFileBytes then .error (.attachmentTooLarge raw.length maxMediaFileBytes)
  else
    let slices := UdpChunk.slices mediaChunkSize (chunkCountOf raw) raw
    .ok ({ fileId := transferId d.id raw.length, fileName, fileSize := raw.length, mimeType := guessMimeType fileName
           sha256Root := hexString (C.sha256 raw), chunkSize := mediaChunkSize, chunkCount := chunkCountOf raw
           chunkHashes := slices.map fun slice => hexString (C.sha256 slice), encryptionKeyHex := hexString d.key.1
           thumbnailBase64 := thumbnail.map F.base64 },
      slices.mapIdx (sealChunk C F raw d))

/-! ## Records -/

/-- A `Vec<u8>` in JSON. -/
def printBytes (bs : Bytes) : Bytes := 91 :: (joinCommas (bs.map fun b => natDigits b.toNat) ++ [93])

/-- `to_vec` of a chunk, whose id needs no escapes. -/
def printChunk (c : MediaChunk) : Bytes :=
  utf8 "\x7b\"file_id\":\"" ++ utf8 c.fileId ++ utf8 "\",\"chunk_index\":" ++ natDigits c.chunkIndex ++
    utf8 ",\"chunk_count\":" ++ natDigits c.chunkCount ++ utf8 ",\"nonce\":" ++ printBytes c.nonce ++
    utf8 ",\"ciphertext\":" ++ printBytes c.ciphertext ++ utf8 ",\"checksum\":" ++ natDigits c.checksum.toNat ++
    utf8 "\x7d"

def chunkKey (c : MediaChunk) : String := "chunk_" ++ c.fileId ++ "_" ++ toString c.chunkIndex

/-- The records `send_file` puts, each with its key. -/
def fileRecords (fileName : String) (raw : Bytes) (d : TransferDraw) : Except MessengerError (List (NodeId × Bytes)) :=
  (createFileTransfer C F fileName raw none d).map fun transfer =>
    transfer.2.map fun c => (NodeId.fromKey C (utf8 (chunkKey c)), printChunk c)

/-- A record the transport carries: a STORE and an answer to FIND_VALUE take it, and what a put stores of it is
answered until it expires. -/
structure Carried (key : NodeId) (record : Bytes) : Prop where
  size : record.length ≤ maxValueSize
  store : ∃ p, RpcMessage.toCPayload (.store key record) = .ok p
  reply : ∃ p, RpcMessage.toCPayload (.findValueResp (some record) []) = .ok p
  kept : ∀ st : Storage, st.Accounted → ∀ ttl now, ReadsBack J key record (now + ttl) (st.put key record ttl now)

/-- Every record of a file is carried. -/
def FitsTransport (fileName : String) (raw : Bytes) (d : TransferDraw) : Prop :=
  ∀ records, fileRecords C F fileName raw d = .ok records → ∀ r ∈ records, Carried J r.1 r.2

/-! ## How long a record is -/

/-- The brackets and commas of an array of bytes that is not empty, and the digits of its numbers. -/
def width (bs : Bytes) : Nat := 1 + (bs.map fun b => (natDigits b.toNat).length + 1).sum

/-- The length of the record of a file that is one chunk. -/
def recordWidth (raw : Bytes) (d : TransferDraw) : Nat :=
  let ciphertext := C.aeadEncrypt d.key.1 (d.nonces 0).1 [] raw
  81 + (utf8 (transferId d.id raw.length)).length + width (d.nonces 0).1 + width ciphertext +
    (natDigits (F.crc32 ciphertext).toNat).length

/-- The files whose records fit: the empty one, and those of less than a chunk whose numbers are short enough. -/
def Narrow (raw : Bytes) (d : TransferDraw) : Prop :=
  raw = [] ∨ raw.length < mediaChunkSize ∧ recordWidth C F raw d ≤ maxValueSize

/-- ChaCha20-Poly1305 adds a tag of sixteen bytes. -/
def AddsTag (C : Crypto) : Prop :=
  ∀ key nonce plaintext : Bytes, key.length = 32 → nonce.length = 12 →
    (C.aeadEncrypt key nonce [] plaintext).length = plaintext.length + 16

section Width

variable {C F J}

theorem length_printBytes : ∀ {bs : Bytes}, bs ≠ [] → (printBytes bs).length = width bs
  | [], h => absurd rfl h
  | [b], _ => by
    simp [printBytes, width, joinCommas]
    omega
  | b :: c :: bs, _ => by
    have ih : (printBytes (c :: bs)).length = width (c :: bs) := length_printBytes (by simp)
    unfold printBytes width at ih ⊢
    simp only [List.map_cons, joinCommas, List.length_cons, List.length_append, List.sum_cons, List.length_nil] at ih ⊢
    omega

theorem length_natDigits_le {n k : Nat} (hk : 0 < k) (h : n < 10 ^ k) : (natDigits n).length ≤ k := by
  unfold natDigits
  split
  · exact hk
  · rw [List.length_map, List.length_reverse]
    exact (Nat.digits_length_le_iff (by decide) n).2 h

theorem length_natDigits_pos (n : Nat) : 0 < (natDigits n).length := List.length_pos_iff.2 (natDigits_ne_nil n)

/-- Every byte takes two characters at least and four at most. -/
theorem width_bounds : ∀ bs : Bytes, 1 + 2 * bs.length ≤ width bs ∧ width bs ≤ 1 + 4 * bs.length
  | [] => by simp [width]
  | b :: bs => by
    obtain ⟨hlow, hhigh⟩ := width_bounds bs
    have hpos := length_natDigits_pos b.toNat
    have hle : (natDigits b.toNat).length ≤ 3 := length_natDigits_le (by decide) (by
      have := b.toNat_lt
      omega)
    unfold width at hlow hhigh ⊢
    simp only [List.map_cons, List.sum_cons, List.length_cons]
    omega

theorem length_printChunk {c : MediaChunk} (hnonce : c.nonce ≠ []) (hct : c.ciphertext ≠ []) :
    (printChunk c).length = 79 + (utf8 c.fileId).length + (natDigits c.chunkIndex).length +
      (natDigits c.chunkCount).length + width c.nonce + width c.ciphertext + (natDigits c.checksum.toNat).length := by
  have htexts : (utf8 "\x7b\"file_id\":\"").length = 12 ∧ (utf8 "\",\"chunk_index\":").length = 16 ∧
      (utf8 ",\"chunk_count\":").length = 15 ∧ (utf8 ",\"nonce\":").length = 9 ∧
      (utf8 ",\"ciphertext\":").length = 14 ∧ (utf8 ",\"checksum\":").length = 12 ∧
      (utf8 "\x7d").length = 1 := by decide
  obtain ⟨h1, h2, h3, h4, h5, h6, h7⟩ := htexts
  unfold printChunk
  simp only [List.length_append, length_printBytes hnonce, length_printBytes hct, h1, h2, h3, h4, h5, h6, h7]
  omega

/-! ## What the transport takes -/

/-- A value that is no array is carried exactly if it is within the limit. -/
theorem carried_iff {key : NodeId} {record : Bytes} (hother : J.parseValues record = none) :
    Carried J key record ↔ record.length ≤ maxValueSize := by
  constructor
  · exact Carried.size
  · intro h
    refine ⟨h, ⟨_, if_neg (by omega)⟩, ⟨_, if_neg (by omega)⟩, ?_⟩
    intro st hst ttl now
    have hmax : maxValueSize ≤ maxStorageBytes := by decide
    refine (readsBack_iff (hst.put key record ttl now)
      (st.record?_put_self key ttl now (h.trans hmax))).2 ⟨rfl, ?_⟩
    rw [mergeStoreValue_of_other hother, if_pos h]

theorem fileRecords_eq {fileName : String} {raw : Bytes} {d : TransferDraw} (h : raw.length ≤ maxMediaFileBytes) :
    fileRecords C F fileName raw d =
      .ok (((UdpChunk.slices mediaChunkSize (chunkCountOf raw) raw).mapIdx (sealChunk C F raw d)).map fun c =>
        (NodeId.fromKey C (utf8 (chunkKey c)), printChunk c)) := by
  unfold fileRecords createFileTransfer
  rw [if_neg (by omega)]
  rfl

/-- The file fits when each of its chunks does. -/
theorem fitsTransport_iff_chunks (hobject : ∀ rest, J.parseValues (123 :: rest) = none) {fileName : String}
    {raw : Bytes} {d : TransferDraw} (h : raw.length ≤ maxMediaFileBytes) :
    FitsTransport C F J fileName raw d ↔
      ∀ c ∈ (UdpChunk.slices mediaChunkSize (chunkCountOf raw) raw).mapIdx (sealChunk C F raw d),
        (printChunk c).length ≤ maxValueSize := by
  unfold FitsTransport
  rw [fileRecords_eq h]
  constructor
  · intro hfits c hc
    exact (hfits _ rfl _ (List.mem_map_of_mem hc)).size
  · intro hchunks records hrecords r hr
    obtain rfl := Except.ok.inj hrecords
    obtain ⟨c, hc, rfl⟩ := List.mem_map.1 hr
    exact (carried_iff (hobject _)).2 (hchunks c hc)

theorem length_sealChunk (htag : AddsTag C) (raw : Bytes) (d : TransferDraw) (idx : Nat) (slice : Bytes) :
    (sealChunk C F raw d idx slice).ciphertext.length = slice.length + 16 :=
  htag _ _ _ d.key.2 (d.nonces idx).2

theorem length_printChunk_sealChunk (htag : AddsTag C) (raw : Bytes) (d : TransferDraw) (idx : Nat) (slice : Bytes) :
    (printChunk (sealChunk C F raw d idx slice)).length =
      79 + (utf8 (transferId d.id raw.length)).length + (natDigits idx).length + (natDigits (chunkCountOf raw)).length +
        width (d.nonces idx).1 + width (C.aeadEncrypt d.key.1 (d.nonces idx).1 [] slice) +
        (natDigits (F.crc32 (C.aeadEncrypt d.key.1 (d.nonces idx).1 [] slice)).toNat).length := by
  have hct := length_sealChunk (F := F) htag raw d idx slice
  refine length_printChunk ?_ ?_
  · intro hnil
    have hlen := (d.nonces idx).2
    change (d.nonces idx).1 = [] at hnil
    rw [hnil] at hlen
    cases hlen
  · intro hnil
    rw [hnil] at hct
    exact absurd hct (by simp)

/-- A chunk of full size does not fit. -/
theorem full_not_fits (htag : AddsTag C) (raw : Bytes) (d : TransferDraw) (idx : Nat) (slice : Bytes)
    (h : slice.length = mediaChunkSize) : maxValueSize < (printChunk (sealChunk C F raw d idx slice)).length := by
  have hlen : (C.aeadEncrypt d.key.1 (d.nonces idx).1 [] slice).length = slice.length + 16 :=
    length_sealChunk (F := F) htag raw d idx slice
  have hwidth := (width_bounds (C.aeadEncrypt d.key.1 (d.nonces idx).1 [] slice)).1
  have hmax : maxValueSize = 65536 := rfl
  have hchunk : mediaChunkSize = 32768 := rfl
  rw [length_printChunk_sealChunk htag]
  omega

/-- The chunk of a file that is one. -/
theorem single_fits_iff (htag : AddsTag C) {raw : Bytes} (d : TransferDraw) (hcount : chunkCountOf raw = 1) :
    (printChunk (sealChunk C F raw d 0 raw)).length ≤ maxValueSize ↔ recordWidth C F raw d ≤ maxValueSize := by
  have hone : (natDigits 1).length = 1 := by decide
  have hzero : (natDigits 0).length = 1 := by decide
  rw [length_printChunk_sealChunk htag, hcount, hzero, hone]
  unfold recordWidth
  dsimp only
  omega

theorem length_utf8_le (s : String) : (utf8 s).length ≤ 4 * s.toList.length := by
  unfold utf8
  rw [List.length_flatMap]
  induction s.toList with
  | nil => simp
  | cons c cs ih =>
    have hc := c.utf8Size_le_four
    rw [← String.length_utf8EncodeChar] at hc
    simp only [List.map_cons, List.sum_cons, List.length_cons]
    omega

theorem length_transferId_le (id : UInt64) {size : Nat} (h : size < 10 ^ 5) :
    (transferId id size).toList.length ≤ 22 := by
  have hhex : (Nat.toDigits 16 id.toNat).length ≤ 16 :=
    (Nat.length_toDigits_le_iff (by decide) (by decide)).2 (by
      have := id.toNat_lt
      omega)
  have hdec : (Nat.toDigits 10 size).length ≤ 5 := (Nat.length_toDigits_le_iff (by decide) (by decide)).2 h
  unfold transferId
  simp only [String.toList_append, String.toList_ofList, Nat.toString_eq_ofList_toDigits, List.length_append]
  have hone : "_".toList.length = 1 := by decide
  omega

/-- A file of no more than so many bytes fits, whatever is drawn. -/
theorem narrow_of_small (htag : AddsTag C) {raw : Bytes} (h : raw.length ≤ 16310) (d : TransferDraw) :
    Narrow C F raw d := by
  have hlen : (C.aeadEncrypt d.key.1 (d.nonces 0).1 [] raw).length = raw.length + 16 :=
    length_sealChunk (F := F) htag raw d 0 raw
  have hct := (width_bounds (C.aeadEncrypt d.key.1 (d.nonces 0).1 [] raw)).2
  have hnonce := (width_bounds (d.nonces 0).1).2
  have hnonceLen := (d.nonces 0).2
  have hcrc := length_natDigits_le (n := (F.crc32 (C.aeadEncrypt d.key.1 (d.nonces 0).1 [] raw)).toNat) (k := 10)
    (by decide) (by
      have := (F.crc32 (C.aeadEncrypt d.key.1 (d.nonces 0).1 [] raw)).toNat_lt
      omega)
  have hid := length_utf8_le (transferId d.id raw.length)
  have hchars : (transferId d.id raw.length).toList.length ≤ 22 := length_transferId_le d.id (by omega)
  right
  constructor
  · simp only [mediaChunkSize]
    omega
  · unfold recordWidth maxValueSize
    dsimp only
    omega

end Width

variable {C F J} in
/-- The records of a file fit the transport exactly when it is empty, or less than a chunk and its numbers in decimal
come to no more than the limit. -/
theorem fitsTransport_iff (htag : AddsTag C) (hobject : ∀ rest, J.parseValues (123 :: rest) = none) (fileName : String)
    (raw : Bytes) (d : TransferDraw) (hsize : raw.length ≤ maxMediaFileBytes) :
    FitsTransport C F J fileName raw d ↔ Narrow C F raw d := by
  have hchunk : mediaChunkSize = 32768 := rfl
  rw [fitsTransport_iff_chunks hobject hsize]
  unfold Narrow
  rcases Nat.lt_trichotomy raw.length 0 with h | h | h
  · omega
  · have hnil : raw = [] := List.length_eq_zero_iff.1 h
    have hcount : chunkCountOf raw = 0 := by
      rw [hnil]
      rfl
    rw [hcount]
    simp [UdpChunk.slices, hnil]
  · have hne : raw ≠ [] := List.length_pos_iff.1 h
    have hcounted : chunkCountOf raw = (raw.length + 32767) / 32768 := rfl
    by_cases hfull : raw.length < mediaChunkSize
    · have hcount : chunkCountOf raw = 1 := by
        omega
      have hslices : UdpChunk.slices mediaChunkSize (chunkCountOf raw) raw = [raw] := by
        rw [hcount, UdpChunk.slices, UdpChunk.slices, List.take_of_length_le hfull.le]
      rw [hslices]
      simp only [List.mapIdx_cons, List.mapIdx_nil, List.forall_mem_singleton, hne, false_or, hfull, true_and]
      exact single_fits_iff htag d hcount
    · refine iff_of_false ?_ (by simp [hne, hfull])
      intro hall
      obtain ⟨count, hcount⟩ : ∃ count, chunkCountOf raw = count + 1 :=
        ⟨chunkCountOf raw - 1, by omega⟩
      rw [hcount, UdpChunk.slices, List.mapIdx_cons] at hall
      have hfirst := hall _ List.mem_cons_self
      have hlong := full_not_fits (F := F) htag raw d 0 (raw.take mediaChunkSize) (by
        rw [List.length_take]
        omega)
      omega

/-! ## Two files -/

namespace Sending

open NodeX.Sample

/-- The primitives with a cipher that adds sixteen bytes. -/
def crypto : Crypto := { Crypto.transparent with aeadEncrypt := fun key _ _ pt => pt ++ key.take 16 }

theorem addsTag : AddsTag crypto := by
  intro key nonce plaintext hkey _
  show (plaintext ++ key.take 16).length = plaintext.length + 16
  rw [List.length_append, List.length_take, hkey]
  rfl

/-- A checksum and a Base64 that are not looked into. -/
def codecs : FileCodecs := ⟨fun bs => UInt32.ofNat bs.length, fun _ => ""⟩

theorem length_nonceOf (i : Nat) : (List.replicate 12 (UInt8.ofNat i)).length = 12 := List.length_replicate

theorem length_key : (List.replicate 32 (1 : UInt8)).length = 32 := List.length_replicate

def draw : TransferDraw where
  id := 0xab54a98ceb1f0ad2
  key := ⟨List.replicate 32 1, length_key⟩
  nonces i := ⟨List.replicate 12 (UInt8.ofNat i), length_nonceOf i⟩

end Sending

open Sending Kad.Sample in
theorem fitsTransport_hello : FitsTransport crypto codecs textJson "hello.txt" (utf8 "hello") draw :=
  (fitsTransport_iff addsTag (fun _ => rfl) "hello.txt" (utf8 "hello") draw (by decide)).2
    (narrow_of_small addsTag (by decide) draw)

open Sending Kad.Sample in
/-- A file of 32 KB is one chunk, and its record does not fit. -/
theorem fitsTransport_photo : ¬FitsTransport crypto codecs textJson "photo.jpg" (List.replicate 32768 0) draw := by
  intro h
  have hcount : chunkCountOf (List.replicate 32768 0) = 1 := by
    unfold chunkCountOf
    rw [List.length_replicate]
    rfl
  have hall := (fitsTransport_iff_chunks (J := textJson) (fun _ => rfl) (by
    rw [List.length_replicate]
    decide)).1 h
  rw [hcount, UdpChunk.slices, List.mapIdx_cons] at hall
  have hlong := full_not_fits (F := codecs) addsTag (List.replicate 32768 0) draw 0
    ((List.replicate 32768 0).take mediaChunkSize) (by
      rw [List.length_take, List.length_replicate]
      decide)
  have hfirst := hall _ List.mem_cons_self
  omega

end NodeX.Messenger
