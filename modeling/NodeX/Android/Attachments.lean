/-
Attachments that come in (`handleAttachmentDatagram`, `finishIncomingAttachment`): parts are stored under the id that
the manifest names, and the file they are joined to is named after the id and the file name, of which only the second is
cleared of slashes.
-/
import NodeX.Android.Engine
import NodeX.Lib.Paths
import Mathlib.Data.List.ReduceOption

namespace NodeX.Android

open NodeX.Lib Messenger AndroidMessageCrypto

variable (P : Account) (filesDir : String)

/-! ## Chunks -/

def attachmentChunkContext (attachmentId : String) (index : Int) (senderId recipientId : Bytes) :
    Except Thrown Bytes := do
  let attachment := utf8 attachmentId
  require (1 ≤ attachment.length ∧ attachment.length ≤ 128 ∧ 0 ≤ index ∧ senderId.length = 20 ∧ recipientId.length = 20)
  return utf8 "NodeX-attachment-chunk-v1" ++ [UInt8.ofNat attachment.length] ++ attachment ++
    (beBytes (UInt64.ofInt index)).drop 4 ++ senderId ++ recipientId

/-- What a chunk is sealed and opened with. -/
def chunkKey (C : Crypto) (ephemeralDh staticDh nonce : Bytes) : Bytes :=
  C.hkdf (some nonce) (ephemeralDh ++ staticDh) (utf8 "NodeX-attachment-chunk-v1")

/-- `hexToBytes(getString(name))` -/
def getHex (env : Json) (name : String) : Except Thrown Bytes := do hexToBytes P.O (← getString P.K.valueOf env name)

def openAttachmentChunk (s : Phone) (chunk : Json) (expectedPeerId : String) : Except Thrown Bytes := do
  require (optInt P.O chunk "version" 0 = 1)
  let attachmentId ← getString P.K.valueOf chunk "attachment_id"
  let index ← getInt P.O chunk "index"
  let senderId ← getHex P chunk "sender_id"
  let recipientId ← getHex P chunk "recipient_id"
  require (P.K.sameIgnoringCase (hexString senderId) expectedPeerId = true)
  let keys := identityKeys P.C P.seed
  require (recipientId = keys.nodeId)
  let nonce ← getHex P chunk "nonce"
  let ephemeralPublic ← getHex P chunk "ephemeral_x25519_pub"
  let ciphertext ← getHex P chunk "ciphertext"
  let signature ← getHex P chunk "signature"
  require (nonce.length = 12 ∧ ephemeralPublic.length = 32 ∧ signature.length = 64 ∧ 16 ≤ ciphertext.length ∧
    ciphertext.length ≤ 366)
  match s.getVerifiedPeerEd25519Key P.K expectedPeerId with
  | none => throw (.illegal "Sender identity is not verified")
  | some peerEd =>
    let context ← attachmentChunkContext attachmentId index senderId recipientId
    if P.C.edKeyValid peerEd = false then throw .library
    if P.C.edVerify peerEd (context ++ nonce ++ ephemeralPublic ++ ciphertext) signature = false then
      throw (.illegal "Invalid attachment chunk signature")
    match s.getVerifiedPeerX25519Key P.K expectedPeerId with
    | none => throw (.illegal "Sender encryption key is not verified")
    | some peerX =>
      let ephemeralDh := P.C.dh keys.xSecret ephemeralPublic
      let staticDh := P.C.dh keys.xSecret peerX
      require (isContributory ephemeralDh && isContributory staticDh)
      match P.C.aeadDecrypt (chunkKey P.C ephemeralDh staticDh nonce) nonce context ciphertext with
      | none => throw .library
      | some plain => return plain

/-- `sealAttachmentChunk`, with the nonce and the ephemeral secret it draws. -/
def sealAttachmentChunk (attachmentId : String) (index : Int) (recipientId : String)
    (recipientXPublic plaintext nonce ephemeralSecret : Bytes) : Except Thrown Json := do
  require (isBlank attachmentId = false ∧ 0 ≤ index ∧ recipientXPublic.length = 32 ∧ plaintext.length ≤ 350)
  let keys := identityKeys P.C P.seed
  let recipientBytes ← hexToBytes P.O recipientId
  require (recipientBytes.length = 20)
  let ephemeralPublic := P.C.xPublic ephemeralSecret
  let ephemeralDh := P.C.dh ephemeralSecret recipientXPublic
  let staticDh := P.C.dh keys.xSecret recipientXPublic
  require (isContributory ephemeralDh && isContributory staticDh)
  let context ← attachmentChunkContext attachmentId index keys.nodeId recipientBytes
  let sealed := P.C.aeadEncrypt (chunkKey P.C ephemeralDh staticDh nonce) nonce context plaintext
  return .object [("version", .nat 1), ("attachment_id", .string attachmentId), ("index", .nat index.toNat),
    ("sender_id", .string (hexString keys.nodeId)), ("recipient_id", .string (P.K.lowercase recipientId)),
    ("nonce", .string (hexString nonce)), ("ephemeral_x25519_pub", .string (hexString ephemeralPublic)),
    ("ciphertext", .string (hexString sealed)),
    ("signature", .string (hexString (P.C.edSign keys.edSeed (context ++ nonce ++ ephemeralPublic ++ sealed))))]

/-- The `Int` at this place. -/
def intAt (data : Bytes) (i : Nat) : Int := Int.bmod (beNat ((data.drop i).take 4)) (2 ^ 32)

/-- The id, the index and the transfer of a datagram whose chunk opens. -/
def Phone.acceptedChunk (s : Phone) (data : Bytes) (clock : Clock) : Option (String × Nat × IncomingAttachment) :=
  let index := intAt data 4
  let length := intAt data 8
  if data.length < 12 ∨ 1400 < data.length then none
  else if ¬(2 ≤ length ∧ length ≤ attachmentChunkBytes * 2 + 1000 ∧ (data.length : Int) = 12 + length) then none
  else
    match P.O.parse (data.drop 12) with
    | some (.object fields) =>
      let chunk := Json.object fields
      if optInt P.O chunk "index" (-1) ≠ index then none
      else
        let sender := P.K.lowercase (optString P.K chunk "sender_id" "")
        let id := optString P.K chunk "attachment_id" ""
        match s.incomingAttachments.at? id with
        | none => none
        | some transfer =>
          if transfer.senderId ≠ sender ∨ ¬(0 ≤ index ∧ index < transfer.partFiles.length) ∨
              24 * 60 * 60 * 1000 < (clock.millis : Int) - transfer.createdAt then none
          else
            match openAttachmentChunk P s chunk sender with
            | .ok _ => some (id, index.toNat, transfer)
            | .error _ => none
    | _ => none

/-! ## What the sender seals -/

section Sealed

variable {P} (hdigit : ∀ n : Fin 16, P.O.digit (hexDigit (UInt8.ofNat n)) = some n)

include hdigit in
theorem getHex_hexString {env : Json} {name : String} {bs : Bytes} (h : opt env name = some (.string (hexString bs))) :
    getHex P env name = .ok bs := by
  unfold getHex getString
  rw [h]
  exact hexToBytes_hexString hdigit bs

include hdigit in
/-- A chunk that a contact seals for this phone opens here, if it is as long as chunks are. -/
theorem openAttachmentChunk_sealed (hC : P.C.Correct) (htag : SealsWithTag P.C)
    (hlower : ∀ bs, P.K.lowercase (hexString bs) = hexString bs) (hsame : ∀ a, P.K.sameIgnoringCase a a = true)
    {s : Phone} {seed plaintext nonce eph context : Bytes} {id : String} {index : Nat} {chunk : Json}
    (hindex : index < 2 ^ 31) (hnonce : nonce.length = 12) (heph : eph.length = 32)
    (hcontext : attachmentChunkContext id index (identityKeys P.C seed).nodeId (identityKeys P.C P.seed).nodeId =
      .ok context)
    (hfits : (P.C.aeadEncrypt (chunkKey P.C (P.C.dh eph (identityKeys P.C P.seed).xPublic)
      (P.C.dh (identityKeys P.C seed).xSecret (identityKeys P.C P.seed).xPublic) nonce) nonce context
        plaintext).length ≤ 366)
    (hed : s.getVerifiedPeerEd25519Key P.K (hexString (identityKeys P.C seed).nodeId) =
      some (identityKeys P.C seed).edPublic)
    (hx : s.getVerifiedPeerX25519Key P.K (hexString (identityKeys P.C seed).nodeId) =
      some (identityKeys P.C seed).xPublic)
    (hseal : sealAttachmentChunk { P with seed } id index (hexString (identityKeys P.C P.seed).nodeId)
      (identityKeys P.C P.seed).xPublic plaintext nonce eph = .ok chunk) :
    openAttachmentChunk P s chunk (hexString (identityKeys P.C seed).nodeId) = .ok plaintext := by
  have hxlength : ∀ seed, (identityKeys P.C seed).xSecret.length = 32 := fun _ => hC.hkdf_length _ _ _
  have hedlength : ∀ seed, (identityKeys P.C seed).edSeed.length = 32 := fun _ => hC.hkdf_length _ _ _
  -- what the sender checked, and the chunk it made
  unfold sealAttachmentChunk at hseal
  obtain ⟨_, -, hseal⟩ := thrown_bind_eq_ok.1 hseal
  obtain ⟨recipient, hrecipient, hseal⟩ := thrown_bind_eq_ok.1 hseal
  rw [hexToBytes_hexString hdigit] at hrecipient
  cases hrecipient
  obtain ⟨_, -, hseal⟩ := thrown_bind_eq_ok.1 hseal
  obtain ⟨_, hdh, hseal⟩ := thrown_bind_eq_ok.1 hseal
  obtain ⟨context', hcontext', hseal⟩ := thrown_bind_eq_ok.1 hseal
  rw [hcontext] at hcontext'
  cases hcontext'
  have hchunk := Except.ok.inj hseal
  have hget : ∀ name bs, opt chunk name = some (.string (hexString bs)) → getHex P chunk name = .ok bs :=
    fun name bs => getHex_hexString hdigit
  have hindexOf : getInt P.O chunk "index" = .ok (index : Int) := by
    have hopt : opt chunk "index" = some (.nat index) := by
      rw [← hchunk]
      rfl
    have hlong : index < 2 ^ 63 := by omega
    have hint : toInteger P.O (.nat index) = some (index : Int) := by
      change some (if index < 2 ^ 63 then Int.bmod index (2 ^ 32) else 2 ^ 31 - 1) = _
      rw [if_pos hlong, Int.bmod_eq_of_le (by omega) (by omega)]
    unfold getInt
    rw [hopt, Option.bind_some, hint]
  have hversion : optInt P.O chunk "version" 0 = 1 := by
    rw [← hchunk]
    rfl
  have hattachment : getString P.K.valueOf chunk "attachment_id" = .ok id := by
    rw [← hchunk]
    rfl
  have hsender := hget "sender_id" (identityKeys P.C seed).nodeId (by rw [← hchunk]; rfl)
  have hrecipient := hget "recipient_id" (identityKeys P.C P.seed).nodeId (by
    rw [← hchunk]
    exact congrArg (fun hex => some (Json.string hex)) (hlower _))
  have hnonceOf := hget "nonce" nonce (by rw [← hchunk]; rfl)
  have hephOf := hget "ephemeral_x25519_pub" (P.C.xPublic eph) (by rw [← hchunk]; rfl)
  have hciphertext := hget "ciphertext" (P.C.aeadEncrypt (chunkKey P.C (P.C.dh eph (identityKeys P.C P.seed).xPublic)
    (P.C.dh (identityKeys P.C seed).xSecret (identityKeys P.C P.seed).xPublic) nonce) nonce context plaintext)
    (by rw [← hchunk]; rfl)
  have hsignature := hget "signature" (P.C.edSign (identityKeys P.C seed).edSeed (context ++ nonce ++ P.C.xPublic eph ++
    P.C.aeadEncrypt (chunkKey P.C (P.C.dh eph (identityKeys P.C P.seed).xPublic)
      (P.C.dh (identityKeys P.C seed).xSecret (identityKeys P.C P.seed).xPublic) nonce) nonce context plaintext))
    (by rw [← hchunk]; rfl)
  -- what the receiver checks
  have hephDh : P.C.dh (identityKeys P.C P.seed).xSecret (P.C.xPublic eph) =
      P.C.dh eph (identityKeys P.C P.seed).xPublic := hC.dh_comm _ _ (hxlength _) heph
  have hstaticDh : P.C.dh (identityKeys P.C P.seed).xSecret (identityKeys P.C seed).xPublic =
      P.C.dh (identityKeys P.C seed).xSecret (identityKeys P.C P.seed).xPublic :=
    hC.dh_comm _ _ (hxlength _) (hxlength _)
  have hvalid : P.C.edKeyValid (identityKeys P.C seed).edPublic = true := hC.edPublic_valid _ (hedlength seed)
  have hverify : ∀ m, P.C.edVerify (identityKeys P.C seed).edPublic m (P.C.edSign (identityKeys P.C seed).edSeed m) =
      true := fun m => hC.edVerify_edSign _ m (hedlength seed)
  unfold openAttachmentChunk
  rw [require_bind hversion, hattachment, hindexOf, hsender, hrecipient]
  simp only [hnonceOf, hephOf, hciphertext, hsignature]
  change (require (P.K.sameIgnoringCase (hexString (identityKeys P.C seed).nodeId) _ = true) >>= _) = _
  rw [require_bind (hsame _), require_bind rfl]
  change (require _ >>= _) = _
  rw [require_bind ⟨hnonce, hC.xPublic_length _ heph, hC.edSign_length _ _ (hedlength seed),
    htag _ _ _ _ (hC.hkdf_length _ _ _), hfits⟩]
  rw [hed, hx]
  have hopen := hC.aeadDecrypt_aeadEncrypt (chunkKey P.C (P.C.dh eph (identityKeys P.C P.seed).xPublic)
    (P.C.dh (identityKeys P.C seed).xSecret (identityKeys P.C P.seed).xPublic) nonce) nonce context plaintext
    (hC.hkdf_length _ _ _) hnonce
  simp only [hcontext, hephDh, hstaticDh, hvalid, hverify, thrown_ok_bind, Bool.true_eq_false, if_false]
  rw [require_bind (require_eq_ok.1 hdh), hopen]
  rfl

end Sealed

/-! ## Files -/

/-- What is done to a file. -/
inductive FileOp where
  | write (path : String)
  | delete (path : String)
  | rename (path target : String)
deriving DecidableEq

def FileOp.paths : FileOp → List String
  | .write path => [path]
  | .delete path => [path]
  | .rename path target => [path, target]

/-- What the disk does while a datagram is handled. -/
structure Disk where
  isDir : Folder → Bool
  /-- the operation that fails while a part is stored, if one does -/
  storeFails : Option (Fin 4) := none
  sendsAck : Bool := true
  partsExist : Bool := true
  opensOutput : Bool := true
  /-- what the parts are joined to, if all of them can be opened -/
  assembled : Option Bytes := none

/-- `File(File(filesDir, directory), child)` -/
def inFiles (directory child : String) : String := filesDir ++ "/" ++ directory ++ "/" ++ child

def partPath (id : String) (index : Nat) : String :=
  inFiles filesDir "attachment_parts" (id ++ ("-" ++ toString index ++ ".part"))

def mediaDirectory (K : Kotlin) (manifest : Json) : String :=
  if optString K manifest "media_type" "" = "image" then "media_images" else "media_files"

/-- The name of the output after the id. -/
def outputName (K : Kotlin) (manifest : Json) : String :=
  "_" ++ String.ofList ((Phone.safeName (optString K manifest "file_name" "attachment.bin")).toList.take 160)

def outputPath (K : Kotlin) (id : String) (manifest : Json) : String :=
  inFiles filesDir (mediaDirectory K manifest) (id ++ outputName K manifest)

/-- `writeBytes` and `sealFile` of a part. -/
def storeOps (part : String) : List FileOp :=
  [.write part, .write (part ++ ".tmp"), .delete part, .rename (part ++ ".tmp") part]

/-- What is done of it up to the operation that fails; then the part is deleted. -/
def performedOps (part : String) : Option (Fin 4) → List FileOp
  | none => storeOps part
  | some n => if n.val = 0 then [] else (storeOps part).take n.val ++ [.delete part]

/-- The size and the digest are those of the manifest. -/
def isIntact (manifest : Json) (bytes : Bytes) : Bool :=
  decide ((bytes.length : Int) = optLong P.O manifest "file_size" 0) &&
    hexString (P.C.sha256 bytes) == optString P.K manifest "sha256" ""

namespace Phone

def finishIncomingAttachment (s : Phone) (id : String) (transfer : IncomingAttachment) (x : Surroundings)
    (disk : Disk) : Phone × List FileOp :=
  let s : Phone := { s with incomingAttachments := s.incomingAttachments.erase id }
  let output := outputPath filesDir P.K id transfer.manifest
  if disk.opensOutput = false then (s, [])
  else
    match disk.assembled with
    | none => (s, [.write output])
    | some bytes =>
      if isIntact P transfer.manifest bytes = false then (s, [.write output, .delete output])
      else (s.completeIncomingAttachment transfer.senderId transfer.messageId output x.savesMessages,
        .write output :: transfer.partFiles.reduceOption.map .delete)

/-- After a part is stored, or was before: the acknowledgement, and the end of a transfer that is complete. -/
def afterPart (s : Phone) (id : String) (transfer : IncomingAttachment) (x : Surroundings) (disk : Disk) :
    Phone × List FileOp :=
  if disk.sendsAck && transfer.partFiles.all Option.isSome && disk.partsExist then
    s.finishIncomingAttachment P filesDir id transfer x disk
  else (s, [])

/-- The transfer with one more part. -/
def withPart (transfer : IncomingAttachment) (index : Nat) (part : String) : IncomingAttachment :=
  { transfer with partFiles := transfer.partFiles.set index (some part) }

def handleAttachmentDatagram (s : Phone) (data : Bytes) (x : Surroundings) (disk : Disk) : Phone × List FileOp :=
  match s.acceptedChunk P data x.clock with
  | none => (s, [])
  | some (id, index, transfer) =>
    if transfer.partFiles[index]? = some none then
      let part := partPath filesDir id index
      if disk.storeFails.isSome then (s, performedOps part disk.storeFails)
      else
        let transfer := withPart transfer index part
        let stored : Phone := { s with incomingAttachments := s.incomingAttachments.put id transfer }
        let (s, ops) := stored.afterPart P filesDir id transfer x disk
        (s, performedOps part disk.storeFails ++ ops)
    else s.afterPart P filesDir id transfer x disk

end Phone

/-! ## Runs -/

/-- An opened payload, or a datagram with a chunk. -/
inductive AttachmentEvent where
  | payload (payload : Json) (senderHex : String) (x : Surroundings)
  | datagram (data : Bytes) (x : Surroundings) (disk : Disk)

namespace AttachmentEvent

def step (s : Phone) : AttachmentEvent → Phone
  | payload p senderHex x => s.handleDirectPayload P p senderHex x
  | datagram data x disk => (s.handleAttachmentDatagram P filesDir data x disk).1

/-- The directories that files of attachments belong in. -/
def ownDirectories : List Folder :=
  ["attachment_parts", "media_images", "media_files"].map fun directory =>
    (filesDir.toList.splitOn '/').filter (· ≠ []) ++ [directory.toList]

/-- Every file that is written or deleted lies directly in one of these directories. -/
def OpsInside (disk : Disk) (ops : List FileOp) : Prop :=
  ∀ op ∈ ops, ∀ path ∈ op.paths, LiesIn disk.isDir (ownDirectories filesDir) path.toList

def FilesInside (s : Phone) : AttachmentEvent → Prop
  | payload .. => True
  | datagram data x disk => OpsInside filesDir disk (s.handleAttachmentDatagram P filesDir data x disk).2

/-! ## Ids that lead outside -/

/-- From a directory, the id up to its last slash leads to one of these directories, or nowhere. -/
def LeadsInside (disk : Disk) (directory id : String) : Prop :=
  ∀ dir, directoryOf disk.isDir (inFiles filesDir directory id).toList = some dir → dir ∈ ownDirectories filesDir

/-- The part is stored now, as far as its file is opened. -/
def StoresPart (transfer : IncomingAttachment) (index : Nat) (disk : Disk) : Prop :=
  transfer.partFiles[index]? = some none ∧ ∀ n ∈ disk.storeFails, n.val ≠ 0

/-- With this part the transfer is complete, and the output is opened. -/
def Completes (transfer : IncomingAttachment) (index : Nat) (disk : Disk) : Prop :=
  (transfer.partFiles[index]? = some none → disk.storeFails = none) ∧
    (transfer.partFiles.set index (some "")).all Option.isSome ∧ disk.sendsAck ∧ disk.partsExist ∧ disk.opensOutput

/-- The parts are joined to what the manifest tells, so that they are deleted. -/
def Joins (transfer : IncomingAttachment) (disk : Disk) : Prop :=
  ∃ bytes ∈ disk.assembled, isIntact P transfer.manifest bytes

/-- The id of the transfer leads outside from none of the directories in which a file is named after it. -/
def IdInside (s : Phone) : AttachmentEvent → Prop
  | payload .. => True
  | datagram data x disk =>
    ∀ id index transfer, s.acceptedChunk P data x.clock = some (id, index, transfer) →
      (StoresPart transfer index disk ∨ Completes transfer index disk ∧ Joins P transfer disk →
        LeadsInside filesDir disk "attachment_parts" id) ∧
      (Completes transfer index disk → LeadsInside filesDir disk (mediaDirectory P.K transfer.manifest) id)

/-! ## Names after the id -/

variable {P filesDir} {disk : Disk} {id directory : String}

/-- What may come after the last slash of a path. -/
def IsEnding (ending : String) : Prop :=
  '/' ∉ ending.toList ∧ '\x00' ∉ ending.toList ∧ ∃ c ∈ ending.toList, c ≠ '.'

theorem liesIn_inFiles_iff {ending : String} (h : IsEnding ending) :
    LiesIn disk.isDir (ownDirectories filesDir) (inFiles filesDir directory (id ++ ending)).toList ↔
      LeadsInside filesDir disk directory id := by
  have happend : (inFiles filesDir directory (id ++ ending)).toList =
      (inFiles filesDir directory id).toList ++ ending.toList := by
    simp only [inFiles, String.toList_append, List.append_assoc]
  rw [happend, liesIn_append_iff h.1 h.2.1 h.2.2]
  rfl

theorem not_mem_toString {c : Char} (hc : ∀ d : Fin 16, Nat.digitChar d ≠ c) (n : Nat) : c ∉ (toString n).toList := by
  rw [Nat.toString_eq_ofList_toDigits, String.toList_ofList]
  exact not_mem_toDigits (by decide) (by decide) hc n

theorem isEnding_part (index : Nat) : IsEnding ("-" ++ toString index ++ ".part") := by
  have hslash := not_mem_toString (c := '/') (by decide) index
  have hzero := not_mem_toString (c := '\x00') (by decide) index
  unfold IsEnding
  simp only [String.toList_append, List.mem_append]
  refine ⟨?_, ?_, '-', .inl (.inl (by decide)), by decide⟩
  · rintro ((h | h) | h)
    · exact absurd h (by decide)
    · exact hslash h
    · exact absurd h (by decide)
  · rintro ((h | h) | h)
    · exact absurd h (by decide)
    · exact hzero h
    · exact absurd h (by decide)

theorem IsEnding.tmp {ending : String} (h : IsEnding ending) : IsEnding (ending ++ ".tmp") := by
  obtain ⟨hslash, hzero, c, hc, hdot⟩ := h
  unfold IsEnding
  simp only [String.toList_append, List.mem_append, not_or]
  exact ⟨⟨hslash, by decide⟩, ⟨hzero, by decide⟩, c, .inl hc, hdot⟩

theorem not_mem_safeName {c : Char} (hc : (c.isAlphanum || c == '.' || c == '_' || c == '-') = false) (hlow : c ≠ '_')
    (rawName : String) : c ∉ (Phone.safeName rawName).toList := by
  unfold Phone.safeName
  rw [String.toList_ofList]
  intro h
  obtain ⟨d, -, rfl⟩ := List.mem_map.1 h
  split at hc
  · rename_i hd
    rw [hd] at hc
    cases hc
  · rename_i hd
    rw [if_neg hd] at hlow
    exact hlow rfl

theorem isEnding_outputName (K : Kotlin) (manifest : Json) : IsEnding (outputName K manifest) := by
  unfold IsEnding outputName
  simp only [String.toList_append, String.toList_ofList, List.mem_append, not_or]
  refine ⟨⟨by decide, fun h => ?_⟩, ⟨by decide, fun h => ?_⟩, '_', .inl (by decide), by decide⟩
  · exact not_mem_safeName (by decide) (by decide) _ (List.mem_of_mem_take h)
  · exact not_mem_safeName (by decide) (by decide) _ (List.mem_of_mem_take h)

/-! ## The files of an event -/

theorem opsInside_append {ops ops' : List FileOp} :
    OpsInside filesDir disk (ops ++ ops') ↔ OpsInside filesDir disk ops ∧ OpsInside filesDir disk ops' :=
  List.forall_mem_append

/-- Where a part and the file it is sealed to lie. -/
theorem liesIn_part (index : Nat) :
    (LiesIn disk.isDir (ownDirectories filesDir) (partPath filesDir id index).toList ↔
      LeadsInside filesDir disk "attachment_parts" id) ∧
    (LiesIn disk.isDir (ownDirectories filesDir) (partPath filesDir id index ++ ".tmp").toList ↔
      LeadsInside filesDir disk "attachment_parts" id) := by
  have htmp : partPath filesDir id index ++ ".tmp" =
      inFiles filesDir "attachment_parts" (id ++ ("-" ++ toString index ++ ".part" ++ ".tmp")) := by
    simp only [partPath, inFiles, String.append_assoc]
  rw [htmp]
  exact ⟨liesIn_inFiles_iff (isEnding_part index), liesIn_inFiles_iff (isEnding_part index).tmp⟩

theorem opsInside_performedOps (index : Nat) (fails : Option (Fin 4)) :
    OpsInside filesDir disk (performedOps (partPath filesDir id index) fails) ↔
      ((∀ n ∈ fails, n.val ≠ 0) → LeadsInside filesDir disk "attachment_parts" id) := by
  have hpart : LiesIn disk.isDir (ownDirectories filesDir) (partPath filesDir id index).toList ↔
      LeadsInside filesDir disk "attachment_parts" id := (liesIn_part index).1
  have htmp : LiesIn disk.isDir (ownDirectories filesDir) (partPath filesDir id index ++ ".tmp").toList ↔
      LeadsInside filesDir disk "attachment_parts" id := (liesIn_part index).2
  have hpaths : ∀ op ∈ storeOps (partPath filesDir id index) ++ [.delete (partPath filesDir id index)],
      ∀ path ∈ op.paths, path = partPath filesDir id index ∨ path = partPath filesDir id index ++ ".tmp" := by
    simp [storeOps, FileOp.paths]
  have hall : LeadsInside filesDir disk "attachment_parts" id → ∀ ops,
      ops ⊆ storeOps (partPath filesDir id index) ++ [.delete (partPath filesDir id index)] →
        OpsInside filesDir disk ops := by
    intro hinside ops hops op hop path hpath
    rcases hpaths op (hops hop) path hpath with rfl | rfl
    · exact hpart.2 hinside
    · exact htmp.2 hinside
  cases fails with
  | none =>
    constructor
    · intro h _
      exact hpart.1 (h _ List.mem_cons_self _ (List.mem_singleton_self _))
    · intro h
      exact hall (h (by simp)) _ (List.subset_append_left _ _)
  | some n =>
    unfold performedOps
    dsimp only
    by_cases hn : n.val = 0
    · rw [if_pos hn]
      exact ⟨fun _ h => absurd hn (h n rfl), fun _ op hop => absurd hop List.not_mem_nil⟩
    · rw [if_neg hn]
      constructor
      · intro h _
        exact hpart.1 (h _ (List.mem_append_right _ (List.mem_singleton_self _)) _ (List.mem_singleton_self _))
      · intro h
        have hinside := h fun m hm => by
          obtain rfl := Option.mem_some_iff.1 hm
          exact hn
        exact hall hinside _ (List.append_subset.2
          ⟨List.Subset.trans (List.take_subset _ _) (List.subset_append_left _ _), List.subset_append_right _ _⟩)

/-! ## The files of a step -/

/-- The files of the parts of a transfer are named after its id. -/
def PartsNamed (filesDir id : String) (transfer : IncomingAttachment) : Prop :=
  ∀ part, some part ∈ transfer.partFiles → ∃ index, part = partPath filesDir id index

theorem opsInside_finish {s : Phone} {transfer : IncomingAttachment} {x : Surroundings}
    (hnamed : PartsNamed filesDir id transfer) (hparts : ∃ part, some part ∈ transfer.partFiles) :
    OpsInside filesDir disk (s.finishIncomingAttachment P filesDir id transfer x disk).2 ↔
      (disk.opensOutput = true → LeadsInside filesDir disk (mediaDirectory P.K transfer.manifest) id ∧
        (Joins P transfer disk → LeadsInside filesDir disk "attachment_parts" id)) := by
  have houtput : LiesIn disk.isDir (ownDirectories filesDir) (outputPath filesDir P.K id transfer.manifest).toList ↔
      LeadsInside filesDir disk (mediaDirectory P.K transfer.manifest) id :=
    liesIn_inFiles_iff (isEnding_outputName P.K transfer.manifest)
  have hwrite : ∀ ops, (∀ op ∈ ops, op = .delete (outputPath filesDir P.K id transfer.manifest)) →
      (OpsInside filesDir disk (.write (outputPath filesDir P.K id transfer.manifest) :: ops) ↔
        LeadsInside filesDir disk (mediaDirectory P.K transfer.manifest) id) := by
    intro ops hops
    rw [← houtput]
    constructor
    · exact fun h => h _ List.mem_cons_self _ (List.mem_singleton_self _)
    · intro h op hop path hpath
      rcases List.mem_cons.1 hop with rfl | hop
      · rwa [List.mem_singleton.1 hpath]
      · rw [hops op hop] at hpath
        rwa [List.mem_singleton.1 hpath]
  have hdeletes : OpsInside filesDir disk (transfer.partFiles.reduceOption.map .delete) ↔
      LeadsInside filesDir disk "attachment_parts" id := by
    constructor
    · intro h
      obtain ⟨part, hpart⟩ := hparts
      obtain ⟨index, rfl⟩ := hnamed part hpart
      exact (liesIn_part index).1.1 (h _ (List.mem_map.2 ⟨_, List.reduceOption_mem_iff.2 hpart, rfl⟩) _
        (List.mem_singleton_self _))
    · intro h op hop path hpath
      obtain ⟨part, hpart, rfl⟩ := List.mem_map.1 hop
      obtain ⟨index, rfl⟩ := hnamed part (List.reduceOption_mem_iff.1 hpart)
      rw [List.mem_singleton.1 hpath]
      exact (liesIn_part index).1.2 h
  have hnone : OpsInside filesDir disk [] := fun op hop => absurd hop List.not_mem_nil
  unfold Phone.finishIncomingAttachment Joins
  dsimp only
  cases disk.opensOutput with
  | false => simp [hnone]
  | true =>
    rw [if_neg (by simp)]
    cases disk.assembled with
    | none =>
      rw [hwrite [] (by simp)]
      simp
    | some bytes =>
      dsimp only
      split
      · rename_i hintact
        rw [hwrite _ (by simp)]
        simp [hintact]
      · rename_i hintact
        have hpair : OpsInside filesDir disk (.write (outputPath filesDir P.K id transfer.manifest) ::
            transfer.partFiles.reduceOption.map .delete) ↔
            LeadsInside filesDir disk (mediaDirectory P.K transfer.manifest) id ∧
              LeadsInside filesDir disk "attachment_parts" id := by
          rw [← hdeletes, ← hwrite [] (by simp)]
          exact List.forall_mem_cons.trans (Iff.and (by simp [OpsInside]) Iff.rfl)
        rw [hpair]
        simp [hintact]

theorem acceptedChunk_eq_some {s : Phone} {data : Bytes} {clock : Clock} {index : Nat} {transfer : IncomingAttachment}
    (h : s.acceptedChunk P data clock = some (id, index, transfer)) :
    s.incomingAttachments.at? id = some transfer ∧ index < transfer.partFiles.length := by
  unfold Phone.acceptedChunk at h
  dsimp only at h
  split at h
  · cases h
  split at h
  · cases h
  split at h
  · split at h
    · cases h
    split at h
    · cases h
    · rename_i t ht
      split at h
      · cases h
      · rename_i hnot
        split at h
        · simp only [Option.some.injEq, Prod.mk.injEq] at h
          obtain ⟨rfl, rfl, rfl⟩ := h
          refine ⟨ht, ?_⟩
          simp only [not_or, not_not] at hnot
          omega
        · cases h
  · cases h

theorem all_isSome_set {l : List (Option String)} {i : Nat} (a b : String) :
    (l.set i (some a)).all Option.isSome = (l.set i (some b)).all Option.isSome := by
  induction l generalizing i with
  | nil => rfl
  | cons x l ih =>
    cases i with
    | zero => rfl
    | succ i => rw [List.set_cons_succ, List.set_cons_succ, List.all_cons, List.all_cons, ih]

/-- What comes after a part is stored, or was before. -/
theorem opsInside_afterPart {s : Phone} {transfer : IncomingAttachment} {x : Surroundings}
    (hnamed : PartsNamed filesDir id transfer) (hparts : 0 < transfer.partFiles.length) :
    OpsInside filesDir disk (s.afterPart P filesDir id transfer x disk).2 ↔
      (transfer.partFiles.all Option.isSome = true ∧ disk.sendsAck = true ∧ disk.partsExist = true ∧
        disk.opensOutput = true → LeadsInside filesDir disk (mediaDirectory P.K transfer.manifest) id ∧
          (Joins P transfer disk → LeadsInside filesDir disk "attachment_parts" id)) := by
  unfold Phone.afterPart
  split
  · rename_i hgoes
    simp only [Bool.and_eq_true] at hgoes
    obtain ⟨⟨hack, hall⟩, hexist⟩ := hgoes
    have hsome : ∃ part, some part ∈ transfer.partFiles := by
      have hmem := List.getElem_mem hparts
      obtain ⟨part, hpart⟩ := Option.isSome_iff_exists.1 (List.all_eq_true.1 hall _ hmem)
      exact ⟨part, hpart ▸ hmem⟩
    rw [opsInside_finish hnamed hsome]
    simp [hack, hall, hexist]
  · rename_i hgoes
    constructor
    · rintro - ⟨hall, hack, hexist, -⟩
      exact absurd (by simp [hall, hack, hexist]) hgoes
    · intro _ op hop
      exact absurd hop List.not_mem_nil

theorem partsNamed_withPart {transfer : IncomingAttachment} {index : Nat} (h : PartsNamed filesDir id transfer) :
    PartsNamed filesDir id (Phone.withPart transfer index (partPath filesDir id index)) := by
  intro part hpart
  rcases List.mem_or_eq_of_mem_set hpart with hold | hnew
  · exact h part hold
  · exact ⟨index, Option.some.inj hnew⟩

/-- All transfers name the files of their parts. -/
def AllNamed (filesDir : String) (s : Phone) : Prop :=
  ∀ id transfer, s.incomingAttachments.at? id = some transfer → PartsNamed filesDir id transfer

theorem opsInside_accepted {s : Phone} {data : Bytes} {x : Surroundings} {index : Nat} {transfer : IncomingAttachment}
    (haccepted : s.acceptedChunk P data x.clock = some (id, index, transfer)) (hnamed : PartsNamed filesDir id transfer)
    (hindex : index < transfer.partFiles.length) :
    OpsInside filesDir disk (s.handleAttachmentDatagram P filesDir data x disk).2 ↔
      (StoresPart transfer index disk ∨ Completes transfer index disk ∧ Joins P transfer disk →
        LeadsInside filesDir disk "attachment_parts" id) ∧
      (Completes transfer index disk → LeadsInside filesDir disk (mediaDirectory P.K transfer.manifest) id) := by
  unfold Phone.handleAttachmentDatagram StoresPart Completes
  rw [haccepted]
  dsimp only
  by_cases hmissing : transfer.partFiles[index]? = some none
  · rw [if_pos hmissing]
    cases hfails : disk.storeFails with
    | some n =>
      rw [if_pos Option.isSome_some, opsInside_performedOps]
      simp [hmissing]
    | none =>
      have hset := all_isSome_set (l := transfer.partFiles) (i := index) (partPath filesDir id index) ""
      have hlength : 0 < (Phone.withPart transfer index (partPath filesDir id index)).partFiles.length := by
        rw [Phone.withPart, List.length_set]
        omega
      have hjoins : Joins P (Phone.withPart transfer index (partPath filesDir id index)) disk ↔ Joins P transfer disk :=
        Iff.rfl
      rw [if_neg (by simp), opsInside_append, opsInside_performedOps,
        opsInside_afterPart (partsNamed_withPart hnamed) hlength, hjoins]
      have hnone : ∀ n ∈ (none : Option (Fin 4)), n.val ≠ 0 := fun n hn => by cases hn
      simp only [Phone.withPart, hset, hmissing, true_and, forall_const]
      constructor
      · exact fun h => ⟨fun _ => h.1 hnone, fun hcompletes => (h.2 hcompletes).1⟩
      · exact fun h => ⟨fun _ => h.1 (.inl hnone), fun hcompletes => ⟨h.2 hcompletes, fun _ => h.1 (.inl hnone)⟩⟩
  · have hpresent : (transfer.partFiles.set index (some "")).all Option.isSome =
        transfer.partFiles.all Option.isSome := by
      cases hpart : transfer.partFiles[index] with
      | none => exact absurd (by rw [List.getElem?_eq_getElem hindex, hpart]) hmissing
      | some part =>
        rw [all_isSome_set "" part, ← hpart, List.set_getElem_self]
    rw [if_neg hmissing, opsInside_afterPart hnamed (by omega), hpresent]
    simp only [hmissing, false_and, false_or, false_implies, true_and]
    constructor
    · exact fun h => ⟨fun hjoins => (h hjoins.1).2 hjoins.2, fun hcompletes => (h hcompletes).1⟩
    · exact fun h hcompletes => ⟨h.2 hcompletes, fun hjoins => h.1 ⟨hcompletes, hjoins⟩⟩

theorem filesInside_iff {s : Phone} (hs : AllNamed filesDir s) (e : AttachmentEvent) :
    FilesInside P filesDir s e ↔ IdInside P filesDir s e := by
  cases e with
  | payload p senderHex x => exact Iff.rfl
  | datagram data x disk =>
    cases haccepted : s.acceptedChunk P data x.clock with
    | none =>
      have hnothing : (s.handleAttachmentDatagram P filesDir data x disk).2 = [] := by
        unfold Phone.handleAttachmentDatagram
        rw [haccepted]
      unfold FilesInside IdInside
      simp [hnothing, haccepted, OpsInside]
    | some accepted =>
      obtain ⟨id, index, transfer⟩ := accepted
      obtain ⟨htransfer, hindex⟩ := acceptedChunk_eq_some haccepted
      have hiff := @opsInside_accepted _ _ disk _ _ _ _ _ _ haccepted (hs id transfer htransfer) hindex
      constructor
      · intro h id' index' transfer' h'
        rw [haccepted] at h'
        cases h'
        exact hiff.1 h
      · exact fun h => hiff.2 (h id index transfer haccepted)

/-! ## Over a run -/

theorem AllNamed.of_eq {s t : Phone} (hs : AllNamed filesDir s) (h : t.incomingAttachments = s.incomingAttachments) :
    AllNamed filesDir t := by
  unfold AllNamed
  rw [h]
  exact hs

theorem AllNamed.put {s t : Phone} {transfer : IncomingAttachment} (hs : AllNamed filesDir s)
    (hnamed : PartsNamed filesDir id transfer)
    (h : t.incomingAttachments = s.incomingAttachments.put id transfer) : AllNamed filesDir t := by
  intro id' transfer' htransfer
  rw [h, KeyedMap.at?_put] at htransfer
  split at htransfer
  · rename_i heq
    cases htransfer
    exact heq ▸ hnamed
  · exact hs id' transfer' htransfer

theorem AllNamed.erase {s t : Phone} (hs : AllNamed filesDir s)
    (h : t.incomingAttachments = s.incomingAttachments.erase id) : AllNamed filesDir t := by
  intro id' transfer' htransfer
  rw [h, KeyedMap.at?_erase] at htransfer
  split at htransfer
  · cases htransfer
  · exact hs id' transfer' htransfer

theorem allNamed_handleDirectPayload {s : Phone} (hs : AllNamed filesDir s) (payload : Json) (senderHex : String)
    (x : Surroundings) : AllNamed filesDir (s.handleDirectPayload P payload senderHex x) := by
  unfold Phone.handleDirectPayload
  dsimp only
  split
  · exact hs
  split
  · split
    · exact hs.of_eq (congrArg Engine.incomingAttachments (Phone.engine_handleDeliveryReceipt ..))
    · exact hs
  split
  · split
    · exact hs.of_eq (Phone.besideCalls_handleCallSignal ..).incomingAttachments
    · exact hs
  split
  · split
    · rename_i manifest hmanifest
      rcases Phone.incomingAttachments_handleManifest P s payload manifest (clean P.K senderHex)
        (optString P.K payload "id" "") x with hsame | ⟨id, count, -, hput⟩
      · exact hs.of_eq hsame
      · exact hs.put (fun part hpart => absurd (List.eq_of_mem_replicate hpart) (by simp)) hput
    · exact hs
  · exact hs.of_eq (congrArg Engine.incomingAttachments (Phone.engine_handleMessage ..))

theorem allNamed_afterPart {s : Phone} (hs : AllNamed filesDir s) (transfer : IncomingAttachment) (x : Surroundings) :
    AllNamed filesDir (s.afterPart P filesDir id transfer x disk).1 := by
  unfold Phone.afterPart Phone.finishIncomingAttachment
  split
  · dsimp only
    split
    · exact hs.erase rfl
    split
    · exact hs.erase rfl
    split
    · exact hs.erase rfl
    · exact hs.erase (congrArg Engine.incomingAttachments (Phone.engine_completeIncomingAttachment ..))
  · exact hs

theorem allNamed_step {s : Phone} (hs : AllNamed filesDir s) (e : AttachmentEvent) :
    AllNamed filesDir (e.step P filesDir s) := by
  cases e with
  | payload p senderHex x => exact allNamed_handleDirectPayload hs p senderHex x
  | datagram data x disk =>
    change AllNamed filesDir (s.handleAttachmentDatagram P filesDir data x disk).1
    unfold Phone.handleAttachmentDatagram
    cases haccepted : s.acceptedChunk P data x.clock with
    | none => exact hs
    | some accepted =>
      obtain ⟨id, index, transfer⟩ := accepted
      have hnamed := hs id transfer (acceptedChunk_eq_some haccepted).1
      dsimp only
      split
      · split
        · exact hs
        · exact allNamed_afterPart (hs.put (partsNamed_withPart hnamed) rfl) _ x
      · exact allNamed_afterPart hs transfer x

/-- In a run that starts without transfers, the files of attachments stay in their directories exactly if no id of an
attachment whose parts come leads outside. -/
theorem run_filesInside_iff (s : Phone) (es : List AttachmentEvent) :
    Steps (fun s e => step P filesDir s e) (FilesInside P filesDir) { s with incomingAttachments := ∅ } es ↔
      Steps (fun s e => step P filesDir s e) (IdInside P filesDir) { s with incomingAttachments := ∅ } es := by
  have hnamed : AllNamed filesDir { s with incomingAttachments := ∅ } := fun id transfer htransfer => by cases htransfer
  exact steps_iff_of_invariant (fun s e hs => filesInside_iff hs e) (fun s e hs _ => allNamed_step hs e) es hnamed

end AttachmentEvent

/-! ## An id with two dots -/

/-- The only contact stays the only one. -/
theorem Phone.contacts_receiveIncomingMessage {K : Kotlin} {me : String} {s : Phone} {c : NodeContact} {m : ChatMessage}
    {saves : Bool}
    (hs : s.contacts = [c]) (hc : K.sameIgnoringCase c.userIdHex (clean K m.senderIdHex) = true) :
    (s.receiveIncomingMessage K me m saves).1.contacts = [c] := by
  have htouched : (s.touchContact K (clean K m.senderIdHex) m.senderIdHex).contacts = [c] := by
    unfold Phone.touchContact Phone.contact?
    simp [hs, hc]
  unfold Phone.receiveIncomingMessage
  dsimp only
  split_ifs
  iterate 3 exact hs
  all_goals exact htouched

/-- A part that is missing is written first. -/
theorem Phone.write_mem_datagram {s : Phone} {data : Bytes} {x : Surroundings} {disk : Disk} {id : String} {index : Nat}
    {t : IncomingAttachment} (haccepted : s.acceptedChunk P data x.clock = some (id, index, t))
    (hmissing : t.partFiles[index]? = some none) (hstored : disk.storeFails = none) :
    .write (partPath filesDir id index) ∈ (s.handleAttachmentDatagram P filesDir data x disk).2 := by
  unfold Phone.handleAttachmentDatagram
  rw [haccepted]
  dsimp only
  rw [if_pos hmissing, hstored]
  exact List.mem_append_left _ List.mem_cons_self

theorem ok_of_isSome {α : Type} {x : Except Thrown α} {d : α} (h : x.toOption.isSome = true) :
    x = .ok (x.toOption.getD d) := by
  cases x with
  | error e => cases h
  | ok v => rfl

theorem object_of_opt {v : Json} {name : String} (h : (opt v name).isSome = true) : ∃ fields, v = .object fields := by
  cases v with
  | object fields => exact ⟨fields, rfl⟩
  | _ => cases h

namespace BobsPhone

open NodeX.Sample Messenger.Sample

def filesOfApp : String := "/data/user/0/network.nodex.messenger/files"

/-- A file of one byte. -/
def manifest : Json :=
  .object [("version", .nat 1), ("attachment_id", .string "../nodex"), ("media_type", .string "file"),
    ("file_name", .string "a.txt"), ("file_size", .nat 1), ("chunk_size", .nat 350), ("chunk_count", .nat 1),
    ("sha256", .string (hexString (Crypto.transparent.sha256 [65])))]

def aliceSeed : Bytes := List.replicate 32 9

/-- Alice's own phone. -/
def accountOfAlice : Account := { account (fun _ => none) with seed := aliceSeed, localNodeIdHex := alice.userIdHex }

def partNonce : Bytes := List.replicate 12 2

def partEph : Bytes := List.replicate 32 1

def chunk : Json :=
  ((sealAttachmentChunk accountOfAlice "../nodex" 0 bob.userIdHex bob.x25519Public [65] partNonce
    partEph).toOption).getD .null

def partContext : Bytes :=
  (attachmentChunkContext "../nodex" 0 (identityKeys .transparent aliceSeed).nodeId
    (identityKeys .transparent bobSeed).nodeId).toOption.getD []

def partSealed : Bytes :=
  Crypto.transparent.aeadEncrypt (chunkKey .transparent (Crypto.transparent.dh partEph bob.x25519Public)
    (Crypto.transparent.dh (identityKeys .transparent aliceSeed).xSecret bob.x25519Public) partNonce) partNonce
      partContext [65]

/-- A text of hex in quotes. -/
def quotedHex (bs : Bytes) : Bytes :=
  utf8 "\"" ++ bs.flatMap (fun (b : UInt8) => [hexByte (b >>> 4), hexByte (b &&& 15)]) ++ utf8 "\""

def chunkText : Bytes :=
  jsonObject [("version", utf8 "1"), ("attachment_id", jsonString "../nodex"), ("index", utf8 "0"),
    ("sender_id", quotedHex (identityKeys .transparent aliceSeed).nodeId),
    ("recipient_id", quotedHex (identityKeys .transparent bobSeed).nodeId), ("nonce", quotedHex partNonce),
    ("ephemeral_x25519_pub", quotedHex (Crypto.transparent.xPublic partEph)), ("ciphertext", quotedHex partSealed),
    ("signature", quotedHex (Crypto.transparent.edSign (identityKeys .transparent aliceSeed).edSeed
      (partContext ++ partNonce ++ Crypto.transparent.xPublic partEph ++ partSealed)))]

def chunkDatagram : Bytes := [0x4E, 0x58, 0x41, 0x54] ++ toBe 4 0 ++ toBe 4 chunkText.length ++ chunkText

/-- Bob's phone, which reads the text of the chunk. -/
def receiver : Account :=
  { account (fun _ => none) with
    O := { emptyObject with parse := fun bytes => if bytes = chunkText then some chunk else none } }

def aliceContact : NodeContact where
  userIdHex := alice.userIdHex
  ed25519PublicKeyHex := hexString (identityKeys .transparent aliceSeed).edPublic
  x25519PublicKeyHex := hexString (identityKeys .transparent aliceSeed).xPublic
  isIdentityVerified := true

/-- Nothing fails, and these are the directories. -/
def disk : Disk where
  isDir folder := folder.isPrefixOf ((filesOfApp ++ "/attachment_parts").toList.splitOn '/').tail

def announced : AttachmentEvent :=
  .payload (.object [("id", .string "m1"), ("attachment_manifest", manifest)]) alice.userIdHex
    { clock := clockAfter 1 (by decide) }

def delivered : AttachmentEvent := .datagram chunkDatagram { clock := clockAfter 2 (by decide) } disk

/-- The file of the part, next to the directory of parts. -/
def outsidePart : Folder :=
  [['d', 'a', 't', 'a'], ['u', 's', 'e', 'r'], ['0'], "network.nodex.messenger".toList, ['f', 'i', 'l', 'e', 's'],
    "nodex-0.part".toList]

theorem placeOf_part : placeOf disk.isDir (partPath filesOfApp "../nodex" 0).toList = some outsidePart := by
  decide

/-- Both clients derive the same identity from a seed. -/
theorem userIdHex_fromSeed (C : Crypto) (seed : Bytes) :
    (UserIdentity.fromSeed C seed).userIdHex = hexString (identityKeys C seed).nodeId := rfl

theorem x25519Public_fromSeed (C : Crypto) (seed : Bytes) :
    (UserIdentity.fromSeed C seed).x25519Public = (identityKeys C seed).xPublic := rfl

def aliceHex : String := hexString (identityKeys .transparent aliceSeed).nodeId

theorem sealAttachmentChunk_receiver (id : String) (index : Int) (recipientId : String)
    (xPublic plaintext nonce eph : Bytes) :
    sealAttachmentChunk { receiver with seed := aliceSeed } id index recipientId xPublic plaintext nonce eph =
      sealAttachmentChunk accountOfAlice id index recipientId xPublic plaintext nonce eph := rfl

/-- What is read of the chunk and of its datagram. -/
theorem read_chunk :
    (sealAttachmentChunk accountOfAlice "../nodex" 0 bob.userIdHex bob.x25519Public [65] partNonce
        partEph).toOption.isSome = true ∧
      (optInt receiver.O chunk "index" (-1) = 0 ∧ optString receiver.K chunk "sender_id" "" = aliceHex ∧
        optString receiver.K chunk "attachment_id" "" = "../nodex" ∧ (opt chunk "version").isSome = true) ∧
      chunkDatagram.length = 12 + chunkText.length ∧ (2 ≤ chunkText.length ∧ chunkText.length ≤ 1388) ∧
      (intAt chunkDatagram 4 = 0 ∧ intAt chunkDatagram 8 = chunkText.length) ∧ chunkDatagram.drop 12 = chunkText := by
  decide +kernel

/-- The keys of Alice's contact are read back, and her id is that of another peer. -/
theorem read_aliceContact :
    Phone.keyOfHex receiver.K aliceContact.ed25519PublicKeyHex = some (identityKeys .transparent aliceSeed).edPublic ∧
      Phone.keyOfHex receiver.K aliceContact.x25519PublicKeyHex = some (identityKeys .transparent aliceSeed).xPublic ∧
      (Phone.isNoPeer aliceHex || receiver.K.sameIgnoringCase aliceHex receiver.localNodeIdHex) = false := by
  decide +kernel

theorem seal_chunk : sealAttachmentChunk { receiver with seed := aliceSeed } "../nodex" 0
    (hexString (identityKeys .transparent bobSeed).nodeId) (identityKeys .transparent bobSeed).xPublic [65] partNonce
      partEph = .ok chunk := by
  have hbob : bob.userIdHex = hexString (identityKeys .transparent bobSeed).nodeId := userIdHex_fromSeed .transparent _
  have hxPublic : bob.x25519Public = (identityKeys .transparent bobSeed).xPublic := x25519Public_fromSeed .transparent _
  rw [sealAttachmentChunk_receiver, ← hbob, ← hxPublic]
  exact ok_of_isSome read_chunk.1

theorem context_part : attachmentChunkContext "../nodex" 0 (identityKeys .transparent aliceSeed).nodeId
    (identityKeys .transparent bobSeed).nodeId = .ok partContext := by
  refine ok_of_isSome ?_
  decide

theorem userIdHex_alice : alice.userIdHex = aliceHex := userIdHex_fromSeed .transparent aliceSeed

theorem keys_aliceContact {s : Phone} (hs : s.contacts = [aliceContact]) :
    s.getVerifiedPeerEd25519Key receiver.K aliceHex = some (identityKeys .transparent aliceSeed).edPublic ∧
      s.getVerifiedPeerX25519Key receiver.K aliceHex = some (identityKeys .transparent aliceSeed).xPublic := by
  have hfound : s.contact? receiver.K aliceHex = some aliceContact := by
    unfold Phone.contact?
    rw [hs, ← userIdHex_alice]
    exact List.find?_cons_of_pos (beq_self_eq_true _)
  have hverified : aliceContact.isIdentityVerified = true := rfl
  unfold Phone.getVerifiedPeerEd25519Key Phone.getVerifiedPeerX25519Key
  rw [hfound, Option.bind_some, Option.bind_some, if_pos hverified, if_pos hverified]
  exact ⟨read_aliceContact.1, read_aliceContact.2.1⟩

theorem open_chunk {s : Phone} (hs : s.contacts = [aliceContact]) :
    openAttachmentChunk receiver s chunk aliceHex = .ok [65] := by
  obtain ⟨hed, hx⟩ := keys_aliceContact hs
  have hfits : (Crypto.transparent.aeadEncrypt (chunkKey .transparent
      (Crypto.transparent.dh partEph (identityKeys .transparent bobSeed).xPublic)
      (Crypto.transparent.dh (identityKeys .transparent aliceSeed).xSecret
        (identityKeys .transparent bobSeed).xPublic) partNonce) partNonce partContext [65]).length ≤ 366 := by
    decide
  exact openAttachmentChunk_sealed (by decide) Crypto.transparent_correct sealsWithTag_transparent lowercase_hex
    (fun _ => beq_self_eq_true _) (Nat.two_pow_pos 31) List.length_replicate List.length_replicate context_part hfits
    hed hx seal_chunk

def start : Phone := { contacts := [aliceContact] }

theorem clean_aliceHex : clean receiver.K aliceHex = aliceHex := clean_hex ..

theorem step_announced : announced.step receiver filesOfApp start =
    start.handleManifest receiver (.object [("id", .string "m1"), ("attachment_manifest", manifest)]) manifest aliceHex
      "m1" { clock := clockAfter 1 (by decide) } := by
  have hstep : announced.step receiver filesOfApp start = start.handleDirectPayload receiver
      (.object [("id", .string "m1"), ("attachment_manifest", manifest)]) alice.userIdHex
        { clock := clockAfter 1 (by decide) } := rfl
  rw [hstep, userIdHex_alice]
  unfold Phone.handleDirectPayload
  rw [clean_aliceHex]
  dsimp only
  rw [read_aliceContact.2.2, if_neg Bool.false_ne_true, if_neg (by decide), if_neg (by decide), if_pos (by decide)]
  rfl

theorem checkManifest_manifest : (Phone.checkManifest receiver manifest) = .ok ("../nodex", 1, 1) := by
  rfl

theorem hasRoom_start : start.hasRoom receiver 1 = true := by
  decide

theorem afterAnnounced : (announced.step receiver filesOfApp start).contacts = [aliceContact] ∧
    (announced.step receiver filesOfApp start).incomingAttachments.at? "../nodex" =
      some ⟨aliceHex, "m1", manifest, [none], 101000⟩ := by
  rw [step_announced]
  unfold Phone.handleManifest
  rw [checkManifest_manifest]
  dsimp only
  rw [hasRoom_start, if_neg Bool.noConfusion, if_neg (by decide)]
  refine ⟨Phone.contacts_receiveIncomingMessage rfl ?_, ?_⟩
  · change receiver.K.sameIgnoringCase alice.userIdHex (clean receiver.K aliceHex) = true
    rw [clean_aliceHex, userIdHex_alice]
    exact beq_self_eq_true _
  · rw [Phone.incomingAttachments_receiveIncomingMessage]
    rfl

theorem parse_receiver (bytes : Bytes) :
    receiver.O.parse bytes = if bytes = chunkText then some chunk else none := rfl

theorem acceptedChunk_delivered : (announced.step receiver filesOfApp start).acceptedChunk receiver chunkDatagram
    (clockAfter 2 (by decide)) = some ("../nodex", 0, ⟨aliceHex, "m1", manifest, [none], 101000⟩) := by
  obtain ⟨hcontacts, hat⟩ := afterAnnounced
  obtain ⟨-, ⟨hindexOf, hsender, hid, hversion⟩, hlength, ⟨hlow, hhigh⟩, ⟨hindex, hsize⟩, hdrop⟩ := read_chunk
  have hparse : receiver.O.parse (chunkDatagram.drop 12) = some chunk := by
    rw [hdrop, parse_receiver, if_pos rfl]
  obtain ⟨fields, hfields⟩ := object_of_opt hversion
  have hmost : Phone.attachmentChunkBytes = 350 := rfl
  unfold Phone.acceptedChunk
  rw [hindex, hsize, if_neg (by omega), if_neg (by omega), hparse, hfields]
  dsimp only
  rw [← hfields, hindexOf, hid, hsender, hat, if_neg (not_not.2 rfl)]
  dsimp only
  have hlower : receiver.K.lowercase aliceHex = aliceHex := lowercase_hex _
  rw [hlower, open_chunk hcontacts, if_neg ?_]
  · rfl
  · rintro (h | h | h)
    · exact h rfl
    · exact h ⟨le_rfl, Int.zero_lt_one⟩
    · exact absurd h (by decide)

theorem write_mem_delivered :
    .write (partPath filesOfApp "../nodex" 0) ∈
      ((announced.step receiver filesOfApp { contacts := [aliceContact] }).handleAttachmentDatagram receiver filesOfApp
        chunkDatagram { clock := clockAfter 2 (by decide) } disk).2 := by
  exact Phone.write_mem_datagram receiver filesOfApp (x := { clock := clockAfter 2 (by decide) })
    acceptedChunk_delivered rfl rfl

end BobsPhone

open BobsPhone in
/-- A part of Alice's attachment is written beside the directory of parts. -/
theorem AttachmentEvent.run_filesInside_dots :
    ¬Steps (fun s e => step receiver filesOfApp s e) (FilesInside receiver filesOfApp) { contacts := [aliceContact] }
      [announced, delivered] := by
  rintro ⟨-, hdelivered, -⟩
  obtain ⟨dir, hdir, name, hplace⟩ :=
    hdelivered _ write_mem_delivered _ (List.mem_singleton_self _) outsidePart placeOf_part
  have hparent := congrArg List.dropLast hplace
  rw [List.dropLast_concat] at hparent
  rw [← hparent] at hdir
  exact absurd hdir (by decide)

end NodeX.Android
