/-
Attachments between two phones (`sendChunkedAttachment`, `sendAttachmentWindow`, `handleAttachmentDatagram`): parts go
out in windows of 32, each part up to four times, and the next window waits for the acknowledgements of this one.
-/
import NodeX.Lib.Windowed
import NodeX.Android.Acks
import NodeX.Android.CallAudio

namespace NodeX.Android

open NodeX.Lib Messenger AndroidMessageCrypto

variable (P : Account) (filesDir : String)

/-! ## The sender -/

/-- An attachment that another phone sends to this one, with what it draws for each part and what it makes of it. -/
structure Outgoing where
  seed : Bytes
  id : String
  mediaType : String
  fileName : String
  file : Bytes
  nonces : Nat → Bytes
  ephemerals : Nat → Bytes
  chunks : Nat → Json
  size : 1 ≤ file.length ∧ file.length ≤ 20 * 1024 * 1024
  nonce_length : ∀ i, (nonces i).length = 12
  ephemeral_length : ∀ i, (ephemerals i).length = 32
  sealed : ∀ i < (file.length + 349) / 350,
    sealAttachmentChunk { P with seed } id i (hexString (identityKeys P.C P.seed).nodeId)
      (identityKeys P.C P.seed).xPublic ((file.drop (350 * i)).take 350) (nonces i) (ephemerals i) = .ok (chunks i)

namespace Outgoing

variable {P} (O : Outgoing P)

def chunkCount : Nat := (O.file.length + 349) / 350

def piece (i : Nat) : Bytes := (O.file.drop (350 * i)).take 350

def senderHex : String := hexString (identityKeys P.C O.seed).nodeId

def manifest : Json :=
  .object [("version", .nat 1), ("attachment_id", .string O.id), ("media_type", .string O.mediaType),
    ("file_name", .string O.fileName), ("file_size", .nat O.file.length),
    ("mime_type", .string (if O.mediaType = "image" then "image/jpeg" else "application/octet-stream")),
    ("chunk_size", .nat 350), ("chunk_count", .nat O.chunkCount), ("sha256", .string (hexString (P.C.sha256 O.file)))]

def windows : List (List Nat) := chunked 32 (List.range O.chunkCount)

def datagram (i : Nat) : Bytes := partDatagram P i (O.chunks i)

/-- `complete` on what waits under the key. -/
def acknowledge (s : Windowed Nat) (key : String) : Windowed Nat :=
  match s.window.find? fun i : Nat => ackKey O.id i = key with
  | some i => s.acknowledge i
  | none => s

end Outgoing

/-! ## Both phones -/

/-- What the part of a datagram opens to. -/
def Phone.opensTo (s : Phone) (data : Bytes) : Bytes :=
  match P.O.parse (data.drop 12) with
  | some chunk =>
    ((openAttachmentChunk P s chunk (P.K.lowercase (optString P.K chunk "sender_id" ""))).toOption).getD []
  | none => []

/-- The first parts as one, if they are there. -/
def joined (parts : Nat → Option Bytes) : Nat → Option Bytes
  | 0 => some []
  | n + 1 => (joined parts n).bind fun front => (parts n).map (front ++ ·)

/-- The transfer of one attachment at the sender, and the receiver. -/
structure Exchange where
  sender : Windowed Nat
  receiver : Phone := {}
  /-- what was last stored as each part -/
  parts : Nat → Option Bytes := fun _ => none
  /-- the acknowledgements that the receiver sent -/
  acks : List Bytes := []
  /-- what the receiver completed the attachment with -/
  files : List Bytes := []

/-- A turn of the sender, what reaches either phone, and a change that the receiver's repository makes on its own. What
a datagram finds on the disk when it completes the attachment are the parts, if they can be opened. -/
inductive ExchangeEvent where
  | turn
  | payload (payload : Json) (senderHex : String) (x : Surroundings)
  | datagram (data : Bytes) (x : Surroundings) (disk : Disk)
  | ack (phone : Phone) (data : Bytes)
  | change (f : Phone → Phone) (keeps : ∀ s, (f s).incomingAttachments = s.incomingAttachments)

namespace Exchange

/-- The parts after this one was accepted. -/
def partsAfter (P : Account) (s : Exchange) (index : Nat) (transfer : IncomingAttachment) (data : Bytes) (disk : Disk) :
    Nat → Option Bytes :=
  if Slots.stores transfer index disk = true then
    Function.update s.parts index (some (s.receiver.opensTo P data))
  else s.parts

/-- The disk with the parts on it, if they can be opened. -/
def diskWith (parts : Nat → Option Bytes) (count : Nat) (disk : Disk) : Disk :=
  { disk with assembled := disk.assembled.bind fun _ => joined parts count }

/-- A part of the attachment that is accepted. -/
def takePart (s : Exchange) (index : Nat) (transfer : IncomingAttachment) (data : Bytes) (x : Surroundings)
    (disk : Disk) : Exchange :=
  let parts := s.partsAfter P index transfer data disk
  let disk := diskWith parts transfer.partFiles.length disk
  { s with
    receiver := (s.receiver.handleAttachmentDatagram P filesDir data x disk).1
    parts
    acks := (s.receiver.ackOf P data x.clock disk).toList ++ s.acks
    files := if finishedBy P filesDir s.receiver (.datagram data x disk) = [] then s.files
      else disk.assembled.toList ++ s.files }

variable {P} (O : Outgoing P) (s : Exchange)

def start (phone : Phone) : Exchange := { sender := { rest := O.windows }, receiver := phone }

def takeDatagram (data : Bytes) (x : Surroundings) (disk : Disk) : Exchange :=
  match s.receiver.acceptedChunk P data x.clock with
  | none => s
  | some (id, index, transfer) =>
    if id = O.id then s.takePart P filesDir index transfer data x disk
    else
      { s with
        receiver := (s.receiver.handleAttachmentDatagram P filesDir data x disk).1
        acks := (s.receiver.ackOf P data x.clock disk).toList ++ s.acks }

def takeAck (phone : Phone) (data : Bytes) : Exchange :=
  match phone.takenAck (P.peer O.seed) data with
  | some key => { s with sender := O.acknowledge s.sender key }
  | none => s

def step : ExchangeEvent → Exchange
  | .turn => { s with sender := (s.sender.turn 4).1 }
  | .payload payload senderHex x => { s with receiver := s.receiver.handleDirectPayload P payload senderHex x }
  | .datagram data x disk => s.takeDatagram filesDir O data x disk
  | .ack phone data => s.takeAck O phone data
  | .change f _ => { s with receiver := f s.receiver }

/-- Nobody but the sender announces or seals anything under the id, and nobody but the receiver acknowledges it. -/
def Genuine : ExchangeEvent → Prop
  | .payload payload senderHex _ => s.receiver.opened P payload senderHex = some O.id →
      getObject payload "attachment_manifest" = .ok O.manifest
  | .datagram data x _ => ∀ index transfer, s.receiver.acceptedChunk P data x.clock = some (O.id, index, transfer) →
      (∃ i < O.chunkCount, data = O.datagram i) ∧
        s.receiver.getVerifiedPeerEd25519Key P.K O.senderHex = some (identityKeys P.C O.seed).edPublic ∧
        s.receiver.getVerifiedPeerX25519Key P.K O.senderHex = some (identityKeys P.C O.seed).xPublic
  | .ack phone data => ∀ i < O.chunkCount, phone.takenAck (P.peer O.seed) data = some (ackKey O.id i) → data ∈ s.acks
  | _ => True

/-- What has been stored is of the file, and all that the table, the acknowledgements and the sender tell of has been
stored. -/
structure Sound : Prop where
  right : ∀ i bytes, s.parts i = some bytes → bytes = O.piece i
  length : ∀ t, s.receiver.incomingAttachments.at? O.id = some t → t.partFiles.length = O.chunkCount
  stored : ∀ t, s.receiver.incomingAttachments.at? O.id = some t → ∀ i path, t.partFiles[i]? = some (some path) →
    (s.parts i).isSome
  acked : ∀ data ∈ s.acks, ∀ (phone : Phone) (i : Nat),
    phone.takenAck (P.peer O.seed) data = some (ackKey O.id i) → (s.parts i).isSome
  covers : Windowed.Covers (fun i => (s.parts i).isSome) (List.range O.chunkCount) s.sender
  files : ∀ bytes ∈ s.files, bytes = O.file

end Exchange

/-! ## The receiver -/

section Receiver

variable {P filesDir} {s : Phone} {id : String} {t : IncomingAttachment} {x : Surroundings}

/-- What opens a transfer: a manifest in order, which the transfer is of. -/
theorem handleDirectPayload_of_opened {payload : Json} {senderHex : String}
    (h : s.opened P payload senderHex = some id) :
    ∃ manifest size count, getObject payload "attachment_manifest" = .ok manifest ∧
      Phone.checkManifest P manifest = .ok (id, size, count) ∧
      (s.handleDirectPayload P payload senderHex x).incomingAttachments = s.incomingAttachments.put id
        ⟨clean P.K senderHex, optString P.K payload "id" "", manifest, List.replicate count none, x.clock.millis⟩ := by
  unfold Phone.opened Phone.announced at h
  by_cases hpeer : Phone.isFromPeer P senderHex = true
  swap
  · rw [if_neg hpeer] at h
    cases h
  rw [if_pos hpeer] at h
  by_cases hother : (has payload "delivery_receipt" || has payload "call_signal") = true
  · rw [if_pos hother] at h
    cases h
  rw [if_neg hother] at h
  cases hobject : getObject payload "attachment_manifest" with
  | error e =>
    rw [hobject] at h
    cases h
  | ok manifest =>
    rw [hobject] at h
    dsimp only at h
    cases hcheck : Phone.checkManifest P manifest with
    | error e =>
      rw [hcheck] at h
      cases h
    | ok checked =>
      obtain ⟨id', size, count⟩ := checked
      rw [hcheck] at h
      dsimp only at h
      by_cases hroom : (s.hasRoom P size && (s.incomingAttachments.get? id').isNone) = true
      swap
      · rw [if_neg hroom] at h
        cases h
      rw [if_pos hroom] at h
      obtain rfl := Option.some.inj h
      refine ⟨manifest, size, count, rfl, hcheck, ?_⟩
      have hmanifest : has payload "attachment_manifest" = true := by
        unfold getObject at hobject
        unfold has
        cases hopt : opt payload "attachment_manifest" with
        | none =>
          rw [hopt] at hobject
          cases hobject
        | some v => rfl
      unfold Phone.isFromPeer at hpeer
      rw [Bool.not_eq_true', Bool.or_eq_false_iff] at hpeer
      rw [Bool.not_eq_true, Bool.or_eq_false_iff] at hother
      rw [Bool.and_eq_true] at hroom
      unfold Phone.handleDirectPayload
      simp only [hpeer.1, hpeer.2, hother.1, hother.2, hmanifest, hobject, Bool.or_self, Bool.false_eq_true, if_false,
        if_true]
      unfold Phone.handleManifest
      rw [hcheck]
      dsimp only
      rw [if_neg (by rw [hroom.1]; simp), if_neg (by simpa [Option.isSome_iff_ne_none] using hroom.2)]
      exact Phone.incomingAttachments_receiveIncomingMessage ..

/-- A transfer after a payload was there before, or is new and of the manifest. -/
theorem at?_handleDirectPayload {payload : Json} {senderHex : String}
    (ht : (s.handleDirectPayload P payload senderHex x).incomingAttachments.at? id = some t) :
    s.incomingAttachments.at? id = some t ∨ s.opened P payload senderHex = some id ∧
      ∃ manifest size count, getObject payload "attachment_manifest" = .ok manifest ∧
        Phone.checkManifest P manifest = .ok (id, size, count) ∧ t.partFiles = List.replicate count none := by
  have htable := tableStep_payload (P := P) (s := s) payload senderHex x
  cases hopened : s.opened P payload senderHex with
  | none =>
    rw [hopened] at htable
    cases htable with
    | same hsame =>
      rw [hsame] at ht
      exact .inl ht
  | some id' =>
    obtain ⟨manifest, size, count, hobject, hcheck, hput⟩ := handleDirectPayload_of_opened (x := x) hopened
    rw [hput, KeyedMap.at?_put] at ht
    by_cases hid : id' = id
    · rw [if_pos hid] at ht
      obtain rfl := Option.some.inj ht
      subst hid
      exact .inr ⟨rfl, manifest, size, count, hobject, hcheck, rfl⟩
    · rw [if_neg hid] at ht
      exact .inl ht

/-- A transfer after a part was there before, or got this part. -/
theorem at?_handleAttachmentDatagram {data : Bytes} {disk : Disk}
    (ht : (s.handleAttachmentDatagram P filesDir data x disk).1.incomingAttachments.at? id = some t) :
    s.incomingAttachments.at? id = some t ∨
      ∃ index before, s.acceptedChunk P data x.clock = some (id, index, before) ∧
        Slots.stores before index disk = true ∧ t = Phone.withPart before index (partPath filesDir id index) := by
  have hafter : ∀ (s : Phone) (id' : String) (t' : IncomingAttachment),
      (s.afterPart P filesDir id' t' x disk).1.incomingAttachments.at? id = some t →
        s.incomingAttachments.at? id = some t := by
    intro s id' t' h
    rw [Slots.incomingAttachments_afterPart] at h
    split at h
    · rw [KeyedMap.at?_erase] at h
      split at h
      · cases h
      · exact h
    · exact h
  unfold Phone.handleAttachmentDatagram at ht
  cases haccepted : s.acceptedChunk P data x.clock with
  | none =>
    rw [haccepted] at ht
    exact .inl ht
  | some accepted =>
    obtain ⟨id', index, before⟩ := accepted
    rw [haccepted] at ht
    dsimp only at ht
    by_cases hmissing : before.partFiles[index]? = some none
    swap
    · rw [if_neg hmissing] at ht
      exact .inl (hafter _ _ _ ht)
    rw [if_pos hmissing] at ht
    by_cases hfails : disk.storeFails.isSome = true
    · rw [if_pos hfails] at ht
      exact .inl ht
    rw [if_neg hfails] at ht
    have hput := hafter _ _ _ ht
    dsimp only at hput
    rw [KeyedMap.at?_put] at hput
    by_cases hid : id' = id
    · rw [if_pos hid] at hput
      subst hid
      refine .inr ⟨index, before, rfl, ?_, (Option.some.inj hput).symm⟩
      unfold Slots.stores
      rw [hmissing, Bool.and_eq_true]
      exact ⟨decide_eq_true rfl, by simpa using hfails⟩
    · rw [if_neg hid] at hput
      exact .inl hput

/-- The number of a part fits an `Int`. -/
theorem index_lt_of_acceptedChunk {data : Bytes} {clock : Clock} {index : Nat}
    (h : s.acceptedChunk P data clock = some (id, index, t)) : index < 2 ^ 31 := by
  have hlt : intAt data 4 < 2 ^ 31 := by
    unfold intAt
    exact Int.bmod_lt (by decide)
  unfold Phone.acceptedChunk at h
  dsimp only at h
  split at h
  · cases h
  split at h
  · cases h
  split at h
  swap
  · cases h
  split at h
  · cases h
  split at h
  · cases h
  split at h
  · cases h
  split at h
  swap
  · cases h
  simp only [Option.some.injEq, Prod.mk.injEq] at h
  obtain ⟨-, rfl, -⟩ := h
  omega

end Receiver

/-! ## Parts of the attachment -/

namespace Outgoing

variable {P} {O : Outgoing P} {s : Phone} {x : Surroundings}

theorem chunkCount_le : O.chunkCount < 2 ^ 31 := by
  have h := O.size.2
  unfold chunkCount
  omega

theorem windows_flatten : O.windows.flatten = List.range O.chunkCount := flatten_chunked (by decide) _

theorem count_of_checkManifest {id : String} {size : Int} {count : Nat}
    (h : Phone.checkManifest P O.manifest = .ok (id, size, count)) : count = O.chunkCount := by
  have hint : getInt P.O O.manifest "chunk_count" = .ok (O.chunkCount : Int) := by
    have hlt := O.chunkCount_le
    have hinteger : toInteger P.O (.nat O.chunkCount) = some (O.chunkCount : Int) := by
      change some (if O.chunkCount < 2 ^ 63 then Int.bmod O.chunkCount (2 ^ 32) else 2 ^ 31 - 1) = _
      rw [if_pos (by omega), Int.bmod_eq_of_le (by omega) (by omega)]
    have hopt : opt O.manifest "chunk_count" = some (.nat O.chunkCount) := rfl
    unfold getInt
    rw [hopt, Option.bind_some, hinteger]
  unfold Phone.checkManifest at h
  obtain ⟨_, -, h⟩ := thrown_bind_eq_ok.1 h
  obtain ⟨_, -, h⟩ := thrown_bind_eq_ok.1 h
  obtain ⟨n, hn, h⟩ := thrown_bind_eq_ok.1 h
  rw [hint] at hn
  obtain rfl := Except.ok.inj hn
  obtain ⟨_, -, h⟩ := thrown_bind_eq_ok.1 h
  obtain ⟨_, -, h⟩ := thrown_bind_eq_ok.1 h
  obtain ⟨_, -, h⟩ := thrown_bind_eq_ok.1 h
  obtain ⟨_, -, h⟩ := thrown_bind_eq_ok.1 h
  obtain ⟨_, -, h⟩ := thrown_bind_eq_ok.1 h
  cases h
  exact Int.toNat_natCast _

/-- The parts make the file. -/
theorem joined_eq {parts : Nat → Option Bytes} (hright : ∀ i bytes, parts i = some bytes → bytes = O.piece i) :
    ∀ (n : Nat) {bytes : Bytes}, joined parts n = some bytes → bytes = O.file.take (350 * n)
  | 0, bytes, h => by
    cases h
    simp
  | n + 1, bytes, h => by
    obtain ⟨front, hfront, h⟩ := Option.bind_eq_some_iff.1 h
    obtain ⟨last, hlast, rfl⟩ := Option.map_eq_some_iff.1 h
    rw [joined_eq hright n hfront, hright n last hlast, Nat.mul_succ, List.take_add]
    rfl

theorem take_chunkCount : O.file.take (350 * O.chunkCount) = O.file := by
  refine List.take_of_length_le ?_
  unfold chunkCount
  omega

theorem tells (hi : i < O.chunkCount) : Says (O.chunks i) O.id i (identityKeys P.C O.seed).nodeId :=
  says_sealAttachmentChunk (O.sealed i hi)

/-- What is accepted of a part of the attachment. -/
theorem acceptedChunk_datagram (hP : Platform P) {i : Nat} (hi : i < O.chunkCount) {clock : Clock} {id : String}
    {index : Nat} {t : IncomingAttachment} (h : s.acceptedChunk P (O.datagram i) clock = some (id, index, t)) :
    id = O.id ∧ index = i := by
  have hlt := O.chunkCount_le
  unfold datagram at h
  rw [acceptedChunk_partDatagram hP (tells hi) (hP.chunk _ _ _ _ _ _ _ _ _ (O.sealed i hi)) (by omega)] at h
  split at h
  swap
  · cases h
  split at h
  · cases h
  split at h
  · cases h
  split at h
  · cases h
    exact ⟨rfl, rfl⟩
  · cases h

theorem context (hP : Platform P) {i : Nat} (hi : i < O.chunkCount) :
    ∃ context, attachmentChunkContext O.id i (identityKeys P.C O.seed).nodeId (identityKeys P.C P.seed).nodeId =
      .ok context := by
  have h := O.sealed i hi
  unfold sealAttachmentChunk at h
  obtain ⟨_, -, h⟩ := thrown_bind_eq_ok.1 h
  obtain ⟨recipient, hrecipient, h⟩ := thrown_bind_eq_ok.1 h
  rw [hexToBytes_hexString hP.digit] at hrecipient
  obtain rfl := Except.ok.inj hrecipient
  obtain ⟨_, -, h⟩ := thrown_bind_eq_ok.1 h
  obtain ⟨_, -, h⟩ := thrown_bind_eq_ok.1 h
  obtain ⟨context, hcontext, -⟩ := thrown_bind_eq_ok.1 h
  exact ⟨context, hcontext⟩

theorem length_piece_le (i : Nat) : (O.piece i).length ≤ 350 := List.length_take_le ..

/-- A part opens, and to what was sealed. -/
theorem open_chunks (hP : Platform P) (hC : P.C.Correct) {i : Nat} (hi : i < O.chunkCount)
    (hed : s.getVerifiedPeerEd25519Key P.K O.senderHex = some (identityKeys P.C O.seed).edPublic)
    (hx : s.getVerifiedPeerX25519Key P.K O.senderHex = some (identityKeys P.C O.seed).xPublic) :
    openAttachmentChunk P s (O.chunks i) O.senderHex = .ok (O.piece i) := by
  have hlt := O.chunkCount_le
  have hlength := O.length_piece_le i
  obtain ⟨context, hcontext⟩ := O.context hP hi
  have htag : SealsWithTag P.C := by
    intro key nonce ad plaintext hkey
    rw [hP.tag key nonce ad plaintext hkey]
    omega
  have hfits : ∀ ephemeralDh staticDh nonce ad : Bytes,
      (P.C.aeadEncrypt (chunkKey P.C ephemeralDh staticDh nonce) nonce ad (O.piece i)).length ≤ 366 := by
    intro ephemeralDh staticDh nonce ad
    unfold chunkKey
    rw [hP.tag _ nonce ad _ (hC.hkdf_length _ _ _)]
    omega
  exact openAttachmentChunk_sealed hP.digit hC htag hP.lowercase hP.same (by omega) (O.nonce_length i)
    (O.ephemeral_length i) hcontext (hfits _ _ _ _) hed hx (O.sealed i hi)

/-- A part of a transfer under way is accepted, if its text is of a length that is read. -/
theorem acceptedChunk_eq (hP : Platform P) (hC : P.C.Correct) {i : Nat} (hi : i < O.chunkCount) {clock : Clock}
    {t : IncomingAttachment} (hat : s.incomingAttachments.at? O.id = some t) (hsender : t.senderId = O.senderHex)
    (hlength : t.partFiles.length = O.chunkCount) (hage : (clock.millis : Int) - t.createdAt ≤ 24 * 60 * 60 * 1000)
    (hed : s.getVerifiedPeerEd25519Key P.K O.senderHex = some (identityKeys P.C O.seed).edPublic)
    (hx : s.getVerifiedPeerX25519Key P.K O.senderHex = some (identityKeys P.C O.seed).xPublic)
    (hfits : 2 ≤ (P.O.print (O.chunks i)).length ∧ (P.O.print (O.chunks i)).length ≤ 1388) :
    s.acceptedChunk P (O.datagram i) clock = some (O.id, i, t) := by
  have hlt : i < 2 ^ 31 := hi.trans O.chunkCount_le
  have hopen := open_chunks hP hC hi hed hx
  unfold datagram
  rw [acceptedChunk_partDatagram hP (tells hi) (hP.chunk _ _ _ _ _ _ _ _ _ (O.sealed i hi)) hlt, if_pos hfits, hat]
  dsimp only
  rw [if_neg, ← senderHex, hopen]
  rintro (hother | hindex | hlate)
  · exact hother hsender
  · exact hindex (hlength ▸ hi)
  · omega

theorem opensTo_datagram (hP : Platform P) (hC : P.C.Correct) {i : Nat} (hi : i < O.chunkCount)
    (hed : s.getVerifiedPeerEd25519Key P.K O.senderHex = some (identityKeys P.C O.seed).edPublic)
    (hx : s.getVerifiedPeerX25519Key P.K O.senderHex = some (identityKeys P.C O.seed).xPublic) :
    s.opensTo P (O.datagram i) = O.piece i := by
  have hparse : P.O.parse ((O.datagram i).drop 12) = some (O.chunks i) := by
    have hdrop : (O.datagram i).drop 12 = P.O.print (O.chunks i) := by
      unfold datagram partDatagram
      dsimp only
      rw [List.drop_left']
      simp
    rw [hdrop]
    exact hP.chunk _ _ _ _ _ _ _ _ _ (O.sealed i hi)
  have hsender : P.K.lowercase (optString P.K (O.chunks i) "sender_id" "") = O.senderHex := by
    rw [optString_string (tells hi).senderId, hP.lowercase]
    rfl
  unfold Phone.opensTo
  rw [hparse]
  dsimp only
  rw [hsender, open_chunks hP hC hi hed hx]
  rfl

end Outgoing

/-! ## Steps -/

namespace Exchange

variable {P} {filesDir} {O : Outgoing P} {s : Exchange}

/-- What is sent as an acknowledgement was made for the part that was accepted. -/
theorem ackOf_eq_some {r : Phone} {data ack : Bytes} {clock : Clock} {disk : Disk}
    (h : r.ackOf P data clock disk = some ack) :
    ∃ id index t json, r.acceptedChunk P data clock = some (id, index, t) ∧
      (t.partFiles[index]? = some none → disk.storeFails = none) ∧
      createAttachmentAck P id index t.senderId = .ok json ∧ ack = ackDatagram P json := by
  unfold Phone.ackOf at h
  cases haccepted : r.acceptedChunk P data clock with
  | none =>
    rw [haccepted] at h
    cases h
  | some accepted =>
    obtain ⟨id, index, t⟩ := accepted
    rw [haccepted] at h
    dsimp only at h
    by_cases hfails : t.partFiles[index]? = some none ∧ disk.storeFails.isSome = true
    · rw [if_pos hfails] at h
      cases h
    rw [if_neg hfails] at h
    by_cases hsends : disk.sendsAck = false
    · rw [if_pos hsends] at h
      cases h
    rw [if_neg hsends] at h
    obtain ⟨json, hjson, rfl⟩ := Option.map_eq_some_iff.1 h
    refine ⟨id, index, t, json, rfl, fun hmissing => ?_, ?_, rfl⟩
    · by_contra hsome
      exact hfails ⟨hmissing, Option.isSome_iff_ne_none.2 hsome⟩
    · cases hcreated : createAttachmentAck P id index t.senderId with
      | error e =>
        rw [hcreated] at hjson
        cases hjson
      | ok json' =>
        rw [hcreated] at hjson
        exact congrArg Except.ok (Option.some.inj hjson)

/-- The acknowledgement of a part that is stored, or was before, is sent. -/
theorem mem_acks_takeDatagram {data : Bytes} {x : Surroundings} {disk : Disk} {index : Nat} {t : IncomingAttachment}
    {json : Json} (haccepted : s.receiver.acceptedChunk P data x.clock = some (O.id, index, t))
    (hstores : disk.storeFails = none) (hsends : disk.sendsAck = true)
    (hjson : createAttachmentAck P O.id index t.senderId = .ok json) :
    ackDatagram P json ∈ (s.takeDatagram filesDir O data x disk).acks := by
  have hack : ∀ disk' : Disk, disk'.storeFails = none → disk'.sendsAck = true →
      s.receiver.ackOf P data x.clock disk' = some (ackDatagram P json) := by
    intro disk' hstores hsends
    unfold Phone.ackOf
    rw [haccepted]
    dsimp only
    rw [if_neg (by simp [hstores]), if_neg (by simp [hsends]), hjson]
    rfl
  unfold takeDatagram
  rw [haccepted]
  dsimp only
  rw [if_pos rfl]
  refine List.mem_append_left _ (Option.mem_toList.2 ?_)
  exact hack _ hstores hsends

/-- A part that is accepted and acknowledged is stored. -/
theorem isSome_parts_delivered {data : Bytes} {x : Surroundings} {disk : Disk} {index : Nat} {t : IncomingAttachment}
    (haccepted : s.receiver.acceptedChunk P data x.clock = some (O.id, index, t))
    (hstores : Slots.stores t index disk = true) (phone : Phone) (ack : Bytes) :
    ((run (step filesDir O) s [.turn, .datagram data x disk, .ack phone ack, .turn]).parts index).isSome = true := by
  have hack : ∀ s : Exchange, (s.takeAck O phone ack).parts = s.parts := by
    intro s
    unfold takeAck
    split <;> rfl
  show ((takeAck O (takeDatagram filesDir O { s with sender := (s.sender.turn 4).1 } data x disk) phone ack).parts
    index).isSome = true
  rw [hack]
  unfold takeDatagram
  rw [haccepted]
  dsimp only
  rw [if_pos rfl]
  show (partsAfter P { s with sender := (s.sender.turn 4).1 } index t data disk index).isSome = true
  unfold partsAfter
  rw [if_pos hstores, Function.update_self, Option.isSome_some]

/-- An acknowledgement completes nothing but the part that it was made for. -/
theorem takenAck_of_created (hP : Platform P) {id : String} {index : Nat} {recipientId : String} {json : Json}
    (hjson : createAttachmentAck P id index recipientId = .ok json) (hindex : index < 2 ^ 31) {phone : Phone}
    {seed : Bytes} {id' : String} {i : Nat}
    (h : phone.takenAck (P.peer seed) (ackDatagram P json) = some (ackKey id' i)) : id = id' ∧ index = i := by
  rw [takenAck_ackDatagram hP (says_createAttachmentAck hjson) (hP.ack _ _ _ _ hjson) hindex] at h
  split at h
  swap
  · cases h
  split at h
  · cases h
  split at h
  swap
  · cases h
  exact ackKey_inj (Option.some.inj h)

theorem sound_start {phone : Phone} (hphone : ∀ t, phone.incomingAttachments.at? O.id = some t →
    t.partFiles = List.replicate O.chunkCount none) : (start O phone).Sound O where
  right i bytes h := by cases h
  length t ht := by rw [hphone t ht, List.length_replicate]
  stored t ht i path hpath := by
    rw [hphone t ht] at hpath
    cases List.eq_of_mem_replicate (List.mem_of_getElem? hpath)
  acked data h := by cases h
  covers := by
    rw [← O.windows_flatten]
    exact Windowed.covers_start _
  files bytes h := by cases h

theorem sound_turn (hs : s.Sound O) : (s.step filesDir O .turn).Sound O :=
  { hs with covers := hs.covers.turn 4 }

theorem sound_payload (hs : s.Sound O) {payload : Json} {senderHex : String} {x : Surroundings}
    (hok : s.Genuine O (.payload payload senderHex x)) :
    (s.step filesDir O (.payload payload senderHex x)).Sound O := by
  have hnew : ∀ t, (s.receiver.handleDirectPayload P payload senderHex x).incomingAttachments.at? O.id = some t →
      s.receiver.incomingAttachments.at? O.id = some t ∨ t.partFiles = List.replicate O.chunkCount none := by
    intro t ht
    rcases at?_handleDirectPayload ht with hold | ⟨hopened, manifest, size, count, hobject, hcheck, hparts⟩
    · exact .inl hold
    · rw [hok hopened] at hobject
      obtain rfl := Except.ok.inj hobject
      rw [O.count_of_checkManifest hcheck] at hparts
      exact .inr hparts
  refine { hs with length := fun t ht => ?_, stored := fun t ht i path hpath => ?_ }
  · rcases hnew t ht with hold | hparts
    · exact hs.length t hold
    · rw [hparts, List.length_replicate]
  · rcases hnew t ht with hold | hparts
    · exact hs.stored t hold i path hpath
    · rw [hparts] at hpath
      cases List.eq_of_mem_replicate (List.mem_of_getElem? hpath)

theorem sound_ack (hs : s.Sound O) {phone : Phone} {data : Bytes} (hok : s.Genuine O (.ack phone data)) :
    (s.step filesDir O (.ack phone data)).Sound O := by
  show (s.takeAck O phone data).Sound O
  unfold takeAck
  cases htaken : phone.takenAck (P.peer O.seed) data with
  | none => exact hs
  | some key =>
    refine { hs with covers := ?_ }
    show Windowed.Covers _ _ (O.acknowledge s.sender key)
    unfold Outgoing.acknowledge
    cases hfind : s.sender.window.find? fun i : Nat => ackKey O.id i = key with
    | none => exact hs.covers
    | some i =>
      have hkey : ackKey O.id i = key := by simpa using List.find?_some hfind
      have hmem : i ∈ List.range O.chunkCount := hs.covers.within i (.inl (List.mem_of_find?_eq_some hfind))
      subst hkey
      exact hs.covers.acknowledge (hs.acked data (hok i (List.mem_range.1 hmem) htaken) phone i htaken)

theorem partsAfter_isSome {index : Nat} {t : IncomingAttachment} {data : Bytes} {disk : Disk} {i : Nat}
    (h : (s.parts i).isSome) : (s.partsAfter P index t data disk i).isSome := by
  unfold partsAfter
  split
  · rw [Function.update_apply]
    split
    · rfl
    · exact h
  · exact h

theorem sound_part (hP : Platform P) (hC : P.C.Correct) (hs : s.Sound O) {data : Bytes} {x : Surroundings} {disk : Disk}
    (hok : s.Genuine O (.datagram data x disk)) {index : Nat} {t : IncomingAttachment}
    (haccepted : s.receiver.acceptedChunk P data x.clock = some (O.id, index, t)) :
    (s.takePart P filesDir index t data x disk).Sound O := by
  obtain ⟨⟨i, hi, rfl⟩, hed, hx⟩ := hok index t haccepted
  obtain ⟨-, rfl⟩ := Outgoing.acceptedChunk_datagram hP hi haccepted
  obtain ⟨hat, hindex⟩ := AttachmentEvent.acceptedChunk_eq_some haccepted
  have hplain := Outgoing.opensTo_datagram hP hC hi hed hx
  have hright : ∀ j bytes, s.partsAfter P index t (O.datagram index) disk j = some bytes → bytes = O.piece j := by
    intro j bytes hbytes
    unfold partsAfter at hbytes
    split at hbytes
    · rw [Function.update_apply] at hbytes
      split at hbytes
      · rename_i hj
        rw [hj, ← hplain]
        exact (Option.some.inj hbytes).symm
      · exact hs.right j bytes hbytes
    · exact hs.right j bytes hbytes
  -- once the part is accepted it is stored, or was before
  have hnow : (t.partFiles[index]? = some none → disk.storeFails = none) →
      (s.partsAfter P index t (O.datagram index) disk index).isSome := by
    intro hstored
    by_cases hmissing : t.partFiles[index]? = some none
    · have hstores : Slots.stores t index disk = true := by
        unfold Slots.stores
        rw [hstored hmissing, Bool.and_eq_true]
        exact ⟨decide_eq_true hmissing, rfl⟩
      unfold partsAfter
      rw [if_pos hstores, Function.update_self]
      rfl
    · obtain ⟨path, hpath⟩ : ∃ path, t.partFiles[index]? = some (some path) := by
        rw [List.getElem?_eq_getElem hindex] at hmissing ⊢
        obtain ⟨path, hpath⟩ := Option.ne_none_iff_exists'.1 fun h => hmissing (congrArg some h)
        exact ⟨path, congrArg some hpath⟩
      exact partsAfter_isSome (hs.stored t hat index path hpath)
  have htable : ∀ disk' t', (s.receiver.handleAttachmentDatagram P filesDir (O.datagram index) x
      disk').1.incomingAttachments.at? O.id = some t' → disk'.storeFails = disk.storeFails →
        s.receiver.incomingAttachments.at? O.id = some t' ∨ Slots.stores t index disk = true ∧
          t' = Phone.withPart t index (partPath filesDir O.id index) := by
    intro disk' t' ht' hsame
    rcases at?_handleAttachmentDatagram ht' with hold | ⟨index', before, haccepted', hstores, rfl⟩
    · exact .inl hold
    · rw [haccepted] at haccepted'
      cases haccepted'
      unfold Slots.stores at hstores ⊢
      rw [hsame] at hstores
      exact .inr ⟨hstores, rfl⟩
  refine ⟨hright, fun t' ht' => ?_, fun t' ht' j path hpath => ?_, fun ack hack phone j htaken => ?_,
    hs.covers.mono fun j hj => partsAfter_isSome hj, fun bytes hbytes => ?_⟩
  · rcases htable _ t' ht' rfl with hold | ⟨-, rfl⟩
    · exact hs.length t' hold
    · exact (List.length_set ..).trans (hs.length t hat)
  · rcases htable _ t' ht' rfl with hold | ⟨hstores, rfl⟩
    · exact partsAfter_isSome (hs.stored t' hold j path hpath)
    · by_cases hj : index = j
      · subst hj
        refine hnow fun _ => ?_
        unfold Slots.stores at hstores
        rw [Bool.and_eq_true] at hstores
        exact Option.isNone_iff_eq_none.1 hstores.2
      · unfold Phone.withPart at hpath
        rw [List.getElem?_set_ne hj] at hpath
        exact partsAfter_isSome (hs.stored t hat j path hpath)
  · rcases List.mem_append.1 hack with hack | hack
    · obtain ⟨id, index', t', json, haccepted', hstored, hjson, rfl⟩ := ackOf_eq_some (Option.mem_toList.1 hack)
      rw [haccepted] at haccepted'
      cases haccepted'
      obtain ⟨-, rfl⟩ := takenAck_of_created hP hjson (index_lt_of_acceptedChunk haccepted) htaken
      exact hnow hstored
    · exact partsAfter_isSome (hs.acked ack hack phone j htaken)
  · unfold takePart at hbytes
    dsimp only at hbytes
    split at hbytes
    · exact hs.files bytes hbytes
    rcases List.mem_append.1 hbytes with hbytes | hbytes
    · obtain ⟨_, -, hjoined⟩ := Option.bind_eq_some_iff.1 (Option.mem_toList.1 hbytes)
      rw [Outgoing.joined_eq hright _ hjoined, hs.length t hat, Outgoing.take_chunkCount]
    · exact hs.files bytes hbytes

theorem sound_datagram (hP : Platform P) (hC : P.C.Correct) (hs : s.Sound O) {data : Bytes} {x : Surroundings}
    {disk : Disk} (hok : s.Genuine O (.datagram data x disk)) :
    (s.step filesDir O (.datagram data x disk)).Sound O := by
  show (s.takeDatagram filesDir O data x disk).Sound O
  unfold takeDatagram
  cases haccepted : s.receiver.acceptedChunk P data x.clock with
  | none => exact hs
  | some accepted =>
    obtain ⟨id, index, t⟩ := accepted
    dsimp only
    by_cases hid : id = O.id
    · rw [if_pos hid]
      subst hid
      exact sound_part hP hC hs hok haccepted
    rw [if_neg hid]
    have htable : ∀ t', (s.receiver.handleAttachmentDatagram P filesDir data x disk).1.incomingAttachments.at? O.id =
        some t' → s.receiver.incomingAttachments.at? O.id = some t' := by
      intro t' ht'
      rcases at?_handleAttachmentDatagram ht' with hold | ⟨index', before, haccepted', -⟩
      · exact hold
      · rw [haccepted] at haccepted'
        cases haccepted'
        exact absurd rfl hid
    refine { hs with length := ?_, stored := ?_, acked := ?_ }
    · exact fun t' ht' => hs.length t' (htable t' ht')
    · exact fun t' ht' => hs.stored t' (htable t' ht')
    · intro ack hack phone j htaken
      rcases List.mem_append.1 hack with hack | hack
      · obtain ⟨id', index', t', json, haccepted', -, hjson, rfl⟩ := ackOf_eq_some (Option.mem_toList.1 hack)
        rw [haccepted] at haccepted'
        cases haccepted'
        exact absurd (takenAck_of_created hP hjson (index_lt_of_acceptedChunk haccepted) htaken).1 hid
      · exact hs.acked ack hack phone j htaken

theorem sound_step (hP : Platform P) (hC : P.C.Correct) (s : Exchange) (e : ExchangeEvent) (hs : s.Sound O)
    (hok : s.Genuine O e) : (s.step filesDir O e).Sound O := by
  cases e with
  | turn => exact sound_turn hs
  | payload payload senderHex x => exact sound_payload hs hok
  | datagram data x disk => exact sound_datagram hP hC hs hok
  | ack phone data => exact sound_ack hs hok
  | change f keeps =>
    have hsame := keeps s.receiver
    refine { hs with length := fun t ht => hs.length t ?_, stored := fun t ht => hs.stored t ?_ }
    · exact (congrArg (KeyedMap.at? · O.id) hsame).symm.trans ht
    · exact (congrArg (KeyedMap.at? · O.id) hsame).symm.trans ht

/-- Whatever is lost, repeated or comes late, and whatever fails at the receiver: what is stored of the attachment is of
the file, what the receiver completes it with is the file, and a sender that ends well has all of it stored there. -/
theorem run_transfer (hP : Platform P) (hC : P.C.Correct) {phone : Phone}
    (hphone : ∀ t, phone.incomingAttachments.at? O.id = some t → t.partFiles = List.replicate O.chunkCount none)
    (events : List ExchangeEvent)
    (h : Steps (step filesDir O) (Genuine O) (start O phone) events) :
    (∀ i bytes, (run (step filesDir O) (start O phone) events).parts i = some bytes → bytes = O.piece i) ∧
      (∀ bytes ∈ (run (step filesDir O) (start O phone) events).files, bytes = O.file) ∧
      ((run (step filesDir O) (start O phone) events).sender.outcome = some true →
        ∀ i < O.chunkCount, (run (step filesDir O) (start O phone) events).parts i = some (O.piece i)) := by
  have hs : (run (step filesDir O) (start O phone) events).Sound O :=
    run_invariant (fun s e hs hok => sound_step hP hC s e hs hok) (sound_start hphone) h
  refine ⟨hs.right, hs.files, fun hended i hi => ?_⟩
  obtain ⟨bytes, hbytes⟩ := Option.isSome_iff_exists.1 (hs.covers.all hended i (List.mem_range.2 hi))
  rw [hbytes, hs.right i bytes hbytes]

/-! ## A file of one byte -/

section Sample

open Messenger.Voice

/-- Bob's phone. -/
def bobAccount : Account :=
  { BobsPhone.account (fun _ => none) with
    C := crypto, O := FlatObject.org, seed := List.replicate 32 5, localNodeIdHex := bob.userIdHex }

theorem platform_bobAccount : Platform bobAccount := by
  refine platform_flatObject rfl rfl fun key nonce ad plaintext _ => ?_
  show (mixBytes 16 _ ++ plaintext).length = plaintext.length + 16
  rw [List.length_append, mixBytes, leBytes_length, Nat.add_comm]

/-- What Alice sends to Bob. -/
def letter : Outgoing bobAccount where
  seed := List.replicate 32 9
  id := "0f8fad5b-d9cb-469f-a165-70867728950e"
  mediaType := "file"
  fileName := "a.txt"
  file := [65]
  nonces _ := List.replicate 12 3
  ephemerals _ := List.replicate 32 4
  chunks _ := ((sealAttachmentChunk { bobAccount with seed := List.replicate 32 9 }
    "0f8fad5b-d9cb-469f-a165-70867728950e" 0 (hexString (identityKeys crypto (List.replicate 32 5)).nodeId)
    (identityKeys crypto (List.replicate 32 5)).xPublic [65] (List.replicate 12 3)
    (List.replicate 32 4)).toOption).getD .null
  size := by decide
  nonce_length _ := List.length_replicate
  ephemeral_length _ := List.length_replicate
  sealed i hi := by
    obtain rfl : i = 0 := Nat.lt_one_iff.1 hi
    refine ok_of_isSome ?_
    decide +kernel

/-- The contact of this seed, whose keys were verified. -/
def verifiedContact (seed : Bytes) : NodeContact where
  userIdHex := hexString (identityKeys crypto seed).nodeId
  ed25519PublicKeyHex := hexString (identityKeys crypto seed).edPublic
  x25519PublicKeyHex := hexString (identityKeys crypto seed).xPublic
  isIdentityVerified := true

theorem keys_verifiedContact {seed : Bytes} {s : Phone} (hs : s.contacts = [verifiedContact seed]) :
    s.getVerifiedPeerEd25519Key bobAccount.K (hexString (identityKeys crypto seed).nodeId) =
        some (identityKeys crypto seed).edPublic ∧
      s.getVerifiedPeerX25519Key bobAccount.K (hexString (identityKeys crypto seed).nodeId) =
        some (identityKeys crypto seed).xPublic := by
  have hcontact : s.contact? bobAccount.K (hexString (identityKeys crypto seed).nodeId) =
      some (verifiedContact seed) := by
    have hsame : bobAccount.K.sameIgnoringCase (verifiedContact seed).userIdHex
        (hexString (identityKeys crypto seed).nodeId) = true := beq_self_eq_true _
    unfold Phone.contact?
    rw [hs]
    exact @List.find?_cons_of_pos _ (fun c : NodeContact => bobAccount.K.sameIgnoringCase c.userIdHex
      (hexString (identityKeys crypto seed).nodeId)) (verifiedContact seed) [] hsame
  have hed : (identityKeys crypto seed).edPublic.length = 32 := correct.edPublic_length _ (correct.hkdf_length _ _ _)
  have hx : (identityKeys crypto seed).xPublic.length = 32 := correct.xPublic_length _ (correct.hkdf_length _ _ _)
  unfold Phone.getVerifiedPeerEd25519Key Phone.getVerifiedPeerX25519Key
  have hverified : (verifiedContact seed).isIdentityVerified = true := rfl
  rw [hcontact, Option.bind_some, Option.bind_some, if_pos hverified, if_pos hverified]
  exact ⟨CallAudio.keyOfHex_hexString Packets.readsHex_plain hed,
    CallAudio.keyOfHex_hexString Packets.readsHex_plain hx⟩

def alicesPhone : Phone := { contacts := [verifiedContact (List.replicate 32 5)] }

/-- Bob has got the manifest. -/
def bobsPhone : Phone where
  contacts := [verifiedContact (List.replicate 32 9)]
  incomingAttachments := (∅ : KeyedMap String IncomingAttachment).put letter.id
    ⟨letter.senderHex, "m1", letter.manifest, [none], 101000⟩

def letterAck : Json := ((createAttachmentAck bobAccount letter.id 0 letter.senderHex).toOption).getD .null

theorem created_letterAck : createAttachmentAck bobAccount letter.id 0 letter.senderHex = .ok letterAck := by
  refine ok_of_isSome ?_
  decide +kernel

theorem arrives_fits : 2 < 2 ^ 40 := by decide

def arrives : Surroundings := { clock := Messenger.Sample.clockAfter 2 arrives_fits }

def workingDisk : Disk := { isDir _ := true, assembled := some [] }

/-- The part, its acknowledgement and the end. -/
def letterEvents : List ExchangeEvent :=
  [.turn, .datagram (letter.datagram 0) arrives workingDisk, .ack alicesPhone (ackDatagram bobAccount letterAck), .turn]

theorem length_letter : 2 ≤ (bobAccount.O.print (letter.chunks 0)).length ∧
    (bobAccount.O.print (letter.chunks 0)).length ≤ 1388 := by
  decide +kernel

theorem keys_bobsPhone :
    bobsPhone.getVerifiedPeerEd25519Key bobAccount.K letter.senderHex =
        some (identityKeys bobAccount.C letter.seed).edPublic ∧
      bobsPhone.getVerifiedPeerX25519Key bobAccount.K letter.senderHex =
        some (identityKeys bobAccount.C letter.seed).xPublic :=
  keys_verifiedContact rfl

theorem at?_bobsPhone : bobsPhone.incomingAttachments.at? letter.id =
    some ⟨letter.senderHex, "m1", letter.manifest, List.replicate letter.chunkCount none, 101000⟩ := by
  unfold bobsPhone
  rw [KeyedMap.at?_put, if_pos rfl]
  rfl

theorem accepted_letter :
    bobsPhone.acceptedChunk bobAccount (letter.datagram 0) arrives.clock = some (letter.id, 0,
      ⟨letter.senderHex, "m1", letter.manifest, List.replicate letter.chunkCount none, 101000⟩) := by
  have hage : (arrives.clock.millis : Int) - 101000 ≤ 24 * 60 * 60 * 1000 := by
    have hnow : arrives.clock.millis = 102000 := rfl
    omega
  exact Outgoing.acceptedChunk_eq platform_bobAccount correct Nat.zero_lt_one at?_bobsPhone rfl rfl hage
    keys_bobsPhone.1 keys_bobsPhone.2 length_letter

theorem mem_acks_letter {s : Exchange} (hs : s.receiver = bobsPhone) :
    ackDatagram bobAccount letterAck ∈
      (s.takeDatagram BobsPhone.filesOfApp letter (letter.datagram 0) arrives workingDisk).acks := by
  have haccepted := accepted_letter
  rw [← hs] at haccepted
  exact mem_acks_takeDatagram haccepted rfl rfl created_letterAck

theorem genuine_letterEvents :
    Steps (step BobsPhone.filesOfApp letter) (Genuine letter) (start letter bobsPhone) letterEvents := by
  have hturn : (step BobsPhone.filesOfApp letter (start letter bobsPhone) .turn).receiver = bobsPhone := rfl
  unfold letterEvents
  simp only [steps_cons, steps_nil, and_true]
  refine ⟨trivial, fun index t _ => ?_, fun i _ _ => ?_, trivial⟩
  · rw [hturn]
    exact ⟨⟨0, Nat.zero_lt_one, rfl⟩, keys_bobsPhone⟩
  · have hpart : ∀ s : Exchange,
        step BobsPhone.filesOfApp letter s (.datagram (letter.datagram 0) arrives workingDisk) =
          s.takeDatagram BobsPhone.filesOfApp letter (letter.datagram 0) arrives workingDisk := fun _ => rfl
    rw [hpart]
    exact mem_acks_letter hturn

theorem isSome_parts_letter :
    ((run (step BobsPhone.filesOfApp letter) (start letter bobsPhone) letterEvents).parts 0).isSome = true := by
  have haccepted : (start letter bobsPhone).receiver.acceptedChunk bobAccount (letter.datagram 0) arrives.clock = _ :=
    accepted_letter
  have hnone : (List.replicate letter.chunkCount (none : Option String))[0]? = some none := by
    rw [List.getElem?_replicate, if_pos]
    exact Nat.zero_lt_one
  unfold letterEvents
  refine isSome_parts_delivered haccepted ?_ alicesPhone (ackDatagram bobAccount letterAck)
  unfold Slots.stores
  dsimp only
  rw [hnone]
  rfl

theorem run_transfer_letter :
    (run (step BobsPhone.filesOfApp letter) (start letter bobsPhone) letterEvents).parts 0 = some [65] := by
  have hopened : ∀ t, bobsPhone.incomingAttachments.at? letter.id = some t →
      t.partFiles = List.replicate letter.chunkCount none := by
    intro t ht
    rw [at?_bobsPhone] at ht
    obtain rfl := Option.some.inj ht
    rfl
  obtain ⟨bytes, hbytes⟩ := Option.isSome_iff_exists.1 isSome_parts_letter
  rw [hbytes, (run_transfer platform_bobAccount correct hopened letterEvents genuine_letterEvents).1 0 bytes hbytes]
  rfl

end Sample

end Exchange

end NodeX.Android
