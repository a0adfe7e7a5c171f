/-
`handleDirectPayload`: what an opened envelope does, by the kind of its payload. What is thrown on the way ends the
handling of the payload and nothing else; nothing is thrown after the state has changed.
-/
import NodeX.Android.Phone

namespace NodeX.Android

open NodeX.Lib Messenger AndroidMessageCrypto

/-- The parts that do not change while an account is in use. -/
structure Account where
  C : Crypto
  O : OrgJson
  K : Kotlin
  /-- the seed of the recovery phrase -/
  seed : Bytes
  localNodeIdHex : String
  /-- the element that the set of ended calls lists first -/
  firstEnded : List String → String

variable (P : Account)

/-! ## Receipts -/

/-- The body of `verifyDeliveryReceipt`. -/
def checkDeliveryReceipt (edPublicKey : Bytes) (receipt : Json) (expectedRecipientId : String) (clock : Clock) :
    Except Thrown Bool := do
  let messageId ← getString P.K.valueOf receipt "message_id"
  let recipientId ← getString P.K.valueOf receipt "recipient_id"
  let timestamp ← getLong P.O receipt "timestamp"
  if P.K.sameIgnoringCase recipientId expectedRecipientId = false ∨
      7 * 86400 < ((clock.seconds : Int) - timestamp).natAbs then return false
  let sig ← bytes P.O receipt "signature"
  if sig.length ≠ 64 then return false
  let signed := utf8 "DELIVERY_RECEIPT_V1" ++ utf8 messageId ++ beBytes (UInt64.ofInt timestamp)
  if P.C.edKeyValid edPublicKey = false then throw .library
  return P.C.edVerify edPublicKey signed sig

def verifyDeliveryReceipt (edPublicKey : Bytes) (receipt : Json) (expectedRecipientId : String) (clock : Clock) :
    Bool :=
  match checkDeliveryReceipt P edPublicKey receipt expectedRecipientId clock with
  | .ok valid => valid
  | .error _ => false

namespace Phone

/-- The message that a valid receipt of a sender is for. -/
def receiptFor (s : Phone) (receipt : Json) (sender : String) (clock : Clock) : Option String :=
  let messageId := optString P.K receipt "message_id" ""
  match s.getVerifiedPeerEd25519Key P.K sender with
  | none => none
  | some publicKey =>
    if isBlank messageId || !verifyDeliveryReceipt P publicKey receipt sender clock then none else some messageId

def handleDeliveryReceipt (s : Phone) (receipt : Json) (sender : String) (x : Surroundings) : Phone :=
  match s.receiptFor P receipt sender x.clock with
  | none => s
  | some messageId =>
    let s : Phone := { s with queue := s.queue.acknowledge (sender ++ ":" ++ messageId) x.savesQueue }
    s.markMessageDelivered P.K sender messageId x.savesMessages

/-! ## Calls -/

/-- Signals that no call carries on to. -/
def isEndSignal (signalType : String) : Bool := signalType == "Hangup" || signalType == "Reject"

/-- The endpoint that a signal tells is one to reach its sender at. -/
def isReachable (endpoint : String) : Bool :=
  !isBlank endpoint && !startsWith endpoint "0.0.0.0" && !startsWith endpoint bootstrapHost

/-- `contactEndpoints[peer] = endpoint`, and the contact's own copy. -/
def recordEndpoint (s : Phone) (peerId endpoint : String) : Phone :=
  ({ s with contactEndpoints := s.contactEndpoints.put peerId endpoint } : Phone).updateContactEndpoint P.K peerId
    endpoint

/-- What each kind of signal does. -/
def applySignal (s : Phone) (signalType callerId callId callData : String) (x : Surroundings) : Phone :=
  let dedupeKey := "call_" ++ callId ++ "_" ++ callerId ++ "_" ++ signalType
  if signalType = "Offer" then
    let offerKey := callerId ++ ":" ++ callId
    let offerHash := hexString (P.C.sha256 (utf8 callData))
    let previousHash := s.remoteCallOfferHashes.at? offerKey
    let s : Phone := { s with remoteCallOfferHashes := s.remoteCallOfferHashes.put offerKey offerHash }
    let sameCall := s.activeCall.any fun c => P.K.sameIgnoringCase c.peerId callerId && c.callId == callId
    if previousHash = none ∧ ¬sameCall then s.receiveIncomingCall P.K P.localNodeIdHex callerId callId x else s
  else if signalType = "Answer" then s.markSeen dedupeKey
  else if signalType = "Connected" then
    let s := s.markSeen dedupeKey
    if s.activeCall.any (·.isConnected) then s.onCallAnswered P.K callerId else s
  else if isEndSignal signalType then
    let (ids, added) := addSeen s.seenMessageIds dedupeKey
    let s : Phone := { s with seenMessageIds := ids }
    if added then s.endCallFromRemote P.K P.localNodeIdHex x else s
  else s

def handleCallSignal (s : Phone) (sig : Json) (sender : String) (x : Surroundings) : Phone :=
  let signalType := optString P.K sig "signal_type" ""
  let callId := optString P.K sig "call_id" ""
  let named := optString P.K sig "caller_id_hex" sender
  let callerId := clean P.K (if isBlank named then sender else named)
  let remoteEndpoint := optString P.K sig "endpoint" ""
  let sigTimestamp := optLong P.O sig "timestamp" 0
  let calleeId := clean P.K (optString P.K sig "callee_id_hex" "")
  if callerId ≠ sender ∨ calleeId ≠ P.localNodeIdHex ∨ isBlank callId then s
  else if sigTimestamp ≤ 0 ∨ 45 < ((x.clock.seconds : Int) - sigTimestamp).natAbs then s
  else
    let remembered :=
      if isEndSignal signalType then (s.rememberEndedCall P.K P.firstEnded callerId callId, false)
      else if signalType = "Offer" then s.isCallEnded P.K callerId callId
      else (s, false)
    let s := remembered.1
    if remembered.2 then s
    else if signalType ≠ "Offer" ∧ ¬s.activeCall.any (fun c => c.peerId == callerId && c.callId == callId) then s
    else
      let s := if isReachable remoteEndpoint then s.recordEndpoint P callerId remoteEndpoint else s
      s.applySignal P signalType callerId callId (optString P.K sig "data" "") x

/-! ## Attachments -/

def attachmentChunkBytes : Int := 350

def maxAttachmentBytes : Int := 20 * 1024 * 1024

/-- The bytes that the transfers under way come to. -/
def transferBytes (s : Phone) : Int :=
  (s.incomingAttachments.list.map fun e => optLong P.O e.2.manifest "file_size" 0).sum

/-- `Regex("[0-9a-f]{64}")` -/
def isSha256 (digest : String) : Bool :=
  digest.toList.length == 64 &&
    digest.toList.all fun c => (48 ≤ c.toNat && c.toNat ≤ 57) || (97 ≤ c.toNat && c.toNat ≤ 102)

/-- What a manifest has to pass by itself: the id of the attachment, its size and the number of its chunks. -/
def checkManifest (manifest : Json) : Except Thrown (String × Int × Nat) := do
  let id ← getString P.K.valueOf manifest "attachment_id"
  let size ← getLong P.O manifest "file_size"
  let count ← getInt P.O manifest "chunk_count"
  let chunkSize ← getInt P.O manifest "chunk_size"
  require (optInt P.O manifest "version" 0 = 1 ∧ 1 ≤ size ∧ size ≤ maxAttachmentBytes ∧
    chunkSize = attachmentChunkBytes)
  require (count = (size + chunkSize - 1) / chunkSize ∧ 1 ≤ count ∧ count ≤ 100000)
  let sha256 ← getString P.K.valueOf manifest "sha256"
  require (isSha256 sha256)
  return (id, size, count.toNat)

/-- There is room for a transfer of this size. -/
def hasRoom (s : Phone) (size : Int) : Bool :=
  decide (s.incomingAttachments.list.length < 4) && decide (s.transferBytes P ≤ 40 * 1024 * 1024 - size)

/-- The message that announces an attachment. -/
def manifestMessage (payload manifest : Json) (sender msgId id : String) (size : Int) : ChatMessage :=
  let image := optString P.K manifest "media_type" "" == "image"
  let fileName := optString P.K manifest "file_name" ""
  { id := msgId, senderIdHex := sender, text := optString P.K payload "text" fileName, isIncoming := true
    isImage := image, isFile := !image, fileName, fileSizeFormatted := "Получение…", attachmentId := id
    attachmentSizeBytes := size, attachmentMimeType := optString P.K manifest "mime_type" "" }

def handleManifest (s : Phone) (payload manifest : Json) (sender msgId : String) (x : Surroundings) : Phone :=
  match checkManifest P manifest with
  | .error _ => s
  | .ok (id, size, count) =>
    if s.hasRoom P size = false then s
    else if (s.incomingAttachments.get? id).isSome then s
    else
      let transfer : IncomingAttachment := ⟨sender, msgId, manifest, List.replicate count none, x.clock.millis⟩
      let s : Phone := { s with incomingAttachments := s.incomingAttachments.put id transfer }
      (s.receiveIncomingMessage P.K P.localNodeIdHex (manifestMessage P payload manifest sender msgId id size)
        x.savesMessages).1

/-! ## Messages -/

/-- The id a message goes by. -/
def effectiveId (payload : Json) (sender : String) : String :=
  let msgId := optString P.K payload "id" ""
  if isBlank msgId then
    sender ++ "_" ++ toString (optLong P.O payload "timestamp" 0) ++ "_" ++
      toString (hashCode (optString P.K payload "text" ""))
  else msgId

/-- `take(6)` -/
def six (sender : String) : String := String.ofList (sender.toList.take 6)

/-- `Regex("[^a-zA-Z0-9._-]")` gives way to `_`. -/
def safeName (rawName : String) : String :=
  String.ofList (rawName.toList.map fun c =>
    if c.isAlphanum || c == '.' || c == '_' || c == '-' then c else '_')

/-- The name under which media that come with a message are stored. -/
def rxName (x : Surroundings) (rest : String) : String := "rx_" ++ toString x.clock.millis ++ "_" ++ rest

/-- The path of the media that come with a message. -/
def mediaPath (x : Surroundings) (directory name base64 : String) : String :=
  if isBlank base64 then "" else x.storeMedia directory name base64

def isPresent (payload : Json) (name : String) : Bool := has payload name && !isNull payload name

/-- The chat message of a payload, by its kind. -/
def messageOf (payload : Json) (sender : String) (x : Surroundings) : Except Thrown (Option ChatMessage) :=
  let message (text : String) : ChatMessage :=
    { id := effectiveId P payload sender, senderIdHex := sender, text, isIncoming := true }
  if isPresent payload "voice_note" then do
    let vn ← getObject payload "voice_note"
    let path := mediaPath x "audio_notes" (rxName x (six sender ++ ".m4a")) (optString P.K vn "audio_base64" "")
    return some { message "🎤 Голосовое сообщение" with
      isVoice := true, voiceDurationSecs := optInt P.O vn "duration_seconds" 3, audioFilePath := path }
  else if isPresent payload "image_data" then do
    let imgData ← getObject payload "image_data"
    let path := mediaPath x "media_images" (rxName x (six sender ++ ".jpg")) (optString P.K imgData "image_base64" "")
    return some { message (optString P.K payload "text" "📷 Фотография") with isImage := true, imageFilePath := path }
  else if isPresent payload "file_data" then do
    let fData ← getObject payload "file_data"
    let rawName := optString P.K fData "file_name" "document"
    let path := mediaPath x "media_files" (rxName x (safeName rawName)) (optString P.K fData "file_base64" "")
    return some { message (optString P.K payload "text" ("📁 " ++ rawName)) with
      isFile := true, filePath := path, fileName := rawName, fileSizeFormatted := optString P.K fData "file_size" "" }
  else
    let text := optString P.K payload "text" ""
    if isBlank text || startsWith text "[Call Signal" then return none else return some (message text)

/-- A message is known by its id. -/
def isKnown (s : Phone) (sender id : String) : Bool := s.seenMessageIds.contains id || s.hasPersistedMessage sender id

def handleMessage (s : Phone) (payload : Json) (sender : String) (x : Surroundings) : Phone :=
  if s.isKnown sender (effectiveId P payload sender) then s
  else
    match messageOf P payload sender x with
    | .ok (some m) =>
      let (received, kept) := s.receiveIncomingMessage P.K P.localNodeIdHex m x.savesMessages
      if kept then received.markSeen m.id else received
    | _ => s

/-! ## All payloads -/

/-- Ids that no payload is taken from. -/
def isNoPeer (sender : String) : Bool :=
  isBlank sender || decide (utf16Length sender < 16) || startsWith sender "00000000"

def handleDirectPayload (s : Phone) (payload : Json) (senderHex : String) (x : Surroundings) : Phone :=
  let sender := clean P.K senderHex
  if isNoPeer sender || P.K.sameIgnoringCase sender P.localNodeIdHex then s
  else if has payload "delivery_receipt" then
    match getObject payload "delivery_receipt" with
    | .ok receipt => s.handleDeliveryReceipt P receipt sender x
    | .error _ => s
  else if has payload "call_signal" then
    match getObject payload "call_signal" with
    | .ok sig => s.handleCallSignal P sig sender x
    | .error _ => s
  else if has payload "attachment_manifest" then
    match getObject payload "attachment_manifest" with
    | .ok manifest => s.handleManifest P payload manifest sender (optString P.K payload "id" "") x
    | .error _ => s
  else s.handleMessage P payload sender x

end Phone

end NodeX.Android
