/-
What the Android client has in memory (`NodeXRepository.kt`, `P2PTransportEngine.kt`) and the operations of its
repository. Names, previews, presence and times that are only shown are left out, as are groups and channels.
-/
import NodeX.Android.DeliveryQueue

namespace NodeX.Android

open NodeX.Lib Messenger AndroidMessageCrypto

/-! ## Data -/

structure NodeContact where
  userIdHex : String
  endpointAddr : String := ""
  isSelf : Bool := false
  ed25519PublicKeyHex : String := ""
  x25519PublicKeyHex : String := ""
  isIdentityVerified : Bool := false
deriving DecidableEq

/-- A message; `ofCall` marks the lines that `addCallHistoryMessage` writes. -/
structure ChatMessage where
  id : String
  senderIdHex : String
  text : String
  isIncoming : Bool
  isDelivered : Bool := true
  isVoice : Bool := false
  voiceDurationSecs : Int := 0
  audioFilePath : String := ""
  isImage : Bool := false
  imageFilePath : String := ""
  isFile : Bool := false
  filePath : String := ""
  fileName : String := ""
  fileSizeFormatted : String := ""
  attachmentId : String := ""
  attachmentSizeBytes : Int := 0
  attachmentMimeType : String := ""
  ofCall : Bool := false
deriving DecidableEq

structure CallState where
  peerId : String
  callId : String
  isIncoming : Bool
  isConnected : Bool := false
  durationSecs : Nat := 0
deriving DecidableEq

/-- A transfer, with the paths of the parts that have come. -/
structure IncomingAttachment where
  senderId : String
  messageId : String
  manifest : Json
  partFiles : List (Option String)
  createdAt : Int

structure Phone where
  contacts : List NodeContact := []
  messages : KeyedMap String (List ChatMessage) := ∅
  messageStoreWriteSucceeded : Bool := true
  activeCall : Option CallState := none
  seenMessageIds : List String := []
  contactEndpoints : KeyedMap String String := ∅
  verifiedContactKeys : KeyedMap String (Bytes × Bytes) := ∅
  lastCallAudioSequence : KeyedMap String Int := ∅
  remoteCallOfferHashes : KeyedMap String String := ∅
  endedCallIds : List String := []
  /-- `nodex_call_state` of the shared preferences -/
  endedPrefs : List String := []
  incomingAttachments : KeyedMap String IncomingAttachment := ∅
  queue : DeliveryQueue := {}

def bootstrapHost : String := "31.77.71.122"

def maxSeenIds : Nat := 3000

/-- `seenMessageIds.add`: the oldest id goes when there are too many. -/
def addSeen (ids : List String) (id : String) : List String × Bool :=
  let added := !ids.contains id
  let ids := if added then ids ++ [id] else ids
  (if maxSeenIds < ids.length then ids.tail else ids, added)

namespace Phone

variable (C : Crypto) (O : OrgJson) (K : Kotlin)

/-- The messages of a conversation. -/
def conversation (s : Phone) (peerId : String) : List ChatMessage := (s.messages.at? peerId).getD []

def markSeen (s : Phone) (id : String) : Phone := { s with seenMessageIds := (addSeen s.seenMessageIds id).1 }

/-- What `saveMessages` leaves behind. -/
def saveMessages (s : Phone) (succeeds : Bool) : Phone := { s with messageStoreWriteSucceeded := succeeds }

/-! ## Contacts and keys -/

def contact? (s : Phone) (peerId : String) : Option NodeContact :=
  s.contacts.find? fun c => K.sameIgnoringCase c.userIdHex peerId

/-- `chunked(2).map { it.toInt(16).toByte() }` of 64 digits. -/
def keyOfHex (hex : String) : Option Bytes :=
  if utf16Length hex = 64 then
    (chunked 2 hex.toList).mapM fun digits => (K.toInt16 (String.ofList digits)).map UInt8.ofInt
  else none

def getVerifiedPeerX25519Key (s : Phone) (peerId : String) : Option Bytes :=
  (s.contact? K peerId).bind fun c => if c.isIdentityVerified then keyOfHex K c.x25519PublicKeyHex else none

def getVerifiedPeerEd25519Key (s : Phone) (peerId : String) : Option Bytes :=
  (s.contact? K peerId).bind fun c => if c.isIdentityVerified then keyOfHex K c.ed25519PublicKeyHex else none

def updateContactEndpoint (s : Phone) (peerId endpoint : String) : Phone :=
  { s with contacts := s.contacts.map fun c =>
      if K.sameIgnoringCase c.userIdHex peerId then { c with endpointAddr := endpoint } else c }

/-- `addContact` of a bare id. -/
def addContact (s : Phone) (id : String) : Phone :=
  let parsedId := MnemonicHelper.kotlinTrim id
  if utf16Length parsedId ≠ 40 ∨ isHex O parsedId = false then s
  else
    let parsedId := K.lowercase parsedId
    if (s.contact? K parsedId).isSome then s else { s with contacts := { userIdHex := parsedId } :: s.contacts }

def updateVerifiedContactKeys (s : Phone) (peerId : String) (ed25519PublicKey x25519PublicKey : Bytes)
    (authenticatedRefresh : Bool) : Phone :=
  if ed25519PublicKey.length ≠ 32 ∨ x25519PublicKey.length ≠ 32 then s
  else
    let id := clean K peerId
    if K.sameIgnoringCase (hexString (C.hashNodeId ed25519PublicKey).bytes) id = false then s
    else
      let existing := s.contact? K id
      if existing.any fun c => c.isIdentityVerified && (c.ed25519PublicKeyHex != hexString ed25519PublicKey ||
          c.x25519PublicKeyHex != hexString x25519PublicKey && !authenticatedRefresh) then s
      else
        let known := if existing.isNone then s.addContact O K id else s
        { known with contacts := known.contacts.map fun c =>
            if K.sameIgnoringCase c.userIdHex id then
              { c with
                ed25519PublicKeyHex := hexString ed25519PublicKey
                x25519PublicKeyHex := hexString x25519PublicKey
                isIdentityVerified := true }
            else c }

/-- The contact of a conversation that goes on comes first, after the phone's own one. -/
def touchContact (s : Phone) (lookup id : String) : Phone :=
  let existing := s.contacts.findIdx? fun c => K.sameIgnoringCase c.userIdHex lookup
  let rest := match existing with
    | some i => s.contacts.eraseIdx i
    | none => s.contacts
  let updated := (s.contact? K lookup).getD { userIdHex := id }
  { s with contacts := match rest with
      | c :: cs => if c.isSelf then c :: updated :: cs else updated :: c :: cs
      | [] => [updated] }

/-! ## Messages -/

/-- Ids that messages are not taken from. -/
def isNoSender (sender : String) : Bool :=
  isBlank sender || decide (utf16Length sender < 16) || startsWith sender "00000000" ||
    startsWith sender bootstrapHost || containsText sender ":"

/-- `receiveIncomingMessage` of a message under its sender's id. -/
def receiveIncomingMessage (me : String) (s : Phone) (m : ChatMessage) (saves : Bool) : Phone × Bool :=
  let cleanSender := clean K m.senderIdHex
  if isNoSender cleanSender then (s, false)
  else if K.sameIgnoringCase cleanSender (clean K me) then (s, false)
  else if startsWith m.text "[Call Signal" || containsText m.text "\"call_signal\"" then (s, false)
  else
    let s := s.touchContact K cleanSender m.senderIdHex
    let currentList := s.conversation m.senderIdHex
    if currentList.any (·.id == m.id) then (s, true)
    else
      (({ s with messages := s.messages.put m.senderIdHex (currentList ++ [m]) } : Phone).saveMessages saves, saves)

def hasPersistedMessage (s : Phone) (peerId messageId : String) : Bool :=
  s.messageStoreWriteSucceeded && (s.conversation peerId).any fun m => m.id == messageId && m.isIncoming

def markMessageDelivered (s : Phone) (peerId messageId : String) (saves : Bool) : Phone :=
  match s.messages.list.find? fun e => K.sameIgnoringCase e.1 peerId with
  | none => s
  | some (conversationId, messages) =>
    let updated := messages.map fun m => if m.id = messageId ∧ ¬m.isDelivered then { m with isDelivered := true } else m
    if updated = messages then s
    else ({ s with messages := s.messages.put conversationId updated } : Phone).saveMessages saves

def completeIncomingAttachment (s : Phone) (peerId messageId localPath : String) (saves : Bool) : Phone :=
  match s.messages.at? peerId with
  | none => s
  | some current =>
    let completed := current.map fun m =>
      if m.id ≠ messageId then m
      else
        { m with
          imageFilePath := if m.isImage then localPath else m.imageFilePath
          filePath := if m.isFile then localPath else m.filePath }
    ({ s with messages := s.messages.put peerId completed } : Phone).saveMessages saves

/-! ## Calls -/

def addCallHistoryMessage (me : String) (s : Phone) (peerId text : String) (isIncoming : Bool) (x : Surroundings) :
    Phone :=
  let cleanPeer := clean K peerId
  if isNoSender cleanPeer then s
  else if K.sameIgnoringCase cleanPeer (clean K me) then s
  else
    let line : ChatMessage :=
      { id := "call_" ++ toString x.clock.millis, senderIdHex := if isIncoming then cleanPeer else me, text, isIncoming
        ofCall := true }
    let s : Phone := { s with messages := s.messages.put cleanPeer (s.conversation cleanPeer ++ [line]) }
    (s.saveMessages x.savesMessages).touchContact K cleanPeer peerId

def receiveIncomingCall (me : String) (s : Phone) (peerId callId : String) (x : Surroundings) : Phone :=
  let cleanPeerId := clean K peerId
  let ringing := { s with activeCall := some { peerId := cleanPeerId, callId, isIncoming := true } }
  ringing.addCallHistoryMessage K me cleanPeerId "📲 Входящий вызов" true x

def onCallAnswered (s : Phone) (peerId : String) : Phone :=
  match s.activeCall with
  | none => s
  | some current =>
    if K.sameIgnoringCase current.peerId (clean K peerId) || isBlank peerId then
      if current.isConnected then s
      else { s with activeCall := some { current with isConnected := true, durationSecs := 0 } }
    else s

/-- The line a call leaves behind. -/
def callText (call : CallState) : String :=
  let twoDigits (n : Nat) : String := if n < 10 then "0" ++ toString n else toString n
  let duration := toString (call.durationSecs / 60) ++ ":" ++ twoDigits (call.durationSecs % 60)
  if call.isConnected then
    (if call.isIncoming then "📞 Входящий звонок • " else "📞 Исходящий звонок • ") ++ duration
  else if call.isIncoming then "📵 Пропущенный вызов" else "📵 Отменённый вызов"

def endCallFromRemote (me : String) (s : Phone) (x : Surroundings) : Phone :=
  let noted := match s.activeCall with
    | some current => s.addCallHistoryMessage K me current.peerId (callText current) current.isIncoming x
    | none => s
  { noted with activeCall := none }

/-- While more than 256 calls are remembered, one of them is dropped. -/
def trimEnded (first : List String → String) : Nat → List String → List String
  | 0, ids => ids
  | n + 1, ids => if 256 < ids.length then trimEnded first n (ids.erase (first ids)) else ids

def callKey (peerId callId : String) : String := clean K peerId ++ ":" ++ callId

/-- `rememberEndedCall`, where `first` is the element that the set lists first. -/
def rememberEndedCall (first : List String → String) (s : Phone) (peerId callId : String) : Phone :=
  let key := callKey K peerId callId
  if key.toList.getLast? = some ':' then s
  else
    let ids := if s.endedCallIds.contains key then s.endedCallIds else s.endedCallIds ++ [key]
    let ids := trimEnded first ids.length ids
    { s with endedCallIds := ids, endedPrefs := ids }

def isCallEnded (s : Phone) (peerId callId : String) : Phone × Bool :=
  let ids := if s.endedCallIds.isEmpty then s.endedPrefs else s.endedCallIds
  ({ s with endedCallIds := ids }, ids.contains (callKey K peerId callId))

end Phone

end NodeX.Android
