/-
The records of the messenger: contacts, groups, stored messages, message payloads and what they
carry, events.
-/
import NodeX.Core.Crypto
import Mathlib.Data.Finmap

namespace NodeX.Messenger

/-! ## Stored records -/

structure SavedContact where
  userIdHex : String
  name : String
  bio : String
  ed25519PubHex : String
  x25519PubHex : String
  lastSeenAddr : String
deriving DecidableEq

structure VoiceNote where
  durationSecs : UInt32
  waveform : Bytes
  mimeType : String
  audioBase64 : String
  fileSize : Nat
deriving DecidableEq

inductive GroupRole where
  | creator | admin | member
deriving DecidableEq

structure GroupMember where
  userIdHex : String
  displayName : String
  role : GroupRole
  joinedAt : Nat
deriving DecidableEq

structure P2PGroup where
  groupId : String
  title : String
  description : String
  creatorIdHex : String
  members : Finmap fun _ : String => GroupMember
  groupKeyHex : String
  createdAt : Nat
  avatarColorIdx : UInt8
deriving DecidableEq

/-- `HashMap<String, Vec<String>>`: who reacted with which emoji, as an association list. -/
abbrev Reactions := List (String × List String)

structure SavedChatMessage where
  id : String
  senderIdHex : String
  recipientIdHex : String
  text : String
  imageBase64 : Option String := none
  voiceNote : Option VoiceNote := none
  replyToId : Option String := none
  replySnippet : Option String := none
  isEdited : Bool := false
  editTimestamp : Option Nat := none
  reactions : Reactions := []
  groupId : Option String := none
  isPinned : Bool := false
  expiresAt : Option Nat := none
  timestamp : Nat
  incoming : Bool
  delivered : Bool
deriving DecidableEq

/-! ## What a payload carries -/

structure FileManifest where
  fileId : String
  fileName : String
  fileSize : Nat
  mimeType : String
  sha256Root : String
  chunkSize : Nat
  chunkCount : Nat
  chunkHashes : List String
  encryptionKeyHex : String
  thumbnailBase64 : Option String
deriving DecidableEq

structure DeliveryReceipt where
  messageId : String
  recipientId : String
  timestamp : UInt64
  signature : Bytes
deriving DecidableEq

structure ReadReceipt where
  messageIds : List String
  readerId : String
  timestamp : UInt64
  signature : Bytes
deriving DecidableEq

structure MessageReaction where
  messageId : String
  emoji : String
  reactorUserIdHex : String
  timestamp : Nat
deriving DecidableEq

inductive CallSignalType where
  | offer | answer | iceCandidate (candidate : String) | ringing | reject | hangup | busy
deriving DecidableEq

structure CallSignalPayload where
  callId : String
  callerIdHex : String
  calleeIdHex : String
  signalType : CallSignalType
  timestamp : Nat
deriving DecidableEq

structure CallAudioChunk where
  callId : String
  pcmBase64 : String
  sampleRate : Nat
  seq : Nat
deriving DecidableEq

structure SignedTombstone where
  recipientId : String
  timestamp : UInt64
  deletedIds : List String
  signature : Bytes
deriving DecidableEq

structure ChatMessagePayload where
  id : String := ""
  text : String := ""
  imageBase64 : Option String := none
  voiceNote : Option VoiceNote := none
  fileManifest : Option FileManifest := none
  deliveryReceipt : Option DeliveryReceipt := none
  readReceipt : Option ReadReceipt := none
  reaction : Option MessageReaction := none
  replyToId : Option String := none
  replySnippet : Option String := none
  isEdited : Bool := false
  editTimestamp : Option Nat := none
  groupId : Option String := none
  callSignal : Option CallSignalPayload := none
  callAudioChunk : Option CallAudioChunk := none
  deleteMessageIds : Option (List String) := none
  tombstone : Option SignedTombstone := none
deriving DecidableEq

/-- What the inbox loop reports to the user interface. -/
inductive MessengerEvent where
  | contactsUpdated (contacts : Finmap fun _ : String => SavedContact)
  | messageReceived (message : SavedChatMessage)
  | messageDelivered (messageId recipientId : String)
  | messageDeleted (contactId : String) (messageIds : List String)
  | messageEdited (messageId newText : String)
  | reactionAdded (messageId emoji reactorId : String)
  | callSignalReceived (signal : CallSignalPayload)
  | callAudioReceived (senderId : String) (chunk : CallAudioChunk)
deriving DecidableEq

/-- `MessageReaction::is_valid_emoji`. -/
def MessageReaction.isValidEmoji (r : MessageReaction) : Bool := !r.emoji.isEmpty && r.emoji.length ≤ 4

/-- `serde_json` on payloads, and the lossy reading of bytes as text. -/
structure PayloadJson where
  print : ChatMessagePayload → Bytes
  parse : Bytes → Option ChatMessagePayload
  /-- `to_vec` of the triple a tombstone signs -/
  printTombstone : String × UInt64 × List String → Bytes
  utf8Lossy : Bytes → String

/-- `SignedTombstone::signing_bytes`. -/
def SignedTombstone.signingBytes (J : PayloadJson) (t : SignedTombstone) : Bytes :=
  J.printTombstone (t.recipientId, t.timestamp, t.deletedIds)

/-! ## Errors -/

inductive MessengerError where
  | identityNotFound
  | invalidKeyLength (k : String)
  | cryptoError (e : String)
  | networkError (e : String)
  | peerNotFound (p : String)
  | mailboxError (e : String)
  | databaseError (e : String)
  | mnemonicError (e : String)
  | contactBlocked (c : String)
  | recipientVerifiedKeyMissing (id : String)
  | attachmentTooLarge (size max : Nat)
  | replayDetected (id : String)
  | other (e : String)
deriving DecidableEq

/-- The error's `Display`. -/
def MessengerError.text : MessengerError → String
  | identityNotFound => "Identity not found or not initialized"
  | invalidKeyLength k => "Invalid cryptographic key length: " ++ k
  | cryptoError e => "E2EE Cryptographic error: " ++ e
  | networkError e => "Network/DHT transport error: " ++ e
  | peerNotFound p => "Peer " ++ p ++ " was not found in the DHT"
  | mailboxError e => "DHT Mailbox error: " ++ e
  | databaseError e => "Local database error: " ++ e
  | mnemonicError e => "BIP-39 Mnemonic error: " ++ e
  | contactBlocked c => "Contact " ++ c ++ " is blocked"
  | recipientVerifiedKeyMissing id =>
    "Recipient " ++ id ++ " has no verified X25519 public key; message sending failed closed"
  | attachmentTooLarge size max => "Attachment size " ++ toString size ++ " exceeds maximum " ++ toString max
  | replayDetected id => "Replay attack detected for message " ++ id
  | other e => "Messenger error: " ++ e

/-! ## Signed records -/

variable (C : Crypto)

/-- `DeliveryReceipt::verify`. -/
def DeliveryReceipt.verify (r : DeliveryReceipt) (recipientEd25519Pub : Bytes) : Bool :=
  C.verify recipientEd25519Pub (utf8 "DELIVERY_RECEIPT_V1" ++ utf8 r.messageId ++ beBytes r.timestamp) r.signature

/-- `ReadReceipt::verify`. -/
def ReadReceipt.verify (r : ReadReceipt) (readerEd25519Pub : Bytes) : Bool :=
  C.verify readerEd25519Pub (utf8 "READ_RECEIPT_V1" ++ r.messageIds.flatMap utf8 ++ beBytes r.timestamp) r.signature

end NodeX.Messenger
