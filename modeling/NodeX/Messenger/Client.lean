/-
The messenger as a whole: the database in memory and the one last saved, the inbox, the outbox with its retry
worker, and the delivery attempts under way. A call gives way while an attempt is under way and between the
locks it takes, so it is several steps; what the network, the clock and the disk do is in the actions.

The user keeps one identity: no other mnemonic is restored, and a start without a database file, which makes
another user, is not followed. The call log of the user interface and what chat presence is about are left out.
-/
import NodeX.Messenger.CallAudio
import NodeX.Messenger.Outbox
import NodeX.Messenger.Retraction

namespace NodeX.Messenger

open NodeX.Lib

/-! ## What is under way -/

/-- What a delivery attempt is for. -/
inductive Job where
  | message (msg : SavedChatMessage)
  | file (msg : SavedChatMessage)
  | voiceNote (msg : SavedChatMessage)
  /-- The worker's, begun at this reading of the clock. -/
  | retry (item : QueuedMessage) (now : Nat)
  /-- Sent once, whatever becomes of it: a reaction, an edit, a call signal, a copy for a group member, a
  tombstone, a receipt. -/
  | once
deriving DecidableEq

/-- The message a send will store. -/
def Job.message? : Job → Option SavedChatMessage
  | .message msg | .file msg | .voiceNote msg => some msg
  | .retry .. | .once => none

/-- The file or voice note of a send. -/
def Job.attachment? : Job → Option SavedChatMessage
  | .file msg | .voiceNote msg => some msg
  | .message _ | .retry .. | .once => none

/-- A call of `try_deliver_payload`, or of what stands in for it, with the envelope it sealed; once there is one the
call succeeds. -/
structure Attempt where
  job : Job
  recipientIdHex : String
  payload : ChatMessagePayload
  sealed : Outcome EncryptedEnvelope MessengerError
deriving DecidableEq

/-- What a task does next, when it has the lock. -/
inductive Todo where
  /-- `send_message`, once the transport accepted the message and the outbox has it. -/
  | store (msg : SavedChatMessage)
  /-- A send that failed, once the database has the message. -/
  | push (msg : SavedChatMessage) (recipientIdHex : String)
  /-- `send_group_message` for one member. -/
  | deliver (memberIdHex : String) (msg : SavedChatMessage)
  /-- The task that acknowledges a message. -/
  | receipt (recipientIdHex messageId : String)
deriving DecidableEq

/-- What sealing an envelope takes from outside: what the DHT answers, whether a contact found there could be
saved, and the draws of `encrypt_envelope`. -/
structure Sealing where
  dht : Dht
  saved : Bool
  ephSeed : Bytes
  nonce : Bytes
  timestamp : UInt64

variable {C : Crypto}

/-- The client, with what the statements about it look back to: the receipts it has processed, and what the
first attempt with each message carried. -/
structure Client (me : UserIdentity C) where
  inbox : Inbox me := {}
  disk : Option MessengerDb := none
  queue : MessageQueue := []
  attempts : List Attempt := []
  todo : List Todo := []
  audio : AudioSequences := ∅
  receipts : List (Verified me × DeliveryReceipt) := []
  sent : KeyedList ChatMessagePayload.id := ∅

/-! ## Messages and payloads -/

section Payloads

variable (J : PayloadJson) (me : UserIdentity C)

/-- `format!("{}_{}_{:x}")` of the clock, the start of the user id and a random number. -/
def newMessageId (now : Nat) (random : UInt32) : String :=
  toString now ++ "_" ++ String.ofList (me.userIdHex.toList.take 8) ++ "_" ++
    String.ofList (Nat.toDigits 16 random.toNat)

/-- An outgoing message as the senders make it. -/
def outgoing (id recipientIdHex text : String) (now : Nat) : SavedChatMessage :=
  { id, senderIdHex := me.userIdHex, recipientIdHex, text, timestamp := now, incoming := false, delivered := false }

/-- The payload of `try_deliver_message`. -/
def messagePayload (msg : SavedChatMessage) : ChatMessagePayload :=
  { id := msg.id, text := msg.text, imageBase64 := msg.imageBase64, voiceNote := msg.voiceNote
    replyToId := msg.replyToId, replySnippet := msg.replySnippet, isEdited := msg.isEdited
    editTimestamp := msg.editTimestamp, groupId := msg.groupId }

def filePayload (msg : SavedChatMessage) (manifest : FileManifest) : ChatMessagePayload :=
  { id := msg.id, text := msg.text, fileManifest := some manifest }

def reactionPayload (messageId emoji : String) (now : Nat) : ChatMessagePayload :=
  { id := "react_" ++ messageId, text := emoji
    reaction := some { messageId, emoji, reactorUserIdHex := me.userIdHex, timestamp := now } }

/-- `VoiceNote::formatted_duration`. -/
def VoiceNote.formattedDuration (note : VoiceNote) : String :=
  let secs := toString (note.durationSecs % 60).toNat
  toString (note.durationSecs / 60).toNat ++ ":" ++ (if secs.length < 2 then "0" ++ secs else secs)

/-- The text names the kind of signal as `format!("{:?}")` prints it. -/
def callSignalPayload (recipientIdHex callId : String) (signalType : CallSignalType) (text : String) (now : Nat)
    (random : UInt64) : ChatMessagePayload :=
  { id := "call_" ++ callId ++ "_" ++ toString now ++ "_" ++ String.ofList (Nat.toDigits 16 random.toNat)
    text
    callSignal := some
      { callId, callerIdHex := me.userIdHex, calleeIdHex := recipientIdHex, signalType, timestamp := now } }

/-- `DeliveryReceipt::create`. -/
def DeliveryReceipt.create (messageId : String) (timestamp : UInt64) : DeliveryReceipt :=
  { messageId, recipientId := me.userIdHex, timestamp
    signature := me.sign (utf8 "DELIVERY_RECEIPT_V1" ++ utf8 messageId ++ beBytes timestamp) }

def receiptPayload (messageId : String) (timestamp : UInt64) : ChatMessagePayload :=
  { id := "rcpt_" ++ messageId, deliveryReceipt := some (DeliveryReceipt.create me messageId timestamp) }

/-- The chat a user keeps with itself. -/
def isSelf (recipientIdHex : String) : Bool := recipientIdHex = "self_saved_messages" || recipientIdHex = me.userIdHex

/-- The contact a user gets for itself with its first message to its own id. -/
def selfContact (db : MessengerDb) : SavedContact :=
  { userIdHex := me.userIdHex
    name := if db.displayName.isEmpty then "Мой узел (Вы)" else db.displayName ++ " (Вы)"
    bio := "Личные сообщения", ed25519PubHex := me.userIdHex, x25519PubHex := me.userIdHex,
    lastSeenAddr := "127.0.0.1:0" }

/-- Store a message, and with the first one to the own id a contact for it. -/
def storeWithSelf (db : MessengerDb) (msg : SavedChatMessage) : MessengerDb :=
  let db' := db.addMessage msg
  if msg.recipientIdHex = me.userIdHex ∧ (db'.contacts.lookup me.userIdHex).isNone then
    db'.addContact (selfContact me db')
  else db'

end Payloads

/-! ## Steps -/

/-- The user's calls and the steps of the tasks. `saved` says whether writing the database file worked. -/
inductive ClientAction where
  | receive (envelope : EncryptedEnvelope) (now : Nat)
  | handle (envelope : EncryptedEnvelope) (now : Nat) (dht : Dht) (saved : Bool)
  | audioFrame (packet : Bytes)
  | localOp (op : LocalOp) (saved : Bool)
  | sendMessage (recipientIdHex text : String) (imageBase64 : Option String) (now : Nat) (random : UInt32) (x : Sealing)
      (saved : Bool)
  | sendFile (recipientIdHex textPreview : String) (manifest : FileManifest) (now : Nat) (random : UInt32) (x : Sealing)
  | sendVoiceNote (recipientIdHex : String) (note : VoiceNote) (now : Nat) (random : UInt32) (x : Sealing)
      (saved : Bool)
  | reactToMessage (recipientIdHex messageId emoji : String) (now : Nat) (x : Sealing) (saved : Bool)
  | editMessage (recipientIdHex messageId newText : String) (now : Nat) (x : Sealing) (saved : Bool)
  /-- The members in the order the hash map gives them. -/
  | sendGroupMessage (groupId text : String) (members : List String) (now : Nat) (random : UInt32) (saved : Bool)
  | sendCallSignal (recipientIdHex callId : String) (signalType : CallSignalType) (text : String) (now : Nat)
      (random : UInt64) (x : Sealing)
  | sendCallAudio (recipientIdHex callId : String) (samples : List UInt16) (rate : UInt32) (seq : UInt64)
      (routing : Option (List Kad.Contact)) (nonce ephSeed : Bytes)
  | deleteMessagesForEveryone (recipientIdHex : String) (messageIds : List String) (now : UInt64) (x : Sealing)
      (saved : Bool)
  /-- The retry worker takes an item out of the outbox. -/
  | popPending (now : Nat) (x : Sealing)
  /-- A packet of the `i`-th attempt goes out. -/
  | transmit (i : Nat)
  /-- The `i`-th attempt is over. -/
  | finish (i : Nat) (now : Nat) (saved : Bool)
  /-- The `j`-th task goes on. -/
  | proceed (j : Nat) (now : Nat) (x : Sealing) (saved : Bool)
  | restart (now : Nat)

namespace Client

variable (J : PayloadJson) (T : PresenceText) {me : UserIdentity C}

/-- The database in memory. -/
def db (s : Client me) : MessengerDb := s.inbox.db

/-- Change the database and save it. -/
def setDb (s : Client me) (db : MessengerDb) (saved : Bool) : Client me :=
  { s with inbox := { s.inbox with db }, disk := if saved then some db else s.disk }

def attempt (s : Client me) (a : Attempt) : Client me := { s with attempts := s.attempts ++ [a] }

def later (s : Client me) (t : Todo) : Client me := { s with todo := s.todo ++ [t] }

/-- The first attempt with a message carries this. -/
def record (s : Client me) (p : ChatMessagePayload) : Client me := { s with sent := s.sent.upsert p }

/-- The recipient is looked for; one that discovery finds becomes a contact. -/
def resolve (s : Client me) (recipientIdHex : String) (x : Sealing) : Client me :=
  match NodeId.fromHex recipientIdHex, resolveRecipient C T x.dht s.db recipientIdHex with
  | .ok _, .ok d => if d.discovered then s.setDb d.db x.saved else s
  | _, _ => s

/-- `try_deliver_payload` begins. -/
def deliver (s : Client me) (job : Job) (recipientIdHex : String) (payload : ChatMessagePayload) (x : Sealing) :
    Client me :=
  (s.resolve T recipientIdHex x).attempt
    { job, recipientIdHex, payload
      sealed := (sealPayload C T J me x.dht s.db recipientIdHex payload x.ephSeed x.nonce x.timestamp).map (·.2) }

def sendMessage (s : Client me) (recipientIdHex text : String) (imageBase64 : Option String) (now : Nat)
    (random : UInt32) (x : Sealing) (saved : Bool) : Client me :=
  if s.db.isBlocked recipientIdHex then s
  else
    let msg := { outgoing me (newMessageId me now random) recipientIdHex text now with imageBase64 }
    if isSelf me recipientIdHex then s.setDb (storeWithSelf me s.db { msg with delivered := true }) saved
    else (s.record (messagePayload msg)).deliver J T (.message msg) recipientIdHex (messagePayload msg) x

def sendFile (s : Client me) (recipientIdHex textPreview : String) (manifest : FileManifest) (now : Nat)
    (random : UInt32) (x : Sealing) : Client me :=
  let msg := outgoing me (newMessageId me now random) recipientIdHex textPreview now
  (s.record (filePayload msg manifest)).deliver J T (.file msg) recipientIdHex (filePayload msg manifest) x

def sendVoiceNote (s : Client me) (recipientIdHex : String) (note : VoiceNote) (now : Nat) (random : UInt32)
    (x : Sealing) (saved : Bool) : Client me :=
  let text := "🎤 Voice message (" ++ note.formattedDuration ++ ")"
  let msg := { outgoing me (newMessageId me now random) recipientIdHex text now with voiceNote := some note }
  if isSelf me recipientIdHex then s.setDb (storeWithSelf me s.db { msg with delivered := true }) saved
  else (s.record (messagePayload msg)).deliver J T (.voiceNote msg) recipientIdHex (messagePayload msg) x

def reactToMessage (s : Client me) (recipientIdHex messageId emoji : String) (now : Nat) (x : Sealing) (saved : Bool) :
    Client me :=
  (s.setDb (s.db.addReaction messageId emoji me.userIdHex) saved).deliver J T .once recipientIdHex
    (reactionPayload me messageId emoji now) x

def editMessage (s : Client me) (recipientIdHex messageId newText : String) (now : Nat) (x : Sealing) (saved : Bool) :
    Client me :=
  -- the copy in the outbox keeps the text it has
  let editMsg := { outgoing me messageId recipientIdHex newText now with isEdited := true, editTimestamp := some now }
  (s.setDb (s.db.editMessage messageId newText now).1 saved).deliver J T .once recipientIdHex (messagePayload editMsg) x

/-- Stored as delivered, then sent to the other members one after the other. -/
def sendGroupMessage (s : Client me) (groupId text : String) (members : List String) (now : Nat) (random : UInt32)
    (saved : Bool) : Client me :=
  match s.db.groups.lookup groupId with
  | none => s
  | some g =>
    if members.toFinset = g.members.keys then
      let msg : SavedChatMessage :=
        { outgoing me (newMessageId me now random) groupId text now with groupId := some groupId, delivered := true }
      let s' := s.setDb (s.db.addMessage msg) saved
      { s' with todo := s'.todo ++ (members.filter (· ≠ me.userIdHex)).map fun member => .deliver member msg }
    else s

def deleteMessagesForEveryone (s : Client me) (recipientIdHex : String) (messageIds : List String) (now : UInt64)
    (x : Sealing) (saved : Bool) : Client me :=
  let out := Messenger.deleteMessagesForEveryone T J me x.dht s.db recipientIdHex messageIds now x.ephSeed x.nonce
    x.timestamp
  let s' := s.setDb out.db saved
  match out.handed with
  | none => s'
  | some h =>
    s'.attempt
      { job := .once, recipientIdHex, payload := { tombstone := some h.tombstone }, sealed := .ok (h.envelope J me) }

/-- Only to a saved contact with a key. -/
def sendDeliveryReceipt (s : Client me) (recipientIdHex messageId : String) (now : Nat) (x : Sealing) : Client me :=
  match NodeId.fromHex recipientIdHex, (s.db.contacts.lookup recipientIdHex).map fun c => hexDecode c.x25519PubHex with
  | .ok recipientId, some (.ok (some key)) =>
    if key.length = 32 then
      let payload := receiptPayload me messageId (UInt64.ofNat now)
      s.attempt
        { job := .once, recipientIdHex, payload
          sealed := .ok (encryptEnvelope C me recipientId key (J.print payload) x.ephSeed x.nonce x.timestamp) }
    else s
  | _, _ => s

/-- An admitted envelope is handled: a receipt ends the retries of its message, a message is acknowledged. -/
def handle (s : Client me) (e : EncryptedEnvelope) (now : Nat) (dht : Dht) (saved : Bool) : Client me :=
  match s.inbox.admitted.find? (·.envelope = e) with
  | none => s
  | some v =>
    let h := handlePayload J T me dht s.db v now
    { s with
      inbox := s.inbox.step J T (.handle e now dht)
      disk := if saved then some h.db else s.disk
      queue := match h.confirmed with
        | some id => s.queue.markDelivered id
        | none => s.queue
      todo := s.todo ++ (h.ack.map fun id => Todo.receipt v.senderHex id).toList
      receipts := match branch J me v.envelope (v.payload J) with
        | .deliveryReceipt receipt => s.receipts ++ [(v, receipt)]
        | _ => s.receipts }

/-- What becomes of the task an attempt was made for. Where sealing panics the task is gone. -/
def afterAttempt (s : Client me) (a : Attempt) (now : Nat) (saved : Bool) : Client me :=
  match a.job, a.sealed with
  | _, .panic => s
  | .message msg, .ok _ =>
    -- the outbox has the message before the database does
    { s with queue := s.queue.pushAfter msg a.recipientIdHex 8 now }.later (.store msg)
  | .message _, .err (.recipientVerifiedKeyMissing _) => s
  | .message _, .err (.contactBlocked _) => s
  | .message msg, .err _ => (s.setDb (s.db.addMessage msg) saved).later (.push msg a.recipientIdHex)
  -- for a file or a voice note the transport's word counts as the recipient's
  | .file msg, .ok _ => s.setDb (s.db.addMessage { msg with delivered := true }) saved
  | .file msg, .err _ => (s.setDb (s.db.addMessage msg) saved).later (.push msg a.recipientIdHex)
  | .voiceNote msg, .ok _ => s.setDb (s.db.addMessage { msg with delivered := true }) saved
  | .voiceNote msg, .err _ => (s.setDb (s.db.addMessage msg) saved).later (.push msg a.recipientIdHex)
  -- the worker puts its item back whatever came of the attempt
  | .retry item since, _ => { s with queue := s.queue.scheduleRetry item since }
  | .once, _ => s

def finish (s : Client me) (i now : Nat) (saved : Bool) : Client me :=
  match s.attempts[i]? with
  | none => s
  | some a => { s with attempts := s.attempts.eraseIdx i }.afterAttempt a now saved

/-- A task goes on. -/
def perform (s : Client me) (t : Todo) (now : Nat) (x : Sealing) (saved : Bool) : Client me :=
  match t with
  | .store msg => s.setDb (s.db.addMessage msg) saved
  | .push msg recipientIdHex => { s with queue := s.queue.push msg recipientIdHex now }
  | .deliver member msg => s.deliver J T .once member (messagePayload msg) x
  | .receipt recipientIdHex messageId => s.sendDeliveryReceipt J recipientIdHex messageId now x

def proceed (s : Client me) (j now : Nat) (x : Sealing) (saved : Bool) : Client me :=
  match s.todo[j]? with
  | none => s
  | some t => { s with todo := s.todo.eraseIdx j }.perform J T t now x saved

def popPending (s : Client me) (now : Nat) (x : Sealing) : Client me :=
  match s.queue.popPending now with
  | none => s
  | some (item, queue) =>
    { s with queue }.deliver J T (.retry item now) item.recipientId (messagePayload item.message) x

/-- The user's operations on the database alone; the others come with a call of their own. -/
def localOp (s : Client me) (op : LocalOp) (saved : Bool) : Client me :=
  match op with
  | .addMessage _ | .editMessage .. | .addReaction .. | .deleteMessagesByAuthor .. => s
  | .wipe => { s with inbox := { s.inbox with db := s.db.wipe }, disk := none }
  | op => s.setDb (op.apply s.db) saved

/-- A message `start` puts back into the outbox. -/
def isPending (me : UserIdentity C) (m : SavedChatMessage) : Bool :=
  !m.incoming && !m.delivered && !isSelf me m.recipientIdHex

def reload (me : UserIdentity C) (db : MessengerDb) (now : Nat) : MessageQueue :=
  (db.messages.list.filter (isPending me)).foldl (fun queue m => queue.push m m.recipientIdHex now) []

/-- Only the saved database outlives the process. -/
def restart (s : Client me) (now : Nat) : Client me :=
  match s.disk with
  | none => s
  | some db =>
    { inbox := { db }, disk := some db, queue := reload me db now, receipts := s.receipts, sent := s.sent }

def step (s : Client me) : ClientAction → Client me
  | .receive e now => { s with inbox := s.inbox.step J T (.receive e now) }
  | .handle e now dht saved => s.handle J T e now dht saved
  | .audioFrame packet => { s with audio := (receiveAudio J me s.db.contacts s.audio packet).1 }
  | .localOp op saved => s.localOp op saved
  | .sendMessage r text image now random x saved => s.sendMessage J T r text image now random x saved
  | .sendFile r text manifest now random x => s.sendFile J T r text manifest now random x
  | .sendVoiceNote r note now random x saved => s.sendVoiceNote J T r note now random x saved
  | .reactToMessage r id emoji now x saved => s.reactToMessage J T r id emoji now x saved
  | .editMessage r id text now x saved => s.editMessage J T r id text now x saved
  | .sendGroupMessage groupId text members now random saved => s.sendGroupMessage groupId text members now random saved
  | .sendCallSignal r callId signalType text now random x =>
    s.deliver J T .once r (callSignalPayload me r callId signalType text now random) x
  | .sendCallAudio .. => s
  | .deleteMessagesForEveryone r ids now x saved => s.deleteMessagesForEveryone J T r ids now x saved
  | .popPending now x => s.popPending J T now x
  | .transmit _ => s
  | .finish i now saved => s.finish i now saved
  | .proceed j now x saved => s.proceed J T j now x saved
  | .restart now => s.restart now

/-! ## What a step sends and reports -/

/-- Whom a step sends to: the recipient of the attempt's envelope, or of a voice frame. -/
def sendsTo (s : Client me) : ClientAction → Option String
  | .transmit i =>
    match s.attempts[i]? with
    | some a =>
      match a.sealed with
      | .ok _ => some a.recipientIdHex
      | _ => none
    | none => none
  | .sendCallAudio r callId samples rate seq routing nonce ephSeed =>
    match callAudioFrame T me s.db routing r callId samples rate seq nonce ephSeed with
    | .ok _ => some r
    | _ => none
  | _ => none

/-- What a step reports to the user interface, voice frames apart. -/
def events (s : Client me) : ClientAction → List MessengerEvent
  | .handle e now dht _ =>
    match s.inbox.admitted.find? (·.envelope = e) with
    | some v => (handlePayload J T me dht s.db v now).events
    | none => []
  | _ => []

end Client

/-! ## Runs to look at -/

namespace Talk

open NodeX.Sample

/-- JSON of the fields that occur. -/
def print (p : ChatMessagePayload) : Bytes :=
  jsonObject (
    (if p.id.isEmpty then [] else [("id", jsonString p.id)]) ++
    (if p.text.isEmpty then [] else [("text", jsonString p.text)]) ++
    (p.deliveryReceipt.map fun r => ("delivery_receipt", jsonObject [
      ("message_id", jsonString r.messageId), ("recipient_id", jsonString r.recipientId),
      ("timestamp", utf8 (toString r.timestamp.toNat)), ("signature", jsonBytes r.signature)])).toList ++
    (if p.isEdited then [("is_edited", utf8 "true")] else []) ++
    (p.editTimestamp.map fun ts => ("edit_timestamp", utf8 (toString ts))).toList)

/-- JSON as far as these payloads go. -/
def json (payloads : List ChatMessagePayload) : PayloadJson where
  print
  parse bs := payloads.find? (print · = bs)
  printTombstone _ := []
  utf8Lossy _ := ""

def presenceText : PresenceText where
  parseCard _ := .error "expected value at line 1 column 1"
  printSigned _ := []
  showAddr _ := "203.0.113.9:9000"
  parseAddr s := if s = "203.0.113.9:9000" then some ForeignCard.addr else none
  signatureError := "signature error"

def bobContact : SavedContact :=
  { userIdHex := bob.userIdHex, name := "Bob", bio := "", ed25519PubHex := hexString bob.verifyingKey
    x25519PubHex := hexString bob.x25519Public, lastSeenAddr := "203.0.113.9:9000" }

/-- The DHT answers nothing. -/
def sealing (timestamp : UInt64) : Sealing :=
  { dht := fun _ => .ok none, saved := true, ephSeed := List.replicate 32 1, nonce := List.replicate 12 1, timestamp }

/-- Alice, who knows Bob, after the actions. -/
def after (J : PayloadJson) (as : List ClientAction) : Client alice :=
  run (Client.step J presenceText) {} (.localOp (.addContact bobContact) true :: as)

def messageId : String := newMessageId alice 1700000000 7

/-- Alice's message to Bob is accepted and stored. -/
def message : List ClientAction := [
  .sendMessage bob.userIdHex "Hello Bob" none 1700000000 7 (sealing 1700000000) true,
  .transmit 0, .finish 0 1700000001 true, .proceed 0 1700000001 (sealing 1700000001) true]

end Talk

end NodeX.Messenger
