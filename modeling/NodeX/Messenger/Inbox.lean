/-
What the inbox loop does with an envelope: the checks before it is opened, the replay cache, and
the branches a payload can take, in the order the source tries them. An envelope is admitted and
handled in two steps, so that the local user's operations may fall between them; any number of
admitted envelopes may wait, of which the loop itself has at most one.
-/
import NodeX.Lib.Runs
import NodeX.Messenger.Presence

namespace NodeX.Messenger

open NodeX.Lib

/-! ## Replay protection -/

def maxReplayWindowSecs : Nat := 7 * 86400

def maxReplayCacheEntries : Nat := 100000

/-- `seen_hashes`: when the envelope behind a hash was sent. -/
abbrev ReplayCache := KeyedList (Prod.fst : Bytes × Nat → Bytes)

/-- The entry is inside the window at `now`. -/
def isFresh (now : Nat) (entry : Bytes × Nat) : Bool := now - entry.2 ≤ maxReplayWindowSecs

/-- `check_and_insert`: the cache after it, and whether the envelope is new. -/
def checkAndInsert (C : Crypto) (cache : ReplayCache) (signature : Bytes) (timestamp now : Nat) : ReplayCache × Bool :=
  if (now - timestamp) + (timestamp - now) > maxReplayWindowSecs then (cache, false)
  else
    let hash := C.sha256 signature
    let fresh := cache.filter (isFresh now)
    if (fresh.get? hash).isSome then (fresh, false)
    else if fresh.list.length ≥ maxReplayCacheEntries then (fresh, false)
    else (fresh.upsert (hash, timestamp), true)

/-- The window check: the timestamp is as near to the clock as allowed, on either side. -/
def InWindow (now timestamp : Nat) : Prop := (now - timestamp) + (timestamp - now) ≤ maxReplayWindowSecs

instance (now timestamp : Nat) : Decidable (InWindow now timestamp) := inferInstanceAs (Decidable (_ ≤ _))

/-- An entry that is no longer fresh is outside the window, then and later. -/
theorem not_inWindow_of_not_isFresh {now later : Nat} {entry : Bytes × Nat} (h : isFresh now entry = false)
    (hlater : now ≤ later) : ¬ InWindow later entry.2 := by
  unfold InWindow
  unfold isFresh at h
  rw [decide_eq_false_iff_not] at h
  omega

/-- What a call does: the window check fails and the cache stays as it is; or the expired entries go, and the signature
is refused because its hash is among the rest or the cache is full; or they go and it joins them. -/
theorem checkAndInsert_cases (C : Crypto) (cache : ReplayCache) (signature : Bytes) (timestamp now : Nat) :
    ¬InWindow now timestamp ∧ checkAndInsert C cache signature timestamp now = (cache, false) ∨
      InWindow now timestamp ∧
        (((cache.filter (isFresh now)).get? (C.sha256 signature)).isSome ∨
          maxReplayCacheEntries ≤ (cache.filter (isFresh now)).list.length) ∧
        checkAndInsert C cache signature timestamp now = (cache.filter (isFresh now), false) ∨
      InWindow now timestamp ∧ (cache.filter (isFresh now)).get? (C.sha256 signature) = none ∧
        (cache.filter (isFresh now)).list.length < maxReplayCacheEntries ∧
        checkAndInsert C cache signature timestamp now =
          ((cache.filter (isFresh now)).upsert (C.sha256 signature, timestamp), true) := by
  unfold checkAndInsert
  dsimp only
  split
  · rename_i hw
    exact .inl ⟨Nat.not_le.2 hw, rfl⟩
  · rename_i hw
    have hw : InWindow now timestamp := Nat.not_lt.1 hw
    split
    · rename_i hsome
      exact .inr (.inl ⟨hw, .inl hsome, rfl⟩)
    · rename_i hnone
      split
      · rename_i hfull
        exact .inr (.inl ⟨hw, .inr hfull, rfl⟩)
      · rename_i hroom
        exact .inr (.inr ⟨hw, Option.not_isSome_iff_eq_none.1 hnone, Nat.not_le.1 hroom, rfl⟩)

/-! ## Admission -/

variable {C : Crypto} (J : PayloadJson) (T : PresenceText) (me : UserIdentity C)

/-- An envelope that `decrypt_envelope` opened for this user. -/
structure Verified (me : UserIdentity C) where
  envelope : EncryptedEnvelope
  plaintext : Bytes
  opened : decryptEnvelope C me envelope = .ok plaintext
deriving DecidableEq

namespace Verified

variable {me}

def senderHex (v : Verified me) : String := v.envelope.senderId.toHex

/-- The payload: JSON, or else the whole plaintext as a text. -/
def payload (v : Verified me) : ChatMessagePayload :=
  (J.parse v.plaintext).getD { text := J.utf8Lossy v.plaintext }

end Verified

/-- The bytes an envelope is known by. -/
def replayKey (e : EncryptedEnvelope) : Bytes :=
  if !e.signature.isEmpty then e.signature else if !e.nonce.isEmpty then e.nonce else e.ciphertext

/-- The checks on an envelope in the loop: addressed here, no echo of a stored message, sender not
blocked, opened, not seen before. -/
def receive (db : MessengerDb) (cache : ReplayCache) (e : EncryptedEnvelope) (now : Nat) :
    ReplayCache × Option (Verified me) :=
  if e.recipientId ≠ me.userId then (cache, none)
  else if e.senderId = me.userId ∧ db.messages.list.any (fun m => m.timestamp = e.timestamp.toNat) then (cache, none)
  else if db.isBlocked e.senderId.toHex then (cache, none)
  else match h : decryptEnvelope C me e with
    | .error _ => (cache, none)
    | .ok plaintext =>
      match checkAndInsert C cache (replayKey e) e.timestamp.toNat now with
      | (cache', false) => (cache', none)
      | (cache', true) => (cache', some ⟨e, plaintext, h⟩)

/-! ## The branches of a payload -/

/-- Which branch takes the payload, in the order they are tried; a receipt, tombstone or reaction
that fails its own check is passed on to the branches below. -/
inductive Branch where
  | deliveryReceipt (receipt : DeliveryReceipt)
  | readReceipt
  | tombstone (deletedIds : List String)
  | callSignal (signal : CallSignalPayload)
  | callAudio (chunk : CallAudioChunk)
  | reaction (react : MessageReaction)
  | edit
  | newMessage
deriving DecidableEq

def tombstoneAccepted (e : EncryptedEnvelope) (t : SignedTombstone) : Bool :=
  t.recipientId = me.userIdHex && C.verify e.senderEd25519Pub (t.signingBytes J) t.signature

def branch (e : EncryptedEnvelope) (p : ChatMessagePayload) : Branch :=
  match p.deliveryReceipt.filter (·.verify C e.senderEd25519Pub) with
  | some receipt => .deliveryReceipt receipt
  | none =>
    if p.readReceipt.any (·.verify C e.senderEd25519Pub) then .readReceipt
    else match p.tombstone.filter (tombstoneAccepted J me e) with
      | some t => .tombstone t.deletedIds
      | none =>
        match p.callSignal with
        | some signal => .callSignal signal
        | none =>
          match p.callAudioChunk with
          | some chunk => .callAudio chunk
          | none =>
            match p.reaction.filter (·.isValidEmoji) with
            | some react => .reaction react
            | none => if p.isEdited && !p.id.isEmpty then .edit else .newMessage

/-- What handling an envelope leaves behind: the database, the message to acknowledge, the message
the outbox may forget, and the events. -/
structure Handled where
  db : MessengerDb
  ack : Option String := none
  confirmed : Option String := none
  events : List MessengerEvent := []

def handleDeliveryReceipt (db : MessengerDb) (senderHex : String) (receipt : DeliveryReceipt) : Handled :=
  if db.messages.list.any (fun m => m.id = receipt.messageId && m.recipientIdHex = senderHex && !m.incoming) then
    { db := db.markMessageDelivered receipt.messageId
      confirmed := some receipt.messageId
      events := [.messageDelivered receipt.messageId senderHex] }
  else { db }

/-- Only what the sender wrote is deleted; the other ids are held against the sender. -/
def handleTombstone (db : MessengerDb) (senderHex : String) (deletedIds : List String) : Handled :=
  let (db', actuallyDeleted) := db.deleteMessagesByAuthor deletedIds senderHex
  { db := db'.registerPendingTombstones senderHex deletedIds
    events := if actuallyDeleted.isEmpty then [] else [.messageDeleted senderHex actuallyDeleted] }

def handleCallSignal (db : MessengerDb) (senderHex : String) (signal : CallSignalPayload) (now : Nat) : Handled :=
  if signal.callerIdHex ≠ senderHex ∨ signal.calleeIdHex ≠ me.userIdHex then { db }
  else if (now - signal.timestamp) + (signal.timestamp - now) > 45 then { db }
  else { db, events := [.callSignalReceived signal] }

def handleCallAudio (db : MessengerDb) (e : EncryptedEnvelope) (chunk : CallAudioChunk) : Handled :=
  if e.recipientId != me.userId || chunk.callId.isEmpty || (utf8 chunk.pcmBase64).length > 16384 ||
      chunk.sampleRate < 8000 ||
      chunk.sampleRate > 48000 then { db }
  else { db, events := [.callAudioReceived e.senderId.toHex chunk] }

/-- The reactor takes part in the message: as a party to it or as a member of its group. -/
def isParticipant (db : MessengerDb) (senderHex messageId : String) : Bool :=
  db.messages.list.any fun m => m.id = messageId &&
    (m.senderIdHex = senderHex || m.recipientIdHex = senderHex ||
      m.groupId.any fun gid => (db.groups.lookup gid).any fun g => (g.members.lookup senderHex).isSome)

def handleReaction (db : MessengerDb) (senderHex : String) (react : MessageReaction) : Handled :=
  if isParticipant db senderHex react.messageId then
    { db := db.addReaction react.messageId react.emoji senderHex
      events := [.reactionAdded react.messageId react.emoji senderHex] }
  else { db }

def handleEdit (db : MessengerDb) (senderHex : String) (p : ChatMessagePayload) (now : Nat) : Handled :=
  match db.editMessageByAuthor p.id p.text (p.editTimestamp.getD now) senderHex with
  | (db', true) => { db := db', events := [.messageEdited p.id p.text] }
  | (db', false) => { db := db' }

/-- The message a payload stands for at its recipient. -/
def chatMessage (e : EncryptedEnvelope) (p : ChatMessagePayload) : SavedChatMessage :=
  { id := if p.id.isEmpty then toString e.timestamp.toNat ++ "_" ++ e.senderId.toHex else p.id
    senderIdHex := e.senderId.toHex
    recipientIdHex := me.userIdHex
    text := p.text
    imageBase64 := p.imageBase64
    voiceNote := p.voiceNote
    replyToId := p.replyToId
    replySnippet := p.replySnippet
    groupId := p.groupId
    timestamp := e.timestamp.toNat
    incoming := true
    delivered := true }

/-- A sender without a contact gets one, under the name discovery finds. -/
def ensureContact (dht : Dht) (db : MessengerDb) (e : EncryptedEnvelope) : MessengerDb :=
  let senderHex := e.senderId.toHex
  if (db.contacts.lookup senderHex).isSome then db
  else
    let (db', discovered) := discoverPeer C T dht db senderHex
    let (name, bio) := match discovered with
      | .ok card => (card.displayName, card.bio)
      | .error _ => ("Peer_" ++ String.ofList (senderHex.toList.take 6), "")
    db'.addContact
      { userIdHex := senderHex, name, bio, ed25519PubHex := hexString e.senderEd25519Pub
        x25519PubHex := hexString e.senderX25519Pub, lastSeenAddr := "unknown" }

/-- Store the message unless its id is retracted; a message with that id is replaced, whoever sent it. -/
def handleNewMessage (dht : Dht) (db : MessengerDb) (e : EncryptedEnvelope) (p : ChatMessagePayload) : Handled :=
  let msg := chatMessage me e p
  let db' := ensureContact (C := C) T dht db e
  if db'.isTombstoned e.senderId.toHex msg.id then { db := db' }
  else
    let db'' := db'.addMessage msg
    { db := db''
      ack := some msg.id
      events := if db'.messages.list.length < db''.messages.list.length then
        [.contactsUpdated db''.contacts, .messageReceived msg] else [] }

def handleBranch (dht : Dht) (db : MessengerDb) (v : Verified me) (now : Nat) : Branch → Handled
  | .deliveryReceipt receipt => handleDeliveryReceipt db v.senderHex receipt
  | .readReceipt => { db }
  | .tombstone ids => handleTombstone db v.senderHex ids
  | .callSignal signal => handleCallSignal me db v.senderHex signal now
  | .callAudio chunk => handleCallAudio me db v.envelope chunk
  | .reaction react => handleReaction db v.senderHex react
  | .edit => handleEdit db v.senderHex (v.payload J) now
  | .newMessage => handleNewMessage T me dht db v.envelope (v.payload J)

/-- What the loop does with an admitted envelope. -/
def handlePayload (dht : Dht) (db : MessengerDb) (v : Verified me) (now : Nat) : Handled :=
  handleBranch J T me dht db v now (branch J me v.envelope (v.payload J))

/-! ## The local user -/

/-- What the local user does to the database. Every kind of sending, and the call log, adds a message. -/
inductive LocalOp where
  | addMessage (msg : SavedChatMessage)
  | editMessage (messageId newText : String) (editTs : Nat)
  | addReaction (messageId emoji reactorId : String)
  | togglePinMessage (messageId : String)
  | cleanupExpiredMessages (currentTs : Nat)
  | deleteMessage (messageId : String)
  | deleteMessages (messageIds : List String)
  | deleteMessagesByAuthor (messageIds : List String) (authorHex : String)
  | clearMessagesForContact (contactIdHex : String)
  | deleteContact (contactIdHex : String)
  | blockUser (userIdHex : String)
  | unblockUser (userIdHex : String)
  | addContact (contact : SavedContact)
  | addGroup (group : P2PGroup)
  | wipe
deriving DecidableEq

/-- What `wipe_local_data` does to the database in memory. -/
def MessengerDb.wipe (db : MessengerDb) : MessengerDb :=
  { db with
    contacts := ∅, messages := ∅, deletedMessageIds := ∅, blockedUserIds := ∅, mnemonic := ""
    userSeed := List.replicate 32 0, displayName := "", bio := "" }

def LocalOp.apply (db : MessengerDb) : LocalOp → MessengerDb
  | addMessage msg => db.addMessage msg
  | editMessage id text ts => (db.editMessage id text ts).1
  | addReaction id emoji reactor => db.addReaction id emoji reactor
  | togglePinMessage id => db.togglePinMessage id
  | cleanupExpiredMessages now => db.cleanupExpiredMessages now
  | deleteMessage id => db.deleteMessage id
  | deleteMessages ids => db.deleteMessages ids
  | deleteMessagesByAuthor ids author => (db.deleteMessagesByAuthor ids author).1
  | clearMessagesForContact contact => db.clearMessagesForContact contact
  | deleteContact contact => db.deleteContact contact
  | blockUser user => db.blockUser user
  | unblockUser user => db.unblockUser user
  | addContact contact => db.addContact contact
  | addGroup group => db.addGroup group
  | wipe => db.wipe

/-! ## Runs of the inbox -/

/-- The database, the replay cache, and the envelopes admitted and not handled yet. -/
structure Inbox (me : UserIdentity C) where
  db : MessengerDb := {}
  cache : ReplayCache := ∅
  admitted : List (Verified me) := []

/-- An envelope is admitted at a clock reading; an admitted one is handled, at a reading and with
what the DHT answers then; the local user acts. -/
inductive InboxAction where
  | receive (envelope : EncryptedEnvelope) (now : Nat)
  | handle (envelope : EncryptedEnvelope) (now : Nat) (dht : Dht)
  | localOp (op : LocalOp)

namespace Inbox

variable {me}

def step (s : Inbox me) : InboxAction → Inbox me
  | .receive e now =>
    match Messenger.receive me s.db s.cache e now with
    | (cache, none) => { s with cache }
    | (cache, some v) => { s with cache, admitted := s.admitted ++ [v] }
  | .handle e now dht =>
    match s.admitted.find? (·.envelope = e) with
    | none => s
    | some v =>
      { s with db := (handlePayload J T me dht s.db v now).db
               admitted := s.admitted.eraseP (·.envelope = e) }
  | .localOp op => { s with db := op.apply s.db }

end Inbox

/-! ## What handling does to the stored messages -/

section Effects

variable {me}

@[simp] theorem message?_discoverPeer (dht : Dht) (db : MessengerDb) (r k : String) :
    (discoverPeer C T dht db r).1.message? k = db.message? k := by
  obtain ⟨contacts, h⟩ := fst_discoverPeer C T dht db r
  rw [h]
  rfl

theorem Inbox.db_step_receive (s : Inbox me) (e : EncryptedEnvelope) (now : Nat) :
    (s.step J T (.receive e now)).db = s.db := by
  unfold Inbox.step
  dsimp only
  split <;> rfl

/-- What is admitted is the envelope itself, of a sender who is not blocked. -/
theorem receive_eq_some {db : MessengerDb} {cache cache' : ReplayCache} {e : EncryptedEnvelope} {now : Nat}
    {v : Verified me} (h : receive me db cache e now = (cache', some v)) :
    v.envelope = e ∧ db.isBlocked e.senderId.toHex = false := by
  unfold receive at h
  split at h
  · cases h
  · split at h
    · cases h
    · split at h
      · cases h
      · rename_i hblocked
        split at h
        · cases h
        · split at h
          · cases h
          · cases h
            exact ⟨rfl, eq_false_of_ne_true hblocked⟩

/-- Making a contact changes nothing else that the branches read. -/
theorem ensureContact_frame (dht : Dht) (db : MessengerDb) (e : EncryptedEnvelope) :
    let db' := ensureContact (C := C) T dht db e
    db'.messages = db.messages ∧ db'.deletedMessageIds = db.deletedMessageIds ∧
      db'.pendingTombstones = db.pendingTombstones ∧ db'.blockedUserIds = db.blockedUserIds ∧
      db'.groups = db.groups := by
  have hd : ∀ r, (discoverPeer C T dht db r).1.messages = db.messages ∧
      (discoverPeer C T dht db r).1.deletedMessageIds = db.deletedMessageIds ∧
      (discoverPeer C T dht db r).1.pendingTombstones = db.pendingTombstones ∧
      (discoverPeer C T dht db r).1.blockedUserIds = db.blockedUserIds ∧
      (discoverPeer C T dht db r).1.groups = db.groups := by
    intro r
    obtain ⟨contacts, h⟩ := fst_discoverPeer C T dht db r
    rw [h]
    exact ⟨rfl, rfl, rfl, rfl, rfl⟩
  intro db'
  by_cases hc : (db.contacts.lookup e.senderId.toHex).isSome
  · rw [show db' = db from if_pos hc]
    exact ⟨rfl, rfl, rfl, rfl, rfl⟩
  · rw [show db' = _ from if_neg hc]
    exact hd _

theorem db_handleCallSignal (db : MessengerDb) (sender : String) (signal : CallSignalPayload) (now : Nat) :
    (handleCallSignal me db sender signal now).db = db := by
  unfold handleCallSignal
  repeat' split
  all_goals rfl

theorem db_handleCallAudio (db : MessengerDb) (e : EncryptedEnvelope) (chunk : CallAudioChunk) :
    (handleCallAudio me db e chunk).db = db := by
  unfold handleCallAudio
  split <;> rfl

theorem db_handleEdit (db : MessengerDb) (sender : String) (p : ChatMessagePayload) (now : Nat) :
    (handleEdit db sender p now).db = (db.editMessageByAuthor p.id p.text (p.editTimestamp.getD now) sender).1 := by
  unfold handleEdit
  split <;> rename_i heq <;> rw [heq]

theorem db_handleNewMessage (dht : Dht) (db : MessengerDb) (e : EncryptedEnvelope) (p : ChatMessagePayload) :
    (handleNewMessage T me dht db e p).db =
      if db.isTombstoned e.senderId.toHex (chatMessage me e p).id then ensureContact (C := C) T dht db e
      else (ensureContact (C := C) T dht db e).addMessage (chatMessage me e p) := by
  obtain ⟨-, hd, hp, -⟩ := ensureContact_frame (C := C) T dht db e
  have htomb : ∀ id, (ensureContact (C := C) T dht db e).isTombstoned e.senderId.toHex id =
      db.isTombstoned e.senderId.toHex id := fun id => by
    unfold MessengerDb.isTombstoned; rw [hd, hp]
  unfold handleNewMessage
  dsimp only
  rw [htomb]
  cases db.isTombstoned e.senderId.toHex (chatMessage me e p).id <;> rfl

/-- What the new-message branch leaves under `k`. -/
theorem message?_handleNewMessage (dht : Dht) (db : MessengerDb) (e : EncryptedEnvelope) (p : ChatMessagePayload)
    (k : String) : (handleNewMessage T me dht db e p).db.message? k =
      if (chatMessage me e p).id = k ∧ db.isTombstoned e.senderId.toHex k = false then some (chatMessage me e p)
      else db.message? k := by
  obtain ⟨hm, hd, -⟩ := ensureContact_frame (C := C) T dht db e
  have hmsg : (ensureContact (C := C) T dht db e).message? k = db.message? k := by
    unfold MessengerDb.message?; rw [hm]
  rw [db_handleNewMessage]
  by_cases hk : (chatMessage me e p).id = k
  · rw [hk]
    cases ht : db.isTombstoned e.senderId.toHex k with
    | true => rw [if_pos rfl, hmsg, if_neg (fun h => by cases h.2)]
    | false =>
      have hdel : k ∉ db.deletedMessageIds := fun hmem => by simp [MessengerDb.isTombstoned, hmem] at ht
      rw [if_neg (by decide), MessengerDb.message?_addMessage, hk, hd, if_pos ⟨rfl, hdel⟩, if_pos ⟨rfl, rfl⟩]
  · have hne : ¬((chatMessage me e p).id = k ∧ db.isTombstoned e.senderId.toHex k = false) := fun h => hk h.1
    rw [if_neg hne]
    split
    · exact hmsg
    · rw [MessengerDb.message?_addMessage, if_neg (fun h => hk h.1), hmsg]

theorem frame_handleDeliveryReceipt (db : MessengerDb) (sender : String) (r : DeliveryReceipt) :
    (handleDeliveryReceipt db sender r).db.deletedMessageIds = db.deletedMessageIds ∧
      (handleDeliveryReceipt db sender r).db.pendingTombstones = db.pendingTombstones ∧
      (handleDeliveryReceipt db sender r).db.blockedUserIds = db.blockedUserIds := by
  unfold handleDeliveryReceipt
  split <;> exact ⟨rfl, rfl, rfl⟩

theorem frame_handleReaction (db : MessengerDb) (sender : String) (r : MessageReaction) :
    (handleReaction db sender r).db.deletedMessageIds = db.deletedMessageIds ∧
      (handleReaction db sender r).db.pendingTombstones = db.pendingTombstones ∧
      (handleReaction db sender r).db.blockedUserIds = db.blockedUserIds := by
  unfold handleReaction
  split <;> exact ⟨rfl, rfl, rfl⟩

/-- Only a tombstone touches the deleted and the retracted ids; nothing touches the blocked users. -/
theorem frame_handleBranch (dht : Dht) (db : MessengerDb) (v : Verified me) (now : Nat) : ∀ br : Branch,
    (∀ ids, br ≠ .tombstone ids) →
    (handleBranch J T me dht db v now br).db.deletedMessageIds = db.deletedMessageIds ∧
      (handleBranch J T me dht db v now br).db.pendingTombstones = db.pendingTombstones ∧
      (handleBranch J T me dht db v now br).db.blockedUserIds = db.blockedUserIds
  | .deliveryReceipt r, _ => frame_handleDeliveryReceipt db v.senderHex r
  | .readReceipt, _ => ⟨rfl, rfl, rfl⟩
  | .tombstone ids, h => absurd rfl (h ids)
  | .callSignal signal, _ => by
    rw [handleBranch, db_handleCallSignal]
    exact ⟨rfl, rfl, rfl⟩
  | .callAudio chunk, _ => by
    rw [handleBranch, db_handleCallAudio]
    exact ⟨rfl, rfl, rfl⟩
  | .reaction r, _ => frame_handleReaction db v.senderHex r
  | .edit, _ => by
    rw [handleBranch, db_handleEdit]
    exact db.frame_editMessageByAuthor ..
  | .newMessage, _ => by
    obtain ⟨-, hd, hp, hbl, -⟩ := ensureContact_frame (C := C) T dht db v.envelope
    rw [handleBranch, db_handleNewMessage]
    split
    · exact ⟨hd, hp, hbl⟩
    · obtain ⟨hd', hp', hbl'⟩ := (ensureContact (C := C) T dht db v.envelope).frame_addMessage
        (chatMessage me v.envelope (v.payload J))
      exact ⟨hd'.trans hd, hp'.trans hp, hbl'.trans hbl⟩

end Effects

end NodeX.Messenger
