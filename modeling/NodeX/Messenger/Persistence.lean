/-
What is on disk when a message is acknowledged. The inbox loop saves the database after a message is in and then starts
the task that sends the receipt; the error of `save_to_file` is dropped, so the receipt goes out all the same.
-/
import NodeX.Messenger.Client
import NodeX.Messenger.Redelivery

namespace NodeX.Messenger

open NodeX.Lib

variable {C : Crypto}

/-! ## What happens -/

inductive InboxEvent where
  /-- The loop puts a message of the author into the database in memory. -/
  | stored (authorHex messageId : String)
  /-- The user's side puts one there. -/
  | added (senderHex messageId : String)
  /-- `save_to_file` returned `Ok`. -/
  | saved (db : MessengerDb)
  /-- A packet with a receipt goes out. -/
  | acknowledged (authorHex messageId : String)
  | wiped
  | expired
  | restarted
deriving DecidableEq

namespace InboxEvent

/-- The event may take the message of an author out of memory, with no record that it was deleted. -/
def Displaces (authorHex messageId : String) : InboxEvent → Prop
  | stored a k | added a k => k = messageId ∧ a ≠ authorHex
  | wiped | expired | restarted => True
  | saved _ | acknowledged .. => False

/-- What is on disk after the event. -/
def onDisk (disk : Option MessengerDb) : InboxEvent → Option MessengerDb
  | saved db => some db
  | wiped => none
  | _ => disk

end InboxEvent

/-- The database has the author's message, or a record that it was deleted. -/
def MessengerDb.Records (db : MessengerDb) (authorHex messageId : String) : Prop :=
  db.isTombstoned authorHex messageId = true ∨ ∃ m, db.message? messageId = some m ∧ m.senderIdHex = authorHex

/-! ## What an envelope saves -/

section Saves

variable (J : PayloadJson) (T : PresenceText) (me : UserIdentity C)

/-- What is passed to `save_to_file` while a sender gets its contact: by discovery, and by the loop. -/
def contactSaves (dht : Dht) (db : MessengerDb) (e : EncryptedEnvelope) : List MessengerDb :=
  if (db.contacts.lookup e.senderId.toHex).isSome then []
  else
    let (db', discovered) := discoverPeer C T dht db e.senderId.toHex
    (match discovered with
      | .ok _ => [db']
      | .error _ => []) ++ [ensureContact (C := C) T dht db e]

/-- Whether a branch saves what it leaves. -/
def Branch.saves (dht : Dht) (db : MessengerDb) (v : Verified me) (now : Nat) : Branch → Bool
  | .deliveryReceipt receipt => (handleDeliveryReceipt db v.senderHex receipt).confirmed.isSome
  | .readReceipt | .callSignal _ | .callAudio _ => false
  | .tombstone _ => true
  | .reaction react => isParticipant db v.senderHex react.messageId
  | .edit =>
    (db.editMessageByAuthor (v.payload J).id (v.payload J).text ((v.payload J).editTimestamp.getD now) v.senderHex).2
  | .newMessage => (handleNewMessage T me dht db v.envelope (v.payload J)).ack.isSome

/-- Those of them that are written. -/
def savedContacts (dht : Dht) (db : MessengerDb) (v : Verified me) (contactSaved : Nat → Bool) : List MessengerDb :=
  if branch J me v.envelope (v.payload J) = .newMessage then
    ((contactSaves (C := C) T dht db v.envelope).zipIdx.filter fun p => contactSaved p.2).map Prod.fst
  else []

/-- Handling an envelope: the contact is saved, the message is stored, the database is saved. -/
def handleEvents (dht : Dht) (db : MessengerDb) (v : Verified me) (now : Nat) (contactSaved : Nat → Bool)
    (saved : Bool) : List InboxEvent :=
  let h := handlePayload J T me dht db v now
  (savedContacts J T me dht db v contactSaved).map .saved ++ (h.ack.map fun id => .stored v.senderHex id).toList ++
    if (branch J me v.envelope (v.payload J)).saves J T me dht db v now && saved then [.saved h.db] else []

end Saves

/-- What an operation of the user does besides the save. -/
def LocalOp.event? (db : MessengerDb) : LocalOp → Option InboxEvent
  | addMessage msg => if msg.id ∈ db.deletedMessageIds then none else some (.added msg.senderIdHex msg.id)
  | cleanupExpiredMessages now => if db.messages.list.any (fun m => !m.isLive now) then some .expired else none
  | wipe => some .wiped
  | _ => none

def LocalOp.events (db : MessengerDb) (op : LocalOp) (saved : Bool) : List InboxEvent :=
  (op.event? db).toList ++ if op ≠ .wipe ∧ saved then [.saved (op.apply db)] else []

/-! ## Runs -/

/-- The inbox, the file, the tasks that were started to send receipts, the receipts sealed, and what happened. -/
structure Recipient (me : UserIdentity C) where
  inbox : Inbox me := {}
  disk : Option MessengerDb := none
  tasks : List (String × String) := []
  outgoing : List Attempt := []
  history : List InboxEvent := []

/-- The steps of the loop and of the tasks it starts, with how every `save_to_file` ends: `contactSaved i` is for the
`i`-th on the way to a contact. -/
inductive RecipientAction where
  | receive (envelope : EncryptedEnvelope) (now : Nat)
  | handle (envelope : EncryptedEnvelope) (now : Nat) (dht : Dht) (contactSaved : Nat → Bool) (saved : Bool)
  /-- The `j`-th task seals its receipt. -/
  | acknowledge (j : Nat) (now : Nat) (x : Sealing)
  /-- A packet of the `i`-th receipt goes out. -/
  | transmit (i : Nat)
  | localOp (op : LocalOp) (saved : Bool)
  | restart

/-- Whose message a receipt is for. -/
def Attempt.acknowledges? (a : Attempt) : Option (String × String) :=
  a.payload.deliveryReceipt.map fun receipt => (a.recipientIdHex, receipt.messageId)

namespace Recipient

variable (J : PayloadJson) (T : PresenceText) {me : UserIdentity C}

def db (s : Recipient me) : MessengerDb := s.inbox.db

def record (s : Recipient me) (events : List InboxEvent) : Recipient me :=
  { s with disk := events.foldl InboxEvent.onDisk s.disk, history := s.history ++ events }

def handle (s : Recipient me) (e : EncryptedEnvelope) (now : Nat) (dht : Dht) (contactSaved : Nat → Bool)
    (saved : Bool) : Recipient me :=
  match s.inbox.admitted.find? (·.envelope = e) with
  | none => s
  | some v =>
    { s.record (handleEvents J T me dht s.db v now contactSaved saved) with
      inbox := s.inbox.step J T (.handle e now dht)
      tasks := s.tasks ++ ((handlePayload J T me dht s.db v now).ack.map fun id => (v.senderHex, id)).toList }

def acknowledge (s : Recipient me) (j now : Nat) (x : Sealing) : Recipient me :=
  match s.tasks[j]? with
  | none => s
  | some (authorHex, messageId) =>
    let sealed := (({ inbox := s.inbox } : Client me).sendDeliveryReceipt J authorHex messageId now x).attempts
    { s with tasks := s.tasks.eraseIdx j, outgoing := s.outgoing ++ sealed }

def transmit (s : Recipient me) (i : Nat) : Recipient me :=
  match (s.outgoing[i]?).bind Attempt.acknowledges? with
  | none => s
  | some (authorHex, messageId) => s.record [.acknowledged authorHex messageId]

def localOp (s : Recipient me) (op : LocalOp) (saved : Bool) : Recipient me :=
  { s.record (op.events s.db saved) with inbox := s.inbox.step J T (.localOp op) }

/-- The database is read again; the tasks are gone. -/
def restart (s : Recipient me) : Recipient me :=
  match s.disk with
  | none => s
  | some db => { s.record [.restarted] with inbox := { db }, tasks := [], outgoing := [] }

def step (s : Recipient me) : RecipientAction → Recipient me
  | .receive e now => { s with inbox := s.inbox.step J T (.receive e now) }
  | .handle e now dht contactSaved saved => s.handle J T e now dht contactSaved saved
  | .acknowledge j now x => s.acknowledge J j now x
  | .transmit i => s.transmit i
  | .localOp op saved => s.localOp J T op saved
  | .restart => s.restart

/-- A process with this database, and this file, on which nothing has happened. -/
def start (me : UserIdentity C) (db : MessengerDb) (disk : Option MessengerDb) : Recipient me :=
  { inbox := { db }, disk }

/-- What happens in a run. -/
def trace (me : UserIdentity C) (db : MessengerDb) (disk : Option MessengerDb) (as : List RecipientAction) :
    List InboxEvent :=
  (run (step J T) (start me db disk) as).history

end Recipient

/-! ## Receipts and saves -/

/-- Since the author's message was received, a database with it, or with a record of its deletion, was written. -/
def PersistedSince (h : List InboxEvent) (authorHex messageId : String) : Prop :=
  ∃ pre post db, h = pre ++ .stored authorHex messageId :: post ∧ .saved db ∈ post ∧ db.Records authorHex messageId

/-- Every receipt that went out is for a message that was written since it was received. -/
def ReceiptsPersisted (h : List InboxEvent) : Prop :=
  ∀ pre authorHex messageId post, h = pre ++ .acknowledged authorHex messageId :: post →
    PersistedSince pre authorHex messageId

/-- Since the message was stored a save succeeded, and before it nothing could take the message out of memory. -/
def SavedSince (h : List InboxEvent) (authorHex messageId : String) : Prop :=
  ∃ pre mid db post, h = pre ++ .stored authorHex messageId :: (mid ++ .saved db :: post) ∧
    ∀ ev ∈ mid, ¬ev.Displaces authorHex messageId

def ReceiptsSaved (h : List InboxEvent) : Prop :=
  ∀ pre authorHex messageId post, h = pre ++ .acknowledged authorHex messageId :: post →
    SavedSince pre authorHex messageId

/-! ## Memory keeps what it records -/

namespace MessengerDb

/-- Whatever the first database records, the second does. -/
def Keeps (db db' : MessengerDb) : Prop := ∀ authorHex messageId, db.Records authorHex messageId →
  db'.Records authorHex messageId

variable {db db' : MessengerDb}

theorem isTombstoned_iff {authorHex messageId : String} : db.isTombstoned authorHex messageId = true ↔
    messageId ∈ db.deletedMessageIds ∨ (authorHex, messageId) ∈ db.pendingTombstones := by
  unfold isTombstoned
  simp only [Bool.or_eq_true, decide_eq_true_eq]

/-- Deleted ids stay, and a message stays its sender's or is deleted. -/
theorem Keeps.of_messages (hdel : db.deletedMessageIds ⊆ db'.deletedMessageIds)
    (hpend : db.pendingTombstones ⊆ db'.pendingTombstones)
    (hmsg : ∀ k m, db.message? k = some m → k ∈ db'.deletedMessageIds ∨
      ∃ m', db'.message? k = some m' ∧ m'.senderIdHex = m.senderIdHex) : db.Keeps db' := by
  intro authorHex messageId h
  rcases h with htomb | ⟨m, hm, hsender⟩
  · rcases isTombstoned_iff.1 htomb with h | h
    · exact .inl (isTombstoned_iff.2 (.inl (hdel h)))
    · exact .inl (isTombstoned_iff.2 (.inr (hpend h)))
  · rcases hmsg messageId m hm with h | ⟨m', hm', hsender'⟩
    · exact .inl (isTombstoned_iff.2 (.inl h))
    · exact .inr ⟨m', hm', hsender'.trans hsender⟩

theorem Keeps.refl (db : MessengerDb) : db.Keeps db := fun _ _ h => h

theorem Keeps.of_eq (hmessages : db'.messages = db.messages) (hdel : db'.deletedMessageIds = db.deletedMessageIds)
    (hpend : db'.pendingTombstones = db.pendingTombstones) : db.Keeps db' := by
  refine .of_messages (hdel ▸ Finset.Subset.refl _) (hpend ▸ Finset.Subset.refl _) fun k m hm => .inr ⟨m, ?_, rfl⟩
  unfold message?
  rw [hmessages]
  exact hm

theorem keeps_modifyMessage (id : String) (f : SavedChatMessage → SavedChatMessage) (hf : ∀ m, (f m).id = m.id)
    (hsender : ∀ m, (f m).senderIdHex = m.senderIdHex) : db.Keeps (db.modifyMessage id f hf) := by
  refine .of_messages (Finset.Subset.refl _) (Finset.Subset.refl _) fun k m hm => .inr ?_
  rw [message?_modifyMessage, hm]
  split
  · exact ⟨f m, rfl, hsender m⟩
  · exact ⟨m, rfl, rfl⟩

theorem keeps_editMessage (id text : String) (ts : Nat) : db.Keeps (db.editMessage id text ts).1 := by
  unfold editMessage
  split
  · exact keeps_modifyMessage id _ _ fun _ => rfl
  · exact .refl db

theorem keeps_editMessageByAuthor (id text : String) (ts : Nat) (author : String) :
    db.Keeps (db.editMessageByAuthor id text ts author).1 := by
  unfold editMessageByAuthor
  split
  · split
    · exact .refl db
    · exact keeps_modifyMessage id _ _ fun _ => rfl
  · exact .refl db

theorem keeps_togglePinMessage (id : String) : db.Keeps (db.togglePinMessage id) := by
  unfold togglePinMessage
  split
  · exact keeps_modifyMessage id .togglePin SavedChatMessage.id_togglePin fun _ => rfl
  · exact .refl db

theorem keeps_deleteMessages (ids : List String) : db.Keeps (db.deleteMessages ids) := by
  refine .of_messages Finset.subset_union_left (Finset.Subset.refl _) fun k m hm => ?_
  by_cases hk : k ∈ ids
  · exact .inl (Finset.mem_union_right _ (List.mem_toFinset.2 hk))
  · refine .inr ⟨m, ?_, rfl⟩
    rw [message?_deleteMessages, if_neg hk, hm]

theorem keeps_deleteMessage (id : String) : db.Keeps (db.deleteMessage id) := by
  refine .of_messages (Finset.subset_insert _ _) (Finset.Subset.refl _) fun k m hm => ?_
  by_cases hk : id = k
  · exact .inl (hk ▸ Finset.mem_insert_self _ _)
  · refine .inr ⟨m, ?_, rfl⟩
    rw [message?_deleteMessage, if_neg hk, hm]

theorem keeps_deleteMessagesByAuthor (ids : List String) (author : String) :
    db.Keeps (db.deleteMessagesByAuthor ids author).1 := by
  have hdeleted := mem_deletedMessageIds_deleteMessagesByAuthor db ids author
  refine .of_messages (fun k hk => (hdeleted k).2 (.inl hk))
    (by rw [(frame_deleteMessagesByAuthor db ids author).1]) fun k m hm => ?_
  by_cases hk : k ∈ ids ∧ m.senderIdHex = author
  · exact .inl ((hdeleted k).2 (.inr ⟨hk.1, m, hm, hk.2⟩))
  · refine .inr ⟨m, ?_, rfl⟩
    rw [message?_deleteMessagesByAuthor, hm]
    split
    · rename_i hmem
      exact Option.filter_eq_some_iff.2 ⟨rfl, by simpa using fun h => hk ⟨hmem, h⟩⟩
    · rfl

theorem keeps_clearMessagesForContact (db : MessengerDb) (c : String) : db.Keeps (db.clearMessagesForContact c) := by
  have hdeleted := mem_deletedMessageIds_clearMessagesForContact db c
  refine .of_messages (fun k hk => (hdeleted k).2 (.inl hk)) (Finset.Subset.refl _) fun k m hm => ?_
  cases hc : m.inConversation c with
  | true => exact .inl ((hdeleted k).2 (.inr ⟨m, hm, hc⟩))
  | false =>
    refine .inr ⟨m, ?_, rfl⟩
    rw [message?_clearMessagesForContact, hm]
    exact Option.filter_eq_some_iff.2 ⟨rfl, by simp [hc]⟩

theorem keeps_registerPendingTombstones (authorHex : String) (ids : List String) :
    db.Keeps (db.registerPendingTombstones authorHex ids) :=
  .of_messages (Finset.Subset.refl _) Finset.subset_union_left fun _ m hm => .inr ⟨m, hm, rfl⟩

/-- A message puts out of the way another sender's under the same id, unless the id is deleted. -/
theorem records_addMessage {msg : SavedChatMessage} {authorHex messageId : String} (h : db.Records authorHex messageId)
    (hmsg : msg.id = messageId → msg.id ∉ db.deletedMessageIds → msg.senderIdHex = authorHex) :
    (db.addMessage msg).Records authorHex messageId := by
  obtain ⟨hdel, hpend, -⟩ := db.frame_addMessage msg
  rcases h with htomb | ⟨m, hm, hsender⟩
  · exact .inl (isTombstoned_iff.2 (hdel ▸ hpend ▸ isTombstoned_iff.1 htomb))
  · right
    rw [message?_addMessage]
    split
    · rename_i hid
      exact ⟨msg, rfl, hmsg hid.1 hid.2⟩
    · exact ⟨m, hm, hsender⟩

end MessengerDb

/-- An operation of the user takes no message out of memory without a record, but as its event says. -/
theorem LocalOp.records_apply {op : LocalOp} {db : MessengerDb} {authorHex messageId : String}
    (h : db.Records authorHex messageId) (hevent : ∀ ev ∈ op.event? db, ¬ev.Displaces authorHex messageId) :
    (op.apply db).Records authorHex messageId := by
  cases op with
  | addMessage msg =>
    refine MessengerDb.records_addMessage h fun hid hdel => ?_
    by_contra hsender
    exact hevent (.added msg.senderIdHex msg.id) (by simp [event?, hdel]) ⟨hid, hsender⟩
  | cleanupExpiredMessages now =>
    rcases h with htomb | ⟨m, hm, hsender⟩
    · exact .inl htomb
    · refine .inr ⟨m, ?_, hsender⟩
      rw [apply, MessengerDb.message?_cleanupExpiredMessages, hm]
      refine Option.filter_eq_some_iff.2 ⟨rfl, ?_⟩
      by_contra hlive
      have hmem : m ∈ db.messages.list := KeyedList.mem_of_get? hm
      have hany : db.messages.list.any (fun m => !m.isLive now) = true :=
        List.any_eq_true.2 ⟨m, hmem, by simp [hlive]⟩
      exact hevent .expired (by simp only [event?, hany, if_true, Option.mem_def]) trivial
  | wipe => exact absurd trivial (hevent .wiped rfl)
  | editMessage id text ts => exact MessengerDb.keeps_editMessage id text ts _ _ h
  | addReaction id emoji reactor =>
    exact MessengerDb.keeps_modifyMessage id _ (·.id_addReaction emoji reactor) (fun _ => rfl) _ _ h
  | togglePinMessage id => exact MessengerDb.keeps_togglePinMessage id _ _ h
  | deleteMessage id => exact MessengerDb.keeps_deleteMessage id _ _ h
  | deleteMessages ids => exact MessengerDb.keeps_deleteMessages ids _ _ h
  | deleteMessagesByAuthor ids author => exact MessengerDb.keeps_deleteMessagesByAuthor ids author _ _ h
  | clearMessagesForContact c => exact MessengerDb.keeps_clearMessagesForContact _ c _ _ h
  | deleteContact c =>
    exact MessengerDb.keeps_clearMessagesForContact { db with contacts := db.contacts.erase c } c _ _ h
  | blockUser user => exact MessengerDb.Keeps.of_eq rfl rfl rfl _ _ h
  | unblockUser user => exact MessengerDb.Keeps.of_eq rfl rfl rfl _ _ h
  | addContact contact => exact MessengerDb.Keeps.of_eq rfl rfl rfl _ _ h
  | addGroup group => exact MessengerDb.Keeps.of_eq rfl rfl rfl _ _ h

theorem LocalOp.event?_ne_stored (op : LocalOp) (db : MessengerDb) (authorHex messageId : String) :
    op.event? db ≠ some (.stored authorHex messageId) := by
  unfold event?
  split
  · split <;> simp
  · split <;> simp
  · simp
  · simp

theorem LocalOp.event?_ne_saved (op : LocalOp) (db saved : MessengerDb) : op.event? db ≠ some (.saved saved) := by
  unfold event?
  split
  · split <;> simp
  · split <;> simp
  · simp
  · simp

section Handling

variable {J : PayloadJson} {T : PresenceText} {me : UserIdentity C}

theorem keeps_ensureContact (dht : Dht) (db : MessengerDb) (e : EncryptedEnvelope) :
    db.Keeps (ensureContact (C := C) T dht db e) := by
  obtain ⟨hmessages, hdel, hpend, -, -⟩ := ensureContact_frame (C := C) T dht db e
  exact .of_eq hmessages hdel hpend

theorem keeps_discoverPeer (dht : Dht) (db : MessengerDb) (r : String) : db.Keeps (discoverPeer C T dht db r).1 := by
  obtain ⟨contacts, hdiscovered⟩ := fst_discoverPeer C T dht db r
  rw [hdiscovered]
  exact .of_eq rfl rfl rfl

theorem keeps_of_mem_contactSaves {dht : Dht} {db d : MessengerDb} {e : EncryptedEnvelope}
    (h : d ∈ contactSaves (C := C) T dht db e) : db.Keeps d := by
  have hdiscovered := keeps_discoverPeer (C := C) (T := T) dht db e.senderId.toHex
  unfold contactSaves at h
  split at h
  · cases h
  · cases hd : discoverPeer C T dht db e.senderId.toHex with
    | mk db' discovered =>
      rw [hd] at h hdiscovered
      rcases List.mem_append.1 h with h | h
      · cases discovered with
        | ok card =>
          rw [List.mem_singleton.1 h]
          exact hdiscovered
        | error e => cases h
      · rw [List.mem_singleton.1 h]
        exact keeps_ensureContact dht db e

theorem keeps_of_mem_savedContacts {dht : Dht} {db d : MessengerDb} {v : Verified me} {contactSaved : Nat → Bool}
    (h : d ∈ savedContacts J T me dht db v contactSaved) : db.Keeps d := by
  unfold savedContacts at h
  split at h
  · obtain ⟨p, hp, rfl⟩ := List.mem_map.1 h
    exact keeps_of_mem_contactSaves (List.fst_mem_of_mem_zipIdx (List.mem_filter.1 hp).1)
  · cases h

/-- A text message that is stored is in memory under its id, as it came. -/
theorem ack_handleNewMessage {dht : Dht} {db : MessengerDb} {e : EncryptedEnvelope} {p : ChatMessagePayload}
    {id : String}
    (h : (handleNewMessage T me dht db e p).ack = some id) :
    id = (chatMessage me e p).id ∧ db.isTombstoned e.senderId.toHex id = false ∧
      (handleNewMessage T me dht db e p).db.message? id = some (chatMessage me e p) := by
  obtain ⟨-, hdel, hpend, -, -⟩ := ensureContact_frame (C := C) T dht db e
  have hack := h
  unfold handleNewMessage at hack
  dsimp only at hack
  split at hack
  · cases hack
  · rename_i htomb
    obtain rfl := (Option.some.inj hack).symm
    have hlive : db.isTombstoned e.senderId.toHex (chatMessage me e p).id = false := by
      unfold MessengerDb.isTombstoned at htomb ⊢
      rw [hdel, hpend] at htomb
      exact eq_false_of_ne_true htomb
    exact ⟨rfl, hlive, (message?_handleNewMessage T dht db e p _).trans (if_pos ⟨rfl, hlive⟩)⟩

theorem ack_handlePayload {dht : Dht} {db : MessengerDb} {v : Verified me} {now : Nat} {id : String}
    (h : (handlePayload J T me dht db v now).ack = some id) :
    branch J me v.envelope (v.payload J) = .newMessage ∧ id = (chatMessage me v.envelope (v.payload J)).id ∧
      db.isTombstoned v.senderHex id = false ∧
        (handlePayload J T me dht db v now).db.message? id = some (chatMessage me v.envelope (v.payload J)) := by
  unfold handlePayload at h ⊢
  cases hb : branch J me v.envelope (v.payload J) with
  | newMessage =>
    rw [hb] at h
    exact ⟨rfl, ack_handleNewMessage h⟩
  | deliveryReceipt receipt =>
    rw [hb, handleBranch, handleDeliveryReceipt] at h
    split at h <;> cases h
  | readReceipt =>
    rw [hb] at h
    cases h
  | tombstone ids =>
    rw [hb] at h
    cases h
  | callSignal signal =>
    rw [hb, handleBranch, handleCallSignal] at h
    split at h
    · cases h
    · split at h <;> cases h
  | callAudio chunk =>
    rw [hb, handleBranch, handleCallAudio] at h
    split at h <;> cases h
  | reaction react =>
    rw [hb, handleBranch, handleReaction] at h
    split at h <;> cases h
  | edit =>
    rw [hb, handleBranch, handleEdit] at h
    split at h <;> cases h

theorem records_handleNewMessage {dht : Dht} {db : MessengerDb} {e : EncryptedEnvelope} {p : ChatMessagePayload}
    {authorHex messageId : String} (h : db.Records authorHex messageId)
    (hstored : ∀ id, (handleNewMessage T me dht db e p).ack = some id → id = messageId → e.senderId.toHex = authorHex) :
    (handleNewMessage T me dht db e p).db.Records authorHex messageId := by
  have hcontact := keeps_ensureContact (C := C) (T := T) dht db e _ _ h
  unfold handleNewMessage at hstored ⊢
  dsimp only at hstored ⊢
  split
  · exact hcontact
  · rename_i htomb
    rw [if_neg htomb] at hstored
    exact MessengerDb.records_addMessage hcontact fun hid _ => hstored _ rfl hid

/-- Handling an envelope takes nothing out of memory without a record, but for a message under the id of the one it
stores. -/
theorem records_handlePayload {dht : Dht} {db : MessengerDb} {v : Verified me} {now : Nat}
    {authorHex messageId : String} (h : db.Records authorHex messageId)
    (hstored : ∀ id, (handlePayload J T me dht db v now).ack = some id → id = messageId → v.senderHex = authorHex) :
    (handlePayload J T me dht db v now).db.Records authorHex messageId := by
  cases hb : branch J me v.envelope (v.payload J) with
  | newMessage =>
    unfold handlePayload at hstored ⊢
    rw [hb] at hstored ⊢
    exact records_handleNewMessage h hstored
  | deliveryReceipt receipt =>
    unfold handlePayload handleBranch
    rw [hb]
    dsimp only
    unfold handleDeliveryReceipt
    split
    · exact MessengerDb.keeps_modifyMessage _ _ SavedChatMessage.id_markDelivered (fun _ => rfl) _ _ h
    · exact h
  | readReceipt =>
    unfold handlePayload handleBranch
    rw [hb]
    exact h
  | tombstone ids =>
    unfold handlePayload handleBranch
    rw [hb]
    exact MessengerDb.keeps_registerPendingTombstones v.senderHex ids _ _
      (MessengerDb.keeps_deleteMessagesByAuthor ids v.senderHex _ _ h)
  | callSignal signal =>
    unfold handlePayload
    rw [hb, handleBranch, db_handleCallSignal]
    exact h
  | callAudio chunk =>
    unfold handlePayload
    rw [hb, handleBranch, db_handleCallAudio]
    exact h
  | reaction react =>
    unfold handlePayload handleBranch
    rw [hb]
    dsimp only
    unfold handleReaction
    split
    · exact MessengerDb.keeps_modifyMessage _ _ (·.id_addReaction react.emoji v.senderHex) (fun _ => rfl) _ _ h
    · exact h
  | edit =>
    unfold handlePayload
    rw [hb, handleBranch, db_handleEdit]
    exact MessengerDb.keeps_editMessageByAuthor _ _ _ _ _ _ h

end Handling

/-! ## What was stored is in memory, and in what was saved -/

/-- After the history the database in memory has every message that was stored and not displaced, and so had each that
was saved. -/
structure Recorded (h : List InboxEvent) (db : MessengerDb) : Prop where
  memory : ∀ pre mid authorHex messageId, h = pre ++ .stored authorHex messageId :: mid →
    (∀ ev ∈ mid, ¬ev.Displaces authorHex messageId) → db.Records authorHex messageId
  file : ∀ pre mid saved post authorHex messageId,
    h = pre ++ .stored authorHex messageId :: (mid ++ .saved saved :: post) →
    (∀ ev ∈ mid, ¬ev.Displaces authorHex messageId) → saved.Records authorHex messageId

namespace Recorded

variable {h : List InboxEvent} {db db' : MessengerDb} {ev : InboxEvent}

theorem nil (db : MessengerDb) : Recorded [] db :=
  ⟨fun pre mid _ _ heq => by simp at heq, fun pre mid _ post _ _ heq => by simp at heq⟩

theorem keeps (hr : Recorded h db) (hdb : db.Keeps db') : Recorded h db' :=
  ⟨fun pre mid a k heq hmid => hdb a k (hr.memory pre mid a k heq hmid), hr.file⟩

/-- One more event. -/
theorem concat (hr : Recorded h db)
    (hkeeps : ∀ a k, db.Records a k → ¬ev.Displaces a k → db'.Records a k)
    (hstored : ∀ a k, ev = .stored a k → db'.Records a k) (hsaved : ∀ saved, ev = .saved saved → db.Keeps saved) :
    Recorded (h ++ [ev]) db' := by
  constructor
  · intro pre mid a k heq hmid
    rcases concat_eq_append_cons heq with ⟨-, hlast, -⟩ | ⟨front, rfl, hfront⟩
    · exact hstored a k hlast
    · have hbefore := hr.memory pre front a k hfront fun e he => hmid e (by simp [he])
      exact hkeeps a k hbefore (hmid ev (by simp))
  · intro pre mid saved post a k heq hmid
    rw [← List.cons_append, ← List.append_assoc] at heq
    rcases concat_eq_append_cons heq with ⟨rfl, hlast, -⟩ | ⟨front, -, hfront⟩
    · exact hsaved saved hlast a k (hr.memory pre mid a k rfl hmid)
    · rw [List.append_assoc, List.cons_append] at hfront
      exact hr.file pre mid saved front a k hfront hmid

theorem concat_saved (hr : Recorded h db) {saved : MessengerDb} (hdb : db.Keeps saved) :
    Recorded (h ++ [.saved saved]) db :=
  hr.concat (fun _ _ hrecords _ => hrecords) (fun _ _ heq => by cases heq) fun _ heq => by cases heq; exact hdb

theorem append_saved (hr : Recorded h db) : ∀ {dbs : List MessengerDb}, (∀ d ∈ dbs, db.Keeps d) →
    Recorded (h ++ dbs.map .saved) db := by
  intro dbs
  induction dbs using List.reverseRecOn with
  | nil =>
    intro _
    simpa using hr
  | append_singleton dbs d ih =>
    intro hdbs
    rw [List.map_append, ← List.append_assoc]
    exact (ih fun d' hd' => hdbs d' (by simp [hd'])).concat_saved (hdbs d (by simp))

end Recorded

section Run

variable {J : PayloadJson} {T : PresenceText} {me : UserIdentity C}

/-- Handling an envelope: the contact, the message, the save. -/
theorem recorded_handle {h : List InboxEvent} {db : MessengerDb} (hr : Recorded h db) (dht : Dht) (v : Verified me)
    (now : Nat) (contactSaved : Nat → Bool) (saved : Bool) :
    Recorded (h ++ handleEvents J T me dht db v now contactSaved saved) (handlePayload J T me dht db v now).db := by
  have hcontacts : Recorded (h ++ (savedContacts J T me dht db v contactSaved).map .saved) db :=
    hr.append_saved fun _ => keeps_of_mem_savedContacts
  have hstored : Recorded (h ++ (savedContacts J T me dht db v contactSaved).map .saved ++
      ((handlePayload J T me dht db v now).ack.map fun id => .stored v.senderHex id).toList)
      (handlePayload J T me dht db v now).db := by
    cases hack : (handlePayload J T me dht db v now).ack with
    | none =>
      rw [Option.map_none, Option.toList_none, List.append_nil]
      refine hcontacts.keeps fun a k hrecords => records_handlePayload hrecords fun id hid => ?_
      exact absurd (hack.symm.trans hid) (Option.some_ne_none id).symm
    | some id =>
      refine hcontacts.concat (fun a k hrecords hdisplaces => ?_) (fun a k heq => ?_) fun _ heq => by cases heq
      · refine records_handlePayload hrecords fun id' hid' hk => ?_
        obtain rfl := Option.some.inj (hack.symm.trans hid')
        by_contra hsender
        exact hdisplaces ⟨hk, hsender⟩
      · cases heq
        obtain ⟨-, -, -, hmessage⟩ := ack_handlePayload hack
        exact .inr ⟨_, hmessage, rfl⟩
  unfold handleEvents
  dsimp only
  rw [← List.append_assoc, ← List.append_assoc]
  split
  · exact hstored.concat_saved (.refl _)
  · rw [List.append_nil]
    exact hstored

theorem recorded_localOp {h : List InboxEvent} {db : MessengerDb} (hr : Recorded h db) (op : LocalOp) (saved : Bool) :
    Recorded (h ++ op.events db saved) (op.apply db) := by
  have happly : Recorded (h ++ (op.event? db).toList) (op.apply db) := by
    cases hevent : op.event? db with
    | none =>
      rw [Option.toList_none, List.append_nil]
      exact hr.keeps fun a k hrecords => LocalOp.records_apply hrecords (by simp [hevent])
    | some ev =>
      refine hr.concat (fun a k hrecords hdisplaces => ?_) (fun a k heq => ?_) fun d heq => ?_
      · exact LocalOp.records_apply hrecords (by simpa [hevent] using hdisplaces)
      · exact absurd (heq ▸ hevent) (LocalOp.event?_ne_stored op db a k)
      · exact absurd (heq ▸ hevent) (LocalOp.event?_ne_saved op db d)
  unfold LocalOp.events
  rw [← List.append_assoc]
  split
  · exact happly.concat_saved (.refl _)
  · rw [List.append_nil]
    exact happly

namespace Recipient

variable {s : Recipient me}

theorem recorded_step (a : RecipientAction) (hr : Recorded s.history s.db) :
    Recorded (s.step J T a).history (s.step J T a).db := by
  cases a with
  | receive e now =>
    show Recorded s.history (s.inbox.step J T (.receive e now)).db
    rw [Inbox.db_step_receive]
    exact hr
  | handle e now dht contactSaved saved =>
    unfold step handle
    dsimp only
    cases hfind : s.inbox.admitted.find? (·.envelope = e) with
    | none => exact hr
    | some v =>
      unfold db Inbox.step
      dsimp only
      rw [hfind]
      exact recorded_handle hr dht v now contactSaved saved
  | acknowledge j now x =>
    unfold step acknowledge
    dsimp only
    split
    · exact hr
    · exact hr
  | transmit i =>
    unfold step transmit
    dsimp only
    split
    · exact hr
    · exact hr.concat (fun _ _ hrecords _ => hrecords) (fun _ _ heq => by cases heq) fun _ heq => by cases heq
  | localOp op saved =>
    exact recorded_localOp hr op saved
  | restart =>
    unfold step restart
    dsimp only
    split
    · exact hr
    · exact hr.concat (fun _ _ _ hdisplaces => absurd trivial hdisplaces) (fun _ _ heq => by cases heq)
        fun _ heq => by cases heq

theorem recorded_run (db : MessengerDb) (disk : Option MessengerDb) (as : List RecipientAction) :
    Recorded (trace J T me db disk as) (run (step J T) (start me db disk) as).db :=
  run_induction (I := fun s : Recipient me => Recorded s.history s.db) (fun _ a hr => recorded_step a hr) as (.nil db)

end Recipient

end Run

/-! ## Receipts -/

section Receipts

variable {h evs : List InboxEvent} {ev : InboxEvent} {authorHex messageId : String}

theorem SavedSince.append (hsaved : SavedSince h authorHex messageId) (evs : List InboxEvent) :
    SavedSince (h ++ evs) authorHex messageId := by
  obtain ⟨pre, mid, db, post, rfl, hmid⟩ := hsaved
  exact ⟨pre, mid, db, post ++ evs, by simp, hmid⟩

theorem ReceiptsSaved.concat (hr : ReceiptsSaved h) (hack : ∀ a k, ev = .acknowledged a k → SavedSince h a k) :
    ReceiptsSaved (h ++ [ev]) := by
  intro pre a k post heq
  rcases concat_eq_append_cons heq with ⟨rfl, hlast, -⟩ | ⟨front, -, hfront⟩
  · exact hack a k hlast
  · exact hr pre a k front hfront

theorem ReceiptsSaved.append (hr : ReceiptsSaved h) :
    ∀ {evs : List InboxEvent}, (∀ a k, .acknowledged a k ∉ evs) → ReceiptsSaved (h ++ evs) := by
  intro evs
  induction evs using List.reverseRecOn with
  | nil =>
    intro _
    simpa using hr
  | append_singleton evs ev ih =>
    intro hevs
    rw [← List.append_assoc]
    refine (ih fun a k hmem => hevs a k (by simp [hmem])).concat fun a k heq => ?_
    exact absurd (by simp [heq]) (hevs a k)

/-- What was stored is written with the next save. -/
theorem PersistedSince.of_savedSince {db : MessengerDb} (hr : Recorded (h ++ evs) db)
    (hsaved : SavedSince h authorHex messageId) : PersistedSince h authorHex messageId := by
  obtain ⟨pre, mid, saved, post, rfl, hmid⟩ := hsaved
  refine ⟨pre, mid ++ .saved saved :: post, saved, rfl, by simp, ?_⟩
  exact hr.file pre mid saved (post ++ evs) authorHex messageId (by simp) hmid

theorem savedSince_of_persistedSince (hpersisted : PersistedSince h authorHex messageId)
    (hkept : ∀ ev ∈ h, ¬ev.Displaces authorHex messageId) : SavedSince h authorHex messageId := by
  obtain ⟨pre, post, db, rfl, hmem, -⟩ := hpersisted
  obtain ⟨mid, rest, rfl⟩ := List.append_of_mem hmem
  exact ⟨pre, mid, db, rest, rfl, fun ev hev => hkept ev (by simp [hev])⟩

end Receipts

/-! ## Runs in which the messages are written -/

section Written

variable {J : PayloadJson} {T : PresenceText} {me : UserIdentity C} {s : Recipient me}

/-- The save after an envelope succeeds. -/
def RecipientAction.Saves : RecipientAction → Prop
  | .handle _ _ _ _ saved => saved = true
  | _ => True

/-- Every receipt under way is for a message that was saved, and so is every one that went out. -/
structure Covered (s : Recipient me) : Prop where
  tasks : ∀ t ∈ s.tasks, SavedSince s.history t.1 t.2
  outgoing : ∀ a ∈ s.outgoing, ∀ t ∈ a.acknowledges?, SavedSince s.history t.1 t.2
  sent : ReceiptsSaved s.history

theorem acknowledges?_sendDeliveryReceipt {client : Client me} (hnone : client.attempts = []) {now : Nat} {x : Sealing}
    {authorHex messageId : String} {a : Attempt}
    (h : a ∈ (client.sendDeliveryReceipt J authorHex messageId now x).attempts) :
    a.acknowledges? = some (authorHex, messageId) := by
  unfold Client.sendDeliveryReceipt at h
  split at h
  · split at h
    · rw [Client.attempt, hnone, List.nil_append, List.mem_singleton] at h
      rw [h]
      rfl
    · rw [hnone] at h
      cases h
  · rw [hnone] at h
    cases h

/-- Where events are added that send no receipt, nothing is lost. -/
theorem Covered.record (hc : Covered s) {evs : List InboxEvent} (hevs : ∀ a k, .acknowledged a k ∉ evs) :
    Covered (s.record evs) :=
  ⟨fun t ht => (hc.tasks t ht).append evs, fun a ha t ht => (hc.outgoing a ha t ht).append evs, hc.sent.append hevs⟩

theorem not_mem_handleEvents (dht : Dht) (db : MessengerDb) (v : Verified me) (now : Nat) (contactSaved : Nat → Bool)
    (saved : Bool) (a k : String) : .acknowledged a k ∉ handleEvents J T me dht db v now contactSaved saved := by
  unfold handleEvents
  intro h
  rcases List.mem_append.1 h with h | h
  · rcases List.mem_append.1 h with h | h
    · obtain ⟨d, -, hd⟩ := List.mem_map.1 h
      cases hd
    · obtain ⟨id, -, hid⟩ := Option.map_eq_some_iff.1 (Option.mem_toList.1 h)
      cases hid
  · split at h
    · cases List.mem_singleton.1 h
    · cases h

theorem not_mem_localOp_events (op : LocalOp) (db : MessengerDb) (saved : Bool) (a k : String) :
    .acknowledged a k ∉ op.events db saved := by
  unfold LocalOp.events
  intro h
  rcases List.mem_append.1 h with h | h
  · have hevent : op.event? db = some (.acknowledged a k) := Option.mem_toList.1 h
    unfold LocalOp.event? at hevent
    split at hevent
    · split at hevent <;> cases hevent
    · split at hevent <;> cases hevent
    · cases hevent
    · cases hevent
  · split at h
    · cases List.mem_singleton.1 h
    · cases h

/-- A message that is stored is saved in the same step. -/
theorem savedSince_handleEvents {h : List InboxEvent} {dht : Dht} {db : MessengerDb} {v : Verified me} {now : Nat}
    {contactSaved : Nat → Bool} {id : String} (hack : (handlePayload J T me dht db v now).ack = some id) :
    SavedSince (h ++ handleEvents J T me dht db v now contactSaved true) v.senderHex id := by
  obtain ⟨hb, -⟩ := ack_handlePayload hack
  have hsaves : (branch J me v.envelope (v.payload J)).saves J T me dht db v now = true := by
    have hnew : (handleNewMessage T me dht db v.envelope (v.payload J)).ack = some id := by
      unfold handlePayload at hack
      rw [hb] at hack
      exact hack
    rw [hb, Branch.saves, hnew]
    rfl
  refine ⟨h ++ (savedContacts J T me dht db v contactSaved).map .saved, [], (handlePayload J T me dht db v now).db, [],
    ?_, by simp⟩
  unfold handleEvents
  simp [hack, hsaves]

theorem Covered.handle (hc : Covered s) (e : EncryptedEnvelope) (now : Nat) (dht : Dht) (contactSaved : Nat → Bool) :
    Covered (s.handle J T e now dht contactSaved true) := by
  unfold Recipient.handle
  split
  · exact hc
  · rename_i v _
    obtain ⟨htasks, houtgoing, hsent⟩ :=
      hc.record (not_mem_handleEvents (J := J) (T := T) dht s.db v now contactSaved true)
    refine ⟨fun t ht => ?_, houtgoing, hsent⟩
    rcases List.mem_append.1 ht with ht | ht
    · exact htasks t ht
    · obtain ⟨id, hack, rfl⟩ := Option.map_eq_some_iff.1 (Option.mem_toList.1 ht)
      exact savedSince_handleEvents hack

/-- The receipt that is sealed is for a task. -/
theorem Covered.acknowledge (hc : Covered s) (j now : Nat) (x : Sealing) : Covered (s.acknowledge J j now x) := by
  unfold Recipient.acknowledge
  split
  · exact hc
  · rename_i authorHex messageId htask
    refine ⟨fun t ht => hc.tasks t (List.mem_of_mem_eraseIdx ht), fun a ha t ht => ?_, hc.sent⟩
    rcases List.mem_append.1 ha with ha | ha
    · exact hc.outgoing a ha t ht
    · obtain rfl := Option.some.inj ((acknowledges?_sendDeliveryReceipt rfl ha).symm.trans ht)
      exact hc.tasks _ (List.mem_of_getElem? htask)

theorem Covered.transmit (hc : Covered s) (i : Nat) : Covered (s.transmit i) := by
  unfold Recipient.transmit
  split
  · exact hc
  · rename_i authorHex messageId hattempt
    obtain ⟨a, ha, hacknowledges⟩ := Option.bind_eq_some_iff.1 hattempt
    have hsaved := hc.outgoing a (List.mem_of_getElem? ha) _ hacknowledges
    refine ⟨fun t ht => (hc.tasks t ht).append _, fun a ha t ht => (hc.outgoing a ha t ht).append _, ?_⟩
    exact hc.sent.concat fun _ _ heq => by cases heq; exact hsaved

theorem Covered.restart (hc : Covered s) : Covered s.restart := by
  unfold Recipient.restart
  split
  · exact hc
  · have hrestarted : Covered (s.record [.restarted]) := hc.record (by simp)
    exact ⟨fun t ht => (List.not_mem_nil ht).elim, fun a ha => (List.not_mem_nil ha).elim, hrestarted.sent⟩

theorem Covered.step {a : RecipientAction} (hc : Covered s) (ha : a.Saves) : Covered (s.step J T a) := by
  cases a with
  | receive e now => exact ⟨hc.tasks, hc.outgoing, hc.sent⟩
  | handle e now dht contactSaved saved =>
    obtain rfl : saved = true := ha
    exact hc.handle e now dht contactSaved
  | acknowledge j now x => exact hc.acknowledge j now x
  | transmit i => exact hc.transmit i
  | localOp op saved =>
    obtain ⟨htasks, houtgoing, hsent⟩ := hc.record (not_mem_localOp_events op s.db saved)
    exact ⟨htasks, houtgoing, hsent⟩
  | restart => exact hc.restart

/-- Where the saves after the envelopes succeed, every receipt is for a message that was saved. -/
theorem receiptsSaved_trace (db : MessengerDb) (disk : Option MessengerDb) {as : List RecipientAction}
    (has : ∀ a ∈ as, a.Saves) : ReceiptsSaved (Recipient.trace J T me db disk as) := by
  have hstart : Covered (Recipient.start me db disk) :=
    ⟨fun t ht => (List.not_mem_nil ht).elim, fun a ha => (List.not_mem_nil ha).elim,
      fun pre a k post heq => by simp [Recipient.start] at heq⟩
  exact (run_invariant (I := Covered) (fun s a hc ha => hc.step ha) hstart
    (steps_of_mem (P := RecipientAction.Saves) has)).sent

end Written

/-! ## Receipts and what was written -/

/-- Nothing in the history can take a message that was stored out of memory. -/
def Undisturbed (h : List InboxEvent) : Prop :=
  ∀ authorHex messageId, .stored authorHex messageId ∈ h → ∀ ev ∈ h, ¬ev.Displaces authorHex messageId

/-- In every run, with saves that fail anywhere: if a save succeeds between a message and its receipt, before anything
can take the message out of memory, the receipt means that the message was written. Where nothing can, it does only
then. And it does where the saves after the envelopes succeed. -/
theorem trace_receiptsPersisted (J : PayloadJson) (T : PresenceText) (me : UserIdentity C) (db : MessengerDb)
    (disk : Option MessengerDb) (as : List RecipientAction) :
    (ReceiptsSaved (Recipient.trace J T me db disk as) → ReceiptsPersisted (Recipient.trace J T me db disk as)) ∧
      (Undisturbed (Recipient.trace J T me db disk as) →
        (ReceiptsPersisted (Recipient.trace J T me db disk as) ↔
          ReceiptsSaved (Recipient.trace J T me db disk as))) ∧
      ((∀ a ∈ as, a.Saves) → ReceiptsPersisted (Recipient.trace J T me db disk as)) := by
  have hwritten : (∀ a ∈ as, a.Saves) → ReceiptsSaved (Recipient.trace J T me db disk as) := receiptsSaved_trace db disk
  have hr : Recorded (Recipient.trace J T me db disk as) _ := Recipient.recorded_run db disk as
  generalize Recipient.trace J T me db disk as = h at hr hwritten
  have hforward : ReceiptsSaved h → ReceiptsPersisted h := by
    intro hsaved pre a k post heq
    rw [heq] at hr
    exact .of_savedSince hr (hsaved pre a k post heq)
  refine ⟨hforward, fun hkept => ⟨fun hpersisted pre a k post heq => ?_, hforward⟩, fun has => hforward (hwritten has)⟩
  have hsince := hpersisted pre a k post heq
  obtain ⟨front, back, -, hpre, -, -⟩ := id hsince
  refine savedSince_of_persistedSince hsince fun ev hev => hkept a k ?_ ev ?_
  · simp [heq, hpre]
  · rw [heq]
    exact List.mem_append_left _ hev

/-! ## A message that is lost -/

namespace LostMessage

open NodeX.Sample Again

/-- Alice's message. -/
def message : EncryptedEnvelope := sealed alice messageText 1700000000

def draws : Sealing :=
  { dht := fun _ => .ok none, saved := true, ephSeed := List.replicate 32 2, nonce := List.replicate 12 2
    timestamp := 1700000006 }

/-- Bob receives it and acknowledges it; the disk is full, or not. -/
def delivery (saved : Bool) : List RecipientAction :=
  [.receive message 1700000005, .handle message 1700000005 (fun _ => .ok none) (fun _ => saved) saved,
    .acknowledge 0 1700000006 draws, .transmit 0]

theorem trace_full : Recipient.trace texts presenceText bob {} none (delivery false) =
    [.stored alice.userIdHex "m1", .acknowledged alice.userIdHex "m1"] := by
  decide +kernel

end LostMessage

open LostMessage NodeX.Sample Again in
theorem trace_receiptsPersisted_saved :
    ReceiptsPersisted (Recipient.trace texts presenceText bob {} none (delivery true)) :=
  (trace_receiptsPersisted texts presenceText bob {} none (delivery true)).2.2
    (by simp [delivery, RecipientAction.Saves])

open LostMessage NodeX.Sample Again in
/-- The disk is full: Alice has her receipt, and Bob's message is in no file. -/
theorem receiptsPersisted_full :
    ¬ReceiptsPersisted (Recipient.trace texts presenceText bob {} none (delivery false)) := by
  rw [trace_full]
  intro h
  obtain ⟨pre, post, db, heq, hmem, -⟩ := h [.stored alice.userIdHex "m1"] alice.userIdHex "m1" [] rfl
  have hsaved : InboxEvent.saved db ∈ [InboxEvent.stored alice.userIdHex "m1"] := by
    rw [heq]
    exact List.mem_append_right _ (List.mem_cons_of_mem _ hmem)
  cases List.mem_singleton.1 hsaved

end NodeX.Messenger
