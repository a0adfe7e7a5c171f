/-
Where messages go in the client: what one step can do to the stored messages, and the rule for invariants over
the messages in memory and on disk, the outbox, the attempts under way and the waiting tasks.
-/
import NodeX.Messenger.Client

namespace NodeX.Messenger

open NodeX.Lib

variable {C : Crypto} {J : PayloadJson} {T : PresenceText} {me : UserIdentity C}

/-! ## Stored messages -/

namespace LocalOp

/-- An operation that has no call of its own: it removes messages, or pins one. -/
def IsPlain : LocalOp → Prop
  | .addMessage _ | .editMessage .. | .addReaction .. | .deleteMessagesByAuthor .. => False
  | _ => True

theorem message?_of_apply {op : LocalOp} (hop : op.IsPlain) {db : MessengerDb} {k : String} {m' : SavedChatMessage}
    (h : (op.apply db).message? k = some m') : ∃ m, db.message? k = some m ∧ (m' = m ∨ m' = m.togglePin) := by
  cases op with
  | addMessage msg => exact hop.elim
  | editMessage id text ts => exact hop.elim
  | addReaction id emoji reactor => exact hop.elim
  | deleteMessagesByAuthor ids author => exact hop.elim
  | togglePinMessage id =>
    rw [apply, MessengerDb.message?_togglePinMessage] at h
    split at h
    · obtain ⟨m, hm, rfl⟩ := Option.map_eq_some_iff.1 h
      exact ⟨m, hm, .inr rfl⟩
    · exact ⟨m', h, .inl rfl⟩
  | cleanupExpiredMessages now =>
    rw [apply, MessengerDb.message?_cleanupExpiredMessages] at h
    exact ⟨m', (Option.filter_eq_some_iff.1 h).1, .inl rfl⟩
  | deleteMessage id =>
    rw [apply, MessengerDb.message?_deleteMessage] at h
    split at h
    · cases h
    · exact ⟨m', h, .inl rfl⟩
  | deleteMessages ids =>
    rw [apply, MessengerDb.message?_deleteMessages] at h
    split at h
    · cases h
    · exact ⟨m', h, .inl rfl⟩
  | clearMessagesForContact contact =>
    rw [apply, MessengerDb.message?_clearMessagesForContact] at h
    exact ⟨m', (Option.filter_eq_some_iff.1 h).1, .inl rfl⟩
  | deleteContact contact =>
    rw [apply, MessengerDb.message?_deleteContact] at h
    exact ⟨m', (Option.filter_eq_some_iff.1 h).1, .inl rfl⟩
  | blockUser user => exact ⟨m', h, .inl rfl⟩
  | unblockUser user => exact ⟨m', h, .inl rfl⟩
  | addContact contact => exact ⟨m', h, .inl rfl⟩
  | addGroup group => exact ⟨m', h, .inl rfl⟩
  | wipe => exact by cases h

end LocalOp

/-- What handling an envelope can make of a message: it is the message that came, or the one stored before,
unchanged, confirmed by its recipient, reacted to, or edited by its author. -/
inductive Handled.Came (J : PayloadJson) (v : Verified me) (db : MessengerDb) (k : String) : SavedChatMessage → Prop
  | message (hb : branch J me v.envelope (v.payload J) = .newMessage) :
    Came J v db k (chatMessage me v.envelope (v.payload J))
  | same {m : SavedChatMessage} (h : db.message? k = some m) : Came J v db k m
  | confirmed {m : SavedChatMessage} (h : db.message? k = some m) {r : DeliveryReceipt}
    (hb : branch J me v.envelope (v.payload J) = .deliveryReceipt r) (hid : r.messageId = k)
    (hrecipient : m.recipientIdHex = v.senderHex) (hout : m.incoming = false) : Came J v db k m.markDelivered
  | reacted {m : SavedChatMessage} (h : db.message? k = some m) (emoji reactor : String) :
    Came J v db k (m.addReaction emoji reactor)
  | edited {m : SavedChatMessage} (h : db.message? k = some m)
    (hb : branch J me v.envelope (v.payload J) = .edit) (hid : (v.payload J).id = k)
    (hauthor : m.senderIdHex = v.senderHex) (ts : Nat) : Came J v db k (m.edit (v.payload J).text ts)

theorem message?_of_handleDeliveryReceipt {v : Verified me} {db : MessengerDb} {k : String} {m' : SavedChatMessage}
    {r : DeliveryReceipt} (hb : branch J me v.envelope (v.payload J) = .deliveryReceipt r)
    (h : (handleDeliveryReceipt db v.senderHex r).db.message? k = some m') : Handled.Came J v db k m' := by
  unfold handleDeliveryReceipt at h
  split at h
  · rename_i hany
    dsimp only at h
    rw [MessengerDb.message?_markMessageDelivered] at h
    split at h
    · rename_i hk
      obtain ⟨m, hm, rfl⟩ := Option.map_eq_some_iff.1 h
      obtain ⟨m₀, hm₀, hcheck⟩ := List.any_eq_true.1 hany
      simp only [Bool.and_eq_true, decide_eq_true_eq, Bool.not_eq_true'] at hcheck
      -- the message that passes the check is the one under the id
      have hsame : db.message? k = some m₀ := by
        rw [← hk, ← hcheck.1.1]
        exact KeyedList.mem_iff_get?.1 hm₀
      cases hm.symm.trans hsame
      exact .confirmed hm hb hk hcheck.1.2 hcheck.2
    · exact .same h
  · exact .same h

theorem message?_of_handlePayload {dht : Dht} {db : MessengerDb} {v : Verified me} {now : Nat} {k : String}
    {m' : SavedChatMessage} (h : (handlePayload J T me dht db v now).db.message? k = some m') :
    Handled.Came J v db k m' := by
  unfold handlePayload at h
  cases hb : branch J me v.envelope (v.payload J) with
  | deliveryReceipt r =>
    rw [hb] at h
    exact message?_of_handleDeliveryReceipt hb h
  | readReceipt =>
    rw [hb] at h
    exact .same h
  | tombstone ids =>
    rw [hb] at h
    have h : (db.deleteMessagesByAuthor ids v.senderHex).1.message? k = some m' := h
    rw [MessengerDb.message?_deleteMessagesByAuthor] at h
    split at h
    · exact .same (Option.filter_eq_some_iff.1 h).1
    · exact .same h
  | callSignal signal =>
    rw [hb, handleBranch, db_handleCallSignal] at h
    exact .same h
  | callAudio chunk =>
    rw [hb, handleBranch, db_handleCallAudio] at h
    exact .same h
  | reaction react =>
    rw [hb, handleBranch, handleReaction] at h
    split at h
    · dsimp only at h
      rw [MessengerDb.message?_addReaction] at h
      split at h
      · obtain ⟨m, hm, rfl⟩ := Option.map_eq_some_iff.1 h
        exact .reacted hm react.emoji v.senderHex
      · exact .same h
    · exact .same h
  | edit =>
    rw [hb, handleBranch, db_handleEdit, MessengerDb.message?_editMessageByAuthor] at h
    split at h
    · rename_i hid
      obtain ⟨m, hm, hm'⟩ := Option.map_eq_some_iff.1 h
      split at hm'
      · rename_i hauthor
        rw [← hm']
        exact .edited hm hb hid hauthor _
      · rw [← hm']
        exact .same hm
    · exact .same h
  | newMessage =>
    rw [hb, handleBranch, message?_handleNewMessage] at h
    split at h
    · cases h
      exact .message hb
    · exact .same h

/-- Deleting for everyone only deletes. -/
theorem message?_of_deleteMessagesForEveryone {dht : Dht} {db : MessengerDb} {r : String} {ids : List String}
    {now : UInt64} {ephSeed nonce : Bytes} {ts : UInt64} {k : String} {m : SavedChatMessage}
    (h : (deleteMessagesForEveryone T J me dht db r ids now ephSeed nonce ts).db.message? k = some m) :
    db.message? k = some m := by
  have hdel : ∀ m, (db.deleteMessagesByAuthor ids me.userIdHex).1.message? k = some m → db.message? k = some m := by
    intro m hm
    rw [MessengerDb.message?_deleteMessagesByAuthor] at hm
    split at hm
    · exact (Option.filter_eq_some_iff.1 hm).1
    · exact hm
  unfold deleteMessagesForEveryone at h
  split at h
  · exact h
  · split at h
    rename_i db' deletedIds heq
    rw [heq] at hdel
    split at h
    · exact hdel m h
    · rw [message?_deliverTombstone] at h
      exact hdel m h

/-! ## Retries -/

/-- The attempt is the retry worker's, with the message. -/
def Attempt.isRetryOf (k : String) (a : Attempt) : Bool :=
  match a.job with
  | .retry item _ => item.message.id = k
  | _ => false

theorem Attempt.exists_retry {k : String} {a : Attempt} (h : a.isRetryOf k = true) :
    ∃ item since, a.job = .retry item since ∧ item.message.id = k := by
  unfold isRetryOf at h
  split at h
  · rename_i item since hjob
    exact ⟨item, since, hjob, of_decide_eq_true h⟩
  · cases h

/-! ## The steps as changes to the parts -/

namespace Client

variable {s : Client me}

@[simp] theorem db_setDb (db : MessengerDb) (saved : Bool) : (s.setDb db saved).db = db := rfl
@[simp] theorem queue_setDb (db : MessengerDb) (saved : Bool) : (s.setDb db saved).queue = s.queue := rfl
@[simp] theorem attempts_setDb (db : MessengerDb) (saved : Bool) : (s.setDb db saved).attempts = s.attempts := rfl
@[simp] theorem todo_setDb (db : MessengerDb) (saved : Bool) : (s.setDb db saved).todo = s.todo := rfl
@[simp] theorem receipts_setDb (db : MessengerDb) (saved : Bool) : (s.setDb db saved).receipts = s.receipts := rfl
@[simp] theorem sent_setDb (db : MessengerDb) (saved : Bool) : (s.setDb db saved).sent = s.sent := rfl

theorem disk_setDb {db d : MessengerDb} {saved : Bool} (h : d ∈ (s.setDb db saved).disk) : d = db ∨ d ∈ s.disk := by
  unfold setDb at h
  cases saved with
  | true => exact .inl (Option.some.inj h).symm
  | false => exact .inr h

theorem db_resolveRecipient {dht : Dht} {db : MessengerDb} {r : String} {d : Resolved}
    (h : resolveRecipient C T dht db r = .ok d) : ∃ contacts, d.db = { db with contacts } := by
  obtain ⟨c, key, addr, -, -, rfl⟩ | ⟨db', card, hp, rfl⟩ := resolveRecipient_eq_ok C T h
  · exact ⟨db.contacts, rfl⟩
  · have hfst := fst_discoverPeer C T dht db r
    rw [hp] at hfst
    exact hfst

/-- Looking for a recipient at most makes a contact. -/
theorem resolve_cases (T : PresenceText) (s : Client me) (r : String) (x : Sealing) :
    s.resolve T r x = s ∨ ∃ contacts, s.resolve T r x = s.setDb { s.db with contacts } x.saved := by
  unfold resolve
  split
  · rename_i d _ hd
    split
    · obtain ⟨contacts, h⟩ := db_resolveRecipient hd
      exact .inr ⟨contacts, by rw [h]⟩
    · exact .inl rfl
  · exact .inl rfl

/-- An operation that has a call of its own does nothing here; the others change the database and save it, and a
wipe removes the file. -/
theorem localOp_cases (s : Client me) (op : LocalOp) (saved : Bool) :
    s.localOp op saved = s ∨ (op.IsPlain ∧ s.localOp op saved = s.setDb (op.apply s.db) saved) ∨
      op = .wipe ∧
        s.localOp op saved = { s with inbox := { s.inbox with db := LocalOp.wipe.apply s.db }, disk := none } := by
  cases op with
  | addMessage msg => exact .inl rfl
  | editMessage id text ts => exact .inl rfl
  | addReaction id emoji reactor => exact .inl rfl
  | deleteMessagesByAuthor ids author => exact .inl rfl
  | wipe => exact .inr (.inr ⟨rfl, rfl⟩)
  | togglePinMessage id => exact .inr (.inl ⟨trivial, rfl⟩)
  | cleanupExpiredMessages now => exact .inr (.inl ⟨trivial, rfl⟩)
  | deleteMessage id => exact .inr (.inl ⟨trivial, rfl⟩)
  | deleteMessages ids => exact .inr (.inl ⟨trivial, rfl⟩)
  | clearMessagesForContact contact => exact .inr (.inl ⟨trivial, rfl⟩)
  | deleteContact contact => exact .inr (.inl ⟨trivial, rfl⟩)
  | blockUser user => exact .inr (.inl ⟨trivial, rfl⟩)
  | unblockUser user => exact .inr (.inl ⟨trivial, rfl⟩)
  | addContact contact => exact .inr (.inl ⟨trivial, rfl⟩)
  | addGroup group => exact .inr (.inl ⟨trivial, rfl⟩)

/-! ## The rule -/

/-- What holds of the messages in memory (`S`) and on disk (`D`), of the outbox, the attempts under way and the
waiting tasks. -/
structure All (S D : SavedChatMessage → Prop) (Q : QueuedMessage → Prop) (A : Attempt → Prop) (W : Todo → Prop)
    (s : Client me) : Prop where
  stored : ∀ k m, s.db.message? k = some m → S m
  saved : ∀ db ∈ s.disk, ∀ k m, db.message? k = some m → D m
  queue : ∀ q ∈ s.queue, Q q
  attempts : ∀ a ∈ s.attempts, A a
  todo : ∀ t ∈ s.todo, W t

section Rule

variable {S D : SavedChatMessage → Prop} {Q : QueuedMessage → Prop} {A : Attempt → Prop} {W : Todo → Prop}

/-- Storing a message adds that one. -/
theorem stored_addMessage {db : MessengerDb} (h : ∀ k m, db.message? k = some m → S m) {msg : SavedChatMessage}
    (hmsg : S msg) : ∀ k m, (db.addMessage msg).message? k = some m → S m := by
  intro k m hm
  rw [MessengerDb.message?_addMessage] at hm
  split at hm
  · cases hm
    exact hmsg
  · exact h k m hm

theorem stored_storeWithSelf {db : MessengerDb} (h : ∀ k m, db.message? k = some m → S m) {msg : SavedChatMessage}
    (hmsg : S msg) : ∀ k m, (storeWithSelf me db msg).message? k = some m → S m := by
  unfold storeWithSelf
  dsimp only
  split <;> exact stored_addMessage h hmsg

namespace All

variable (h : All S D Q A W s)

include h

theorem imp {S' D' : SavedChatMessage → Prop} {Q' : QueuedMessage → Prop} {A' : Attempt → Prop} {W' : Todo → Prop}
    (hS : ∀ m, S m → S' m) (hD : ∀ m, D m → D' m) (hQ : ∀ q, Q q → Q' q) (hA : ∀ a, A a → A' a)
    (hW : ∀ t, W t → W' t) : All S' D' Q' A' W' s :=
  ⟨fun k m hm => hS m (h.stored k m hm), fun db hdb k m hm => hD m (h.saved db hdb k m hm),
    fun q hq => hQ q (h.queue q hq), fun a ha => hA a (h.attempts a ha), fun t ht => hW t (h.todo t ht)⟩

theorem receive (e : EncryptedEnvelope) (now : Nat) : All S D Q A W (s.step J T (.receive e now)) :=
  { h with
    stored := fun k m hm => by
      rw [Client.db, Client.step, Inbox.db_step_receive] at hm
      exact h.stored k m hm }

theorem attempt {a : Attempt} (ha : A a) : All S D Q A W (s.attempt a) :=
  { h with
    attempts := fun a' ha' => by
      rcases List.mem_append.1 ha' with ha' | ha'
      · exact h.attempts a' ha'
      · obtain rfl := List.mem_singleton.1 ha'
        exact ha }

theorem later {t : Todo} (ht : W t) : All S D Q A W (s.later t) :=
  { h with
    todo := fun t' ht' => by
      rcases List.mem_append.1 ht' with ht' | ht'
      · exact h.todo t' ht'
      · obtain rfl := List.mem_singleton.1 ht'
        exact ht }

theorem record (p : ChatMessagePayload) : All S D Q A W (s.record p) := { h with }

theorem withQueue {queue : MessageQueue} (hq : ∀ q ∈ queue, Q q) : All S D Q A W { s with queue } :=
  { h with queue := hq }

theorem dropAttempt (i : Nat) : All S D Q A W { s with attempts := s.attempts.eraseIdx i } :=
  { h with attempts := fun a ha => h.attempts a (List.mem_of_mem_eraseIdx ha) }

theorem dropTodo (j : Nat) : All S D Q A W { s with todo := s.todo.eraseIdx j } :=
  { h with todo := fun t ht => h.todo t (List.mem_of_mem_eraseIdx ht) }

variable (hSD : ∀ m, S m → D m)

include hSD

theorem setDb {db : MessengerDb} (hdb : ∀ k m, db.message? k = some m → S m) (saved : Bool) :
    All S D Q A W (s.setDb db saved) :=
  { h with
    stored := hdb
    saved := fun d hd k m hm => by
      rcases disk_setDb hd with rfl | hd
      · exact hSD m (hdb k m hm)
      · exact h.saved d hd k m hm }

theorem resolve (r : String) (x : Sealing) : All S D Q A W (s.resolve T r x) := by
  rcases s.resolve_cases T r x with heq | ⟨contacts, heq⟩ <;> rw [heq]
  · exact h
  · have hdb : ∀ k m, ({ s.db with contacts } : MessengerDb).message? k = some m → S m := h.stored
    exact h.setDb hSD hdb x.saved

theorem deliver {job : Job} {r : String} {payload : ChatMessagePayload} (x : Sealing)
    (ha : ∀ sealed, A ⟨job, r, payload, sealed⟩) : All S D Q A W (s.deliver J T job r payload x) :=
  (h.resolve hSD r x).attempt (ha _)

theorem addMessage {msg : SavedChatMessage} (hmsg : S msg) (saved : Bool) :
    All S D Q A W (s.setDb (s.db.addMessage msg) saved) := h.setDb hSD (stored_addMessage h.stored hmsg) saved

theorem storeWithSelf {msg : SavedChatMessage} (hmsg : S msg) (saved : Bool) :
    All S D Q A W (s.setDb (storeWithSelf me s.db msg) saved) := h.setDb hSD (stored_storeWithSelf h.stored hmsg) saved

/-! ## The rule for each step -/

theorem sendMessage {r text : String} {image : Option String} {now : Nat} {random : UInt32} (x : Sealing) (saved : Bool)
    (hself : isSelf me r = true →
      S { outgoing me (newMessageId me now random) r text now with imageBase64 := image, delivered := true })
    (ha : ∀ msg, msg = { outgoing me (newMessageId me now random) r text now with imageBase64 := image } →
      s.db.isBlocked r = false → isSelf me r = false → ∀ sealed, A ⟨.message msg, r, messagePayload msg, sealed⟩) :
    All S D Q A W (s.sendMessage J T r text image now random x saved) := by
  unfold Client.sendMessage
  split
  · exact h
  · rename_i hblocked
    dsimp only
    split
    · rename_i hs
      exact h.storeWithSelf hSD (hself hs) saved
    · rename_i hs
      exact (h.record _).deliver hSD x (ha _ rfl (eq_false_of_ne_true hblocked) (eq_false_of_ne_true hs))

theorem sendVoiceNote {r : String} {note : VoiceNote} {now : Nat} {random : UInt32} (x : Sealing) (saved : Bool)
    (hself : isSelf me r = true → ∀ text,
      S { outgoing me (newMessageId me now random) r text now with voiceNote := some note, delivered := true })
    (ha : ∀ text msg, msg = { outgoing me (newMessageId me now random) r text now with voiceNote := some note } →
      isSelf me r = false → ∀ sealed, A ⟨.voiceNote msg, r, messagePayload msg, sealed⟩) :
    All S D Q A W (s.sendVoiceNote J T r note now random x saved) := by
  unfold Client.sendVoiceNote
  dsimp only
  split
  · rename_i hs
    exact h.storeWithSelf hSD (hself hs _) saved
  · rename_i hs
    exact (h.record _).deliver hSD x (ha _ _ rfl (eq_false_of_ne_true hs))

theorem reactToMessage {r id emoji : String} {now : Nat} (x : Sealing) (saved : Bool)
    (hreact : ∀ m, S m → S (m.addReaction emoji me.userIdHex))
    (ha : ∀ sealed, A ⟨.once, r, reactionPayload me id emoji now, sealed⟩) :
    All S D Q A W (s.reactToMessage J T r id emoji now x saved) := by
  have hdb : ∀ k m, (s.db.addReaction id emoji me.userIdHex).message? k = some m → S m := by
    intro k m hm
    rw [MessengerDb.message?_addReaction] at hm
    split at hm
    · obtain ⟨m₀, hm₀, rfl⟩ := Option.map_eq_some_iff.1 hm
      exact hreact m₀ (h.stored k m₀ hm₀)
    · exact h.stored k m hm
  exact (h.setDb hSD hdb saved).deliver hSD x ha

theorem editMessage {r id text : String} {now : Nat} (x : Sealing) (saved : Bool)
    (hedit : ∀ m, s.db.message? id = some m → S m → S (m.edit text now))
    (ha : ∀ msg, msg.id = id → ∀ sealed, A ⟨.once, r, messagePayload msg, sealed⟩) :
    All S D Q A W (s.editMessage J T r id text now x saved) := by
  have hdb : ∀ k m, (s.db.editMessage id text now).1.message? k = some m → S m := by
    intro k m hm
    rw [MessengerDb.message?_editMessage] at hm
    split at hm
    · rename_i hk
      subst hk
      obtain ⟨m₀, hm₀, rfl⟩ := Option.map_eq_some_iff.1 hm
      exact hedit m₀ hm₀ (h.stored _ m₀ hm₀)
    · exact h.stored k m hm
  exact (h.setDb hSD hdb saved).deliver hSD x (ha _ rfl)

theorem sendGroupMessage {groupId text : String} {members : List String} {now : Nat} {random : UInt32} (saved : Bool)
    (hmsg : S { outgoing me (newMessageId me now random) groupId text now with
      groupId := some groupId, delivered := true })
    (hw : ∀ g, s.db.groups.lookup groupId = some g → members.toFinset = g.members.keys →
      ∀ member ∈ members, member ≠ me.userIdHex → ∀ msg, msg.id = newMessageId me now random →
        W (.deliver member msg)) :
    All S D Q A W (s.sendGroupMessage groupId text members now random saved) := by
  unfold Client.sendGroupMessage
  split
  · exact h
  · rename_i g hg
    split
    · rename_i hmembers
      dsimp only
      have hdb := h.addMessage hSD hmsg saved
      refine { hdb with todo := fun t ht => ?_ }
      rcases List.mem_append.1 ht with ht | ht
      · exact hdb.todo t ht
      · obtain ⟨member, hmem, rfl⟩ := List.mem_map.1 ht
        obtain ⟨hmem, hne⟩ := List.mem_filter.1 hmem
        exact hw g hg hmembers member hmem (of_decide_eq_true hne) _ rfl
    · exact h

theorem deleteMessagesForEveryone {r : String} {ids : List String} {now : UInt64} (x : Sealing) (saved : Bool)
    (ha : ∀ tombstone sealed, A ⟨.once, r, { tombstone := some tombstone }, sealed⟩) :
    All S D Q A W (s.deleteMessagesForEveryone J T r ids now x saved) := by
  have hdb : ∀ k m, (Messenger.deleteMessagesForEveryone T J me x.dht s.db r ids now x.ephSeed x.nonce
      x.timestamp).db.message? k = some m → S m := by
    intro k m hm
    refine h.stored k m (message?_of_deleteMessagesForEveryone hm)
  unfold Client.deleteMessagesForEveryone
  dsimp only
  split
  · exact h.setDb hSD hdb saved
  · exact (h.setDb hSD hdb saved).attempt (ha _ _)

/-- An envelope is handled: what it leaves stored is allowed, and so is the acknowledgement. -/
theorem handle_of_db {e : EncryptedEnvelope} {now : Nat} {dht : Dht} (saved : Bool)
    (hdb : ∀ v, s.inbox.admitted.find? (·.envelope = e) = some v → ∀ k m,
      (handlePayload J T me dht s.db v now).db.message? k = some m → S m)
    (hreceipt : ∀ v ∈ s.inbox.admitted, ∀ id, W (.receipt v.senderHex id)) :
    All S D Q A W (s.handle J T e now dht saved) := by
  unfold Client.handle
  split
  · exact h
  · rename_i v hv
    dsimp only
    constructor
    · intro k m hm
      have hinbox : (s.inbox.step J T (.handle e now dht)).db = (handlePayload J T me dht s.db v now).db := by
        simp only [Inbox.step, hv]
        rfl
      rw [Client.db, hinbox] at hm
      exact hdb v hv k m hm
    · intro d hd k m hm
      cases saved with
      | true =>
        obtain rfl := Option.some.inj hd
        exact hSD m (hdb v hv k m hm)
      | false => exact h.saved d hd k m hm
    · intro q hq
      dsimp only at hq
      split at hq
      · exact h.queue q (MessageQueue.mem_of_mem_markDelivered hq)
      · exact h.queue q hq
    · exact h.attempts
    · intro t ht
      rcases List.mem_append.1 ht with ht | ht
      · exact h.todo t ht
      · obtain ⟨id, -, rfl⟩ := Option.map_eq_some_iff.1 (Option.mem_toList.1 ht)
        exact hreceipt v (List.mem_of_find?_eq_some hv) id

/-- Whatever may come of the stored messages is allowed. -/
theorem handle {e : EncryptedEnvelope} {now : Nat} {dht : Dht} (saved : Bool)
    (hcame : ∀ v, s.inbox.admitted.find? (·.envelope = e) = some v → ∀ k m, Handled.Came J v s.db k m → S m)
    (hreceipt : ∀ v ∈ s.inbox.admitted, ∀ id, W (.receipt v.senderHex id)) :
    All S D Q A W (s.handle J T e now dht saved) :=
  h.handle_of_db hSD saved (fun v hv k m hm => hcame v hv k m (message?_of_handlePayload hm)) hreceipt

theorem popPending {now : Nat} (x : Sealing)
    (ha : ∀ q ∈ s.queue, q.status = .sending → ∀ sealed,
      A ⟨.retry { q with attempts := q.attempts + 1 } now, q.recipientId, messagePayload q.message, sealed⟩) :
    All S D Q A W (s.popPending J T now x) := by
  unfold Client.popPending
  split
  · exact h
  · rename_i item queue hpop
    obtain ⟨⟨q, hq, hdue, rfl⟩, rfl⟩ := MessageQueue.popPending_eq_some hpop
    have hstatus : q.status = .sending := by
      unfold QueuedMessage.isDue at hdue
      exact of_decide_eq_true (Bool.and_eq_true_iff.1 hdue).1
    exact (h.withQueue fun q' hq' => h.queue q' (List.mem_of_mem_eraseP hq')).deliver hSD x (ha q hq hstatus)

/-- What follows an attempt. -/
theorem afterAttempt {a : Attempt} (now : Nat) (saved : Bool)
    (hstored : ∀ msg e, a.job.message? = some msg → a.sealed = .err e → S msg)
    (hdelivered : ∀ msg e, a.job = .file msg ∨ a.job = .voiceNote msg → a.sealed = .ok e →
      S { msg with delivered := true })
    (hpush : ∀ msg e, a.job.message? = some msg → a.sealed = .err e → W (.push msg a.recipientIdHex))
    (hmessage : ∀ msg, a.job = .message msg →
      W (.store msg) ∧ ∀ q, q.message = msg → q.recipientId = a.recipientIdHex → Q q)
    (hretry : ∀ item since, a.job = .retry item since → Q (item.rescheduled since)) :
    All S D Q A W (s.afterAttempt a now saved) := by
  -- a failed first attempt stores the message and queues it later
  have hfailed : ∀ msg e, a.job.message? = some msg → a.sealed = .err e →
      All S D Q A W ((s.setDb (s.db.addMessage msg) saved).later (.push msg a.recipientIdHex)) := fun msg e hm he =>
    (h.addMessage hSD (hstored msg e hm he) saved).later (hpush msg e hm he)
  unfold Client.afterAttempt
  split
  · exact h
  · rename_i msg e hjob hsealed
    obtain ⟨hw, hq⟩ := hmessage msg hjob
    refine (h.withQueue fun q hq' => ?_).later hw
    rcases MessageQueue.mem_pushAfter hq' with hq' | rfl
    · exact h.queue q hq'
    · exact hq _ rfl rfl
  · exact h
  · exact h
  · rename_i msg e _ _ hjob hsealed
    exact hfailed msg e (by rw [hjob]; rfl) hsealed
  · rename_i msg e hjob hsealed
    exact h.addMessage hSD (hdelivered msg e (.inl hjob) hsealed) saved
  · rename_i msg e hjob hsealed
    exact hfailed msg e (by rw [hjob]; rfl) hsealed
  · rename_i msg e hjob hsealed
    exact h.addMessage hSD (hdelivered msg e (.inr hjob) hsealed) saved
  · rename_i msg e hjob hsealed
    exact hfailed msg e (by rw [hjob]; rfl) hsealed
  · rename_i _ item since hjob _
    refine h.withQueue fun q hq => ?_
    rcases MessageQueue.mem_scheduleRetry hq with hq | rfl
    · exact h.queue q hq
    · exact hretry item since hjob
  · exact h

omit hSD in
theorem finish {i : Nat} (now : Nat) (saved : Bool)
    (hrule : ∀ a, s.attempts[i]? = some a → A a → ∀ s' : Client me, All S D Q A W s' →
      All S D Q A W (s'.afterAttempt a now saved)) :
    All S D Q A W (s.finish i now saved) := by
  unfold Client.finish
  split
  · exact h
  · rename_i a ha
    exact hrule a ha (h.attempts a (List.mem_of_getElem? ha)) _ (h.dropAttempt i)

omit hSD in
theorem sendDeliveryReceipt (r id : String) (now : Nat) (x : Sealing)
    (ha : ∀ sealed, A ⟨.once, r, receiptPayload me id (UInt64.ofNat now), sealed⟩) :
    All S D Q A W (s.sendDeliveryReceipt J r id now x) := by
  unfold Client.sendDeliveryReceipt
  split
  · split
    · exact h.attempt (ha _)
    · exact h
  · exact h

/-- What a task does next. -/
theorem perform {t : Todo} {now : Nat} (x : Sealing) (saved : Bool)
    (hstore : ∀ msg, t = .store msg → S msg)
    (hpush : ∀ msg r, t = .push msg r → ∀ q, q.message = msg → q.recipientId = r → Q q)
    (hdeliver : ∀ member msg, t = .deliver member msg → ∀ sealed, A ⟨.once, member, messagePayload msg, sealed⟩)
    (hreceipt : ∀ r id, t = .receipt r id → ∀ sealed, A ⟨.once, r, receiptPayload me id (UInt64.ofNat now), sealed⟩) :
    All S D Q A W (s.perform J T t now x saved) := by
  cases t with
  | store msg => exact h.addMessage hSD (hstore msg rfl) saved
  | push msg r =>
    refine h.withQueue fun q hq => ?_
    rcases MessageQueue.mem_pushAfter hq with hq | rfl
    · exact h.queue q hq
    · exact hpush msg r rfl _ rfl rfl
  | deliver member msg => exact h.deliver hSD x (hdeliver member msg rfl)
  | receipt r id =>
    rw [Client.perform]
    exact h.sendDeliveryReceipt r id now x (hreceipt r id rfl)

omit hSD in
/-- A task goes on. -/
theorem proceed_of {j now : Nat} (x : Sealing) (saved : Bool)
    (hrule : ∀ t, s.todo[j]? = some t → W t → ∀ s' : Client me, All S D Q A W s' →
      All S D Q A W (s'.perform J T t now x saved)) : All S D Q A W (s.proceed J T j now x saved) := by
  unfold Client.proceed
  split
  · exact h
  · rename_i t ht
    exact hrule t ht (h.todo t (List.mem_of_getElem? ht)) _ (h.dropTodo j)

theorem proceed {j now : Nat} (x : Sealing) (saved : Bool)
    (hstore : ∀ msg, W (.store msg) → S msg)
    (hpush : ∀ msg r, W (.push msg r) → ∀ q, q.message = msg → q.recipientId = r → Q q)
    (hdeliver : ∀ member msg, W (.deliver member msg) → ∀ sealed, A ⟨.once, member, messagePayload msg, sealed⟩)
    (hreceipt : ∀ r id, W (.receipt r id) → ∀ sealed, A ⟨.once, r, receiptPayload me id (UInt64.ofNat now), sealed⟩) :
    All S D Q A W (s.proceed J T j now x saved) := by
  refine h.proceed_of x saved fun t _ hw s' hs' => hs'.perform hSD x saved ?_ ?_ ?_ ?_
  · rintro msg rfl
    exact hstore msg hw
  · rintro msg r rfl
    exact hpush msg r hw
  · rintro member msg rfl
    exact hdeliver member msg hw
  · rintro r id rfl
    exact hreceipt r id hw

/-- The user's own operations remove messages, or pin one. -/
theorem localOp (op : LocalOp) (saved : Bool) (hpin : ∀ m, S m → S m.togglePin) :
    All S D Q A W (s.localOp op saved) := by
  have hop : op.IsPlain → ∀ k m, (op.apply s.db).message? k = some m → S m := by
    intro hplain k m hm
    obtain ⟨m₀, hm₀, rfl | rfl⟩ := LocalOp.message?_of_apply hplain hm
    · exact h.stored k m hm₀
    · exact hpin m₀ (h.stored k m₀ hm₀)
  rcases localOp_cases s op saved with heq | ⟨hplain, heq⟩ | ⟨rfl, heq⟩ <;> rw [heq]
  · exact h
  · exact h.setDb hSD (hop hplain) saved
  · exact { h with stored := fun k m hm => hop trivial k m hm, saved := fun _ hd => by cases hd }

end All

/-- What is reloaded are the messages that wait for a receipt. -/
theorem mem_reload {db : MessengerDb} {now : Nat} {q : QueuedMessage} (hq : q ∈ reload me db now) :
    ∃ m ∈ db.messages.list, isPending me m = true ∧ q.message = m ∧ q.recipientId = m.recipientIdHex := by
  have hfold : ∀ (l : List SavedChatMessage) (queue : MessageQueue),
      q ∈ l.foldl (fun queue m => queue.push m m.recipientIdHex now) queue →
      q ∈ queue ∨ ∃ m ∈ l, q.message = m ∧ q.recipientId = m.recipientIdHex := by
    intro l
    induction l with
    | nil => exact fun queue hq => .inl hq
    | cons m l ih =>
      intro queue hq
      rcases ih _ hq with hq | ⟨m', hm', heq⟩
      · rcases MessageQueue.mem_pushAfter hq with hq | rfl
        · exact .inl hq
        · exact .inr ⟨m, List.mem_cons_self, rfl, rfl⟩
      · exact .inr ⟨m', List.mem_cons_of_mem _ hm', heq⟩
  rcases hfold _ _ hq with hq | ⟨m, hm, heq⟩
  · cases hq
  · obtain ⟨hm, hpending⟩ := List.mem_filter.1 hm
    exact ⟨m, hm, hpending, heq⟩

theorem All.restart (h : All S D Q A W s) (now : Nat)
    (hdisk : ∀ db ∈ s.disk, ∀ k m, db.message? k = some m → S m)
    (hreload : ∀ db ∈ s.disk, ∀ m ∈ db.messages.list, isPending me m = true →
      ∀ q, q.message = m → q.recipientId = m.recipientIdHex → Q q) : All S D Q A W (s.restart now) := by
  unfold Client.restart
  split
  · exact h
  · rename_i db hdb
    refine ⟨hdisk db hdb, fun d hd => ?_, fun q hq => ?_, fun a ha => (by cases ha), fun t ht => by cases ht⟩
    · obtain rfl := Option.some.inj hd
      exact h.saved db hdb
    · obtain ⟨m, hm, hpending, hmsg, hr⟩ := mem_reload hq
      exact hreload db hdb m hm hpending q hmsg hr

end Rule

/-! ## What is looked back to -/

section History

@[simp] theorem receipts_resolve (r : String) (x : Sealing) : (s.resolve T r x).receipts = s.receipts := by
  rcases s.resolve_cases T r x with heq | ⟨_, heq⟩
  · rw [heq]
  · rw [heq, receipts_setDb]

@[simp] theorem sent_resolve (r : String) (x : Sealing) : (s.resolve T r x).sent = s.sent := by
  rcases s.resolve_cases T r x with heq | ⟨_, heq⟩
  · rw [heq]
  · rw [heq, sent_setDb]

@[simp] theorem receipts_deliver (job : Job) (r : String) (p : ChatMessagePayload) (x : Sealing) :
    (s.deliver J T job r p x).receipts = s.receipts := by
  rw [deliver, attempt, receipts_resolve]

@[simp] theorem sent_deliver (job : Job) (r : String) (p : ChatMessagePayload) (x : Sealing) :
    (s.deliver J T job r p x).sent = s.sent := by
  rw [deliver, attempt, sent_resolve]

theorem history_finish (i now : Nat) (saved : Bool) :
    (s.finish i now saved).receipts = s.receipts ∧ (s.finish i now saved).sent = s.sent := by
  unfold finish
  split
  · exact ⟨rfl, rfl⟩
  · unfold afterAttempt
    split <;> exact ⟨rfl, rfl⟩

theorem history_sendDeliveryReceipt (r id : String) (now : Nat) (x : Sealing) :
    (s.sendDeliveryReceipt J r id now x).receipts = s.receipts ∧
      (s.sendDeliveryReceipt J r id now x).sent = s.sent := by
  unfold sendDeliveryReceipt
  split
  · split <;> exact ⟨rfl, rfl⟩
  · exact ⟨rfl, rfl⟩

theorem history_proceed (j now : Nat) (x : Sealing) (saved : Bool) :
    (s.proceed J T j now x saved).receipts = s.receipts ∧ (s.proceed J T j now x saved).sent = s.sent := by
  unfold proceed
  split
  · exact ⟨rfl, rfl⟩
  · rename_i t _
    cases t with
    | store msg => exact ⟨rfl, rfl⟩
    | push msg r => exact ⟨rfl, rfl⟩
    | deliver member msg => exact ⟨receipts_deliver .., sent_deliver ..⟩
    | receipt r id =>
      rw [perform]
      exact history_sendDeliveryReceipt r id now x

theorem history_popPending (now : Nat) (x : Sealing) :
    (s.popPending J T now x).receipts = s.receipts ∧ (s.popPending J T now x).sent = s.sent := by
  unfold popPending
  split
  · exact ⟨rfl, rfl⟩
  · exact ⟨receipts_deliver .., sent_deliver ..⟩

theorem history_localOp (op : LocalOp) (saved : Bool) :
    (s.localOp op saved).receipts = s.receipts ∧ (s.localOp op saved).sent = s.sent := by
  rcases localOp_cases s op saved with heq | ⟨-, heq⟩ | ⟨-, heq⟩ <;> rw [heq] <;> exact ⟨rfl, rfl⟩

theorem history_deleteMessagesForEveryone (r : String) (ids : List String) (now : UInt64) (x : Sealing) (saved : Bool) :
    (s.deleteMessagesForEveryone J T r ids now x saved).receipts = s.receipts ∧
      (s.deleteMessagesForEveryone J T r ids now x saved).sent = s.sent := by
  unfold deleteMessagesForEveryone
  dsimp only
  split <;> exact ⟨rfl, rfl⟩

theorem history_sendGroupMessage (groupId text : String) (members : List String) (now : Nat) (random : UInt32)
    (saved : Bool) : (s.sendGroupMessage groupId text members now random saved).receipts = s.receipts ∧
      (s.sendGroupMessage groupId text members now random saved).sent = s.sent := by
  unfold sendGroupMessage
  split
  · exact ⟨rfl, rfl⟩
  · split <;> exact ⟨rfl, rfl⟩

theorem history_restart (now : Nat) :
    (s.restart now).receipts = s.receipts ∧ (s.restart now).sent = s.sent := by
  unfold restart
  split <;> exact ⟨rfl, rfl⟩

/-- Only handling an envelope adds to the receipts. -/
theorem receipts_step {a : ClientAction} (ha : ∀ e now dht saved, a ≠ .handle e now dht saved) :
    (s.step J T a).receipts = s.receipts := by
  cases a with
  | handle e now dht saved => exact absurd rfl (ha e now dht saved)
  | receive e now => rfl
  | audioFrame packet => rfl
  | localOp op saved => exact (history_localOp op saved).1
  | sendMessage r text image now random x saved =>
    rw [step, sendMessage]
    split
    · rfl
    · dsimp only
      split
      · rfl
      · exact receipts_deliver ..
  | sendFile r text manifest now random x => exact receipts_deliver ..
  | sendVoiceNote r note now random x saved =>
    rw [step, sendVoiceNote]
    dsimp only
    split
    · rfl
    · exact receipts_deliver ..
  | reactToMessage r id emoji now x saved => exact receipts_deliver ..
  | editMessage r id text now x saved => exact receipts_deliver ..
  | sendGroupMessage groupId text members now random saved => exact (history_sendGroupMessage ..).1
  | sendCallSignal r callId signalType text now random x => exact receipts_deliver ..
  | sendCallAudio r callId samples rate seq routing nonce ephSeed => rfl
  | deleteMessagesForEveryone r ids now x saved => exact (history_deleteMessagesForEveryone ..).1
  | popPending now x => exact (history_popPending ..).1
  | transmit i => rfl
  | finish i now saved => exact (history_finish ..).1
  | proceed j now x saved => exact (history_proceed ..).1
  | restart now => exact (history_restart ..).1

end History

end Client

end NodeX.Messenger
