/-
What is left after a wipe. `wipe_local_data` clears part of the database in memory and removes the files; the groups
with their keys, the pinned and the retracted ids, the outbox, the sends under way and the identity stay in the
process until it ends, and the next save writes what is in the database then.
-/
import NodeX.Messenger.Device

namespace NodeX.Messenger

open NodeX.Lib

variable {C : Crypto}

/-! ## What there was -/

/-- What a wipe is to remove: the groups, the pinned ids, the pending tombstones, the ids of the messages queued or on
their way out, and the private keys with the phrase they come from. -/
structure PrivateData where
  groups : Finmap fun _ : String => P2PGroup
  pinned : Finset String
  tombstones : Finset (String × String)
  outgoing : List String
  keys : List Bytes
  phrase : String

/-- The messages an attempt carries. -/
def Attempt.messageIds (a : Attempt) : List String :=
  (match a.job with
    | .message msg | .file msg | .voiceNote msg => [msg.id]
    | .retry item _ => [item.message.id]
    | .once => []) ++ a.payload.messageId?.toList

/-- The message a task carries. -/
def Todo.messageId? : Todo → Option String
  | .store msg | .push msg _ | .deliver _ msg => some msg.id
  | .receipt .. => none

def Client.privateData {me : UserIdentity C} (s : Client me) : PrivateData where
  groups := s.db.groups
  pinned := s.db.pinnedMessageIds
  tombstones := s.db.pendingTombstones
  outgoing := s.queue.map (·.message.id) ++ s.attempts.flatMap Attempt.messageIds ++ s.todo.filterMap Todo.messageId?
  keys := [me.signingKey, me.x25519Secret, s.db.userSeed]
  phrase := s.db.mnemonic

/-! ## Nothing of it -/

variable (o : PrivateData)

/-- An identity with other keys. -/
def OtherKeys (id : UserIdentity C) : Prop := id.signingKey ∉ o.keys ∧ id.x25519Secret ∉ o.keys

/-- A group with another key, so that it is another group. -/
def P2PGroup.IsOther (g : P2PGroup) : Prop := ∀ p ∈ o.groups.entries, g.groupKeyHex ≠ p.2.groupKeyHex

/-- Not one of the messages that were on their way out. -/
def SavedChatMessage.IsOther (m : SavedChatMessage) : Prop := m.incoming = false → m.id ∉ o.outgoing

/-- Nothing of it among the groups, the marks and the secrets of a database. -/
structure MessengerDb.Rid (db : MessengerDb) : Prop where
  groups : ∀ p ∈ db.groups.entries, p.2.IsOther o
  pinned : ∀ id ∈ db.pinnedMessageIds, id ∉ o.pinned
  tombstones : ∀ t ∈ db.pendingTombstones, t ∉ o.tombstones
  seed : db.userSeed = noSeed ∨ db.userSeed ∉ o.keys
  phrase : db.mnemonic = "" ∨ db.mnemonic ≠ o.phrase

/-- Nothing of it in a database. -/
structure MessengerDb.Free (db : MessengerDb) : Prop where
  rid : db.Rid o
  messages : ∀ m ∈ db.messages.list, m.IsOther o

/-- Nothing of it is sent: neither its keys make what is sent nor is it one of its messages. -/
def Sent.Free (m : Sent C) : Prop := OtherKeys o m.sender ∧ ∀ id ∈ m.messageId, id ∉ o.outgoing

namespace Client

variable {me : UserIdentity C}

/-- The step brings nothing of it in again from outside. -/
def BringsOther (J : PayloadJson) (s : Client me) : ClientAction → Prop
  | .handle e _ _ _ => ∀ v ∈ s.inbox.admitted.find? (·.envelope = e),
      match branch J me v.envelope (v.payload J) with
      | .tombstone ids => ∀ id ∈ ids, (v.senderHex, id) ∉ o.tombstones
      | _ => True
  | .localOp (.addGroup g) _ => g.IsOther o
  | .localOp (.togglePinMessage id) _ => id ∉ o.pinned
  | .sendMessage _ _ _ now random _ _ | .sendFile _ _ _ now random _ | .sendVoiceNote _ _ now random _ _
  | .sendGroupMessage _ _ _ now random _ => newMessageId me now random ∉ o.outgoing
  | .editMessage _ id .. => id ∉ o.outgoing
  | _ => True

/-- The message that is stored when a send ends this way. -/
def ends? (s : Client me) : ClientAction → Option SavedChatMessage
  | .finish i _ _ => (s.attempts[i]?).bind (·.job.message?)
  | .proceed j _ _ _ => (s.todo[j]?).bind fun
      | .store msg => some msg
      | _ => none
  | _ => none

end Client

namespace Device

variable (B : Bip39) (J : PayloadJson) (T : PresenceText)

/-- What the device writes and sends in this step has nothing of it. -/
def Leaves (d : Device C) (a : DeviceAction) : Prop :=
  (∀ db ∈ d.files B J T a, db.Free o) ∧ ∀ m ∈ d.sends B T a, m.Free o

/-- Nothing of it comes in again: no group with such a key, no such tombstone, no such pin, no message under such an
id, and no such phrase or key, typed or drawn. -/
def BringsOther : Device C → DeviceAction → Prop
  | running _ s, .client a => s.BringsOther o J a
  | running _ _, .restoreMnemonic mnemonic _ _ =>
    trim mnemonic ≠ o.phrase ∧ ∀ id ∈ (UserIdentity.fromMnemonic C B (trim mnemonic)).toOption, OtherKeys o id
  | d, .start displayName u _ _ => ∀ p ∈ (startDb C B (d.disk.getD {}) displayName u).toOption,
      OtherKeys o p.1 ∧ (p.2.mnemonic = "" ∨ p.2.mnemonic ≠ o.phrase)
  | _, _ => True

/-- The database in memory is free of it, and the step stores none of its messages. -/
def StoresOther : Device C → DeviceAction → Prop
  | running _ s, .client a => s.db.Free o ∧ ∀ m ∈ s.ends? a, m.IsOther o
  | running _ s, _ => s.db.Free o
  | stopped _, _ => True

/-- Where the step sends something, the process has other keys; and what is transmitted is none of its messages. -/
def SendsOther : Device C → DeviceAction → Prop
  | running me s, .client a => (s.sendsTo T a).isSome → OtherKeys o me ∧
      match a with
      | .transmit i => ∀ att ∈ s.attempts[i]?, ∀ id ∈ att.payload.messageId?, id ∉ o.outgoing
      | _ => True
  | running me _, .publishPresence | running me _, .updateProfile .. => OtherKeys o me
  | _, _ => True

/-- A step before the process has ended: it sends with other keys and other messages, and when it writes a file the
database in memory has nothing of it. -/
structure Quiet (d : Device C) (a : DeviceAction) : Prop where
  running : a.isStart = false
  sends : d.SendsOther o T a
  saves : ∀ db ∈ d.files B J T a, db ∉ d.disk → d.StoresOther o a
  brings : d.BringsOther o B J a

end Device

/-! ## What changes the groups, the marks and the secrets -/

/-- The same groups, tombstones and secrets, and no more pins. -/
structure MessengerDb.Within (db' db : MessengerDb) : Prop where
  groups : db'.groups = db.groups
  pinned : db'.pinnedMessageIds ⊆ db.pinnedMessageIds
  tombstones : db'.pendingTombstones = db.pendingTombstones
  seed : db'.userSeed = db.userSeed
  phrase : db'.mnemonic = db.mnemonic

namespace MessengerDb

variable {o} {db db' db'' : MessengerDb}

theorem Within.refl (db : MessengerDb) : db.Within db := ⟨rfl, subset_rfl, rfl, rfl, rfl⟩

theorem Within.trans (h' : db''.Within db') (h : db'.Within db) : db''.Within db :=
  ⟨h'.groups.trans h.groups, h'.pinned.trans h.pinned, h'.tombstones.trans h.tombstones, h'.seed.trans h.seed,
    h'.phrase.trans h.phrase⟩

theorem Rid.within (h : db.Rid o) (hw : db'.Within db) : db'.Rid o where
  groups := by rw [hw.groups]; exact h.groups
  pinned := fun id hid => h.pinned id (hw.pinned hid)
  tombstones := by rw [hw.tombstones]; exact h.tombstones
  seed := by rw [hw.seed]; exact h.seed
  phrase := by rw [hw.phrase]; exact h.phrase

variable (db)

theorem within_contacts (contacts : Finmap fun _ : String => SavedContact) :
    ({ db with contacts } : MessengerDb).Within db := ⟨rfl, subset_rfl, rfl, rfl, rfl⟩

theorem within_addMessage (msg : SavedChatMessage) : (db.addMessage msg).Within db := by
  unfold addMessage
  split <;> exact ⟨rfl, subset_rfl, rfl, rfl, rfl⟩

theorem within_modifyMessage (id : String) (f : SavedChatMessage → SavedChatMessage) (hf : ∀ m, (f m).id = m.id) :
    (db.modifyMessage id f hf).Within db := ⟨rfl, subset_rfl, rfl, rfl, rfl⟩

theorem within_editMessage (id text : String) (ts : Nat) : (db.editMessage id text ts).1.Within db := by
  unfold editMessage
  split
  · exact db.within_modifyMessage ..
  · exact .refl db

theorem within_editMessageByAuthor (id text : String) (ts : Nat) (author : String) :
    (db.editMessageByAuthor id text ts author).1.Within db := by
  unfold editMessageByAuthor
  split
  · split
    · exact .refl db
    · exact db.within_modifyMessage ..
  · exact .refl db

theorem within_deleteByAuthor (id author : String) : (db.deleteByAuthor id author).1.Within db := by
  unfold deleteByAuthor
  split
  · split
    · exact ⟨rfl, Finset.erase_subset _ _, rfl, rfl, rfl⟩
    · exact .refl db
  · exact .refl db

theorem within_deleteMessagesByAuthor (author : String) : ∀ (ids : List String) (db : MessengerDb),
    (db.deleteMessagesByAuthor ids author).1.Within db
  | [], db => .refl db
  | id :: ids, db =>
    (within_deleteMessagesByAuthor author ids (db.deleteByAuthor id author).1).trans
      (db.within_deleteByAuthor id author)

theorem within_storeWithSelf (me : UserIdentity C) (msg : SavedChatMessage) : (storeWithSelf me db msg).Within db := by
  unfold storeWithSelf
  dsimp only
  split
  · exact (within_contacts _ _).trans (db.within_addMessage msg)
  · exact db.within_addMessage msg

end MessengerDb

/-- A plain operation adds no groups and no pins, but for these two. -/
theorem LocalOp.within_apply {op : LocalOp} (hop : op.IsPlain) (hgroup : ∀ g, op ≠ .addGroup g)
    (hpin : ∀ id, op ≠ .togglePinMessage id) (hwipe : op ≠ .wipe) (db : MessengerDb) : (op.apply db).Within db := by
  cases op with
  | addMessage msg => exact hop.elim
  | editMessage id text ts => exact hop.elim
  | addReaction id emoji reactor => exact hop.elim
  | deleteMessagesByAuthor ids author => exact hop.elim
  | togglePinMessage id => exact absurd rfl (hpin id)
  | addGroup g => exact absurd rfl (hgroup g)
  | wipe => exact absurd rfl hwipe
  | cleanupExpiredMessages now => exact ⟨rfl, subset_rfl, rfl, rfl, rfl⟩
  | deleteMessage id => exact ⟨rfl, Finset.erase_subset _ _, rfl, rfl, rfl⟩
  | deleteMessages ids => exact ⟨rfl, Finset.sdiff_subset, rfl, rfl, rfl⟩
  | clearMessagesForContact contact => exact ⟨rfl, Finset.sdiff_subset, rfl, rfl, rfl⟩
  | deleteContact contact => exact ⟨rfl, Finset.sdiff_subset, rfl, rfl, rfl⟩
  | blockUser user => exact ⟨rfl, subset_rfl, rfl, rfl, rfl⟩
  | unblockUser user => exact ⟨rfl, subset_rfl, rfl, rfl, rfl⟩
  | addContact contact => exact ⟨rfl, subset_rfl, rfl, rfl, rfl⟩

section Branches

variable {J : PayloadJson} {T : PresenceText} {me : UserIdentity C}

theorem within_ensureContact (dht : Dht) (db : MessengerDb) (e : EncryptedEnvelope) :
    (ensureContact (C := C) T dht db e).Within db := by
  unfold ensureContact
  dsimp only
  split
  · exact .refl db
  · obtain ⟨contacts, h⟩ := fst_discoverPeer C T dht db e.senderId.toHex
    have hd : (discoverPeer C T dht db e.senderId.toHex).1.Within db := by
      rw [h]
      exact db.within_contacts contacts
    exact (MessengerDb.within_contacts _ _).trans hd

/-- Only a tombstone adds to what is retracted. -/
theorem within_handleBranch {br : Branch} (hbr : ∀ ids, br ≠ .tombstone ids) (dht : Dht) (db : MessengerDb)
    (v : Verified me) (now : Nat) : (handleBranch J T me dht db v now br).db.Within db := by
  cases br with
  | tombstone ids => exact absurd rfl (hbr ids)
  | deliveryReceipt r =>
    rw [handleBranch, handleDeliveryReceipt]
    split
    · exact db.within_modifyMessage ..
    · exact .refl db
  | readReceipt => exact .refl db
  | callSignal signal =>
    rw [handleBranch, db_handleCallSignal]
    exact .refl db
  | callAudio chunk =>
    rw [handleBranch, db_handleCallAudio]
    exact .refl db
  | reaction react =>
    rw [handleBranch, handleReaction]
    split
    · exact db.within_modifyMessage ..
    · exact .refl db
  | edit =>
    rw [handleBranch, db_handleEdit]
    exact db.within_editMessageByAuthor ..
  | newMessage =>
    rw [handleBranch, db_handleNewMessage]
    split
    · exact within_ensureContact dht db v.envelope
    · exact (MessengerDb.within_addMessage _ _).trans (within_ensureContact dht db v.envelope)

theorem rid_handlePayload {o : PrivateData} {db : MessengerDb} (h : db.Rid o) {v : Verified me}
    (hin : ∀ ids, branch J me v.envelope (v.payload J) = .tombstone ids →
      ∀ id ∈ ids, (v.senderHex, id) ∉ o.tombstones) (dht : Dht) (now : Nat) :
    (handlePayload J T me dht db v now).db.Rid o := by
  unfold handlePayload
  by_cases hbr : ∃ ids, branch J me v.envelope (v.payload J) = .tombstone ids
  · obtain ⟨ids, hbr⟩ := hbr
    have hdel := h.within (MessengerDb.within_deleteMessagesByAuthor v.senderHex ids db)
    rw [hbr]
    refine { hdel with tombstones := fun t ht => ?_ }
    rcases Finset.mem_union.1 ht with ht | ht
    · exact hdel.tombstones t ht
    · obtain ⟨id, hid, rfl⟩ := List.mem_map.1 (List.mem_toFinset.1 ht)
      exact hin ids hbr id hid
  · exact h.within (within_handleBranch (fun ids heq => hbr ⟨ids, heq⟩) dht db v now)

theorem within_deliverTombstone {dht : Dht} {db : MessengerDb} {r : String} {ids : List String} {now : UInt64}
    {ephSeed nonce : Bytes} {ts : UInt64} :
    (deliverTombstone T J me dht db r ids now ephSeed nonce ts).db.Within db := by
  unfold deliverTombstone
  split
  · exact .refl db
  · exact .refl db
  · split
    · exact .refl db
    · exact .refl db
    · rename_i hkey
      obtain ⟨contacts, rfl⟩ := db_retractionKey hkey
      split <;> exact db.within_contacts contacts

theorem within_deleteMessagesForEveryone {dht : Dht} {db : MessengerDb} {r : String} {ids : List String}
    {now : UInt64} {ephSeed nonce : Bytes} {ts : UInt64} :
    (deleteMessagesForEveryone T J me dht db r ids now ephSeed nonce ts).db.Within db := by
  have hdel := MessengerDb.within_deleteMessagesByAuthor me.userIdHex ids db
  unfold deleteMessagesForEveryone
  split
  · exact .refl db
  · split
    rename_i db' deleted heq
    rw [heq] at hdel
    split
    · exact hdel
    · exact within_deliverTombstone.trans hdel

end Branches

/-! ## The steps that change none of it -/

namespace Client

/-- In memory there is no more than before, and what was written meanwhile is no more either. -/
structure Within {me : UserIdentity C} (s' s : Client me) : Prop where
  db : s'.db.Within s.db
  disk : ∀ db ∈ s'.disk, db ∈ s.disk ∨ db.Within s.db

section Steps

variable {J : PayloadJson} {T : PresenceText} {me : UserIdentity C} {s s' s'' : Client me}

theorem Within.refl (s : Client me) : s.Within s := ⟨.refl s.db, fun _ hdb => .inl hdb⟩

theorem Within.trans (h' : s''.Within s') (h : s'.Within s) : s''.Within s := by
  refine ⟨h'.db.trans h.db, fun db hdb => ?_⟩
  rcases h'.disk db hdb with hdb | hdb
  · exact h.disk db hdb
  · exact .inr (hdb.trans h.db)

theorem within_setDb {db : MessengerDb} (h : db.Within s.db) (saved : Bool) : (s.setDb db saved).Within s := by
  refine ⟨h, fun d hd => ?_⟩
  rcases disk_setDb hd with rfl | hd
  · exact .inr h
  · exact .inl hd

theorem within_attempt (a : Attempt) : (s.attempt a).Within s := ⟨.refl s.db, fun _ hdb => .inl hdb⟩

theorem within_record (p : ChatMessagePayload) : (s.record p).Within s := ⟨.refl s.db, fun _ hdb => .inl hdb⟩

theorem within_deliver (job : Job) (r : String) (p : ChatMessagePayload) (x : Sealing) :
    (s.deliver J T job r p x).Within s := by
  have hresolve : (s.resolve T r x).Within s := by
    rcases s.resolve_cases T r x with heq | ⟨contacts, heq⟩ <;> rw [heq]
    · exact .refl s
    · exact within_setDb (s.db.within_contacts contacts) x.saved
  exact (within_attempt _).trans hresolve

theorem within_sendDeliveryReceipt (r id : String) (now : Nat) (x : Sealing) :
    (s.sendDeliveryReceipt J r id now x).Within s := by
  unfold sendDeliveryReceipt
  split
  · split
    · exact ⟨.refl s.db, fun _ hdb => .inl hdb⟩
    · exact .refl s
  · exact .refl s

theorem within_afterAttempt (a : Attempt) (now : Nat) (saved : Bool) : (s.afterAttempt a now saved).Within s := by
  have hadd : ∀ msg, (s.setDb (s.db.addMessage msg) saved).Within s := fun msg =>
    within_setDb (s.db.within_addMessage msg) saved
  have hfailed : ∀ msg, ((s.setDb (s.db.addMessage msg) saved).later (.push msg a.recipientIdHex)).Within s :=
    fun msg => ⟨(hadd msg).db, (hadd msg).disk⟩
  have hsame : s.Within s := .refl s
  unfold afterAttempt
  split
  · exact hsame
  · exact ⟨hsame.db, hsame.disk⟩
  · exact hsame
  · exact hsame
  · exact hfailed _
  · exact hadd _
  · exact hfailed _
  · exact hadd _
  · exact hfailed _
  · exact ⟨hsame.db, hsame.disk⟩
  · exact hsame

theorem within_perform (t : Todo) (now : Nat) (x : Sealing) (saved : Bool) :
    (s.perform J T t now x saved).Within s := by
  cases t with
  | store msg => exact within_setDb (s.db.within_addMessage msg) saved
  | push msg r => exact ⟨.refl s.db, fun _ hdb => .inl hdb⟩
  | deliver member msg => exact within_deliver ..
  | receipt r id =>
    rw [perform]
    exact within_sendDeliveryReceipt r id now x

/-- A step of the client keeps to what there is, unless it handles an envelope, is an operation on the database or
starts anew. -/
theorem within_step {a : ClientAction} (hhandle : ∀ e now dht saved, a ≠ .handle e now dht saved)
    (hop : ∀ op saved, a ≠ .localOp op saved) (hrestart : ∀ now, a ≠ .restart now) : (s.step J T a).Within s := by
  have hsame : s.Within s := .refl s
  cases a with
  | handle e now dht saved => exact absurd rfl (hhandle e now dht saved)
  | localOp op saved => exact absurd rfl (hop op saved)
  | restart now => exact absurd rfl (hrestart now)
  | receive e now =>
    refine ⟨?_, hsame.disk⟩
    rw [Client.db, step, Inbox.db_step_receive]
    exact hsame.db
  | audioFrame packet => exact ⟨hsame.db, hsame.disk⟩
  | sendMessage r text image now random x saved =>
    rw [step, sendMessage]
    split
    · exact hsame
    · dsimp only
      split
      · exact within_setDb (s.db.within_storeWithSelf me _) saved
      · exact (within_deliver ..).trans (within_record _)
  | sendFile r text manifest now random x => exact (within_deliver ..).trans (within_record _)
  | sendVoiceNote r note now random x saved =>
    rw [step, sendVoiceNote]
    dsimp only
    split
    · exact within_setDb (s.db.within_storeWithSelf me _) saved
    · exact (within_deliver ..).trans (within_record _)
  | reactToMessage r id emoji now x saved =>
    exact (within_deliver ..).trans (within_setDb (s.db.within_modifyMessage ..) saved)
  | editMessage r id text now x saved =>
    exact (within_deliver ..).trans (within_setDb (s.db.within_editMessage ..) saved)
  | sendGroupMessage groupId text members now random saved =>
    rw [step, sendGroupMessage]
    split
    · exact hsame
    · split
      · have hadd : ∀ msg, (s.setDb (s.db.addMessage msg) saved).Within s := fun msg =>
          within_setDb (s.db.within_addMessage msg) saved
        exact ⟨(hadd _).db, (hadd _).disk⟩
      · exact hsame
  | sendCallSignal r callId signalType text now random x => exact within_deliver ..
  | sendCallAudio r callId samples rate seq routing nonce ephSeed => exact hsame
  | deleteMessagesForEveryone r ids now x saved =>
    rw [step, deleteMessagesForEveryone]
    split
    · exact within_setDb within_deleteMessagesForEveryone saved
    · exact (within_attempt _).trans (within_setDb within_deleteMessagesForEveryone saved)
  | popPending now x =>
    rw [step, popPending]
    split
    · exact hsame
    · rename_i item queue _
      have hqueue : ({ s with queue } : Client me).Within s := ⟨hsame.db, hsame.disk⟩
      exact (within_deliver ..).trans hqueue
  | transmit i => exact hsame
  | finish i now saved =>
    rw [step, finish]
    split
    · exact hsame
    · have hdrop : ({ s with attempts := s.attempts.eraseIdx i } : Client me).Within s := ⟨hsame.db, hsame.disk⟩
      exact (within_afterAttempt ..).trans hdrop
  | proceed j now x saved =>
    rw [step, proceed]
    split
    · exact hsame
    · have hdrop : ({ s with todo := s.todo.eraseIdx j } : Client me).Within s := ⟨hsame.db, hsame.disk⟩
      exact (within_perform ..).trans hdrop

end Steps

/-! ## What a step brings in -/

section Brings

variable {o} {J : PayloadJson} {T : PresenceText} {me : UserIdentity C} {s : Client me}

/-- The user's operations bring a group or a pin at most. -/
theorem rid_localOp (hdb : s.db.Rid o) (hdisk : ∀ db ∈ s.disk, db.Rid o) {op : LocalOp} {saved : Bool}
    (hin : s.BringsOther o J (.localOp op saved)) :
    (s.localOp op saved).db.Rid o ∧ ∀ db ∈ (s.localOp op saved).disk, db.Rid o := by
  have hset : ∀ db, db.Rid o → (s.setDb db saved).db.Rid o ∧ ∀ d ∈ (s.setDb db saved).disk, d.Rid o := by
    refine fun db hrid => ⟨hrid, fun d hd => ?_⟩
    rcases disk_setDb hd with rfl | hd
    · exact hrid
    · exact hdisk d hd
  rcases localOp_cases s op saved with heq | ⟨hplain, heq⟩ | ⟨rfl, heq⟩ <;> rw [heq]
  · exact ⟨hdb, hdisk⟩
  · refine hset _ ?_
    by_cases hwipe : op = .wipe
    · subst hwipe
      exact ⟨hdb.groups, hdb.pinned, hdb.tombstones, .inl rfl, .inl rfl⟩
    cases hop : op with
    | addGroup g =>
      subst hop
      refine { hdb with groups := fun p hp => ?_ }
      have hlookup : p.2 ∈ (s.db.groups.insert g.groupId g).lookup p.1 := Finmap.mem_lookup_iff.2 hp
      by_cases hid : p.1 = g.groupId
      · rw [hid, Finmap.lookup_insert] at hlookup
        rw [← Option.mem_some_iff.1 hlookup]
        exact hin
      · rw [Finmap.lookup_insert_of_ne _ hid] at hlookup
        exact hdb.groups p (Finmap.mem_lookup_iff.1 hlookup)
    | togglePinMessage id =>
      subst hop
      rw [LocalOp.apply, MessengerDb.togglePinMessage]
      split
      · refine { hdb with pinned := fun k hk => ?_ }
        dsimp only at hk
        split at hk
        · exact hdb.pinned k (Finset.mem_of_mem_erase hk)
        · rcases Finset.mem_insert.1 hk with rfl | hk
          · exact hin
          · exact hdb.pinned k hk
      · exact hdb
    | _ =>
      subst hop
      exact hdb.within (LocalOp.within_apply hplain (fun _ h => by cases h) (fun _ h => by cases h) hwipe s.db)
  · exact ⟨⟨hdb.groups, hdb.pinned, hdb.tombstones, .inl rfl, .inl rfl⟩, fun _ hd => by cases hd⟩

theorem rid_step (hdb : s.db.Rid o) (hdisk : ∀ db ∈ s.disk, db.Rid o) {a : ClientAction}
    (hin : s.BringsOther o J a) (hrestart : ∀ now, a ≠ .restart now) :
    (s.step J T a).db.Rid o ∧ ∀ db ∈ (s.step J T a).disk, db.Rid o := by
  have hwithin : (s.step J T a).Within s →
      (s.step J T a).db.Rid o ∧ ∀ db ∈ (s.step J T a).disk, db.Rid o := fun hw =>
    ⟨hdb.within hw.db, fun db hd => (hw.disk db hd).elim (hdisk db) hdb.within⟩
  cases a with
  | handle e now dht saved =>
    rw [step, handle]
    split
    · exact ⟨hdb, hdisk⟩
    · rename_i v hv
      have hdb' : (handlePayload J T me dht s.db v now).db.Rid o := by
        refine rid_handlePayload hdb (fun ids hbr => ?_) dht now
        have hv' := hin v hv
        rw [hbr] at hv'
        exact hv'
      constructor
      · rw [Client.db, Inbox.step, hv]
        exact hdb'
      · intro d hd
        cases saved with
        | true =>
          obtain rfl := Option.some.inj hd
          exact hdb'
        | false => exact hdisk d hd
  | localOp op saved => exact rid_localOp hdb hdisk hin
  | restart now => exact absurd rfl (hrestart now)
  | _ =>
    exact hwithin (within_step (fun _ _ _ _ h => by cases h) (fun _ _ h => by cases h) fun _ h => by cases h)

end Brings

end Client

/-! ## Messages on their way out -/

section Outgoing

variable {o} {J : PayloadJson} {T : PresenceText} {me : UserIdentity C}

@[simp] theorem messageId?_messagePayload (msg : SavedChatMessage) :
    (messagePayload msg).messageId? = some msg.id := rfl

@[simp] theorem messageId?_filePayload (msg : SavedChatMessage) (manifest : FileManifest) :
    (filePayload msg manifest).messageId? = some msg.id := rfl

theorem mem_messageIds {a : Attempt} {msg : SavedChatMessage} (h : a.job.message? = some msg) :
    msg.id ∈ a.messageIds := by
  unfold Attempt.messageIds
  cases hjob : a.job <;> rw [hjob] at h <;> cases h <;> exact List.mem_append_left _ List.mem_cons_self

/-- An attempt with no message of those. -/
def Attempt.IsOther (o : PrivateData) (a : Attempt) : Prop := ∀ id ∈ a.messageIds, id ∉ o.outgoing

/-- A task with no message of those. -/
def Todo.IsOther (o : PrivateData) (t : Todo) : Prop := ∀ id ∈ t.messageId?, id ∉ o.outgoing

/-- An attempt with one message, in its job and in its payload. -/
theorem Attempt.isOther_of_id {a : Attempt} {k : String} (hids : ∀ id ∈ a.messageIds, id = k) (hk : k ∉ o.outgoing) :
    a.IsOther o := by
  intro id hid
  rw [hids id hid]
  exact hk

/-- An attempt with a reaction, a call signal, a tombstone or a receipt. -/
theorem Attempt.isOther_of_none {r : String} {p : ChatMessagePayload} (hp : p.messageId? = none)
    (sealed : Outcome EncryptedEnvelope MessengerError) : Attempt.IsOther o ⟨.once, r, p, sealed⟩ := by
  intro id hid
  rw [messageIds, hp] at hid
  exact by cases hid

/-- The stored messages are others; where it is tracked, so are those on their way out. -/
def Client.OtherInv (o : PrivateData) (tracked : Prop) (s : Client me) : Prop :=
  s.All (·.IsOther o) (·.IsOther o) (fun q => tracked → q.message.id ∉ o.outgoing) (fun a => tracked → a.IsOther o)
    (fun t => tracked → t.IsOther o)

theorem isOther_came {v : Verified me} {db : MessengerDb} {k : String} {m : SavedChatMessage}
    (hdb : ∀ k m, db.message? k = some m → m.IsOther o) (h : Handled.Came J v db k m) : m.IsOther o := by
  cases h with
  | message hb => exact fun hin => by cases hin
  | same hm => exact hdb k m hm
  | @confirmed m₀ hm => exact hdb k m₀ hm
  | @reacted m₀ hm => exact hdb k m₀ hm
  | @edited m₀ hm => exact hdb k m₀ hm

namespace Client

variable {s : Client me} {tracked : Prop}

/-- A step that brings nothing in and stores none of the messages keeps to others. -/
theorem OtherInv.step (h : OtherInv o tracked s) {a : ClientAction} (hin : s.BringsOther o J a)
    (hends : ∀ m ∈ s.ends? a, m.IsOther o) (hrestart : ∀ now, a ≠ .restart now) :
    OtherInv o tracked (s.step J T a) := by
  have hSD : ∀ m : SavedChatMessage, m.IsOther o → m.IsOther o := fun _ hm => hm
  have hids : ∀ {k : String} {a : Attempt}, k ∉ o.outgoing → (∀ id ∈ a.messageIds, id = k) → tracked → a.IsOther o :=
    fun hk hid _ => Attempt.isOther_of_id hid hk
  cases a with
  | restart now => exact absurd rfl (hrestart now)
  | handle e now dht saved =>
    exact h.handle hSD saved (fun _ _ _ _ hcame => isOther_came h.stored hcame) fun _ _ _ _ _ hid => by cases hid
  | receive e now => exact h.receive e now
  | audioFrame packet => exact ⟨h.stored, h.saved, h.queue, h.attempts, h.todo⟩
  | localOp op saved => exact h.localOp hSD op saved fun _ hm => hm
  | sendMessage r text image now random x saved =>
    have hnew : newMessageId me now random ∉ o.outgoing := hin
    refine h.sendMessage hSD x saved (fun _ _ => hnew) fun msg hmsg _ _ _ => hids hnew fun id hid => ?_
    subst hmsg
    simpa [Attempt.messageIds, outgoing] using hid
  | sendFile r text manifest now random x =>
    have hnew : newMessageId me now random ∉ o.outgoing := hin
    refine (h.record _).deliver hSD x fun _ => hids hnew fun id hid => ?_
    simpa [Attempt.messageIds, outgoing] using hid
  | sendVoiceNote r note now random x saved =>
    have hnew : newMessageId me now random ∉ o.outgoing := hin
    refine h.sendVoiceNote hSD x saved (fun _ _ _ => hnew) fun _ msg hmsg _ _ => hids hnew fun id hid => ?_
    subst hmsg
    simpa [Attempt.messageIds, outgoing] using hid
  | reactToMessage r id emoji now x saved =>
    exact h.reactToMessage hSD x saved (fun _ hm => hm) fun _ _ => Attempt.isOther_of_none rfl _
  | editMessage r id text now x saved =>
    have hedit : id ∉ o.outgoing := hin
    refine h.editMessage hSD x saved (fun _ _ hm => hm) fun msg hmsg _ => hids hedit fun id' hid' => ?_
    simpa [Attempt.messageIds, hmsg] using hid'
  | sendGroupMessage groupId text members now random saved =>
    have hnew : newMessageId me now random ∉ o.outgoing := hin
    refine h.sendGroupMessage hSD saved (fun _ => hnew) fun _ _ _ _ _ _ msg hmsg _ id hid => ?_
    cases hid
    rw [hmsg]
    exact hnew
  | sendCallSignal r callId signalType text now random x =>
    exact h.deliver hSD x fun _ _ => Attempt.isOther_of_none rfl _
  | sendCallAudio r callId samples rate seq routing nonce ephSeed => exact h
  | deleteMessagesForEveryone r ids now x saved =>
    exact h.deleteMessagesForEveryone hSD x saved fun _ _ _ => Attempt.isOther_of_none rfl _
  | popPending now x =>
    refine h.popPending hSD x fun q hq _ _ ht id hid => ?_
    rw [show id = q.message.id by simpa [Attempt.messageIds] using hid]
    exact h.queue q hq ht
  | transmit i => exact h
  | finish i now saved =>
    refine h.finish now saved fun a ha hA s' hs' => ?_
    have hstored : ∀ msg, a.job.message? = some msg → msg.IsOther o := fun msg hmsg =>
      hends msg (by rw [ends?, ha]; exact hmsg)
    have hout : ∀ msg, a.job.message? = some msg → tracked → msg.id ∉ o.outgoing := fun msg hmsg ht =>
      hA ht msg.id (mem_messageIds hmsg)
    refine hs'.afterAttempt hSD now saved (fun msg _ hmsg _ => hstored msg hmsg) ?_ (fun msg _ hmsg _ ht id hid => ?_)
      (fun msg hjob => ⟨fun ht id hid => ?_, fun q hq _ ht => ?_⟩) fun item since hjob ht => ?_
    · -- a file or voice note that was accepted
      rintro msg _ (hjob | hjob) - <;> exact hstored msg (by rw [hjob]; rfl)
    · cases hid
      exact hout msg hmsg ht
    · cases hid
      exact hout msg (by rw [hjob]; rfl) ht
    · rw [hq]
      exact hout msg (by rw [hjob]; rfl) ht
    · rw [QueuedMessage.message_rescheduled]
      exact hA ht item.message.id (by rw [Attempt.messageIds, hjob]; exact List.mem_append_left _ List.mem_cons_self)
  | proceed j now x saved =>
    refine h.proceed_of x saved fun t ht hW s' hs' => hs'.perform hSD x saved ?_ ?_ ?_ ?_
    · rintro msg rfl
      exact hends msg (by rw [ends?, ht]; rfl)
    · rintro msg r rfl q rfl - htr
      exact hW htr q.message.id rfl
    · rintro member msg rfl _ htr id hid
      rw [show id = msg.id by simpa [Attempt.messageIds] using hid]
      exact hW htr msg.id rfl
    · rintro r id rfl _ _
      exact Attempt.isOther_of_none rfl _

end Client

end Outgoing

/-! ## The device -/

section Runs

variable {o} {B : Bip39} {J : PayloadJson} {T : PresenceText} {me : UserIdentity C}

theorem MessengerDb.free_iff {db : MessengerDb} :
    db.Free o ↔ db.Rid o ∧ ∀ k m, db.message? k = some m → m.IsOther o := by
  constructor
  · exact fun h => ⟨h.rid, fun k m hm => h.messages m (KeyedList.mem_of_get? hm)⟩
  · exact fun h => ⟨h.1, fun m hm => h.2 m.id m (KeyedList.mem_iff_get?.1 hm)⟩

namespace Client

variable {s : Client me}

/-- A free database and a step that brings nothing in and stores none of the messages leave a free file. -/
theorem free_step (hdb : s.db.Free o) (hdisk : ∀ db ∈ s.disk, db.Free o) {a : ClientAction}
    (hin : s.BringsOther o J a) (hends : ∀ m ∈ s.ends? a, m.IsOther o) (hrestart : ∀ now, a ≠ .restart now) :
    ∀ db ∈ (s.step J T a).disk, db.Free o := by
  have hothers : OtherInv o False s :=
    ⟨(MessengerDb.free_iff.1 hdb).2, fun db hd => (MessengerDb.free_iff.1 (hdisk db hd)).2, fun _ _ h => h.elim,
      fun _ _ h => h.elim, fun _ _ h => h.elim⟩
  have hrid := rid_step (T := T) hdb.rid (fun db hd => (hdisk db hd).rid) hin hrestart
  have hothers' := hothers.step (T := T) hin hends hrestart
  exact fun db hd => MessengerDb.free_iff.2 ⟨hrid.2 db hd, hothers'.saved db hd⟩

/-- A process with other keys that has nothing of it, in memory, on disk or on its way out. -/
structure Renewed (o : PrivateData) (s : Client me) : Prop where
  keys : OtherKeys o me
  rid : s.db.Rid o
  disk : ∀ db ∈ s.disk, db.Rid o
  others : OtherInv o True s

theorem Renewed.free (h : s.Renewed o) : ∀ db ∈ s.disk, db.Free o := fun db hd =>
  MessengerDb.free_iff.2 ⟨h.disk db hd, h.others.saved db hd⟩

theorem Renewed.ends (h : s.Renewed o) (a : ClientAction) : ∀ m ∈ s.ends? a, m.IsOther o := by
  intro m hm _
  unfold ends? at hm
  split at hm
  · obtain ⟨att, hatt, hmsg⟩ := Option.bind_eq_some_iff.1 hm
    exact h.others.attempts att (List.mem_of_getElem? hatt) trivial m.id (mem_messageIds hmsg)
  · obtain ⟨t, ht, hmsg⟩ := Option.bind_eq_some_iff.1 hm
    split at hmsg
    · cases hmsg
      exact h.others.todo _ (List.mem_of_getElem? ht) trivial m.id rfl
    · cases hmsg
  · cases hm

theorem Renewed.step (h : s.Renewed o) {a : ClientAction} (hin : s.BringsOther o J a)
    (hrestart : ∀ now, a ≠ .restart now) : (s.step J T a).Renewed o := by
  obtain ⟨hrid, hdisk⟩ := rid_step (T := T) h.rid h.disk hin hrestart
  exact ⟨h.keys, hrid, hdisk, h.others.step hin (h.ends a) hrestart⟩

/-- Saving a database that has nothing of it. -/
theorem Renewed.setDb (h : s.Renewed o) {db : MessengerDb} (hw : db.Within s.db) (hm : db.messages = s.db.messages)
    (saved : Bool) : (s.setDb db saved).Renewed o := by
  have hset := within_setDb hw saved
  have hmessages : ∀ k m, db.message? k = some m → m.IsOther o := by
    unfold MessengerDb.message?
    rw [hm]
    exact h.others.stored
  exact ⟨h.keys, h.rid.within hset.db, fun d hd => (hset.disk d hd).elim (h.disk d) h.rid.within,
    h.others.setDb (fun _ hm => hm) hmessages saved⟩

theorem Renewed.restoreMnemonic (h : s.Renewed o) {id : UserIdentity C} (hid : OtherKeys o id) {mnemonic : String}
    (hmn : trim mnemonic ≠ o.phrase) (displayName : Option String) (saved : Bool) :
    (s.restoreMnemonic id mnemonic displayName saved).Renewed o := by
  have hrid : (s.restoreMnemonic id mnemonic displayName saved).db.Rid o :=
    ⟨h.rid.groups, h.rid.pinned, h.rid.tombstones, .inr hid.1, .inr hmn⟩
  refine ⟨hid, hrid, fun d hd => ?_, ⟨h.others.stored, fun d hd => ?_, h.others.queue, h.others.attempts,
    h.others.todo⟩⟩
  · cases saved with
    | true =>
      obtain rfl := Option.some.inj hd
      exact hrid
    | false => exact h.disk d hd
  · cases saved with
    | true =>
      obtain rfl := Option.some.inj hd
      exact h.others.stored
    | false => exact h.others.saved d hd

end Client

namespace Device

variable {d : Device C} {a : DeviceAction}

/-- The file has nothing of it. -/
def DiskFree (o : PrivateData) (d : Device C) : Prop := ∀ db ∈ d.disk, db.Free o

/-- Nothing of it is left on the device. -/
def Renewed (o : PrivateData) : Device C → Prop
  | running _ s => s.Renewed o
  | stopped disk => ∀ db ∈ disk, db.Free o

theorem Renewed.diskFree : ∀ {d : Device C}, d.Renewed o → d.DiskFree o
  | running _ _, h => Client.Renewed.free h
  | stopped _, h => h

/-- What starts on a free file is renewed, if the keys it gets are others. -/
theorem renewed_launch {disk : Option MessengerDb} (hdisk : ∀ db ∈ disk, db.Free o) {displayName : String}
    {u : NewUser} (hin : ∀ p ∈ (startDb C B (disk.getD {}) displayName u).toOption,
      OtherKeys o p.1 ∧ (p.2.mnemonic = "" ∨ p.2.mnemonic ≠ o.phrase)) (now : Nat) (saved : Bool) :
    (launch B C disk displayName u now saved).Renewed o := by
  have hdb : (disk.getD {}).Free o := by
    cases disk with
    | none =>
      exact ⟨⟨fun p hp => (by cases hp), fun _ hid => absurd hid (Finset.notMem_empty _),
        fun _ ht => absurd ht (Finset.notMem_empty _), .inl rfl, .inl rfl⟩, fun m hm => by cases hm⟩
    | some db => exact hdisk db rfl
  unfold launch
  cases hstart : startDb C B (disk.getD {}) displayName u with
  | error e => exact hdisk
  | ok p =>
    obtain ⟨id, db'⟩ := p
    rw [hstart] at hin
    obtain ⟨hkeys, hphrase⟩ := hin (id, db') rfl
    obtain ⟨hseed, hmessages, hgroups, hpinned, htombstones⟩ := startDb_frame hstart
    have hfree : db'.Free o := by
      refine ⟨⟨?_, ?_, ?_, .inr (by rw [hseed]; exact hkeys.1), hphrase⟩, ?_⟩
      · rw [hgroups]
        exact hdb.rid.groups
      · rw [hpinned]
        exact hdb.rid.pinned
      · rw [htombstones]
        exact hdb.rid.tombstones
      · rw [hmessages]
        exact hdb.messages
    have hsaved : ∀ d ∈ (if saved then some db' else disk), d.Free o := by
      cases saved with
      | true =>
        intro d hd
        obtain rfl := Option.some.inj hd
        exact hfree
      | false => exact hdisk
    refine ⟨hkeys, hfree.rid, fun d hd => (hsaved d hd).rid, ⟨(MessengerDb.free_iff.1 hfree).2,
      fun d hd => (MessengerDb.free_iff.1 (hsaved d hd)).2, fun q hq _ => ?_, fun _ ha => (by cases ha),
      fun _ ht => by cases ht⟩⟩
    -- what is queued again is stored, and so another
    obtain ⟨m, hm, hpending, hqm, -⟩ := Client.mem_reload hq
    rw [Client.isPending] at hpending
    simp only [Bool.and_eq_true, Bool.not_eq_true'] at hpending
    rw [hqm]
    exact hfree.messages m hm hpending.1.1

/-- A renewed device stays so while nothing is brought in. -/
theorem Renewed.step (h : d.Renewed o) (hin : d.BringsOther o B J a) : (d.step B J T a).Renewed o := by
  cases d with
  | stopped disk =>
    cases a with
    | start displayName u now saved => exact renewed_launch h hin now saved
    | _ => exact h
  | running me s =>
    have hs : s.Renewed o := h
    cases a with
    | client a =>
      by_cases hrestart : ∃ now, a = .restart now
      · obtain ⟨now, rfl⟩ := hrestart
        exact hs
      · have ha : ∀ now, a ≠ .restart now := not_exists.1 hrestart
        rw [step_client B J T s ha]
        exact Client.Renewed.step hs hin ha
    | publishPresence | exportBackup => exact hs
    | updateProfile displayName bio saved =>
      have hw : ({ s.db with displayName, bio } : MessengerDb).Within s.db := ⟨rfl, subset_rfl, rfl, rfl, rfl⟩
      exact hs.setDb hw rfl saved
    | restoreMnemonic mnemonic displayName saved =>
      obtain ⟨hmn, hkeys⟩ := hin
      rw [Device.step]
      cases hid : UserIdentity.fromMnemonic C B (trim mnemonic) with
      | error e => exact hs
      | ok id => exact hs.restoreMnemonic (hkeys id (by rw [hid]; rfl)) hmn displayName saved
    | stop => exact hs.free
    | start displayName u now saved => exact renewed_launch hs.free hin now saved

/-- A start on a free file gives a renewed device. -/
theorem DiskFree.start (h : d.DiskFree o) (ha : a.isStart = true) (hin : d.BringsOther o B J a) :
    (d.step B J T a).Renewed o := by
  cases a with
  | start displayName u now saved =>
    cases d with
    | stopped disk => exact renewed_launch h hin now saved
    | running me s => exact renewed_launch h hin now saved
  | _ => cases ha

/-- What a start sends is the card of the identity it starts with. -/
theorem sends_start {displayName : String} {u : NewUser} {now : Nat} {saved : Bool} {m : Sent C}
    (hm : m ∈ d.sends B T (.start displayName u now saved)) :
    ∃ p, startDb C B (d.disk.getD {}) displayName u = .ok p ∧ m = { sender := p.1 } := by
  cases d with
  | stopped disk | running me s =>
    rw [Device.sends] at hm
    split at hm
    · cases hm
    · rename_i id db heq
      cases hm
      exact ⟨(id, db), heq, rfl⟩

/-- What is sent by such a step has nothing of it; a start sends the card of the new identity. -/
theorem SendsOther.free (h : d.SendsOther o T a) (hin : d.BringsOther o B J a) : ∀ m ∈ d.sends B T a, m.Free o := by
  have hcard : ∀ {displayName : String} {u : NewUser} {now : Nat} {saved : Bool},
      d.BringsOther o B J (.start displayName u now saved) →
      ∀ m ∈ d.sends B T (.start displayName u now saved), m.Free o := by
    intro displayName u now saved hother m hm
    obtain ⟨p, hp, rfl⟩ := sends_start hm
    have hkeys : OtherKeys o p.1 := by
      cases d with
      | stopped disk => exact (hother p (by rw [hp]; rfl)).1
      | running me s => exact (hother p (by rw [hp]; rfl)).1
    exact ⟨hkeys, fun _ hid => by cases hid⟩
  intro m hm
  cases d with
  | stopped disk =>
    cases a with
    | start displayName u now saved => exact hcard hin m hm
    | _ => cases hm
  | running me s =>
    cases a with
    | client a =>
      obtain ⟨r, hr, rfl⟩ := Option.map_eq_some_iff.1 hm
      obtain ⟨hkeys, hmessage⟩ := h (Option.isSome_of_eq_some hr)
      refine ⟨hkeys, fun id hid => ?_⟩
      dsimp only at hid
      split at hid
      · obtain ⟨att, hatt, hp⟩ := Option.bind_eq_some_iff.1 hid
        exact hmessage att hatt id hp
      · cases hid
    | publishPresence | updateProfile displayName bio saved =>
      cases hm
      exact ⟨h, fun _ hid => by cases hid⟩
    | restoreMnemonic mnemonic displayName saved =>
      obtain ⟨-, hkeys⟩ := hin
      rw [Device.sends] at hm
      cases hid : UserIdentity.fromMnemonic C B (trim mnemonic) with
      | error e =>
        rw [hid] at hm
        cases hm
      | ok id =>
        rw [hid] at hm
        cases hm
        exact ⟨hkeys id (by rw [hid]; rfl), fun _ hid => by cases hid⟩
    | exportBackup | stop => cases hm
    | start displayName u now saved => exact hcard hin m hm

theorem sendsOther_start (ha : a.isStart = true) : d.SendsOther o T a := by
  cases a with
  | start displayName u now saved => cases d <;> trivial
  | _ => cases ha

/-- A renewed device sends with other keys, and other messages. -/
theorem Renewed.sendsOther (h : d.Renewed o) : d.SendsOther o T a := by
  cases d with
  | stopped disk => cases a <;> trivial
  | running me s =>
    have hs : s.Renewed o := h
    cases a with
    | client a =>
      intro _
      refine ⟨hs.keys, ?_⟩
      split
      · intro att hatt id hid
        exact hs.others.attempts att (List.mem_of_getElem? hatt) trivial id
          (List.mem_append_right _ (Option.mem_toList.2 hid))
      · trivial
    | publishPresence | updateProfile displayName bio saved => exact hs.keys
    | _ => trivial

/-- A quiet step leaves the file free. -/
theorem DiskFree.step (h : d.DiskFree o) (hquiet : d.Quiet o B J T a) : (d.step B J T a).DiskFree o := by
  intro db hdb
  by_cases hold : db ∈ d.disk
  · exact h db hold
  have hstores := hquiet.saves db ((mem_files B J T).2 (.inl hdb)) hold
  have hin := hquiet.brings
  have hstart := hquiet.running
  cases d with
  | stopped disk =>
    cases a with
    | start displayName u now saved => cases hstart
    | _ => exact h db hdb
  | running me s =>
    cases a with
    | client a =>
      by_cases hrestart : ∃ now, a = .restart now
      · obtain ⟨now, rfl⟩ := hrestart
        exact h db hdb
      · have ha : ∀ now, a ≠ .restart now := not_exists.1 hrestart
        rw [step_client B J T s ha] at hdb
        exact Client.free_step (T := T) hstores.1 h hin hstores.2 ha db hdb
    | publishPresence | exportBackup => exact h db hdb
    | updateProfile displayName bio saved =>
      have hfree : s.db.Free o := hstores
      rcases Client.disk_setDb hdb with rfl | hdb
      · exact ⟨hfree.rid.within ⟨rfl, subset_rfl, rfl, rfl, rfl⟩, hfree.messages⟩
      · exact h db hdb
    | restoreMnemonic mnemonic displayName saved =>
      have hfree : s.db.Free o := hstores
      obtain ⟨hmn, hkeys⟩ := hin
      rw [Device.step] at hdb
      cases hid : UserIdentity.fromMnemonic C B (trim mnemonic) with
      | error e =>
        rw [hid] at hdb
        exact h db hdb
      | ok id =>
        rw [hid] at hdb
        have hother := hkeys id (by rw [hid]; rfl)
        cases saved with
        | true =>
          obtain rfl := Option.some.inj hdb
          exact ⟨⟨hfree.rid.groups, hfree.rid.pinned, hfree.rid.tombstones, .inr hother.1, .inr hmn⟩, hfree.messages⟩
        | false => exact h db hdb
    | stop => exact h db hdb
    | start displayName u now saved => cases hstart

/-- A quiet step writes nothing of it to any file. -/
theorem DiskFree.files (h : d.DiskFree o) (hquiet : d.Quiet o B J T a) : ∀ db ∈ d.files B J T a, db.Free o := by
  intro db hdb
  rcases (mem_files B J T).1 hdb with hdisk | ⟨me, s, rfl, rfl, rfl⟩
  · exact h.step hquiet db hdisk
  · by_cases hold : s.db ∈ (running me s).disk
    · exact h s.db hold
    · exact hquiet.saves s.db hdb hold

theorem Renewed.files (h : d.Renewed o) (h' : (d.step B J T a).Renewed o) : ∀ db ∈ d.files B J T a, db.Free o := by
  intro db hdb
  rcases (mem_files B J T).1 hdb with hdisk | ⟨me, s, rfl, rfl, rfl⟩
  · exact h'.diskFree db hdisk
  · have hs : s.Renewed o := h
    exact MessengerDb.free_iff.2 ⟨hs.rid, hs.others.stored⟩

end Device

end Runs

namespace Wiped

open NodeX.Sample Talk

def group : P2PGroup where
  groupId := "g1"
  title := "Lunch"
  description := ""
  creatorIdHex := alice.userIdHex
  members := ∅
  groupKeyHex := "00112233445566778899aabbccddeeff00112233445566778899aabbccddeeff"
  createdAt := 1700000000
  avatarColorIdx := 0

def before : Client alice where
  inbox :=
    { db := MessengerDb.addGroup
        { userSeed := alice.signingKey
          mnemonic := "letter advice cage absurd amount doctor acoustic avoid letter advice cage above"
          displayName := "Alice" } group }

def step : Device .transparent → DeviceAction → Device .transparent :=
  Device.step Restarted.bip39 (json []) presenceText

/-- The wipe has just been made. -/
def after : Device .transparent := .running alice (before.localOp .wipe true)

/-- The retry worker looks into the outbox, and the process ends. -/
def ending : List DeviceAction := [.client (.popPending 1700000010 (sealing 1700000010)), .stop]

/-- A new user starts, saves a contact and publishes a card. -/
def anew : List DeviceAction := [
  .start "Alice" Restarted.draw.user 1700000020 true, .client (.localOp (.addContact bobContact) true),
    .publishPresence]

/-- The process goes on instead: a contact is saved, and the heartbeat publishes the card. -/
def goingOn : List DeviceAction := [.client (.localOp (.addContact bobContact) true), .publishPresence]

end Wiped

end NodeX.Messenger
