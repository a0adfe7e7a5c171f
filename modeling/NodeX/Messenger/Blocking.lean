/-
A blocked user. `send_message` and the inbox ask for the block list; the other senders, the retry worker, the tasks
under way, the listener for voice frames and a start from the saved database do not.
-/
import NodeX.Messenger.Flow

namespace NodeX.Messenger

open NodeX.Lib

variable {C : Crypto} {J : PayloadJson} {T : PresenceText} {me : UserIdentity C}

/-! ## What keeps the block list -/

theorem blockedUserIds_editMessage (db : MessengerDb) (id text : String) (ts : Nat) :
    (db.editMessage id text ts).1.blockedUserIds = db.blockedUserIds := by
  unfold MessengerDb.editMessage
  split <;> rfl

theorem blockedUserIds_storeWithSelf (db : MessengerDb) (msg : SavedChatMessage) :
    (storeWithSelf me db msg).blockedUserIds = db.blockedUserIds := by
  unfold storeWithSelf
  dsimp only
  split <;> exact (db.frame_addMessage msg).2.2

theorem blockedUserIds_handlePayload (dht : Dht) (db : MessengerDb) (v : Verified me) (now : Nat) :
    (handlePayload J T me dht db v now).db.blockedUserIds = db.blockedUserIds := by
  unfold handlePayload
  cases hb : branch J me v.envelope (v.payload J) with
  | tombstone ids => exact (db.frame_deleteMessagesByAuthor ids v.senderHex).2
  | _ => exact (frame_handleBranch J T dht db v now _ (by rintro _ ⟨⟩)).2.2

theorem blockedUserIds_deliverTombstone (dht : Dht) (db : MessengerDb) (r : String) (deletedIds : List String)
    (now : UInt64) (ephSeed nonce : Bytes) (ts : UInt64) :
    (deliverTombstone T J me dht db r deletedIds now ephSeed nonce ts).db.blockedUserIds = db.blockedUserIds := by
  unfold deliverTombstone
  split
  · rfl
  · rfl
  · split
    · rfl
    · rfl
    · rename_i hk
      obtain ⟨contacts, rfl⟩ := db_retractionKey hk
      split <;> rfl

variable (J T me) in
theorem blockedUserIds_deleteMessagesForEveryone (dht : Dht) (db : MessengerDb) (r : String) (ids : List String)
    (now : UInt64) (ephSeed nonce : Bytes) (ts : UInt64) :
    (deleteMessagesForEveryone T J me dht db r ids now ephSeed nonce ts).db.blockedUserIds = db.blockedUserIds := by
  have hdel := (db.frame_deleteMessagesByAuthor ids me.userIdHex).2
  unfold deleteMessagesForEveryone
  split
  · rfl
  · split
    rename_i db' deletedIds heq
    rw [heq] at hdel
    split
    · exact hdel
    · exact (blockedUserIds_deliverTombstone ..).trans hdel

/-- No operation but unblocking the user, or a wipe, takes a user off the list. -/
theorem isBlocked_apply {op : LocalOp} {db : MessengerDb} {user : String} (hwipe : op ≠ .wipe)
    (hunblock : op ≠ .unblockUser user) (h : db.isBlocked user = true) : (op.apply db).isBlocked user = true := by
  -- most operations do not touch the list
  have hsame : ∀ db' : MessengerDb, db'.blockedUserIds = db.blockedUserIds → db'.isBlocked user = true := by
    intro db' heq
    rw [← h, MessengerDb.isBlocked, MessengerDb.isBlocked, heq]
  cases op with
  | addMessage msg => exact hsame _ (db.frame_addMessage msg).2.2
  | editMessage id text ts => exact hsame _ (blockedUserIds_editMessage db id text ts)
  | addReaction id emoji reactor => exact h
  | togglePinMessage id =>
    refine hsame _ ?_
    rw [LocalOp.apply, MessengerDb.togglePinMessage]
    split <;> rfl
  | cleanupExpiredMessages now => exact h
  | deleteMessage id => exact h
  | deleteMessages ids => exact h
  | deleteMessagesByAuthor ids author => exact hsame _ (db.frame_deleteMessagesByAuthor ids author).2
  | clearMessagesForContact contact => exact h
  | deleteContact contact => exact h
  | blockUser other => exact decide_eq_true (Finset.mem_insert_of_mem (of_decide_eq_true h))
  | unblockUser other =>
    have hne : user ≠ other := fun heq => hunblock (heq ▸ rfl)
    exact decide_eq_true (Finset.mem_erase_of_ne_of_mem hne (of_decide_eq_true h))
  | addContact contact => exact h
  | addGroup group => exact h
  | wipe => exact absurd rfl hwipe

def ClientAction.atGate : ClientAction → Bool
  | .receive .. | .handle .. | .localOp .. | .restart _ => true
  | _ => false

namespace Client

/-- The block list and the envelopes admitted. -/
def gate (s : Client me) : Finset String × List (Verified me) := (s.db.blockedUserIds, s.inbox.admitted)

section Gate

variable {s : Client me}

theorem gate_setDb {db : MessengerDb} (h : db.blockedUserIds = s.db.blockedUserIds) (saved : Bool) :
    (s.setDb db saved).gate = s.gate := congrArg (·, s.inbox.admitted) h

theorem gate_addMessage (msg : SavedChatMessage) (saved : Bool) :
    (s.setDb (s.db.addMessage msg) saved).gate = s.gate := gate_setDb (s.db.frame_addMessage msg).2.2 saved

theorem gate_deliver (job : Job) (r : String) (p : ChatMessagePayload) (x : Sealing) :
    (s.deliver J T job r p x).gate = s.gate := by
  rcases s.resolve_cases T r x with heq | ⟨contacts, heq⟩ <;> rw [Client.deliver, heq] <;> rfl

theorem gate_afterAttempt (a : Attempt) (now : Nat) (saved : Bool) : (s.afterAttempt a now saved).gate = s.gate := by
  unfold afterAttempt
  split
  case h_5 | h_6 | h_7 | h_8 | h_9 => exact gate_addMessage _ saved
  all_goals rfl

theorem gate_finish (i now : Nat) (saved : Bool) : (s.finish i now saved).gate = s.gate := by
  unfold Client.finish
  split
  · rfl
  · rw [gate_afterAttempt]
    rfl

theorem gate_sendDeliveryReceipt (r id : String) (now : Nat) (x : Sealing) :
    (s.sendDeliveryReceipt J r id now x).gate = s.gate := by
  unfold sendDeliveryReceipt
  split
  · split <;> rfl
  · rfl

theorem gate_perform (t : Todo) (now : Nat) (x : Sealing) (saved : Bool) :
    (s.perform J T t now x saved).gate = s.gate := by
  cases t with
  | store msg => exact gate_addMessage msg saved
  | push msg r => rfl
  | deliver member msg => rw [perform, gate_deliver]
  | receipt r id => rw [perform, gate_sendDeliveryReceipt]

/-- Only the inbox, the user's operations on the database and a start change them. -/
theorem gate_step {a : ClientAction} (ha : a.atGate = false) : (s.step J T a).gate = s.gate := by
  cases a with
  | receive e now => cases ha
  | handle e now dht saved => cases ha
  | localOp op saved => cases ha
  | restart now => cases ha
  | audioFrame packet => rfl
  | sendMessage r text image now random x saved =>
    rw [step, sendMessage]
    split
    · rfl
    · dsimp only
      split
      · exact gate_setDb (blockedUserIds_storeWithSelf s.db _) saved
      · rw [gate_deliver]
        rfl
  | sendFile r text manifest now random x =>
    rw [step, sendFile, gate_deliver]
    rfl
  | sendVoiceNote r note now random x saved =>
    rw [step, sendVoiceNote]
    dsimp only
    split
    · exact gate_setDb (blockedUserIds_storeWithSelf s.db _) saved
    · rw [gate_deliver]
      rfl
  | reactToMessage r id emoji now x saved =>
    rw [step, reactToMessage, gate_deliver]
    rfl
  | editMessage r id text now x saved =>
    rw [step, editMessage, gate_deliver]
    exact gate_setDb (blockedUserIds_editMessage s.db id text now) saved
  | sendGroupMessage groupId text members now random saved =>
    rw [step, sendGroupMessage]
    split
    · rfl
    · split
      · exact gate_addMessage _ saved
      · rfl
  | sendCallSignal r callId signalType text now random x => exact gate_deliver ..
  | sendCallAudio r callId samples rate seq routing nonce ephSeed => rfl
  | deleteMessagesForEveryone r ids now x saved =>
    have hdb := gate_setDb (blockedUserIds_deleteMessagesForEveryone J T me x.dht s.db r ids now
      x.ephSeed x.nonce x.timestamp) saved
    rw [step, deleteMessagesForEveryone]
    split <;> exact hdb
  | popPending now x =>
    rw [step, popPending]
    split
    · rfl
    · rw [gate_deliver]
      rfl
  | transmit i => rfl
  | finish i now saved => exact gate_finish i now saved
  | proceed j now x saved =>
    rw [step, proceed]
    split
    · rfl
    · rw [gate_perform]
      rfl

end Gate

end Client

/-! ## A blocked user -/

/-- The string is the user's id, as `from_hex` reads it. -/
def Names (r : String) (user : NodeId) : Prop := NodeId.fromHex r = .ok user

instance (r : String) (user : NodeId) : Decidable (Names r user) := inferInstanceAs (Decidable (_ = _))

/-- The attempt is with another user, and so is the item it may put back. -/
def Attempt.Spares (user : NodeId) (a : Attempt) : Prop :=
  ¬ Names a.recipientIdHex user ∧ ∀ item since, a.job = .retry item since → ¬ Names item.recipientId user

/-- The task sends and queues nothing for the user. -/
def Todo.Spares (user : NodeId) : Todo → Prop
  | .store _ => True
  | .push _ r | .deliver r _ | .receipt r _ => ¬ Names r user

namespace Client

/-- Nothing is under way with the user: no envelope of the user's is admitted, and nothing in the outbox, the
attempts and the tasks is for the user. -/
structure AtRest (user : NodeId) (s : Client me) : Prop where
  admitted : ∀ v ∈ s.inbox.admitted, v.envelope.senderId ≠ user
  queue : ∀ q ∈ s.queue, q.status = .sending → ¬ Names q.recipientId user
  attempts : ∀ a ∈ s.attempts, a.Spares user
  todo : ∀ t ∈ s.todo, t.Spares user

/-- `block_contact`, for the id as it is printed. -/
def blockContact (user : NodeId) (saved : Bool) : ClientAction := .localOp (.blockUser user.toHex) saved

def IsUnblock (user : NodeId) : ClientAction → Prop
  | .localOp (.unblockUser r) _ => Names r user
  | _ => False

/-- The step takes none of the ways past the block list: the senders that do not ask for it are not called for the
user, `send_message` only with the id as it is printed, no group with the user is written to, no voice frame of
the user opens, the data is not wiped, and a start reads a file that has the user blocked and no message waiting
for the user's receipt. -/
def Heeds (J : PayloadJson) (user : NodeId) (s : Client me) : ClientAction → Prop
  | .localOp op _ => op ≠ .wipe
  | .sendMessage r .. => Names r user → r = user.toHex
  | .sendVoiceNote r .. => isSelf me r = false → ¬ Names r user
  | .sendFile r .. | .reactToMessage r .. | .editMessage r .. | .sendCallSignal r .. | .sendCallAudio r ..
  | .deleteMessagesForEveryone r .. => ¬ Names r user
  | .sendGroupMessage groupId .. =>
    ∀ g ∈ s.db.groups.lookup groupId, ∀ member ∈ g.members.keys, member ≠ me.userIdHex → ¬ Names member user
  | .audioFrame packet => ∀ p ∈ audioPacket J packet, p.senderId = user → openAudio me s.db.contacts p = none
  | .restart _ => ∀ db ∈ s.disk, db.isBlocked user.toHex = true ∧
    ∀ m ∈ db.messages.list, isPending me m = true → ¬ Names m.recipientIdHex user
  | _ => True

/-- The step brings an envelope or a voice frame of the user's. -/
def IsFrom (J : PayloadJson) (user : NodeId) : ClientAction → Prop
  | .receive e _ | .handle e .. => e.senderId = user
  | .audioFrame packet => ∃ p, audioPacket J packet = some p ∧ p.senderId = user
  | _ => False

/-- The voice frame a step reports. -/
def frame? (J : PayloadJson) (s : Client me) : ClientAction → Option CallAudioFrame
  | .audioFrame packet => (receiveAudio J me s.db.contacts s.audio packet).2
  | _ => none

/-- The step sends the user nothing, and what the user sent changes and reports nothing. -/
structure Severed (J : PayloadJson) (T : PresenceText) (user : NodeId) (s : Client me) (a : ClientAction) : Prop where
  sent : ∀ r, s.sendsTo T a = some r → ¬ Names r user
  received : IsFrom J user a → (s.step J T a).db = s.db ∧ s.events J T a = [] ∧ s.frame? J a = none

/-- The user is blocked, and nothing is under way. -/
structure Shut (user : NodeId) (s : Client me) : Prop where
  blocked : s.db.isBlocked user.toHex = true
  rest : s.AtRest user

section Shut

variable {s : Client me} {user : NodeId}

theorem AtRest.all (h : s.AtRest user) : s.All (fun _ => True) (fun _ => True)
    (fun q => q.status = .sending → ¬ Names q.recipientId user) (Attempt.Spares user) (Todo.Spares user) :=
  ⟨fun _ _ _ => trivial, fun _ _ _ _ _ => trivial, h.queue, h.attempts, h.todo⟩

theorem Shut.of_all {s' : Client me} (hblocked : s'.db.isBlocked user.toHex = true)
    (hadmitted : ∀ v ∈ s'.inbox.admitted, v.envelope.senderId ≠ user)
    (h : s'.All (fun _ => True) (fun _ => True) (fun q => q.status = .sending → ¬ Names q.recipientId user)
      (Attempt.Spares user) (Todo.Spares user)) : Shut user s' :=
  ⟨hblocked, hadmitted, h.queue, h.attempts, h.todo⟩

/-- A step that leaves the gate as it was. -/
theorem Shut.of_gate {s' : Client me} (hs : Shut user s) (hgate : s'.gate = s.gate)
    (h : s'.All (fun _ => True) (fun _ => True) (fun q => q.status = .sending → ¬ Names q.recipientId user)
      (Attempt.Spares user) (Todo.Spares user)) : Shut user s' := by
  obtain ⟨hblocked, hadmitted⟩ := Prod.mk.inj hgate
  refine .of_all ?_ ?_ h
  · rw [← hs.blocked, MessengerDb.isBlocked, MessengerDb.isBlocked, hblocked]
  · rw [hadmitted]
    exact hs.rest.admitted

theorem Spares.once {r : String} (h : ¬ Names r user) (payload : ChatMessagePayload)
    (sealed : Outcome EncryptedEnvelope MessengerError) : Attempt.Spares user ⟨.once, r, payload, sealed⟩ :=
  ⟨h, fun _ _ hjob => by cases hjob⟩

/-- An envelope of a blocked user is not admitted. -/
theorem Shut.receive (h : Shut user s) (e : EncryptedEnvelope) (now : Nat) :
    Shut user (s.step J T (.receive e now)) := by
  refine .of_all ?_ ?_ (h.rest.all.receive e now)
  · rw [Client.db, Client.step, Inbox.db_step_receive]
    exact h.blocked
  · intro v hv
    rw [Client.step, Inbox.step] at hv
    dsimp only at hv
    split at hv
    · exact h.rest.admitted v hv
    · rename_i v' hreceive
      rcases List.mem_append.1 hv with hv | hv
      · exact h.rest.admitted v hv
      · obtain rfl := List.mem_singleton.1 hv
        obtain ⟨henv, hblocked⟩ := receive_eq_some hreceive
        rintro rfl
        rw [← henv] at hblocked
        cases h.blocked.symm.trans hblocked

/-- What others sent leaves the user blocked; their acknowledgements go to them. -/
theorem Shut.handle (h : Shut user s) (e : EncryptedEnvelope) (now : Nat) (dht : Dht) (saved : Bool) :
    Shut user (s.handle J T e now dht saved) := by
  have hrest : (s.handle J T e now dht saved).All _ _ _ _ _ := h.rest.all.handle (fun _ _ => trivial) saved
    (fun _ _ _ _ _ => trivial) fun v hv id hread => ?_
  · cases hv : s.inbox.admitted.find? (·.envelope = e) with
    | none =>
      rw [Client.handle, hv]
      exact h
    | some v =>
      rw [Client.handle, hv] at hrest ⊢
      refine .of_all ?_ ?_ hrest
      · have hdb : (s.inbox.step J T (.handle e now dht)).db = (handlePayload J T me dht s.db v now).db := by
          rw [Inbox.step, hv]
          rfl
        have hsame := blockedUserIds_handlePayload (J := J) (T := T) dht s.db v now
        dsimp only [Client.db] at hsame ⊢
        rw [hdb, MessengerDb.isBlocked, Client.db, hsame]
        exact h.blocked
      · intro v' hv'
        rw [Inbox.step, hv] at hv'
        exact h.rest.admitted v' (List.mem_of_mem_eraseP hv')
  · -- the acknowledgement goes to the sender, who is not the user
    rw [Verified.senderHex, Names, NodeId.fromHex_toHex] at hread
    exact h.rest.admitted v hv (Outcome.ok.inj hread)

/-- A step that goes none of the ways past the list keeps the user shut out. -/
theorem Shut.step {a : ClientAction} (h : Shut user s) (hscope : ¬ IsUnblock user a) (hok : s.Heeds J user a) :
    Shut user (s.step J T a) := by
  have hSD : ∀ _ : SavedChatMessage, True → True := fun _ _ => trivial
  have hall := h.rest.all
  cases a with
  | receive e now => exact h.receive e now
  | handle e now dht saved => exact h.handle e now dht saved
  | localOp op saved =>
    refine .of_all ?_ ?_ (hall.localOp hSD op saved fun _ _ => trivial)
    · rcases localOp_cases s op saved with heq | ⟨-, heq⟩ | ⟨hwipe, -⟩
      · rw [Client.step, heq]
        exact h.blocked
      · -- no operation within the run unblocks the user
        rw [Client.step, heq]
        refine isBlocked_apply hok (fun hun => hscope ?_) h.blocked
        rw [hun]
        exact NodeId.fromHex_toHex user
      · exact absurd hwipe hok
    · rcases localOp_cases s op saved with heq | ⟨-, heq⟩ | ⟨-, heq⟩ <;> rw [Client.step, heq] <;>
        exact h.rest.admitted
  | audioFrame packet => exact .of_gate h rfl ⟨hall.stored, hall.saved, hall.queue, hall.attempts, hall.todo⟩
  | sendMessage r text image now random x saved =>
    -- the one sender that asks for the block list, by the string it is given
    refine .of_gate h (gate_step rfl)
      (hall.sendMessage hSD x saved (fun _ => trivial) fun _ _ hfree _ _ =>
        ⟨fun hr => ?_, fun _ _ hjob => by cases hjob⟩)
    rw [hok hr] at hfree
    cases h.blocked.symm.trans hfree
  | sendFile r text manifest now random x =>
    exact .of_gate h (gate_step rfl)
      ((hall.record _).deliver hSD x fun _ => ⟨hok, fun _ _ hjob => by cases hjob⟩)
  | sendVoiceNote r note now random x saved =>
    exact .of_gate h (gate_step rfl)
      (hall.sendVoiceNote hSD x saved (fun _ _ => trivial) fun _ _ _ hother _ =>
        ⟨hok hother, fun _ _ hjob => by cases hjob⟩)
  | reactToMessage r id emoji now x saved =>
    exact .of_gate h (gate_step rfl)
      (hall.reactToMessage hSD x saved (fun _ _ => trivial) (Spares.once hok _))
  | editMessage r id text now x saved =>
    exact .of_gate h (gate_step rfl)
      (hall.editMessage hSD x saved (fun _ _ _ => trivial) fun _ _ => Spares.once hok _)
  | sendGroupMessage groupId text members now random saved =>
    refine .of_gate h (gate_step rfl)
      (hall.sendGroupMessage hSD saved trivial fun g hg hmembers member hmem hne _ _ => ?_)
    refine hok g hg member ?_ hne
    rw [← hmembers]
    exact List.mem_toFinset.2 hmem
  | sendCallSignal r callId signalType text now random x =>
    exact .of_gate h (gate_step rfl)
      (hall.deliver hSD x (Spares.once hok _))
  | sendCallAudio r callId samples rate seq routing nonce ephSeed => exact h
  | deleteMessagesForEveryone r ids now x saved =>
    exact .of_gate h (gate_step rfl)
      (hall.deleteMessagesForEveryone hSD x saved fun _ => Spares.once hok _)
  | popPending now x =>
    refine .of_gate h (gate_step rfl)
      (hall.popPending hSD x fun q hq hstatus _ => ⟨h.rest.queue q hq hstatus, fun item since hjob => ?_⟩)
    cases hjob
    exact h.rest.queue q hq hstatus
  | transmit i => exact h
  | finish i now saved =>
    -- what failed is queued for the attempt's recipient, what was popped for its own
    refine .of_gate h (gate_finish i now saved) (hall.finish now saved fun a _ hspare s' hs' =>
      hs'.afterAttempt hSD now saved (fun _ _ _ _ => trivial) (fun _ _ _ _ => trivial) (fun _ _ _ _ => hspare.1)
        (fun _ _ => ⟨trivial, fun q _ hr _ => ?_⟩) fun item since hjob _ => ?_)
    · rw [hr]
      exact hspare.1
    · rw [QueuedMessage.recipientId_rescheduled]
      exact hspare.2 item since hjob
  | proceed j now x saved =>
    refine .of_gate h (gate_step rfl)
      (hall.proceed hSD x saved (fun _ _ => trivial) (fun msg r hw q _ hr _ => ?_) (fun _ _ hw => Spares.once hw _)
        fun _ _ hw => Spares.once hw _)
    rw [hr]
    exact hw
  | restart now =>
    -- the block list and the messages to send again are those of the file
    have hreload := hall.restart now (fun _ _ _ _ _ => trivial) fun db hdb m hm hpending q _ hr _ => ?_
    · rw [Client.step]
      unfold Client.restart at hreload ⊢
      split at hreload
      · exact h
      · rename_i db hdb
        exact .of_all (hok db hdb).1 (fun v hv => by cases hv) hreload
    · rw [hr]
      exact (hok db hdb).2 m hm hpending

/-- What does not reach a user who is shut out, and what does not come through. -/
theorem Shut.severed {a : ClientAction} (h : Shut user s) (hok : s.Heeds J user a) : s.Severed J T user a := by
  have hnone : ∀ e : EncryptedEnvelope, e.senderId = user → s.inbox.admitted.find? (·.envelope = e) = none := by
    intro e he
    refine List.find?_eq_none.2 fun v hv heq => ?_
    rw [← of_decide_eq_true heq] at he
    exact h.rest.admitted v hv he
  constructor
  · intro r hr
    cases a with
    | transmit i =>
      unfold sendsTo at hr
      dsimp only at hr
      split at hr
      · rename_i a ha
        split at hr
        · obtain rfl := Option.some.inj hr
          exact (h.rest.attempts a (List.mem_of_getElem? ha)).1
        · cases hr
      · cases hr
    | sendCallAudio r' callId samples rate seq routing nonce ephSeed =>
      unfold sendsTo at hr
      dsimp only at hr
      split at hr
      · obtain rfl := Option.some.inj hr
        exact hok
      · cases hr
    | _ => cases hr
  · intro hfrom
    cases a with
    | receive e now =>
      refine ⟨?_, rfl, rfl⟩
      rw [Client.db, Client.step, Inbox.db_step_receive]
      rfl
    | handle e now dht saved =>
      refine ⟨?_, ?_, rfl⟩
      · rw [Client.step, Client.handle, hnone e hfrom]
      · rw [Client.events, hnone e hfrom]
    | audioFrame packet =>
      obtain ⟨p, hp, hsender⟩ := hfrom
      refine ⟨rfl, rfl, ?_⟩
      rw [frame?, receiveAudio, hp]
      dsimp only
      rw [hok p hp hsender]
    | _ => exact hfrom.elim

end Shut

variable (J T)

/-- From any state in which nothing is under way with the user: once blocked, and until unblocked, the user is sent
nothing and nothing of the user's comes through, in every run that takes none of the ways past the block list. -/
theorem run_blockingComplete (s : Client me) (user : NodeId) (saved : Bool) (as : List ClientAction)
    (hs : s.AtRest user)
    (has : Steps (step J T) (fun s a => ¬ IsUnblock user a ∧ s.Heeds J user a)
      (s.step J T (blockContact user saved)) as) :
    Steps (step J T) (Severed J T user) (s.step J T (blockContact user saved)) as := by
  have hblock : Shut user (s.step J T (blockContact user saved)) :=
    ⟨decide_eq_true (Finset.mem_insert_self _ _), hs.admitted, hs.queue, hs.attempts, hs.todo⟩
  exact steps_of_invariant (I := Shut user) (fun s a h ha => h.step ha.1 ha.2) (fun s a h ha => h.severed ha.2)
    hblock has

end Client

/-! ## Alice blocks Bob -/

namespace Blocked

open NodeX.Sample Talk

/-- Alice knows Bob, and has sent nothing. -/
def start : Client alice := after (json []) []

def fromBob : EncryptedEnvelope :=
  encryptEnvelope .transparent bob alice.userId alice.x25519Public (print { id := "b1", text := "Hello Alice" })
    (List.replicate 32 2) (List.replicate 12 2) 1700000005

/-- A message to Bob, and one from Bob. -/
def quiet : List ClientAction := [
  .sendMessage bob.userIdHex "Hello Bob" none 1700000000 7 (sealing 1700000000) true, .transmit 0,
  .receive fromBob 1700000006, .handle fromBob 1700000006 (fun _ => .ok none) true]

def note : VoiceNote :=
  { durationSecs := 3, waveform := [], mimeType := "audio/opus", audioBase64 := "AAAA", fileSize := 3 }

/-- A voice note to Bob. -/
def voiceNote : List ClientAction := [
  .sendVoiceNote bob.userIdHex note 1700000000 7 (sealing 1700000000) true, .transmit 0]

end Blocked

open Blocked Talk NodeX.Sample in
theorem Client.run_blockingComplete_quiet :
    Steps (Client.step (json []) presenceText) (Client.Severed (json []) presenceText bob.userId)
      (start.step (json []) presenceText (Client.blockContact bob.userId true)) (quiet ++ [.restart 1700000010]) := by
  have hrestart : ∀ db ∈ (run (Client.step (json []) presenceText)
      (start.step (json []) presenceText (Client.blockContact bob.userId true)) quiet).disk,
      db.isBlocked bob.userId.toHex = true ∧ db.messages.list = [] := by decide +kernel
  refine Client.run_blockingComplete (json []) presenceText start bob.userId true _
    ⟨fun _ hv => (by cases hv), fun _ hq => (by cases hq), fun _ ha => (by cases ha), fun _ ht => by cases ht⟩
    ((steps_concat ..).2 ⟨⟨⟨id, fun _ => rfl⟩, ⟨id, trivial⟩, ⟨id, trivial⟩, ⟨id, trivial⟩, trivial⟩, id,
      fun db hdb => ?_⟩)
  obtain ⟨hblocked, hmessages⟩ := hrestart db hdb
  refine ⟨hblocked, fun m hm => ?_⟩
  rw [hmessages] at hm
  cases hm

open Blocked Talk NodeX.Sample in
/-- Alice has blocked Bob, and her voice note goes out to him. -/
theorem Client.run_blockingComplete_voiceNote :
    Steps (Client.step (json []) presenceText) (fun _ a => ¬ Client.IsUnblock bob.userId a)
        (start.step (json []) presenceText (Client.blockContact bob.userId true)) voiceNote ∧
      ¬ Steps (Client.step (json []) presenceText) (Client.Severed (json []) presenceText bob.userId)
        (start.step (json []) presenceText (Client.blockContact bob.userId true)) voiceNote := by
  have hsent : (((start.step (json []) presenceText (Client.blockContact bob.userId true)).step (json []) presenceText
      (.sendVoiceNote bob.userIdHex note 1700000000 7 (sealing 1700000000) true)).sendsTo presenceText (.transmit 0)) =
        some bob.userIdHex := by decide +kernel
  refine ⟨⟨id, id, trivial⟩, fun h => ?_⟩
  rw [voiceNote, steps_cons, steps_cons] at h
  exact h.2.1.sent _ hsent (NodeId.fromHex_toHex bob.userId)

end NodeX.Messenger
