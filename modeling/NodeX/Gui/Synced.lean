/-
Runs of the desktop client: under what conditions on its steps the shown messages and those of the database are the same
whenever the tasks have run and the events have been read.
-/
import NodeX.Gui.Mirror

namespace NodeX.Gui

open NodeX.Lib Messenger

/-! ## The changes under way -/

section Ops

variable {C : Crypto} (J : PayloadJson) (me : UserIdentity C)

/-- What a call does to the content; of a message that is sent nothing is said. -/
def MessengerCall.op? : MessengerCall → Option ContentOp
  | sendMessage .. | sendVoiceNote .. => none
  | reactToMessage messageId emoji => some (.change messageId (.react emoji me.userIdHex))
  | editMessage messageId newText => some (.change messageId (.edit newText))
  | deleteMessage messageId => some (.remove (.ids [messageId]))
  | deleteMessagesForEveryone messageIds => some (.remove (.authored messageIds me.userIdHex))
  | clearChat contactIdHex => some (.remove (.chat contactIdHex))
  | addMessage msg => some (.add msg)

/-- What an event stands for. -/
def eventOp? : MessengerEvent → Option ContentOp
  | .messageReceived m => some (.add m)
  | .messageDelivered messageId _ => some (.change messageId .delivered)
  | .messageEdited messageId newText => some (.change messageId (.edit newText))
  | .reactionAdded messageId emoji reactorId => some (.change messageId (.react emoji reactorId))
  | .messageDeleted _ messageIds => some (.remove (.ids messageIds))
  | .contactsUpdated _ | .callSignalReceived _ | .callAudioReceived .. => none

/-- What an envelope is about to do, if its branch goes through with it. -/
def branchOp? (v : Verified me) : Branch → Option ContentOp
  | .deliveryReceipt receipt => some (.change receipt.messageId .delivered)
  | .tombstone deletedIds => some (.remove (.ids deletedIds))
  | .reaction react => some (.change react.messageId (.react react.emoji v.senderHex))
  | .edit => some (.change (v.payload J).id (.edit (v.payload J).text))
  | .newMessage => some (.add (chatMessage me v.envelope (v.payload J)))
  | .readReceipt | .callSignal _ | .callAudio _ => none

/-- The change of the content, if there is one. -/
def actOf (op? : Option ContentOp) (c : Content) : Content := op?.elim c fun op => op.act me.userIdHex c

def Apart (op op' : Option ContentOp) : Prop := ∀ o ∈ op, ∀ o' ∈ op', o.Independent o'

theorem Apart.symm {a b : Option ContentOp} (h : Apart a b) : Apart b a := fun o ho o' ho' =>
  ContentOp.independent_symm (h o' ho' o ho)

theorem Apart.commute {a b : Option ContentOp} (h : Apart a b) : Function.Commute (actOf me a) (actOf me b) := by
  cases a with
  | none => exact fun _ => rfl
  | some o =>
    cases b with
    | none => exact fun _ => rfl
    | some o' => exact ContentOp.commute_of_independent (h o rfl o' rfl)

end Ops

namespace Desktop

section Model

variable {C : Crypto} (J : PayloadJson) (T : PresenceText) {me : UserIdentity C}

/-- The message that is found in the list. -/
def shown? (s : Desktop) (id : String) : Option SavedChatMessage := lookupKey SavedChatMessage.id id s.view

variable (me)

def viewContent (s : Desktop) : Content := contentOf me.userIdHex s.shown?

def dbContent (s : Desktop) : Content := contentOf me.userIdHex s.db.message?

/-- Every conversation shows what the database has of it, and what is looked for is found in both or in neither. -/
structure Mirrors (s : Desktop) : Prop where
  shown : ∀ targetId,
    ((s.view.filter (isShownIn me.userIdHex targetId)).map fun m => (m.id, entryOf m)).Perm
      ((s.db.messages.list.filter (isShownIn me.userIdHex targetId)).map fun m => (m.id, entryOf m))
  found : s.viewContent me = s.dbContent me

/-- The tasks have run, and the events have been read. -/
def Quiet (s : Desktop) : Prop := s.tasks = [] ∧ s.events = []

/-- The calls under way are independent of the change. -/
def ApartFromTasks (s : Desktop) (op? : Option ContentOp) : Prop := ∀ call ∈ s.tasks, Apart op? (call.op? me)

def ApartFromAll (s : Desktop) (op? : Option ContentOp) : Prop :=
  s.ApartFromTasks me op? ∧ ∀ event ∈ s.events, Apart op? (eventOp? event)

/-- A message with others is changed only where the messenger is told. -/
def Forwarded (s : Desktop) (chat : Chat) (msgId : String) : Prop :=
  chat.forwards = false → ∀ m, s.shown? msgId = some m → isNote me.userIdHex m = true

variable {me}

/-- What the steps of a run have to meet. -/
def Fits (s : Desktop) : DesktopStep me → Prop
  | .user chat (.sendMessage _ random _) =>
    ∀ targetId ∈ chat.activeTargetId, targetId = "self_saved_messages" ∧ s.shown? ("msg_" ++ random) = none
  | .user chat (.reactMessage msgId emoji) =>
    s.Forwarded me chat msgId ∧
      (chat.forwards = true →
        s.ApartFromAll me (some (.change msgId (.react emoji me.userIdHex))) ∧
          ∀ m, s.shown? msgId = some m → isNote me.userIdHex m = false →
            (emoji, me.userIdHex) ∉ reactionPairs m.reactions)
  | .user chat (.editMessage msgId newText) =>
    s.Forwarded me chat msgId ∧
      (chat.forwards = true → s.ApartFromAll me (some (.change msgId (.edit newText))))
  | .user _ (.deleteMessage msgId) => s.ApartFromAll me (some (.remove (.ids [msgId])))
  | .user _ (.deleteEveryone msgId) => s.ApartFromAll me (some (.remove (.ids [msgId])))
  | .user _ (.clearHistory contactId) =>
    s.ApartFromAll me (some (.remove (.chat contactId))) ∧
      ∀ id m, s.shown? id = some m → isNote me.userIdHex m = false → m.groupId.isSome →
        m.senderIdHex ≠ contactId ∧ m.recipientIdHex ≠ contactId
  | .callEnded peerId text id incoming now =>
    s.ApartFromAll me (some (.add (callLogMessage me peerId text id incoming now))) ∧ s.shown? id = none ∧
      s.db.message? id = none ∧ id ∉ s.db.deletedMessageIds
  | .task _ _ => True
  | .handle v _ _ =>
    s.ApartFromTasks me (branchOp? J me v (branch J me v.envelope (v.payload J))) ∧
      (branch J me v.envelope (v.payload J) = .newMessage →
        s.db.isTombstoned v.senderHex (chatMessage me v.envelope (v.payload J)).id = false →
          s.db.message? (chatMessage me v.envelope (v.payload J)).id = none)
  | .read =>
    ∀ event ∈ s.events.head?, match event with
      | .messageReceived m => s.shown? m.id = none
      | .reactionAdded messageId emoji reactorId =>
        ∀ m, s.shown? messageId = some m → isNote me.userIdHex m = false →
          ∀ e, (e, reactorId) ∈ reactionPairs m.reactions → e = emoji
      | _ => True

/-! ## What the calls do to the database -/

theorem contentOf_perform {db : MessengerDb} {call : MessengerCall} {op : ContentOp} (x : CallInput)
    (hop : call.op? me = some op) (hadd : ∀ msg, call = .addMessage msg → msg.id ∉ db.deletedMessageIds) :
    contentOf me.userIdHex (call.perform me x db).message? =
      op.act me.userIdHex (contentOf me.userIdHex db.message?) := by
  cases call with
  | sendMessage _ _ => cases hop
  | sendVoiceNote _ _ => cases hop
  | reactToMessage messageId emoji =>
    cases hop
    exact contentOf_modify (db.message?_addReaction messageId emoji me.userIdHex) (fun _ => rfl)
      fun m _ _ => entryOf_addReaction emoji me.userIdHex m
  | editMessage messageId newText =>
    cases hop
    exact contentOf_modify (db.message?_editMessage messageId newText x.now) (fun _ => rfl) fun _ _ _ => rfl
  | deleteMessage messageId =>
    cases hop
    refine contentOf_filter (p := fun id _ => id ∉ [messageId]) (fun id => ?_) fun _ _ _ _ => rfl
    rw [MessengerCall.perform, db.message?_deleteMessage]
    by_cases hid : messageId = id
    · subst hid
      cases db.message? messageId <;> simp [Option.filter]
    · have hid' : id ≠ messageId := fun h => hid h.symm
      cases db.message? id <;> simp [Option.filter, hid, hid']
  | deleteMessagesForEveryone messageIds =>
    cases hop
    refine contentOf_filter (p := fun id m => id ∉ messageIds || m.senderIdHex ≠ me.userIdHex) (fun id => ?_)
      fun _ _ _ _ => rfl
    rw [MessengerCall.perform, db.message?_deleteMessagesByAuthor]
    by_cases hid : id ∈ messageIds <;> cases db.message? id <;> simp [Option.filter, hid]
  | clearChat contactIdHex =>
    cases hop
    exact contentOf_filter (p := fun _ m => !m.inConversation contactIdHex)
      (db.message?_clearMessagesForContact contactIdHex) fun _ _ _ _ => rfl
  | addMessage msg =>
    cases hop
    refine contentOf_add fun id => ?_
    simp only [MessengerCall.perform, db.message?_addMessage, hadd msg rfl, not_false_eq_true, and_true]

/-- A message that a call still has to add stays out of the database while another runs. -/
theorem unstored_perform {db : MessengerDb} {call : MessengerCall} {op : ContentOp} {msg : SavedChatMessage}
    (x : CallInput) (hop : call.op? me = some op) (hapart : op.Independent (.add msg))
    (h : db.message? msg.id = none ∧ msg.id ∉ db.deletedMessageIds) :
    (call.perform me x db).message? msg.id = none ∧ msg.id ∉ (call.perform me x db).deletedMessageIds := by
  obtain ⟨hnone, hkept⟩ := h
  cases call with
  | sendMessage _ _ => cases hop
  | sendVoiceNote _ _ => cases hop
  | reactToMessage messageId emoji =>
    refine ⟨?_, hkept⟩
    rw [MessengerCall.perform, db.message?_addReaction, hnone]
    split <;> rfl
  | editMessage messageId newText =>
    refine ⟨?_, ?_⟩
    · rw [MessengerCall.perform, db.message?_editMessage, hnone]
      split <;> rfl
    · rw [MessengerCall.perform]
      unfold MessengerDb.editMessage
      split <;> exact hkept
  | deleteMessage messageId =>
    cases hop
    have hne : msg.id ≠ messageId := by simpa [ContentOp.Independent, ContentOp.concerns, Removal.keeps] using hapart
    refine ⟨?_, fun hmem => ?_⟩
    · rw [MessengerCall.perform, db.message?_deleteMessage, hnone, ite_self]
    · rcases Finset.mem_insert.1 hmem with heq | hmem
      · exact hne heq
      · exact hkept hmem
  | deleteMessagesForEveryone messageIds =>
    refine ⟨?_, fun hmem => ?_⟩
    · rw [MessengerCall.perform, db.message?_deleteMessagesByAuthor, hnone]
      split <;> rfl
    · rcases (db.mem_deletedMessageIds_deleteMessagesByAuthor _ _ _).1 hmem with hmem | ⟨-, m, hm, -⟩
      · exact hkept hmem
      · rw [hnone] at hm
        cases hm
  | clearChat contactIdHex =>
    refine ⟨?_, fun hmem => ?_⟩
    · rw [MessengerCall.perform, db.message?_clearMessagesForContact, hnone]
      rfl
    · rcases (db.mem_deletedMessageIds_clearMessagesForContact _ _).1 hmem with hmem | ⟨m, hm, -⟩
      · exact hkept hmem
      · rw [hnone] at hm
        cases hm
  | addMessage msg' =>
    cases hop
    have hne : ¬msg'.id = msg.id := by
      simpa [ContentOp.Independent, ContentOp.concerns, eq_comm] using hapart
    refine ⟨?_, ?_⟩
    · rw [MessengerCall.perform, db.message?_addMessage, if_neg fun h => hne h.1, hnone]
    · rw [MessengerCall.perform, (db.frame_addMessage msg').1]
      exact hkept

/-! ## What envelopes do to the database -/

/-- The ids that are reported are those of the sender's messages among the named. -/
theorem mem_deleted_iff : ∀ (db : MessengerDb) (ids : List String) (author k : String),
    k ∈ (db.deleteMessagesByAuthor ids author).2 ↔
      k ∈ ids ∧ ∃ m, db.message? k = some m ∧ m.senderIdHex = author
  | db, [], author, k => by simp [MessengerDb.deleteMessagesByAuthor]
  | db, id :: ids, author, k => by
    have hone : k ∈ (db.deleteByAuthor id author).2 ↔
        k = id ∧ ∃ m, db.message? k = some m ∧ m.senderIdHex = author := by
      unfold MessengerDb.deleteByAuthor
      cases h : db.message? id with
      | none =>
        refine ⟨fun hk => (List.not_mem_nil hk).elim, ?_⟩
        rintro ⟨rfl, m, hm, -⟩
        rw [h] at hm
        cases hm
      | some msg =>
        dsimp only
        split
        · rename_i ha
          rw [List.mem_singleton]
          refine ⟨?_, fun hk => hk.1⟩
          rintro rfl
          exact ⟨rfl, msg, h, ha⟩
        · rename_i ha
          refine ⟨fun hk => (List.not_mem_nil hk).elim, ?_⟩
          rintro ⟨rfl, m, hm, ha'⟩
          rw [h] at hm
          cases hm
          exact absurd ha' ha
    unfold MessengerDb.deleteMessagesByAuthor
    simp only [List.mem_append, hone, mem_deleted_iff, db.message?_deleteByAuthor, List.mem_cons]
    by_cases hk : id = k
    · subst hk
      cases hm : db.message? id with
      | none => simp
      | some m => by_cases ha : m.senderIdHex = author <;> simp [Option.filter, ha]
    · have hk' : ¬k = id := fun h => hk h.symm
      simp [hk, hk']

theorem not_deleted_of_not_tombstoned {db : MessengerDb} {author id : String}
    (h : db.isTombstoned author id = false) : id ∉ db.deletedMessageIds := by
  unfold MessengerDb.isTombstoned at h
  rw [Bool.or_eq_false_iff] at h
  exact of_decide_eq_false h.1

/-- What was done to the database, the events tell. -/
def Told (me : UserIdentity C) (db : MessengerDb) (handled : Handled) : Prop :=
  contentOf me.userIdHex handled.db.message? =
    applyAll (handled.events.map fun event => actOf me (eventOp? event)) (contentOf me.userIdHex db.message?)

theorem told_deliveryReceipt (db : MessengerDb) (senderHex : String) (receipt : DeliveryReceipt) :
    Told me db (handleDeliveryReceipt db senderHex receipt) := by
  unfold Told handleDeliveryReceipt
  split
  · exact contentOf_modify (db.message?_markMessageDelivered receipt.messageId) (fun _ => rfl) fun _ _ _ => rfl
  · rfl

theorem told_tombstone (db : MessengerDb) (senderHex : String) (deletedIds : List String) :
    Told me db (handleTombstone db senderHex deletedIds) := by
  have hremoved : contentOf me.userIdHex
      ((db.deleteMessagesByAuthor deletedIds senderHex).1.registerPendingTombstones senderHex deletedIds).message? =
        (ContentOp.remove (.ids (db.deleteMessagesByAuthor deletedIds senderHex).2)).act me.userIdHex
          (contentOf me.userIdHex db.message?) := by
    refine contentOf_filter (p := fun id _ => id ∉ (db.deleteMessagesByAuthor deletedIds senderHex).2) (fun id => ?_)
      fun _ _ _ _ => rfl
    rw [MessengerDb.message?_registerPendingTombstones, db.message?_deleteMessagesByAuthor]
    have hdeleted := mem_deleted_iff db deletedIds senderHex id
    cases hm : db.message? id with
    | none => split <;> rfl
    | some m =>
      by_cases hid : id ∈ deletedIds <;> by_cases ha : m.senderIdHex = senderHex <;>
        simp [Option.filter, hid, ha, hm, hdeleted]
  unfold Told handleTombstone
  dsimp only
  split
  · rename_i hnone
    rw [List.isEmpty_iff] at hnone
    rw [hremoved, hnone]
    funext id
    change (contentOf me.userIdHex db.message? id).filter _ = contentOf me.userIdHex db.message? id
    cases contentOf me.userIdHex db.message? id <;> rfl
  · exact hremoved

theorem told_reaction (db : MessengerDb) (senderHex : String) (react : MessageReaction) :
    Told me db (handleReaction db senderHex react) := by
  unfold Told handleReaction
  split
  · exact contentOf_modify (db.message?_addReaction react.messageId react.emoji senderHex) (fun _ => rfl)
      fun m _ _ => entryOf_addReaction react.emoji senderHex m
  · rfl

theorem told_edit (db : MessengerDb) (senderHex : String) (p : ChatMessagePayload) (now : Nat) :
    Told me db (handleEdit db senderHex p now) := by
  let ts := p.editTimestamp.getD now
  have hstored := db.message?_editMessageByAuthor p.id p.text ts senderHex
  unfold Told handleEdit
  cases hm : db.message? p.id with
  | none =>
    have hnone : db.editMessageByAuthor p.id p.text ts senderHex = (db, false) := by
      unfold MessengerDb.editMessageByAuthor
      rw [hm]
    rw [hnone]
    rfl
  | some m =>
    by_cases ha : m.senderIdHex = senderHex
    · have hedited : db.editMessageByAuthor p.id p.text ts senderHex =
          ((db.editMessageByAuthor p.id p.text ts senderHex).1, true) := by
        unfold MessengerDb.editMessageByAuthor
        rw [hm]
        dsimp only
        rw [if_neg (not_not.2 ha)]
      rw [hedited]
      refine contentOf_modify (f := fun m => if m.senderIdHex = senderHex then m.edit p.text ts else m)
        hstored (fun m => ?_) fun m' hm' _ => ?_
      · split <;> rfl
      · rw [hm] at hm'
        cases hm'
        rw [if_pos ha]
        rfl
    · have hkept : db.editMessageByAuthor p.id p.text ts senderHex = (db, false) := by
        unfold MessengerDb.editMessageByAuthor
        rw [hm]
        dsimp only
        rw [if_pos ha]
      rw [hkept]
      rfl

/-- A new message is told of if it replaces none. -/
theorem told_newMessage (dht : Dht) (db : MessengerDb) (e : EncryptedEnvelope) (p : ChatMessagePayload)
    (hnew : db.isTombstoned e.senderId.toHex (chatMessage me e p).id = false →
      db.message? (chatMessage me e p).id = none) :
    Told me db (handleNewMessage T me dht db e p) := by
  obtain ⟨hmessages, hdeleted, hpending, -⟩ := ensureContact_frame (C := C) T dht db e
  have htombstoned : ∀ id, (ensureContact (C := C) T dht db e).isTombstoned e.senderId.toHex id =
      db.isTombstoned e.senderId.toHex id := fun id => by
    unfold MessengerDb.isTombstoned
    rw [hdeleted, hpending]
  have hstored : (ensureContact (C := C) T dht db e).message? = db.message? := by
    funext id
    unfold MessengerDb.message?
    rw [hmessages]
  unfold Told handleNewMessage
  dsimp only
  rw [htombstoned]
  cases htomb : db.isTombstoned e.senderId.toHex (chatMessage me e p).id with
  | true =>
    rw [if_pos rfl, hstored]
    rfl
  | false =>
    have hkept := not_deleted_of_not_tombstoned htomb
    have hadded : ∀ db' : MessengerDb, (chatMessage me e p).id ∉ db'.deletedMessageIds →
        db'.addMessage (chatMessage me e p) =
          { db' with messages := db'.messages.upsert (chatMessage me e p) } := fun _ h => if_neg h
    rw [if_neg Bool.false_ne_true, hadded _ (hdeleted ▸ hkept)]
    dsimp only
    rw [hmessages, KeyedList.list_upsert_of_none (hnew htomb), List.length_append, List.length_singleton,
      if_pos (Nat.lt_add_one _)]
    exact contentOf_add fun id => KeyedList.get?_upsert db.messages (chatMessage me e p) id

/-- What handling an envelope does, its events tell. -/
theorem told_handleBranch (dht : Dht) (db : MessengerDb) (v : Verified me) (now : Nat) (br : Branch)
    (hnew : br = .newMessage →
      db.isTombstoned v.senderHex (chatMessage me v.envelope (v.payload J)).id = false →
        db.message? (chatMessage me v.envelope (v.payload J)).id = none) :
    Told me db (handleBranch J T me dht db v now br) := by
  cases br with
  | deliveryReceipt receipt => exact told_deliveryReceipt db v.senderHex receipt
  | readReceipt => exact rfl
  | tombstone deletedIds => exact told_tombstone db v.senderHex deletedIds
  | callSignal signal =>
    change Told me db (handleCallSignal me db v.senderHex signal now)
    unfold Told handleCallSignal
    split
    · rfl
    · split <;> rfl
  | callAudio chunk =>
    change Told me db (handleCallAudio me db v.envelope chunk)
    unfold Told handleCallAudio
    split <;> rfl
  | reaction react => exact told_reaction db v.senderHex react
  | edit => exact told_edit db v.senderHex (v.payload J) now
  | newMessage => exact told_newMessage T dht db v.envelope (v.payload J) (hnew rfl)

/-- The events stand for what the envelope was about to do, or for less. -/
theorem apart_events (dht : Dht) (db : MessengerDb) (v : Verified me) (now : Nat) (br : Branch) {op? : Option ContentOp}
    (hapart : Apart (branchOp? J me v br) op?) :
    ∀ event ∈ (handleBranch J T me dht db v now br).events, Apart (eventOp? event) op? := by
  intro event hevent
  cases br with
  | deliveryReceipt receipt =>
    change event ∈ (handleDeliveryReceipt db v.senderHex receipt).events at hevent
    unfold handleDeliveryReceipt at hevent
    split at hevent
    · obtain rfl := List.mem_singleton.1 hevent
      exact hapart
    · cases hevent
  | readReceipt => cases hevent
  | tombstone deletedIds =>
    change event ∈ (handleTombstone db v.senderHex deletedIds).events at hevent
    unfold handleTombstone at hevent
    dsimp only at hevent
    split at hevent
    · cases hevent
    · obtain rfl := List.mem_singleton.1 hevent
      rintro _ ⟨⟩ o ho
      have hall := hapart _ rfl o ho
      cases o with
      | add msg =>
        have hne : msg.id ∉ deletedIds := by
          simpa [ContentOp.Independent, ContentOp.concerns, Removal.keeps] using hall
        have hnot : msg.id ∉ (db.deleteMessagesByAuthor deletedIds v.senderHex).2 :=
          fun h => hne ((mem_deleted_iff db deletedIds v.senderHex msg.id).1 h).1
        simpa [ContentOp.Independent, ContentOp.concerns, Removal.keeps] using hnot
      | change messageId g => trivial
      | remove r => trivial
  | callSignal signal =>
    change event ∈ (handleCallSignal me db v.senderHex signal now).events at hevent
    unfold handleCallSignal at hevent
    split at hevent
    · cases hevent
    · split at hevent
      · cases hevent
      · obtain rfl := List.mem_singleton.1 hevent
        rintro _ ⟨⟩
  | callAudio chunk =>
    change event ∈ (handleCallAudio me db v.envelope chunk).events at hevent
    unfold handleCallAudio at hevent
    split at hevent
    · cases hevent
    · obtain rfl := List.mem_singleton.1 hevent
      rintro _ ⟨⟩
  | reaction react =>
    change event ∈ (handleReaction db v.senderHex react).events at hevent
    unfold handleReaction at hevent
    split at hevent
    · obtain rfl := List.mem_singleton.1 hevent
      exact hapart
    · cases hevent
  | edit =>
    change event ∈ (handleEdit db v.senderHex (v.payload J) now).events at hevent
    unfold handleEdit at hevent
    split at hevent
    · obtain rfl := List.mem_singleton.1 hevent
      exact hapart
    · cases hevent
  | newMessage =>
    change event ∈ (handleNewMessage T me dht db v.envelope (v.payload J)).events at hevent
    unfold handleNewMessage at hevent
    dsimp only at hevent
    split at hevent
    · cases hevent
    · dsimp only at hevent
      split at hevent
      · rcases List.mem_cons.1 hevent with rfl | hevent
        · rintro _ ⟨⟩
        · obtain rfl := List.mem_singleton.1 hevent
          exact hapart
      · cases hevent

/-! ## What is done to the list -/

theorem shown?_modify (s : Desktop) (msgId : String) {f : SavedChatMessage → SavedChatMessage}
    (hf : ∀ m, (f m).id = m.id) (id : String) :
    (s.modify msgId f).shown? id = if msgId = id then (s.shown? id).map f else s.shown? id :=
  lookupKey_modifyKey SavedChatMessage.id hf msgId id s.view

theorem shown?_retain {s : Desktop} (hs : KeysNodup SavedChatMessage.id s.view) (p : SavedChatMessage → Bool)
    (id : String) : (s.retain p).shown? id = (s.shown? id).filter p :=
  lookupKey_filter SavedChatMessage.id hs p id

theorem lookupKey_concat {m : SavedChatMessage} {view : List SavedChatMessage}
    (h : lookupKey SavedChatMessage.id m.id view = none) (id : String) :
    lookupKey SavedChatMessage.id id (view ++ [m]) =
      if m.id = id then some m else lookupKey SavedChatMessage.id id view := by
  rw [← upsert_of_lookupKey_none SavedChatMessage.id h, lookupKey_upsert]

theorem keysNodup_concat {m : SavedChatMessage} {view : List SavedChatMessage}
    (hview : KeysNodup SavedChatMessage.id view) (h : lookupKey SavedChatMessage.id m.id view = none) :
    KeysNodup SavedChatMessage.id (view ++ [m]) := by
  rw [← upsert_of_lookupKey_none SavedChatMessage.id h]
  exact keysNodup_upsert SavedChatMessage.id hview m

theorem viewContent_modify {s : Desktop} {msgId : String} {f : SavedChatMessage → SavedChatMessage} {g : EntryChange}
    (hid : ∀ m, (f m).id = m.id) (hnote : ∀ m, isNote me.userIdHex (f m) = isNote me.userIdHex m)
    (hentry : ∀ m, s.shown? msgId = some m → isNote me.userIdHex m = false →
      entryOf (f m) = g.apply (entryOf m)) :
    (s.modify msgId f).viewContent me = (ContentOp.change msgId g).act me.userIdHex (s.viewContent me) :=
  contentOf_modify (s.shown?_modify msgId hid) hnote hentry

theorem viewContent_retain {s : Desktop} (hs : KeysNodup SavedChatMessage.id s.view) {p : SavedChatMessage → Bool}
    {r : Removal} (hkeeps : ∀ id m, s.shown? id = some m → isNote me.userIdHex m = false →
      p m = r.keeps id (entryOf m)) :
    (s.retain p).viewContent me = (ContentOp.remove r).act me.userIdHex (s.viewContent me) :=
  contentOf_filter (p := fun _ => p) (shown?_retain hs p) hkeeps

/-- A note changes nothing of the conversations. -/
theorem viewContent_modify_note {s : Desktop} {msgId : String} {f : SavedChatMessage → SavedChatMessage}
    (hid : ∀ m, (f m).id = m.id) (hnote : ∀ m, isNote me.userIdHex (f m) = isNote me.userIdHex m)
    (h : ∀ m, s.shown? msgId = some m → isNote me.userIdHex m = true) :
    (s.modify msgId f).viewContent me = s.viewContent me := by
  funext id
  unfold viewContent contentOf
  rw [s.shown?_modify msgId hid]
  split
  · rename_i heq
    subst heq
    cases hm : s.shown? msgId with
    | none => rfl
    | some m => simp [Option.filter, hnote, h m hm]
  · rfl

/-! ## The invariant -/

/-- What a run keeps: the copies differ by what is under way, which is of changes that do not disturb each other. -/
structure Synced (me : UserIdentity C) (s : Desktop) : Prop where
  nodup : KeysNodup SavedChatMessage.id s.view
  balanced : Balanced (s.viewContent me) (s.dbContent me) (s.tasks.map fun call => actOf me (call.op? me))
    (s.events.map fun event => actOf me (eventOp? event))
  apart : s.tasks.Pairwise fun call call' => Apart (call.op? me) (call'.op? me)
  unsent : ∀ call ∈ s.tasks, call.op? me ≠ none
  unstored : ∀ msg, .addMessage msg ∈ s.tasks → s.db.message? msg.id = none ∧ msg.id ∉ s.db.deletedMessageIds

theorem synced_start (db : MessengerDb) : Synced me (start db) where
  nodup := db.messages.nodup
  balanced := .refl _
  apart := .nil
  unsent := by simp [start]
  unstored := by simp [start]

/-- Only the list has changed, and no conversation in it. -/
theorem Synced.of_view {s t : Desktop} (h : Synced me s) (hnodup : KeysNodup SavedChatMessage.id t.view)
    (hview : t.viewContent me = s.viewContent me) (hdb : t.db = s.db) (htasks : t.tasks = s.tasks)
    (hevents : t.events = s.events) : Synced me t where
  nodup := hnodup
  balanced := by
    unfold dbContent
    rw [hview, hdb, htasks, hevents]
    exact h.balanced
  apart := htasks ▸ h.apart
  unsent := htasks ▸ h.unsent
  unstored := by
    rw [hdb, htasks]
    exact h.unstored

/-- The list has changed as the call that is spawned is going to change the database. -/
theorem Synced.spawned {s t : Desktop} {call : MessengerCall} {op : ContentOp} (h : Synced me s)
    (hop : call.op? me = some op) (hapart : s.ApartFromAll me (some op))
    (hview : t.viewContent me = op.act me.userIdHex (s.viewContent me)) (hnodup : KeysNodup SavedChatMessage.id t.view)
    (hnew : ∀ msg, call = .addMessage msg → s.db.message? msg.id = none ∧ msg.id ∉ s.db.deletedMessageIds)
    (hdb : t.db = s.db) (htasks : t.tasks = s.tasks ++ [call]) (hevents : t.events = s.events) : Synced me t where
  nodup := hnodup
  balanced := by
    have hact : op.act me.userIdHex = actOf me (call.op? me) := by rw [hop]; rfl
    unfold dbContent
    rw [hview, hdb, htasks, hevents, List.map_append, hact]
    rw [← hop] at hapart
    refine h.balanced.here (fun g hg => ?_) fun g hg => ?_
    · obtain ⟨call', hcall', rfl⟩ := List.mem_map.1 hg
      exact (hapart.1 call' hcall').commute me
    · obtain ⟨event, hevent, rfl⟩ := List.mem_map.1 hg
      exact (hapart.2 event hevent).commute me
  apart := by
    rw [htasks, List.pairwise_append]
    refine ⟨h.apart, List.pairwise_singleton .., fun call' hcall' call'' hcall'' => ?_⟩
    obtain rfl := List.mem_singleton.1 hcall''
    rw [hop]
    exact (hapart.1 call' hcall').symm
  unsent := by
    rw [htasks]
    intro call' hcall'
    rcases List.mem_append.1 hcall' with hcall' | hcall'
    · exact h.unsent call' hcall'
    · obtain rfl := List.mem_singleton.1 hcall'
      rw [hop]
      exact Option.some_ne_none op
  unstored := by
    rw [hdb, htasks]
    intro msg hmsg
    rcases List.mem_append.1 hmsg with hmsg | hmsg
    · exact h.unstored msg hmsg
    · exact hnew msg (List.mem_singleton.1 hmsg).symm

/-- A message is changed by the user, here and in the database. -/
theorem synced_modify {s : Desktop} {chat : Chat} {msgId : String} {f : SavedChatMessage → SavedChatMessage}
    {g : EntryChange} {call : MessengerCall} (h : Synced me s) (hid : ∀ m, (f m).id = m.id)
    (hnote : ∀ m, isNote me.userIdHex (f m) = isNote me.userIdHex m) (hforwarded : s.Forwarded me chat msgId)
    (hop : call.op? me = some (.change msgId g)) (hnew : ∀ msg, call ≠ .addMessage msg)
    (hfits : chat.forwards = true → s.ApartFromAll me (some (.change msgId g)) ∧
      ∀ m, s.shown? msgId = some m → isNote me.userIdHex m = false → entryOf (f m) = g.apply (entryOf m)) :
    Synced me ((s.modify msgId f).forward chat call) := by
  have hnodup : KeysNodup SavedChatMessage.id (s.modify msgId f).view := keysNodup_modifyKey _ hid msgId h.nodup
  unfold forward
  cases hchat : chat.forwards with
  | false => exact h.of_view hnodup (viewContent_modify_note hid hnote (hforwarded hchat)) rfl rfl rfl
  | true =>
    obtain ⟨hapart, hentry⟩ := hfits hchat
    exact h.spawned hop hapart (viewContent_modify hid hnote hentry) hnodup (fun msg hcall => absurd hcall (hnew msg))
      rfl rfl rfl

/-- A message is deleted by the user. -/
theorem synced_delete {s : Desktop} {msgId : String} (h : Synced me s)
    (hapart : s.ApartFromAll me (some (.remove (.ids [msgId])))) :
    Synced me ((s.retain (·.id ≠ msgId)).spawn (.deleteMessage msgId)) := by
  refine h.spawned rfl hapart ?_ (keysNodup_filter _ h.nodup _) (fun _ hcall => by cases hcall) rfl rfl rfl
  refine viewContent_retain h.nodup fun id m hm _ => ?_
  have hid : m.id = id := key_of_lookupKey _ hm
  simp [Removal.keeps, hid]

theorem act_authored_of_gone {c : Content} {ids : List String} {author : String} (h : ∀ id ∈ ids, c id = none) :
    (ContentOp.remove (.authored ids author)).act me.userIdHex c = c := by
  funext id
  change (c id).filter _ = c id
  cases hc : c id with
  | none => rfl
  | some e =>
    have hid : id ∉ ids := fun hmem => by
      rw [h id hmem] at hc
      cases hc
    simp [Option.filter, Removal.keeps, hid]

theorem synced_deleteEveryone {s : Desktop} {chat : Chat} {msgId : String} (h : Synced me s)
    (hapart : s.ApartFromAll me (some (.remove (.ids [msgId])))) :
    Synced me (((s.retain (·.id ≠ msgId)).spawn (.deleteMessage msgId)).forward chat
      (.deleteMessagesForEveryone [msgId])) := by
  have hdeleted := synced_delete h hapart
  unfold forward
  split
  · have hweaker : ∀ op? : Option ContentOp, Apart (some (.remove (.ids [msgId]))) op? →
        Apart (some (.remove (.authored [msgId] me.userIdHex))) op? := by
      rintro op? hop _ ⟨⟩ o ho
      have hids := hop _ rfl o ho
      cases o with
      | add msg =>
        have hne : ¬msg.id = msgId := by
          simpa [ContentOp.Independent, ContentOp.concerns, Removal.keeps] using hids
        simpa [ContentOp.Independent, ContentOp.concerns, Removal.keeps] using fun heq => absurd heq hne
      | change _ _ => trivial
      | remove _ => trivial
    refine hdeleted.spawned rfl ⟨fun call hcall => ?_, fun event hevent => hweaker _ (hapart.2 event hevent)⟩ ?_
      hdeleted.nodup (fun _ hcall => by cases hcall) rfl rfl rfl
    · rcases List.mem_append.1 hcall with hcall | hcall
      · exact hweaker _ (hapart.1 call hcall)
      · obtain rfl := List.mem_singleton.1 hcall
        rintro _ ⟨⟩ _ ⟨⟩
        trivial
    · -- nothing is left under the id
      refine (act_authored_of_gone fun id hid => ?_).symm
      obtain rfl := List.mem_singleton.1 hid
      have hnone : (s.retain (·.id ≠ id)).shown? id = none := by
        rw [shown?_retain h.nodup]
        cases hm : s.shown? id with
        | none => rfl
        | some m =>
          have hid : m.id = id := key_of_lookupKey _ hm
          simp [Option.filter, hid]
      unfold viewContent contentOf
      change (((s.retain _).shown? id).filter _).map _ = none
      rw [hnone]
      rfl
  · exact hdeleted

theorem synced_clearHistory {s : Desktop} {contactId : String} (h : Synced me s)
    (hapart : s.ApartFromAll me (some (.remove (.chat contactId))))
    (hgroups : ∀ id m, s.shown? id = some m → isNote me.userIdHex m = false → m.groupId.isSome →
      m.senderIdHex ≠ contactId ∧ m.recipientIdHex ≠ contactId) :
    Synced me ((s.retain fun m => m.senderIdHex ≠ contactId && m.recipientIdHex ≠ contactId).spawn
      (.clearChat contactId)) := by
  refine h.spawned rfl hapart ?_ (keysNodup_filter _ h.nodup _) (fun _ hcall => by cases hcall) rfl rfl rfl
  refine viewContent_retain h.nodup fun id m hm hnote => ?_
  cases hgroup : m.groupId with
  | none => simp [Removal.keeps, Entry.inConversation, entryOf, hgroup]
  | some gid =>
    obtain ⟨hsender, hrecipient⟩ := hgroups id m hm hnote (by rw [hgroup]; rfl)
    simp [Removal.keeps, Entry.inConversation, entryOf, hgroup, hsender, hrecipient]

theorem synced_act {s : Desktop} {chat : Chat} {action : UserAction} (h : Synced me s)
    (hfits : s.Fits J (.user chat action : DesktopStep me)) : Synced me (s.act me chat action) := by
  cases action with
  | sendMessage sending random now =>
    unfold act
    dsimp only
    cases htarget : chat.activeTargetId with
    | none => exact h
    | some targetId =>
      obtain ⟨rfl, hnone⟩ := hfits targetId htarget
      have hid : ∀ target,
          (sending.newMsg me ("msg_" ++ random) target chat.activeGroup now).id = "msg_" ++ random := by
        cases sending <;> exact fun _ => rfl
      have hnote : isNote me.userIdHex
          (sending.newMsg me ("msg_" ++ random) "self_saved_messages" chat.activeGroup now) = true := by
        cases sending <;> rfl
      have hfree : lookupKey SavedChatMessage.id
          (sending.newMsg me ("msg_" ++ random) "self_saved_messages" chat.activeGroup now).id s.view = none := by
        rw [hid]
        exact hnone
      dsimp only
      rw [if_pos rfl]
      refine h.of_view (keysNodup_concat h.nodup hfree) ?_ rfl rfl rfl
      funext id
      unfold viewContent contentOf shown?
      dsimp only
      rw [lookupKey_concat hfree]
      split
      · rename_i heq
        rw [← heq, hfree]
        simp [Option.filter, hnote]
      · rfl
  | reactMessage msgId emoji =>
    refine synced_modify h (fun _ => rfl) (fun _ => rfl) hfits.1 rfl (fun _ hcall => by cases hcall) fun hchat => ?_
    obtain ⟨hapart, hnot⟩ := hfits.2 hchat
    exact ⟨hapart, fun m hm hnote => entryOf_toggleReaction (hnot m hm hnote)⟩
  | editMessage msgId newText =>
    exact synced_modify h (fun _ => rfl) (fun _ => rfl) hfits.1 rfl (fun _ hcall => by cases hcall)
      fun hchat => ⟨hfits.2 hchat, fun _ _ _ => rfl⟩
  | deleteMessage msgId => exact synced_delete h hfits
  | deleteEveryone msgId => exact synced_deleteEveryone h hfits
  | clearHistory contactId => exact synced_clearHistory h hfits.1 hfits.2

theorem synced_callEnded {s : Desktop} {peerId text id : String} {incoming : Bool} {now : Nat} (h : Synced me s)
    (hfits : s.Fits J (.callEnded peerId text id incoming now : DesktopStep me)) :
    Synced me (s.logCallMessage me peerId text id incoming now) := by
  obtain ⟨hapart, hshown, hnone, hkept⟩ := hfits
  have hfree : lookupKey SavedChatMessage.id (callLogMessage me peerId text id incoming now).id s.view = none := hshown
  refine h.spawned rfl hapart (contentOf_add (lookupKey_concat hfree)) (keysNodup_concat h.nodup hfree) ?_ rfl rfl rfl
  rintro _ ⟨⟩
  exact ⟨hnone, hkept⟩

theorem synced_task {s : Desktop} (h : Synced me s) (i : Nat) (x : CallInput) :
    Synced me (s.step J T (.task i x : DesktopStep me)) := by
  unfold step
  dsimp only
  cases hcall : s.tasks[i]? with
  | none => exact h
  | some call =>
    obtain ⟨hlt, rfl⟩ := List.getElem?_eq_some_iff.1 hcall
    obtain ⟨op, hop⟩ := Option.ne_none_iff_exists'.1 (h.unsent _ (List.getElem_mem hlt))
    have hact : actOf me ((s.tasks[i]).op? me) = op.act me.userIdHex := by rw [hop]; rfl
    have hothers : ∀ call ∈ s.tasks.eraseIdx i, Apart ((s.tasks[i]).op? me) (call.op? me) :=
      (List.pairwise_cons.1 (((List.getElem_cons_eraseIdx_perm hlt).pairwise_iff fun hab => hab.symm).2 h.apart)).1
    refine ⟨h.nodup, ?_, h.apart.sublist (List.eraseIdx_sublist ..),
      fun call hmem => h.unsent call (List.mem_of_mem_eraseIdx hmem), fun msg hmsg => ?_⟩
    · have hperformed : contentOf me.userIdHex ((s.tasks[i]).perform me x s.db).message? =
          op.act me.userIdHex (s.dbContent me) := by
        refine contentOf_perform x hop fun msg hadd => ?_
        have hmem : .addMessage msg ∈ s.tasks := hadd ▸ List.getElem_mem hlt
        exact (h.unstored msg hmem).2
      have harrived := h.balanced.arrive (i := i) (f := op.act me.userIdHex) (by simp [hlt, hact])
      rw [List.eraseIdx_map] at harrived
      change Balanced _ (contentOf me.userIdHex _) _ _
      rw [hperformed]
      exact harrived
    · exact unstored_perform x hop (hothers _ hmsg op hop _ rfl) (h.unstored msg (List.mem_of_mem_eraseIdx hmsg))

/-- A message that a call still has to add stays out of the database while an envelope is handled. -/
theorem unstored_handleBranch (dht : Dht) {db : MessengerDb} (v : Verified me) (now : Nat) (br : Branch)
    {msg : SavedChatMessage} (hapart : Apart (branchOp? J me v br) (some (.add msg)))
    (h : db.message? msg.id = none ∧ msg.id ∉ db.deletedMessageIds) :
    (handleBranch J T me dht db v now br).db.message? msg.id = none ∧
      msg.id ∉ (handleBranch J T me dht db v now br).db.deletedMessageIds := by
  obtain ⟨hnone, hkept⟩ := h
  have hcontent := frame_handleBranch J T dht db v now br
  cases br with
  | deliveryReceipt receipt =>
    rw [(hcontent (by simp)).1]
    refine ⟨?_, hkept⟩
    change (handleDeliveryReceipt db v.senderHex receipt).db.message? msg.id = none
    unfold handleDeliveryReceipt
    split
    · rw [db.message?_markMessageDelivered, hnone, Option.map_none, ite_self]
    · exact hnone
  | readReceipt => exact ⟨hnone, hkept⟩
  | tombstone deletedIds =>
    refine ⟨?_, fun hmem => ?_⟩
    · change (db.deleteMessagesByAuthor deletedIds v.senderHex).1.message? msg.id = none
      rw [db.message?_deleteMessagesByAuthor, hnone, Option.filter_none, ite_self]
    · rcases (db.mem_deletedMessageIds_deleteMessagesByAuthor _ _ _).1 hmem with hmem | ⟨-, m, hm, -⟩
      · exact hkept hmem
      · rw [hnone] at hm
        cases hm
  | callSignal signal =>
    rw [(hcontent (by simp)).1, handleBranch, db_handleCallSignal]
    exact ⟨hnone, hkept⟩
  | callAudio chunk =>
    rw [(hcontent (by simp)).1, handleBranch, db_handleCallAudio]
    exact ⟨hnone, hkept⟩
  | reaction react =>
    rw [(hcontent (by simp)).1]
    refine ⟨?_, hkept⟩
    change (handleReaction db v.senderHex react).db.message? msg.id = none
    unfold handleReaction
    split
    · rw [db.message?_addReaction, hnone, Option.map_none, ite_self]
    · exact hnone
  | edit =>
    rw [(hcontent (by simp)).1, handleBranch, db_handleEdit, db.message?_editMessageByAuthor, hnone, Option.map_none,
      ite_self]
    exact ⟨rfl, hkept⟩
  | newMessage =>
    have hne : ¬(chatMessage me v.envelope (v.payload J)).id = msg.id := by
      have hadd := hapart _ rfl _ rfl
      simpa [ContentOp.Independent, ContentOp.concerns, eq_comm] using hadd
    rw [(hcontent (by simp)).1, handleBranch, message?_handleNewMessage, if_neg fun h => hne h.1]
    exact ⟨hnone, hkept⟩

theorem synced_handle {s : Desktop} (h : Synced me s) {v : Verified me} {now : Nat} {dht : Dht}
    (hfits : s.Fits J (.handle v now dht)) : Synced me (s.step J T (.handle v now dht)) := by
  obtain ⟨hapart, hnew⟩ := hfits
  have htold := told_handleBranch J T dht s.db v now (branch J me v.envelope (v.payload J)) hnew
  refine ⟨h.nodup, ?_, h.apart, h.unsent, fun msg hmsg => ?_⟩
  · have hcommute : ∀ f ∈ (handlePayload J T me dht s.db v now).events.map (fun event => actOf me (eventOp? event)),
        ∀ g ∈ s.tasks.map fun call => actOf me (call.op? me), Function.Commute f g := by
      intro f hf g hg
      obtain ⟨event, hevent, rfl⟩ := List.mem_map.1 hf
      obtain ⟨call, hcall, rfl⟩ := List.mem_map.1 hg
      exact (apart_events J T dht s.db v now _ (hapart call hcall) event hevent).commute me
    have hthere := h.balanced.there hcommute
    rw [← List.map_append] at hthere
    change Balanced _ (contentOf me.userIdHex (handlePayload J T me dht s.db v now).db.message?) _ _
    rw [show contentOf me.userIdHex (handlePayload J T me dht s.db v now).db.message? = _ from htold]
    exact hthere
  · exact unstored_handleBranch J T dht v now _ (hapart _ hmsg) (h.unstored msg hmsg)

theorem synced_read {s : Desktop} (h : Synced me s) (hfits : s.Fits J (.read : DesktopStep me)) :
    Synced me (s.step J T (.read : DesktopStep me)) := by
  unfold step
  dsimp only
  cases hevents : s.events with
  | nil => exact h
  | cons event rest =>
    have hfits := hfits event (by rw [hevents]; rfl)
    have hbalanced := h.balanced
    rw [hevents] at hbalanced
    -- it is enough that the list changes as the event says
    have hread : ∀ t : Desktop, t.db = s.db → t.tasks = s.tasks → t.events = rest →
        KeysNodup SavedChatMessage.id t.view → t.viewContent me = actOf me (eventOp? event) (s.viewContent me) →
          Synced me t := by
      intro t hdb htasks hrest hnodup hview
      refine ⟨hnodup, ?_, htasks ▸ h.apart, htasks ▸ h.unsent, ?_⟩
      · unfold dbContent
        rw [hview, hdb, htasks, hrest]
        exact hbalanced.take
      · rw [hdb, htasks]
        exact h.unstored
    cases event with
    | contactsUpdated contacts => exact hread _ rfl rfl rfl h.nodup rfl
    | messageReceived m =>
      exact hread _ rfl rfl rfl (keysNodup_concat h.nodup hfits) (contentOf_add (lookupKey_concat hfits))
    | messageDelivered messageId recipientId =>
      refine hread _ rfl rfl rfl
        (keysNodup_modifyKey _ (f := SavedChatMessage.markDelivered) (fun _ => rfl) _ h.nodup) ?_
      exact viewContent_modify (s := { s with events := rest }) (fun _ => rfl) (fun _ => rfl) fun _ _ _ => rfl
    | messageDeleted contactId messageIds =>
      refine hread _ rfl rfl rfl (keysNodup_filter _ h.nodup _) ?_
      refine viewContent_retain (s := { s with events := rest }) h.nodup fun id m hm _ => ?_
      have hid : m.id = id := key_of_lookupKey _ hm
      simp [Removal.keeps, hid]
    | messageEdited messageId newText =>
      refine hread _ rfl rfl rfl (keysNodup_modifyKey _ (f := showEdit newText) (fun _ => rfl) _ h.nodup) ?_
      exact viewContent_modify (s := { s with events := rest }) (fun _ => rfl) (fun _ => rfl) fun _ _ _ => rfl
    | reactionAdded messageId emoji reactorId =>
      refine hread _ rfl rfl rfl (keysNodup_modifyKey _ (f := showReaction emoji reactorId) (fun _ => rfl) _ h.nodup) ?_
      exact viewContent_modify (s := { s with events := rest }) (fun _ => rfl) (fun _ => rfl)
        fun m hm hnote => entryOf_showReaction (hfits m hm hnote)
    | callSignalReceived signal => exact hread _ rfl rfl rfl h.nodup rfl
    | callAudioReceived senderId chunk => exact hread _ rfl rfl rfl h.nodup rfl

theorem synced_step {s : Desktop} (h : Synced me s) (e : DesktopStep me) (hfits : s.Fits J e) :
    Synced me (s.step J T e) := by
  cases e with
  | user chat action => exact synced_act J h hfits
  | callEnded peerId text id incoming now => exact synced_callEnded J h hfits
  | task i x => exact synced_task J T h i x
  | handle v now dht => exact synced_handle J T h hfits
  | read => exact synced_read J T h hfits

/-! ## The conversations -/

/-- What a conversation shows is what the content has of it. -/
theorem mem_conversation {view : List SavedChatMessage} (hview : KeysNodup SavedChatMessage.id view)
    {targetId id : String} {e : Entry} :
    (id, e) ∈ (view.filter (isShownIn me.userIdHex targetId)).map (fun m => (m.id, entryOf m)) ↔
      contentOf me.userIdHex (fun id => lookupKey SavedChatMessage.id id view) id = some e ∧
        e.inChat me.userIdHex targetId = true := by
  have hshown : ∀ m, isShownIn me.userIdHex targetId m =
      (!isNote me.userIdHex m && (entryOf m).inChat me.userIdHex targetId) := by
    intro m
    unfold isShownIn Entry.inChat entryOf
    cases isNote me.userIdHex m <;> rfl
  unfold contentOf
  simp only [List.mem_map, List.mem_filter, Prod.mk.injEq, Option.map_eq_some_iff, Option.filter_eq_some_iff, hshown,
    Bool.and_eq_true]
  constructor
  · rintro ⟨m, ⟨hm, hnote, hchat⟩, rfl, rfl⟩
    exact ⟨⟨m, ⟨(lookupKey_eq_some _ hview).2 ⟨hm, rfl⟩, hnote⟩, rfl⟩, hchat⟩
  · rintro ⟨⟨m, ⟨hm, hnote⟩, rfl⟩, hchat⟩
    obtain ⟨hm, hid⟩ := (lookupKey_eq_some _ hview).1 hm
    exact ⟨m, ⟨hm, hnote, hchat⟩, hid, rfl⟩

theorem nodup_conversation {view : List SavedChatMessage} (hview : KeysNodup SavedChatMessage.id view)
    (p : SavedChatMessage → Bool) : ((view.filter p).map fun m => (m.id, entryOf m)).Nodup := by
  have hids : ((view.filter p).map SavedChatMessage.id).Nodup := keysNodup_filter SavedChatMessage.id hview p
  refine List.Nodup.of_map Prod.fst ?_
  rw [List.map_map]
  exact hids

/-- When nothing is under way, the copies are the same. -/
theorem Synced.mirrors {s : Desktop} (h : Synced me s) (hquiet : s.Quiet) : s.Mirrors me := by
  obtain ⟨htasks, hevents⟩ := hquiet
  have hbalanced := h.balanced
  rw [htasks, hevents] at hbalanced
  have hfound : s.viewContent me = s.dbContent me := hbalanced.eq_of_idle
  refine ⟨fun targetId => ?_, hfound⟩
  refine (List.perm_ext_iff_of_nodup (nodup_conversation h.nodup _)
    (nodup_conversation s.db.messages.nodup _)).2 ?_
  rintro ⟨id, e⟩
  have hid : contentOf me.userIdHex (fun id => lookupKey SavedChatMessage.id id s.view) id =
      contentOf me.userIdHex (fun id => lookupKey SavedChatMessage.id id s.db.messages.list) id := congrFun hfound id
  rw [mem_conversation h.nodup, mem_conversation s.db.messages.nodup, hid]

/-- In every run whose steps meet the conditions, the list shows what the database has whenever nothing is under way. -/
theorem run_mirrors (db : MessengerDb) (es : List (DesktopStep me))
    (h : Steps (fun s e => step J T s e) (fun s e => Fits J s e) (start db) es)
    (hquiet : (run (fun s e => step J T s e) (start db) es).Quiet) :
    (run (fun s e => step J T s e) (start db) es).Mirrors me :=
  (run_invariant (I := Synced me) (fun _ e hs he => synced_step J T hs e he) (synced_start db) h).mirrors hquiet

end Model

/-! ## Alice's computer -/

namespace AlicesDesktop

open NodeX.Sample

def fromBob : SavedChatMessage :=
  { id := "m1", senderIdHex := bob.userIdHex, recipientIdHex := alice.userIdHex, text := "Hi", timestamp := 1700000000
    incoming := true, delivered := true }

def chat : Chat := { activeTargetId := some bob.userIdHex }

/-- Alice likes what Bob wrote. -/
def liked : List (DesktopStep alice) := [.user chat (.reactMessage "m1" "👍"), .task 0 {}]

/-- Alice writes to Bob. -/
def hello : List (DesktopStep alice) :=
  [.user chat (.sendMessage (.message "Hello Bob" none) "00" 1700000000), .task 0 { now := 1700000000, random := 7 }]

theorem fits_liked : Steps (fun s e => step (Talk.json []) Talk.presenceText s e) (fun s e => Fits (Talk.json []) s e)
    (start (MessengerDb.addMessage {} fromBob)) liked := by
  refine ⟨⟨?_, fun _ => ⟨⟨?_, ?_⟩, ?_⟩⟩, trivial, trivial⟩
  · intro h
    cases h
  · rintro call hcall
    cases hcall
  · rintro event hevent
    cases hevent
  · intro m hm _
    have hfound : (start (MessengerDb.addMessage {} fromBob)).shown? "m1" = some fromBob := by decide +kernel
    obtain rfl := Option.some.inj (hfound.symm.trans hm)
    decide

end AlicesDesktop

open NodeX.Sample AlicesDesktop

theorem run_mirrors_liked :
    (run (fun s e => step (Talk.json []) Talk.presenceText s e) (start (MessengerDb.addMessage {} fromBob))
        liked).Quiet ∧
      (run (fun s e => step (Talk.json []) Talk.presenceText s e) (start (MessengerDb.addMessage {} fromBob))
        liked).Mirrors alice :=
  ⟨⟨rfl, rfl⟩, run_mirrors _ _ _ _ fits_liked ⟨rfl, rfl⟩⟩

/-- A message is shown under one id and stored under another: its receipt finds it only in the database. -/
theorem run_mirrors_hello :
    (run (fun s e => step (Talk.json []) Talk.presenceText s e) (start {}) hello).Quiet ∧
      ¬(run (fun s e => step (Talk.json []) Talk.presenceText s e) (start {}) hello).Mirrors alice ∧
      ((run (fun s e => step (Talk.json []) Talk.presenceText s e) (start {}) hello).db.message?
        Talk.messageId).isSome ∧
      (run (fun s e => step (Talk.json []) Talk.presenceText s e) (start {}) hello).shown? Talk.messageId = none := by
  refine ⟨⟨List.isEmpty_iff.1 (by decide +kernel), List.isEmpty_iff.1 (by decide +kernel)⟩, fun h => ?_,
    by decide +kernel, by decide +kernel⟩
  have hshown : ((run (fun s e => step (Talk.json []) Talk.presenceText s e) (start {}) hello).viewContent alice
      "msg_00").isSome = true := by decide +kernel
  have hstored : ((run (fun s e => step (Talk.json []) Talk.presenceText s e) (start {}) hello).dbContent alice
      "msg_00").isSome = false := by decide +kernel
  rw [h.found, hstored] at hshown
  cases hshown

end Desktop

end NodeX.Gui
