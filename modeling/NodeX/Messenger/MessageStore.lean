/-
The message store as the source keeps it: a `Vec` of messages, searched for the first with an id,
and the sets of pinned and deleted ids. Its twelve operations refine those of the database, where
the ids are distinct by type; so the ids of the `Vec` are distinct, none is deleted, and what a
delete operation removed does not come back.
-/
import NodeX.Lib.Runs
import NodeX.Messenger.Db

namespace NodeX.Messenger

open NodeX.Lib

/-! ## The store -/

/-- The fields of `MessengerDb` that the message operations use, with `messages` a plain list. -/
structure MessageStore where
  contacts : Finmap fun _ : String => SavedContact := ∅
  messages : List SavedChatMessage := []
  pinnedMessageIds : Finset String := ∅
  deletedMessageIds : Finset String := ∅
deriving DecidableEq

namespace MessageStore

/-- The first message with an id, and where it is. -/
def find (s : MessageStore) (messageId : String) : Option (ℕ × SavedChatMessage) :=
  locate SavedChatMessage.id messageId s.messages

def addMessage (s : MessageStore) (msg : SavedChatMessage) : MessageStore :=
  if msg.id ∈ s.deletedMessageIds then s
  else
    match s.find msg.id with
    | some (pos, _) => { s with messages := s.messages.set pos msg }
    | none => { s with messages := s.messages ++ [msg] }

def markMessageDelivered (s : MessageStore) (messageId : String) : MessageStore :=
  match s.find messageId with
  | some (pos, msg) => { s with messages := s.messages.set pos msg.markDelivered }
  | none => s

def editMessage (s : MessageStore) (messageId newText : String) (editTs : Nat) : MessageStore × Bool :=
  match s.find messageId with
  | some (pos, msg) => ({ s with messages := s.messages.set pos (msg.edit newText editTs) }, true)
  | none => (s, false)

def editMessageByAuthor (s : MessageStore) (messageId newText : String) (editTs : Nat) (authorHex : String) :
    MessageStore × Bool :=
  match s.find messageId with
  | some (pos, msg) =>
    if msg.senderIdHex ≠ authorHex then (s, false)
    else ({ s with messages := s.messages.set pos (msg.edit newText editTs) }, true)
  | none => (s, false)

def addReaction (s : MessageStore) (messageId emoji reactorId : String) : MessageStore × Bool :=
  match s.find messageId with
  | some (pos, msg) => ({ s with messages := s.messages.set pos (msg.addReaction emoji reactorId) }, true)
  | none => (s, false)

/-- The new state of the pin, `false` without such a message. -/
def togglePinMessage (s : MessageStore) (messageId : String) : MessageStore × Bool :=
  match s.find messageId with
  | some (pos, msg) =>
    let msg' := msg.togglePin
    ({ s with
      messages := s.messages.set pos msg'
      pinnedMessageIds :=
        if msg'.isPinned then insert messageId s.pinnedMessageIds else s.pinnedMessageIds.erase messageId },
      msg'.isPinned)
  | none => (s, false)

/-- How many messages went. -/
def cleanupExpiredMessages (s : MessageStore) (currentTs : Nat) : MessageStore × Nat :=
  let kept := s.messages.filter (·.isLive currentTs)
  ({ s with messages := kept }, s.messages.length - kept.length)

/-- The ids of `ids`, one after the other, into `deleted_message_ids` and out of `pinned_message_ids`. -/
def markDeleted (s : MessageStore) (ids : List String) : MessageStore :=
  ids.foldl (fun s id =>
    { s with
      deletedMessageIds := insert id s.deletedMessageIds
      pinnedMessageIds := s.pinnedMessageIds.erase id }) s

def deleteMessage (s : MessageStore) (messageId : String) : MessageStore :=
  let s := s.markDeleted [messageId]
  { s with messages := s.messages.filter fun m => m.id ≠ messageId }

def deleteMessages (s : MessageStore) (messageIds : List String) : MessageStore :=
  let s := s.markDeleted messageIds
  { s with messages := s.messages.filter fun m => m.id ∉ messageIds }

/-- The ids that were deleted, in the order given. -/
def deleteMessagesByAuthor (s : MessageStore) : List String → String → MessageStore × List String
  | [], _ => (s, [])
  | id :: messageIds, authorHex =>
    match s.find id with
    | some (pos, msg) =>
      if msg.senderIdHex = authorHex then
        let s := s.markDeleted [id]
        let (s, deleted) := { s with messages := s.messages.eraseIdx pos }.deleteMessagesByAuthor messageIds authorHex
        (s, id :: deleted)
      else s.deleteMessagesByAuthor messageIds authorHex
    | none => s.deleteMessagesByAuthor messageIds authorHex

def clearMessagesForContact (s : MessageStore) (contactIdHex : String) : MessageStore :=
  let s := s.markDeleted ((s.messages.filter (·.inConversation contactIdHex)).map (·.id))
  { s with
    messages := s.messages.filter fun m =>
      m.groupId.isSome || (m.senderIdHex ≠ contactIdHex && m.recipientIdHex ≠ contactIdHex) }

def deleteContact (s : MessageStore) (contactIdHex : String) : MessageStore :=
  { s with contacts := s.contacts.erase contactIdHex }.clearMessagesForContact contactIdHex

end MessageStore

/-- The message operations, with their arguments. -/
inductive StoreOp where
  | addMessage (msg : SavedChatMessage)
  | editMessage (messageId newText : String) (editTs : Nat)
  | editMessageByAuthor (messageId newText : String) (editTs : Nat) (authorHex : String)
  | markMessageDelivered (messageId : String)
  | addReaction (messageId emoji reactorId : String)
  | togglePinMessage (messageId : String)
  | cleanupExpiredMessages (currentTs : Nat)
  | deleteMessage (messageId : String)
  | deleteMessages (messageIds : List String)
  | deleteMessagesByAuthor (messageIds : List String) (authorHex : String)
  | clearMessagesForContact (contactIdHex : String)
  | deleteContact (contactIdHex : String)
deriving DecidableEq

namespace StoreOp

/-- The operations that delete, rather than let expire. -/
def isDelete : StoreOp → Bool
  | deleteMessage _ | deleteMessages _ | deleteMessagesByAuthor .. | clearMessagesForContact _ | deleteContact _ => true
  | _ => false

/-- The store after an operation, whatever it answers. -/
def apply (s : MessageStore) : StoreOp → MessageStore
  | addMessage msg => s.addMessage msg
  | editMessage id text ts => (s.editMessage id text ts).1
  | editMessageByAuthor id text ts author => (s.editMessageByAuthor id text ts author).1
  | markMessageDelivered id => s.markMessageDelivered id
  | addReaction id emoji reactor => (s.addReaction id emoji reactor).1
  | togglePinMessage id => (s.togglePinMessage id).1
  | cleanupExpiredMessages now => (s.cleanupExpiredMessages now).1
  | deleteMessage id => s.deleteMessage id
  | deleteMessages ids => s.deleteMessages ids
  | deleteMessagesByAuthor ids author => (s.deleteMessagesByAuthor ids author).1
  | clearMessagesForContact c => s.clearMessagesForContact c
  | deleteContact c => s.deleteContact c

/-- The same operation on the database. -/
def onDb (db : MessengerDb) : StoreOp → MessengerDb
  | addMessage msg => db.addMessage msg
  | editMessage id text ts => (db.editMessage id text ts).1
  | editMessageByAuthor id text ts author => (db.editMessageByAuthor id text ts author).1
  | markMessageDelivered id => db.markMessageDelivered id
  | addReaction id emoji reactor => db.addReaction id emoji reactor
  | togglePinMessage id => db.togglePinMessage id
  | cleanupExpiredMessages now => db.cleanupExpiredMessages now
  | deleteMessage id => db.deleteMessage id
  | deleteMessages ids => db.deleteMessages ids
  | deleteMessagesByAuthor ids author => (db.deleteMessagesByAuthor ids author).1
  | clearMessagesForContact c => db.clearMessagesForContact c
  | deleteContact c => db.deleteContact c

end StoreOp

/-! ## The store refines the database -/

/-- What the store keeps of a database. -/
def MessengerDb.store (db : MessengerDb) : MessageStore where
  contacts := db.contacts
  messages := db.messages.list
  pinnedMessageIds := db.pinnedMessageIds
  deletedMessageIds := db.deletedMessageIds

namespace MessageStore

theorem markDeleted_eq (s : MessageStore) (ids : List String) :
    s.markDeleted ids =
      { s with
        deletedMessageIds := s.deletedMessageIds ∪ ids.toFinset
        pinnedMessageIds := s.pinnedMessageIds \ ids.toFinset } := by
  induction ids generalizing s with
  | nil => simp [markDeleted]
  | cons id ids ih =>
    unfold markDeleted at ih ⊢
    rw [List.foldl_cons, ih]
    simp only [List.toFinset_cons, mk.injEq, true_and]
    constructor
    · rw [Finset.sdiff_insert, Finset.erase_sdiff_comm]
    · rw [Finset.insert_union, Finset.union_insert]

variable (db : MessengerDb)

theorem find_store (id : String) : (db.store.find id).map Prod.snd = db.message? id :=
  map_snd_locate SavedChatMessage.id id db.messages.list

/-- An operation that changes the first message with an id, on both sides. -/
theorem modify_store {id : String} {pos : ℕ} {msg : SavedChatMessage} (h : db.store.find id = some (pos, msg))
    (f : SavedChatMessage → SavedChatMessage) (hf : ∀ m, (f m).id = m.id) :
    (db.modifyMessage id f hf).store = { db.store with messages := db.store.messages.set pos (f msg) } := by
  show MessageStore.mk _ (modifyKey _ id f db.store.messages) _ _ = _
  rw [modifyKey_of_locate SavedChatMessage.id f h]
  rfl

theorem modify_store_none {id : String} (h : db.store.find id = none) (f : SavedChatMessage → SavedChatMessage)
    (hf : ∀ m, (f m).id = m.id) : (db.modifyMessage id f hf).store = db.store := by
  show MessageStore.mk _ (modifyKey _ id f db.store.messages) _ _ = _
  rw [modifyKey_of_locate_none SavedChatMessage.id f h]
  rfl

theorem message?_of_find {id : String} {pos : ℕ} {msg : SavedChatMessage} (h : db.store.find id = some (pos, msg)) :
    db.message? id = some msg := by rw [← find_store, h]; rfl

theorem message?_of_find_none {id : String} (h : db.store.find id = none) : db.message? id = none := by
  rw [← find_store, h]; rfl

theorem addMessage_store (msg : SavedChatMessage) : (db.addMessage msg).store = db.store.addMessage msg := by
  unfold MessengerDb.addMessage MessageStore.addMessage
  by_cases hd : msg.id ∈ db.deletedMessageIds
  · rw [if_pos hd, if_pos (show msg.id ∈ db.store.deletedMessageIds from hd)]
  · rw [if_neg hd, if_neg (show msg.id ∉ db.store.deletedMessageIds from hd)]
    show MessageStore.mk _ (upsert _ msg db.store.messages) _ _ = _
    cases h : db.store.find msg.id with
    | none => rw [upsert_of_locate_none SavedChatMessage.id h]; rfl
    | some p => rw [upsert_of_locate SavedChatMessage.id h]; rfl

theorem markMessageDelivered_store (id : String) :
    (db.markMessageDelivered id).store = db.store.markMessageDelivered id := by
  unfold MessageStore.markMessageDelivered
  cases h : db.store.find id with
  | none => exact modify_store_none db h _ _
  | some p => exact modify_store db h _ _

theorem editMessage_store (id text : String) (ts : Nat) :
    (db.editMessage id text ts).1.store = (db.store.editMessage id text ts).1 := by
  unfold MessengerDb.editMessage MessageStore.editMessage
  cases h : db.store.find id with
  | none => rw [message?_of_find_none db h]
  | some p =>
    rw [message?_of_find db h]
    exact modify_store db h _ _

theorem editMessageByAuthor_store (id text : String) (ts : Nat) (author : String) :
    (db.editMessageByAuthor id text ts author).1.store = (db.store.editMessageByAuthor id text ts author).1 := by
  unfold MessengerDb.editMessageByAuthor MessageStore.editMessageByAuthor
  cases h : db.store.find id with
  | none => rw [message?_of_find_none db h]
  | some p =>
    rw [message?_of_find db h]
    dsimp only
    split
    · rfl
    · exact modify_store db h _ _

theorem addReaction_store (id emoji reactor : String) :
    (db.addReaction id emoji reactor).store = (db.store.addReaction id emoji reactor).1 := by
  unfold MessageStore.addReaction
  cases h : db.store.find id with
  | none => exact modify_store_none db h _ _
  | some p => exact modify_store db h _ _

theorem togglePinMessage_store (id : String) :
    (db.togglePinMessage id).store = (db.store.togglePinMessage id).1 := by
  unfold MessengerDb.togglePinMessage MessageStore.togglePinMessage
  cases h : db.store.find id with
  | none => rw [message?_of_find_none db h]
  | some p =>
    obtain ⟨pos, msg⟩ := p
    rw [message?_of_find db h]
    have hm := modify_store db h .togglePin SavedChatMessage.id_togglePin
    have hmsgs := congrArg MessageStore.messages hm
    show MessageStore.mk _ (db.modifyMessage id .togglePin SavedChatMessage.id_togglePin).store.messages _ _ = _
    rw [hmsgs]
    cases hp : msg.isPinned <;> simp [SavedChatMessage.togglePin, hp, MessengerDb.store, MessengerDb.modifyMessage]

theorem deleteMessages_store (ids : List String) : (db.deleteMessages ids).store = db.store.deleteMessages ids := by
  unfold MessageStore.deleteMessages
  rw [markDeleted_eq]
  rfl

theorem deleteMessage_store (id : String) : (db.deleteMessage id).store = db.store.deleteMessage id :=
  rfl

theorem deleteMessagesByAuthor_store : ∀ (db : MessengerDb) (ids : List String) (author : String),
    (db.deleteMessagesByAuthor ids author).1.store = (db.store.deleteMessagesByAuthor ids author).1
  | db, [], author => rfl
  | db, id :: ids, author => by
    have ih := deleteMessagesByAuthor_store (db.deleteByAuthor id author).1 ids author
    unfold MessengerDb.deleteMessagesByAuthor MessageStore.deleteMessagesByAuthor
    dsimp only
    rw [ih]
    cases h : db.store.find id with
    | none =>
      unfold MessengerDb.deleteByAuthor
      rw [message?_of_find_none db h]
    | some p =>
      obtain ⟨pos, msg⟩ := p
      unfold MessengerDb.deleteByAuthor
      rw [message?_of_find db h]
      dsimp only
      split
      · -- the message at `pos` is the one stored under `id`
        have herase : eraseKey SavedChatMessage.id id db.messages.list = db.messages.list.eraseIdx pos :=
          eraseKey_of_locate SavedChatMessage.id h
        have hone : MessengerDb.store { db with
            deletedMessageIds := insert id db.deletedMessageIds
            pinnedMessageIds := db.pinnedMessageIds.erase id
            messages := db.messages.erase id } =
            { db.store.markDeleted [id] with messages := db.store.messages.eraseIdx pos } := by
          show MessageStore.mk _ (eraseKey _ id db.messages.list) _ _ = _
          rw [herase]
          rfl
        rw [hone]
        rfl
      · rfl

theorem clearMessagesForContact_store (c : String) :
    (db.clearMessagesForContact c).store = db.store.clearMessagesForContact c := by
  unfold MessageStore.clearMessagesForContact
  rw [markDeleted_eq]
  have hkeep : ∀ m : SavedChatMessage,
      (m.groupId.isSome || (m.senderIdHex ≠ c && m.recipientIdHex ≠ c)) = !m.inConversation c := by
    intro m
    unfold SavedChatMessage.inConversation
    cases m.groupId <;> simp
  simp only [hkeep]
  rfl

theorem deleteContact_store (c : String) : (db.deleteContact c).store = db.store.deleteContact c :=
  clearMessagesForContact_store { db with contacts := db.contacts.erase c } c

/-- Every operation does to the `Vec` what it does to the database. -/
theorem apply_store (op : StoreOp) : (op.onDb db).store = op.apply db.store := by
  cases op with
  | addMessage msg => exact addMessage_store db msg
  | editMessage id text ts => exact editMessage_store db id text ts
  | editMessageByAuthor id text ts author => exact editMessageByAuthor_store db id text ts author
  | markMessageDelivered id => exact markMessageDelivered_store db id
  | addReaction id emoji reactor => exact addReaction_store db id emoji reactor
  | togglePinMessage id => exact togglePinMessage_store db id
  | cleanupExpiredMessages now => rfl
  | deleteMessage id => exact deleteMessage_store db id
  | deleteMessages ids => exact deleteMessages_store db ids
  | deleteMessagesByAuthor ids author => exact deleteMessagesByAuthor_store db ids author
  | clearMessagesForContact c => exact clearMessagesForContact_store db c
  | deleteContact c => exact deleteContact_store db c

end MessageStore

/-! ## What the deleted ids say -/

/-- What an operation does to the stored and the deleted ids: it forgets no deleted id, what is
stored after it was not deleted by it and was not brought back, and a delete operation marks what
it removes. -/
structure StoreOp.Effect (isDelete : Bool) (db db' : MessengerDb) : Prop where
  grow : ∀ k ∈ db.deletedMessageIds, k ∈ db'.deletedMessageIds
  kept : ∀ k, (db'.message? k).isSome = true → k ∈ db'.deletedMessageIds → k ∈ db.deletedMessageIds
  stored : ∀ k, (db'.message? k).isSome = true → k ∈ db.deletedMessageIds → (db.message? k).isSome = true
  removed : isDelete = true → ∀ k, (db.message? k).isSome = true → (db'.message? k).isSome = false →
    k ∈ db'.deletedMessageIds

namespace StoreOp

/-- An operation that leaves the deleted ids alone and stores nothing under one of them. -/
theorem Effect.of_frame {db db' : MessengerDb} (hd : db'.deletedMessageIds = db.deletedMessageIds)
    (hm : ∀ k ∈ db.deletedMessageIds, (db'.message? k).isSome = true → (db.message? k).isSome = true) :
    Effect false db db' where
  grow k hk := by rwa [hd]
  kept k _ hk := by rwa [hd] at hk
  stored k hs hk := hm k hk hs
  removed h := by cases h

/-- An operation that changes one message in place. -/
theorem Effect.of_map {db db' : MessengerDb} (hd : db'.deletedMessageIds = db.deletedMessageIds) {id : String}
    {f : SavedChatMessage → SavedChatMessage}
    (hm : ∀ k, db'.message? k = if id = k then (db.message? k).map f else db.message? k) :
    Effect false db db' := by
  refine .of_frame hd fun k _ hs => ?_
  rw [hm] at hs
  split at hs
  · rwa [Option.isSome_map] at hs
  · exact hs

/-- An operation that marks the ids of `D` deleted and removes what is stored under these alone. -/
theorem Effect.of_delete {db db' : MessengerDb} (D : String → Prop)
    (hd : ∀ k, k ∈ db'.deletedMessageIds ↔ k ∈ db.deletedMessageIds ∨ D k)
    (hgone : ∀ k, D k → db'.message? k = none) (hkeep : ∀ k, ¬D k → db'.message? k = db.message? k) :
    Effect true db db' where
  grow k hk := (hd k).2 (.inl hk)
  kept k hs hk := by
    rcases (hd k).1 hk with h | h
    · exact h
    · rw [hgone k h] at hs; cases hs
  stored k hs _ := by
    by_cases h : D k
    · rw [hgone k h] at hs; cases hs
    · rwa [hkeep k h] at hs
  removed _ k hs hn := by
    refine (hd k).2 (.inr (by_contra fun h => ?_))
    rw [hkeep k h, hs] at hn
    cases hn

theorem effect_clearMessagesForContact (db : MessengerDb) (c : String) :
    Effect true db (db.clearMessagesForContact c) := by
  refine .of_delete (fun k => ∃ m, db.message? k = some m ∧ m.inConversation c = true)
    (db.mem_deletedMessageIds_clearMessagesForContact c) ?_ ?_
  · rintro k ⟨m, hm, hc⟩
    rw [MessengerDb.message?_clearMessagesForContact, hm]
    simp [Option.filter, hc]
  · intro k hk
    rw [MessengerDb.message?_clearMessagesForContact]
    cases hm : db.message? k with
    | none => rfl
    | some m =>
      have hc : m.inConversation c = false := by simpa using fun h => hk ⟨m, hm, h⟩
      simp [Option.filter, hc]

theorem effect_deleteMessagesByAuthor (db : MessengerDb) (ids : List String) (author : String) :
    Effect true db (db.deleteMessagesByAuthor ids author).1 := by
  refine .of_delete (fun k => k ∈ ids ∧ ∃ m, db.message? k = some m ∧ m.senderIdHex = author)
    (MessengerDb.mem_deletedMessageIds_deleteMessagesByAuthor db ids author) ?_ ?_
  · rintro k ⟨hk, m, hm, ha⟩
    rw [MessengerDb.message?_deleteMessagesByAuthor, if_pos hk, hm]
    simp [Option.filter, ha]
  · intro k hk
    rw [MessengerDb.message?_deleteMessagesByAuthor]
    split
    · rename_i hmem
      cases hm : db.message? k with
      | none => rfl
      | some m =>
        have ha : m.senderIdHex ≠ author := fun h => hk ⟨hmem, m, hm, h⟩
        simp [Option.filter, ha]
    · rfl

theorem effect (db : MessengerDb) (op : StoreOp) : Effect op.isDelete db (op.onDb db) := by
  cases op with
  | addMessage msg =>
    refine .of_frame (db.frame_addMessage msg).1 fun k hk hs => ?_
    have hs : ((db.addMessage msg).message? k).isSome = true := hs
    rw [MessengerDb.message?_addMessage] at hs
    split at hs
    · rename_i h
      exact absurd (h.1 ▸ hk) h.2
    · exact hs
  | editMessage id text ts =>
    refine .of_map ?_ (db.message?_editMessage id text ts)
    show (db.editMessage id text ts).1.deletedMessageIds = _
    unfold MessengerDb.editMessage
    split <;> rfl
  | editMessageByAuthor id text ts author =>
    exact .of_map (db.frame_editMessageByAuthor id text ts author).1 (db.message?_editMessageByAuthor id text ts author)
  | markMessageDelivered id => exact .of_map rfl (db.message?_markMessageDelivered id)
  | addReaction id emoji reactor => exact .of_map rfl (db.message?_addReaction id emoji reactor)
  | togglePinMessage id =>
    refine .of_map ?_ (db.message?_togglePinMessage id)
    show (db.togglePinMessage id).deletedMessageIds = _
    unfold MessengerDb.togglePinMessage
    split <;> rfl
  | cleanupExpiredMessages now =>
    refine .of_frame rfl fun k _ hs => ?_
    have hs : ((db.cleanupExpiredMessages now).message? k).isSome = true := hs
    rw [MessengerDb.message?_cleanupExpiredMessages] at hs
    exact Option.isSome_of_isSome_filter _ _ hs
  | deleteMessage id =>
    refine .of_delete (· = id) ?_ ?_ ?_
    · intro k
      show k ∈ insert id db.deletedMessageIds ↔ _
      rw [Finset.mem_insert, or_comm]
    · rintro k rfl
      exact (db.message?_deleteMessage k k).trans (if_pos rfl)
    · intro k hk
      exact (db.message?_deleteMessage id k).trans (if_neg fun h => hk h.symm)
  | deleteMessages ids =>
    refine .of_delete (· ∈ ids) ?_ ?_ ?_
    · intro k
      show k ∈ db.deletedMessageIds ∪ ids.toFinset ↔ _
      rw [Finset.mem_union, List.mem_toFinset]
    · intro k hk
      exact (db.message?_deleteMessages ids k).trans (if_pos hk)
    · intro k hk
      exact (db.message?_deleteMessages ids k).trans (if_neg hk)
  | deleteMessagesByAuthor ids author => exact effect_deleteMessagesByAuthor db ids author
  | clearMessagesForContact c => exact effect_clearMessagesForContact db c
  | deleteContact c =>
    -- the contacts are not part of what `Effect` speaks of
    obtain ⟨hg, hk, hs, hr⟩ := effect_clearMessagesForContact { db with contacts := db.contacts.erase c } c
    exact ⟨hg, hk, hs, hr⟩

end StoreOp

/-! ## Runs of the store -/

namespace MessengerDb

/-- No stored message is marked deleted. -/
def Undeleted (db : MessengerDb) : Prop := ∀ k, (db.message? k).isSome = true → k ∉ db.deletedMessageIds

theorem undeleted_onDb {db : MessengerDb} (h : db.Undeleted) (op : StoreOp) : (op.onDb db).Undeleted := by
  intro k hs hk
  have he := op.effect db
  have hk := he.kept k hs hk
  exact h k (he.stored k hs hk) hk

/-- Absent and marked deleted: what a delete operation leaves under an id it removes. -/
def Gone (k : String) (db : MessengerDb) : Prop := k ∈ db.deletedMessageIds ∧ db.message? k = none

theorem gone_onDb {k : String} {db : MessengerDb} (h : db.Gone k) (op : StoreOp) : (op.onDb db).Gone k := by
  have he := op.effect db
  refine ⟨he.grow k h.1, ?_⟩
  by_contra hs
  have hbefore := he.stored k (Option.isSome_iff_ne_none.2 hs) h.1
  rw [h.2] at hbefore
  cases hbefore

theorem gone_of_delete {k : String} {db : MessengerDb} {op : StoreOp} (hop : op.isDelete = true)
    (hs : (db.message? k).isSome = true) (hn : (op.onDb db).message? k = none) : (op.onDb db).Gone k := by
  refine ⟨(op.effect db).removed hop k hs ?_, hn⟩
  rw [hn]
  rfl

end MessengerDb

namespace MessageStore

/-- The stored ids, in order. -/
def ids (s : MessageStore) : List String := s.messages.map (·.id)

/-- The ids are distinct, and none of them is deleted. -/
structure Sound (s : MessageStore) : Prop where
  distinct : s.ids.Nodup
  undeleted : ∀ k ∈ s.ids, k ∉ s.deletedMessageIds

theorem mem_ids_store {db : MessengerDb} {k : String} : k ∈ db.store.ids ↔ (db.message? k).isSome = true := by
  unfold ids MessengerDb.store
  rw [List.mem_map, Option.isSome_iff_exists]
  constructor
  · rintro ⟨m, hm, rfl⟩
    exact ⟨m, KeyedList.mem_iff_get?.1 hm⟩
  · rintro ⟨m, hm⟩
    exact ⟨m, KeyedList.mem_of_get? hm, MessengerDb.id_of_message? hm⟩

/-- A run from the empty store is what a run from the empty database keeps. -/
theorem run_store (db : MessengerDb) (ops : List StoreOp) :
    run StoreOp.apply db.store ops = (run StoreOp.onDb db ops).store :=
  (run_map MessengerDb.store apply_store db ops).symm

theorem undeleted_run (ops : List StoreOp) : (run StoreOp.onDb {} ops).Undeleted := by
  refine run_induction (I := MessengerDb.Undeleted) (fun _ op h => MessengerDb.undeleted_onDb h op) ops ?_
  intro k hs
  cases hs

theorem gone_run {k : String} {db : MessengerDb} (h : db.Gone k) (ops : List StoreOp) :
    (run StoreOp.onDb db ops).Gone k :=
  run_induction (I := MessengerDb.Gone k) (fun _ op hg => MessengerDb.gone_onDb hg op) ops h

theorem sound_of_undeleted {db : MessengerDb} (h : db.Undeleted) : db.store.Sound where
  distinct := db.messages.nodup
  undeleted k hk := h k (mem_ids_store.1 hk)

/-- From the empty store, after any operations: the stored ids are distinct and none is marked
deleted; and an id that a delete operation removes is not stored again, whatever comes after. -/
theorem run_sound (ops : List StoreOp) :
    (run StoreOp.apply {} ops).Sound ∧
      ∀ (op : StoreOp) (k : String), op.isDelete = true → k ∈ (run StoreOp.apply {} ops).ids →
        k ∉ (op.apply (run StoreOp.apply {} ops)).ids →
          ∀ later : List StoreOp, k ∉ (run StoreOp.apply {} (ops ++ op :: later)).ids := by
  have hstart : ({} : MessageStore) = ({} : MessengerDb).store := rfl
  rw [hstart, run_store]
  refine ⟨sound_of_undeleted (undeleted_run ops), fun op k hop hk hgone later => ?_⟩
  rw [run_store, run_append, run_cons]
  rw [← apply_store, mem_ids_store, Option.not_isSome_iff_eq_none] at hgone
  have h := gone_run (MessengerDb.gone_of_delete hop (mem_ids_store.1 hk) hgone) later
  rw [mem_ids_store, h.2]
  simp

/-- A message that is edited and retracted by its author, and then comes again. -/
theorem run_sound_retracted :
    let m : SavedChatMessage :=
      { id := "m1", senderIdHex := "b0", recipientIdHex := "a0", text := "hi", timestamp := 5, incoming := true,
        delivered := false }
    "m1" ∉ (run StoreOp.apply {}
      [.addMessage m, .editMessageByAuthor "m1" "ho" 6 "b0", .deleteMessagesByAuthor ["m1"] "b0",
        .addMessage m]).ids := by
  intro m
  exact (run_sound [.addMessage m, .editMessageByAuthor "m1" "ho" 6 "b0"]).2 (.deleteMessagesByAuthor ["m1"] "b0") "m1"
    rfl (by decide) (by decide) [.addMessage m]

end MessageStore

end NodeX.Messenger
