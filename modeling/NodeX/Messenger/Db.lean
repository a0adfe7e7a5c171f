/-
The messenger database in memory: contacts, messages with at most one under each id, groups, and
the sets of pinned, deleted, blocked and remotely retracted ids, with the operations on them and
what each does to the message stored under an id.
-/
import NodeX.Lib.Keyed
import NodeX.Messenger.Types

namespace NodeX.Messenger

open NodeX.Lib

/-! ## The database -/

structure MessengerDb where
  userSeed : Bytes := List.replicate 32 0
  mnemonic : String := ""
  displayName : String := ""
  bio : String := ""
  contacts : Finmap fun _ : String => SavedContact := ∅
  messages : KeyedList SavedChatMessage.id := ∅
  groups : Finmap fun _ : String => P2PGroup := ∅
  pinnedMessageIds : Finset String := ∅
  deletedMessageIds : Finset String := ∅
  blockedUserIds : Finset String := ∅
  pendingTombstones : Finset (String × String) := ∅
deriving DecidableEq

/-! ## Changes to one message -/

namespace SavedChatMessage

def markDelivered (m : SavedChatMessage) : SavedChatMessage := { m with delivered := true }

def edit (newText : String) (editTs : Nat) (m : SavedChatMessage) : SavedChatMessage :=
  { m with text := newText, isEdited := true, editTimestamp := some editTs }

def togglePin (m : SavedChatMessage) : SavedChatMessage := { m with isPinned := !m.isPinned }

/-- One reaction per reactor: earlier ones are dropped, and emoji left without reactors. -/
def addReaction (emoji reactorId : String) (m : SavedChatMessage) : SavedChatMessage :=
  let kept := (m.reactions.map fun p => (p.1, p.2.filter (· ≠ reactorId))).filter fun p => !p.2.isEmpty
  { m with
    reactions := match lookupKey Prod.fst emoji kept with
      | some _ => modifyKey Prod.fst emoji (fun p => (p.1, p.2 ++ [reactorId])) kept
      | none => kept ++ [(emoji, [reactorId])] }

/-- `expires_at` is not past. -/
def isLive (currentTs : Nat) (m : SavedChatMessage) : Bool := m.expiresAt.all (currentTs < ·)

/-- A message of the direct conversation with a contact. -/
def inConversation (contactIdHex : String) (m : SavedChatMessage) : Bool :=
  m.groupId.isNone && (m.senderIdHex = contactIdHex || m.recipientIdHex = contactIdHex)

variable (m : SavedChatMessage)

@[simp] theorem id_markDelivered : m.markDelivered.id = m.id := rfl
@[simp] theorem id_edit (text : String) (ts : Nat) : (m.edit text ts).id = m.id := rfl
@[simp] theorem id_togglePin : m.togglePin.id = m.id := rfl
@[simp] theorem id_addReaction (emoji reactor : String) : (m.addReaction emoji reactor).id = m.id := rfl

end SavedChatMessage

namespace MessengerDb

/-- The message stored under an id. -/
def message? (db : MessengerDb) (id : String) : Option SavedChatMessage := db.messages.get? id

def registerPendingTombstones (db : MessengerDb) (authorHex : String) (messageIds : List String) : MessengerDb :=
  { db with pendingTombstones := db.pendingTombstones ∪ (messageIds.map fun id => (authorHex, id)).toFinset }

/-- Deleted by anyone, or retracted by this author before it came. -/
def isTombstoned (db : MessengerDb) (authorHex messageId : String) : Bool :=
  messageId ∈ db.deletedMessageIds || (authorHex, messageId) ∈ db.pendingTombstones

def isBlocked (db : MessengerDb) (userIdHex : String) : Bool := userIdHex ∈ db.blockedUserIds

def blockUser (db : MessengerDb) (userIdHex : String) : MessengerDb :=
  { db with blockedUserIds := insert userIdHex db.blockedUserIds }

def unblockUser (db : MessengerDb) (userIdHex : String) : MessengerDb :=
  { db with blockedUserIds := db.blockedUserIds.erase userIdHex }

def addContact (db : MessengerDb) (contact : SavedContact) : MessengerDb :=
  { db with contacts := db.contacts.insert contact.userIdHex contact }

def addGroup (db : MessengerDb) (group : P2PGroup) : MessengerDb :=
  { db with groups := db.groups.insert group.groupId group }

/-- Nothing for a deleted id; else in place of the message with that id, or at the end. -/
def addMessage (db : MessengerDb) (msg : SavedChatMessage) : MessengerDb :=
  if msg.id ∈ db.deletedMessageIds then db else { db with messages := db.messages.upsert msg }

/-- The message with an id, changed in place. -/
def modifyMessage (db : MessengerDb) (messageId : String) (f : SavedChatMessage → SavedChatMessage)
    (hf : ∀ m, (f m).id = m.id) : MessengerDb :=
  { db with messages := db.messages.modify messageId f hf }

def markMessageDelivered (db : MessengerDb) (messageId : String) : MessengerDb :=
  db.modifyMessage messageId .markDelivered SavedChatMessage.id_markDelivered

def editMessage (db : MessengerDb) (messageId newText : String) (editTs : Nat) : MessengerDb × Bool :=
  match db.message? messageId with
  | some _ => (db.modifyMessage messageId (.edit newText editTs) (·.id_edit newText editTs), true)
  | none => (db, false)

def editMessageByAuthor (db : MessengerDb) (messageId newText : String) (editTs : Nat) (authorHex : String) :
    MessengerDb × Bool :=
  match db.message? messageId with
  | some msg =>
    if msg.senderIdHex ≠ authorHex then (db, false)
    -- the time of an earlier edit is not asked for
    else (db.modifyMessage messageId (.edit newText editTs) (·.id_edit newText editTs), true)
  | none => (db, false)

def addReaction (db : MessengerDb) (messageId emoji reactorId : String) : MessengerDb :=
  db.modifyMessage messageId (.addReaction emoji reactorId) (·.id_addReaction emoji reactorId)

def togglePinMessage (db : MessengerDb) (messageId : String) : MessengerDb :=
  match db.message? messageId with
  | some msg =>
    { db.modifyMessage messageId .togglePin SavedChatMessage.id_togglePin with
      pinnedMessageIds :=
        if msg.isPinned then db.pinnedMessageIds.erase messageId else insert messageId db.pinnedMessageIds }
  | none => db

def cleanupExpiredMessages (db : MessengerDb) (currentTs : Nat) : MessengerDb :=
  { db with messages := db.messages.filter (·.isLive currentTs) }

def deleteMessages (db : MessengerDb) (messageIds : List String) : MessengerDb :=
  { db with
    deletedMessageIds := db.deletedMessageIds ∪ messageIds.toFinset
    pinnedMessageIds := db.pinnedMessageIds \ messageIds.toFinset
    messages := db.messages.filter fun m => m.id ∉ messageIds }

def deleteMessage (db : MessengerDb) (messageId : String) : MessengerDb :=
  { db with
    deletedMessageIds := insert messageId db.deletedMessageIds
    pinnedMessageIds := db.pinnedMessageIds.erase messageId
    messages := db.messages.filter fun m => m.id ≠ messageId }

/-- Remove the message with an id that this author sent; the rest of the loop's body is to keep the id. -/
def deleteByAuthor (db : MessengerDb) (id authorHex : String) : MessengerDb × List String :=
  match db.message? id with
  | some msg =>
    if msg.senderIdHex = authorHex then
      ({ db with
        deletedMessageIds := insert id db.deletedMessageIds
        pinnedMessageIds := db.pinnedMessageIds.erase id
        messages := db.messages.erase id }, [id])
    else (db, [])
  | none => (db, [])

def deleteMessagesByAuthor (db : MessengerDb) : List String → String → MessengerDb × List String
  | [], _ => (db, [])
  | id :: ids, authorHex =>
    let (db', deleted) := db.deleteByAuthor id authorHex
    let (db'', rest) := db'.deleteMessagesByAuthor ids authorHex
    (db'', deleted ++ rest)

def clearMessagesForContact (db : MessengerDb) (contactIdHex : String) : MessengerDb :=
  let cleared := ((db.messages.list.filter (·.inConversation contactIdHex)).map (·.id)).toFinset
  { db with
    deletedMessageIds := db.deletedMessageIds ∪ cleared
    pinnedMessageIds := db.pinnedMessageIds \ cleared
    messages := db.messages.filter fun m => !m.inConversation contactIdHex }

def deleteContact (db : MessengerDb) (contactIdHex : String) : MessengerDb :=
  { db with contacts := db.contacts.erase contactIdHex }.clearMessagesForContact contactIdHex

/-! ## The message stored under an id -/

variable (db : MessengerDb)

theorem id_of_message? {db : MessengerDb} {id : String} {m : SavedChatMessage} (h : db.message? id = some m) :
    m.id = id := KeyedList.key_of_get? h

@[simp] theorem message?_registerPendingTombstones (a : String) (ids : List String) (k : String) :
    (db.registerPendingTombstones a ids).message? k = db.message? k := rfl

@[simp] theorem message?_addContact (c : SavedContact) (k : String) :
    (db.addContact c).message? k = db.message? k := rfl

@[simp] theorem message?_addGroup (g : P2PGroup) (k : String) : (db.addGroup g).message? k = db.message? k := rfl

@[simp] theorem message?_blockUser (u k : String) : (db.blockUser u).message? k = db.message? k := rfl

@[simp] theorem message?_unblockUser (u k : String) : (db.unblockUser u).message? k = db.message? k := rfl

theorem message?_addMessage (msg : SavedChatMessage) (k : String) :
    (db.addMessage msg).message? k =
      if msg.id = k ∧ msg.id ∉ db.deletedMessageIds then some msg else db.message? k := by
  unfold addMessage
  by_cases hd : msg.id ∈ db.deletedMessageIds
  · simp [hd]
  · simp only [hd, if_false, not_false_eq_true, and_true]
    exact KeyedList.get?_upsert db.messages msg k

theorem message?_modifyMessage (id : String) (f : SavedChatMessage → SavedChatMessage) (hf : ∀ m, (f m).id = m.id)
    (k : String) :
    (db.modifyMessage id f hf).message? k = if id = k then (db.message? k).map f else db.message? k :=
  KeyedList.get?_modify db.messages id k f hf

theorem message?_markMessageDelivered (id k : String) :
    (db.markMessageDelivered id).message? k =
      if id = k then (db.message? k).map .markDelivered else db.message? k :=
  db.message?_modifyMessage id _ _ k

theorem message?_editMessage (id text : String) (ts : Nat) (k : String) :
    (db.editMessage id text ts).1.message? k =
      if id = k then (db.message? k).map (.edit text ts) else db.message? k := by
  unfold editMessage
  cases h : db.message? id with
  | none =>
    by_cases hk : id = k
    · subst hk; simp [h]
    · simp [hk]
  | some msg => exact db.message?_modifyMessage id _ _ k

theorem message?_editMessageByAuthor (id text : String) (ts : Nat) (author k : String) :
    (db.editMessageByAuthor id text ts author).1.message? k =
      if id = k then (db.message? k).map (fun m => if m.senderIdHex = author then m.edit text ts else m)
      else db.message? k := by
  unfold editMessageByAuthor
  cases h : db.message? id with
  | none =>
    by_cases hk : id = k
    · subst hk; simp [h]
    · simp [hk]
  | some msg =>
    by_cases ha : msg.senderIdHex = author
    · simp only [ha, ne_eq, not_true_eq_false, if_false]
      rw [db.message?_modifyMessage]
      by_cases hk : id = k
      · subst hk; simp [h, ha]
      · simp [hk]
    · by_cases hk : id = k
      · subst hk; simp [h, ha]
      · simp [hk, ha]

theorem message?_addReaction (id emoji reactor k : String) :
    (db.addReaction id emoji reactor).message? k =
      if id = k then (db.message? k).map (.addReaction emoji reactor)
      else db.message? k :=
  db.message?_modifyMessage id _ _ k

theorem message?_togglePinMessage (id k : String) :
    (db.togglePinMessage id).message? k =
      if id = k then (db.message? k).map .togglePin else db.message? k := by
  unfold togglePinMessage
  cases h : db.message? id with
  | none =>
    by_cases hk : id = k
    · subst hk; simp [h]
    · simp [hk]
  | some msg => exact db.message?_modifyMessage id .togglePin SavedChatMessage.id_togglePin k

theorem message?_cleanupExpiredMessages (now : Nat) (k : String) :
    (db.cleanupExpiredMessages now).message? k =
      (db.message? k).filter (·.isLive now) :=
  KeyedList.get?_filter db.messages _ k

theorem message?_deleteMessage (id k : String) :
    (db.deleteMessage id).message? k = if id = k then none else db.message? k := by
  refine (KeyedList.get?_filter db.messages _ k).trans ?_
  change (db.message? k).filter _ = _
  cases h : db.message? k with
  | none => simp
  | some m =>
    have hm := id_of_message? h
    by_cases hk : id = k
    · simp [hk, hm, Option.filter]
    · simp [hk, hm, Option.filter, Ne.symm hk]

theorem message?_deleteMessages (ids : List String) (k : String) :
    (db.deleteMessages ids).message? k = if k ∈ ids then none else db.message? k := by
  refine (KeyedList.get?_filter db.messages _ k).trans ?_
  change (db.message? k).filter _ = _
  cases h : db.message? k with
  | none => simp
  | some m =>
    have hm := id_of_message? h
    by_cases hk : k ∈ ids <;> simp [hk, hm, Option.filter]

theorem message?_clearMessagesForContact (c k : String) :
    (db.clearMessagesForContact c).message? k = (db.message? k).filter fun m => !m.inConversation c :=
  KeyedList.get?_filter db.messages _ k

theorem message?_deleteContact (c k : String) :
    (db.deleteContact c).message? k = (db.message? k).filter fun m => !m.inConversation c :=
  KeyedList.get?_filter db.messages _ k

/-- An id is newly deleted exactly when it names a message of the conversation. -/
theorem mem_deletedMessageIds_clearMessagesForContact (c k : String) :
    k ∈ (db.clearMessagesForContact c).deletedMessageIds ↔
      k ∈ db.deletedMessageIds ∨ ∃ m, db.message? k = some m ∧ m.inConversation c = true := by
  unfold clearMessagesForContact
  simp only [Finset.mem_union, List.mem_toFinset, List.mem_map, List.mem_filter]
  refine or_congr_right ⟨?_, ?_⟩
  · rintro ⟨m, ⟨hm, hc⟩, rfl⟩
    exact ⟨m, KeyedList.mem_iff_get?.1 hm, hc⟩
  · rintro ⟨m, hm, hc⟩
    exact ⟨m, ⟨KeyedList.mem_of_get? hm, hc⟩, id_of_message? hm⟩

/-! ## Deletion by the author -/

/-- Editing touches the messages only. -/
theorem frame_editMessageByAuthor (id text : String) (ts : Nat) (author : String) :
    (db.editMessageByAuthor id text ts author).1.deletedMessageIds = db.deletedMessageIds ∧
      (db.editMessageByAuthor id text ts author).1.pendingTombstones = db.pendingTombstones ∧
      (db.editMessageByAuthor id text ts author).1.blockedUserIds = db.blockedUserIds := by
  unfold editMessageByAuthor
  split
  · split <;> exact ⟨rfl, rfl, rfl⟩
  · exact ⟨rfl, rfl, rfl⟩

theorem frame_addMessage (msg : SavedChatMessage) :
    (db.addMessage msg).deletedMessageIds = db.deletedMessageIds ∧
      (db.addMessage msg).pendingTombstones = db.pendingTombstones ∧
      (db.addMessage msg).blockedUserIds = db.blockedUserIds := by
  unfold addMessage
  split <;> exact ⟨rfl, rfl, rfl⟩

theorem message?_deleteByAuthor (id author k : String) :
    (db.deleteByAuthor id author).1.message? k =
      if id = k then (db.message? k).filter (fun m => m.senderIdHex ≠ author) else db.message? k := by
  unfold deleteByAuthor
  cases h : db.message? id with
  | none =>
    by_cases hk : id = k
    · subst hk; simp [h]
    · simp [hk]
  | some msg =>
    by_cases ha : msg.senderIdHex = author
    · simp only [ha, if_true]
      refine (KeyedList.get?_erase db.messages id k).trans ?_
      by_cases hk : id = k
      · subst hk; simp [h, ha, Option.filter]
      · simp [hk, message?]
    · by_cases hk : id = k
      · subst hk; simp [h, ha, Option.filter]
      · simp [hk, ha]

/-- What a list of ids does to the message under `k`: it goes when `k` is listed and the author sent it. -/
theorem message?_deleteMessagesByAuthor : ∀ (db : MessengerDb) (ids : List String) (author k : String),
    (db.deleteMessagesByAuthor ids author).1.message? k =
      if k ∈ ids then (db.message? k).filter (fun m => m.senderIdHex ≠ author) else db.message? k
  | db, [], author, k => by simp [deleteMessagesByAuthor]
  | db, id :: ids, author, k => by
    unfold deleteMessagesByAuthor
    simp only [message?_deleteMessagesByAuthor, message?_deleteByAuthor]
    by_cases hk : id = k
    · subst hk
      by_cases hm : id ∈ ids
      · simp [hm, Option.filter_filter]
      · simp [hm]
    · have hk' : k ≠ id := fun h => hk h.symm
      simp [hk, hk']

@[simp] theorem frame_deleteMessagesByAuthor : ∀ (db : MessengerDb) (ids : List String) (author : String),
    (db.deleteMessagesByAuthor ids author).1.pendingTombstones = db.pendingTombstones ∧
      (db.deleteMessagesByAuthor ids author).1.blockedUserIds = db.blockedUserIds
  | db, [], author => ⟨rfl, rfl⟩
  | db, id :: ids, author => by
    obtain ⟨hp, hb⟩ := frame_deleteMessagesByAuthor (db.deleteByAuthor id author).1 ids author
    have hone : (db.deleteByAuthor id author).1.pendingTombstones = db.pendingTombstones ∧
        (db.deleteByAuthor id author).1.blockedUserIds = db.blockedUserIds := by
      unfold deleteByAuthor
      split
      · split <;> exact ⟨rfl, rfl⟩
      · exact ⟨rfl, rfl⟩
    exact ⟨hp.trans hone.1, hb.trans hone.2⟩

/-- An id is newly deleted exactly when it is listed and the author sent the message under it. -/
theorem mem_deletedMessageIds_deleteMessagesByAuthor : ∀ (db : MessengerDb) (ids : List String) (author k : String),
    k ∈ (db.deleteMessagesByAuthor ids author).1.deletedMessageIds ↔
      k ∈ db.deletedMessageIds ∨ k ∈ ids ∧ ∃ m, db.message? k = some m ∧ m.senderIdHex = author
  | db, [], author, k => by simp [deleteMessagesByAuthor]
  | db, id :: ids, author, k => by
    unfold deleteMessagesByAuthor
    simp only [mem_deletedMessageIds_deleteMessagesByAuthor, message?_deleteByAuthor]
    -- one id deletes at most the message under it
    have hone : k ∈ (db.deleteByAuthor id author).1.deletedMessageIds ↔
        k ∈ db.deletedMessageIds ∨ k = id ∧ ∃ m, db.message? k = some m ∧ m.senderIdHex = author := by
      unfold deleteByAuthor
      cases h : db.message? id with
      | none =>
        refine ⟨Or.inl, fun hk => hk.elim (fun h => h) ?_⟩
        rintro ⟨rfl, m, hm, -⟩
        rw [h] at hm; cases hm
      | some msg =>
        by_cases ha : msg.senderIdHex = author
        · simp only [ha, if_true, Finset.mem_insert]
          constructor
          · rintro (rfl | hk)
            · exact Or.inr ⟨rfl, msg, h, ha⟩
            · exact Or.inl hk
          · rintro (hk | ⟨rfl, -⟩)
            · exact Or.inr hk
            · exact Or.inl rfl
        · simp only [ha, if_false]
          refine ⟨Or.inl, fun hk => hk.elim (fun h => h) ?_⟩
          rintro ⟨rfl, m, hm, hma⟩
          rw [h] at hm; cases hm; exact absurd hma ha
    rw [hone, List.mem_cons]
    by_cases hk : id = k
    · subst hk
      simp only [true_and, true_or, if_true]
      constructor
      · rintro ((hd | hm) | ⟨-, m, hm, hma⟩)
        · exact Or.inl hd
        · exact Or.inr hm
        · simp only [Option.filter_eq_some_iff, hma] at hm
          simp at hm
      · rintro (hd | hm)
        · exact Or.inl (Or.inl hd)
        · exact Or.inl (Or.inr hm)
    · have hk' : k ≠ id := fun h => hk h.symm
      simp only [hk, hk', false_and, or_false, false_or, if_false]

end MessengerDb

end NodeX.Messenger
