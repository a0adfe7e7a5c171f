/-
Pins are kept twice: as a flag of the message and as a set of ids. The two agree after a run
exactly as long as no added message has another flag than the one under its id, and no pinned
message expires; the other ten operations keep them together.
-/
import NodeX.Messenger.MessageStore

namespace NodeX.Messenger

open NodeX.Lib

/-! ## The two records of a pin -/

namespace MessageStore

/-- The ids of the stored messages whose flag is set. -/
def flaggedIds (s : MessageStore) : Finset String := ((s.messages.filter (·.isPinned)).map (·.id)).toFinset

/-- `pinned_message_ids` is exactly the set of ids of stored messages whose flag is set. -/
abbrev PinsAgree (s : MessageStore) : Prop := s.pinnedMessageIds = s.flaggedIds

/-- The message under an id has its flag set. -/
def isFlagged (s : MessageStore) (id : String) : Bool := (s.find id).any fun p => p.2.isPinned

/-- Operations that move the pins of both records alike. A message that is added replaces one with
the same flag, or is new and not pinned, or is refused as deleted; what expires is not pinned. -/
def KeepsPins (s : MessageStore) : StoreOp → Prop
  | .addMessage msg => msg.id ∈ s.deletedMessageIds ∨ msg.isPinned = s.isFlagged msg.id
  | .cleanupExpiredMessages now => ∀ msg ∈ s.messages, msg.isPinned = true → msg.isLive now = true
  | _ => True

end MessageStore

/-! ## On the database -/

namespace MessengerDb

/-- The message under an id has its flag set. -/
def isFlagged (db : MessengerDb) (id : String) : Prop := ∃ msg, db.message? id = some msg ∧ msg.isPinned = true

variable {db : MessengerDb}

theorem mem_flaggedIds_store {id : String} : id ∈ db.store.flaggedIds ↔ db.isFlagged id := by
  unfold MessageStore.flaggedIds
  simp only [List.mem_toFinset, List.mem_map, List.mem_filter]
  constructor
  · rintro ⟨msg, ⟨hmem, hpin⟩, rfl⟩
    exact ⟨msg, KeyedList.mem_iff_get?.1 hmem, hpin⟩
  · rintro ⟨msg, hmsg, hpin⟩
    exact ⟨msg, ⟨KeyedList.mem_of_get? hmsg, hpin⟩, id_of_message? hmsg⟩

theorem isFlagged_store {id : String} : db.store.isFlagged id = true ↔ db.isFlagged id := by
  unfold MessageStore.isFlagged isFlagged
  rw [← MessageStore.find_store]
  cases db.store.find id <;> simp

theorem pinsAgree_store : db.store.PinsAgree ↔ ∀ id, id ∈ db.pinnedMessageIds ↔ db.isFlagged id := by
  unfold MessageStore.PinsAgree
  rw [Finset.ext_iff]
  exact forall_congr' fun id => iff_congr Iff.rfl mem_flaggedIds_store

/-! ## What a step does to them -/

theorem isFlagged_addMessage (msg : SavedChatMessage) (id : String) :
    (db.addMessage msg).isFlagged id ↔
      if msg.id = id ∧ msg.id ∉ db.deletedMessageIds then msg.isPinned = true else db.isFlagged id := by
  unfold isFlagged
  rw [message?_addMessage]
  split
  · simp
  · exact Iff.rfl

theorem isFlagged_cleanupExpiredMessages (now : Nat) (id : String) :
    (db.cleanupExpiredMessages now).isFlagged id ↔
      ∃ msg, db.message? id = some msg ∧ msg.isPinned = true ∧ msg.isLive now = true := by
  unfold isFlagged
  rw [message?_cleanupExpiredMessages]
  simp only [Option.filter_eq_some_iff]
  refine exists_congr fun msg => ?_
  tauto

/-- An operation that leaves the flags as they are, and the set too. -/
theorem pinsAgree_of_flags {db' : MessengerDb} (h : db.store.PinsAgree)
    (hset : db'.pinnedMessageIds = db.pinnedMessageIds) (hflags : ∀ id, db'.isFlagged id ↔ db.isFlagged id) :
    db'.store.PinsAgree := by
  rw [pinsAgree_store] at h ⊢
  intro id
  rw [hset, hflags]
  exact h id

/-- An operation on one message that leaves its flag. -/
theorem pinsAgree_of_map {db' : MessengerDb} (h : db.store.PinsAgree)
    (hset : db'.pinnedMessageIds = db.pinnedMessageIds) {id : String} {f : SavedChatMessage → SavedChatMessage}
    (hmap : ∀ k, db'.message? k = if id = k then (db.message? k).map f else db.message? k)
    (hf : ∀ msg, (f msg).isPinned = msg.isPinned) : db'.store.PinsAgree := by
  refine pinsAgree_of_flags h hset fun k => ?_
  unfold isFlagged
  rw [hmap]
  split
  · cases db.message? k <;> simp [hf]
  · exact Iff.rfl

/-- An operation that removes messages, and takes the ids of those out of the set. -/
theorem pinsAgree_of_delete {db' : MessengerDb} (h : db.store.PinsAgree) (D : String → Prop)
    (hset : ∀ k, k ∈ db'.pinnedMessageIds ↔ k ∈ db.pinnedMessageIds ∧ ¬D k)
    (hgone : ∀ k, D k → db'.message? k = none) (hkept : ∀ k, ¬D k → db'.message? k = db.message? k) :
    db'.store.PinsAgree := by
  rw [pinsAgree_store] at h ⊢
  intro k
  rw [hset, h k]
  unfold isFlagged
  by_cases hk : D k
  · simp [hk, hgone k hk]
  · simp [hk, hkept k hk]

theorem pinsAgree_togglePinMessage (h : db.store.PinsAgree) (id : String) :
    (db.togglePinMessage id).store.PinsAgree := by
  rw [pinsAgree_store] at h ⊢
  intro k
  unfold isFlagged
  rw [message?_togglePinMessage]
  by_cases hk : id = k
  · subst hk
    unfold togglePinMessage
    cases hmsg : db.message? id with
    | none =>
      have hid := h id
      simp only [isFlagged, hmsg] at hid
      simpa using hid
    | some msg => cases hpin : msg.isPinned <;> simp [hpin, SavedChatMessage.togglePin]
  · rw [if_neg hk, ← isFlagged, ← h k]
    unfold togglePinMessage
    split
    · dsimp only
      split
      · rw [Finset.mem_erase, and_iff_right (Ne.symm hk)]
      · rw [Finset.mem_insert, or_iff_right (Ne.symm hk)]
    · exact Iff.rfl

theorem pinsAgree_deleteByAuthor (h : db.store.PinsAgree) (id author : String) :
    (db.deleteByAuthor id author).1.store.PinsAgree := by
  unfold deleteByAuthor
  split
  · split
    · refine pinsAgree_of_delete h (· = id) (fun k => ?_) (fun k hk => ?_) fun k hk => ?_
      · rw [Finset.mem_erase, and_comm]
      · exact (KeyedList.get?_erase db.messages id k).trans (if_pos hk.symm)
      · exact (KeyedList.get?_erase db.messages id k).trans (if_neg (Ne.symm hk))
    · exact h
  · exact h

theorem pinsAgree_deleteMessagesByAuthor : ∀ {db : MessengerDb} (_ : db.store.PinsAgree) (ids : List String)
    (author : String), (db.deleteMessagesByAuthor ids author).1.store.PinsAgree
  | _, h, [], _ => h
  | _, h, id :: ids, author => pinsAgree_deleteMessagesByAuthor (pinsAgree_deleteByAuthor h id author) ids author

theorem pinsAgree_clearMessagesForContact (h : db.store.PinsAgree) (c : String) :
    (db.clearMessagesForContact c).store.PinsAgree := by
  refine pinsAgree_of_delete h (fun k => ∃ msg, db.message? k = some msg ∧ msg.inConversation c = true)
    (fun k => ?_) (fun k hk => ?_) fun k hk => ?_
  · show k ∈ db.pinnedMessageIds \ _ ↔ _
    rw [Finset.mem_sdiff]
    refine and_congr_right fun _ => not_congr ?_
    simp only [List.mem_toFinset, List.mem_map, List.mem_filter]
    constructor
    · rintro ⟨msg, ⟨hmem, hc⟩, rfl⟩
      exact ⟨msg, KeyedList.mem_iff_get?.1 hmem, hc⟩
    · rintro ⟨msg, hmsg, hc⟩
      exact ⟨msg, ⟨KeyedList.mem_of_get? hmsg, hc⟩, id_of_message? hmsg⟩
  · obtain ⟨msg, hmsg, hc⟩ := hk
    rw [message?_clearMessagesForContact, hmsg, Option.filter_some, hc]
    rfl
  · rw [message?_clearMessagesForContact]
    cases hmsg : db.message? k with
    | none => rfl
    | some msg =>
      have hc : msg.inConversation c = false := by
        by_contra hc
        exact hk ⟨msg, hmsg, by simpa using hc⟩
      rw [Option.filter_some, hc]
      rfl

/-! ## One step -/

theorem keepsPins_addMessage (h : db.store.PinsAgree) (msg : SavedChatMessage) :
    (db.addMessage msg).store.PinsAgree ↔
      msg.id ∈ db.deletedMessageIds ∨ (msg.isPinned = true ↔ db.isFlagged msg.id) := by
  rw [pinsAgree_store] at h ⊢
  have hset : (db.addMessage msg).pinnedMessageIds = db.pinnedMessageIds := by
    unfold addMessage
    split <;> rfl
  simp only [hset, h, isFlagged_addMessage]
  by_cases hd : msg.id ∈ db.deletedMessageIds
  · simp [hd]
  · simp only [hd, not_false_eq_true, and_true, false_or]
    refine ⟨fun hall => ?_, fun hflag id => ?_⟩
    · simpa [iff_comm] using hall msg.id
    · split
      · rename_i hid
        rw [← hid, hflag]
      · exact Iff.rfl

theorem keepsPins_cleanupExpiredMessages (h : db.store.PinsAgree) (now : Nat) :
    (db.cleanupExpiredMessages now).store.PinsAgree ↔
      ∀ msg ∈ db.messages.list, msg.isPinned = true → msg.isLive now = true := by
  rw [pinsAgree_store] at h ⊢
  have hset : (db.cleanupExpiredMessages now).pinnedMessageIds = db.pinnedMessageIds := rfl
  simp only [hset, h, isFlagged_cleanupExpiredMessages]
  constructor
  · intro hall msg hmem hpin
    have hmsg : db.message? msg.id = some msg := KeyedList.mem_iff_get?.1 hmem
    obtain ⟨msg', hmsg', -, hlive⟩ := (hall msg.id).1 ⟨msg, hmsg, hpin⟩
    rw [hmsg, Option.some_inj] at hmsg'
    rwa [hmsg']
  · intro hall id
    refine exists_congr fun msg => and_congr_right fun hmsg => ?_
    rw [iff_self_and]
    exact hall msg (KeyedList.mem_of_get? hmsg)

/-- From agreeing pins, the pins agree after a step exactly when the step keeps them. -/
theorem pinsAgree_onDb (h : db.store.PinsAgree) (op : StoreOp) :
    (op.onDb db).store.PinsAgree ↔ db.store.KeepsPins op := by
  cases op with
  | addMessage msg =>
    rw [StoreOp.onDb, keepsPins_addMessage h, ← isFlagged_store, ← Bool.eq_iff_iff]
    exact Iff.rfl
  | cleanupExpiredMessages now => exact keepsPins_cleanupExpiredMessages h now
  | editMessage id text ts =>
    refine iff_of_true (pinsAgree_of_map h ?_ (message?_editMessage db id text ts) fun _ => rfl) trivial
    show (db.editMessage id text ts).1.pinnedMessageIds = _
    unfold editMessage
    split <;> rfl
  | editMessageByAuthor id text ts author =>
    refine iff_of_true (pinsAgree_of_map h ?_ (message?_editMessageByAuthor db id text ts author) fun m => ?_) trivial
    · show (db.editMessageByAuthor id text ts author).1.pinnedMessageIds = _
      unfold editMessageByAuthor
      split
      · split <;> rfl
      · rfl
    · split <;> rfl
  | markMessageDelivered id =>
    exact iff_of_true (pinsAgree_of_map h rfl (message?_markMessageDelivered db id) fun _ => rfl) trivial
  | addReaction id emoji reactor =>
    exact iff_of_true (pinsAgree_of_map h rfl (message?_addReaction db id emoji reactor) fun _ => rfl) trivial
  | togglePinMessage id => exact iff_of_true (pinsAgree_togglePinMessage h id) trivial
  | deleteMessage id =>
    refine iff_of_true (pinsAgree_of_delete h (· = id) (fun k => ?_) (fun k hk => ?_) fun k hk => ?_) trivial
    · exact Finset.mem_erase.trans and_comm
    · exact (message?_deleteMessage db id k).trans (if_pos hk.symm)
    · exact (message?_deleteMessage db id k).trans (if_neg (Ne.symm hk))
  | deleteMessages ids =>
    refine iff_of_true (pinsAgree_of_delete h (· ∈ ids) (fun k => ?_) (fun k hk => ?_) fun k hk => ?_) trivial
    · exact Finset.mem_sdiff.trans (and_congr_right fun _ => not_congr List.mem_toFinset)
    · exact (message?_deleteMessages db ids k).trans (if_pos hk)
    · exact (message?_deleteMessages db ids k).trans (if_neg hk)
  | deleteMessagesByAuthor ids author => exact iff_of_true (pinsAgree_deleteMessagesByAuthor h ids author) trivial
  | clearMessagesForContact c => exact iff_of_true (pinsAgree_clearMessagesForContact h c) trivial
  | deleteContact c =>
    exact iff_of_true (@pinsAgree_clearMessagesForContact { db with contacts := db.contacts.erase c } h c) trivial

end MessengerDb

/-! ## Every run -/

namespace MessageStore

/-- From the empty store, the pins agree in every state of a run exactly when every step keeps them. -/
theorem pinsAgree_iff_keepsPins (ops : List StoreOp) :
    (∀ pre, pre <+: ops → (run StoreOp.apply {} pre).PinsAgree) ↔ Steps StoreOp.apply KeepsPins {} ops := by
  have hstart : ({} : MessageStore) = ({} : MessengerDb).store := rfl
  have hempty : ({} : MessageStore).PinsAgree := by decide
  rw [forall_prefix_iff, and_iff_right hempty]
  -- every state on the way is what a database stores
  refine steps_iff_of_invariant (I := fun s => (∃ db : MessengerDb, db.store = s) ∧ s.PinsAgree) ?_ ?_ ops
    ⟨⟨{}, hstart.symm⟩, hempty⟩
  · rintro _ op ⟨⟨db, rfl⟩, h⟩
    rw [← apply_store]
    exact MessengerDb.pinsAgree_onDb h op
  · rintro _ op ⟨⟨db, rfl⟩, -⟩ hkeeps
    exact ⟨⟨op.onDb db, apply_store db op⟩, hkeeps⟩

/-- A message is pinned and then expires. -/
theorem pins_disagree_expired :
    ¬∀ ops : List StoreOp, (run StoreOp.apply {} ops).PinsAgree := by
  intro h
  let m : SavedChatMessage :=
    { id := "m1", senderIdHex := "b0", recipientIdHex := "a0", text := "hi", expiresAt := some 9, timestamp := 5,
      incoming := true, delivered := false }
  exact absurd (h [.addMessage m, .togglePinMessage "m1", .cleanupExpiredMessages 10]) (by decide)

end MessageStore

end NodeX.Messenger
