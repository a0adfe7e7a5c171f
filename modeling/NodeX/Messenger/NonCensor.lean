/-
Non-censorship between senders. Two runs of the inbox share the local operations and every envelope
but those of one sender. What the other senders' messages say is carried along by a relation between
the two databases that forgets that sender's messages, the ids burned by deleting them, and the
replay entries of that sender's envelopes.
-/
import NodeX.Messenger.Author

namespace NodeX.Messenger

open NodeX.Lib

variable {C : Crypto} (J : PayloadJson) (T : PresenceText) {me : UserIdentity C} (b : String)

/-! ## What the others wrote -/

/-- A stored message as far as it is another user's than `b`: its content, or nothing. -/
def othersContent (o : Option SavedChatMessage) : Option SavedChatMessage :=
  (o.filter fun m => m.senderIdHex ≠ b).map (·.content)

variable {b}

@[simp] theorem othersContent_none : othersContent b none = none := rfl

theorem othersContent_some (m : SavedChatMessage) :
    othersContent b (some m) = if m.senderIdHex = b then none else some m.content := by
  unfold othersContent
  by_cases h : m.senderIdHex = b <;> simp [Option.filter, h]

theorem othersContent_map {f g : SavedChatMessage → SavedChatMessage} (hs : ∀ m, (f m).senderIdHex = m.senderIdHex)
    (hc : ∀ m, (f m).content = g m.content) (o : Option SavedChatMessage) :
    othersContent b (o.map f) = (othersContent b o).map g := by
  cases o with
  | none => rfl
  | some m =>
    rw [Option.map_some, othersContent_some, othersContent_some, hs, hc]
    split <;> rfl

theorem othersContent_filter {p : SavedChatMessage → Bool} (hp : ∀ m, p m.content = p m) (o : Option SavedChatMessage) :
    othersContent b (o.filter p) = (othersContent b o).filter p := by
  cases o with
  | none => rfl
  | some m =>
    rw [othersContent_some]
    by_cases hm : p m = true
    · rw [Option.filter_some_pos hm, othersContent_some]
      split
      · rfl
      · rw [Option.filter_some_pos ((hp m).trans hm)]
    · rw [Option.filter_some_neg (eq_false_of_ne_true hm)]
      split
      · rfl
      · rw [Option.filter_some_neg (eq_false_of_ne_true ((hp m).symm ▸ hm))]
        rfl

/-- Dropping messages of `b` drops nothing of the others. -/
theorem othersContent_filter_sender (o : Option SavedChatMessage) :
    othersContent b (o.filter fun m => m.senderIdHex ≠ b) = othersContent b o := by
  unfold othersContent
  rw [Option.filter_filter]
  simp

theorem exists_of_othersContent_eq {o o' : Option SavedChatMessage} (h : othersContent b o = othersContent b o')
    {m : SavedChatMessage} (hm : o = some m) (hs : m.senderIdHex ≠ b) :
    ∃ m', o' = some m' ∧ m'.content = m.content := by
  subst hm
  rw [othersContent_some, if_neg hs] at h
  cases o' with
  | none => cases h
  | some m' =>
    rw [othersContent_some] at h
    split at h
    · cases h
    · exact ⟨m', rfl, (Option.some.inj h).symm⟩

/-! ## Databases that agree about the others -/

/-- The databases of the two runs agree about what the others wrote, deleted and retracted; `u` and
`u'` are the ids burned so far by deleting messages of `b`. -/
structure Agree (b : String) (db : MessengerDb) (u : Finset String) (db' : MessengerDb) (u' : Finset String) :
    Prop where
  messages : ∀ k, othersContent b (db.message? k) = othersContent b (db'.message? k)
  deleted : ∀ k ∈ db.deletedMessageIds, k ∉ u → k ∈ db'.deletedMessageIds
  deleted' : ∀ k ∈ db'.deletedMessageIds, k ∉ u' → k ∈ db.deletedMessageIds
  pending : ∀ a k, a ≠ b → ((a, k) ∈ db.pendingTombstones ↔ (a, k) ∈ db'.pendingTombstones)
  blocked : db.blockedUserIds = db'.blockedUserIds

namespace Agree

variable {db db' : MessengerDb} {u u' : Finset String}

theorem refl (db : MessengerDb) : Agree b db ∅ db ∅ :=
  ⟨fun _ => rfl, fun _ h _ => h, fun _ h _ => h, fun _ _ _ => Iff.rfl, rfl⟩

theorem symm (h : Agree b db u db' u') : Agree b db' u' db u :=
  ⟨fun k => (h.messages k).symm, h.deleted', h.deleted, fun a k ha => (h.pending a k ha).symm, h.blocked.symm⟩

theorem mem_deleted_iff (h : Agree b db u db' u') {k : String} (hk : k ∉ u) (hk' : k ∉ u') :
    k ∈ db.deletedMessageIds ↔ k ∈ db'.deletedMessageIds :=
  ⟨fun hd => h.deleted k hd hk, fun hd => h.deleted' k hd hk'⟩

theorem message_of_other (h : Agree b db u db' u') {k : String} {m : SavedChatMessage} (hm : db.message? k = some m)
    (hs : m.senderIdHex ≠ b) : ∃ m', db'.message? k = some m' ∧ m'.content = m.content :=
  exists_of_othersContent_eq (h.messages k) hm hs

/-- What changes nothing of the others on the left keeps the agreement, if what it deletes was `b`'s. -/
theorem left (h : Agree b db u db' u') {db₁ : MessengerDb} {u₁ : Finset String}
    (hm : ∀ k, othersContent b (db₁.message? k) = othersContent b (db.message? k))
    (hd : ∀ k ∈ db₁.deletedMessageIds, k ∉ u₁ → k ∈ db.deletedMessageIds) (hu : u ⊆ u₁)
    (hd' : db.deletedMessageIds ⊆ db₁.deletedMessageIds)
    (hp : ∀ a k, a ≠ b → ((a, k) ∈ db₁.pendingTombstones ↔ (a, k) ∈ db.pendingTombstones))
    (hb : db₁.blockedUserIds = db.blockedUserIds) : Agree b db₁ u₁ db' u' :=
  ⟨fun k => (hm k).trans (h.messages k), fun k hk hku => h.deleted k (hd k hk hku) fun hku' => hku (hu hku'),
    fun k hk hku => hd' (h.deleted' k hk hku), fun a k ha => (hp a k ha).trans (h.pending a k ha), hb.trans h.blocked⟩

/-- Steps on both sides that leave the id sets alone. -/
theorem both (h : Agree b db u db' u') {db₁ db₁' : MessengerDb}
    (hm : ∀ k, othersContent b (db₁.message? k) = othersContent b (db₁'.message? k))
    (hd : db₁.deletedMessageIds = db.deletedMessageIds) (hd' : db₁'.deletedMessageIds = db'.deletedMessageIds)
    (hp : db₁.pendingTombstones = db.pendingTombstones) (hp' : db₁'.pendingTombstones = db'.pendingTombstones)
    (hb : db₁.blockedUserIds = db.blockedUserIds) (hb' : db₁'.blockedUserIds = db'.blockedUserIds) :
    Agree b db₁ u db₁' u' :=
  ⟨hm, by rw [hd, hd']; exact h.deleted, by rw [hd, hd']; exact h.deleted', by rw [hp, hp']; exact h.pending,
    by rw [hb, hb']; exact h.blocked⟩

/-- One message changed on both sides, in a way that its content determines. -/
theorem messages_modify (h : Agree b db u db' u') {db₁ db₁' : MessengerDb} {id : String}
    (f g : SavedChatMessage → SavedChatMessage) (hs : ∀ m, (f m).senderIdHex = m.senderIdHex)
    (hc : ∀ m, (f m).content = g m.content)
    (hm : ∀ k, db₁.message? k = if id = k then (db.message? k).map f else db.message? k)
    (hm' : ∀ k, db₁'.message? k = if id = k then (db'.message? k).map f else db'.message? k) (k : String) :
    othersContent b (db₁.message? k) = othersContent b (db₁'.message? k) := by
  rw [hm, hm']
  split
  · rw [othersContent_map hs hc, othersContent_map hs hc, h.messages]
  · exact h.messages k

theorem addMessage (h : Agree b db u db' u') {msg : SavedChatMessage} (hu : msg.id ∉ u) (hu' : msg.id ∉ u') :
    Agree b (db.addMessage msg) u (db'.addMessage msg) u' := by
  obtain ⟨hd, hp, hb⟩ := db.frame_addMessage msg
  obtain ⟨hd', hp', hb'⟩ := db'.frame_addMessage msg
  refine h.both (fun k => ?_) hd hd' hp hp' hb hb'
  simp only [MessengerDb.message?_addMessage, h.mem_deleted_iff hu hu']
  split
  · rfl
  · exact h.messages k

end Agree

/-! ## The local user's operations -/

variable (b)

/-- The ids of `ids` that name a message of `b`. -/
def idsOf (db : MessengerDb) (ids : List String) : Finset String :=
  ids.toFinset.filter fun k => (db.message? k).any fun m => m.senderIdHex = b

/-- The burned ids after a local operation: those that name messages of `b` when they are deleted
other than by listing them. -/
def LocalOp.burn (db : MessengerDb) (u : Finset String) : LocalOp → Finset String
  | deleteMessage id => u.erase id
  | deleteMessages ids => u \ ids.toFinset
  | deleteMessagesByAuthor ids author => if author = b then u ∪ idsOf b db ids else u
  | clearMessagesForContact contact | deleteContact contact =>
    u ∪ idsOf b db ((db.messages.list.filter (·.inConversation contact)).map (·.id))
  | wipe => ∅
  | _ => u

/-- The operation adds no message under a burned id. -/
def LocalOp.Avoids (u : Finset String) : LocalOp → Prop
  | addMessage msg => msg.id ∉ u
  | _ => True

instance LocalOp.decidableAvoids (u : Finset String) : ∀ op : LocalOp, Decidable (op.Avoids u)
  | addMessage _ => inferInstanceAs (Decidable (_ ∉ _))
  | editMessage .. | addReaction .. | togglePinMessage _ | cleanupExpiredMessages _ | deleteMessage _
  | deleteMessages _ | deleteMessagesByAuthor .. | clearMessagesForContact _ | deleteContact _ | blockUser _
  | unblockUser _ | addContact _ | addGroup _ | wipe => isTrue trivial

variable {b}

theorem mem_idsOf {db : MessengerDb} {ids : List String} {k : String} :
    k ∈ idsOf b db ids ↔ k ∈ ids ∧ ∃ m, db.message? k = some m ∧ m.senderIdHex = b := by
  simp [idsOf, Option.any_eq_true]

theorem subset_burn_clear {db : MessengerDb} {u : Finset String} {contact k : String} {m : SavedChatMessage}
    (hm : db.message? k = some m) (hc : m.inConversation contact = true) (hs : m.senderIdHex = b) :
    k ∈ u ∪ idsOf b db ((db.messages.list.filter (·.inConversation contact)).map (·.id)) := by
  refine Finset.mem_union_right _ (mem_idsOf.2 ⟨List.mem_map.2 ⟨m, ?_, MessengerDb.id_of_message? hm⟩, m, hm, hs⟩)
  exact List.mem_filter.2 ⟨KeyedList.mem_of_get? hm, hc⟩

namespace Agree

variable {db db' : MessengerDb} {u u' : Finset String}

theorem editMessage (h : Agree b db u db' u') (id text : String) (ts : Nat) :
    Agree b (db.editMessage id text ts).1 u (db'.editMessage id text ts).1 u' := by
  have frame : ∀ d : MessengerDb, (d.editMessage id text ts).1.deletedMessageIds = d.deletedMessageIds ∧
      (d.editMessage id text ts).1.pendingTombstones = d.pendingTombstones ∧
      (d.editMessage id text ts).1.blockedUserIds = d.blockedUserIds := fun d => by
    unfold MessengerDb.editMessage
    split <;> exact ⟨rfl, rfl, rfl⟩
  exact h.both (h.messages_modify (.edit text ts) (.edit text ts) (fun _ => rfl) (fun _ => rfl)
    (db.message?_editMessage id text ts)
    (db'.message?_editMessage id text ts)) (frame db).1 (frame db').1 (frame db).2.1 (frame db').2.1 (frame db).2.2
    (frame db').2.2

theorem messages_editMessageByAuthor (h : Agree b db u db' u') (id text : String) (ts : Nat) (author k : String) :
    othersContent b ((db.editMessageByAuthor id text ts author).1.message? k) =
      othersContent b ((db'.editMessageByAuthor id text ts author).1.message? k) := by
  refine h.messages_modify (fun m => if m.senderIdHex = author then m.edit text ts else m)
    (fun m => if m.senderIdHex = author then m.edit text ts else m) (fun m => ?_) (fun m => ?_)
    (db.message?_editMessageByAuthor id text ts author) (db'.message?_editMessageByAuthor id text ts author) k
  · split <;> rfl
  · change _ = if m.senderIdHex = author then m.content.edit text ts else m.content
    split <;> rfl

theorem togglePinMessage (h : Agree b db u db' u') (id : String) :
    Agree b (db.togglePinMessage id) u (db'.togglePinMessage id) u' := by
  have frame : ∀ d : MessengerDb, (d.togglePinMessage id).deletedMessageIds = d.deletedMessageIds ∧
      (d.togglePinMessage id).pendingTombstones = d.pendingTombstones ∧
      (d.togglePinMessage id).blockedUserIds = d.blockedUserIds := fun d => by
    unfold MessengerDb.togglePinMessage
    split <;> exact ⟨rfl, rfl, rfl⟩
  exact h.both (h.messages_modify .togglePin .togglePin (fun _ => rfl) (fun _ => rfl) (db.message?_togglePinMessage id)
    (db'.message?_togglePinMessage id)) (frame db).1 (frame db').1 (frame db).2.1 (frame db').2.1 (frame db).2.2
    (frame db').2.2

theorem deleteMessagesByAuthor (h : Agree b db u db' u') (ids : List String) (author : String) :
    Agree b (db.deleteMessagesByAuthor ids author).1 (if author = b then u ∪ idsOf b db ids else u)
      (db'.deleteMessagesByAuthor ids author).1 (if author = b then u' ∪ idsOf b db' ids else u') := by
  have hdel : ∀ {db db' : MessengerDb} {u u' : Finset String}, Agree b db u db' u' →
      ∀ k ∈ (db.deleteMessagesByAuthor ids author).1.deletedMessageIds,
      (k ∉ if author = b then u ∪ idsOf b db ids else u) →
      k ∈ (db'.deleteMessagesByAuthor ids author).1.deletedMessageIds := by
    intro db db' u u' h k hk hku
    rw [MessengerDb.mem_deletedMessageIds_deleteMessagesByAuthor] at hk ⊢
    rcases hk with hk | ⟨hids, m, hm, hs⟩
    · exact .inl (h.deleted k hk fun hu => hku (by split <;> simp [hu]))
    · by_cases hb : author = b
      · rw [if_pos hb] at hku
        exact absurd (Finset.mem_union_right _ (mem_idsOf.2 ⟨hids, m, hm, hs.trans hb⟩)) hku
      · obtain ⟨m', hm', hc⟩ := h.message_of_other hm (hs ▸ hb)
        exact .inr ⟨hids, m', hm', (SavedChatMessage.senderIdHex_of_content hc).trans hs⟩
  obtain ⟨hp, hb⟩ := db.frame_deleteMessagesByAuthor ids author
  obtain ⟨hp', hb'⟩ := db'.frame_deleteMessagesByAuthor ids author
  refine ⟨fun k => ?_, hdel h, hdel h.symm, by rw [hp, hp']; exact h.pending, by rw [hb, hb']; exact h.blocked⟩
  rw [MessengerDb.message?_deleteMessagesByAuthor, MessengerDb.message?_deleteMessagesByAuthor]
  split
  · rw [othersContent_filter (fun _ => rfl), othersContent_filter (fun _ => rfl), h.messages]
  · exact h.messages k

theorem clearMessagesForContact (h : Agree b db u db' u') (contact : String) :
    Agree b (db.clearMessagesForContact contact)
      (u ∪ idsOf b db ((db.messages.list.filter (·.inConversation contact)).map (·.id)))
      (db'.clearMessagesForContact contact)
      (u' ∪ idsOf b db' ((db'.messages.list.filter (·.inConversation contact)).map (·.id))) := by
  have hdel : ∀ {db db' : MessengerDb} {u u' : Finset String}, Agree b db u db' u' →
      ∀ k ∈ (db.clearMessagesForContact contact).deletedMessageIds,
      k ∉ u ∪ idsOf b db ((db.messages.list.filter (·.inConversation contact)).map (·.id)) →
      k ∈ (db'.clearMessagesForContact contact).deletedMessageIds := by
    intro db db' u u' h k hk hku
    rw [MessengerDb.mem_deletedMessageIds_clearMessagesForContact] at hk ⊢
    rcases hk with hk | ⟨m, hm, hc⟩
    · exact .inl (h.deleted k hk fun hu => hku (Finset.mem_union_left _ hu))
    · by_cases hs : m.senderIdHex = b
      · exact absurd (subset_burn_clear hm hc hs) hku
      · obtain ⟨m', hm', hc'⟩ := h.message_of_other hm hs
        refine .inr ⟨m', hm', ?_⟩
        change m'.content.inConversation contact = true
        rw [hc']
        exact hc
  refine ⟨fun k => ?_, hdel h, hdel h.symm, h.pending, h.blocked⟩
  rw [MessengerDb.message?_clearMessagesForContact, MessengerDb.message?_clearMessagesForContact,
    othersContent_filter (fun _ => rfl), othersContent_filter (fun _ => rfl), h.messages]

theorem deleteMessages (h : Agree b db u db' u') (ids : List String) :
    Agree b (db.deleteMessages ids) (u \ ids.toFinset) (db'.deleteMessages ids) ( u' \ ids.toFinset) := by
  have hdel : ∀ {db db' : MessengerDb} {u u' : Finset String}, Agree b db u db' u' →
      ∀ k ∈ (db.deleteMessages ids).deletedMessageIds, k ∉ u \ ids.toFinset →
      k ∈ (db'.deleteMessages ids).deletedMessageIds := by
    intro db db' u u' h k hk hku
    by_cases hids : k ∈ ids
    · exact Finset.mem_union_right _ (List.mem_toFinset.2 hids)
    · rcases Finset.mem_union.1 hk with hk | hk
      · exact Finset.mem_union_left _ (h.deleted k hk fun hu => hku (by simp [hu, hids]))
      · exact absurd (List.mem_toFinset.1 hk) hids
  refine ⟨fun k => ?_, hdel h, hdel h.symm, h.pending, h.blocked⟩
  rw [MessengerDb.message?_deleteMessages, MessengerDb.message?_deleteMessages]
  split
  · rfl
  · exact h.messages k

theorem deleteMessage (h : Agree b db u db' u') (id : String) :
    Agree b (db.deleteMessage id) (u.erase id) (db'.deleteMessage id) (u'.erase id) := by
  have hdel : ∀ {db db' : MessengerDb} {u u' : Finset String}, Agree b db u db' u' →
      ∀ k ∈ (db.deleteMessage id).deletedMessageIds, k ∉ u.erase id →
      k ∈ (db'.deleteMessage id).deletedMessageIds := by
    intro db db' u u' h k hk hku
    by_cases hid : k = id
    · exact hid ▸ Finset.mem_insert_self _ _
    · rcases Finset.mem_insert.1 hk with hk | hk
      · exact absurd hk hid
      · exact Finset.mem_insert_of_mem (h.deleted k hk fun hu => hku (Finset.mem_erase.2 ⟨hid, hu⟩))
  refine ⟨fun k => ?_, hdel h, hdel h.symm, h.pending, h.blocked⟩
  rw [MessengerDb.message?_deleteMessage, MessengerDb.message?_deleteMessage]
  split
  · rfl
  · exact h.messages k

/-- Every local operation keeps the agreement. -/
theorem localOp (h : Agree b db u db' u') : ∀ op : LocalOp, op.Avoids u → op.Avoids u' →
    Agree b (op.apply db) (op.burn b db u) (op.apply db') (op.burn b db' u')
  | .addMessage _, hu, hu' => h.addMessage hu hu'
  | .editMessage id text ts, _, _ => h.editMessage id text ts
  | .addReaction id emoji reactor, _, _ =>
    h.both (h.messages_modify (.addReaction emoji reactor) (fun m => m) (fun _ => rfl) (fun _ => rfl)
      (db.message?_addReaction id emoji reactor)
      (db'.message?_addReaction id emoji reactor)) rfl rfl rfl rfl rfl rfl
  | .togglePinMessage id, _, _ => h.togglePinMessage id
  | .cleanupExpiredMessages now, _, _ =>
    h.both (fun k => by
      rw [LocalOp.apply, LocalOp.apply, MessengerDb.message?_cleanupExpiredMessages,
        MessengerDb.message?_cleanupExpiredMessages, othersContent_filter (fun _ => rfl),
        othersContent_filter (fun _ => rfl), h.messages]) rfl rfl rfl rfl rfl rfl
  | .deleteMessage id, _, _ => h.deleteMessage id
  | .deleteMessages ids, _, _ => h.deleteMessages ids
  | .deleteMessagesByAuthor ids author, _, _ => h.deleteMessagesByAuthor ids author
  | .clearMessagesForContact contact, _, _ => h.clearMessagesForContact contact
  | .deleteContact contact, _, _ => by
    have hc := h.clearMessagesForContact contact
    exact ⟨hc.messages, hc.deleted, hc.deleted', hc.pending, hc.blocked⟩
  | .blockUser user, _, _ => ⟨h.messages, h.deleted, h.deleted', h.pending, congrArg (insert user) h.blocked⟩
  | .unblockUser user, _, _ => ⟨h.messages, h.deleted, h.deleted', h.pending, congrArg (·.erase user) h.blocked⟩
  | .addContact _, _, _ => ⟨h.messages, h.deleted, h.deleted', h.pending, h.blocked⟩
  | .addGroup _, _, _ => ⟨h.messages, h.deleted, h.deleted', h.pending, h.blocked⟩
  | .wipe, _, _ => ⟨fun _ => rfl, fun _ hk => absurd hk (Finset.notMem_empty _),
      fun _ hk => absurd hk (Finset.notMem_empty _), h.pending, rfl⟩

end Agree

/-! ## Handling an envelope -/

theorem othersContent_map_same (f : SavedChatMessage → SavedChatMessage) (hs : ∀ m, (f m).senderIdHex = m.senderIdHex)
    (hc : ∀ m, m.senderIdHex ≠ b → (f m).content = m.content) (o : Option SavedChatMessage) :
    othersContent b (o.map f) = othersContent b o := by
  cases o with
  | none => rfl
  | some m =>
    rw [Option.map_some, othersContent_some, othersContent_some, hs]
    split
    · rfl
    · rename_i hm
      rw [hc m hm]

theorem othersContent_handleDeliveryReceipt (db : MessengerDb) (sender : String) (r : DeliveryReceipt) (k : String) :
    othersContent b ((handleDeliveryReceipt db sender r).db.message? k) = othersContent b (db.message? k) := by
  unfold handleDeliveryReceipt
  split
  · rw [MessengerDb.message?_markMessageDelivered]
    split
    · exact othersContent_map_same .markDelivered (fun _ => rfl) (fun _ _ => rfl) _
    · rfl
  · rfl

theorem othersContent_handleReaction (db : MessengerDb) (sender : String) (r : MessageReaction) (k : String) :
    othersContent b ((handleReaction db sender r).db.message? k) = othersContent b (db.message? k) := by
  unfold handleReaction
  split
  · rw [MessengerDb.message?_addReaction]
    split
    · exact othersContent_map_same (.addReaction r.emoji sender) (fun _ => rfl) (fun _ _ => rfl) _
    · rfl
  · rfl

variable (b)

/-- The burned ids after handling: a tombstone burns those of `b`'s messages that it deletes. -/
def burnHandled (db : MessengerDb) (u : Finset String) (v : Verified me) : Finset String :=
  match branch J me v.envelope (v.payload J) with
  | .tombstone ids => if v.senderHex = b then u ∪ idsOf b db ids else u
  | _ => u

variable {b}

namespace Agree

variable {db db' : MessengerDb} {u u' : Finset String}

theorem registerPendingTombstones (h : Agree b db u db' u') (author : String) (ids : List String) :
    Agree b (db.registerPendingTombstones author ids) u (db'.registerPendingTombstones author ids) u' := by
  refine ⟨h.messages, h.deleted, h.deleted', fun a k ha => ?_, h.blocked⟩
  simp only [MessengerDb.registerPendingTombstones, Finset.mem_union, h.pending a k ha]

theorem isTombstoned (h : Agree b db u db' u') {sender k : String} (hs : sender ≠ b) (hk : k ∉ u) (hk' : k ∉ u') :
    db.isTombstoned sender k = db'.isTombstoned sender k := by
  simp only [MessengerDb.isTombstoned, h.mem_deleted_iff hk hk', h.pending sender k hs]

/-- An envelope of another sender, handled on both sides; a new message must not use a burned id. -/
theorem handlePayload (h : Agree b db u db' u') (dht : Dht) (v : Verified me) (now : Nat) (hv : v.senderHex ≠ b)
    (hnew : branch J me v.envelope (v.payload J) = .newMessage →
      (chatMessage me v.envelope (v.payload J)).id ∉ u ∧ (chatMessage me v.envelope (v.payload J)).id ∉ u') :
    Agree b (Messenger.handlePayload J T me dht db v now).db u
      (Messenger.handlePayload J T me dht db' v now).db u' := by
  unfold Messenger.handlePayload
  -- every branch but the tombstone leaves the id sets alone
  have frame : ∀ br, (∀ ids, br ≠ .tombstone ids) → (∀ k,
      othersContent b ((handleBranch J T me dht db v now br).db.message? k) =
        othersContent b ((handleBranch J T me dht db' v now br).db.message? k)) →
      Agree b (handleBranch J T me dht db v now br).db u (handleBranch J T me dht db' v now br).db u' := by
    intro br hbr hm
    obtain ⟨hd, hp, hb⟩ := frame_handleBranch J T dht db v now br hbr
    obtain ⟨hd', hp', hb'⟩ := frame_handleBranch J T dht db' v now br hbr
    exact h.both hm hd hd' hp hp' hb hb'
  cases hbr : branch J me v.envelope (v.payload J) with
  | deliveryReceipt r =>
    refine frame _ (fun _ h => by cases h) fun k => ?_
    rw [handleBranch, handleBranch, othersContent_handleDeliveryReceipt, othersContent_handleDeliveryReceipt,
      h.messages]
  | readReceipt => exact h
  | tombstone ids =>
    have hdel := h.deleteMessagesByAuthor ids v.senderHex
    rw [if_neg hv, if_neg hv] at hdel
    exact hdel.registerPendingTombstones v.senderHex ids
  | callSignal signal =>
    refine frame _ (fun _ h => by cases h) fun k => ?_
    rw [handleBranch, handleBranch, db_handleCallSignal, db_handleCallSignal, h.messages]
  | callAudio chunk =>
    refine frame _ (fun _ h => by cases h) fun k => ?_
    rw [handleBranch, handleBranch, db_handleCallAudio, db_handleCallAudio, h.messages]
  | reaction r =>
    refine frame _ (fun _ h => by cases h) fun k => ?_
    rw [handleBranch, handleBranch, othersContent_handleReaction, othersContent_handleReaction, h.messages]
  | edit =>
    refine frame _ (fun _ h => by cases h) fun k => ?_
    rw [handleBranch, handleBranch, db_handleEdit, db_handleEdit]
    exact h.messages_editMessageByAuthor _ _ _ _ k
  | newMessage =>
    refine frame _ (fun _ h => by cases h) fun k => ?_
    obtain ⟨hu, hu'⟩ := hnew hbr
    rw [handleBranch, handleBranch, message?_handleNewMessage, message?_handleNewMessage]
    -- under its own id a message is judged alike on both sides
    by_cases hk : (chatMessage me v.envelope (v.payload J)).id = k
    · subst hk
      have ht := h.isTombstoned (show v.envelope.senderId.toHex ≠ b from hv) hu hu'
      rw [ht]
      split
      · rfl
      · exact h.messages _
    · rw [if_neg fun hc => hk hc.1, if_neg fun hc => hk hc.1]
      exact h.messages k

/-- A tombstone of `b`, handled on one side only, burns the ids of the messages it deletes. -/
theorem handleTombstone_left (h : Agree b db u db' u') (ids : List String) :
    Agree b (handleTombstone db b ids).db (u ∪ idsOf b db ids) db' u' := by
  obtain ⟨hp, hb⟩ := db.frame_deleteMessagesByAuthor ids b
  refine h.left (fun k => ?_) (fun k hk hku => ?_) Finset.subset_union_left (fun k hk => ?_) (fun a k ha => ?_) hb
  · change othersContent b ((db.deleteMessagesByAuthor ids b).1.message? k) = _
    rw [MessengerDb.message?_deleteMessagesByAuthor]
    split
    · exact othersContent_filter_sender _
    · rfl
  · rcases (db.mem_deletedMessageIds_deleteMessagesByAuthor ids b k).1 hk with hk | ⟨hids, m, hm, hs⟩
    · exact hk
    · exact absurd (Finset.mem_union_right _ (mem_idsOf.2 ⟨hids, m, hm, hs⟩)) hku
  · exact (db.mem_deletedMessageIds_deleteMessagesByAuthor ids b k).2 (.inl hk)
  · -- the pending tombstones it adds are those of `b`
    change (a, k) ∈ (db.deleteMessagesByAuthor ids b).1.pendingTombstones ∪ _ ↔ _
    rw [hp, Finset.mem_union, List.mem_toFinset, List.mem_map]
    refine or_iff_left ?_
    rintro ⟨id, -, heq⟩
    exact ha (congrArg Prod.fst heq).symm

/-- An envelope of `b`, handled on one side only; a new message must not replace another sender's. -/
theorem handleHidden (h : Agree b db u db' u') (dht : Dht) (v : Verified me) (now : Nat) (hv : v.senderHex = b)
    (hov : ¬ Overwrites J db v) :
    Agree b (Messenger.handlePayload J T me dht db v now).db (burnHandled J b db u v) db' u' := by
  unfold Messenger.handlePayload burnHandled
  have frame : ∀ br, (∀ ids, br ≠ .tombstone ids) → (∀ k,
      othersContent b ((handleBranch J T me dht db v now br).db.message? k) = othersContent b (db.message? k)) →
      Agree b (handleBranch J T me dht db v now br).db u db' u' := by
    intro br hbr hm
    obtain ⟨hd, hp, hb⟩ := frame_handleBranch J T dht db v now br hbr
    exact h.left hm (fun k hk _ => hd ▸ hk) (Finset.Subset.refl _) (by rw [hd]) (fun a k _ => by rw [hp]) hb
  cases hbr : branch J me v.envelope (v.payload J) with
  | deliveryReceipt r => exact frame _ (fun _ h => by cases h) (othersContent_handleDeliveryReceipt db v.senderHex r)
  | readReceipt => exact h
  | tombstone ids =>
    dsimp only
    rw [if_pos hv]
    have htombstone := h.handleTombstone_left ids
    rw [← hv] at htombstone ⊢
    exact htombstone
  | callSignal signal =>
    refine frame _ (fun _ h => by cases h) fun k => ?_
    rw [handleBranch, db_handleCallSignal]
  | callAudio chunk =>
    refine frame _ (fun _ h => by cases h) fun k => ?_
    rw [handleBranch, db_handleCallAudio]
  | reaction r => exact frame _ (fun _ h => by cases h) (othersContent_handleReaction db v.senderHex r)
  | edit =>
    refine frame _ (fun _ h => by cases h) fun k => ?_
    rw [handleBranch, db_handleEdit, MessengerDb.message?_editMessageByAuthor]
    split
    · refine othersContent_map_same _ (fun m => ?_) (fun m hm => ?_) _
      · split <;> rfl
      · rw [if_neg (hv ▸ hm)]
    · rfl
  | newMessage =>
    refine frame _ (fun _ h => by cases h) fun k => ?_
    rw [handleBranch, message?_handleNewMessage]
    split
    · rename_i hc
      obtain ⟨rfl, ht⟩ := hc
      have hmsg : othersContent b (some (chatMessage me v.envelope (v.payload J))) = none := by
        rw [othersContent_some]
        exact if_pos hv
      rw [hmsg]
      cases hm : db.message? (chatMessage me v.envelope (v.payload J)).id with
      | none => rfl
      | some m =>
        rw [othersContent_some, if_pos]
        by_contra hs
        exact hov ⟨hbr, ht, (Option.any_eq_true _ _).2 ⟨m, hm, by simpa [hv] using hs⟩⟩
    · rfl

end Agree

/-! ## The replay cache -/

/-- Later readings see the purged entries as the purge left them. -/
theorem isFresh_purge {now now' : Nat} (h : now ≤ now') (o : Option (Bytes × Nat)) :
    (o.filter (isFresh now)).filter (isFresh now') = o.filter (isFresh now') := by
  rw [Option.filter_filter]
  congr 1
  funext entry
  simp only [isFresh]
  by_cases hf : now' - entry.2 ≤ maxReplayWindowSecs
  · simp only [hf, decide_true, Bool.and_true, decide_eq_true_eq]
    omega
  · simp [hf]

/-- What a check leaves under another hash is what was there, as later readings see it. -/
theorem get?_checkAndInsert_of_ne (cache : ReplayCache) (key : Bytes) (ts now : Nat) {h : Bytes}
    (hh : h ≠ C.sha256 key) {now' : Nat} (hn : now ≤ now') :
    ((checkAndInsert C cache key ts now).1.get? h).filter (isFresh now') = (cache.get? h).filter (isFresh now') := by
  rcases checkAndInsert_cases C cache key ts now with ⟨-, hc⟩ | ⟨-, -, hc⟩ | ⟨-, -, -, hc⟩
  · rw [hc]
  · rw [hc, KeyedList.get?_filter, isFresh_purge hn]
  · rw [hc, KeyedList.get?_upsert, if_neg (fun he => hh he.symm), KeyedList.get?_filter, isFresh_purge hn]

theorem get?_checkAndInsert_self (cache : ReplayCache) (key : Bytes) (ts : Nat) {now now' : Nat} (hn : now ≤ now') :
    ((checkAndInsert C cache key ts now).1.get? (C.sha256 key)).filter (isFresh now') =
      if (checkAndInsert C cache key ts now).2 then (some (C.sha256 key, ts)).filter (isFresh now')
      else (cache.get? (C.sha256 key)).filter (isFresh now') := by
  rcases checkAndInsert_cases C cache key ts now with ⟨-, hc⟩ | ⟨-, -, hc⟩ | ⟨-, -, -, hc⟩
  · rw [hc]
    rfl
  · rw [hc, KeyedList.get?_filter, isFresh_purge hn]
    rfl
  · rw [hc, KeyedList.get?_upsert, if_pos rfl]
    rfl

/-- With room in the cache, the answer is read off the entry under the hash. -/
theorem checkAndInsert_snd {cache : ReplayCache} {now : Nat}
    (hroom : (cache.filter (isFresh now)).list.length < maxReplayCacheEntries) (key : Bytes) (ts : Nat) :
    (checkAndInsert C cache key ts now).2 =
      (decide (InWindow now ts) && ((cache.get? (C.sha256 key)).filter (isFresh now)).isNone) := by
  rw [← KeyedList.get?_filter]
  rcases checkAndInsert_cases C cache key ts now with ⟨hw, hc⟩ | ⟨-, hrefused, hc⟩ | ⟨hw, hnone, -, hc⟩
  · rw [hc, decide_eq_false hw]
    rfl
  · rcases hrefused with hsome | hfull
    · rw [hc, Option.isNone_eq_false_iff.2 hsome, Bool.and_false]
    · exact absurd hroom (Nat.not_lt.2 hfull)
  · rw [hc, decide_eq_true hw, hnone]
    rfl

/-! ## Admission -/

/-- The checks before the replay cache. -/
def Admissible (me : UserIdentity C) (db : MessengerDb) (e : EncryptedEnvelope) : Prop :=
  e.recipientId = me.userId ∧
    ¬(e.senderId = me.userId ∧ db.messages.list.any (fun m => m.timestamp = e.timestamp.toNat)) ∧
    db.isBlocked e.senderId.toHex = false

theorem receive_of_not_admissible {db : MessengerDb} {e : EncryptedEnvelope} (h : ¬ Admissible me db e)
    (cache : ReplayCache) (now : Nat) : receive me db cache e now = (cache, none) := by
  unfold receive
  by_cases h1 : e.recipientId = me.userId
  · rw [if_neg (not_not.2 h1)]
    split
    · rfl
    · rename_i h2
      rw [if_pos]
      by_contra h3
      exact h ⟨h1, h2, eq_false_of_ne_true h3⟩
  · rw [if_pos h1]

theorem receive_of_not_opened {db : MessengerDb} {e : EncryptedEnvelope} (h : Admissible me db e) {err : String}
    (hd : decryptEnvelope C me e = .error err) (cache : ReplayCache) (now : Nat) :
    receive me db cache e now = (cache, none) := by
  unfold receive
  rw [if_neg (not_not.2 h.1), if_neg h.2.1, if_neg (by simp [h.2.2])]
  split
  · rfl
  · rename_i heq
    cases heq.symm.trans hd

/-- An envelope that opens is admitted when the replay cache has not seen it. -/
theorem receive_of_opened {db : MessengerDb} {e : EncryptedEnvelope} (h : Admissible me db e) {plaintext : Bytes}
    (hd : decryptEnvelope C me e = .ok plaintext) (cache : ReplayCache) (now : Nat) :
    receive me db cache e now = ((checkAndInsert C cache (replayKey e) e.timestamp.toNat now).1,
      if (checkAndInsert C cache (replayKey e) e.timestamp.toNat now).2 then some ⟨e, plaintext, hd⟩ else none) := by
  unfold receive
  rw [if_neg (not_not.2 h.1), if_neg h.2.1, if_neg (by simp [h.2.2])]
  split
  · rename_i heq
    cases heq.symm.trans hd
  · rename_i pt heq
    cases heq.symm.trans hd
    rcases checkAndInsert C cache (replayKey e) e.timestamp.toNat now with ⟨cache', _ | _⟩ <;> rfl

/-! ## Watched runs -/

/-- The inbox with what is to be known about `b` in this run: the ids burned by deleting messages of
`b`, the replay hashes of the envelopes of `b`, and the last clock reading. -/
structure Watched (me : UserIdentity C) where
  inbox : Inbox me
  burned : Finset String := ∅
  seen : Finset Bytes := ∅
  clock : Nat := 0

variable (b)

/-- An envelope of `b` is admitted or handled. -/
def InboxAction.isFrom : InboxAction → Bool
  | .receive e _ | .handle e _ _ => e.senderId.toHex = b
  | .localOp _ => false

namespace Watched

def step (w : Watched me) (a : InboxAction) : Watched me :=
  { inbox := w.inbox.step J T a
    burned := match a with
      | .receive _ _ => w.burned
      | .handle e _ _ =>
        match w.inbox.admitted.find? (·.envelope = e) with
        | some v => burnHandled J b w.inbox.db w.burned v
        | none => w.burned
      | .localOp op => op.burn b w.inbox.db w.burned
    seen := match a with
      | .receive e _ => if e.senderId.toHex = b then insert (C.sha256 (replayKey e)) w.seen else w.seen
      | _ => w.seen
    clock := match a with
      | .receive _ now => now
      | _ => w.clock }

/-- What keeps the envelopes of `b` out of the others' way. The clock does not run backwards. For
another sender's envelope, the replay cache has room and its hash is not one of `b`'s, it is no echo of
the time of a message of `b`, and its new message uses no burned id; neither does a message added
locally. A new message of `b` replaces no message of another sender. -/
def Undisturbed (w : Watched me) : InboxAction → Prop
  | .receive e now => w.clock ≤ now ∧ (e.senderId.toHex ≠ b →
      C.sha256 (replayKey e) ∉ w.seen ∧
      (w.inbox.cache.filter (isFresh now)).list.length < maxReplayCacheEntries ∧
      (e.senderId = me.userId → ∀ m ∈ w.inbox.db.messages.list, m.timestamp = e.timestamp.toNat → m.senderIdHex ≠ b))
  | .handle e _ _ => (w.inbox.admitted.find? (·.envelope = e)).all fun v =>
      if v.senderHex = b then ¬ Overwrites J w.inbox.db v
      else branch J me v.envelope (v.payload J) = .newMessage →
        (chatMessage me v.envelope (v.payload J)).id ∉ w.burned
  | .localOp op => op.Avoids w.burned

instance (w : Watched me) : ∀ a : InboxAction, Decidable (w.Undisturbed J b a)
  | .receive _ _ => inferInstanceAs (Decidable (_ ∧ (_ → _ ∧ _ ∧ (_ → ∀ m ∈ _, _))))
  | .handle _ _ _ => inferInstanceAs (Decidable (_ = true))
  | .localOp op => inferInstanceAs (Decidable (op.Avoids _))

variable {b}

/-- The two watched inboxes agree about everything but `b`. -/
structure Same (b : String) (w w' : Watched me) : Prop where
  db : Agree b w.inbox.db w.burned w'.inbox.db w'.burned
  cache : ∀ h, h ∉ w.seen → h ∉ w'.seen → ∀ now, w.clock ≤ now → w'.clock ≤ now →
    (w.inbox.cache.get? h).filter (isFresh now) = (w'.inbox.cache.get? h).filter (isFresh now)
  admitted : w.inbox.admitted.filter (fun v => v.senderHex ≠ b) = w'.inbox.admitted.filter (fun v => v.senderHex ≠ b)

theorem Same.symm {w w' : Watched me} (h : Same b w w') : Same b w' w :=
  ⟨h.db.symm, fun k hk hk' now hn hn' => (h.cache k hk' hk now hn' hn).symm, h.admitted.symm⟩

end Watched

/-! ## Lists of admitted envelopes -/

variable {b}

section Admitted

variable {e : EncryptedEnvelope}

theorem senderHex_of_find? {l : List (Verified me)} {v : Verified me} (h : l.find? (·.envelope = e) = some v) :
    v.senderHex = e.senderId.toHex := by
  have hv : v.envelope = e := by simpa using List.find?_some h
  unfold Verified.senderHex
  rw [hv]

theorem isOther_of_envelope (he : e.senderId.toHex ≠ b) (v : Verified me) (hv : decide (v.envelope = e) = true) :
    decide (v.senderHex ≠ b) = true := by
  simpa [Verified.senderHex, of_decide_eq_true hv] using he

theorem not_isOther_of_envelope (he : e.senderId.toHex = b) (v : Verified me) (hv : decide (v.envelope = e) = true) :
    decide (v.senderHex ≠ b) = false := by
  simpa [Verified.senderHex, of_decide_eq_true hv] using he

end Admitted

namespace Watched

variable {w w' : Watched me}

theorem find?_other (h : Same b w w') {e : EncryptedEnvelope} (he : e.senderId.toHex ≠ b) :
    w.inbox.admitted.find? (·.envelope = e) = w'.inbox.admitted.find? (·.envelope = e) := by
  have hf : ∀ l : List (Verified me),
      (l.filter (fun v => v.senderHex ≠ b)).find? (·.envelope = e) = l.find? (·.envelope = e) :=
    find?_filter_of_imp (isOther_of_envelope he)
  rw [← hf w.inbox.admitted, ← hf w'.inbox.admitted, h.admitted]

theorem Same.handleOther (h : Same b w w') {e : EncryptedEnvelope} {now : Nat} {dht : Dht} (he : e.senderId.toHex ≠ b)
    (hu : w.Undisturbed J b (.handle e now dht)) (hu' : w'.Undisturbed J b (.handle e now dht)) :
    Same b (w.step J T b (.handle e now dht)) (w'.step J T b (.handle e now dht)) := by
  have hfind := find?_other h he
  cases hv : w.inbox.admitted.find? (·.envelope = e) with
  | none =>
    rw [hv] at hfind
    unfold step Inbox.step
    simp only [hv, ← hfind]
    exact h
  | some v =>
    rw [hv] at hfind
    have hs : v.senderHex ≠ b := senderHex_of_find? hv ▸ he
    simp only [Undisturbed, hv, Option.all_some, if_neg hs, decide_eq_true_eq] at hu
    simp only [Undisturbed, ← hfind, Option.all_some, if_neg hs, decide_eq_true_eq] at hu'
    have hdb := h.db.handlePayload J T dht v now hs fun hn => ⟨hu hn, hu' hn⟩
    have hburn : ∀ db u, burnHandled J b db u v = u := fun db u => by
      unfold burnHandled
      split
      · rw [if_neg hs]
      · rfl
    unfold step Inbox.step
    simp only [hv, ← hfind, hburn]
    refine ⟨hdb, h.cache, ?_⟩
    change (w.inbox.admitted.eraseP _).filter _ = (w'.inbox.admitted.eraseP _).filter _
    rw [filter_eraseP_of_imp (isOther_of_envelope he), filter_eraseP_of_imp (isOther_of_envelope he), h.admitted]

theorem Same.handleHidden (h : Same b w w') {e : EncryptedEnvelope} {now : Nat} {dht : Dht} (he : e.senderId.toHex = b)
    (hu : w.Undisturbed J b (.handle e now dht)) : Same b (w.step J T b (.handle e now dht)) w' := by
  cases hv : w.inbox.admitted.find? (·.envelope = e) with
  | none =>
    unfold step Inbox.step
    simp only [hv]
    exact h
  | some v =>
    have hs : v.senderHex = b := (senderHex_of_find? hv).trans he
    simp only [Undisturbed, hv, Option.all_some, if_pos hs, decide_eq_true_eq] at hu
    have hdb := h.db.handleHidden J T dht v now hs hu
    unfold step Inbox.step
    simp only [hv]
    refine ⟨hdb, h.cache, ?_⟩
    change (w.inbox.admitted.eraseP _).filter _ = _
    rw [filter_eraseP_of_imp_not (not_isOther_of_envelope he), h.admitted]

/-- The checks before the replay cache come out the same on both sides. -/
theorem Same.admissible (h : Same b w w') {e : EncryptedEnvelope}
    (hecho : e.senderId = me.userId →
      ∀ m ∈ w.inbox.db.messages.list, m.timestamp = e.timestamp.toNat → m.senderIdHex ≠ b)
    (ha : Admissible me w'.inbox.db e) : Admissible me w.inbox.db e := by
  refine ⟨ha.1, ?_, ?_⟩
  · rintro ⟨hme, hany⟩
    obtain ⟨m, hm, hts⟩ := List.any_eq_true.1 hany
    have hts' : m.timestamp = e.timestamp.toNat := of_decide_eq_true hts
    -- the echo is of another sender, so the other side has it too
    obtain ⟨m', hm', hc⟩ := h.db.message_of_other (KeyedList.mem_iff_get?.1 hm) (hecho hme m hm hts')
    have hts'' : m'.timestamp = e.timestamp.toNat := by
      change m'.content.timestamp = _
      rw [hc]
      exact hts'
    exact ha.2.1 ⟨hme, List.any_eq_true.2 ⟨m', KeyedList.mem_of_get? hm', by simpa using hts''⟩⟩
  · unfold MessengerDb.isBlocked
    rw [h.db.blocked]
    exact ha.2.2

theorem Same.receiveHidden (h : Same b w w') {e : EncryptedEnvelope} {now : Nat} (he : e.senderId.toHex = b)
    (hu : w.Undisturbed J b (.receive e now)) : Same b (w.step J T b (.receive e now)) w' := by
  have hclock : w.clock ≤ now := hu.1
  have hseen : (w.step J T b (.receive e now)).seen = insert (C.sha256 (replayKey e)) w.seen := if_pos he
  -- the new state, when the cache and the list are known
  have hmk : ∀ cache admitted, receive me w.inbox.db w.inbox.cache e now = (cache, admitted) →
      (∀ k, k ≠ C.sha256 (replayKey e) → ∀ now', now ≤ now' →
        (cache.get? k).filter (isFresh now') = (w.inbox.cache.get? k).filter (isFresh now')) →
      (∀ v, admitted = some v → v.envelope = e) → Same b (w.step J T b (.receive e now)) w' := by
    intro cache admitted hadm hcache henv
    have hinbox : (w.step J T b (.receive e now)).inbox = { w.inbox with
        cache, admitted := w.inbox.admitted ++ admitted.toList } := by
      change w.inbox.step J T (.receive e now) = _
      unfold Inbox.step
      dsimp only
      rw [hadm]
      cases admitted with
      | none => simp
      | some v => rfl
    refine ⟨?_, fun k hk hk' now' hn hn' => ?_, ?_⟩
    · rw [hinbox]
      exact h.db
    · rw [hseen, Finset.mem_insert, not_or] at hk
      rw [hinbox]
      exact (hcache k hk.1 now' hn).trans (h.cache k hk.2 hk' now' (hclock.trans hn) hn')
    · rw [hinbox]
      dsimp only
      rw [List.filter_append, h.admitted]
      cases admitted with
      | none => simp
      | some v =>
        rw [Option.toList_some, List.filter_cons_of_neg, List.filter_nil, List.append_nil]
        simp [not_isOther_of_envelope he v (by simpa using henv v rfl)]
  by_cases ha : Admissible me w.inbox.db e
  · cases hd : decryptEnvelope C me e with
    | error err =>
      exact hmk _ _ (receive_of_not_opened ha hd _ _) (fun _ _ _ _ => rfl) (fun v hv => by cases hv)
    | ok plaintext =>
      refine hmk _ _ (receive_of_opened ha hd _ _) (fun k hk now' hn => get?_checkAndInsert_of_ne _ _ _ _ hk hn) ?_
      intro v hv
      split at hv
      · cases hv; rfl
      · cases hv
  · exact hmk _ _ (receive_of_not_admissible ha _ _) (fun _ _ _ _ => rfl) (fun v hv => by cases hv)

theorem Same.receiveOther (h : Same b w w') {e : EncryptedEnvelope} {now : Nat} (he : e.senderId.toHex ≠ b)
    (hu : w.Undisturbed J b (.receive e now)) (hu' : w'.Undisturbed J b (.receive e now)) :
    Same b (w.step J T b (.receive e now)) (w'.step J T b (.receive e now)) := by
  obtain ⟨hclock, hrest⟩ := hu
  obtain ⟨hclock', hrest'⟩ := hu'
  obtain ⟨hseen, hroom, hecho⟩ := hrest he
  obtain ⟨hseen', hroom', hecho'⟩ := hrest' he
  have hs : ∀ x : Watched me, (x.step J T b (.receive e now)).seen = x.seen := fun _ => if_neg he
  -- both sides get the same answer; what they make of it is related
  have hmk : ∀ cache cache' admitted, receive me w.inbox.db w.inbox.cache e now = (cache, admitted) →
      receive me w'.inbox.db w'.inbox.cache e now = (cache', admitted) →
      (∀ k, k ∉ w.seen → k ∉ w'.seen → ∀ now', now ≤ now' →
        (cache.get? k).filter (isFresh now') = (cache'.get? k).filter (isFresh now')) →
      Same b (w.step J T b (.receive e now)) (w'.step J T b (.receive e now)) := by
    intro cache cache' admitted hadm hadm' hcache
    have hinbox : ∀ (x : Watched me) c, receive me x.inbox.db x.inbox.cache e now = (c, admitted) →
        (x.step J T b (.receive e now)).inbox =
          { x.inbox with cache := c, admitted := x.inbox.admitted ++ admitted.toList } := by
      intro x c hx
      change x.inbox.step J T (.receive e now) = _
      unfold Inbox.step
      dsimp only
      rw [hx]
      cases admitted with
      | none => simp
      | some v => rfl
    refine ⟨?_, fun k hk hk' now' hn hn' => ?_, ?_⟩
    · rw [hinbox w cache hadm, hinbox w' cache' hadm']
      exact h.db
    · rw [hs] at hk hk'
      rw [hinbox w cache hadm, hinbox w' cache' hadm']
      exact hcache k hk hk' now' hn
    · rw [hinbox w cache hadm, hinbox w' cache' hadm']
      dsimp only
      rw [List.filter_append, List.filter_append, h.admitted]
  have hsame : ∀ k, k ∉ w.seen → k ∉ w'.seen → ∀ now', now ≤ now' →
      (w.inbox.cache.get? k).filter (isFresh now') = (w'.inbox.cache.get? k).filter (isFresh now') :=
    fun k hk hk' now' hn => h.cache k hk hk' now' (hclock.trans hn) (hclock'.trans hn)
  by_cases ha : Admissible me w.inbox.db e
  · have ha' : Admissible me w'.inbox.db e := h.symm.admissible hecho' ha
    cases hd : decryptEnvelope C me e with
    | error err => exact hmk _ _ _ (receive_of_not_opened ha hd _ _) (receive_of_not_opened ha' hd _ _) hsame
    | ok plaintext =>
      -- the hash is not one of `b`, so both caches have seen it, or neither
      have hans : (checkAndInsert C w.inbox.cache (replayKey e) e.timestamp.toNat now).2 =
          (checkAndInsert C w'.inbox.cache (replayKey e) e.timestamp.toNat now).2 := by
        rw [checkAndInsert_snd hroom, checkAndInsert_snd hroom', hsame _ hseen hseen' now le_rfl]
      refine hmk _ _ _ (receive_of_opened ha hd _ _) ((receive_of_opened ha' hd _ _).trans (by rw [hans])) ?_
      intro k hk hk' now' hn
      by_cases hkey : k = C.sha256 (replayKey e)
      · subst hkey
        rw [get?_checkAndInsert_self _ _ _ hn, get?_checkAndInsert_self _ _ _ hn, hans, hsame _ hk hk' now' hn]
      · rw [get?_checkAndInsert_of_ne _ _ _ _ hkey hn, get?_checkAndInsert_of_ne _ _ _ _ hkey hn,
          hsame k hk hk' now' hn]
  · have ha' : ¬ Admissible me w'.inbox.db e := fun hx => ha (h.admissible hecho hx)
    exact hmk _ _ _ (receive_of_not_admissible ha _ _) (receive_of_not_admissible ha' _ _) hsame

theorem Same.localOp (h : Same b w w') {op : LocalOp} (hu : op.Avoids w.burned) (hu' : op.Avoids w'.burned) :
    Same b (w.step J T b (.localOp op)) (w'.step J T b (.localOp op)) :=
  ⟨h.db.localOp op hu hu', h.cache, h.admitted⟩

theorem Same.hidden (h : Same b w w') : ∀ {a : InboxAction}, a.isFrom b = true → w.Undisturbed J b a →
    Same b (w.step J T b a) w'
  | .receive _ _, ha, hu => h.receiveHidden J T (by simpa [InboxAction.isFrom] using ha) hu
  | .handle _ _ _, ha, hu => h.handleHidden J T (by simpa [InboxAction.isFrom] using ha) hu
  | .localOp _, ha, _ => by cases ha

theorem Same.common (h : Same b w w') : ∀ {a : InboxAction}, a.isFrom b = false → w.Undisturbed J b a →
    w'.Undisturbed J b a → Same b (w.step J T b a) (w'.step J T b a)
  | .receive _ _, ha, hu, hu' => h.receiveOther J T (by simpa [InboxAction.isFrom] using ha) hu hu'
  | .handle _ _ _, ha, hu, hu' => h.handleOther J T (by simpa [InboxAction.isFrom] using ha) hu hu'
  | .localOp _, _, hu, hu' => h.localOp J T hu hu'

end Watched

/-- Two runs of the inbox from one state, with the same local operations and the same envelopes of
everybody but `b`, in the same order. If in neither run the envelopes of `b` get in the way of the
others', then every message of another sender stored at the end of the first is stored at the end of
the second, in the same conversation and with the same content. -/
theorem run_nonCensorship (b : String) (s : Inbox me) (as bs : List InboxAction)
    (hab : as.filter (fun a => !a.isFrom b) = bs.filter (fun a => !a.isFrom b))
    (has : Steps (Watched.step J T b) (Watched.Undisturbed J b) { inbox := s } as)
    (hbs : Steps (Watched.step J T b) (Watched.Undisturbed J b) { inbox := s } bs)
    (k : String) (m : SavedChatMessage) (hm : (run (Inbox.step J T) s as).db.message? k = some m)
    (hsender : m.senderIdHex ≠ b) :
    ∃ m', (run (Inbox.step J T) s bs).db.message? k = some m' ∧ m'.content = m.content ∧ m'.text = m.text ∧
      m'.senderIdHex = m.senderIdHex ∧ ∀ contact, m'.inConversation contact = m.inConversation contact := by
  have hstart : Watched.Same b { inbox := s } ({ inbox := s } : Watched me) :=
    ⟨.refl s.db, fun _ _ _ _ _ _ => rfl, rfl⟩
  have hleft : ∀ (w w' : Watched me) a, a.isFrom b = true → w.Same b w' → w.Undisturbed J b a →
      (w.step J T b a).Same b w' := fun _ _ _ ha h hu => h.hidden J T ha hu
  have hright : ∀ (w w' : Watched me) a, a.isFrom b = true → w.Same b w' → w'.Undisturbed J b a →
      w.Same b (w'.step J T b a) := fun _ _ _ ha h hu => (h.symm.hidden J T ha hu).symm
  have hboth : ∀ (w w' : Watched me) a, a.isFrom b = false → w.Same b w' → w.Undisturbed J b a →
      w'.Undisturbed J b a → (w.step J T b a).Same b (w'.step J T b a) :=
    fun _ _ _ ha h hu hu' => h.common J T ha hu hu'
  have hsame := unwinding hleft hright hboth as bs hab hstart has hbs
  have hinbox : ∀ cs, (run (Watched.step J T b) { inbox := s } cs).inbox = run (Inbox.step J T) s cs :=
    fun cs => run_map Watched.inbox (fun _ _ => rfl) _ cs
  obtain ⟨m', hm', hc⟩ := hsame.db.message_of_other (k := k) (m := m) (by rw [hinbox]; exact hm) hsender
  rw [hinbox] at hm'
  refine ⟨m', hm', hc, ?_, SavedChatMessage.senderIdHex_of_content hc, fun contact => ?_⟩
  · change m'.content.text = m.content.text
    rw [hc]
  · change m'.content.inConversation contact = m.content.inConversation contact
    rw [hc]

/-! ## A retracted id -/

namespace Censor

open NodeX.Sample SameId

def unsigned : SignedTombstone := ⟨bob.userIdHex, 1700000002, ["m1"], []⟩

def printTombstone : String × UInt64 × List String → Bytes
  | (recipientId, timestamp, deletedIds) =>
    jsonArray [jsonString recipientId, utf8 (toString timestamp.toNat), jsonArray (deletedIds.map jsonString)]

/-- Mallory retracts her own m1. -/
def tombstone : SignedTombstone :=
  { unsigned with signature := mallory.sign (printTombstone (bob.userIdHex, 1700000002, ["m1"])) }

def tombstoneText : Bytes :=
  jsonObject [("tombstone", jsonObject [("recipient_id", jsonString bob.userIdHex), ("timestamp", utf8 "1700000002"),
    ("deleted_ids", jsonArray [jsonString "m1"]), ("signature", jsonBytes tombstone.signature)])]

/-- JSON as far as the messages here go. -/
def json : PayloadJson :=
  { payloadJson with
    parse := fun bs =>
      if bs = tombstoneText then some { tombstone := some tombstone }
      else if bs = utf8 "\x7b\"id\":\"m2\",\"text\":\"Hello\"\x7d" then some { id := "m2", text := "Hello" }
      else payloadJson.parse bs
    printTombstone }

def retraction : EncryptedEnvelope := encryptEnvelope .transparent mallory bob.userId bob.x25519Public tombstoneText
  (List.replicate 32 3) (List.replicate 12 3) 1700000002

def hello : EncryptedEnvelope := encryptEnvelope .transparent mallory bob.userId bob.x25519Public
  (utf8 "\x7b\"id\":\"m2\",\"text\":\"Hello\"\x7d") (List.replicate 32 4) (List.replicate 12 4) 1700000003

def take (e : EncryptedEnvelope) : List InboxAction := [.receive e 1700000010, .handle e 1700000010 noDht]

theorem filter_take_of_from {e : EncryptedEnvelope} (h : e.senderId.toHex = b) :
    (take e).filter (fun a => !a.isFrom b) = [] := by
  simp [take, InboxAction.isFrom, h]

theorem filter_take_of_not_from {e : EncryptedEnvelope} (h : e.senderId.toHex ≠ b) :
    (take e).filter (fun a => !a.isFrom b) = take e := by
  simp [take, InboxAction.isFrom, h]

/-- Alice's message, alone. -/
def alone : List InboxAction := take fromAlice

/-- Mallory first sends a message with the same id and retracts it. -/
def censored : List InboxAction := take fromMallory ++ take retraction ++ take fromAlice

/-- Mallory sends a message of her own. -/
def beside : List InboxAction := take hello ++ take fromAlice

theorem toHex_fromAlice_ne : fromAlice.senderId.toHex ≠ mallory.userIdHex := by decide +kernel

theorem filter_alone : alone.filter (fun a => !a.isFrom mallory.userIdHex) = take fromAlice :=
  filter_take_of_not_from toHex_fromAlice_ne

theorem filter_censored : censored.filter (fun a => !a.isFrom mallory.userIdHex) = take fromAlice := by
  have hm : (take fromMallory).filter (fun a => !a.isFrom mallory.userIdHex) = [] := filter_take_of_from rfl
  have hr : (take retraction).filter (fun a => !a.isFrom mallory.userIdHex) = [] := filter_take_of_from rfl
  rw [censored, List.filter_append, List.filter_append, hm, hr, filter_take_of_not_from toHex_fromAlice_ne]
  rfl

theorem filter_beside : beside.filter (fun a => !a.isFrom mallory.userIdHex) = take fromAlice := by
  have hh : (take hello).filter (fun a => !a.isFrom mallory.userIdHex) = [] := filter_take_of_from rfl
  rw [beside, List.filter_append, hh, filter_take_of_not_from toHex_fromAlice_ne]
  rfl

def stored (as : List InboxAction) : Option SavedChatMessage :=
  (run (Inbox.step json presenceText) ({} : Inbox bob) as).db.message? "m1"

end Censor

open Censor NodeX.Sample SameId in
/-- The runs differ in Mallory's envelopes only; Alice's message is stored in one and not in the other. -/
theorem run_nonCensorship_retracted :
    alone.filter (fun a => !a.isFrom mallory.userIdHex) = censored.filter (fun a => !a.isFrom mallory.userIdHex) ∧
      (stored alone).map (fun m => (m.senderIdHex, m.text)) = some (alice.userIdHex, "Meet at 9") ∧
      stored censored = none := by
  refine ⟨filter_alone.trans filter_censored.symm, ?_⟩
  decide +kernel

open Censor NodeX.Sample SameId in
theorem run_nonCensorship_beside :
    ∃ m', stored beside = some m' ∧
      m'.content = (chatMessage bob fromAlice { id := "m1", text := "Meet at 9" }).content ∧ m'.text = "Meet at 9" ∧
      m'.senderIdHex = alice.userIdHex ∧ ∀ contact, m'.inConversation contact =
        (chatMessage bob fromAlice { id := "m1", text := "Meet at 9" }).inConversation contact := by
  obtain ⟨halone, hbeside, hm, hsender⟩ :
      Steps (Watched.step json presenceText mallory.userIdHex) (Watched.Undisturbed json mallory.userIdHex)
        ({ inbox := {} } : Watched bob) alone ∧
      Steps (Watched.step json presenceText mallory.userIdHex) (Watched.Undisturbed json mallory.userIdHex)
        ({ inbox := {} } : Watched bob) beside ∧
      stored alone = some (chatMessage bob fromAlice { id := "m1", text := "Meet at 9" }) ∧
      (chatMessage bob fromAlice { id := "m1", text := "Meet at 9" }).senderIdHex ≠ mallory.userIdHex := by
    decide +kernel
  exact run_nonCensorship json presenceText mallory.userIdHex {} alone beside
    (filter_alone.trans filter_beside.symm) halone hbeside "m1"
    (chatMessage bob fromAlice { id := "m1", text := "Meet at 9" }) hm hsender

end NodeX.Messenger
