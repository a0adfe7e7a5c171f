/-
Envelopes that come again, late or in another order: a message and its edits, a message sent twice, a
message and the tombstone for it. The store keeps what was processed last; only tombstones are remembered
beyond what they delete.
-/
import NodeX.Messenger.Inbox

namespace NodeX.Messenger

open NodeX.Lib

variable {C : Crypto} (J : PayloadJson) (T : PresenceText) {me : UserIdentity C}

/-! ## One envelope after another -/

/-- An envelope of the loop, with the clock reading and what the DHT answers meanwhile. -/
structure Handling (me : UserIdentity C) where
  v : Verified me
  now : Nat
  dht : Dht

namespace Handling

variable (h : Handling me)

def branch : Branch := Messenger.branch J me h.v.envelope (h.v.payload J)

/-- The message the payload stands for. -/
def message : SavedChatMessage := chatMessage me h.v.envelope (h.v.payload J)

/-- The database after it. -/
def apply (db : MessengerDb) : MessengerDb := (handlePayload J T me h.dht db h.v h.now).db

end Handling

/-- The database after envelopes in order. -/
def processAll (db : MessengerDb) (hs : List (Handling me)) : MessengerDb := run (fun db h => h.apply J T db) db hs

section Effects

variable {J T} {db : MessengerDb} {h : Handling me}

theorem message?_apply_of_newMessage (hb : h.branch J = .newMessage) (k : String) :
    (h.apply J T db).message? k =
      if (h.message J).id = k ∧ db.isTombstoned h.v.senderHex k = false then some (h.message J) else db.message? k := by
  unfold Handling.branch at hb
  rw [Handling.apply, handlePayload, hb]
  exact message?_handleNewMessage T h.dht db h.v.envelope (h.v.payload J) k

theorem message?_apply_of_edit (hb : h.branch J = .edit) (k : String) :
    (h.apply J T db).message? k =
      if (h.v.payload J).id = k then
        (db.message? k).map fun m => if m.senderIdHex = h.v.senderHex then
          m.edit (h.v.payload J).text ((h.v.payload J).editTimestamp.getD h.now) else m
      else db.message? k := by
  unfold Handling.branch at hb
  rw [Handling.apply, handlePayload, hb, handleBranch, db_handleEdit]
  exact db.message?_editMessageByAuthor ..

theorem message?_apply_of_tombstone {ids : List String} (hb : h.branch J = .tombstone ids) (k : String) :
    (h.apply J T db).message? k =
      if k ∈ ids then (db.message? k).filter (fun m => m.senderIdHex ≠ h.v.senderHex) else db.message? k := by
  unfold Handling.branch at hb
  rw [Handling.apply, handlePayload, hb]
  exact db.message?_deleteMessagesByAuthor ids h.v.senderHex k

/-- Only tombstones add to what is held against an author or deleted. -/
theorem isTombstoned_apply (hb : ∀ ids, h.branch J ≠ .tombstone ids) (author k : String) :
    (h.apply J T db).isTombstoned author k = db.isTombstoned author k := by
  obtain ⟨hd, hp, -⟩ := frame_handleBranch J T h.dht db h.v h.now (h.branch J) hb
  unfold MessengerDb.isTombstoned Handling.apply handlePayload
  unfold Handling.branch at hd hp
  rw [hd, hp]

/-- A tombstone holds its ids against its sender, and deletes the ids of what its sender wrote. -/
theorem isTombstoned_apply_of_tombstone {ids : List String} (hb : h.branch J = .tombstone ids) (author k : String) :
    (h.apply J T db).isTombstoned author k = true ↔ db.isTombstoned author k = true ∨
      k ∈ ids ∧ (author = h.v.senderHex ∨ ∃ m, db.message? k = some m ∧ m.senderIdHex = h.v.senderHex) := by
  unfold Handling.branch at hb
  rw [Handling.apply, handlePayload, hb]
  unfold MessengerDb.isTombstoned
  simp only [Bool.or_eq_true, decide_eq_true_eq]
  have hdel := MessengerDb.mem_deletedMessageIds_deleteMessagesByAuthor db ids h.v.senderHex k
  change (k ∈ (db.deleteMessagesByAuthor ids h.v.senderHex).1.deletedMessageIds ∨
    (author, k) ∈ (db.deleteMessagesByAuthor ids h.v.senderHex).1.pendingTombstones ∪ _) ↔ _
  rw [hdel, (db.frame_deleteMessagesByAuthor ids h.v.senderHex).1, Finset.mem_union, List.mem_toFinset, List.mem_map]
  constructor
  · rintro ((hk | ⟨hk, hm⟩) | (hk | ⟨id, hid, heq⟩))
    · exact .inl (.inl hk)
    · exact .inr ⟨hk, .inr hm⟩
    · exact .inl (.inr hk)
    · obtain ⟨rfl, rfl⟩ := Prod.mk.inj heq
      exact .inr ⟨hid, .inl rfl⟩
  · rintro ((hk | hk) | ⟨hk, rfl | hm⟩)
    · exact .inl (.inl hk)
    · exact .inr (.inl hk)
    · exact .inr (.inr ⟨k, hk, rfl⟩)
    · exact .inl (.inr ⟨hk, hm⟩)

end Effects

/-! ## Envelopes to look at -/

namespace Again

open NodeX.Sample

def printTombstone : String × UInt64 × List String → Bytes
  | (recipientId, timestamp, deletedIds) =>
    jsonArray [jsonString recipientId, utf8 (toString timestamp.toNat), jsonArray (deletedIds.map jsonString)]

/-- JSON as far as the texts of a table go. -/
def json (table : List (Bytes × ChatMessagePayload)) : PayloadJson where
  print p := ((table.find? (·.2 = p)).map Prod.fst).getD []
  parse bs := (table.find? (·.1 = bs)).map Prod.snd
  printTombstone
  utf8Lossy _ := ""

def presenceText : PresenceText where
  parseCard _ := .error "expected value at line 1 column 1"
  printSigned _ := []
  showAddr _ := ""
  parseAddr _ := none
  signatureError := "signature error"

def messageText : Bytes := jsonObject [("id", jsonString "m1"), ("text", jsonString "Meet at 9")]

def editText (text ts : String) : Bytes :=
  jsonObject [("id", jsonString "m1"), ("text", jsonString text), ("is_edited", utf8 "true"),
    ("edit_timestamp", utf8 ts)]

def edited (text : String) (ts : Nat) : ChatMessagePayload :=
  { id := "m1", text, isEdited := true, editTimestamp := some ts }

/-- A tombstone for the message, signed by its sender. -/
def tombstone (sender : UserIdentity .transparent) : SignedTombstone :=
  { recipientId := bob.userIdHex, timestamp := 1700000030, deletedIds := ["m1"]
    signature := sender.sign (printTombstone (bob.userIdHex, 1700000030, ["m1"])) }

def tombstoneText (sender : UserIdentity .transparent) : Bytes :=
  jsonObject [("id", jsonString "d1"), ("text", jsonString ""), ("tombstone", jsonObject [
    ("recipient_id", jsonString bob.userIdHex), ("timestamp", utf8 "1700000030"),
    ("deleted_ids", jsonArray [jsonString "m1"]), ("signature", jsonBytes (tombstone sender).signature)])]

def texts : PayloadJson := json [
  (messageText, { id := "m1", text := "Meet at 9" }),
  (editText "Meet at 10" "1700000010", edited "Meet at 10" 1700000010),
  (editText "Meet at 11" "1700000020", edited "Meet at 11" 1700000020),
  (tombstoneText alice, { id := "d1", tombstone := some (tombstone alice) }),
  (tombstoneText mallory, { id := "d1", tombstone := some (tombstone mallory) })]

def sealed (sender : UserIdentity .transparent) (text : Bytes) (timestamp : UInt64) : EncryptedEnvelope :=
  encryptEnvelope .transparent sender bob.userId bob.x25519Public text (List.replicate 32 1)
    (List.replicate 12 1) timestamp

theorem decryptEnvelope_sealed {sender : UserIdentity .transparent} (h : sender.WellSized) (text : Bytes)
    (timestamp : UInt64) : decryptEnvelope .transparent bob (sealed sender text timestamp) = .ok text :=
  decryptEnvelope_encryptEnvelope Crypto.transparent_correct h wellSized_bob text List.length_replicate
    List.length_replicate timestamp

/-- An envelope to Bob that opens, processed while the DHT answers nothing. -/
def opened (sender : UserIdentity .transparent) (text : Bytes) (timestamp : UInt64)
    (h : decryptEnvelope .transparent bob (sealed sender text timestamp) = .ok text) : Handling bob :=
  { v := ⟨sealed sender text timestamp, text, h⟩, now := timestamp.toNat + 5, dht := fun _ => .ok none }

def message : Handling bob := opened alice messageText 1700000000 (decryptEnvelope_sealed wellSized_alice _ _)

/-- The message again, when no receipt came. -/
def retry : Handling bob := opened alice messageText 1700000040 (decryptEnvelope_sealed wellSized_alice _ _)

def edit10 : Handling bob :=
  opened alice (editText "Meet at 10" "1700000010") 1700000010 (decryptEnvelope_sealed wellSized_alice _ _)

def edit11 : Handling bob :=
  opened alice (editText "Meet at 11" "1700000020") 1700000020 (decryptEnvelope_sealed wellSized_alice _ _)

def retraction : Handling bob :=
  opened alice (tombstoneText alice) 1700000030 (decryptEnvelope_sealed wellSized_alice _ _)

/-- Mallory names Alice's message in a tombstone of her own. -/
def foreignRetraction : Handling bob :=
  opened mallory (tombstoneText mallory) 1700000030 (decryptEnvelope_sealed wellSized_mallory _ _)

/-- The older edit comes last. -/
def late : List (Handling bob) := [message, edit11, edit10]

/-- The message comes a second time, before the newest edit. -/
def inOrder : List (Handling bob) := [edit10, message, message, edit11]

/-- Bob received the message. -/
def received : MessengerDb := message.apply texts presenceText {}

end Again

/-! ## A message and its edits -/

/-- The envelope is the message with the id, or an edit of it, by the author. -/
def IsMessageOrEdit (author id : String) (h : Handling me) : Prop :=
  h.v.senderHex = author ∧
    (h.branch J = .newMessage ∧ (h.message J).id = id ∨ h.branch J = .edit ∧ (h.v.payload J).id = id)

instance (author id : String) (h : Handling me) : Decidable (IsMessageOrEdit J author id h) :=
  inferInstanceAs (Decidable (_ ∧ _))

/-- The author's message with the id is stored with this text. -/
def StoredText (db : MessengerDb) (author id text : String) : Prop :=
  ∃ m, db.message? id = some m ∧ m.senderIdHex = author ∧ m.text = text

section Edits

variable {J T} {author id : String}

theorem IsMessageOrEdit.isTombstoned {h : Handling me} (hh : IsMessageOrEdit J author id h) (db : MessengerDb)
    (a k : String) : (h.apply J T db).isTombstoned a k = db.isTombstoned a k := by
  refine isTombstoned_apply (fun ids heq => ?_) a k
  rcases hh.2 with ⟨hb, -⟩ | ⟨hb, -⟩ <;> rw [hb] at heq <;> cases heq

theorem isTombstoned_processAll {hs : List (Handling me)} (hall : ∀ h ∈ hs, IsMessageOrEdit J author id h) :
    ∀ db : MessengerDb, (processAll J T db hs).isTombstoned author id = db.isTombstoned author id := by
  induction hs with
  | nil => intro db; rfl
  | cons h hs ih =>
    intro db
    exact (ih (fun h' hh' => hall h' (List.mem_cons_of_mem _ hh')) (h.apply J T db)).trans
      ((hall h List.mem_cons_self).isTombstoned db author id)

/-- Either kind leaves its own text, an edit where the author's message is. -/
theorem storedText_apply {db : MessengerDb} {h : Handling me} (hh : IsMessageOrEdit J author id h)
    (hlive : db.isTombstoned author id = false)
    (hthere : h.branch J = .newMessage ∨ ∃ text, StoredText db author id text) :
    StoredText (h.apply J T db) author id (h.v.payload J).text := by
  obtain ⟨rfl, ⟨hb, hid⟩ | ⟨hb, hid⟩⟩ := hh
  · refine ⟨h.message J, ?_, rfl, rfl⟩
    rw [message?_apply_of_newMessage hb, if_pos ⟨hid, hlive⟩]
  · rcases hthere with hnew | ⟨text, m, hm, hs, -⟩
    · rw [hb] at hnew; cases hnew
    · refine ⟨m.edit (h.v.payload J).text ((h.v.payload J).editTimestamp.getD h.now), ?_, hs, rfl⟩
      rw [message?_apply_of_edit hb, if_pos hid, hm, Option.map_some, if_pos hs]

/-- Once the message is among them, the text stored is that of the last envelope. -/
theorem storedText_processAll {db : MessengerDb} (hlive : db.isTombstoned author id = false) {hs : List (Handling me)}
    (hall : ∀ h ∈ hs, IsMessageOrEdit J author id h) (hmsg : ∃ h ∈ hs, h.branch J = .newMessage) :
    ∃ last, hs.getLast? = some last ∧ StoredText (processAll J T db hs) author id (last.v.payload J).text := by
  induction hs using List.reverseRecOn with
  | nil => obtain ⟨h, hh, -⟩ := hmsg; cases hh
  | append_singleton hs last ih =>
    refine ⟨last, by simp, ?_⟩
    have hpre : ∀ h ∈ hs, IsMessageOrEdit J author id h := fun h hh => hall h (List.mem_append_left _ hh)
    rw [processAll, run_concat]
    -- the last envelope alone decides, if the message was there or comes with it
    refine storedText_apply (hall last (by simp)) ((isTombstoned_processAll hpre db).trans hlive) ?_
    obtain ⟨h, hh, hb⟩ := hmsg
    rcases List.mem_append.1 hh with hh | hh
    · obtain ⟨last', -, hstored⟩ := ih hpre ⟨h, hh, hb⟩
      exact .inr ⟨_, hstored⟩
    · obtain rfl := List.mem_singleton.1 hh
      exact .inl hb

variable (J)

/-- The first of two edits is the older one, or they are the same. -/
def ChatMessagePayload.NotAfter (p q : ChatMessagePayload) : Prop :=
  p = q ∨ ∃ ts ∈ p.editTimestamp, ∃ ts' ∈ q.editTimestamp, ts < ts'

instance (p q : ChatMessagePayload) : Decidable (p.NotAfter q) := inferInstanceAs (Decidable (_ ∨ _))

/-- Of the edits among the envelopes this one has the largest timestamp, and no other edit has the same. -/
def IsNewestEdit (hs : List (Handling me)) (newest : Handling me) : Prop :=
  newest ∈ hs ∧ newest.branch J = .edit ∧
    ∀ h ∈ hs, h.branch J = .edit → (h.v.payload J).NotAfter (newest.v.payload J)

/-- The text of the newest edit is stored. -/
def ShowsNewest (db : MessengerDb) (author id : String) (hs : List (Handling me)) : Prop :=
  ∀ newest, IsNewestEdit J hs newest → StoredText db author id (newest.v.payload J).text

/-- The envelope processed last carries the text of the newest edit. -/
def NewestLast (hs : List (Handling me)) : Prop :=
  ∀ newest, IsNewestEdit J hs newest → ∃ last, hs.getLast? = some last ∧
    (last.v.payload J).text = (newest.v.payload J).text

/-- The message of an author, redelivered any number of times, and the author's edits of it, processed in any
order: the text of the newest edit is stored exactly if the envelope processed last carries it. -/
theorem edits_converge_iff (T : PresenceText) (db : MessengerDb) (author id : String)
    (hlive : db.isTombstoned author id = false) (hs : List (Handling me))
    (hall : ∀ h ∈ hs, IsMessageOrEdit J author id h) (hmsg : ∃ h ∈ hs, h.branch J = .newMessage) :
    ShowsNewest J (processAll J T db hs) author id hs ↔ NewestLast J hs := by
  -- one text is stored, that of the last envelope
  obtain ⟨last, hlast, m, hm, hs', htext⟩ := storedText_processAll (T := T) hlive hall hmsg
  refine forall₂_congr fun newest _ => ⟨?_, ?_⟩
  · rintro ⟨m', hm', -, htext'⟩
    cases hm.symm.trans hm'
    exact ⟨last, hlast, htext.symm.trans htext'⟩
  · rintro ⟨last', hlast', htext'⟩
    cases hlast.symm.trans hlast'
    exact ⟨m, hm, hs', htext.trans htext'⟩

end Edits

open Again NodeX.Sample in
/-- The older edit, processed last, is what Bob sees. -/
theorem edits_converge_late :
    ((processAll texts presenceText {} late).message? "m1").map (·.text) = some "Meet at 10" ∧
      ¬ ShowsNewest texts (processAll texts presenceText {} late) alice.userIdHex "m1" late := by
  obtain ⟨htext, hedit, hafter, hother⟩ :
      ((processAll texts presenceText {} late).message? "m1").map (·.text) = some "Meet at 10" ∧
      edit11.branch texts = .edit ∧ (∀ h ∈ late, h.branch texts = .edit →
        (h.v.payload texts).NotAfter (edit11.v.payload texts)) ∧ (edit11.v.payload texts).text ≠ "Meet at 10" := by
    decide +kernel
  refine ⟨htext, fun h => ?_⟩
  obtain ⟨m, hm, -, hm'⟩ := h edit11 ⟨List.mem_cons_of_mem _ List.mem_cons_self, hedit, hafter⟩
  rw [hm, Option.map_some, hm'] at htext
  exact hother (Option.some.inj htext)

open Again NodeX.Sample in
theorem edits_converge_inOrder :
    ShowsNewest texts (processAll texts presenceText {} inOrder) alice.userIdHex "m1" inOrder ↔
      NewestLast texts inOrder := by
  obtain ⟨hlive, hall, hmessage⟩ : MessengerDb.isTombstoned {} alice.userIdHex "m1" = false ∧
      (∀ h ∈ inOrder, IsMessageOrEdit texts alice.userIdHex "m1" h) ∧ message.branch texts = .newMessage := by
    decide +kernel
  exact edits_converge_iff texts presenceText {} alice.userIdHex "m1" hlive inOrder hall
    ⟨message, List.mem_cons_of_mem _ List.mem_cons_self, hmessage⟩

/-! ## A message that comes again -/

/-- The same sender sent the payload again: a retry, sealed afresh. -/
structure Redelivers (m r : Handling me) : Prop where
  sender : r.v.envelope.senderId = m.v.envelope.senderId
  payload : r.v.payload J = m.v.payload J
  branch : r.branch J = .newMessage

section Redelivered

variable {J T}

/-- Afterwards the sender has a contact; if it had one, nothing was done. -/
theorem isSome_lookup_ensureContact (dht : Dht) (db : MessengerDb) (e : EncryptedEnvelope) :
    ((ensureContact (C := C) T dht db e).contacts.lookup e.senderId.toHex).isSome = true := by
  unfold ensureContact
  dsimp only
  split
  · rename_i hc
    exact hc
  · rw [MessengerDb.addContact, Finmap.lookup_insert]
    rfl

theorem ensureContact_of_isSome (dht : Dht) {db : MessengerDb} {e : EncryptedEnvelope}
    (h : (db.contacts.lookup e.senderId.toHex).isSome = true) : ensureContact (C := C) T dht db e = db := if_pos h

theorem addMessage_eq_self_iff {db : MessengerDb} {msg : SavedChatMessage} (hd : msg.id ∉ db.deletedMessageIds) :
    db.addMessage msg = db ↔ db.message? msg.id = some msg := by
  have hup := KeyedList.upsert_eq_self_iff db.messages msg
  unfold MessengerDb.addMessage
  rw [if_neg hd]
  constructor
  · intro h
    exact hup.1 (congrArg MessengerDb.messages h)
  · intro h
    rw [hup.2 h]

theorem contacts_addMessage (db : MessengerDb) (msg : SavedChatMessage) :
    (db.addMessage msg).contacts = db.contacts := by
  unfold MessengerDb.addMessage
  split <;> rfl

variable (J)

/-- A message that is received again, in any state of the database, changes nothing exactly if its sender has a
contact, and either its id is retracted or the stored message is still the one the new envelope stands for:
with the new envelope's time, and without edits, reactions, a pin or an expiry date. -/
theorem redelivery_idempotent_iff (T : PresenceText) (db : MessengerDb) (m r : Handling me) (h : Redelivers J m r) :
    r.apply J T db = db ↔ (db.contacts.lookup m.v.senderHex).isSome = true ∧
      (db.isTombstoned m.v.senderHex (r.message J).id = true ∨
        db.message? (r.message J).id = some (r.message J)) := by
  have hsender : r.v.senderHex = m.v.senderHex := congrArg NodeId.toHex h.sender
  have hb := h.branch
  unfold Handling.branch at hb
  have happly : r.apply J T db = (handleNewMessage T me r.dht db r.v.envelope (r.v.payload J)).db := by
    rw [Handling.apply, handlePayload, hb]
    rfl
  rw [← hsender, happly, db_handleNewMessage]
  change (if db.isTombstoned r.v.senderHex (r.message J).id = true then _ else _) = db ↔ _
  by_cases hc : (db.contacts.lookup r.v.senderHex).isSome = true
  · rw [ensureContact_of_isSome r.dht hc, and_iff_right hc]
    split
    · rename_i ht
      exact ⟨fun _ => .inl ht, fun _ => rfl⟩
    · rename_i ht
      have hd : (r.message J).id ∉ db.deletedMessageIds := fun hmem => ht (by simp [MessengerDb.isTombstoned, hmem])
      exact (addMessage_eq_self_iff hd).trans ⟨.inr, fun h => h.resolve_left ht⟩
  · refine iff_of_false (fun heq => hc ?_) fun h => hc h.1
    -- the contact that is made stays
    have hmade := isSome_lookup_ensureContact (T := T) r.dht db r.v.envelope (C := C)
    split at heq
    · rw [heq] at hmade
      exact hmade
    · rw [← contacts_addMessage, heq] at hmade
      exact hmade

end Redelivered

open Again in
theorem redelivers_retry : Redelivers texts message retry := by
  obtain ⟨hsender, hpayload, hbranch⟩ : retry.v.envelope.senderId = message.v.envelope.senderId ∧
      retry.v.payload texts = message.v.payload texts ∧ retry.branch texts = .newMessage := by decide +kernel
  exact ⟨hsender, hpayload, hbranch⟩

open Again NodeX.Sample in
/-- Bob pins the message, and the retry takes the pin away. -/
theorem redelivery_idempotent_pinned :
    ((received.togglePinMessage "m1").message? "m1").map (·.isPinned) = some true ∧
      ((retry.apply texts presenceText (received.togglePinMessage "m1")).message? "m1").map (·.isPinned) = some false ∧
      retry.apply texts presenceText (received.togglePinMessage "m1") ≠ received.togglePinMessage "m1" := by
  obtain ⟨hpinned, hretry⟩ : ((received.togglePinMessage "m1").message? "m1").map (·.isPinned) = some true ∧
      ((retry.apply texts presenceText (received.togglePinMessage "m1")).message? "m1").map (·.isPinned) =
        some false := by decide +kernel
  refine ⟨hpinned, hretry, fun heq => ?_⟩
  rw [heq, hpinned] at hretry
  exact absurd hretry (by decide)

open Again NodeX.Sample in
/-- Bob deletes the message, and the retry does not bring it back. -/
theorem redelivery_idempotent_deleted :
    retry.apply texts presenceText (received.deleteMessage "m1") = received.deleteMessage "m1" := by
  obtain ⟨hcontact, hdeleted⟩ :
      ((received.deleteMessage "m1").contacts.lookup message.v.senderHex).isSome = true ∧
        MessengerDb.isTombstoned (received.deleteMessage "m1") message.v.senderHex (retry.message texts).id = true := by
    decide +kernel
  exact (redelivery_idempotent_iff texts presenceText (received.deleteMessage "m1") message retry redelivers_retry).2
    ⟨hcontact, .inl hdeleted⟩

/-! ## A message and tombstones for it -/

/-- Nothing is known about the id: no message, no deletion, no tombstone of anyone. -/
def MessengerDb.Fresh (db : MessengerDb) (id : String) : Prop :=
  db.message? id = none ∧ id ∉ db.deletedMessageIds ∧ ∀ p ∈ db.pendingTombstones, p.2 ≠ id

instance (db : MessengerDb) (id : String) : Decidable (db.Fresh id) := inferInstanceAs (Decidable (_ ∧ _ ∧ _))

/-- The message, apart from the time of the envelope it came in. -/
def SavedChatMessage.SameButTime (stored msg : SavedChatMessage) : Prop :=
  { stored with timestamp := msg.timestamp } = msg

/-- The message is stored under its id. -/
def Stored (db : MessengerDb) (msg : SavedChatMessage) : Prop :=
  ∃ stored, db.message? msg.id = some stored ∧ stored.SameButTime msg

section Tombstones

variable {J T} {db : MessengerDb} {m r : Handling me}

theorem MessengerDb.Fresh.isTombstoned {id : String} (h : db.Fresh id) (author : String) :
    db.isTombstoned author id = false := by
  obtain ⟨-, hd, hp⟩ := h
  unfold MessengerDb.isTombstoned
  rw [decide_eq_false hd, decide_eq_false (fun hmem => hp _ hmem rfl)]
  rfl

theorem Redelivers.refl (hb : m.branch J = .newMessage) : Redelivers J m m := ⟨rfl, rfl, hb⟩

theorem Redelivers.senderHex (h : Redelivers J m r) : r.v.senderHex = m.v.senderHex := congrArg NodeId.toHex h.sender

/-- Under the same id a redelivery stands for the same message. -/
theorem Redelivers.sameButTime (h : Redelivers J m r) (hid : (r.message J).id = (m.message J).id) :
    (r.message J).SameButTime (m.message J) := by
  unfold Handling.message chatMessage at hid ⊢
  simp only [SavedChatMessage.SameButTime, SavedChatMessage.mk.injEq, h.payload, h.sender, and_true]
  rw [h.payload, h.sender] at hid
  exact hid

theorem Redelivers.isTombstoned (h : Redelivers J m r) (author k : String) :
    (r.apply J T db).isTombstoned author k = db.isTombstoned author k := by
  refine isTombstoned_apply (fun ids heq => ?_) author k
  rw [h.branch] at heq
  cases heq

/-- The id is retracted for the sender and nothing is stored under it. -/
def Retracted (author id : String) (db : MessengerDb) : Prop :=
  db.message? id = none ∧ db.isTombstoned author id = true

theorem Retracted.apply {id : String} (h : Retracted m.v.senderHex id db) (hr : Redelivers J m r) :
    Retracted m.v.senderHex id (r.apply J T db) := by
  refine ⟨?_, (hr.isTombstoned _ id).trans h.2⟩
  rw [message?_apply_of_newMessage hr.branch, hr.senderHex, h.2, if_neg (fun hc => by cases hc.2)]
  exact h.1

/-- The message is stored, and its sender has not retracted it. -/
def Standing (m : Handling me) (db : MessengerDb) : Prop :=
  Stored db (m.message J) ∧ db.isTombstoned m.v.senderHex (m.message J).id = false

theorem Standing.apply (h : Standing (J := J) m db) (hr : Redelivers J m r) : Standing (J := J) m (r.apply J T db) := by
  refine ⟨?_, (hr.isTombstoned _ _).trans h.2⟩
  unfold Stored
  rw [message?_apply_of_newMessage hr.branch, hr.senderHex, h.2]
  split
  · rename_i hid
    exact ⟨r.message J, rfl, hr.sameButTime hid.1⟩
  · exact h.1

/-- A message that comes while nothing is held against it stands. -/
theorem standing_apply (hb : m.branch J = .newMessage)
    (hlive : db.isTombstoned m.v.senderHex (m.message J).id = false) :
    Standing (J := J) m (m.apply J T db) := by
  refine ⟨⟨m.message J, ?_, rfl⟩, ((Redelivers.refl hb).isTombstoned _ _).trans hlive⟩
  rw [message?_apply_of_newMessage hb, if_pos ⟨rfl, hlive⟩]

variable {rs : List (Handling me)}

theorem Retracted.processAll {id : String} (h : Retracted m.v.senderHex id db) (hrs : ∀ r ∈ rs, Redelivers J m r) :
    Retracted m.v.senderHex id (processAll J T db rs) :=
  run_invariant (I := Retracted m.v.senderHex id) (fun _ _ hI hr => hI.apply hr) h (steps_of_mem hrs)

theorem Standing.processAll (h : Standing (J := J) m db) (hrs : ∀ r ∈ rs, Redelivers J m r) :
    Standing (J := J) m (processAll J T db rs) :=
  run_invariant (I := Standing (J := J) m) (fun _ _ hI hr => hI.apply hr) h (steps_of_mem hrs)

variable {t : Handling me} {ids : List String}

/-- The author's tombstone retracts the id, whatever the author stored under it. -/
theorem retracted_apply (hb : t.branch J = .tombstone ids) (hsender : t.v.senderHex = m.v.senderHex) {id : String}
    (hid : id ∈ ids) (hown : ∀ msg, db.message? id = some msg → msg.senderIdHex = m.v.senderHex) :
    Retracted m.v.senderHex id (t.apply J T db) := by
  constructor
  · rw [message?_apply_of_tombstone hb, if_pos hid, hsender, Option.filter_eq_none_iff]
    intro msg hmsg
    simp [hown msg hmsg]
  · rw [isTombstoned_apply_of_tombstone hb]
    exact .inr ⟨hid, .inl hsender.symm⟩

/-- Another's tombstone leaves the id to its author. -/
theorem isTombstoned_apply_of_other (hb : t.branch J = .tombstone ids) {author id : String}
    (hne : t.v.senderHex ≠ author) (hlive : db.isTombstoned author id = false)
    (hown : ∀ msg, db.message? id = some msg → msg.senderIdHex = author) :
    (t.apply J T db).isTombstoned author id = false := by
  refine eq_false_of_ne_true fun h => ?_
  rcases (isTombstoned_apply_of_tombstone hb author id).1 h with h | ⟨-, h | ⟨msg, hmsg, h⟩⟩
  · rw [hlive] at h
    cases h
  · exact hne h.symm
  · exact hne (h.symm.trans (hown msg hmsg))

theorem Standing.apply_of_other (h : Standing (J := J) m db) (hb : t.branch J = .tombstone ids)
    (hne : t.v.senderHex ≠ m.v.senderHex) : Standing (J := J) m (t.apply J T db) := by
  obtain ⟨⟨stored, hstored, hsame⟩, hlive⟩ := h
  have hsender : stored.senderIdHex = m.v.senderHex := by
    have := congrArg SavedChatMessage.senderIdHex hsame
    exact this
  refine ⟨⟨stored, ?_, hsame⟩, isTombstoned_apply_of_other hb hne hlive fun msg hmsg => ?_⟩
  · rw [message?_apply_of_tombstone hb, hstored]
    split
    · exact Option.filter_some_pos (decide_eq_true (fun heq => hne (heq.symm.trans hsender)))
    · rfl
  · rw [hstored] at hmsg
    cases hmsg
    exact hsender

end Tombstones

end NodeX.Messenger
