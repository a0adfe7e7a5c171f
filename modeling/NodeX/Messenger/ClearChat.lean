/-
`clear_chat`: the messages of a conversation are removed from the database, and from this node's
storage the whole mailbox records of the day, the user's own and the contact's. A mailbox record
mixes the envelopes of all who write to its owner.
-/
import NodeX.Messenger.Polling

namespace NodeX.Messenger

open NodeX.Lib

/-! ## The call -/

section Model

variable {C : Crypto}

/-- The two mailbox keys come with a reading of the clock each. -/
def clearChat (me : UserIdentity C) (db : MessengerDb) (storage : Kad.Storage) (contactIdHex : String)
    (now now' : Nat) : MessengerDb × Kad.Storage :=
  let myMailbox := deriveSecureMailboxKey C me.userIdHex now
  let contactMailbox := deriveSecureMailboxKey C contactIdHex now'
  let storage := (storage.remove (mailboxId C myMailbox)).1
  (db.clearMessagesForContact contactIdHex, (storage.remove (mailboxId C contactMailbox)).1)

end Model

/-! ## What it may touch -/

section Spec

variable {C : Crypto} (M : MailboxJson) (me : UserIdentity C) (contactIdHex : String)

/-- A one-to-one message of the user and the contact. -/
def OneToOne (m : SavedChatMessage) : Prop :=
  m.groupId = none ∧ (m.senderIdHex = me.userIdHex ∧ m.recipientIdHex = contactIdHex ∨
    m.senderIdHex = contactIdHex ∧ m.recipientIdHex = me.userIdHex)

/-- An envelope of the conversation with the contact. -/
def OfConversation (e : EncryptedEnvelope) : Prop :=
  e.senderId = me.userId ∧ e.recipientId.toHex = contactIdHex ∨
    e.senderId.toHex = contactIdHex ∧ e.recipientId = me.userId

/-- The bytes are envelopes of the conversation and nothing else. -/
def OnlyConversation (bytes : Bytes) : Prop :=
  match M.parseValues bytes with
  | some values => ∀ v ∈ values, ∃ e, M.asEnvelope v = some e ∧ OfConversation me contactIdHex e
  | none => ∃ e, M.parseEnvelope bytes = some e ∧ OfConversation me contactIdHex e

/-- All of the bytes `before` that is no envelope of the conversation is in the bytes `after`. -/
def KeepsRest (before : Bytes) (after : Option Bytes) : Prop :=
  after = some before ∨ OnlyConversation M me contactIdHex before ∨
    ∃ values bytes values', M.parseValues before = some values ∧ after = some bytes ∧
      M.parseValues bytes = some values' ∧
        ∀ v ∈ values, (∃ e, M.asEnvelope v = some e ∧ OfConversation me contactIdHex e) ∨ v ∈ values'

/-- Messages and records that are not of the conversation stay as they are. -/
structure TouchesOnly (db db' : MessengerDb) (storage storage' : Kad.Storage) : Prop where
  messages : ∀ k m, db.message? k = some m → ¬ OneToOne me contactIdHex m → db'.message? k = some m
  records : ∀ key r, storage.record? key = some r →
    KeepsRest M me contactIdHex r.value ((storage'.record? key).map (·.value))

end Spec

/-! ## When it touches nothing else -/

section Frame

variable {C : Crypto} (M : MailboxJson) (me : UserIdentity C) (db : MessengerDb) (storage : Kad.Storage)
  (contactIdHex : String) (now now' : Nat)

/-- The contact's id occurs in no direct message of another conversation. -/
def MessagesApart : Prop :=
  ∀ k m, db.message? k = some m → m.inConversation contactIdHex = true → OneToOne me contactIdHex m

/-- The mailbox records of the day, as far as this node has them, are of the conversation alone. -/
def RecordsApart : Prop :=
  ∀ mailbox ∈ [deriveSecureMailboxKey C me.userIdHex now, deriveSecureMailboxKey C contactIdHex now'],
    ∀ r, storage.record? (mailboxId C mailbox) = some r → OnlyConversation M me contactIdHex r.value

theorem record?_clearChat (key : NodeId) :
    (clearChat me db storage contactIdHex now now').2.record? key =
      if key = mailboxId C (deriveSecureMailboxKey C me.userIdHex now) ∨
        key = mailboxId C (deriveSecureMailboxKey C contactIdHex now') then none else storage.record? key := by
  unfold clearChat
  simp only [Kad.Storage.record?_remove]
  by_cases h : mailboxId C (deriveSecureMailboxKey C contactIdHex now') = key
  · rw [if_pos h, if_pos (.inr h.symm)]
  · rw [if_neg h]
    by_cases h' : mailboxId C (deriveSecureMailboxKey C me.userIdHex now) = key
    · rw [if_pos h', if_pos (.inl h'.symm)]
    · rw [if_neg h', if_neg]
      rintro (hk | hk)
      · exact h' hk.symm
      · exact h hk.symm

/-- A record that is gone was of the conversation alone. -/
theorem keepsRest_none {bytes : Bytes} :
    KeepsRest M me contactIdHex bytes none ↔ OnlyConversation M me contactIdHex bytes := by
  constructor
  · rintro (h | h | ⟨_, _, _, -, h, -⟩)
    · cases h
    · exact h
    · cases h
  · exact fun h => .inr (.inl h)

/-- A list of envelopes that was written. -/
theorem onlyConversation_printEnvelopes {M : MailboxJson} (hM : M.Lawful) (envelopes : List EncryptedEnvelope) :
    OnlyConversation M me contactIdHex (M.printEnvelopes envelopes) ↔
      ∀ e ∈ envelopes, OfConversation me contactIdHex e := by
  obtain ⟨values, hvalues, hmap⟩ := hM.values_printEnvelopes envelopes
  unfold OnlyConversation
  rw [hvalues]
  dsimp only
  constructor
  · intro h e he
    have hin : some e ∈ values.map M.asEnvelope := by
      rw [hmap]
      exact List.mem_map.2 ⟨e, he, rfl⟩
    obtain ⟨v, hv, hve⟩ := List.mem_map.1 hin
    obtain ⟨e', he', hconv⟩ := h v hv
    obtain rfl := Option.some.inj (hve.symm.trans he')
    exact hconv
  · intro h v hv
    have hin : M.asEnvelope v ∈ envelopes.map some := by
      rw [← hmap]
      exact List.mem_map.2 ⟨v, hv, rfl⟩
    obtain ⟨e, he, hve⟩ := List.mem_map.1 hin
    exact ⟨e, hve.symm, h e he⟩

theorem messages_clearChat_iff :
    (∀ k m, db.message? k = some m → ¬ OneToOne me contactIdHex m →
      (clearChat me db storage contactIdHex now now').1.message? k = some m) ↔ MessagesApart me db contactIdHex := by
  have hclear : ∀ k, (clearChat me db storage contactIdHex now now').1.message? k =
      (db.message? k).filter fun m => !m.inConversation contactIdHex :=
    db.message?_clearMessagesForContact contactIdHex
  constructor
  · intro h k m hm hin
    by_contra hother
    have hkept := h k m hm hother
    rw [hclear, hm] at hkept
    simp [Option.filter, hin] at hkept
  · intro h k m hm hother
    have hin : m.inConversation contactIdHex = false := by
      by_contra hin
      exact hother (h k m hm (by simpa using hin))
    rw [hclear, hm]
    simp [Option.filter, hin]

theorem records_clearChat_iff :
    (∀ key r, storage.record? key = some r →
      KeepsRest M me contactIdHex r.value
        (((clearChat me db storage contactIdHex now now').2.record? key).map (·.value))) ↔
      RecordsApart M me storage contactIdHex now now' := by
  constructor
  · intro h mailbox hmailbox r hr
    have hgone : (clearChat me db storage contactIdHex now now').2.record? (mailboxId C mailbox) = none := by
      rw [record?_clearChat, if_pos]
      rcases List.mem_cons.1 hmailbox with rfl | hmailbox
      · exact .inl rfl
      · exact .inr (congrArg _ (List.mem_singleton.1 hmailbox))
    have hkept := h _ r hr
    rw [hgone] at hkept
    exact (keepsRest_none M me contactIdHex).1 hkept
  · intro h key r hr
    rw [record?_clearChat]
    split
    · rename_i hkey
      refine (keepsRest_none M me contactIdHex).2 ?_
      rcases hkey with rfl | rfl
      · exact h _ List.mem_cons_self r hr
      · exact h _ (List.mem_cons_of_mem _ List.mem_cons_self) r hr
    · rw [hr]
      exact .inl rfl

/-- For every database, storage, contact and clock: the call touches that conversation alone exactly
if the contact's id is in no other direct message and the two mailbox records of the day, if they are
stored here, hold envelopes of the conversation alone. -/
theorem clearChat_touchesOnly_iff :
    TouchesOnly M me contactIdHex db (clearChat me db storage contactIdHex now now').1 storage
        (clearChat me db storage contactIdHex now now').2 ↔
      MessagesApart me db contactIdHex ∧ RecordsApart M me storage contactIdHex now now' := by
  rw [← messages_clearChat_iff me db storage contactIdHex now now',
    ← records_clearChat_iff M me db storage contactIdHex now now']
  exact ⟨fun h => ⟨h.messages, h.records⟩, fun h => ⟨h.1, h.2⟩⟩

end Frame

/-! ## A mailbox with another sender's envelope -/

section Sample

open NodeX.Sample Sample

/-- Mallory's envelope waits in Alice's mailbox. -/
def waiting : EncryptedEnvelope :=
  encryptEnvelope .transparent mallory alice.userId alice.x25519Public (utf8 "hi") (List.replicate 32 4)
    (List.replicate 12 2) 100

def aliceMailbox : NodeId := mailboxId .transparent (deriveSecureMailboxKey .transparent alice.userIdHex 100)

/-- What Alice's node stores: her mailbox of the day, with Mallory's envelope in it. -/
def waitingStorage : Kad.Storage :=
  let value := mailboxJson.printEnvelopes [waiting]
  { data := KeyedList.upsert ∅ (aliceMailbox, Kad.Record.new value Kad.defaultTtl 0), storedBytes := value.length }

theorem record?_waitingStorage :
    ∃ r, waitingStorage.record? aliceMailbox = some r ∧ r.value = mailboxJson.printEnvelopes [waiting] := by
  refine ⟨Kad.Record.new (mailboxJson.printEnvelopes [waiting]) Kad.defaultTtl 0, ?_, rfl⟩
  unfold waitingStorage Kad.Storage.record?
  dsimp only
  rw [KeyedList.get?_upsert, if_pos rfl]
  rfl

theorem recordsApart_waiting : ¬ RecordsApart mailboxJson alice waitingStorage bob.userIdHex 100 100 := by
  intro h
  obtain ⟨r, hr, hvalue⟩ := record?_waitingStorage
  have honly := h _ List.mem_cons_self r hr
  rw [hvalue, onlyConversation_printEnvelopes alice bob.userIdHex mailboxJson_lawful] at honly
  -- Mallory is neither Alice nor Bob
  rcases honly waiting List.mem_cons_self with hconv | hconv
  · exact absurd hconv.1 (by decide +kernel)
  · exact absurd hconv.1 (by decide +kernel)

/-- Alice clears her chat with Bob. -/
theorem clearChat_touchesOnly_waiting :
    ¬ TouchesOnly mailboxJson alice bob.userIdHex {} (clearChat alice {} waitingStorage bob.userIdHex 100 100).1
      waitingStorage (clearChat alice {} waitingStorage bob.userIdHex 100 100).2 := by
  rw [clearChat_touchesOnly_iff]
  exact fun h => recordsApart_waiting h.2

end Sample

end NodeX.Messenger
