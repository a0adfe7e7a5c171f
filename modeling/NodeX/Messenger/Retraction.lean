/-
`delete_messages_for_everyone`: the user's own messages are deleted here first, and then a signed tombstone
is sealed for the recipient and handed to the network. What is deleted is saved before the recipient's id is
read and before a key is looked for.
-/
import NodeX.Messenger.Inbox

namespace NodeX.Messenger

/-! ## The call -/

section Model

variable {C : Crypto} (T : PresenceText) (J : PayloadJson) (me : UserIdentity C)

/-- A tombstone on its way to `deposit_envelope_to_mailbox`, and to the recipient's address if one is known,
with the draws of `encrypt_envelope`. -/
structure HandedTombstone where
  tombstone : SignedTombstone
  recipientId : NodeId
  key : Bytes
  directAddr : Option SocketAddr
  ephSeed : Bytes
  nonce : Bytes
  timestamp : UInt64
deriving DecidableEq

def HandedTombstone.envelope (h : HandedTombstone) : EncryptedEnvelope :=
  encryptEnvelope C me h.recipientId h.key (J.print { tombstone := some h.tombstone }) h.ephSeed h.nonce h.timestamp

/-- What the call leaves behind: the database, what it returned and what it handed to the network. -/
structure Retraction where
  db : MessengerDb
  outcome : Outcome Unit
  handed : Option HandedTombstone := none
deriving DecidableEq

/-- The key and address that discovery finds, or none. -/
def discoveredKey (dht : Dht) (db : MessengerDb) (recipientIdHex : String) :
    MessengerDb × Bytes × Option SocketAddr :=
  match discoverPeer C T dht db recipientIdHex with
  | (db', .ok card) => (db', card.x25519Pub, some card.socketAddr)
  | (db', .error _) => (db', [], none)

/-- The recipient's key and address: those of a saved contact with a key of 32 bytes, else those discovery finds. -/
def retractionKey (dht : Dht) (db : MessengerDb) (recipientIdHex : String) :
    Outcome (MessengerDb × Bytes × Option SocketAddr) :=
  match db.contacts.lookup recipientIdHex with
  | none => .ok (discoveredKey (C := C) T dht db recipientIdHex)
  | some c => (hexDecode c.x25519PubHex).map fun cached =>
    match cached with
    | some k =>
      if k.length = 32 then (db, k, T.parseAddr c.lastSeenAddr) else discoveredKey (C := C) T dht db recipientIdHex
    | none => discoveredKey (C := C) T dht db recipientIdHex

/-- The tombstone for what was deleted. -/
def signedTombstone (recipientIdHex : String) (deletedIds : List String) (now : UInt64) : SignedTombstone :=
  let tombstone : SignedTombstone := { recipientId := recipientIdHex, timestamp := now, deletedIds, signature := [] }
  { tombstone with signature := me.sign (tombstone.signingBytes J) }

/-- Seal the tombstone for the recipient and hand it over. -/
def deliverTombstone (dht : Dht) (db : MessengerDb) (recipientIdHex : String) (deletedIds : List String)
    (now : UInt64) (ephSeed nonce : Bytes) (timestamp : UInt64) : Retraction :=
  match NodeId.fromHex recipientIdHex with
  | .err e => { db, outcome := .err e }
  | .panic => { db, outcome := .panic }
  | .ok recipientId =>
    match retractionKey (C := C) T dht db recipientIdHex with
    | .err e => { db, outcome := .err e }
    | .panic => { db, outcome := .panic }
    | .ok (db', key, directAddr) =>
      if key.length = 32 then
        { db := db', outcome := .ok ()
          handed := some
            { tombstone := signedTombstone J me recipientIdHex deletedIds now
              recipientId, key, directAddr, ephSeed, nonce, timestamp } }
      -- without a key nothing is sealed, and the call ends well all the same
      else { db := db', outcome := .ok () }

def deleteMessagesForEveryone (dht : Dht) (db : MessengerDb) (recipientIdHex : String) (messageIds : List String)
    (now : UInt64) (ephSeed nonce : Bytes) (timestamp : UInt64) : Retraction :=
  if messageIds.isEmpty then { db, outcome := .ok () }
  else
    match db.deleteMessagesByAuthor messageIds me.userIdHex with
    | (db', deletedIds) =>
      if deletedIds.isEmpty then { db := db', outcome := .ok () }
      -- the messages are gone before the recipient's id is read
      else deliverTombstone T J me dht db' recipientIdHex deletedIds now ephSeed nonce timestamp

end Model

/-! ## Atomicity -/

/-- A message was stored under the id, and none is any more. -/
def Removed (db db' : MessengerDb) (id : String) : Prop := (∃ m, db.message? id = some m) ∧ db'.message? id = none

/-- An error leaves the database as it was, and what was removed without one is exactly what a tombstone on its
way to the recipient names. -/
structure Atomic (db : MessengerDb) (recipientIdHex : String) (x : Retraction) : Prop where
  err : ∀ e, x.outcome = .err e → x.db = db
  handed : x.outcome = .ok () → (∃ id, Removed db x.db id) → ∃ h ∈ x.handed,
    NodeId.fromHex recipientIdHex = .ok h.recipientId ∧ h.tombstone.recipientId = recipientIdHex ∧
      ∀ id, id ∈ h.tombstone.deletedIds ↔ Removed db x.db id

section Atomicity

variable {C : Crypto} (T : PresenceText) (J : PayloadJson) (me : UserIdentity C)

/-- One of the ids names a message of this user. -/
def NamesOwn (db : MessengerDb) (messageIds : List String) : Prop :=
  ∃ id ∈ messageIds, ∃ m, db.message? id = some m ∧ m.senderIdHex = me.userIdHex

/-- Neither a contact nor discovery gives a key of 32 bytes. -/
def NoKeyFor (C : Crypto) (T : PresenceText) (dht : Dht) (db : MessengerDb) (recipientIdHex : String) : Prop :=
  (∀ c, db.contacts.lookup recipientIdHex = some c →
    ∃ cached, hexDecode c.x25519PubHex = .ok cached ∧ ∀ k ∈ cached, k.length ≠ 32) ∧
  ∀ card, (discoverPeer C T dht db recipientIdHex).2 = .ok card → card.x25519Pub.length ≠ 32

/-- No tombstone can be sealed: the recipient's id is not one, or there is no key for it. -/
def Unsealable (C : Crypto) (T : PresenceText) (dht : Dht) (db : MessengerDb) (recipientIdHex : String) : Prop :=
  (∃ e, NodeId.fromHex recipientIdHex = .err e) ∨
    (∃ recipientId, NodeId.fromHex recipientIdHex = .ok recipientId) ∧ NoKeyFor C T dht db recipientIdHex

variable {T me} {dht : Dht} {db : MessengerDb} {r : String} {messageIds : List String}

theorem contacts_deleteByAuthor (db : MessengerDb) (id author : String) :
    (db.deleteByAuthor id author).1.contacts = db.contacts := by
  unfold MessengerDb.deleteByAuthor
  split
  · split <;> rfl
  · rfl

theorem contacts_deleteMessagesByAuthor : ∀ (db : MessengerDb) (ids : List String) (author : String),
    (db.deleteMessagesByAuthor ids author).1.contacts = db.contacts
  | _, [], _ => rfl
  | db, id :: ids, author =>
    (contacts_deleteMessagesByAuthor (db.deleteByAuthor id author).1 ids author).trans
      (contacts_deleteByAuthor db id author)

theorem mem_deleteByAuthor (db : MessengerDb) (id author k : String) :
    k ∈ (db.deleteByAuthor id author).2 ↔ k = id ∧ ∃ m, db.message? k = some m ∧ m.senderIdHex = author := by
  unfold MessengerDb.deleteByAuthor
  constructor
  · intro h
    split at h
    · rename_i msg hmsg
      split at h
      · rename_i hs
        obtain rfl := List.mem_singleton.1 h
        exact ⟨rfl, msg, hmsg, hs⟩
      · cases h
    · cases h
  · rintro ⟨rfl, m, hm, hs⟩
    rw [hm]
    dsimp only
    rw [if_pos hs]
    exact List.mem_singleton.2 rfl

/-- What is returned as deleted are the listed ids of the author's messages. -/
theorem mem_deleteMessagesByAuthor : ∀ (db : MessengerDb) (ids : List String) (author k : String),
    k ∈ (db.deleteMessagesByAuthor ids author).2 ↔ k ∈ ids ∧ ∃ m, db.message? k = some m ∧ m.senderIdHex = author
  | db, [], author, k => by simp [MessengerDb.deleteMessagesByAuthor]
  | db, id :: ids, author, k => by
    unfold MessengerDb.deleteMessagesByAuthor
    simp only [List.mem_append, mem_deleteMessagesByAuthor, mem_deleteByAuthor, MessengerDb.message?_deleteByAuthor,
      List.mem_cons]
    by_cases hk : id = k
    · subst hk
      simp only [true_and, true_or, if_true]
      constructor
      · rintro (h | ⟨-, m, hm, hs⟩)
        · exact h
        · obtain ⟨-, hne⟩ := Option.filter_eq_some_iff.1 hm
          exact absurd hs (of_decide_eq_true hne)
      · exact .inl
    · simp only [hk, Ne.symm hk, false_and, false_or, if_false]

/-- The ids removed are the listed ids of the author's messages. -/
theorem removed_deleteMessagesByAuthor (db : MessengerDb) (ids : List String) (author k : String) :
    Removed db (db.deleteMessagesByAuthor ids author).1 k ↔
      k ∈ ids ∧ ∃ m, db.message? k = some m ∧ m.senderIdHex = author := by
  unfold Removed
  rw [MessengerDb.message?_deleteMessagesByAuthor]
  constructor
  · rintro ⟨⟨m, hm⟩, hnone⟩
    rw [hm] at hnone
    split at hnone
    · rename_i hk
      refine ⟨hk, m, hm, ?_⟩
      rw [Option.filter_eq_none_iff] at hnone
      exact not_not.1 fun hs => hnone m rfl (decide_eq_true hs)
    · cases hnone
  · rintro ⟨hk, m, hm, hs⟩
    refine ⟨⟨m, hm⟩, ?_⟩
    rw [if_pos hk, hm, Option.filter_some_neg (by simp [hs])]

theorem snd_discoverPeer (C : Crypto) (T : PresenceText) (dht : Dht) (db db' : MessengerDb) (r : String) :
    (discoverPeer C T dht db r).2 = (discoverPeer C T dht db' r).2 := by
  unfold discoverPeer
  split
  · rfl
  · rfl
  · split
    · rfl
    · split <;> rfl

theorem fst_discoveredKey (T : PresenceText) (dht : Dht) (db : MessengerDb) (r : String) :
    ∃ contacts, (discoveredKey (C := C) T dht db r).1 = { db with contacts } := by
  obtain ⟨contacts, h⟩ := fst_discoverPeer C T dht db r
  unfold discoveredKey
  rcases hd : discoverPeer C T dht db r with ⟨db', e | card⟩ <;> rw [hd] at h <;> exact ⟨contacts, h⟩

theorem length_discoveredKey : (discoveredKey (C := C) T dht db r).2.1.length ≠ 32 ↔
    ∀ card, (discoverPeer C T dht db r).2 = .ok card → card.x25519Pub.length ≠ 32 := by
  unfold discoveredKey
  rcases discoverPeer C T dht db r with ⟨db', e | card⟩
  · exact ⟨fun _ card h => (by cases h), fun _ h => by cases h⟩
  · exact ⟨fun h card' hc => Except.ok.inj hc ▸ h, fun h => h card rfl⟩

/-- Looking for a key at most makes a contact. -/
theorem db_retractionKey {db' : MessengerDb} {key : Bytes} {addr : Option SocketAddr}
    (h : retractionKey (C := C) T dht db r = .ok (db', key, addr)) : ∃ contacts, db' = { db with contacts } := by
  have hdisc := fst_discoveredKey (C := C) T dht db r
  unfold retractionKey at h
  split at h
  · rw [Outcome.ok.inj h] at hdisc
    exact hdisc
  · rename_i c hc
    cases hd : hexDecode c.x25519PubHex with
    | err e => rw [hd] at h; cases h
    | panic => rw [hd] at h; cases h
    | ok cached =>
      rw [hd] at h
      have h := Outcome.ok.inj h
      cases cached with
      | none =>
        dsimp only at h
        rw [h] at hdisc
        exact hdisc
      | some k' =>
        dsimp only at h
        split at h
        · cases h
          exact ⟨db.contacts, rfl⟩
        · rw [h] at hdisc
          exact hdisc

theorem message?_retractionKey {db' : MessengerDb} {key : Bytes} {addr : Option SocketAddr}
    (h : retractionKey (C := C) T dht db r = .ok (db', key, addr)) (k : String) : db'.message? k = db.message? k := by
  obtain ⟨contacts, rfl⟩ := db_retractionKey h
  rfl

/-- The search ends without a key of 32 bytes exactly if neither a contact nor discovery has one. -/
theorem noKeyFor_iff : NoKeyFor C T dht db r ↔
    ∃ db' key addr, retractionKey (C := C) T dht db r = .ok (db', key, addr) ∧ key.length ≠ 32 := by
  unfold NoKeyFor retractionKey
  rw [← length_discoveredKey]
  -- a contact without 32 bytes of key is passed over for discovery
  cases hc : db.contacts.lookup r with
  | none =>
    constructor
    · rintro ⟨-, hdisc⟩
      exact ⟨_, _, _, rfl, hdisc⟩
    · rintro ⟨db', key, addr, heq, hlen⟩
      rw [Outcome.ok.inj heq]
      exact ⟨fun c h => (by cases h), hlen⟩
  | some c =>
    constructor
    · rintro ⟨hcached, hdisc⟩
      obtain ⟨cached, hd, hk⟩ := hcached c rfl
      dsimp only
      rw [hd]
      cases cached with
      | none => exact ⟨_, _, _, rfl, hdisc⟩
      | some k => exact ⟨_, _, _, congrArg Outcome.ok (if_neg (hk k rfl)), hdisc⟩
    · rintro ⟨db', key, addr, heq, hlen⟩
      dsimp only at heq
      cases hd : hexDecode c.x25519PubHex with
      | err e => rw [hd] at heq; cases heq
      | panic => rw [hd] at heq; cases heq
      | ok cached =>
        rw [hd] at heq
        have heq := Outcome.ok.inj heq
        cases cached with
        | none =>
          dsimp only at heq
          rw [heq]
          refine ⟨?_, hlen⟩
          rintro _ ⟨⟩
          exact ⟨none, hd, fun k hk => by cases hk⟩
        | some k =>
          dsimp only at heq
          split at heq
          · rename_i hlen'
            cases heq
            exact absurd hlen' hlen
          · rename_i hlen'
            rw [heq]
            refine ⟨?_, hlen⟩
            rintro _ ⟨⟩
            exact ⟨some k, hd, fun k' hk => by cases hk; exact hlen'⟩

theorem noKeyFor_congr {db' : MessengerDb} (h : db'.contacts = db.contacts) :
    NoKeyFor C T dht db' r ↔ NoKeyFor C T dht db r := by
  unfold NoKeyFor
  rw [h, snd_discoverPeer C T dht db' db r]

theorem retractionKey_ne_err (e : String) : retractionKey (C := C) T dht db r ≠ .err e := by
  intro h
  unfold retractionKey at h
  split at h
  · cases h
  · rename_i c hc
    cases hd : hexDecode c.x25519PubHex with
    | ok cached => rw [hd] at h; cases h
    | err e => exact hexDecode_ne_err _ e hd
    | panic => rw [hd] at h; cases h

theorem message?_deliverTombstone {J : PayloadJson} {deletedIds : List String} {now : UInt64} {ephSeed nonce : Bytes}
    {timestamp : UInt64} (k : String) :
    (deliverTombstone T J me dht db r deletedIds now ephSeed nonce timestamp).db.message? k = db.message? k := by
  unfold deliverTombstone
  split
  · rfl
  · rfl
  · split
    · rfl
    · rfl
    · rename_i hk
      split <;> exact message?_retractionKey hk k

variable (T me) (now : UInt64) (ephSeed nonce : Bytes) (timestamp : UInt64)

/-- Once messages are deleted, all depends on whether the tombstone can be sealed. -/
theorem deliverTombstone_atomic_iff {db' : MessengerDb} {deletedIds : List String}
    (hids : ∀ id, id ∈ deletedIds ↔ Removed db db' id) (hsome : ∃ id, Removed db db' id) :
    Atomic db r (deliverTombstone T J me dht db' r deletedIds now ephSeed nonce timestamp) ↔
      ¬ Unsealable C T dht db' r := by
  -- a message is gone already, so an error comes too late
  have hne : db' ≠ db := by
    rintro rfl
    obtain ⟨id, ⟨m, hm⟩, hnone⟩ := hsome
    cases hm.symm.trans hnone
  unfold deliverTombstone Unsealable
  cases hid : NodeId.fromHex r with
  | err e => exact ⟨fun h => absurd (h.err e rfl) hne, fun h => absurd (.inl ⟨e, rfl⟩) h⟩
  | panic =>
    refine ⟨?_, fun _ => ⟨fun _ h => (by cases h), fun h => by cases h⟩⟩
    rintro - (⟨e, h⟩ | ⟨⟨_, h⟩, -⟩) <;> cases h
  | ok recipientId =>
    rw [noKeyFor_iff]
    dsimp only
    cases hk : retractionKey (C := C) T dht db' r with
    | err e => exact absurd hk (retractionKey_ne_err e)
    | panic =>
      refine ⟨?_, fun _ => ⟨fun _ h => (by cases h), fun h => by cases h⟩⟩
      rintro - (⟨e, h⟩ | ⟨-, _, _, _, h, -⟩) <;> cases h
    | ok found =>
      obtain ⟨db'', key, addr⟩ := found
      -- looking for the key brings no message back
      have hsame : ∀ id, Removed db db'' id ↔ Removed db db' id := fun id => by
        unfold Removed
        rw [message?_retractionKey hk]
      dsimp only
      by_cases hlen : key.length = 32
      · rw [if_pos hlen]
        constructor
        · rintro - (⟨e, h⟩ | ⟨-, _, _, _, h, hlen'⟩)
          · cases h
          · cases h
            exact hlen' hlen
        · intro _
          refine ⟨fun _ h => (by cases h), fun _ _ => ⟨_, rfl, hid, rfl, fun id => ?_⟩⟩
          rw [hsame]
          exact hids id
      · rw [if_neg hlen]
        constructor
        · intro h
          obtain ⟨id, hrem⟩ := hsome
          obtain ⟨_, hnone, -⟩ := h.handed rfl ⟨id, (hsame id).2 hrem⟩
          cases hnone
        · intro h
          exact absurd (.inr ⟨⟨_, rfl⟩, _, _, _, rfl, hlen⟩) h

/-- The call is atomic exactly if it names no own message, or a tombstone can be sealed for the recipient. -/
theorem deleteMessagesForEveryone_atomic_iff (dht : Dht) (db : MessengerDb) (r : String) (messageIds : List String) :
    Atomic db r (deleteMessagesForEveryone T J me dht db r messageIds now ephSeed nonce timestamp) ↔
      ¬ (NamesOwn me db messageIds ∧ Unsealable C T dht db r) := by
  have hremoved := removed_deleteMessagesByAuthor db messageIds me.userIdHex
  have hdeleted := mem_deleteMessagesByAuthor db messageIds me.userIdHex
  have hcontacts := contacts_deleteMessagesByAuthor db messageIds me.userIdHex
  unfold deleteMessagesForEveryone
  rcases hd : db.deleteMessagesByAuthor messageIds me.userIdHex with ⟨db', deletedIds⟩
  rw [hd] at hremoved hdeleted hcontacts
  dsimp only at hremoved hdeleted hcontacts ⊢
  have hids : ∀ id, id ∈ deletedIds ↔ Removed db db' id := fun id => (hdeleted id).trans (hremoved id).symm
  have hnames : NamesOwn me db messageIds ↔ ∃ id, id ∈ deletedIds := exists_congr fun id => (hdeleted id).symm
  -- where nothing is deleted, nothing else is done
  have hquiet : (¬ ∃ id, id ∈ deletedIds) → Atomic db r { db := db', outcome := .ok () } := by
    intro hno
    refine ⟨fun _ h => (by cases h), fun _ => ?_⟩
    rintro ⟨id, hrem⟩
    exact absurd ⟨id, (hids id).2 hrem⟩ hno
  split
  · rename_i hempty
    rw [List.isEmpty_iff] at hempty
    subst hempty
    cases hd
    refine ⟨fun _ h => ?_, fun _ => hquiet (by simp)⟩
    obtain ⟨id, hid, -⟩ := h.1
    cases hid
  · split
    · rename_i he
      have hno : ¬ ∃ id, id ∈ deletedIds := by
        rw [List.isEmpty_iff.1 he]
        simp
      exact ⟨fun _ h => hno (hnames.1 h.1), fun _ => hquiet hno⟩
    · rename_i he
      obtain ⟨id, hid⟩ := List.isEmpty_eq_false_iff_exists_mem.1 (eq_false_of_ne_true he)
      have hunseal : Unsealable C T dht db' r ↔ Unsealable C T dht db r :=
        or_congr_right (and_congr_right fun _ => noKeyFor_congr hcontacts)
      rw [deliverTombstone_atomic_iff T J me now ephSeed nonce timestamp hids ⟨id, (hids id).1 hid⟩, hunseal]
      exact not_congr (and_iff_right (hnames.2 ⟨id, hid⟩)).symm

end Atomicity

namespace SavedMessages

open NodeX.Sample

/-- A note of Alice's in the chat she keeps with herself. -/
def note : SavedChatMessage :=
  { id := "m1", senderIdHex := alice.userIdHex, recipientIdHex := "self_saved_messages", text := "Buy milk"
    timestamp := 1700000000, incoming := false, delivered := true }

def db : MessengerDb := MessengerDb.addMessage {} note

def presenceText : PresenceText where
  parseCard _ := .error "expected value at line 1 column 1"
  printSigned _ := []
  showAddr _ := ""
  parseAddr _ := none
  signatureError := "signature error"

def payloadJson : PayloadJson where
  print _ := []
  parse _ := none
  printTombstone _ := []
  utf8Lossy _ := ""

/-- She deletes it for everyone. -/
def retraction : Retraction :=
  deleteMessagesForEveryone presenceText payloadJson alice (fun _ => .ok none) db "self_saved_messages" ["m1"]
    1700000060
    (List.replicate 32 1) (List.replicate 12 1) 1700000060

end SavedMessages

open SavedMessages in
/-- The call fails, as that chat has no user id, and the note is gone. -/
theorem deleteMessagesForEveryone_atomic_savedMessages :
    retraction.outcome = .err "Expected 40 hex chars, got 19" ∧ db.message? "m1" = some note ∧
      retraction.db.message? "m1" = none ∧ ¬ Atomic db "self_saved_messages" retraction := by
  have hout : retraction.outcome = .err "Expected 40 hex chars, got 19" := by decide +kernel
  have hgone : retraction.db.message? "m1" = none := by decide +kernel
  refine ⟨hout, by decide +kernel, hgone, fun h => ?_⟩
  have hthere : db.message? "m1" = none := h.err _ hout ▸ hgone
  exact absurd hthere (by decide)

end NodeX.Messenger
