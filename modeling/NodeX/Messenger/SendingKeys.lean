/-
Which key of a saved contact each sending path seals to. `try_deliver_payload` takes a contact with
one of four marks for a stand-in and asks discovery; receipts, tombstones and voice frames read the
same record and take any key of 32 bytes in it.
-/
import NodeX.Messenger.Client

namespace NodeX.Messenger

open NodeX.Lib

variable {C : Crypto}

/-! ## What each path seals to -/

/-- `send_call_audio` seals a frame to a key. -/
def audioFrame (me : UserIdentity C) (recipientId : NodeId) (key : Bytes) (callId : String) (samples : List UInt16)
    (rate : UInt32) (seq : UInt64) (nonce ephSeed : Bytes) : Bytes :=
  let parties := me.userId.bytes ++ recipientId.bytes
  let header := audioHeader (UInt8.ofNat (utf8 callId).length) (utf8 callId) seq rate
  let ciphertext := C.aeadEncrypt (audioKey C nonce (C.dh ephSeed key) (C.dh me.x25519Secret key)) nonce
    (audioAad parties header) (pcmBytes samples)
  audioMagic ++ parties ++ header ++ nonce ++ C.xPublic ephSeed ++ toBe 2 ciphertext.length ++ ciphertext

section Paths

variable (T : PresenceText) (J : PayloadJson) (me : UserIdentity C) (c : SavedContact) (key : Bytes)

/-- A receipt for the contact's user goes out, sealed to the key. -/
def ReceiptSealedTo : Prop :=
  ∃ (s : Client me) (messageId : String) (now : Nat) (x : Sealing) (recipientId : NodeId),
    s.db.contacts.lookup c.userIdHex = some c ∧
      (s.sendDeliveryReceipt J c.userIdHex messageId now x).attempts = s.attempts ++
        [{ job := .once, recipientIdHex := c.userIdHex, payload := receiptPayload me messageId (UInt64.ofNat now)
           sealed := .ok (encryptEnvelope C me recipientId key
             (J.print (receiptPayload me messageId (UInt64.ofNat now))) x.ephSeed x.nonce x.timestamp) }]

/-- A tombstone for the contact's user goes out, sealed to the key. -/
def TombstoneSealedTo : Prop :=
  ∃ (dht : Dht) (db : MessengerDb) (messageIds : List String) (now : UInt64) (ephSeed nonce : Bytes)
    (timestamp : UInt64) (h : HandedTombstone),
    db.contacts.lookup c.userIdHex = some c ∧
      (deleteMessagesForEveryone T J me dht db c.userIdHex messageIds now ephSeed nonce timestamp).handed = some h ∧
        h.key = key

/-- A voice frame for the contact's user goes out, sealed to the key. -/
def AudioSealedTo : Prop :=
  ∃ (db : MessengerDb) (routing : Option (List Kad.Contact)) (callId : String) (samples : List UInt16) (rate : UInt32)
    (seq : UInt64) (nonce ephSeed : Bytes) (addr : SocketAddr) (recipientId : NodeId),
    db.contacts.lookup c.userIdHex = some c ∧
      callAudioFrame T me db routing c.userIdHex callId samples rate seq nonce ephSeed =
        .ok (addr, audioFrame me recipientId key callId samples rate seq nonce ephSeed)

/-- A key of the contact that `try_deliver_payload` refuses as a stand-in is sealed to by no other path. -/
def PathsAgree : Prop :=
  ∀ key addr, cachedKey T c = .ok (some key, addr, true) →
    ¬ ReceiptSealedTo J me c key ∧ ¬ TombstoneSealedTo T J me c key ∧ ¬ AudioSealedTo T me c key

end Paths

/-- The marks of a stand-in: no key, the Ed25519 key in its place, or an address nobody announced. -/
def SavedContact.IsPlaceholder (c : SavedContact) : Prop :=
  c.x25519PubHex = "" ∨ c.x25519PubHex = c.ed25519PubHex ∨ c.lastSeenAddr = "127.0.0.1:8444" ∨
    c.lastSeenAddr = "unknown"

/-- The record has a user id and a key that a path without the marks can use. -/
def SavedContact.Usable (c : SavedContact) : Prop :=
  (∃ id, NodeId.fromHex c.userIdHex = .ok id) ∧ ∃ key, hexDecode c.x25519PubHex = .ok (some key) ∧ key.length = 32

/-! ## The paths one by one -/

section Lemmas

variable {T : PresenceText} {J : PayloadJson} {me : UserIdentity C} {c : SavedContact} {key : Bytes}

theorem cachedKey_placeholder_iff {addr : Option SocketAddr} :
    cachedKey T c = .ok (some key, addr, true) ↔
      hexDecode c.x25519PubHex = .ok (some key) ∧ T.parseAddr c.lastSeenAddr = addr ∧ c.IsPlaceholder := by
  unfold cachedKey SavedContact.IsPlaceholder
  cases hexDecode c.x25519PubHex with
  | ok k => simp [Outcome.map, or_assoc]
  | err e => simp [Outcome.map]
  | panic => simp [Outcome.map]

/-- `try_deliver_payload` seals nothing to a stand-in: what it resolves, discovery found. -/
theorem resolveRecipient_placeholder {dht : Dht} {db : MessengerDb} {r : String} {d : Resolved}
    (hc : db.contacts.lookup r = some c) (hp : c.IsPlaceholder) (h : resolveRecipient C T dht db r = .ok d) :
    d.discovered = true := by
  obtain ⟨c', key, addr, hc', hk, rfl⟩ | ⟨db', card, -, rfl⟩ := resolveRecipient_eq_ok C T h
  · -- a cached key has none of the marks
    obtain rfl := Option.some.inj (hc.symm.trans hc')
    obtain ⟨k, -, hk⟩ := Outcome.map_eq_ok.1 hk
    have hflag := congrArg (fun p : Option Bytes × Option SocketAddr × Bool => p.2.2) hk
    simp only [Bool.or_eq_false_iff, decide_eq_false_iff_not] at hflag
    obtain ⟨⟨⟨hempty, hsame⟩, hlocal⟩, hunknown⟩ := hflag
    rcases hp with hp | hp | hp | hp
    · exact absurd hp hempty
    · exact absurd hp hsame
    · exact absurd hp hlocal
    · exact absurd hp hunknown
  · rfl

theorem usable_of_receipt (h : ReceiptSealedTo J me c key) : c.Usable := by
  obtain ⟨s, messageId, now, x, recipientId, hc, hsent⟩ := h
  unfold Client.sendDeliveryReceipt at hsent
  rw [hc] at hsent
  have hne : ∀ a, ¬ s.attempts = s.attempts ++ [a] := fun a h => by
    have hlen := congrArg List.length h
    rw [List.length_append, List.length_singleton] at hlen
    omega
  split at hsent
  · rename_i id k hid hk
    split at hsent
    · rename_i hlen
      exact ⟨⟨id, hid⟩, k, by simpa using hk, hlen⟩
    · exact absurd hsent (hne _)
  · exact absurd hsent (hne _)

theorem usable_of_tombstone (hkey : hexDecode c.x25519PubHex = .ok (some key)) (h : TombstoneSealedTo T J me c key) :
    c.Usable := by
  obtain ⟨dht, db, messageIds, now, ephSeed, nonce, timestamp, handed, hc, hsent, rfl⟩ := h
  unfold deleteMessagesForEveryone at hsent
  split at hsent
  · cases hsent
  · dsimp only at hsent
    split at hsent
    · cases hsent
    · unfold deliverTombstone at hsent
      split at hsent
      · cases hsent
      · cases hsent
      · rename_i recipientId hid
        split at hsent
        · cases hsent
        · cases hsent
        · split at hsent
          · rename_i hlen
            obtain rfl := Option.some.inj hsent
            exact ⟨⟨recipientId, hid⟩, _, hkey, hlen⟩
          · cases hsent

theorem usable_of_audio (h : AudioSealedTo T me c key) : c.Usable := by
  obtain ⟨db, routing, callId, samples, rate, seq, nonce, ephSeed, addr, recipientId, hc, hsent⟩ := h
  unfold callAudioFrame at hsent
  dsimp only at hsent
  split at hsent
  · cases hsent
  · obtain ⟨id, hid, hsent⟩ := Outcome.bind_eq_ok.1 hsent
    rw [hc] at hsent
    obtain ⟨k, hk, hsent⟩ := Outcome.bind_eq_ok.1 hsent
    cases k with
    | none => cases hsent
    | some k =>
      dsimp only at hsent
      split at hsent
      · cases hsent
      · rename_i hlen
        exact ⟨⟨id, Outcome.mapErr_eq_ok.1 hid⟩, k, Outcome.mapErr_eq_ok.1 hk, not_not.1 hlen⟩

/-- A client that knows the contact sends it a receipt. -/
theorem receipt_of_usable {id : NodeId} (hid : NodeId.fromHex c.userIdHex = .ok id)
    (hkey : hexDecode c.x25519PubHex = .ok (some key)) (hlen : key.length = 32) : ReceiptSealedTo J me c key := by
  let s : Client me := { inbox := { db := { contacts := Finmap.singleton c.userIdHex c } } }
  have hc : s.db.contacts.lookup c.userIdHex = some c := Finmap.lookup_singleton_eq
  refine ⟨s, "", 0, ⟨fun _ => .ok none, false, List.replicate 32 0, List.replicate 12 0, 0⟩, id, hc, ?_⟩
  unfold Client.sendDeliveryReceipt
  rw [hc, hid, Option.map_some, hkey]
  dsimp only
  rw [if_pos hlen]
  rfl

end Lemmas

/-! ## Agreement -/

/-- For every contact record, the sending paths agree exactly if it is not both marked as a
stand-in and usable. -/
theorem pathsAgree_iff (T : PresenceText) (J : PayloadJson) (me : UserIdentity C) (c : SavedContact) :
    PathsAgree T J me c ↔ ¬ (c.IsPlaceholder ∧ c.Usable) := by
  constructor
  · rintro h ⟨hp, ⟨id, hid⟩, key, hkey, hlen⟩
    exact (h key _ (cachedKey_placeholder_iff.2 ⟨hkey, rfl, hp⟩)).1 (receipt_of_usable hid hkey hlen)
  · intro h key addr hcached
    obtain ⟨hkey, -, hp⟩ := cachedKey_placeholder_iff.1 hcached
    exact ⟨fun hr => h ⟨hp, usable_of_receipt hr⟩, fun ht => h ⟨hp, usable_of_tombstone hkey ht⟩,
      fun ha => h ⟨hp, usable_of_audio ha⟩⟩

/-- The contact the user interface makes of a typed user id that nobody answers for: the key is a
digest, and nobody has the secret one. -/
def typedContact (C : Crypto) (id : String) : SavedContact :=
  { userIdHex := id, name := "", bio := "", ed25519PubHex := id
    x25519PubHex := hexString (C.sha256 (utf8 "NodeX-Deterministic-X25519" ++ utf8 id)),
    lastSeenAddr := "127.0.0.1:8444" }

theorem pathsAgree_typed :
    ¬ PathsAgree Talk.presenceText (Talk.json []) Sample.alice (typedContact .transparent Sample.bob.userIdHex) := by
  rw [pathsAgree_iff, not_not]
  refine ⟨.inr (.inr (.inl rfl)), ⟨Sample.bob.userId, NodeId.fromHex_toHex _⟩, _, hexDecode_hexString ?_, ?_⟩
  · exact List.ne_nil_of_length_eq_add_one (leBytes_length 32 _)
  · exact leBytes_length 32 _

end NodeX.Messenger
