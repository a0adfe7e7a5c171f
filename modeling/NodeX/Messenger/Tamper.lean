/-
What a signature fixes. From version 3 on an envelope that is opened has its whole content in the
bytes that were signed, so two that carry one signature of one sender are equal.
-/
import NodeX.Messenger.Envelope

namespace NodeX.Messenger

/-! ## The signed bytes -/

/-- The parts of the signed bytes have lengths of their own, all but the last. -/
theorem signPayloadV3_inj {v v' : UInt8} {s s' r r' : NodeId} {x x' eph eph' nonce nonce' ct ct' : Bytes}
    {ts ts' : UInt64} (hx : x.length = 32) (hx' : x'.length = 32) (heph : eph.length = 32) (heph' : eph'.length = 32)
    (hn : nonce.length = 12) (hn' : nonce'.length = 12)
    (h : signPayloadV3 v s r x eph nonce ts ct = signPayloadV3 v' s' r' x' eph' nonce' ts' ct') :
    v = v' ∧ s = s' ∧ r = r' ∧ x = x' ∧ eph = eph' ∧ nonce = nonce' ∧ ts = ts' ∧ ct = ct' := by
  unfold signPayloadV3 at h
  simp only [List.append_assoc] at h
  have h := List.append_cancel_left h
  obtain ⟨hv, h⟩ := List.append_inj h rfl
  obtain ⟨hs, h⟩ := List.append_inj h (s.size.trans s'.size.symm)
  obtain ⟨hr, h⟩ := List.append_inj h (r.size.trans r'.size.symm)
  obtain ⟨hxx, h⟩ := List.append_inj h (hx.trans hx'.symm)
  obtain ⟨hee, h⟩ := List.append_inj h (heph.trans heph'.symm)
  obtain ⟨hnn, h⟩ := List.append_inj h (hn.trans hn'.symm)
  obtain ⟨hts, hct⟩ := List.append_inj h rfl
  exact ⟨List.singleton_inj.1 hv, NodeId.eq_of_bytes hs, NodeId.eq_of_bytes hr, hxx, hee, hnn, beBytes_inj hts, hct⟩

/-! ## Envelopes that are opened -/

variable {C : Crypto} {recipient : UserIdentity C} {e e' : EncryptedEnvelope}

/-- What was checked of an envelope of version 3 or higher before it was opened. -/
structure CheckedV3 (C : Crypto) (recipient : UserIdentity C) (e : EncryptedEnvelope) (eph : Bytes) : Prop where
  nonce : e.nonce.length = 12
  ed25519 : e.senderEd25519Pub.length = 32
  x25519 : e.senderX25519Pub.length = 32
  ephemeral : e.ephemeralX25519Pub = some eph
  ephLength : eph.length = 32
  recipientId : e.recipientId = recipient.userId
  senderId : NodeId.fromKey C e.senderEd25519Pub = e.senderId
  signature : C.verify e.senderEd25519Pub (signPayloadV3 e.version e.senderId e.recipientId e.senderX25519Pub eph
    e.nonce e.timestamp e.ciphertext) e.signature = true

theorem checkedV3_of_ok {plaintext : Bytes} (h : decryptEnvelope C recipient e = .ok plaintext) (hv : 3 ≤ e.version) :
    ∃ eph, CheckedV3 C recipient e eph := by
  obtain ⟨hrecipient, hsender⟩ := decryptEnvelope_ok C h
  unfold decryptEnvelope at h
  split at h
  · cases h
  · rename_i hlengths
    simp only [Bool.or_eq_true, bne_iff_ne, ne_eq, not_or, not_not] at hlengths
    obtain ⟨⟨⟨⟨⟨hnonce, -⟩, hed⟩, hx⟩, heph⟩, -⟩ := hlengths
    split at h
    · cases h
    · split at h
      · cases h
      · rename_i eph hsome
        split at h
        · cases h
        · rename_i hsig
          refine ⟨eph, hnonce, hed, hx, hsome, ?_, hrecipient, hsender, by simpa using hsig⟩
          rw [hsome] at heph
          simpa using heph

/-- After the checks, the ciphertext decides. -/
theorem CheckedV3.decryptEnvelope_eq {eph : Bytes} (h : CheckedV3 C recipient e eph) (hv : 3 ≤ e.version) :
    decryptEnvelope C recipient e = openCiphertext C (payloadKey C e.nonce (C.dh recipient.x25519Secret eph)
      (C.dh recipient.x25519Secret e.senderX25519Pub)) e := by
  have hsig := h.signature
  unfold Crypto.verify at hsig
  simp only [Bool.and_eq_true, beq_iff_eq] at hsig
  obtain ⟨⟨-, hlength⟩, -⟩ := hsig
  unfold decryptEnvelope
  rw [if_neg (by simp [h.nonce, hlength, h.ed25519, h.x25519, h.ephemeral, h.ephLength, h.recipientId]),
    if_neg (by simp [h.senderId]), if_pos hv, h.ephemeral]
  dsimp only
  rw [h.signature, if_neg (by decide)]

theorem CheckedV3.edVerify {eph : Bytes} (h : CheckedV3 C recipient e eph) :
    C.edVerify e.senderEd25519Pub (signPayloadV3 e.version e.senderId e.recipientId e.senderX25519Pub eph e.nonce
      e.timestamp e.ciphertext) e.signature = true :=
  C.edVerify_of_verify h.signature

/-- One key and one signature, and the key fixes what it signed. -/
theorem CheckedV3.eq_of_key {eph eph' : Bytes} (h : CheckedV3 C recipient e eph) (h' : CheckedV3 C recipient e' eph')
    (hideal : ∀ m m', C.edVerify e.senderEd25519Pub m e.signature = true →
      C.edVerify e.senderEd25519Pub m' e.signature = true → m = m')
    (hkey : e.senderEd25519Pub = e'.senderEd25519Pub) (hsig : e.signature = e'.signature) : e = e' := by
  have hverify' := h'.edVerify
  rw [← hkey, ← hsig] at hverify'
  have hpayload := hideal _ _ h.edVerify hverify'
  obtain ⟨hv, hs, hr, hx, heph, hn, hts, hct⟩ :=
    signPayloadV3_inj h.x25519 h'.x25519 h.ephLength h'.ephLength h.nonce h'.nonce hpayload
  have hephs : e.ephemeralX25519Pub = e'.ephemeralX25519Pub := by rw [h.ephemeral, h'.ephemeral, heph]
  cases e
  cases e'
  simp_all

variable (recipient) in
/-- Two envelopes from version 3 on that a recipient opens and that carry one signature are equal in
every field if they name one sender; or if no two keys verify that signature. A key and the signature
fix the message, and the two keys do not collide under the id hash. -/
theorem opened_eq_of_signature (plaintext plaintext' : Bytes)
    (hideal : ∀ m m', C.edVerify e.senderEd25519Pub m e.signature = true →
      C.edVerify e.senderEd25519Pub m' e.signature = true → m = m')
    (hhash : NodeId.fromKey C e.senderEd25519Pub = NodeId.fromKey C e'.senderEd25519Pub →
      e.senderEd25519Pub = e'.senderEd25519Pub)
    (hv : 3 ≤ e.version) (hv' : 3 ≤ e'.version) (hok : decryptEnvelope C recipient e = .ok plaintext)
    (hok' : decryptEnvelope C recipient e' = .ok plaintext') (hsig : e.signature = e'.signature) :
    (e.senderId = e'.senderId → e = e') ∧
      ((∀ key key' m m', C.edVerify key m e.signature = true → C.edVerify key' m' e.signature = true → key = key') →
        e = e') := by
  obtain ⟨eph, h⟩ := checkedV3_of_ok hok hv
  obtain ⟨eph', h'⟩ := checkedV3_of_ok hok' hv'
  constructor
  · intro hsender
    refine h.eq_of_key h' hideal (hhash ?_) hsig
    rw [h.senderId, h'.senderId, hsender]
  · intro hone
    have hverify' := h'.edVerify
    rw [← hsig] at hverify'
    exact h.eq_of_key h' hideal (hone _ _ _ _ h.edVerify hverify') hsig

/-! ## Two senders -/

section Sample

open NodeX.Sample

/-- Primitives where just the listed signatures verify. -/
def tableCrypto (table : List (Bytes × Bytes × Bytes)) : Crypto :=
  { Crypto.transparent with edVerify := fun key m sig => table.contains (key, m, sig) }

def sharedSignature : Bytes := List.replicate 64 7

/-- An envelope to Bob that carries the signature. -/
def sharing (sender : UserIdentity .transparent) (text : String) : EncryptedEnvelope :=
  { encryptEnvelope .transparent sender bob.userId bob.x25519Public (utf8 text) (List.replicate 32 1)
      (List.replicate 12 2) 100 with signature := sharedSignature }

/-- The key, the signed bytes and the signature. -/
def signedEntry (sender : UserIdentity .transparent) (text : String) : Bytes × Bytes × Bytes :=
  let e := sharing sender text
  (sender.verifyingKey, signPayloadV3 e.version e.senderId e.recipientId e.senderX25519Pub
    (e.ephemeralX25519Pub.getD []) e.nonce e.timestamp e.ciphertext, sharedSignature)

def twoSigners : Crypto := tableCrypto [signedEntry alice "yes", signedEntry mallory "no"]

/-- Bob, with these primitives. -/
def bobOf (table : List (Bytes × Bytes × Bytes)) : UserIdentity (tableCrypto table) :=
  .fromSeed (tableCrypto table) (List.replicate 32 5)

theorem opened_eq_of_signature_twoSigners :
    ¬ ∀ (C : Crypto) (recipient : UserIdentity C) (e e' : EncryptedEnvelope) (plaintext plaintext' : Bytes),
      (∀ key m m' sig, C.edVerify key m sig = true → C.edVerify key m' sig = true → m = m') →
      (NodeId.fromKey C e.senderEd25519Pub = NodeId.fromKey C e'.senderEd25519Pub →
        e.senderEd25519Pub = e'.senderEd25519Pub) →
      3 ≤ e.version → 3 ≤ e'.version → decryptEnvelope C recipient e = .ok plaintext →
      decryptEnvelope C recipient e' = .ok plaintext' → e.signature = e'.signature → e = e' := by
  intro h
  have heq := h twoSigners (bobOf _) (sharing alice "yes") (sharing mallory "no") (utf8 "yes") (utf8 "no") ?_
    (fun hid => absurd hid (by decide +kernel)) (by decide) (by decide) (by decide +kernel) (by decide +kernel) rfl
  · exact absurd (congrArg (·.senderId) heq) (by decide +kernel)
  · intro key m m' sig hm hm'
    have hkeys : alice.verifyingKey ≠ mallory.verifyingKey := by decide +kernel
    simp only [twoSigners, tableCrypto, List.contains_eq_mem, List.mem_cons, List.not_mem_nil, or_false,
      decide_eq_true_eq, signedEntry, Prod.mk.injEq] at hm hm'
    rcases hm with ⟨rfl, rfl, -⟩ | ⟨rfl, rfl, -⟩ <;> rcases hm' with ⟨hk, rfl, -⟩ | ⟨hk, rfl, -⟩
    · rfl
    · exact absurd hk hkeys
    · exact absurd hk hkeys.symm
    · rfl

/-- One envelope of Alice's, twice, with her signature the only one. -/
theorem opened_eq_of_signature_alice :
    ((sharing alice "yes").senderId = (sharing alice "yes").senderId → sharing alice "yes" = sharing alice "yes") ∧
      ((∀ key key' m m', (tableCrypto [signedEntry alice "yes"]).edVerify key m (sharing alice "yes").signature = true →
          (tableCrypto [signedEntry alice "yes"]).edVerify key' m' (sharing alice "yes").signature = true →
            key = key') →
        sharing alice "yes" = sharing alice "yes") := by
  refine opened_eq_of_signature (bobOf [signedEntry alice "yes"]) (utf8 "yes") (utf8 "yes") ?_ (fun _ => rfl)
    (by decide) (by decide) (by decide +kernel) (by decide +kernel) rfl
  intro m m' hm hm'
  simp only [tableCrypto, List.contains_eq_mem, List.mem_singleton, decide_eq_true_eq, signedEntry, Prod.mk.injEq]
    at hm hm'
  rw [hm.2.1, hm'.2.1]

end Sample

end NodeX.Messenger
