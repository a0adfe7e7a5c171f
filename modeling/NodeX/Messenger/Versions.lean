/-
Signatures across the envelope versions. The bytes signed from version 3 on start with a tag, those of version 2 with
the byte 2, and the older ones with the sender's id, so that only certain ids let one signature stand for two formats.
-/
import NodeX.Messenger.Tamper

namespace NodeX.Messenger

/-! ## The three formats -/

inductive EnvelopeFormat where
  | v1
  | v2
  | v3
deriving DecidableEq

namespace EncryptedEnvelope

def format (e : EncryptedEnvelope) : EnvelopeFormat :=
  if 3 ≤ e.version then .v3 else if e.version == 2 then .v2 else .v1

/-- The bytes whose signature is checked; from version 2 on there are none without an ephemeral key. -/
def signPayload? (e : EncryptedEnvelope) : Option Bytes :=
  match e.format with
  | .v3 => e.ephemeralX25519Pub.map fun eph => signPayloadV3 e.version e.senderId e.recipientId e.senderX25519Pub eph
      e.nonce e.timestamp e.ciphertext
  | .v2 => e.ephemeralX25519Pub.map fun eph => signPayloadV2 e.version e.senderId e.recipientId eph e.timestamp
      e.ciphertext
  | .v1 => some (signPayloadV1 e.senderId e.recipientId e.timestamp e.ciphertext)

end EncryptedEnvelope

/-- The outcome for an envelope whose signature was accepted: it is opened, or refused by the cipher. -/
def pastSignature : Except String Bytes → Bool
  | .ok _ => true
  | .error err => err = "Decryption failed! Key mismatch or corrupted ciphertext."

/-- `decrypt_envelope` gets past the signature check. -/
def passesSignature (C : Crypto) (recipient : UserIdentity C) (e : EncryptedEnvelope) : Bool :=
  pastSignature (decryptEnvelope C recipient e)

variable {C : Crypto} {recipient recipient' : UserIdentity C} {e e' : EncryptedEnvelope}

/-- A check that refuses the envelope earlier was passed. -/
theorem pastSignature_ite {refused : Prop} [Decidable refused] {err : String} {rest : Except String Bytes}
    (herr : err ≠ "Decryption failed! Key mismatch or corrupted ciphertext.") :
    pastSignature (if refused then .error err else rest) = true ↔ ¬refused ∧ pastSignature rest = true := by
  by_cases h : refused
  · rw [if_pos h]
    exact iff_of_false (by simpa [pastSignature] using herr) fun hn => hn.1 h
  · rw [if_neg h]
    exact (and_iff_right h).symm

/-- What was checked of an envelope that gets past the signature check. -/
theorem signed_of_passesSignature (h : passesSignature C recipient e = true) :
    NodeId.fromKey C e.senderEd25519Pub = e.senderId ∧
      ∃ payload, e.signPayload? = some payload ∧ C.verify e.senderEd25519Pub payload e.signature = true := by
  unfold passesSignature decryptEnvelope at h
  rw [pastSignature_ite (by decide), pastSignature_ite (by decide)] at h
  obtain ⟨-, hsender, h⟩ := h
  refine ⟨by simpa using hsender, ?_⟩
  unfold EncryptedEnvelope.signPayload? EncryptedEnvelope.format
  by_cases h3 : 3 ≤ e.version
  · rw [if_pos h3] at h ⊢
    cases heph : e.ephemeralX25519Pub with
    | none =>
      rw [heph] at h
      change pastSignature (.error "Missing ephemeral key in v3 envelope") = true at h
      exact absurd h (by decide)
    | some eph =>
      rw [heph] at h
      dsimp only at h
      rw [pastSignature_ite (by decide)] at h
      exact ⟨_, rfl, by simpa using h.1⟩
  · rw [if_neg h3] at h ⊢
    by_cases h2 : (e.version == 2) = true
    · rw [if_pos h2] at h ⊢
      cases heph : e.ephemeralX25519Pub with
      | none =>
        rw [heph] at h
        change pastSignature (.error "Missing ephemeral key in v2 envelope") = true at h
        exact absurd h (by decide)
      | some eph =>
        rw [heph] at h
        dsimp only at h
        rw [pastSignature_ite (by decide)] at h
        exact ⟨_, rfl, by simpa using h.1⟩
    · rw [if_neg h2] at h ⊢
      rw [pastSignature_ite (by decide)] at h
      exact ⟨_, rfl, by simpa using h.1⟩

/-! ## Payloads of two formats -/

/-- A list that goes on with itself, one place later, repeats the byte in front. -/
theorem eq_of_cons_append_eq : ∀ {bs xs ys : Bytes} {b : UInt8}, b :: bs ++ xs = bs ++ ys → ∀ c ∈ bs, c = b
  | [], _, _, _, _, c, hc => by cases hc
  | d :: bs, xs, ys, b, h, c, hc => by
    obtain ⟨hb, h⟩ := List.cons.inj h
    rcases List.mem_cons.1 hc with rfl | hc
    · exact hb.symm
    · rw [eq_of_cons_append_eq h c hc, hb]

/-- How the payload of each format starts. -/
theorem signPayload_start {payload : Bytes} (h : e.signPayload? = some payload) :
    e.format = .v3 ∧ utf8 "NodeX-envelope-v3" <+: payload ∨ e.format = .v2 ∧ 2 :: e.senderId.bytes <+: payload ∨
      e.format = .v1 ∧ e.senderId.bytes <+: payload := by
  unfold EncryptedEnvelope.signPayload? at h
  cases hf : e.format with
  | v3 =>
    simp only [hf] at h
    obtain ⟨eph, -, rfl⟩ := Option.map_eq_some_iff.1 h
    refine .inl ⟨rfl, ?_⟩
    unfold signPayloadV3
    simp only [List.append_assoc]
    exact List.prefix_append _ _
  | v2 =>
    simp only [hf] at h
    obtain ⟨eph, -, rfl⟩ := Option.map_eq_some_iff.1 h
    have hv : e.version = 2 := by
      unfold EncryptedEnvelope.format at hf
      split at hf
      · cases hf
      · split at hf
        · rename_i hv
          exact beq_iff_eq.1 hv
        · cases hf
    refine .inr (.inl ⟨rfl, ?_⟩)
    unfold signPayloadV2
    simp only [hv, List.append_assoc, List.singleton_append]
    exact List.prefix_append _ _
  | v1 =>
    simp only [hf] at h
    obtain rfl := Option.some.inj h
    refine .inr (.inr ⟨rfl, ?_⟩)
    unfold signPayloadV1
    simp only [List.append_assoc]
    exact List.prefix_append _ _

/-- The tag is no byte 2. -/
theorem tag_v2 {payload : Bytes} {id : NodeId} (h3 : utf8 "NodeX-envelope-v3" <+: payload)
    (h2 : 2 :: id.bytes <+: payload) : False := by
  have htag : utf8 "NodeX-envelope-v3" = 78 :: utf8 "odeX-envelope-v3" := by decide
  have hlen : (utf8 "NodeX-envelope-v3").length ≤ (2 :: id.bytes).length := by
    rw [List.length_cons, id.size]
    decide
  have hpre := List.prefix_of_prefix_length_le h3 h2 hlen
  rw [htag, List.cons_prefix_cons] at hpre
  exact absurd hpre.1 (by decide)

theorem tag_v1 {payload : Bytes} {id : NodeId} (h3 : utf8 "NodeX-envelope-v3" <+: payload) (h1 : id.bytes <+: payload) :
    utf8 "NodeX-envelope-v3" <+: id.bytes := by
  refine List.prefix_of_prefix_length_le h3 h1 ?_
  rw [id.size]
  decide

theorem v2_v1 {payload : Bytes} {id : NodeId} (h2 : 2 :: id.bytes <+: payload) (h1 : id.bytes <+: payload) :
    id.bytes = List.replicate 20 2 := by
  have hpre : id.bytes <+: 2 :: id.bytes := List.prefix_of_prefix_length_le h1 h2 (Nat.le_succ _)
  obtain ⟨ys, hys⟩ := hpre
  refine List.eq_replicate_iff.2 ⟨id.size, ?_⟩
  rw [← List.append_nil (2 :: id.bytes)] at hys
  exact eq_of_cons_append_eq hys.symm

/-- One sender's payloads tell the format. -/
theorem format_eq_of_signPayload (hs : e'.senderId = e.senderId) (hrepeated : e.senderId.bytes ≠ List.replicate 20 2)
    (htagged : ¬utf8 "NodeX-envelope-v3" <+: e.senderId.bytes) {payload : Bytes}
    (h : e.signPayload? = some payload) (h' : e'.signPayload? = some payload) : e.format = e'.format := by
  have hstart := signPayload_start h'
  rw [hs] at hstart
  rcases signPayload_start h with ⟨hf, hp⟩ | ⟨hf, hp⟩ | ⟨hf, hp⟩ <;>
    rcases hstart with ⟨hf', hp'⟩ | ⟨hf', hp'⟩ | ⟨hf', hp'⟩
  · rw [hf, hf']
  · exact (tag_v2 hp hp').elim
  · exact absurd (tag_v1 hp hp') htagged
  · exact (tag_v2 hp' hp).elim
  · rw [hf, hf']
  · exact absurd (v2_v1 hp hp') hrepeated
  · exact absurd (tag_v1 hp' hp) htagged
  · exact absurd (v2_v1 hp' hp) hrepeated
  · rw [hf, hf']

/-- Two envelopes that get past the check with one signature of a sender are of one format, for a sender whose id is
not the byte 2 twenty times and does not start with the tag. A signature verifies under the key that made it alone, and
for the message it was made for. -/
theorem format_eq_of_signature (sender : UserIdentity C) (message : Bytes)
    (hideal : ∀ key m, C.edVerify key m (sender.sign message) = true → key = sender.verifyingKey ∧ m = message)
    (hrepeated : sender.userId.bytes ≠ List.replicate 20 2)
    (htagged : ¬utf8 "NodeX-envelope-v3" <+: sender.userId.bytes) (recipient recipient' : UserIdentity C)
    (e e' : EncryptedEnvelope) (hsig : e.signature = sender.sign message) (hsig' : e'.signature = sender.sign message)
    (h : passesSignature C recipient e = true) (h' : passesSignature C recipient' e' = true) :
    e.format = e'.format := by
  -- both are of the sender, and both payloads the message
  have hsigned : ∀ {recipient : UserIdentity C} {e : EncryptedEnvelope}, e.signature = sender.sign message →
      passesSignature C recipient e = true → e.senderId = sender.userId ∧ e.signPayload? = some message := by
    intro recipient e hsig h
    obtain ⟨hid, payload, hpayload, hverify⟩ := signed_of_passesSignature h
    rw [hsig] at hverify
    obtain ⟨hkey, rfl⟩ := hideal _ _ (C.edVerify_of_verify hverify)
    exact ⟨by rw [← hid, hkey, sender.userId_eq], hpayload⟩
  obtain ⟨hid, hpayload⟩ := hsigned hsig h
  obtain ⟨hid', hpayload'⟩ := hsigned hsig' h'
  exact format_eq_of_signPayload (hid'.trans hid.symm) (hid ▸ hrepeated) (hid ▸ htagged) hpayload hpayload'

section Sample

open NodeX.Sample

def legacyPayload : Bytes := signPayloadV1 alice.userId bob.userId 100 (utf8 "yes")

/-- The legacy format's version is not signed. -/
def legacyEnvelope (version : UInt8) : EncryptedEnvelope where
  version
  senderId := alice.userId
  senderEd25519Pub := alice.verifyingKey
  senderX25519Pub := alice.x25519Public
  ephemeralX25519Pub := none
  recipientId := bob.userId
  nonce := List.replicate 12 2
  ciphertext := utf8 "yes"
  signature := alice.sign legacyPayload
  timestamp := 100

def oneSignature : List (Bytes × Bytes × Bytes) := [(alice.verifyingKey, legacyPayload, alice.sign legacyPayload)]

/-- The versions 0 and 1 share a signature, and the format. -/
theorem format_eq_of_signature_legacy : (legacyEnvelope 0).format = (legacyEnvelope 1).format := by
  refine format_eq_of_signature (C := tableCrypto oneSignature) (.fromSeed _ (List.replicate 32 9)) legacyPayload ?_
    (by decide +kernel) (by decide +kernel) (bobOf _) (bobOf _) _ _ ?_ ?_ (by decide +kernel) (by decide +kernel)
  · intro key m hverify
    simp only [tableCrypto, oneSignature, List.contains_eq_mem, List.mem_singleton, decide_eq_true_eq,
      Prod.mk.injEq] at hverify
    exact ⟨hverify.1.trans (by decide +kernel), hverify.2.1⟩
  · decide +kernel
  · decide +kernel

end Sample

end NodeX.Messenger
