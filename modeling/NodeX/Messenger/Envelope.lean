/-
Sealed envelopes: `encrypt_envelope` and `decrypt_envelope` with the three signature formats the
receiver accepts.
-/
import NodeX.Core.Crypto

namespace NodeX.Messenger

structure EncryptedEnvelope where
  version : UInt8
  senderId : NodeId
  senderEd25519Pub : Bytes
  senderX25519Pub : Bytes
  ephemeralX25519Pub : Option Bytes
  recipientId : NodeId
  nonce : Bytes
  ciphertext : Bytes
  signature : Bytes
  timestamp : UInt64
deriving DecidableEq

def envelopeVersion : UInt8 := 3

/-- The bytes signed from version 3 on. -/
def signPayloadV3 (version : UInt8) (senderId recipientId : NodeId)
    (senderX25519Pub eph nonce : Bytes) (timestamp : UInt64) (ciphertext : Bytes) : Bytes :=
  utf8 "NodeX-envelope-v3" ++ [version] ++ senderId.bytes ++ recipientId.bytes ++ senderX25519Pub ++ eph ++
    nonce ++ beBytes timestamp ++ ciphertext

def signPayloadV2 (version : UInt8) (senderId recipientId : NodeId) (eph : Bytes) (timestamp : UInt64)
    (ciphertext : Bytes) : Bytes :=
  [version] ++ senderId.bytes ++ recipientId.bytes ++ eph ++ beBytes timestamp ++ ciphertext

def signPayloadV1 (senderId recipientId : NodeId) (timestamp : UInt64) (ciphertext : Bytes) : Bytes :=
  senderId.bytes ++ recipientId.bytes ++ beBytes timestamp ++ ciphertext

variable (C : Crypto)

/-- The payload key of versions 2 and up: HKDF over the two shared secrets, salted with the nonce. -/
def payloadKey (nonce dhEphemeral dhStatic : Bytes) : Bytes :=
  C.hkdf (some nonce) (dhEphemeral ++ dhStatic) (utf8 "NodeX-ChaCha20Poly1305-PayloadKey-v2")

/-- `encrypt_envelope`, with the ephemeral seed, the nonce and the clock reading it draws. -/
def encryptEnvelope (sender : UserIdentity C) (recipientUserId : NodeId) (recipientX25519Pub plaintext : Bytes)
    (ephSeed nonce : Bytes) (timestamp : UInt64) : EncryptedEnvelope :=
  let ephPublic := C.xPublic ephSeed
  let key := payloadKey C nonce (C.dh ephSeed recipientX25519Pub) (C.dh sender.x25519Secret recipientX25519Pub)
  let ciphertext := C.aeadEncrypt key nonce [] plaintext
  let signPayload := signPayloadV3 envelopeVersion sender.userId recipientUserId sender.x25519Public ephPublic
    nonce timestamp ciphertext
  { version := envelopeVersion
    senderId := sender.userId
    senderEd25519Pub := sender.verifyingKey
    senderX25519Pub := sender.x25519Public
    ephemeralX25519Pub := some ephPublic
    recipientId := recipientUserId
    nonce := nonce
    ciphertext
    signature := sender.sign signPayload
    timestamp }

/-- The AEAD step shared by the three formats. -/
def openCiphertext (key : Bytes) (e : EncryptedEnvelope) : Except String Bytes :=
  match C.aeadDecrypt key e.nonce [] e.ciphertext with
  | some plaintext => .ok plaintext
  | none => .error "Decryption failed! Key mismatch or corrupted ciphertext."

/-- `decrypt_envelope`. -/
def decryptEnvelope (recipient : UserIdentity C) (e : EncryptedEnvelope) : Except String Bytes :=
  if e.nonce.length != 12 || e.signature.length != 64 || e.senderEd25519Pub.length != 32 ||
      e.senderX25519Pub.length != 32 || e.ephemeralX25519Pub.any (fun k => k.length != 32) ||
      e.recipientId != recipient.userId then
    .error "Malformed envelope: invalid field lengths or recipient mismatch"
  else if NodeId.fromKey C e.senderEd25519Pub != e.senderId then
    .error "sender_id does not match sender ed25519 public key"
  else if 3 ≤ e.version then
    match e.ephemeralX25519Pub with
    | none => .error "Missing ephemeral key in v3 envelope"
    | some eph =>
      if !C.verify e.senderEd25519Pub (signPayloadV3 e.version e.senderId e.recipientId e.senderX25519Pub eph
          e.nonce e.timestamp e.ciphertext) e.signature then
        .error "Envelope signature verification failed! Message may be tampered."
      else openCiphertext C (payloadKey C e.nonce (C.dh recipient.x25519Secret eph)
        (C.dh recipient.x25519Secret e.senderX25519Pub)) e
  else if e.version == 2 then
    match e.ephemeralX25519Pub with
    | none => .error "Missing ephemeral key in v2 envelope"
    | some eph =>
      if !C.verify e.senderEd25519Pub (signPayloadV2 e.version e.senderId e.recipientId eph e.timestamp
          e.ciphertext) e.signature then
        .error "Envelope signature verification failed! Message may be tampered."
      else openCiphertext C (payloadKey C e.nonce (C.dh recipient.x25519Secret eph)
        (C.dh recipient.x25519Secret e.senderX25519Pub)) e
  else if !C.verify e.senderEd25519Pub (signPayloadV1 e.senderId e.recipientId e.timestamp e.ciphertext)
      e.signature then
    .error "Envelope signature verification failed! Message may be tampered."
  else openCiphertext C (C.dh recipient.x25519Secret e.senderX25519Pub) e

/-- An envelope that opens is addressed to the one who opens it, and its sender id is the hash of
the key it carries. -/
theorem decryptEnvelope_ok {recipient : UserIdentity C} {e : EncryptedEnvelope} {pt : Bytes}
    (h : decryptEnvelope C recipient e = .ok pt) :
    e.recipientId = recipient.userId ∧ NodeId.fromKey C e.senderEd25519Pub = e.senderId := by
  unfold decryptEnvelope at h
  split at h
  · cases h
  · rename_i hm
    split at h
    · cases h
    · rename_i hs
      simp only [Bool.or_eq_true, bne_iff_ne, ne_eq, not_or, not_not] at hm hs
      exact ⟨hm.2, hs⟩

/-! ## What is sealed is opened -/

section Sealing

variable {C : Crypto} {s r : UserIdentity C} {ephSeed nonce : Bytes}

/-- Both sides derive one key: the recipient with its secret, the sender with its own two. -/
theorem payloadKey_agree (hC : C.Correct) (hs : s.WellSized) (hr : r.WellSized) (heph : ephSeed.length = 32) :
    payloadKey C nonce (C.dh r.x25519Secret (C.xPublic ephSeed)) (C.dh r.x25519Secret s.x25519Public) =
      payloadKey C nonce (C.dh ephSeed r.x25519Public) (C.dh s.x25519Secret r.x25519Public) := by
  rw [r.x25519Public_eq, s.x25519Public_eq, hC.dh_comm _ _ hr.x25519Secret heph,
    hC.dh_comm _ _ hr.x25519Secret hs.x25519Secret]

theorem decryptEnvelope_encryptEnvelope (hC : C.Correct) (hs : s.WellSized) (hr : r.WellSized) (plaintext : Bytes)
    (heph : ephSeed.length = 32) (hnonce : nonce.length = 12) (timestamp : UInt64) :
    decryptEnvelope C r (encryptEnvelope C s r.userId r.x25519Public plaintext ephSeed nonce timestamp) =
      .ok plaintext := by
  have hkey : payloadKey C nonce (C.dh r.x25519Secret (C.xPublic ephSeed)) (C.dh r.x25519Secret s.x25519Public) =
      payloadKey C nonce (C.dh ephSeed r.x25519Public) (C.dh s.x25519Secret r.x25519Public) :=
    payloadKey_agree hC hs hr heph
  have hopen := hC.aeadDecrypt_aeadEncrypt
    (payloadKey C nonce (C.dh ephSeed r.x25519Public) (C.dh s.x25519Secret r.x25519Public)) nonce [] plaintext
    (hC.hkdf_length _ _ _) hnonce
  have hsig : (s.sign (signPayloadV3 envelopeVersion s.userId r.userId s.x25519Public (C.xPublic ephSeed) nonce
      timestamp (C.aeadEncrypt (payloadKey C nonce (C.dh ephSeed r.x25519Public) (C.dh s.x25519Secret r.x25519Public))
        nonce [] plaintext))).length = 64 := hC.edSign_length _ _ hs.signingKey
  have hed : s.verifyingKey.length = 32 := by rw [s.verifyingKey_eq]; exact hC.edPublic_length _ hs.signingKey
  have hx : s.x25519Public.length = 32 := by rw [s.x25519Public_eq]; exact hC.xPublic_length _ hs.x25519Secret
  have hephPublic : (C.xPublic ephSeed).length = 32 := hC.xPublic_length _ heph
  unfold decryptEnvelope encryptEnvelope
  dsimp only
  -- the structural checks and the sender's id
  rw [if_neg (by simp [hnonce, hsig, hed, hx, hephPublic]), if_neg (by simp [s.userId_eq]),
    if_pos (show 3 ≤ envelopeVersion by decide)]
  rw [hC.verify_sign hs, if_neg (by decide), hkey]
  unfold openCiphertext
  dsimp only
  rw [hopen]

/-- Nobody with another id gets past the first check. -/
theorem decryptEnvelope_other {q : UserIdentity C} {e : EncryptedEnvelope} (h : q.userId ≠ e.recipientId) :
    decryptEnvelope C q e = .error "Malformed envelope: invalid field lengths or recipient mismatch" := by
  unfold decryptEnvelope
  rw [if_pos]
  simp [Ne.symm h]

end Sealing

end NodeX.Messenger
