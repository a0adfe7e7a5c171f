/-
The primitives the crates take from other packages (SHA-1, SHA-256, HMAC, HKDF, Ed25519, X25519,
ChaCha20-Poly1305), as the functions the code calls, and the identities built from them.
-/
import NodeX.Core.Bytes

namespace NodeX

/-- The cryptographic functions the code calls. -/
structure Crypto where
  /-- `core_ffi::ffi_hash_node_id` -/
  hashNodeId : Bytes → NodeId
  sha256 : Bytes → Bytes
  /-- HMAC-SHA256 of key and message -/
  hmac : Bytes → Bytes → Bytes
  /-- 32 bytes of HKDF-SHA256 of salt, key material and info -/
  hkdf : Option Bytes → Bytes → Bytes → Bytes
  /-- the verifying key of a signing key -/
  edPublic : Bytes → Bytes
  edSign : Bytes → Bytes → Bytes
  /-- `VerifyingKey::from_bytes` succeeds -/
  edKeyValid : Bytes → Bool
  /-- `VerifyingKey::verify` of key, message and signature -/
  edVerify : Bytes → Bytes → Bytes → Bool
  /-- `VerifyingKey::verify_strict` -/
  edVerifyStrict : Bytes → Bytes → Bytes → Bool
  xPublic : Bytes → Bytes
  /-- X25519 of a secret and a public key -/
  dh : Bytes → Bytes → Bytes
  /-- ChaCha20-Poly1305 of key, nonce, associated data and plaintext -/
  aeadEncrypt : Bytes → Bytes → Bytes → Bytes → Bytes
  aeadDecrypt : Bytes → Bytes → Bytes → Bytes → Option Bytes

/-! ## A transparent instance -/

/-- The bytes of `n`, low first. -/
def leBytes : Nat → Nat → Bytes
  | 0, _ => []
  | k + 1, n => UInt8.ofNat n :: leBytes k (n / 256)

theorem leBytes_length : ∀ k n : Nat, (leBytes k n).length = k
  | 0, _ => rfl
  | k + 1, n => by rw [leBytes, List.length_cons, leBytes_length k]

/-- `k` bytes that depend on every byte of the input. -/
def mixBytes (k : Nat) (bs : Bytes) : Bytes :=
  leBytes k (bs.foldl (fun h b => (h * 257 + b.toNat + 1) % 256 ^ k) 7)

/-- Primitives to evaluate runs on: digests mix the bytes, a key pair is one key twice, a signature
is two digests of key and message, sealing puts the key and the associated data in front. -/
def Crypto.transparent : Crypto where
  hashNodeId bs := ⟨(bs ++ List.replicate 20 0).take 20, by simp⟩
  sha256 := mixBytes 32
  hmac key m := mixBytes 32 (key ++ m)
  hkdf salt ikm info := mixBytes 32 (salt.getD [] ++ ikm ++ info)
  edPublic sk := sk
  edSign sk m := mixBytes 32 (sk ++ m) ++ mixBytes 32 (m ++ sk)
  edKeyValid _ := true
  edVerify pk m sig := sig == mixBytes 32 (pk ++ m) ++ mixBytes 32 (m ++ pk)
  edVerifyStrict pk m sig := sig == mixBytes 32 (pk ++ m) ++ mixBytes 32 (m ++ pk)
  xPublic sk := sk
  dh := List.zipWith (· ^^^ ·)
  aeadEncrypt key _ ad pt := key ++ ad ++ pt
  aeadDecrypt key _ ad ct := if (key ++ ad).isPrefixOf ct then some (ct.drop (key ++ ad).length) else none

theorem Crypto.transparent_aeadDecrypt (key nonce ad pt : Bytes) :
    transparent.aeadDecrypt key nonce ad (transparent.aeadEncrypt key nonce ad pt) = some pt := by
  have hp : (key ++ ad).isPrefixOf (key ++ ad ++ pt) = true := List.isPrefixOf_iff_prefix.2 (List.prefix_append _ _)
  simp only [transparent, hp, if_true, List.drop_left]

/-! ## Primitives that work -/

/-- What the packages document: lengths, signatures that verify, a key agreement that commutes, and a
cipher that opens what it sealed. -/
structure Crypto.Correct (C : Crypto) : Prop where
  hkdf_length : ∀ salt ikm info, (C.hkdf salt ikm info).length = 32
  edPublic_length : ∀ sk, sk.length = 32 → (C.edPublic sk).length = 32
  edPublic_valid : ∀ sk, sk.length = 32 → C.edKeyValid (C.edPublic sk) = true
  edSign_length : ∀ sk m, sk.length = 32 → (C.edSign sk m).length = 64
  edVerify_edSign : ∀ sk m, sk.length = 32 → C.edVerify (C.edPublic sk) m (C.edSign sk m) = true
  xPublic_length : ∀ sk, sk.length = 32 → (C.xPublic sk).length = 32
  dh_comm : ∀ a b, a.length = 32 → b.length = 32 → C.dh a (C.xPublic b) = C.dh b (C.xPublic a)
  aeadDecrypt_aeadEncrypt : ∀ key nonce ad pt, key.length = 32 → nonce.length = 12 →
    C.aeadDecrypt key nonce ad (C.aeadEncrypt key nonce ad pt) = some pt

theorem Crypto.transparent_correct : Crypto.transparent.Correct where
  hkdf_length _ _ _ := leBytes_length 32 _
  edPublic_length _ h := h
  edPublic_valid _ _ := rfl
  edSign_length _ _ _ := by
    show (mixBytes 32 _ ++ mixBytes 32 _).length = 64
    rw [List.length_append, mixBytes, mixBytes, leBytes_length, leBytes_length]
  edVerify_edSign _ _ _ := beq_self_eq_true _
  xPublic_length _ h := h
  dh_comm a b _ _ := by
    show List.zipWith (· ^^^ ·) a b = List.zipWith (· ^^^ ·) b a
    rw [List.zipWith_comm]
    simp only [UInt8.xor_comm]
  aeadDecrypt_aeadEncrypt key nonce ad pt _ _ := Crypto.transparent_aeadDecrypt key nonce ad pt

/-! ## Identities -/

/-- `NodeId::from_key`. -/
def NodeId.fromKey (C : Crypto) (key : Bytes) : NodeId := C.hashNodeId key

/-- A user's keys; the public parts and the id are functions of the secret ones. -/
structure UserIdentity (C : Crypto) where
  signingKey : Bytes
  verifyingKey : Bytes
  x25519Secret : Bytes
  x25519Public : Bytes
  userId : NodeId
  verifyingKey_eq : verifyingKey = C.edPublic signingKey
  x25519Public_eq : x25519Public = C.xPublic x25519Secret
  userId_eq : userId = NodeId.fromKey C verifyingKey

namespace UserIdentity

variable {C : Crypto}

/-- `UserIdentity::from_seed`. -/
def fromSeed (C : Crypto) (seed : Bytes) : UserIdentity C :=
  let signingKey := C.hkdf none seed (utf8 "NodeX-Ed25519-Sign-v1")
  let x25519Secret := C.hkdf none seed (utf8 "NodeX-X25519-Static-v1")
  { signingKey
    verifyingKey := C.edPublic signingKey
    x25519Secret
    x25519Public := C.xPublic x25519Secret
    userId := NodeId.fromKey C (C.edPublic signingKey)
    verifyingKey_eq := rfl
    x25519Public_eq := rfl
    userId_eq := rfl }

def userIdHex (id : UserIdentity C) : String := id.userId.toHex

def sign (id : UserIdentity C) (message : Bytes) : Bytes := C.edSign id.signingKey message

/-- The secret keys are `[u8; 32]`. -/
structure WellSized (id : UserIdentity C) : Prop where
  signingKey : id.signingKey.length = 32
  x25519Secret : id.x25519Secret.length = 32

theorem wellSized_fromSeed (hC : C.Correct) (seed : Bytes) : (fromSeed C seed).WellSized :=
  ⟨hC.hkdf_length _ _ _, hC.hkdf_length _ _ _⟩

end UserIdentity

/-- `UserIdentity::verify`. -/
def Crypto.verify (C : Crypto) (verifyingKey message signature : Bytes) : Bool :=
  verifyingKey.length == 32 && C.edKeyValid verifyingKey && signature.length == 64 &&
    C.edVerify verifyingKey message signature

theorem Crypto.edVerify_of_verify (C : Crypto) {verifyingKey message signature : Bytes}
    (h : C.verify verifyingKey message signature = true) : C.edVerify verifyingKey message signature = true := by
  unfold Crypto.verify at h
  simp only [Bool.and_eq_true] at h
  exact h.2

/-- A signature of an identity verifies under its key. -/
theorem Crypto.Correct.verify_sign {C : Crypto} (hC : C.Correct) {id : UserIdentity C} (hid : id.WellSized)
    (message : Bytes) : C.verify id.verifyingKey message (id.sign message) = true := by
  unfold Crypto.verify UserIdentity.sign
  rw [id.verifyingKey_eq, hC.edPublic_length _ hid.signingKey, hC.edPublic_valid _ hid.signingKey,
    hC.edSign_length _ _ hid.signingKey, hC.edVerify_edSign _ _ hid.signingKey]
  rfl

/-- `derive_secure_mailbox_key`: an HMAC over the day bucket, keyed by the user id. -/
def deriveSecureMailboxKey (C : Crypto) (userIdHex : String) (timestamp : Nat) : String :=
  let dayBucket := timestamp / 86400
  "mbx_" ++ hexString ((C.hmac (utf8 userIdHex) (beBytes (UInt64.ofNat dayBucket))).take 16)

/-! ## Users to evaluate runs with -/

namespace Sample

def alice : UserIdentity .transparent := .fromSeed .transparent (List.replicate 32 9)

def bob : UserIdentity .transparent := .fromSeed .transparent (List.replicate 32 5)

def mallory : UserIdentity .transparent := .fromSeed .transparent (List.replicate 32 7)

theorem wellSized_alice : alice.WellSized := UserIdentity.wellSized_fromSeed Crypto.transparent_correct _

theorem wellSized_bob : bob.WellSized := UserIdentity.wellSized_fromSeed Crypto.transparent_correct _

theorem wellSized_mallory : mallory.WellSized := UserIdentity.wellSized_fromSeed Crypto.transparent_correct _

/-- JSON of parts that need no escapes. -/
def commas (parts : List Bytes) : Bytes := (parts.intersperse (utf8 ",")).flatten

def jsonArray (parts : List Bytes) : Bytes := utf8 "[" ++ commas parts ++ utf8 "]"

def jsonBytes (bs : Bytes) : Bytes := jsonArray (bs.map fun b => utf8 (toString b.toNat))

def jsonString (s : String) : Bytes := utf8 "\"" ++ utf8 s ++ utf8 "\""

def jsonObject (fields : List (String × Bytes)) : Bytes :=
  utf8 "\x7b" ++ commas (fields.map fun f => jsonString f.1 ++ utf8 ":" ++ f.2) ++ utf8 "\x7d"

end Sample

end NodeX
