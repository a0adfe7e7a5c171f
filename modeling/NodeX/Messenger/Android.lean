/-
`AndroidMessageCrypto.kt`: the envelopes of the Android client, sealed and opened, beside `encrypt_envelope` and
`decrypt_envelope`. Both platforms have one set of primitives. The Android client reads a JSON object where the crates
read an `EncryptedEnvelope`, and takes more for a number, for bytes and for a version than they do.
-/
import NodeX.Messenger.RoundTrip
import NodeX.Messenger.Tamper

namespace NodeX.Messenger

namespace AndroidMessageCrypto

/-! ## What the platform provides -/

/-- `org.json` and `java.lang`, where they decide what a value stands for. -/
structure OrgJson where
  /-- `JSON.toInteger` and `JSON.toLong` of anything but a natural number -/
  toInteger : Json → Option Int
  toLong : Json → Option Int
  /-- `Character.digit` in base 16 -/
  digit : Char → Option (Fin 16)
  /-- the constructor of `JSONObject` on the text of these bytes, and `toString` -/
  parse : Bytes → Option Json
  print : Json → Bytes

/-- `System.currentTimeMillis()` -/
structure Clock where
  millis : Nat
  fits : millis < 2 ^ 63

def Clock.seconds (clock : Clock) : Nat := clock.millis / 1000

/-- What is thrown: by `require` and `error` with a message, and by the libraries. -/
inductive Thrown where
  | illegal (message : String)
  | library
deriving DecidableEq

variable (O : OrgJson)

/-- A value as an `Int`: of a `Long` the low half, of a number that is too large for one the greatest `Int`. -/
def toInteger : Json → Option Int
  | .nat n => some (if n < 2 ^ 63 then Int.bmod n (2 ^ 32) else 2 ^ 31 - 1)
  | v => O.toInteger v

def toLong : Json → Option Int
  | .nat n => some (if n < 2 ^ 63 then n else 2 ^ 63 - 1)
  | v => O.toLong v

/-- The value under a name, the last one if there are several. -/
def opt : Json → String → Option Json
  | .object fields, name => (fields.filter fun f => f.1 = name).getLast?.map Prod.snd
  | _, _ => none

def optInt (env : Json) (name : String) (fallback : Int) : Int := ((opt env name).bind (toInteger O)).getD fallback

def optLong (env : Json) (name : String) (fallback : Int) : Int := ((opt env name).bind (toLong O)).getD fallback

/-- `getInt(i).toByte()` of an element. -/
def byteOf (v : Json) : Option UInt8 := (toInteger O v).map UInt8.ofInt

/-! ## Bytes -/

def digitPairs : List (Fin 16) → Option Bytes
  | [] => some []
  | [_] => none
  | a :: b :: rest => (digitPairs rest).map (UInt8.ofNat (16 * a + b) :: ·)

def hexToBytes (hex : String) : Except Thrown Bytes :=
  match (hex.toList.mapM O.digit).bind digitPairs with
  | some bs => .ok bs
  | none => .error (.illegal "Invalid hex")

/-- `JSONObject.bytes` -/
def bytes (env : Json) (key : String) : Except Thrown Bytes :=
  match opt env key with
  | none => .error .library
  | some (.array items) =>
    match items.mapM (byteOf O) with
    | some bs => .ok bs
    | none => .error .library
  | some (.string hex) => hexToBytes O hex
  | some _ => .error (.illegal ("Invalid " ++ key))

/-! ## Identities -/

variable (C : Crypto)

structure IdentityKeys where
  nodeId : Bytes
  edSeed : Bytes
  edPublic : Bytes
  xSecret : Bytes
  xPublic : Bytes

/-- `identityKeys`, from the seed of the recovery phrase. -/
def identityKeys (seed : Bytes) : IdentityKeys :=
  let edSeed := C.hkdf none seed (utf8 "NodeX-Ed25519-Sign-v1")
  let xSecret := C.hkdf none seed (utf8 "NodeX-X25519-Static-v1")
  { nodeId := (C.hashNodeId (C.edPublic edSeed)).bytes
    edSeed
    edPublic := C.edPublic edSeed
    xSecret
    xPublic := C.xPublic xSecret }

/-- `MnemonicHelper.deriveNodeId` -/
def deriveNodeId (seed : Bytes) : String :=
  let edSeed := C.hkdf none seed (utf8 "NodeX-Ed25519-Sign-v1")
  hexString (C.hashNodeId (C.edPublic edSeed)).bytes

/-! ## Envelopes -/

def version : UInt8 := 3

def envelopeSigningBytes (sender recipient senderX eph nonce : Bytes) (timestamp : Int) (ciphertext : Bytes) : Bytes :=
  utf8 "NodeX-envelope-v3" ++ [version] ++ sender ++ recipient ++ senderX ++ eph ++ nonce ++
    beBytes (UInt64.ofInt timestamp) ++ ciphertext

/-- Some byte is not zero. -/
def isContributory (dh : Bytes) : Bool := dh.any (· != 0)

/-- `sealMessage`, with the ephemeral secret and the nonce it draws. -/
def sealMessage (seed : Bytes) (recipientIdHex : String) (recipientXPublic : Bytes) (payload : Json)
    (ephSecret nonce : Bytes) (clock : Clock) : Except Thrown Json :=
  if recipientXPublic.length ≠ 32 then .error (.illegal "Contact must have a verified 32-byte X25519 public key")
  else do
    let recipientId ← hexToBytes O recipientIdHex
    if recipientId.length ≠ 20 then .error (.illegal "Recipient ID must be 20 bytes")
    else do
      let keys := identityKeys C seed
      let derived ← hexToBytes O (deriveNodeId C seed)
      if keys.nodeId ≠ derived then .error (.illegal "Identity derivation mismatch")
      else
        let ephPublic := C.xPublic ephSecret
        let dhEphemeral := C.dh ephSecret recipientXPublic
        let dhStatic := C.dh keys.xSecret recipientXPublic
        if ¬(isContributory dhEphemeral && isContributory dhStatic) then
          .error (.illegal "Invalid X25519 public key")
        else
          let cipherKey := C.hkdf (some nonce) (dhEphemeral ++ dhStatic)
            (utf8 "NodeX-ChaCha20Poly1305-PayloadKey-v2")
          let sealed := C.aeadEncrypt cipherKey nonce [] (O.print payload)
          let timestamp := clock.seconds
          let signed := envelopeSigningBytes keys.nodeId recipientId keys.xPublic ephPublic nonce timestamp sealed
          let signature := C.edSign keys.edSeed signed
          .ok (.object [("version", .nat version.toNat),
            ("sender_id", .ofBytes keys.nodeId),
            ("sender_ed25519_pub", .ofBytes keys.edPublic),
            ("sender_x25519_pub", .ofBytes keys.xPublic),
            ("ephemeral_x25519_pub", .ofBytes ephPublic),
            ("recipient_id", .ofBytes recipientId),
            ("nonce", .ofBytes nonce),
            ("ciphertext", .ofBytes sealed),
            ("signature", .ofBytes signature),
            ("timestamp", .nat timestamp)])

/-- The byte arrays of an envelope. -/
structure Parts where
  senderId : Bytes
  edPublic : Bytes
  senderXPublic : Bytes
  ephPublic : Bytes
  recipientId : Bytes
  nonce : Bytes
  ciphertext : Bytes
  signature : Bytes

def partsOf (env : Json) : Except Thrown Parts := do
  return {
    senderId := ← bytes O env "sender_id"
    edPublic := ← bytes O env "sender_ed25519_pub"
    senderXPublic := ← bytes O env "sender_x25519_pub"
    ephPublic := ← bytes O env "ephemeral_x25519_pub"
    recipientId := ← bytes O env "recipient_id"
    nonce := ← bytes O env "nonce"
    ciphertext := ← bytes O env "ciphertext"
    signature := ← bytes O env "signature" }

/-- The end of `openEnvelope`: what the AEAD opens is the text of a JSON object. -/
def openPayload (cipherKey : Bytes) (p : Parts) : Except Thrown (String × Json) :=
  match C.aeadDecrypt cipherKey p.nonce [] p.ciphertext with
  | none => .error .library
  | some plain =>
    match O.parse plain with
    | none => .error .library
    | some payload => .ok (hexString p.senderId, payload)

/-- `openEnvelope` once the byte arrays are read. -/
def openParts (seed : Bytes) (p : Parts) (timestamp : Int) (clock : Clock) : Except Thrown (String × Json) :=
  let keys := identityKeys C seed
  if ¬(p.senderId.length = 20 ∧ p.edPublic.length = 32 ∧ p.senderXPublic.length = 32 ∧ p.ephPublic.length = 32 ∧
      p.recipientId.length = 20 ∧ p.nonce.length = 12 ∧ p.signature.length = 64 ∧ 16 ≤ p.ciphertext.length) then
    .error (.illegal "Malformed envelope")
  else if p.senderId ≠ (C.hashNodeId p.edPublic).bytes then
    .error (.illegal "Sender ID does not match signing key")
  else if p.recipientId ≠ keys.nodeId then
    .error (.illegal "Envelope addressed to a different identity")
  else if ¬(0 < timestamp ∧ (clock.seconds - timestamp).natAbs ≤ 7 * 86400) then
    .error (.illegal "Expired envelope")
  else
    let signingBytes := envelopeSigningBytes p.senderId p.recipientId p.senderXPublic p.ephPublic p.nonce timestamp
      p.ciphertext
    if ¬ C.edKeyValid p.edPublic then .error .library
    else if ¬ C.edVerify p.edPublic signingBytes p.signature then .error (.illegal "Invalid sender signature")
    else
      let dhEphemeral := C.dh keys.xSecret p.ephPublic
      let dhStatic := C.dh keys.xSecret p.senderXPublic
      if ¬(isContributory dhEphemeral && isContributory dhStatic) then .error (.illegal "Invalid X25519 key")
      else
        let cipherKey := C.hkdf (some p.nonce) (dhEphemeral ++ dhStatic)
          (utf8 "NodeX-ChaCha20Poly1305-PayloadKey-v2")
        openPayload O C cipherKey p

def openEnvelope (seed : Bytes) (env : Json) (clock : Clock) : Except Thrown (String × Json) :=
  if optInt O env "version" 0 < version.toNat then .error (.illegal "Unsupported/legacy unverified envelope")
  else do openParts O C seed (← partsOf O env) (optLong O env "timestamp" 0) clock

/-! ## Sealed on Android -/

variable {O : OrgJson} {C : Crypto} {seed recipientXPublic ephSecret nonce : Bytes} {recipientIdHex : String}
  {payload env : Json} {clock : Clock}

theorem seconds_lt (clock : Clock) : clock.seconds < 2 ^ 62 := by
  have hfits := clock.fits
  unfold Clock.seconds
  omega

theorem ofInt_toNat (n : UInt64) : UInt64.ofInt n.toNat = n := by
  have hlt := n.toNat_lt
  have hmod : ((n.toNat : Int) % 2 ^ 64).toNat = n.toNat := by omega
  rw [UInt64.ofInt, hmod, UInt64.ofNat_toNat]

/-- Both platforms sign the same bytes, for a time that both can write. -/
theorem envelopeSigningBytes_eq (sender recipient : NodeId) (senderX eph nonce : Bytes) (timestamp : UInt64)
    (ciphertext : Bytes) :
    envelopeSigningBytes sender.bytes recipient.bytes senderX eph nonce timestamp.toNat ciphertext =
      signPayloadV3 envelopeVersion sender recipient senderX eph nonce timestamp ciphertext := by
  unfold envelopeSigningBytes signPayloadV3
  rw [ofInt_toNat]
  rfl

/-- What `sealMessage` makes is the JSON of what `encrypt_envelope` makes of the same keys, nonce and clock. -/
theorem sealMessage_ok
    (h : sealMessage O C seed recipientIdHex recipientXPublic payload ephSecret nonce clock = .ok env) :
    ∃ recipientId : NodeId, hexToBytes O recipientIdHex = .ok recipientId.bytes ∧
      env = (encryptEnvelope C (.fromSeed C seed) recipientId recipientXPublic (O.print payload) ephSecret nonce
        (UInt64.ofNat clock.seconds)).toJson := by
  unfold sealMessage at h
  split_ifs at h with hx
  cases hid : hexToBytes O recipientIdHex with
  | error e =>
    rw [hid] at h
    cases h
  | ok id =>
    rw [hid] at h
    change (if id.length ≠ 20 then _ else _) = _ at h
    split_ifs at h with hlen
    cases hderived : hexToBytes O (deriveNodeId C seed) with
    | error e =>
      rw [hderived] at h
      cases h
    | ok derived =>
      rw [hderived] at h
      change (if _ then _ else _) = _ at h
      split_ifs at h with hkeys hdh
      have hlt := seconds_lt clock
      have hseconds : (UInt64.ofNat clock.seconds).toNat = clock.seconds :=
        UInt64.toNat_ofNat_of_lt (hlt.trans (by decide))
      have hsigned := envelopeSigningBytes_eq (UserIdentity.fromSeed C seed).userId ⟨id, not_not.1 hlen⟩
        (UserIdentity.fromSeed C seed).x25519Public (C.xPublic ephSecret) nonce (UInt64.ofNat clock.seconds)
      rw [hseconds] at hsigned
      refine ⟨⟨id, not_not.1 hlen⟩, rfl, ?_⟩
      rw [← Except.ok.inj h]
      unfold EncryptedEnvelope.toJson encryptEnvelope
      dsimp only
      rw [hseconds, ← hsigned]
      rfl

/-! ## What both platforms read -/

variable {fields : List (String × Json)} {name : String} {e : EncryptedEnvelope} {v : Json}

theorem opt_of_field? {found : Option Json} (h : Json.field? fields name = some found) :
    opt (.object fields) name = found := by
  unfold Json.field? at h
  change (fields.filter fun f => f.1 = name).getLast?.map Prod.snd = found
  split at h
  · rename_i hnil
    rw [hnil]
    exact Option.some.inj h
  · rename_i f hone
    rw [hone]
    exact Option.some.inj h
  · cases h

theorem toInteger_of_lt {n : Nat} (hn : n < 256) : toInteger O (.nat n) = some (n : Int) := by
  have hlong : n < 2 ^ 63 := by omega
  have hint : Int.bmod n (2 ^ 32) = n := Int.bmod_eq_of_le (by omega) (by omega)
  change some (if n < 2 ^ 63 then Int.bmod n (2 ^ 32) else 2 ^ 31 - 1) = some (n : Int)
  rw [if_pos hlong, hint]

/-- A byte on the one platform is that byte on the other. -/
theorem byteOf_of_u8? {b : UInt8} (h : v.u8? = some b) : byteOf O v = some b := by
  cases v with
  | nat n =>
    change (if n < 256 then _ else _) = _ at h
    split_ifs at h with hn
    obtain rfl := Option.some.inj h
    have hmod : ((n : Int) % 2 ^ 8).toNat = n := by omega
    have hbyte : UInt8.ofInt n = UInt8.ofNat n := by rw [UInt8.ofInt, hmod]
    unfold byteOf
    rw [toInteger_of_lt hn, Option.map_some, hbyte]
  | _ => cases h

theorem mapM_byteOf : ∀ {items : List Json} {bs : Bytes}, items.mapM Json.u8? = some bs →
    items.mapM (byteOf O) = some bs
  | [], bs, h => h
  | v :: items, bs, h => by
    rw [List.mapM_cons] at h ⊢
    obtain ⟨b, hb, h⟩ := Option.bind_eq_some_iff.1 h
    obtain ⟨rest, hrest, h⟩ := Option.bind_eq_some_iff.1 h
    rw [byteOf_of_u8? hb, mapM_byteOf hrest]
    exact h

theorem bytes_of_bytes? {env : Json} {bs : Bytes} (hopt : opt env name = some v) (h : v.bytes? = some bs) :
    bytes O env name = .ok bs := by
  cases v with
  | array items =>
    unfold bytes
    rw [hopt]
    dsimp only
    rw [mapM_byteOf h]
  | _ => cases h

theorem bytes_of_required? {bs : Bytes} (h : Json.required? fields name Json.bytes? = some bs) :
    bytes O (.object fields) name = .ok bs := by
  obtain ⟨found, hfield, h⟩ := Option.bind_eq_some_iff.1 h
  obtain ⟨v, rfl, hv⟩ := Option.bind_eq_some_iff.1 h
  exact bytes_of_bytes? (opt_of_field? hfield) hv

theorem bytes_of_required?_nodeId {id : NodeId} (h : Json.required? fields name Json.nodeId? = some id) :
    bytes O (.object fields) name = .ok id.bytes := by
  obtain ⟨found, hfield, h⟩ := Option.bind_eq_some_iff.1 h
  obtain ⟨v, rfl, hv⟩ := Option.bind_eq_some_iff.1 h
  obtain ⟨bs, hbs, hid⟩ := Option.bind_eq_some_iff.1 hv
  split_ifs at hid with hlength
  obtain rfl := Option.some.inj hid
  exact bytes_of_bytes? (opt_of_field? hfield) hbs

/-- An ephemeral key that is absent or null is not read on Android. -/
theorem bytes_of_withDefault? {eph : Option Bytes}
    (h : Json.withDefault? fields name (Json.option? Json.bytes?) none = some eph) :
    (∃ bs, eph = some bs ∧ bytes O (.object fields) name = .ok bs) ∨
      eph = none ∧ ∃ err, bytes O (.object fields) name = .error err := by
  obtain ⟨found, hfield, h⟩ := Option.bind_eq_some_iff.1 h
  have hopt := opt_of_field? hfield
  cases found with
  | none =>
    refine .inr ⟨(Option.some.inj h).symm, .library, ?_⟩
    unfold bytes
    rw [hopt]
  | some v =>
    cases v with
    | null =>
      refine .inr ⟨(Option.some.inj h).symm, .illegal ("Invalid " ++ name), ?_⟩
      unfold bytes
      rw [hopt]
    | array items =>
      obtain ⟨bs, hbs, rfl⟩ := Option.map_eq_some_iff.1 h
      exact .inl ⟨bs, rfl, bytes_of_bytes? hopt hbs⟩
    | _ => cases h

/-- The time on an envelope as Android reads it. -/
def longOf (t : UInt64) : Int := if t.toNat < 2 ^ 63 then t.toNat else 2 ^ 63 - 1

theorem optLong_of_required? {t : UInt64} (h : Json.required? fields name Json.u64? = some t) (fallback : Int) :
    optLong O (.object fields) name fallback = longOf t := by
  obtain ⟨found, hfield, h⟩ := Option.bind_eq_some_iff.1 h
  obtain ⟨v, rfl, hv⟩ := Option.bind_eq_some_iff.1 h
  unfold optLong
  rw [opt_of_field? hfield]
  cases v with
  | nat n =>
    change (if n < 2 ^ 64 then _ else _) = _ at hv
    split_ifs at hv with hn
    obtain rfl := Option.some.inj hv
    have hnat : (UInt64.ofNat n).toNat = n := UInt64.toNat_ofNat_of_lt hn
    unfold longOf
    rw [hnat]
    rfl
  | _ => cases hv

/-- A version other than the default is one that is written. -/
theorem optInt_of_withDefault? {b default : UInt8}
    (h : Json.withDefault? fields name Json.u8? default = some b) (hb : b ≠ default) (fallback : Int) :
    optInt O (.object fields) name fallback = b.toNat := by
  obtain ⟨found, hfield, h⟩ := Option.bind_eq_some_iff.1 h
  unfold optInt
  rw [opt_of_field? hfield]
  cases found with
  | none => exact absurd (Option.some.inj h).symm hb
  | some v =>
    cases v with
    | nat n =>
      change (if n < 256 then _ else _) = _ at h
      split_ifs at h with hn
      obtain rfl := Option.some.inj h
      have hnat : (UInt8.ofNat n).toNat = n := UInt8.toNat_ofNat_of_lt hn
      rw [hnat, Option.bind_some, toInteger_of_lt hn, Option.getD_some]
    | _ => cases h

/-- The byte arrays of an envelope with this ephemeral key. -/
def Parts.of (e : EncryptedEnvelope) (eph : Bytes) : Parts where
  senderId := e.senderId.bytes
  edPublic := e.senderEd25519Pub
  senderXPublic := e.senderX25519Pub
  ephPublic := eph
  recipientId := e.recipientId.bytes
  nonce := e.nonce
  ciphertext := e.ciphertext
  signature := e.signature

/-- What Android reads of an envelope that the crates can read. -/
theorem read_of_ofJson (hread : EncryptedEnvelope.ofJson (.object fields) = some e) :
    (e.version ≠ 1 → optInt O (.object fields) "version" 0 = e.version.toNat) ∧
      optLong O (.object fields) "timestamp" 0 = longOf e.timestamp ∧
      ∀ p, partsOf O (.object fields) = .ok p ↔ ∃ eph, e.ephemeralX25519Pub = some eph ∧ p = .of e eph := by
  unfold EncryptedEnvelope.ofJson at hread
  obtain ⟨version, hversion, hread⟩ := Option.bind_eq_some_iff.1 hread
  obtain ⟨senderId, hsenderId, hread⟩ := Option.bind_eq_some_iff.1 hread
  obtain ⟨ed, hed, hread⟩ := Option.bind_eq_some_iff.1 hread
  obtain ⟨x, hx, hread⟩ := Option.bind_eq_some_iff.1 hread
  obtain ⟨eph, heph, hread⟩ := Option.bind_eq_some_iff.1 hread
  obtain ⟨recipientId, hrecipientId, hread⟩ := Option.bind_eq_some_iff.1 hread
  obtain ⟨nonce, hnonce, hread⟩ := Option.bind_eq_some_iff.1 hread
  obtain ⟨ciphertext, hciphertext, hread⟩ := Option.bind_eq_some_iff.1 hread
  obtain ⟨signature, hsignature, hread⟩ := Option.bind_eq_some_iff.1 hread
  obtain ⟨timestamp, htimestamp, hread⟩ := Option.bind_eq_some_iff.1 hread
  obtain rfl := Option.some.inj hread
  refine ⟨fun hv => optInt_of_withDefault? hversion hv 0, optLong_of_required? htimestamp 0, fun p => ?_⟩
  unfold partsOf
  rw [bytes_of_required?_nodeId hsenderId, bytes_of_required? hed, bytes_of_required? hx,
    bytes_of_required?_nodeId hrecipientId, bytes_of_required? hnonce, bytes_of_required? hciphertext,
    bytes_of_required? hsignature]
  rcases bytes_of_withDefault? (O := O) heph with ⟨bs, rfl, hbytes⟩ | ⟨rfl, err, hbytes⟩
  · rw [hbytes]
    constructor
    · intro h
      exact ⟨bs, rfl, (Except.ok.inj h).symm⟩
    · rintro ⟨eph, hsome, rfl⟩
      obtain rfl := Option.some.inj hsome
      rfl
  · rw [hbytes]
    constructor
    · intro h
      cases h
    · rintro ⟨eph, hsome, -⟩
      cases hsome

/-! ## What both platforms open -/

/-- An envelope in time, with keys that agree on a secret; Android asks for this beside what the crates check. -/
structure InTime (C : Crypto) (seed : Bytes) (e : EncryptedEnvelope) (eph : Bytes) (timestamp : Int) (clock : Clock) :
    Prop where
  tagged : 16 ≤ e.ciphertext.length
  positive : 0 < timestamp
  recent : (clock.seconds - timestamp).natAbs ≤ 7 * 86400
  ephemeral : isContributory (C.dh (UserIdentity.fromSeed C seed).x25519Secret eph) = true
  static : isContributory (C.dh (UserIdentity.fromSeed C seed).x25519Secret e.senderX25519Pub) = true

theorem require_eq_ok {α : Type} {p : Prop} [Decidable p] {err : Thrown} {rest : Except Thrown α} {a : α} :
    (if ¬p then .error err else rest) = .ok a ↔ p ∧ rest = .ok a := by
  by_cases hp : p
  · rw [if_neg (not_not.2 hp)]
    exact (and_iff_right hp).symm
  · rw [if_pos hp]
    constructor
    · intro h
      cases h
    · intro h
      exact absurd h.1 hp

/-- The AEAD, and the JSON object in it. -/
theorem openPayload_ok_iff {key eph : Bytes} {senderIdHex : String} :
    openPayload O C key (.of e eph) = .ok (senderIdHex, payload) ↔
      senderIdHex = e.senderId.toHex ∧ ∃ plaintext, O.parse plaintext = some payload ∧
        openCiphertext C key e = .ok plaintext := by
  unfold openPayload openCiphertext
  dsimp only [Parts.of]
  cases C.aeadDecrypt key e.nonce [] e.ciphertext with
  | none =>
    constructor
    · intro h
      cases h
    · rintro ⟨-, plaintext, -, h⟩
      cases h
  | some plain =>
    constructor
    · intro h
      dsimp only at h
      cases hparse : O.parse plain with
      | none =>
        rw [hparse] at h
        cases h
      | some v =>
        rw [hparse] at h
        obtain ⟨rfl, rfl⟩ := Prod.mk.inj (Except.ok.inj h)
        exact ⟨rfl, plain, hparse, rfl⟩
    · rintro ⟨rfl, plaintext, hparse, h⟩
      obtain rfl := Except.ok.inj h
      dsimp only
      rw [hparse]
      rfl

/-- An envelope of version 3 is opened on Android if it passes the checks of the crates, is in time, and holds a JSON
object. -/
theorem openParts_ok_iff {eph : Bytes} {senderIdHex : String} (hv : e.version = envelopeVersion)
    (heph : e.ephemeralX25519Pub = some eph) :
    openParts O C seed (.of e eph) e.timestamp.toNat clock = .ok (senderIdHex, payload) ↔
      CheckedV3 C (.fromSeed C seed) e eph ∧ InTime C seed e eph e.timestamp.toNat clock ∧
        senderIdHex = e.senderId.toHex ∧ ∃ plaintext, O.parse plaintext = some payload ∧
          openCiphertext C (payloadKey C e.nonce (C.dh (UserIdentity.fromSeed C seed).x25519Secret eph)
            (C.dh (UserIdentity.fromSeed C seed).x25519Secret e.senderX25519Pub)) e = .ok plaintext := by
  have hsigned := envelopeSigningBytes_eq e.senderId e.recipientId e.senderX25519Pub eph e.nonce e.timestamp
    e.ciphertext
  rw [← hv] at hsigned
  unfold openParts
  dsimp only
  simp only [ne_eq, require_eq_ok, Bool.and_eq_true, openPayload_ok_iff]
  dsimp only [Parts.of]
  rw [hsigned]
  constructor
  · rintro ⟨⟨-, hed, hx, heph32, -, hnonce, hsig64, htagged⟩, hsender, hrecipient, ⟨hpositive, hrecent⟩, hvalid, hsig,
      ⟨hephemeral, hstatic⟩, hopen⟩
    have hverify : C.verify e.senderEd25519Pub (signPayloadV3 e.version e.senderId e.recipientId e.senderX25519Pub eph
        e.nonce e.timestamp e.ciphertext) e.signature = true := by
      unfold Crypto.verify
      rw [hed, hvalid, hsig64, hsig]
      rfl
    exact ⟨⟨hnonce, hed, hx, heph, heph32, NodeId.eq_of_bytes hrecipient, NodeId.eq_of_bytes hsender.symm, hverify⟩,
      ⟨htagged, hpositive, hrecent, hephemeral, hstatic⟩, hopen⟩
  · rintro ⟨hchecked, htime, hopen⟩
    have hverify := hchecked.signature
    unfold Crypto.verify at hverify
    simp only [Bool.and_eq_true, beq_iff_eq] at hverify
    obtain ⟨⟨⟨hed, hvalid⟩, hsig64⟩, hsig⟩ := hverify
    refine ⟨⟨e.senderId.size, hed, hchecked.x25519, hchecked.ephLength, e.recipientId.size, hchecked.nonce, hsig64,
      htime.tagged⟩, ?_, ?_, ⟨htime.positive, htime.recent⟩, hvalid, hsig, ⟨htime.ephemeral, htime.static⟩, hopen⟩
    · rw [← hchecked.senderId]
      rfl
    · rw [hchecked.recipientId]
      rfl

theorem recent_of_openParts {p : Parts} {timestamp : Int} {opened : String × Json}
    (h : openParts O C seed p timestamp clock = .ok opened) : (clock.seconds - timestamp).natAbs ≤ 7 * 86400 := by
  unfold openParts at h
  dsimp only at h
  simp only [ne_eq, require_eq_ok] at h
  exact h.2.2.2.1.2

theorem longOf_of_recent {t : UInt64} (h : (clock.seconds - longOf t).natAbs ≤ 7 * 86400) : longOf t = t.toNat := by
  have hlt := seconds_lt clock
  unfold longOf at h ⊢
  split_ifs at h ⊢ with ht
  · rfl
  · omega

theorem longOf_of_near {t : UInt64} (h : (clock.seconds - (t.toNat : Int)).natAbs ≤ 7 * 86400) :
    longOf t = t.toNat := by
  have hlt := seconds_lt clock
  exact if_pos (by omega)

/-- Of the envelopes of version 3 that the crates can read, Android opens those that they open, in time, where they hold
a JSON object. -/
theorem openEnvelope_ok_iff {senderIdHex : String} (hread : EncryptedEnvelope.ofJson (.object fields) = some e)
    (hv : e.version = envelopeVersion) :
    openEnvelope O C seed (.object fields) clock = .ok (senderIdHex, payload) ↔
      ∃ eph plaintext, e.ephemeralX25519Pub = some eph ∧ InTime C seed e eph e.timestamp.toNat clock ∧
        senderIdHex = e.senderId.toHex ∧ O.parse plaintext = some payload ∧
          decryptEnvelope C (.fromSeed C seed) e = .ok plaintext := by
  obtain ⟨hversion, htimestamp, hparts⟩ := read_of_ofJson (O := O) hread
  have h3 : 3 ≤ e.version := by
    rw [hv]
    decide
  have hnewest : ¬ optInt O (.object fields) "version" 0 < version.toNat := by
    rw [hversion (by rw [hv]; decide), hv]
    exact lt_irrefl _
  unfold openEnvelope
  rw [if_neg hnewest, htimestamp]
  constructor
  · intro h
    cases hread' : partsOf O (.object fields) with
    | error err =>
      rw [hread'] at h
      cases h
    | ok p =>
      rw [hread'] at h
      change openParts O C seed p (longOf e.timestamp) clock = _ at h
      obtain ⟨eph, heph, rfl⟩ := (hparts p).1 hread'
      rw [longOf_of_recent (recent_of_openParts h)] at h
      obtain ⟨hchecked, htime, hsender, plaintext, hparse, hopen⟩ := (openParts_ok_iff hv heph).1 h
      exact ⟨eph, plaintext, heph, htime, hsender, hparse, (hchecked.decryptEnvelope_eq h3).trans hopen⟩
  · rintro ⟨eph, plaintext, heph, htime, hsender, hparse, hopen⟩
    rw [(hparts _).2 ⟨eph, heph, rfl⟩, longOf_of_near htime.recent]
    obtain ⟨eph', hchecked⟩ := checkedV3_of_ok hopen h3
    obtain rfl := Option.some.inj (heph.symm.trans hchecked.ephemeral)
    rw [hchecked.decryptEnvelope_eq h3] at hopen
    exact (openParts_ok_iff hv heph).2 ⟨hchecked, htime, hsender, plaintext, hparse, hopen⟩

/-- The tag is part of what the AEAD makes. -/
def SealsWithTag (C : Crypto) : Prop :=
  ∀ key nonce ad plaintext : Bytes, key.length = 32 → 16 ≤ (C.aeadEncrypt key nonce ad plaintext).length

/-- What Android seals for an identity, the crates open; what the crates seal for an Android identity, Android opens
within seven days, where it is the text of a JSON object and the keys agree on a secret; and of what the crates can read
as version 3, Android opens nothing that they do not open to the same plaintext. -/
theorem envelopes_interoperate (hC : C.Correct) (htag : SealsWithTag C) :
    (∀ (seed : Bytes) (r : UserIdentity C) (recipientIdHex : String) (payload : Json) (ephSecret nonce : Bytes)
        (clock : Clock) (env : Json), r.WellSized → ephSecret.length = 32 → nonce.length = 12 →
      hexToBytes O recipientIdHex = .ok r.userId.bytes →
      sealMessage O C seed recipientIdHex r.x25519Public payload ephSecret nonce clock = .ok env →
      ∃ e, EncryptedEnvelope.ofJson env = some e ∧ decryptEnvelope C r e = .ok (O.print payload)) ∧
    (∀ (s : UserIdentity C) (seed plaintext ephSeed nonce : Bytes) (timestamp : UInt64) (clock : Clock)
      (payload : Json),
      s.WellSized → ephSeed.length = 32 → nonce.length = 12 → O.parse plaintext = some payload →
      0 < timestamp.toNat → (clock.seconds - (timestamp.toNat : Int)).natAbs ≤ 7 * 86400 →
      isContributory (C.dh (UserIdentity.fromSeed C seed).x25519Secret (C.xPublic ephSeed)) →
      isContributory (C.dh (UserIdentity.fromSeed C seed).x25519Secret s.x25519Public) →
      openEnvelope O C seed (encryptEnvelope C s (UserIdentity.fromSeed C seed).userId
        (UserIdentity.fromSeed C seed).x25519Public plaintext ephSeed nonce timestamp).toJson clock =
          .ok (s.userId.toHex, payload)) ∧
    ∀ (seed : Bytes) (env : Json) (e : EncryptedEnvelope) (clock : Clock) (senderIdHex : String) (payload : Json),
      EncryptedEnvelope.ofJson env = some e → e.version = 3 →
      openEnvelope O C seed env clock = .ok (senderIdHex, payload) →
      ∃ plaintext, decryptEnvelope C (.fromSeed C seed) e = .ok plaintext ∧ O.parse plaintext = some payload := by
  refine ⟨?_, ?_, ?_⟩
  · intro seed r recipientIdHex payload ephSecret nonce clock env hr heph hnonce hid hseal
    obtain ⟨recipientId, hid', rfl⟩ := sealMessage_ok hseal
    obtain rfl := NodeId.eq_of_bytes (Except.ok.inj (hid'.symm.trans hid))
    exact ⟨_, EncryptedEnvelope.ofJson_toJson _,
      decryptEnvelope_encryptEnvelope hC (UserIdentity.wellSized_fromSeed hC seed) hr _ heph hnonce _⟩
  · intro s seed plaintext ephSeed nonce timestamp clock payload hs heph hnonce hparse hpositive hrecent hephemeral
      hstatic
    have hr := UserIdentity.wellSized_fromSeed hC seed
    have hopen := decryptEnvelope_encryptEnvelope hC hs hr plaintext heph hnonce timestamp
    refine (openEnvelope_ok_iff (EncryptedEnvelope.ofJson_toJson _) rfl).2 ⟨_, plaintext, rfl, ?_, rfl, hparse, hopen⟩
    exact ⟨htag _ _ _ _ (hC.hkdf_length _ _ _), by exact_mod_cast hpositive, hrecent, hephemeral, hstatic⟩
  · intro seed env e clock senderIdHex payload hread hv hopen
    cases env with
    | object fields =>
      obtain ⟨_, plaintext, -, -, -, hparse, hdecrypt⟩ := (openEnvelope_ok_iff hread hv).1 hopen
      exact ⟨plaintext, hdecrypt, hparse⟩
    | _ => cases hopen

end AndroidMessageCrypto

/-! ## From Alice to Bob -/

namespace Sample

open NodeX.Sample AndroidMessageCrypto

/-- An empty object is all that is written here, and hex has the digits of ASCII. -/
def emptyObject : OrgJson where
  toInteger _ := none
  toLong _ := none
  digit c := (hexValue c.toNat.toUInt8).map fun d => Fin.ofNat 16 d.toNat
  parse bytes := if bytes = [123, 125] then some (.object []) else none
  print _ := [123, 125]

theorem sealsWithTag_transparent : SealsWithTag .transparent := by
  intro key nonce ad plaintext hkey
  change 16 ≤ (key ++ ad ++ plaintext).length
  rw [List.length_append, List.length_append]
  omega

/-- Bob's phone and Alice's computer. -/
def bobSeed : Bytes := List.replicate 32 5

def fromAlice (plaintext : Bytes) : EncryptedEnvelope :=
  encryptEnvelope .transparent alice bob.userId bob.x25519Public plaintext (List.replicate 32 1)
    (List.replicate 12 2) 100

/-- The clock, so many seconds after the envelope was made. -/
def clockAfter (seconds : Nat) (h : seconds < 2 ^ 40) : Clock := ⟨(100 + seconds) * 1000, by omega⟩

end Sample

namespace AndroidMessageCrypto

open NodeX.Sample Sample

/-- Android refuses what is no JSON object and what is older than seven days; and it opens what is signed as version 3
and sent as version 4. -/
theorem envelopes_interoperate_not :
    (decryptEnvelope .transparent bob (fromAlice [104, 105]) = .ok [104, 105] ∧
      (openEnvelope emptyObject .transparent bobSeed (fromAlice [104, 105]).toJson
        (clockAfter 1 (by decide))).isOk = false) ∧
    (decryptEnvelope .transparent bob (fromAlice [123, 125]) = .ok [123, 125] ∧
      (openEnvelope emptyObject .transparent bobSeed (fromAlice [123, 125]).toJson
        (clockAfter 604801 (by decide))).isOk = false) ∧
    (decryptEnvelope .transparent bob { fromAlice [123, 125] with version := 4 }).isOk = false ∧
      (openEnvelope emptyObject .transparent bobSeed { fromAlice [123, 125] with version := 4 }.toJson
        (clockAfter 1 (by decide))).isOk = true := by
  refine ⟨⟨?_, ?_⟩, ⟨?_, ?_⟩, ?_, ?_⟩
  all_goals decide +kernel

theorem envelopes_interoperate_bob :
    (∃ env e, sealMessage emptyObject .transparent bobSeed alice.userIdHex alice.x25519Public (.object [])
        (List.replicate 32 1) (List.replicate 12 2) (clockAfter 0 (by decide)) = .ok env ∧
      EncryptedEnvelope.ofJson env = some e ∧ decryptEnvelope .transparent alice e = .ok [123, 125]) ∧
    openEnvelope emptyObject .transparent bobSeed (fromAlice [123, 125]).toJson (clockAfter 1 (by decide)) =
        .ok (alice.userIdHex, .object []) ∧
      ∃ plaintext, decryptEnvelope .transparent bob (fromAlice [123, 125]) = .ok plaintext ∧
        emptyObject.parse plaintext = some (.object []) := by
  obtain ⟨hseal, hopen, haccept⟩ := envelopes_interoperate (O := emptyObject) Crypto.transparent_correct
    sealsWithTag_transparent
  have hopened := hopen alice bobSeed [123, 125] (List.replicate 32 1) (List.replicate 12 2) 100
    (clockAfter 1 (by decide)) (.object []) wellSized_alice List.length_replicate List.length_replicate rfl
    (by decide) (by decide) (by decide +kernel) (by decide +kernel)
  refine ⟨?_, hopened, haccept bobSeed _ _ _ _ _ (EncryptedEnvelope.ofJson_toJson _) rfl hopened⟩
  cases hsealed : sealMessage emptyObject .transparent bobSeed alice.userIdHex alice.x25519Public (.object [])
      (List.replicate 32 1) (List.replicate 12 2) (clockAfter 0 (by decide)) with
  | error err =>
    have hok : (sealMessage emptyObject .transparent bobSeed alice.userIdHex alice.x25519Public (.object [])
        (List.replicate 32 1) (List.replicate 12 2) (clockAfter 0 (by decide))).isOk = true := by decide +kernel
    rw [hsealed] at hok
    cases hok
  | ok env =>
    obtain ⟨e, hread, hdecrypt⟩ := hseal bobSeed alice alice.userIdHex (.object []) (List.replicate 32 1)
      (List.replicate 12 2) _ env wellSized_alice List.length_replicate List.length_replicate (by decide +kernel)
      hsealed
    exact ⟨env, e, rfl, hread, hdecrypt⟩

end AndroidMessageCrypto

end NodeX.Messenger
