/-
An envelope from one user to another: sealed, written as JSON, read back with the defaults of the
derived reader, and opened.
-/
import NodeX.Messenger.MailboxJson

namespace NodeX.Messenger

open NodeX.Lib

/-! ## The JSON of an envelope -/

/-- JSON values; numbers that are no natural number stand for themselves as text. -/
inductive Json where
  | null
  | bool (b : Bool)
  | nat (n : Nat)
  | number (text : String)
  | string (s : String)
  | array (items : List Json)
  | object (fields : List (String × Json))

namespace Json

def ofBytes (bs : Bytes) : Json := array (bs.map fun b => nat b.toNat)

/-- `u8::deserialize`. -/
def u8? : Json → Option UInt8
  | nat n => if n < 256 then some (UInt8.ofNat n) else none
  | _ => none

/-- `u64::deserialize`. -/
def u64? : Json → Option UInt64
  | nat n => if n < 2 ^ 64 then some (UInt64.ofNat n) else none
  | _ => none

/-- `Vec<u8>::deserialize`. -/
def bytes? : Json → Option Bytes
  | array items => items.mapM u8?
  | _ => none

/-- `[u8; 20]`, which a node id is. -/
def nodeId? (v : Json) : Option NodeId :=
  v.bytes?.bind fun bs => if h : bs.length = 20 then some ⟨bs, h⟩ else none

/-- `Option::deserialize`. -/
def option? {α : Type} (f : Json → Option α) : Json → Option (Option α)
  | null => some none
  | v => (f v).map some

/-- The value of a field, if it is there; a field that comes twice is an error. -/
def field? (fields : List (String × Json)) (name : String) : Option (Option Json) :=
  match fields.filter fun f => f.1 = name with
  | [] => some none
  | [f] => some (some f.2)
  | _ => none

/-- A field that has to be there. -/
def required? {α : Type} (fields : List (String × Json)) (name : String) (f : Json → Option α) : Option α :=
  (field? fields name).bind fun v => v.bind f

/-- `#[serde(default)]` -/
def withDefault? {α : Type} (fields : List (String × Json)) (name : String) (f : Json → Option α) (default : α) :
    Option α :=
  (field? fields name).bind fun v => v.elim (some default) f

end Json

namespace EncryptedEnvelope

/-- The derived writer: the fields in the order of the declaration, no ephemeral key if there is none. -/
def toJson (e : EncryptedEnvelope) : Json :=
  .object ([("version", .nat e.version.toNat),
    ("sender_id", .ofBytes e.senderId.bytes),
    ("sender_ed25519_pub", .ofBytes e.senderEd25519Pub),
    ("sender_x25519_pub", .ofBytes e.senderX25519Pub)] ++
    (e.ephemeralX25519Pub.map fun eph => ("ephemeral_x25519_pub", .ofBytes eph)).toList ++
    [("recipient_id", .ofBytes e.recipientId.bytes),
    ("nonce", .ofBytes e.nonce),
    ("ciphertext", .ofBytes e.ciphertext),
    ("signature", .ofBytes e.signature),
    ("timestamp", .nat e.timestamp.toNat)])

def defaultEnvelopeVersion : UInt8 := 1

/-- The derived reader: an object with the fields in any order, or an array of all of them. -/
def ofJson : Json → Option EncryptedEnvelope
  | .object fields => do
    let version ← Json.withDefault? fields "version" Json.u8? defaultEnvelopeVersion
    let senderId ← Json.required? fields "sender_id" Json.nodeId?
    let senderEd25519Pub ← Json.required? fields "sender_ed25519_pub" Json.bytes?
    let senderX25519Pub ← Json.required? fields "sender_x25519_pub" Json.bytes?
    let ephemeralX25519Pub ← Json.withDefault? fields "ephemeral_x25519_pub" (Json.option? Json.bytes?) none
    let recipientId ← Json.required? fields "recipient_id" Json.nodeId?
    let nonce ← Json.required? fields "nonce" Json.bytes?
    let ciphertext ← Json.required? fields "ciphertext" Json.bytes?
    let signature ← Json.required? fields "signature" Json.bytes?
    let timestamp ← Json.required? fields "timestamp" Json.u64?
    some { version, senderId, senderEd25519Pub, senderX25519Pub, ephemeralX25519Pub, recipientId, nonce, ciphertext
           signature, timestamp }
  | .array [version, senderId, ed, x, eph, recipientId, nonce, ciphertext, signature, timestamp] => do
    some
      { version := ← version.u8?, senderId := ← senderId.nodeId?, senderEd25519Pub := ← ed.bytes?
        senderX25519Pub := ← x.bytes?, ephemeralX25519Pub := ← eph.option? Json.bytes?
        recipientId := ← recipientId.nodeId?, nonce := ← nonce.bytes?, ciphertext := ← ciphertext.bytes?
        signature := ← signature.bytes?, timestamp := ← timestamp.u64? }
  | _ => none

end EncryptedEnvelope

/-! ## What is written is read -/

namespace Json

@[simp] theorem u8?_toNat (b : UInt8) : (nat b.toNat).u8? = some b := by
  show (if b.toNat < 256 then some (UInt8.ofNat b.toNat) else none) = some b
  rw [if_pos b.toNat_lt, UInt8.ofNat_toNat]

@[simp] theorem u64?_toNat (n : UInt64) : (nat n.toNat).u64? = some n := by
  show (if n.toNat < 2 ^ 64 then some (UInt64.ofNat n.toNat) else none) = some n
  rw [if_pos n.toNat_lt, UInt64.ofNat_toNat]

@[simp] theorem bytes?_ofBytes (bs : Bytes) : (ofBytes bs).bytes? = some bs := by
  show (bs.map fun b => nat b.toNat).mapM u8? = some bs
  induction bs with
  | nil => rfl
  | cons b bs ih =>
    rw [List.map_cons, List.mapM_cons, u8?_toNat, ih]
    rfl

@[simp] theorem nodeId?_ofBytes (id : NodeId) : (ofBytes id.bytes).nodeId? = some id := by
  unfold nodeId?
  rw [bytes?_ofBytes, Option.bind_some, dif_pos id.size]

@[simp] theorem option?_ofBytes (bs : Bytes) : (ofBytes bs).option? bytes? = some (some bs) := by
  show ((ofBytes bs).bytes?).map some = _
  rw [bytes?_ofBytes]
  rfl

end Json

/-- The derived reader undoes the derived writer, with the ephemeral key and without. -/
theorem EncryptedEnvelope.ofJson_toJson (e : EncryptedEnvelope) : ofJson e.toJson = some e := by
  obtain ⟨version, senderId, ed, x, eph, recipientId, nonce, ciphertext, signature, timestamp⟩ := e
  cases eph with
  | none => simp [ofJson, toJson, Json.required?, Json.withDefault?, Json.field?]
  | some eph => simp [ofJson, toJson, Json.required?, Json.withDefault?, Json.field?]

/-- `serde_json` between values and text. -/
structure JsonText where
  print : Json → Bytes
  parse : Bytes → Option Json

namespace JsonText

/-- `serde_json::to_vec` of an envelope. -/
def writeEnvelope (T : JsonText) (e : EncryptedEnvelope) : Bytes := T.print e.toJson

/-- `serde_json::from_slice` of an envelope. -/
def readEnvelope (T : JsonText) (bytes : Bytes) : Option EncryptedEnvelope :=
  (T.parse bytes).bind EncryptedEnvelope.ofJson

/-- Where the text of the value of an envelope is read as that value, the envelope comes back. -/
theorem readEnvelope_writeEnvelope {T : JsonText} {e : EncryptedEnvelope}
    (hT : T.parse (T.print e.toJson) = some e.toJson) : T.readEnvelope (T.writeEnvelope e) = some e := by
  unfold readEnvelope writeEnvelope
  rw [hT, Option.bind_some, EncryptedEnvelope.ofJson_toJson]

end JsonText

/-! ## What is sealed is opened -/

section Sealing

variable {C : Crypto} {s r : UserIdentity C} {ephSeed nonce : Bytes}

/-- For all identities and plaintexts, the draws of the sender and its clock: the recipient opens the
envelope to the plaintext, as it is and after it was written and read; nobody with another id opens it. -/
theorem envelope_roundTrip (hC : C.Correct) {T : JsonText}
    (hT : ∀ e : EncryptedEnvelope, T.parse (T.print e.toJson) = some e.toJson) (hs : s.WellSized) (hr : r.WellSized)
    (plaintext : Bytes) (heph : ephSeed.length = 32) (hnonce : nonce.length = 12) (timestamp : UInt64) :
    let e := encryptEnvelope C s r.userId r.x25519Public plaintext ephSeed nonce timestamp
    decryptEnvelope C r e = .ok plaintext ∧
      (∃ e', T.readEnvelope (T.writeEnvelope e) = some e' ∧ decryptEnvelope C r e' = .ok plaintext) ∧
        ∀ q : UserIdentity C, q.userId ≠ r.userId → ∃ err, decryptEnvelope C q e = .error err := by
  intro e
  have hopen := decryptEnvelope_encryptEnvelope hC hs hr plaintext heph hnonce timestamp
  exact ⟨hopen, ⟨e, JsonText.readEnvelope_writeEnvelope (hT e), hopen⟩,
    fun q hq => ⟨_, decryptEnvelope_other hq⟩⟩

end Sealing

/-! ## From Alice to Bob -/

namespace Sample

open NodeX.Sample

/-- The text of an envelope as it is written; nothing else is written here. -/
def envelopeText : JsonText where
  print v := (EncryptedEnvelope.ofJson v).elim [] declaredEnvelope.print
  parse bytes := (declaredEnvelope.parseAll bytes).map EncryptedEnvelope.toJson

theorem envelopeText_parse_print (e : EncryptedEnvelope) :
    envelopeText.parse (envelopeText.print e.toJson) = some e.toJson := by
  show (declaredEnvelope.parseAll ((EncryptedEnvelope.ofJson e.toJson).elim [] declaredEnvelope.print)).map _ = _
  rw [EncryptedEnvelope.ofJson_toJson]
  show (declaredEnvelope.parseAll (declaredEnvelope.print e)).map _ = _
  rw [declaredEnvelope.parseAll_print]
  rfl

end Sample

section Sample

open NodeX.Sample Sample

theorem envelope_roundTrip_hello :
    let e := encryptEnvelope .transparent alice bob.userId bob.x25519Public (utf8 "Hello Bob") (List.replicate 32 1)
      (List.replicate 12 2) 100
    decryptEnvelope .transparent bob e = .ok (utf8 "Hello Bob") ∧
      (∃ e', envelopeText.readEnvelope (envelopeText.writeEnvelope e) = some e' ∧
        decryptEnvelope .transparent bob e' = .ok (utf8 "Hello Bob")) ∧
        ∀ q : UserIdentity .transparent, q.userId ≠ bob.userId → ∃ err, decryptEnvelope .transparent q e = .error err :=
  envelope_roundTrip Crypto.transparent_correct envelopeText_parse_print
    wellSized_alice wellSized_bob (utf8 "Hello Bob") List.length_replicate
    List.length_replicate 100

end Sample

end NodeX.Messenger
