/-
Presence cards and the lookup of a peer's key: the checks `discover_peer` makes on what the DHT
returns under a presence key, and the path from a requested user id to the key an envelope is
sealed to.
-/
import NodeX.Messenger.Envelope
import NodeX.Messenger.Db

namespace NodeX.Messenger

/-! ## Presence cards -/

inductive NatCategory where
  | directPossible | holePunchLikely | relayRecommended | udpBlocked | unknown
deriving DecidableEq

structure UserPresenceCard where
  userIdHex : String
  displayName : String
  bio : String := ""
  ed25519Pub : Bytes
  x25519Pub : Bytes
  socketAddr : SocketAddr
  endpoints : List SocketAddr := []
  natCategory : NatCategory := .unknown
  timestamp : UInt64
  signature : Bytes
deriving DecidableEq

/-- What other packages do with cards and addresses: JSON, `Display` and `FromStr` of a socket
address, the text of a signature error. -/
structure PresenceText where
  parseCard : Bytes → Except String UserPresenceCard
  /-- `to_vec` of the tuple a card signs: every field but the signature -/
  printSigned : String × String × String × Bytes × Bytes × SocketAddr × List SocketAddr × NatCategory × UInt64 → Bytes
  showAddr : SocketAddr → String
  parseAddr : String → Option SocketAddr
  signatureError : String

variable (C : Crypto) (T : PresenceText)

namespace UserPresenceCard

def signingBytes (card : UserPresenceCard) : Bytes :=
  T.printSigned (card.userIdHex, card.displayName, card.bio, card.ed25519Pub, card.x25519Pub, card.socketAddr,
    card.endpoints, card.natCategory, card.timestamp)

/-- `create_with_endpoints`. -/
def createWithEndpoints (identity : UserIdentity C) (displayName bio : String) (socketAddr : SocketAddr)
    (endpoints : List SocketAddr) (natCategory : NatCategory) (timestamp : UInt64) : UserPresenceCard :=
  let card : UserPresenceCard :=
    { userIdHex := identity.userIdHex, displayName, bio, ed25519Pub := identity.verifyingKey
      x25519Pub := identity.x25519Public, socketAddr, endpoints, natCategory, timestamp, signature := [] }
  { card with signature := identity.sign (card.signingBytes T) }

/-- `verify_signature`: a card is checked against the key and the id it carries itself. -/
def verifySignature (card : UserPresenceCard) : Except MessengerError Unit :=
  if card.ed25519Pub.length ≠ 32 then .error (.invalidKeyLength "Ed25519 pub key must be 32 bytes")
  else if C.edKeyValid card.ed25519Pub = false then .error (.cryptoError T.signatureError)
  else if card.userIdHex ≠ hexString (C.hashNodeId card.ed25519Pub).bytes then
    .error (.cryptoError "Presence user ID does not match Ed25519 public key")
  else if card.signature.length ≠ 64 then .error (.cryptoError "Signature must be 64 bytes")
  else if C.edVerifyStrict card.ed25519Pub (card.signingBytes T) card.signature = false then
    .error (.cryptoError ("Invalid presence signature: " ++ T.signatureError))
  else .ok ()

theorem userIdHex_of_verifySignature {card : UserPresenceCard} (h : card.verifySignature C T = .ok ()) :
    card.userIdHex = (NodeId.fromKey C card.ed25519Pub).toHex := by
  unfold verifySignature at h
  split at h
  · cases h
  · split at h
    · cases h
    · split at h
      · cases h
      · rename_i hid
        exact not_not.1 hid

end UserPresenceCard

/-! ## Discovery -/

/-- What `get` answers for a key: the local record or the one found by lookup, whoever chose it. -/
abbrev Dht := NodeId → Except String (Option Bytes)

/-- The key a user's card is looked up under. -/
def presenceKey (userIdHex : String) : NodeId := NodeId.fromKey C (utf8 ("presence_" ++ trim userIdHex))

/-- The checks of `discover_peer` on a card that parses. -/
def checkCard (card : UserPresenceCard) : Except String Unit :=
  if card.ed25519Pub.length ≠ 32 then .error "Invalid Ed25519 public key length in presence card"
  else if (NodeId.fromKey C card.ed25519Pub).toHex ≠ card.userIdHex then
    .error "Presence card User ID does not match Ed25519 public key"
  else (card.verifySignature C T).mapError MessengerError.text

theorem checkCard_ok {card : UserPresenceCard} :
    checkCard C T card = .ok () ↔ card.verifySignature C T = .ok () := by
  unfold checkCard
  constructor
  · intro h
    split at h
    · cases h
    · split at h
      · cases h
      · cases hv : card.verifySignature C T with
        | ok u => rfl
        | error e => rw [hv] at h; cases h
  · intro h
    have hid := card.userIdHex_of_verifySignature C T h
    have hlen : card.ed25519Pub.length = 32 := by
      unfold UserPresenceCard.verifySignature at h
      split at h
      · cases h
      · rename_i hl
        exact not_not.1 hl
    rw [if_neg (by simpa using hlen), if_neg (by simpa using hid.symm), h]
    rfl

/-- The name a discovered contact is saved under. -/
def contactName (existing : Option String) (card : UserPresenceCard) : String :=
  let fallback := if trim card.displayName ≠ "" then card.displayName
    else "Peer_" ++ String.ofList (card.userIdHex.toList.take 6)
  match existing with
  | some custom =>
    if trim custom ≠ "" && !("Peer_".toList.isPrefixOf custom.toList) then custom else fallback
  | none => fallback

/-- The contact a discovered card is saved as. -/
def contactOfCard (db : MessengerDb) (card : UserPresenceCard) : SavedContact :=
  { userIdHex := card.userIdHex
    name := contactName ((db.contacts.lookup card.userIdHex).map (·.name)) card
    bio := card.bio
    ed25519PubHex := hexString card.ed25519Pub
    x25519PubHex := hexString card.x25519Pub
    lastSeenAddr := T.showAddr card.socketAddr }

/-- `discover_peer`, with the database after it. -/
def discoverPeer (dht : Dht) (db : MessengerDb) (userIdHex : String) : MessengerDb × Except String UserPresenceCard :=
  match dht (presenceKey C userIdHex) with
  | .error e => (db, .error e)
  | .ok none => (db, .error ("Peer " ++ userIdHex ++ " not found in DHT"))
  | .ok (some bytes) =>
    match T.parseCard bytes with
    | .error e => (db, .error ("Failed to parse presence card: " ++ e))
    | .ok card =>
      match checkCard C T card with
      | .error e => (db, .error e)
      | .ok () => (db.addContact (contactOfCard T db card), .ok card)

/-- Discovery at most makes a contact. -/
theorem fst_discoverPeer (dht : Dht) (db : MessengerDb) (r : String) :
    ∃ contacts, (discoverPeer C T dht db r).1 = { db with contacts } := by
  unfold discoverPeer
  repeat' split
  all_goals exact ⟨_, rfl⟩

/-- `discover_peer` returns what is stored under the presence key, if it passes the checks. -/
theorem discoverPeer_ok {dht : Dht} {db : MessengerDb} {r : String} {card : UserPresenceCard} :
    (discoverPeer C T dht db r).2 = .ok card ↔ ∃ bytes, dht (presenceKey C r) = .ok (some bytes) ∧
      T.parseCard bytes = .ok card ∧ card.verifySignature C T = .ok () := by
  unfold discoverPeer
  constructor
  · intro h
    cases hd : dht (presenceKey C r) with
    | error e => rw [hd] at h; cases h
    | ok answer =>
      cases answer with
      | none => rw [hd] at h; cases h
      | some bytes =>
        rw [hd] at h
        dsimp only at h
        cases hp : T.parseCard bytes with
        | error e => rw [hp] at h; cases h
        | ok card' =>
          rw [hp] at h
          dsimp only at h
          cases hc : checkCard C T card' with
          | error e => rw [hc] at h; cases h
          | ok u =>
            rw [hc] at h
            cases h
            exact ⟨bytes, rfl, hp, (checkCard_ok C T).1 hc⟩
  · rintro ⟨bytes, hd, hp, hv⟩
    rw [hd]
    dsimp only
    rw [hp]
    dsimp only
    rw [(checkCard_ok C T).2 hv]

/-! ## Sealing to a recipient -/

/-- Where an envelope's key came from and where it may be sent. -/
structure Resolved where
  key : Bytes
  targetAddr : Option SocketAddr
  candidates : List SocketAddr
  discovered : Bool
  db : MessengerDb

/-- The part of a saved contact `try_deliver_payload` reads: key, address, and whether it is a stand-in. -/
def cachedKey (c : SavedContact) : Outcome (Option Bytes × Option SocketAddr × Bool) :=
  (hexDecode c.x25519PubHex).map fun key =>
    (key, T.parseAddr c.lastSeenAddr, c.x25519PubHex = "" || c.x25519PubHex = c.ed25519PubHex ||
      c.lastSeenAddr = "127.0.0.1:8444" || c.lastSeenAddr = "unknown")

/-- The recipient's key: a usable saved contact, else discovery. -/
def resolveRecipient (dht : Dht) (db : MessengerDb) (recipientIdHex : String) : Outcome Resolved MessengerError :=
  let discover : Outcome Resolved MessengerError :=
    match discoverPeer C T dht db recipientIdHex with
    | (db', .ok card) => .ok ⟨card.x25519Pub, some card.socketAddr, card.endpoints, true, db'⟩
    | (_, .error _) => .err (.recipientVerifiedKeyMissing recipientIdHex)
  match db.contacts.lookup recipientIdHex with
  | none => discover
  | some c =>
    match cachedKey T c with
    | .ok (some key, addr, false) => if key.length = 32 then .ok ⟨key, addr, addr.toList, false, db⟩ else discover
    | .ok _ => discover
    | .err e => .err (.other e)
    | .panic => .panic

/-- `try_deliver_payload` up to the sealed envelope, with the draws of `encrypt_envelope`. -/
def sealPayload (J : PayloadJson) (me : UserIdentity C) (dht : Dht) (db : MessengerDb) (recipientIdHex : String)
    (payload : ChatMessagePayload) (ephSeed nonce : Bytes) (timestamp : UInt64) :
    Outcome (Resolved × EncryptedEnvelope) MessengerError :=
  ((NodeId.fromHex recipientIdHex).mapErr fun e => .other ("Invalid recipient hex: " ++ e)).bind fun recipientId =>
    (resolveRecipient C T dht db recipientIdHex).bind fun r =>
      if r.key.length ≠ 32 then .err (.recipientVerifiedKeyMissing recipientIdHex)
      else .ok (r, encryptEnvelope C me recipientId r.key (J.print payload) ephSeed nonce timestamp)

/-- What is resolved is a saved contact's key without a mark, or what discovery found. -/
theorem resolveRecipient_eq_ok {dht : Dht} {db : MessengerDb} {r : String} {d : Resolved}
    (h : resolveRecipient C T dht db r = .ok d) :
    (∃ c key addr, db.contacts.lookup r = some c ∧ cachedKey T c = .ok (some key, addr, false) ∧
      d = ⟨key, addr, addr.toList, false, db⟩) ∨
    ∃ db' card, discoverPeer C T dht db r = (db', .ok card) ∧
      d = ⟨card.x25519Pub, some card.socketAddr, card.endpoints, true, db'⟩ := by
  unfold resolveRecipient at h
  rcases hp : discoverPeer C T dht db r with ⟨db', e | card⟩
  · simp only [hp] at h
    split at h
    · cases h
    · rename_i c hc
      split at h
      · rename_i key addr hk
        split at h
        · cases h
          exact .inl ⟨c, key, addr, hc, hk, rfl⟩
        · cases h
      all_goals cases h
  · simp only [hp] at h
    split at h
    · cases h
      exact .inr ⟨db', card, rfl, rfl⟩
    · rename_i c hc
      split at h
      · rename_i key addr hk
        split at h
        · cases h
          exact .inl ⟨c, key, addr, hc, hk, rfl⟩
        · cases h
          exact .inr ⟨db', card, rfl, rfl⟩
      · cases h
        exact .inr ⟨db', card, rfl, rfl⟩
      all_goals cases h

theorem resolveRecipient_discovered {dht : Dht} {db : MessengerDb} {r : String} {d : Resolved}
    (h : resolveRecipient C T dht db r = .ok d) (hd : d.discovered = true) :
    ∃ card, (discoverPeer C T dht db r).2 = .ok card ∧ d.key = card.x25519Pub := by
  obtain ⟨c, key, addr, -, -, rfl⟩ | ⟨db', card, hp, rfl⟩ := resolveRecipient_eq_ok C T h
  · cases hd
  · exact ⟨card, by rw [hp], rfl⟩

/-- Without a saved contact, what a discovered card says is what is used. -/
theorem sealPayload_discovered (J : PayloadJson) (me : UserIdentity C) {dht : Dht} {db : MessengerDb} {r : String}
    {recipientId : NodeId} {card : UserPresenceCard} (hid : NodeId.fromHex r = .ok recipientId)
    (hnew : db.contacts.lookup r = none) (hok : (discoverPeer C T dht db r).2 = .ok card)
    (hlen : card.x25519Pub.length = 32) (payload : ChatMessagePayload) (ephSeed nonce : Bytes) (ts : UInt64) :
    sealPayload C T J me dht db r payload ephSeed nonce ts =
      .ok (⟨card.x25519Pub, some card.socketAddr, card.endpoints, true, (discoverPeer C T dht db r).1⟩,
        encryptEnvelope C me recipientId card.x25519Pub (J.print payload) ephSeed nonce ts) := by
  have hres : resolveRecipient C T dht db r =
      .ok ⟨card.x25519Pub, some card.socketAddr, card.endpoints, true, (discoverPeer C T dht db r).1⟩ := by
    unfold resolveRecipient
    rw [hnew]
    rcases hd : discoverPeer C T dht db r with ⟨db', x⟩
    rw [hd] at hok
    cases hok
    rfl
  unfold sealPayload
  rw [hid, hres]
  exact if_neg (not_not.2 hlen)

/-! ## Key authenticity -/

/-- An X25519 key that the holder of an Ed25519 key put its signature on: a card with both that verifies. -/
def KeySigned (ed25519Pub x25519Pub : Bytes) : Prop :=
  ∃ card : UserPresenceCard, card.ed25519Pub = ed25519Pub ∧ card.x25519Pub = x25519Pub ∧
    card.verifySignature C T = .ok ()

/-- What a request for `r` must come to: only a verified card of `r` is returned, and an envelope
whose key was discovered is sealed to a key signed by the identity that hashes to `r`. -/
structure KeyAuthentic (J : PayloadJson) (dht : Dht) (r : String) : Prop where
  card : ∀ db card, (discoverPeer C T dht db r).2 = .ok card →
    card.userIdHex = r ∧ (NodeId.fromKey C card.ed25519Pub).toHex = r ∧ card.verifySignature C T = .ok ()
  key : ∀ me db payload ephSeed nonce ts d envelope,
    sealPayload C T J me dht db r payload ephSeed nonce ts = .ok (d, envelope) → d.discovered = true →
    ∃ recipientId ed25519Pub, NodeId.fromHex r = .ok recipientId ∧
      envelope = encryptEnvelope C me recipientId d.key (J.print payload) ephSeed nonce ts ∧
      (NodeId.fromKey C ed25519Pub).toHex = r ∧ KeySigned C T ed25519Pub d.key

/-- A request for `r` is answered authentically exactly when the value the DHT returns under the
presence key of `r` is not a card that verifies for another user id. -/
theorem discoverPeer_authentic_iff (J : PayloadJson) (dht : Dht) (r : String) :
    KeyAuthentic C T J dht r ↔ ∀ bytes card, dht (presenceKey C r) = .ok (some bytes) →
      T.parseCard bytes = .ok card → card.verifySignature C T = .ok () → card.userIdHex = r := by
  constructor
  · intro h bytes card hdht hparse hv
    exact (h.card {} card ((discoverPeer_ok C T).2 ⟨bytes, hdht, hparse, hv⟩)).1
  · intro h
    have hcard : ∀ db card, (discoverPeer C T dht db r).2 = .ok card →
        card.userIdHex = r ∧ (NodeId.fromKey C card.ed25519Pub).toHex = r ∧ card.verifySignature C T = .ok () := by
      intro db card hok
      obtain ⟨bytes, hdht, hparse, hv⟩ := (discoverPeer_ok C T).1 hok
      have hr := h bytes card hdht hparse hv
      exact ⟨hr, (card.userIdHex_of_verifySignature C T hv).symm.trans hr, hv⟩
    refine ⟨hcard, fun me db payload ephSeed nonce ts d envelope hseal hd => ?_⟩
    obtain ⟨recipientId, hid, hseal⟩ := Outcome.bind_eq_ok.1 hseal
    obtain ⟨d', hres, hseal⟩ := Outcome.bind_eq_ok.1 hseal
    split at hseal
    · cases hseal
    · cases hseal
      obtain ⟨card, hok, hkey⟩ := resolveRecipient_discovered C T hres hd
      obtain ⟨-, hed, hv⟩ := hcard db card hok
      exact ⟨recipientId, card.ed25519Pub, Outcome.mapErr_eq_ok.1 hid, rfl, hed, card, rfl, hkey.symm, hv⟩

/-! ## Another user's card under the requested key -/

namespace ForeignCard

open NodeX.Sample

/-- JSON of what a card signs, when its texts need no escapes and its one address is 203.0.113.9:9000. -/
def printSigned : String × String × String × Bytes × Bytes × SocketAddr × List SocketAddr × NatCategory × UInt64 →
    Bytes
  | (userIdHex, displayName, bio, ed25519Pub, x25519Pub, _, _, _, timestamp) =>
    jsonArray [jsonString userIdHex, jsonString displayName, jsonString bio, jsonBytes ed25519Pub,
      jsonBytes x25519Pub, jsonString "203.0.113.9:9000", jsonArray [jsonString "203.0.113.9:9000"],
      jsonString "Unknown", utf8 (toString timestamp.toNat)]

def addr : SocketAddr := ⟨.v4 #v[203, 0, 113, 9], 9000⟩

/-- The fields of the card, as the signer prints them. -/
def unsigned : PresenceText :=
  { parseCard := fun _ => .error "EOF while parsing a value at line 1 column 0", printSigned
    showAddr := fun _ => "203.0.113.9:9000", parseAddr := fun _ => none, signatureError := "signature error" }

/-- The card Mallory signs for herself. -/
def card : UserPresenceCard :=
  .createWithEndpoints .transparent unsigned mallory "Mallory" "" addr [addr] .unknown 1700000000

def cardText : Bytes :=
  jsonObject [("user_id_hex", jsonString card.userIdHex), ("display_name", jsonString "Mallory"),
    ("bio", jsonString ""),
    ("ed25519_pub", jsonBytes card.ed25519Pub), ("x25519_pub", jsonBytes card.x25519Pub),
    ("socket_addr", jsonString "203.0.113.9:9000"), ("endpoints", jsonArray [jsonString "203.0.113.9:9000"]),
    ("nat_category", jsonString "Unknown"), ("timestamp", utf8 "1700000000"), ("signature", jsonBytes card.signature)]

def text : PresenceText :=
  { unsigned with
    parseCard := fun bs => if bs = cardText then .ok card else .error "expected value at line 1 column 1" }

/-- Mallory stores her card under the presence key of Bob. -/
def dht : Dht := fun key => if key = presenceKey .transparent bob.userIdHex then .ok (some cardText) else .ok none

/-- JSON as far as one message goes. -/
def payloadJson : PayloadJson where
  print _ := utf8 "\x7b\"id\":\"m1\",\"text\":\"Hello Bob\",\"is_edited\":false\x7d"
  parse _ := none
  printTombstone _ := []
  utf8Lossy _ := ""

end ForeignCard

open ForeignCard NodeX.Sample in
/-- A request for Bob returns Mallory's card, and what Alice sends to Bob is sealed to Mallory's key. -/
theorem discoverPeer_foreign :
    (discoverPeer .transparent text dht {} bob.userIdHex).2 = .ok card ∧ card.userIdHex ≠ bob.userIdHex ∧
      (sealPayload .transparent text payloadJson alice dht {} bob.userIdHex { id := "m1", text := "Hello Bob" }
        (List.replicate 32 1) (List.replicate 12 2) 1700000060).map (·.1.key) = .ok mallory.x25519Public ∧
      ¬ KeyAuthentic .transparent text payloadJson dht bob.userIdHex := by
  obtain ⟨hverify, hne, hid, hlength⟩ : card.verifySignature .transparent text = .ok () ∧
      card.userIdHex ≠ bob.userIdHex ∧ NodeId.fromHex bob.userIdHex = .ok bob.userId ∧ card.x25519Pub.length = 32 := by
    decide +kernel
  have hok : (discoverPeer .transparent text dht {} bob.userIdHex).2 = .ok card :=
    (discoverPeer_ok _ _).2 ⟨cardText, by simp only [dht, if_true], by simp only [text, if_true], hverify⟩
  refine ⟨hok, hne, ?_, fun h => hne (h.card {} card hok).1⟩
  rw [sealPayload_discovered _ _ payloadJson alice hid rfl hok hlength]
  rfl

end NodeX.Messenger
