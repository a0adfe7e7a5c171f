/-
Contacts from signed cards: invite links (`invite.rs`) and the cards hidden in images (`import_stego_avatar`). The
signatures cover the user id, the keys and the times; the name, the bio and the endpoints are stored as they come.
-/
import NodeX.Messenger.Discovery
import NodeX.Messenger.Receipts

namespace NodeX.Messenger

open NodeX.Kad

/-! ## Cards -/

structure InvitePayload where
  userId : String
  ed25519PubHex : String
  x25519PubHex : String
  displayName : String
  fingerprint : String
  endpoints : List SocketAddr
  createdAt : UInt64
  expiresAt : UInt64
  signatureHex : String
deriving DecidableEq

structure StegoContactCard where
  userIdHex : String
  displayName : String
  bio : String
  ed25519PubHex : String
  x25519PubHex : String
  endpoints : List SocketAddr
  timestamp : UInt64
  signatureHex : String
deriving DecidableEq

/-- What is read of a link and of an image: Base64 without padding, JSON, and the card in the low bits of the pixels. -/
structure CardSources where
  decodeBase64 : String → Except String Bytes
  parseInvite : Bytes → Except String InvitePayload
  extractContact : Bytes → Option String → Except String StegoContactCard

variable (C : Crypto) (T : PresenceText) (D : CardSources)

/-- The name a card is saved under, where `blank` names give way to `peer`. -/
def storedName (blank : String → Bool) (peer displayName : String) : String :=
  if blank displayName then peer else displayName

/-- `format!("Peer_{}", &id[..n])`. -/
def peerName (n : Nat) (userIdHex : String) : String := "Peer_" ++ String.ofList (userIdHex.toList.take n)

/-- The first endpoint as text. -/
def primaryAddr (endpoints : List SocketAddr) : String := (endpoints.head?.map T.showAddr).getD "unknown"

/-! ## Invites -/

def invitePrefix : String := "nodex://invite/"

/-- `hex::decode` of `invite.rs`, which does not trim. -/
def inviteHexDecode (s : String) : Outcome Bytes :=
  if (utf8 s).length % 2 ≠ 0 then .err "Invalid hex string length" else hexPairs (utf8 s)

namespace InvitePayload

def signData (p : InvitePayload) : Bytes :=
  utf8 p.userId ++ utf8 p.ed25519PubHex ++ utf8 p.x25519PubHex ++ beBytes p.createdAt ++ beBytes p.expiresAt

/-- The bytes of the signature. -/
def signature (p : InvitePayload) : Outcome Bytes := inviteHexDecode p.signatureHex

/-- The checks of `parse_and_verify_invite`. -/
def check (p : InvitePayload) (currentTimestamp : UInt64) : Outcome InvitePayload :=
  if p.expiresAt ≤ currentTimestamp then
    .err ("Invite has expired (expired at " ++ toString p.expiresAt.toNat ++ ", now is " ++
      toString currentTimestamp.toNat ++ ")")
  else
    ((inviteHexDecode p.ed25519PubHex).mapErr ("Invalid Ed25519 public key hex: " ++ ·)).bind fun ed =>
      if ed.length ≠ 32 then .err "Ed25519 public key must be exactly 32 bytes"
      else if p.userId ≠ (NodeId.fromKey C ed).toHex then .err "User ID does not match Ed25519 public key"
      else
        (p.signature.mapErr ("Invalid signature hex: " ++ ·)).bind fun sig =>
          if sig.length ≠ 64 then .err "Signature must be exactly 64 bytes"
          else if C.edKeyValid ed = false then .err ("Invalid verifying key: " ++ T.signatureError)
          else if C.edVerify ed p.signData sig = false then
            .err "Cryptographic signature verification failed on invite"
          else .ok p

/-- The contact an invite is saved as. -/
def contact (p : InvitePayload) : SavedContact :=
  { userIdHex := p.userId, name := storedName (· = "") (peerName 6 p.userId) p.displayName, bio := ""
    ed25519PubHex := p.ed25519PubHex, x25519PubHex := p.x25519PubHex, lastSeenAddr := primaryAddr T p.endpoints }

end InvitePayload

def parseAndVerifyInvite (inviteStr : String) (currentTimestamp : UInt64) : Outcome InvitePayload :=
  let cleanStr := (trim inviteStr).toList
  let b64Part := if invitePrefix.toList.isPrefixOf cleanStr then cleanStr.drop invitePrefix.toList.length else cleanStr
  match D.decodeBase64 (String.ofList b64Part) with
  | .error e => .err ("Invalid Base64 in invite: " ++ e)
  | .ok rawBytes =>
    match D.parseInvite rawBytes with
    | .error e => .err ("Invalid JSON payload in invite: " ++ e)
    | .ok payload => payload.check C T currentTimestamp

/-- `add_contact_by_invite`. -/
def addContactByInvite (db : MessengerDb) (inviteStr : String) (now : UInt64) : MessengerDb × Outcome SavedContact :=
  match parseAndVerifyInvite C T D inviteStr now with
  | .ok payload => (db.addContact (payload.contact T), .ok (payload.contact T))
  | .err e => (db, .err e)
  | .panic => (db, .panic)

/-! ## Cards in images -/

namespace StegoContactCard

/-- What is signed; a key that does not decode is left out. -/
def signData (card : StegoContactCard) (ed25519Bytes xBytes : Bytes) : Bytes :=
  utf8 card.userIdHex ++ ed25519Bytes ++ xBytes ++ beBytes card.timestamp

/-- The bytes of the signature. -/
def signature (card : StegoContactCard) : Outcome (Option Bytes) := hexDecode card.signatureHex

/-- The checks of `import_stego_avatar`, with the id they come to. -/
def check (card : StegoContactCard) : Outcome NodeId :=
  (hexDecode card.ed25519PubHex).bind fun decoded =>
    match decoded with
    | none => .err "Invalid Ed25519 hex in stego contact"
    | some ed =>
      if ed.length ≠ 32 then .err "Invalid Ed25519 public key length"
      else if (NodeId.fromKey C ed).toHex ≠ card.userIdHex then
        .err "Stego contact User ID does not match Ed25519 key"
      else
        card.signature.bind fun decoded =>
          match decoded with
          | none => .err "Invalid signature hex in stego contact"
          | some sig =>
            if sig.length ≠ 64 then .err "Invalid signature length in stego contact"
            else
              (hexDecode card.x25519PubHex).bind fun x =>
                if C.edKeyValid ed = false then .err ("Invalid verifying key: " ++ T.signatureError)
                else if C.edVerify ed (card.signData ed (x.getD [])) sig = false then
                  .err ("Stego contact signature verification failed: " ++ T.signatureError)
                else .ok (NodeId.fromKey C ed)

/-- The contact a card is saved as. -/
def contact (card : StegoContactCard) : SavedContact :=
  { userIdHex := card.userIdHex, name := storedName (trim · = "") (peerName 8 card.userIdHex) card.displayName
    bio := card.bio, ed25519PubHex := card.ed25519PubHex, x25519PubHex := card.x25519PubHex
    lastSeenAddr := primaryAddr T card.endpoints }

/-- What goes into the routing table. -/
def routed (card : StegoContactCard) (id : NodeId) : Option Contact := card.endpoints.head?.map fun addr => ⟨id, addr⟩

end StegoContactCard

def importStegoAvatar (s : Directory) (imageBytes : Bytes) (passphrase : Option String) :
    Directory × Outcome SavedContact :=
  match D.extractContact imageBytes passphrase with
  | .error e => (s, .err e)
  | .ok card =>
    match card.check C T with
    | .err e => (s, .err e)
    | .panic => (s, .panic)
    | .ok id =>
      let saved := { s with db := s.db.addContact (card.contact T) }
      (match card.routed id with
        | some c => ⟨saved.db, (s.table.forceUpdate c).1, s.wellFormed.forceUpdate c⟩
        | none => saved, .ok (card.contact T))

/-! ## What one signature covers -/

/-- An accepted invite, in what its signature is about. -/
structure InvitePayload.Accepted (p : InvitePayload) (ed sig : Bytes) : Prop where
  key : inviteHexDecode p.ed25519PubHex = .ok ed
  keyLength : ed.length = 32
  userId : p.userId = (NodeId.fromKey C ed).toHex
  signature : p.signature = .ok sig
  signatureLength : sig.length = 64
  keyValid : C.edKeyValid ed = true
  verifies : C.edVerify ed p.signData sig = true

/-- An accepted card, in what its signature is about. -/
structure StegoContactCard.Accepted (card : StegoContactCard) (id : NodeId) (ed x sig : Bytes) : Prop where
  key : hexDecode card.ed25519PubHex = .ok (some ed)
  userId : (NodeId.fromKey C ed).toHex = card.userIdHex
  id : id = NodeId.fromKey C ed
  signature : card.signature = .ok (some sig)
  verifies : C.edVerify ed (card.signData ed x) sig = true

/-- A signature is good for one key and one message. -/
def IdealSignatures : Prop :=
  ∀ key key' m m' sig, C.edVerify key m sig = true → C.edVerify key' m' sig = true → key = key' ∧ m = m'

/-- Two accepted cards with one signature are imported as one contact, at one address. -/
structure CardsCovered : Prop where
  invite : ∀ db link link' now now' p p', parseAndVerifyInvite C T D link now = .ok p →
    parseAndVerifyInvite C T D link' now' = .ok p' → p.signature = p'.signature →
      addContactByInvite C T D db link now = addContactByInvite C T D db link' now'
  stego : ∀ s image image' passphrase passphrase' card card' id id', D.extractContact image passphrase = .ok card →
    D.extractContact image' passphrase' = .ok card' → card.check C T = .ok id → card'.check C T = .ok id' →
      card.signature = card'.signature →
        importStegoAvatar C T D s image passphrase = importStegoAvatar C T D s image' passphrase'

/-- Two names that are saved as one. -/
def SameName (blank : String → Bool) (peer a b : String) : Prop :=
  a = b ∨ (blank a ∨ a = peer) ∧ (blank b ∨ b = peer)

/-- Two invites with one name and one first endpoint. -/
def InvitePayload.Agrees (p p' : InvitePayload) : Prop :=
  SameName (· = "") (peerName 6 p.userId) p.displayName p'.displayName ∧ p.endpoints.head? = p'.endpoints.head?

/-- Two cards with one name, bio and first endpoint, and keys that are spelled the same. -/
def StegoContactCard.Agrees (card card' : StegoContactCard) : Prop :=
  SameName (trim · = "") (peerName 8 card.userIdHex) card.displayName card'.displayName ∧ card.bio = card'.bio ∧
    card.ed25519PubHex = card'.ed25519PubHex ∧ card.x25519PubHex = card'.x25519PubHex ∧
      card.endpoints.head? = card'.endpoints.head?

section Signed

variable {C T D}

theorem storedName_eq_iff {blank : String → Bool} {peer a b : String} :
    storedName blank peer a = storedName blank peer b ↔ SameName blank peer a b := by
  unfold storedName SameName
  cases ha : blank a <;> cases hb : blank b
  · simp only [Bool.false_eq_true, if_false, false_or]
    constructor
    · intro h
      exact .inl h
    · rintro (h | ⟨rfl, rfl⟩)
      · exact h
      · rfl
  · simp only [Bool.false_eq_true, if_false, if_true, false_or, true_or, and_true]
    constructor
    · intro h
      exact .inr h
    · rintro (rfl | h)
      · exact absurd (ha.symm.trans hb) (by decide)
      · exact h
  · simp only [Bool.false_eq_true, if_false, if_true, false_or, true_or, true_and]
    constructor
    · intro h
      exact .inr h.symm
    · rintro (rfl | h)
      · exact absurd (ha.symm.trans hb) (by decide)
      · exact h.symm
  · simp

theorem primaryAddr_eq_iff (hshow : Function.Injective T.showAddr) (hunknown : ∀ a, T.showAddr a ≠ "unknown")
    {as bs : List SocketAddr} : primaryAddr T as = primaryAddr T bs ↔ as.head? = bs.head? := by
  unfold primaryAddr
  cases as.head? with
  | none =>
    cases bs.head? with
    | none => simp
    | some b => simp [(hunknown b).symm]
  | some a =>
    cases bs.head? with
    | none => simp [hunknown a]
    | some b => simp [hshow.eq_iff]

theorem InvitePayload.check_eq_ok_iff {p p' : InvitePayload} {now : UInt64} :
    p.check C T now = .ok p' ↔ p' = p ∧ now < p.expiresAt ∧ ∃ ed sig, p.Accepted C ed sig := by
  unfold InvitePayload.check
  constructor
  · intro h
    split at h
    · cases h
    · rename_i hexpired
      obtain ⟨ed, hed, h⟩ := Outcome.bind_eq_ok.1 h
      split at h
      · cases h
      · rename_i hlen
        split at h
        · cases h
        · rename_i hid
          obtain ⟨sig, hsig, h⟩ := Outcome.bind_eq_ok.1 h
          split at h
          · cases h
          · rename_i hsigLen
            split at h
            · cases h
            · rename_i hvalid
              split at h
              · cases h
              · rename_i hverify
                exact ⟨(Outcome.ok.inj h).symm, UInt64.not_le.1 hexpired, ed, sig, Outcome.mapErr_eq_ok.1 hed,
                  not_not.1 hlen, not_not.1 hid, Outcome.mapErr_eq_ok.1 hsig, not_not.1 hsigLen, by simpa using hvalid,
                  by simpa using hverify⟩
  · rintro ⟨rfl, hnow, ed, sig, h⟩
    rw [if_neg (UInt64.not_le.2 hnow), h.key, h.signature]
    simp [Outcome.bind, Outcome.mapErr, h.keyLength, ← h.userId, h.signatureLength, h.keyValid, h.verifies]

/-- No check reads the name, the fingerprint or the endpoints. -/
theorem InvitePayload.check_with {p : InvitePayload} {now : UInt64} (h : p.check C T now = .ok p) (name print : String)
    (endpoints : List SocketAddr) :
    InvitePayload.check C T { p with displayName := name, fingerprint := print, endpoints } now =
      .ok { p with displayName := name, fingerprint := print, endpoints } := by
  obtain ⟨-, hnow, ed, sig, haccepted⟩ := check_eq_ok_iff.1 h
  obtain ⟨hkey, hkeyLength, huser, hsig, hsigLength, hvalid, hverifies⟩ := haccepted
  exact check_eq_ok_iff.2 ⟨rfl, hnow, ed, sig, hkey, hkeyLength, huser, hsig, hsigLength, hvalid, hverifies⟩

theorem InvitePayload.accepted_of_parse {link : String} {now : UInt64} {p : InvitePayload}
    (h : parseAndVerifyInvite C T D link now = .ok p) : ∃ ed sig, p.Accepted C ed sig := by
  unfold parseAndVerifyInvite at h
  dsimp only at h
  split at h
  · cases h
  · split at h
    · cases h
    · obtain ⟨rfl, -, haccepted⟩ := check_eq_ok_iff.1 h
      exact haccepted

theorem StegoContactCard.accepted_of_check {card : StegoContactCard} {id : NodeId} (h : card.check C T = .ok id) :
    ∃ ed x sig, card.Accepted C id ed x sig := by
  unfold StegoContactCard.check at h
  obtain ⟨decoded, hed, h⟩ := Outcome.bind_eq_ok.1 h
  cases decoded with
  | none => cases h
  | some ed =>
    dsimp only at h
    split at h
    · cases h
    · split at h
      · cases h
      · rename_i hid
        obtain ⟨decoded, hsig, h⟩ := Outcome.bind_eq_ok.1 h
        cases decoded with
        | none => cases h
        | some sig =>
          dsimp only at h
          split at h
          · cases h
          · obtain ⟨x, -, h⟩ := Outcome.bind_eq_ok.1 h
            split at h
            · cases h
            · split at h
              · cases h
              · rename_i hverify
                refine ⟨ed, x.getD [], sig, hed, not_not.1 hid, (Outcome.ok.inj h).symm, hsig, ?_⟩
                simpa using hverify

theorem utf8_length_of_inviteHexDecode {s : String} {bs : Bytes} (h : inviteHexDecode s = .ok bs) :
    (utf8 s).length = 2 * bs.length := by
  unfold inviteHexDecode at h
  split at h
  · cases h
  · exact NodeId.hexPairs_length h

/-- The id and the first key are as long in the one invite as in the other, so the texts signed are the same texts. -/
theorem InvitePayload.signed_eq (hideal : IdealSignatures C) {p p' : InvitePayload} {ed ed' sig sig' : Bytes}
    (h : p.Accepted C ed sig) (h' : p'.Accepted C ed' sig') (hsig : p.signature = p'.signature) :
    p.userId = p'.userId ∧ p.ed25519PubHex = p'.ed25519PubHex ∧ p.x25519PubHex = p'.x25519PubHex := by
  obtain rfl : sig = sig' := Outcome.ok.inj (h.signature.symm.trans (hsig.trans h'.signature))
  obtain ⟨rfl, hdata⟩ := hideal _ _ _ _ _ h.verifies h'.verifies
  have huser : p.userId = p'.userId := h.userId.trans h'.userId.symm
  have hlength : (utf8 p.ed25519PubHex).length = (utf8 p'.ed25519PubHex).length :=
    (utf8_length_of_inviteHexDecode h.key).trans (utf8_length_of_inviteHexDecode h'.key).symm
  unfold InvitePayload.signData at hdata
  obtain ⟨hcreated, -⟩ := concat_beBytes_inj.1 hdata
  obtain ⟨htexts, -⟩ := concat_beBytes_inj.1 hcreated
  rw [huser, List.append_assoc, List.append_assoc] at htexts
  obtain ⟨hed, hx⟩ := List.append_inj (List.append_cancel_left htexts) hlength
  exact ⟨huser, utf8_inj.1 hed, utf8_inj.1 hx⟩

theorem InvitePayload.contact_eq_iff (hideal : IdealSignatures C) (hshow : Function.Injective T.showAddr)
    (hunknown : ∀ a, T.showAddr a ≠ "unknown") {p p' : InvitePayload} {ed ed' sig sig' : Bytes}
    (h : p.Accepted C ed sig) (h' : p'.Accepted C ed' sig') (hsig : p.signature = p'.signature) :
    p.contact T = p'.contact T ↔ p.Agrees p' := by
  obtain ⟨huser, hed, hx⟩ := signed_eq hideal h h' hsig
  unfold InvitePayload.Agrees
  rw [← storedName_eq_iff, ← primaryAddr_eq_iff hshow hunknown]
  simp only [InvitePayload.contact, SavedContact.mk.injEq, huser, hed, hx, true_and]

theorem StegoContactCard.user_eq (hideal : IdealSignatures C) {card card' : StegoContactCard} {id id' : NodeId}
    {ed ed' x x' sig sig' : Bytes} (h : card.Accepted C id ed x sig) (h' : card'.Accepted C id' ed' x' sig')
    (hsig : card.signature = card'.signature) : card.userIdHex = card'.userIdHex ∧ id = id' := by
  obtain rfl : sig = sig' := Option.some.inj (Outcome.ok.inj (h.signature.symm.trans (hsig.trans h'.signature)))
  obtain ⟨rfl, -⟩ := hideal _ _ _ _ _ h.verifies h'.verifies
  exact ⟨h.userId.symm.trans h'.userId, h.id.trans h'.id.symm⟩

theorem StegoContactCard.routed_eq_iff {card card' : StegoContactCard} {id : NodeId} :
    card.routed id = card'.routed id ↔ card.endpoints.head? = card'.endpoints.head? := by
  unfold StegoContactCard.routed
  cases card.endpoints.head? <;> cases card'.endpoints.head? <;> simp

theorem StegoContactCard.stored_eq_iff (hideal : IdealSignatures C) (hshow : Function.Injective T.showAddr)
    (hunknown : ∀ a, T.showAddr a ≠ "unknown") {card card' : StegoContactCard} {id id' : NodeId}
    {ed ed' x x' sig sig' : Bytes} (h : card.Accepted C id ed x sig) (h' : card'.Accepted C id' ed' x' sig')
    (hsig : card.signature = card'.signature) :
    card.contact T = card'.contact T ∧ card.routed id = card'.routed id' ↔ card.Agrees card' := by
  obtain ⟨huser, rfl⟩ := user_eq hideal h h' hsig
  unfold StegoContactCard.Agrees
  rw [← storedName_eq_iff, routed_eq_iff]
  simp only [StegoContactCard.contact, SavedContact.mk.injEq, huser, true_and]
  constructor
  · rintro ⟨⟨hname, hbio, hed, hx, -⟩, hhead⟩
    exact ⟨hname, hbio, hed, hx, hhead⟩
  · rintro ⟨hname, hbio, hed, hx, hhead⟩
    exact ⟨⟨hname, hbio, hed, hx, (primaryAddr_eq_iff hshow hunknown).2 hhead⟩, hhead⟩

theorem addContactByInvite_of_parse {db : MessengerDb} {link : String} {now : UInt64} {p : InvitePayload}
    (h : parseAndVerifyInvite C T D link now = .ok p) :
    addContactByInvite C T D db link now = (db.addContact (p.contact T), .ok (p.contact T)) := by
  unfold addContactByInvite
  rw [h]

/-- The contact is in the result, so two imports are one import if the contacts and the addresses are the same. -/
theorem importStegoAvatar_eq_iff {s : Directory} {image image' : Bytes} {passphrase passphrase' : Option String}
    {card card' : StegoContactCard} {id id' : NodeId} (hcard : D.extractContact image passphrase = .ok card)
    (hcard' : D.extractContact image' passphrase' = .ok card') (hcheck : card.check C T = .ok id)
    (hcheck' : card'.check C T = .ok id')
    (hrouted : card.contact T = card'.contact T → card.routed id = card'.routed id') :
    importStegoAvatar C T D s image passphrase = importStegoAvatar C T D s image' passphrase' ↔
      card.contact T = card'.contact T := by
  unfold importStegoAvatar
  rw [hcard, hcard']
  dsimp only
  rw [hcheck, hcheck']
  dsimp only
  constructor
  · intro h
    exact Outcome.ok.inj (congrArg Prod.snd h)
  · intro h
    rw [h, hrouted h]

theorem addContactByInvite_agrees_iff (hideal : IdealSignatures C) (hshow : Function.Injective T.showAddr)
    (hunknown : ∀ a, T.showAddr a ≠ "unknown") (db : MessengerDb) {link link' : String} {now now' : UInt64}
    {p p' : InvitePayload} (hp : parseAndVerifyInvite C T D link now = .ok p)
    (hp' : parseAndVerifyInvite C T D link' now' = .ok p') (hsig : p.signature = p'.signature) :
    addContactByInvite C T D db link now = addContactByInvite C T D db link' now' ↔ p.Agrees p' := by
  obtain ⟨ed, sig, h⟩ := InvitePayload.accepted_of_parse hp
  obtain ⟨ed', sig', h'⟩ := InvitePayload.accepted_of_parse hp'
  rw [addContactByInvite_of_parse hp, addContactByInvite_of_parse hp',
    ← InvitePayload.contact_eq_iff hideal hshow hunknown h h' hsig]
  constructor
  · intro heq
    exact Outcome.ok.inj (congrArg Prod.snd heq)
  · intro heq
    rw [heq]

theorem importStegoAvatar_agrees_iff (hideal : IdealSignatures C) (hshow : Function.Injective T.showAddr)
    (hunknown : ∀ a, T.showAddr a ≠ "unknown") (s : Directory) {image image' : Bytes}
    {passphrase passphrase' : Option String} {card card' : StegoContactCard} {id id' : NodeId}
    (hcard : D.extractContact image passphrase = .ok card) (hcard' : D.extractContact image' passphrase' = .ok card')
    (hcheck : card.check C T = .ok id) (hcheck' : card'.check C T = .ok id') (hsig : card.signature = card'.signature) :
    importStegoAvatar C T D s image passphrase = importStegoAvatar C T D s image' passphrase' ↔
      card.Agrees card' := by
  obtain ⟨ed, x, sig, h⟩ := StegoContactCard.accepted_of_check hcheck
  obtain ⟨ed', x', sig', h'⟩ := StegoContactCard.accepted_of_check hcheck'
  have hstored := StegoContactCard.stored_eq_iff hideal hshow hunknown h h' hsig
  have hrouted : card.contact T = card'.contact T → card.routed id = card'.routed id' := by
    intro heq
    obtain ⟨-, rfl⟩ := StegoContactCard.user_eq hideal h h' hsig
    have haddr : primaryAddr T card.endpoints = primaryAddr T card'.endpoints := congrArg (·.lastSeenAddr) heq
    exact StegoContactCard.routed_eq_iff.2 ((primaryAddr_eq_iff hshow hunknown).1 haddr)
  rw [importStegoAvatar_eq_iff hcard hcard' hcheck hcheck' hrouted, ← hstored]
  constructor
  · intro heq
    exact ⟨heq, hrouted heq⟩
  · rintro ⟨heq, -⟩
    exact heq

theorem cards_eq_iff (hideal : IdealSignatures C) (hshow : Function.Injective T.showAddr)
    (hunknown : ∀ a, T.showAddr a ≠ "unknown") :
    (∀ db link link' now now' p p', parseAndVerifyInvite C T D link now = .ok p →
      parseAndVerifyInvite C T D link' now' = .ok p' → p.signature = p'.signature →
        (addContactByInvite C T D db link now = addContactByInvite C T D db link' now' ↔ p.Agrees p')) ∧
    ∀ s image image' passphrase passphrase' card card' id id', D.extractContact image passphrase = .ok card →
      D.extractContact image' passphrase' = .ok card' → card.check C T = .ok id → card'.check C T = .ok id' →
        card.signature = card'.signature →
          (importStegoAvatar C T D s image passphrase = importStegoAvatar C T D s image' passphrase' ↔
            card.Agrees card') := by
  constructor
  · intro db link link' now now' p p' hp hp' hsig
    exact addContactByInvite_agrees_iff hideal hshow hunknown db hp hp' hsig
  · intro s image image' passphrase passphrase' card card' id id' hcard hcard' hcheck hcheck' hsig
    exact importStegoAvatar_agrees_iff hideal hshow hunknown s hcard hcard' hcheck hcheck' hsig

end Signed

/-! ## An altered invite -/

namespace AlteredInvite

open NodeX.Sample Sample OldCard

def base64Char (n : Nat) : Char :=
  if n < 26 then Char.ofNat (65 + n)
  else if n < 52 then Char.ofNat (71 + n)
  else if n < 62 then Char.ofNat (n - 4)
  else if n = 62 then '-' else '_'

/-- `URL_SAFE_NO_PAD.encode`. -/
def base64Chars : Bytes → List Char
  | a :: b :: c :: rest =>
    base64Char (a.toNat / 4) :: base64Char (a.toNat % 4 * 16 + b.toNat / 16) ::
      base64Char (b.toNat % 16 * 4 + c.toNat / 64) :: base64Char (c.toNat % 64) :: base64Chars rest
  | [a, b] =>
    [base64Char (a.toNat / 4), base64Char (a.toNat % 4 * 16 + b.toNat / 16), base64Char (b.toNat % 16 * 4)]
  | [a] => [base64Char (a.toNat / 4), base64Char (a.toNat % 4 * 16)]
  | [] => []

def base64Value (c : Char) : Nat :=
  if 'a' ≤ c then c.toNat - 71
  else if c = '_' then 63
  else if 'A' ≤ c then c.toNat - 65
  else if c = '-' then 62 else c.toNat + 4

/-- `URL_SAFE_NO_PAD.decode`, on what `encode` gives. -/
def base64Bytes : List Char → Bytes
  | a :: b :: c :: d :: rest =>
    UInt8.ofNat (base64Value a * 4 + base64Value b / 16) ::
      UInt8.ofNat (base64Value b % 16 * 16 + base64Value c / 4) ::
        UInt8.ofNat (base64Value c % 4 * 64 + base64Value d) :: base64Bytes rest
  | [a, b, c] =>
    [UInt8.ofNat (base64Value a * 4 + base64Value b / 16), UInt8.ofNat (base64Value b % 16 * 16 + base64Value c / 4)]
  | [a, b] => [UInt8.ofNat (base64Value a * 4 + base64Value b / 16)]
  | [_] => []
  | [] => []

def inviteText (p : InvitePayload) : Bytes :=
  jsonObject [("user_id", jsonString p.userId), ("ed25519_pub_hex", jsonString p.ed25519PubHex),
    ("x25519_pub_hex", jsonString p.x25519PubHex), ("display_name", jsonString p.displayName),
    ("fingerprint", jsonString p.fingerprint), ("endpoints", jsonArray (p.endpoints.map fun a => jsonString a.display)),
    ("created_at", utf8 (toString p.createdAt.toNat)), ("expires_at", utf8 (toString p.expiresAt.toNat)),
    ("signature_hex", jsonString p.signatureHex)]

def link (p : InvitePayload) : String := invitePrefix ++ String.ofList (base64Chars (inviteText p))

/-- Bob's invite. -/
def signed : InvitePayload :=
  { userId := bob.userIdHex, ed25519PubHex := hexString bob.verifyingKey, x25519PubHex := hexString bob.x25519Public
    displayName := "Bob", fingerprint := "", endpoints := [oldAddr], createdAt := 1700000000, expiresAt := 1700604800
    signatureHex := hexString sharedSignature }

/-- The same invite, with another address after the first. -/
def extended : InvitePayload := { signed with endpoints := [oldAddr, newAddr] }

/-- The same invite, under another name and at another address. -/
def altered : InvitePayload := { signed with displayName := "Bobby", endpoints := [newAddr] }

def signing : Crypto := tableCrypto [(bob.verifyingKey, signed.signData, sharedSignature)]

def sources : CardSources :=
  { decodeBase64 := fun s => .ok (base64Bytes s.toList)
    parseInvite := fun bs =>
      if bs = inviteText signed then .ok signed
      else if bs = inviteText extended then .ok extended
      else if bs = inviteText altered then .ok altered
      else .error "EOF while parsing a value at line 1 column 0"
    extractContact := fun _ _ => .error "No stego contact" }

theorem idealSignatures_signing : IdealSignatures signing := by
  intro key key' m m' sig h h'
  simp only [signing, tableCrypto, List.contains_eq_mem, List.mem_singleton, decide_eq_true_eq, Prod.mk.injEq] at h h'
  exact ⟨h.1.trans h'.1.symm, h.2.1.trans h'.2.1.symm⟩

theorem showAddr_ne_unknown (a : SocketAddr) : showAddr a ≠ "unknown" := by
  unfold showAddr
  split
  · decide
  · split
    · decide
    · exact hexString_ne (by decide) _

theorem base64Value_base64Char {n : Nat} (hn : n < 64) : base64Value (base64Char n) = n :=
  (by decide : ∀ n : Fin 64, base64Value (base64Char n) = n) ⟨n, hn⟩

theorem ofNat_eq {a : UInt8} {n : Nat} (h : n = a.toNat) : UInt8.ofNat n = a := by
  rw [h, UInt8.ofNat_toNat]

theorem base64Bytes_base64Chars : ∀ bs : Bytes, base64Bytes (base64Chars bs) = bs
  | [] => rfl
  | [a] => by
    have ha := a.toNat_lt
    rw [base64Chars, base64Bytes, base64Value_base64Char (by omega), base64Value_base64Char (by omega),
      ofNat_eq (a := a) (by omega)]
  | [a, b] => by
    have ha := a.toNat_lt
    have hb := b.toNat_lt
    rw [base64Chars, base64Bytes, base64Value_base64Char (by omega), base64Value_base64Char (by omega),
      base64Value_base64Char (by omega), ofNat_eq (a := a) (by omega), ofNat_eq (a := b) (by omega)]
  | a :: b :: c :: rest => by
    have ha := a.toNat_lt
    have hb := b.toNat_lt
    have hc := c.toNat_lt
    rw [base64Chars, base64Bytes, base64Value_base64Char (by omega), base64Value_base64Char (by omega),
      base64Value_base64Char (by omega), base64Value_base64Char (by omega), ofNat_eq (a := a) (by omega),
      ofNat_eq (a := b) (by omega), ofNat_eq (a := c) (by omega), base64Bytes_base64Chars rest]

theorem isWhitespace_base64Char (n : Nat) : isWhitespace (base64Char n) = false := by
  by_cases hn : n < 63
  · exact (by decide : ∀ n : Fin 63, isWhitespace (base64Char n) = false) ⟨n, hn⟩
  · have hchar : base64Char n = '_' := by
      unfold base64Char
      rw [if_neg (by omega), if_neg (by omega), if_neg (by omega), if_neg (by omega)]
    rw [hchar]
    decide

theorem isWhitespace_base64Chars : ∀ {bs : Bytes}, ∀ c ∈ base64Chars bs, isWhitespace c = false
  | [], c, hc => by cases hc
  | [a], c, hc => by
    simp only [base64Chars, List.mem_cons, List.not_mem_nil, or_false] at hc
    rcases hc with rfl | rfl <;> exact isWhitespace_base64Char _
  | [a, b], c, hc => by
    simp only [base64Chars, List.mem_cons, List.not_mem_nil, or_false] at hc
    rcases hc with rfl | rfl | rfl <;> exact isWhitespace_base64Char _
  | a :: b :: c' :: rest, c, hc => by
    simp only [base64Chars, List.mem_cons] at hc
    rcases hc with rfl | rfl | rfl | rfl | hc
    iterate 4 exact isWhitespace_base64Char _
    exact isWhitespace_base64Chars c hc

/-- What a link is read as. -/
theorem parse_link {p q : InvitePayload} {now : UInt64} (hparse : sources.parseInvite (inviteText p) = .ok p)
    (hcheck : p.check signing text now = .ok q) : parseAndVerifyInvite signing text sources (link p) now = .ok q := by
  have htrim : trim (link p) = link p := by
    refine trim_eq_self fun c hc => ?_
    rw [link, String.toList_append, String.toList_ofList] at hc
    rcases List.mem_append.1 hc with hc | hc
    · have hprefix : invitePrefix.toList.all (!isWhitespace ·) = true := by decide
      simpa using List.all_eq_true.1 hprefix c hc
    · exact isWhitespace_base64Chars c hc
  have hdecode : sources.decodeBase64 (String.ofList (base64Chars (inviteText p))) = .ok (inviteText p) := by
    simp only [sources, String.toList_ofList, base64Bytes_base64Chars]
  unfold parseAndVerifyInvite
  rw [htrim, link, String.toList_append, String.toList_ofList]
  dsimp only
  rw [if_pos (by simp), List.drop_left, hdecode]
  dsimp only
  rw [hparse]
  exact hcheck

theorem inviteText_ne : inviteText extended ≠ inviteText signed ∧ inviteText altered ≠ inviteText signed ∧
    inviteText altered ≠ inviteText extended := by
  decide +kernel

theorem check_signed : signed.check signing text 1700000100 = .ok signed := by
  decide +kernel

theorem parse_signed : parseAndVerifyInvite signing text sources (link signed) 1700000100 = .ok signed :=
  parse_link (by simp only [sources, if_true]) check_signed

theorem parse_extended : parseAndVerifyInvite signing text sources (link extended) 1700000100 = .ok extended :=
  parse_link (by simp only [sources, if_neg inviteText_ne.1, if_true]) (InvitePayload.check_with check_signed _ _ _)

theorem parse_altered : parseAndVerifyInvite signing text sources (link altered) 1700000100 = .ok altered :=
  parse_link (by simp only [sources, if_neg inviteText_ne.2.1, if_neg inviteText_ne.2.2, if_true])
    (InvitePayload.check_with check_signed _ _ _)

end AlteredInvite

open AlteredInvite in
/-- An address after the first is not saved. -/
theorem cards_eq_extended :
    addContactByInvite signing OldCard.text sources {} (link signed) 1700000100 =
      addContactByInvite signing OldCard.text sources {} (link extended) 1700000100 :=
  ((cards_eq_iff idealSignatures_signing OldCard.showAddr_injective showAddr_ne_unknown).1 _ _ _ _ _ _ _ parse_signed
    parse_extended rfl).2 ⟨.inl rfl, rfl⟩

open AlteredInvite in
/-- Whoever passes Bob's invite on can put another name and another address in it. -/
theorem cardsCovered_altered : ¬CardsCovered signing OldCard.text sources := by
  intro h
  have heq := h.invite {} _ _ _ _ _ _ parse_signed parse_altered rfl
  rw [addContactByInvite_of_parse parse_signed, addContactByInvite_of_parse parse_altered] at heq
  exact absurd (congrArg (·.name) (Outcome.ok.inj (congrArg Prod.snd heq))) (by decide)

end NodeX.Messenger
