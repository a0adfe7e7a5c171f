/-
What a presence card signs. The signed bytes are the JSON of a tuple of every field but the signature, and two cards
that were parsed print the same tuple only if they agree in every field of it: a text is known by its escaped form, an
address by what `Display` makes of it.
-/
import NodeX.Core.AddrText
import NodeX.Core.JsonText
import NodeX.Messenger.Presence

namespace NodeX.Messenger

open NodeX.Lib

/-! ## The signed tuple -/

namespace NatCategory

/-- The name of the variant, which is what is printed. -/
def variantName : NatCategory → String
  | directPossible => "DirectPossible"
  | holePunchLikely => "HolePunchLikely"
  | relayRecommended => "RelayRecommended"
  | udpBlocked => "UdpBlocked"
  | unknown => "Unknown"

theorem variantName_inj {a b : NatCategory} (h : a.variantName = b.variantName) : a = b := by
  revert h
  cases a <;> cases b <;> decide

end NatCategory

/-- `UserPresenceCard` with the addresses of the standard library. -/
structure StdPresenceCard where
  userIdHex : String
  displayName : String
  bio : String := ""
  ed25519Pub : Bytes
  x25519Pub : Bytes
  socketAddr : StdSocketAddr
  endpoints : List StdSocketAddr := []
  natCategory : NatCategory := .unknown
  timestamp : UInt64
  signature : Bytes
deriving DecidableEq

/-- The printed tuple, over texts as bytes. -/
def signedTuple : Codec (Bytes × Bytes × Bytes × Bytes × Bytes × Bytes × List Bytes × Bytes × UInt64) :=
  open NodeX.Json in
  tuple (member text (member text (member text (member bytes (member bytes (member text (member texts
    (member text Codec.uint64))))))))

namespace StdPresenceCard

def signingBytes (card : StdPresenceCard) : Bytes :=
  signedTuple.print (utf8 card.userIdHex, utf8 card.displayName, utf8 card.bio, card.ed25519Pub, card.x25519Pub,
    utf8 card.socketAddr.display, card.endpoints.map fun a => utf8 a.display, utf8 card.natCategory.variantName,
    card.timestamp)

/-- Every address of the card was parsed. -/
structure IsParsed (card : StdPresenceCard) : Prop where
  socketAddr : card.socketAddr.IsParsed
  endpoints : ∀ a ∈ card.endpoints, a.IsParsed

theorem endpoints_inj {l m : List StdSocketAddr} (hl : ∀ a ∈ l, a.IsParsed) (hm : ∀ a ∈ m, a.IsParsed)
    (h : l.map (fun a => utf8 a.display) = m.map fun a => utf8 a.display) : l = m := by
  induction l generalizing m with
  | nil => exact (List.map_eq_nil_iff.1 h.symm).symm
  | cons a l ih =>
    cases m with
    | nil => simp at h
    | cons b m =>
      obtain ⟨ha, hl⟩ := List.forall_mem_cons.1 hl
      obtain ⟨hb, hm⟩ := List.forall_mem_cons.1 hm
      rw [List.map_cons, List.map_cons, List.cons.injEq] at h
      rw [StdSocketAddr.display_inj ha hb (utf8_inj.1 h.1), ih hl hm h.2]

/-- Cards that were parsed and sign the same bytes agree in what they sign. -/
theorem eq_of_signingBytes {card card' : StdPresenceCard} (hcard : card.IsParsed) (hcard' : card'.IsParsed)
    (hsig : card.signature = card'.signature) (h : card.signingBytes = card'.signingBytes) : card = card' := by
  have htuple := Json.print_inj signedTuple h
  simp only [Prod.mk.injEq, utf8_inj] at htuple
  obtain ⟨huser, hname, hbio, hed, hx, haddr, hendpoints, hnat, htime⟩ := htuple
  have haddr' := StdSocketAddr.display_inj hcard.socketAddr hcard'.socketAddr haddr
  have hendpoints' := endpoints_inj hcard.endpoints hcard'.endpoints hendpoints
  have hnat' := NatCategory.variantName_inj hnat
  cases card
  cases card'
  simp only at huser hname hbio hed hx haddr' hendpoints' hnat' htime hsig
  rw [huser, hname, hbio, hed, hx, haddr', hendpoints', hnat', htime, hsig]

section Verify

variable (C : Crypto) (signatureError : String)

def verifySignature (card : StdPresenceCard) : Except MessengerError Unit :=
  if card.ed25519Pub.length ≠ 32 then .error (.invalidKeyLength "Ed25519 pub key must be 32 bytes")
  else if C.edKeyValid card.ed25519Pub = false then .error (.cryptoError signatureError)
  else if card.userIdHex ≠ hexString (C.hashNodeId card.ed25519Pub).bytes then
    .error (.cryptoError "Presence user ID does not match Ed25519 public key")
  else if card.signature.length ≠ 64 then .error (.cryptoError "Signature must be 64 bytes")
  else if C.edVerifyStrict card.ed25519Pub card.signingBytes card.signature = false then
    .error (.cryptoError ("Invalid presence signature: " ++ signatureError))
  else .ok ()

theorem verifySignature_eq_ok {card : StdPresenceCard} : card.verifySignature C signatureError = .ok () ↔
    card.ed25519Pub.length = 32 ∧ C.edKeyValid card.ed25519Pub = true ∧
      card.userIdHex = hexString (C.hashNodeId card.ed25519Pub).bytes ∧ card.signature.length = 64 ∧
        C.edVerifyStrict card.ed25519Pub card.signingBytes card.signature = true := by
  unfold verifySignature
  repeat' split
  all_goals simp_all

end Verify

/-! ## Cards without scopes -/

/-- The card with address and port alone. -/
def plain (card : StdPresenceCard) : UserPresenceCard :=
  { userIdHex := card.userIdHex, displayName := card.displayName, bio := card.bio, ed25519Pub := card.ed25519Pub
    x25519Pub := card.x25519Pub, socketAddr := card.socketAddr.plain, endpoints := card.endpoints.map (·.plain)
    natCategory := card.natCategory, timestamp := card.timestamp, signature := card.signature }

/-- Where no address has a scope, the plain card is signed and checked as this one is. -/
theorem verifySignature_plain (C : Crypto) (T : PresenceText) {card : StdPresenceCard}
    (hprint : ∀ u n b e x s l c t, T.printSigned (u, n, b, e, x, s, l, c, t) =
      signedTuple.print (utf8 u, utf8 n, utf8 b, e, x, utf8 s.display, l.map fun a => utf8 a.display,
        utf8 c.variantName, t))
    (haddr : card.socketAddr.scopeId = 0) (hendpoints : ∀ a ∈ card.endpoints, a.scopeId = 0) :
    card.plain.verifySignature C T = card.verifySignature C T.signatureError := by
  have hbytes : card.plain.signingBytes T = card.signingBytes := by
    have hlist : (card.endpoints.map (·.plain)).map (fun a => utf8 a.display) =
        card.endpoints.map fun a => utf8 a.display := by
      rw [List.map_map]
      exact List.map_congr_left fun a ha => congrArg utf8 (StdSocketAddr.display_plain (hendpoints a ha))
    unfold UserPresenceCard.signingBytes signingBytes plain
    rw [hprint, StdSocketAddr.display_plain haddr, hlist]
  unfold UserPresenceCard.verifySignature verifySignature
  rw [hbytes]
  rfl

end StdPresenceCard

/-! ## One signature, one card -/

/-- A signature that passes the strict check is good for one key and one message. -/
def IdealStrictSignatures (C : Crypto) : Prop :=
  ∀ key key' m m' sig, C.edVerifyStrict key m sig = true → C.edVerifyStrict key' m' sig = true → key = key' ∧ m = m'

/-- Two cards that were parsed, pass the check and carry one signature are one card; and a card passes under the hash
of its key only. -/
theorem verifySignature_covers_card {C : Crypto} (hideal : IdealStrictSignatures C) (signatureError : String)
    {parseCard : Bytes → Except String StdPresenceCard}
    (hparse : ∀ bs card, parseCard bs = .ok card → card.IsParsed) :
    (∀ bs bs' card card', parseCard bs = .ok card → parseCard bs' = .ok card' →
      card.verifySignature C signatureError = .ok () → card'.verifySignature C signatureError = .ok () →
        card.signature = card'.signature → card = card') ∧
    ∀ card : StdPresenceCard, card.verifySignature C signatureError = .ok () →
      card.userIdHex = hexString (C.hashNodeId card.ed25519Pub).bytes := by
  constructor
  · intro bs bs' card card' hbs hbs' hv hv' hsig
    obtain ⟨-, -, -, -, hverifies⟩ := (StdPresenceCard.verifySignature_eq_ok C signatureError).1 hv
    obtain ⟨-, -, -, -, hverifies'⟩ := (StdPresenceCard.verifySignature_eq_ok C signatureError).1 hv'
    rw [← hsig] at hverifies'
    obtain ⟨-, hbytes⟩ := hideal _ _ _ _ _ hverifies hverifies'
    exact StdPresenceCard.eq_of_signingBytes (hparse bs card hbs) (hparse bs' card' hbs') hsig hbytes
  · intro card hv
    exact ((StdPresenceCard.verifySignature_eq_ok C signatureError).1 hv).2.2.1

namespace LinkLocalCard

open NodeX.Sample

/-- Bob's card, at an address of his link, with a quote in his name. -/
def card : StdPresenceCard :=
  { userIdHex := bob.userIdHex, displayName := "Bob \"B\"", ed25519Pub := bob.verifyingKey
    x25519Pub := bob.x25519Public, socketAddr := .v6 (.replicate 16 254) 9000 0 3, timestamp := 1700000000
    signature := List.replicate 64 8 }

/-- Only the signature of the card verifies. -/
def signing : Crypto :=
  { Crypto.transparent with
    edVerifyStrict := fun key m sig =>
      decide (key = card.ed25519Pub) && decide (m = card.signingBytes) && decide (sig = card.signature) }

def cardText : Bytes :=
  let text (s : String) : Bytes := Json.text.print (utf8 s)
  jsonObject [("user_id_hex", text card.userIdHex), ("display_name", text card.displayName), ("bio", text card.bio),
    ("ed25519_pub", jsonBytes card.ed25519Pub), ("x25519_pub", jsonBytes card.x25519Pub),
    ("socket_addr", text card.socketAddr.display), ("endpoints", jsonArray []), ("nat_category", text "Unknown"),
    ("timestamp", utf8 "1700000000"), ("signature", jsonBytes card.signature)]

/-- The text of the card is read with a line end after it as well. -/
def parseCard (bs : Bytes) : Except String StdPresenceCard :=
  if bs = cardText ∨ bs = cardText ++ [10] then .ok card else .error "expected value at line 1 column 1"

theorem isParsed_parseCard (bs : Bytes) (c : StdPresenceCard) (h : parseCard bs = .ok c) : c.IsParsed := by
  unfold parseCard at h
  split at h
  · obtain rfl := Except.ok.inj h
    exact ⟨rfl, fun a ha => by cases ha⟩
  · cases h

theorem idealStrictSignatures_signing : IdealStrictSignatures signing := by
  intro key key' m m' sig h h'
  simp only [signing, Bool.and_eq_true, decide_eq_true_eq] at h h'
  exact ⟨h.1.1.trans h'.1.1.symm, h.1.2.trans h'.1.2.symm⟩

theorem verifySignature_card : card.verifySignature signing "signature error" = .ok () := by
  refine (StdPresenceCard.verifySignature_eq_ok _ _).2 ⟨by decide, rfl, by decide +kernel, by decide, ?_⟩
  simp [signing]

end LinkLocalCard

open LinkLocalCard in
/-- Both texts of the card are read as one card, under the hash of its key. -/
theorem verifySignature_covers_linkLocal :
    (∃ bs bs' c c', bs ≠ bs' ∧ parseCard bs = .ok c ∧ parseCard bs' = .ok c' ∧ c = c') ∧
      card.userIdHex = hexString (signing.hashNodeId card.ed25519Pub).bytes := by
  have h := verifySignature_covers_card idealStrictSignatures_signing "signature error" isParsed_parseCard
  have hne : cardText ≠ cardText ++ [10] := by simp
  have hread : parseCard cardText = .ok card := if_pos (.inl rfl)
  have hread' : parseCard (cardText ++ [10]) = .ok card := if_pos (.inr rfl)
  exact ⟨⟨_, _, _, _, hne, hread, hread',
    h.1 _ _ _ _ hread hread' verifySignature_card verifySignature_card rfl⟩, h.2 _ verifySignature_card⟩

end NodeX.Messenger
