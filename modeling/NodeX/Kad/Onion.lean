/-
`onion.rs`: a packet for two hops. The payload is sealed for the destination, the sealed packet is put into a header
with the address and the id of the destination, and the header is sealed for the relay. Both keys come from a key
agreement with a key that is made for the one packet, and are derived apart at the sender and at the receiver.
-/
import NodeX.Core.AddrParse
import NodeX.Core.Crypto
import NodeX.Core.JsonText
import NodeX.Kad.XorMetric

namespace NodeX.Kad

open NodeX.Lib

/-! ## Packets -/

structure OnionPacket where
  ephemeralX25519Pub : Bytes
  nonce : Bytes
  payload : Bytes
deriving DecidableEq

/-- The fields are `[u8; 32]` and `[u8; 12]`. -/
structure OnionPacket.WellSized (p : OnionPacket) : Prop where
  ephemeralX25519Pub : p.ephemeralX25519Pub.length = 32
  nonce : p.nonce.length = 12

structure OnionRelayHeader where
  nextHopAddr : StdSocketAddr
  nextHopId : NodeId
  innerPacket : OnionPacket
deriving DecidableEq

/-- `serde_json` of a header. -/
structure OnionHeaderJson where
  print : OnionRelayHeader → Except String Bytes
  parse : Bytes → Except String OnionRelayHeader

/-- A `StaticSecret` or an `EphemeralSecret`. -/
abbrev X25519Secret := { s : Bytes // s.length = 32 }

/-- What is drawn for a packet: two secrets, and two nonces from `getrandom`, which may fail. -/
structure OnionDraw where
  finalEphemeral : X25519Secret
  finalNonce : Except String { n : Bytes // n.length = 12 }
  relayEphemeral : X25519Secret
  relayNonce : Except String { n : Bytes // n.length = 12 }

def onionDomain : Bytes := utf8 "NODEX_ONION_2HOP_V1"

namespace OnionRouter

variable (C : Crypto) (J : OnionHeaderJson)

/-- The sender's public key and the key that is shared with the peer. -/
def deriveSharedKey (ephemeralSecret peerPublic : Bytes) : Bytes × Bytes :=
  let ephemeralPublic := C.xPublic ephemeralSecret
  let sharedSecret := C.dh ephemeralSecret peerPublic
  (ephemeralPublic, C.sha256 (onionDomain ++ sharedSecret ++ ephemeralPublic))

def deriveReceiverKey (staticSecret ephemeralPublicBytes : Bytes) : Bytes :=
  let sharedSecret := C.dh staticSecret ephemeralPublicBytes
  C.sha256 (onionDomain ++ sharedSecret ++ ephemeralPublicBytes)

def build2hopOnion (finalRecipientPub relayPub : Bytes) (_relayAddr finalAddr : StdSocketAddr) (finalId : NodeId)
    (plaintextPayload : Bytes) (d : OnionDraw) : Except String OnionPacket :=
  let (finalEphPub, finalKey) := deriveSharedKey C d.finalEphemeral.1 finalRecipientPub
  match d.finalNonce with
  | .error e => .error e
  | .ok finalNonce =>
    let innerPacket : OnionPacket :=
      { ephemeralX25519Pub := finalEphPub, nonce := finalNonce.1
        payload := C.aeadEncrypt finalKey finalNonce.1 [] plaintextPayload }
    match J.print { nextHopAddr := finalAddr, nextHopId := finalId, innerPacket } with
    | .error e => .error ("Failed to serialize onion relay header: " ++ e)
    | .ok relayHeaderBytes =>
      let (relayEphPub, relayKey) := deriveSharedKey C d.relayEphemeral.1 relayPub
      match d.relayNonce with
      | .error e => .error e
      | .ok relayNonce =>
        .ok { ephemeralX25519Pub := relayEphPub, nonce := relayNonce.1
              payload := C.aeadEncrypt relayKey relayNonce.1 [] relayHeaderBytes }

def processAtRelay (relayStaticSecret : Bytes) (packet : OnionPacket) : Except String OnionRelayHeader :=
  let key := deriveReceiverKey C relayStaticSecret packet.ephemeralX25519Pub
  match C.aeadDecrypt key packet.nonce [] packet.payload with
  | none => .error "Relay layer decryption failed"
  | some plaintext =>
    match J.parse plaintext with
    | .error e => .error ("Failed to parse onion relay header: " ++ e)
    | .ok header => .ok header

def processAtDestination (destinationStaticSecret : Bytes) (packet : OnionPacket) : Except String Bytes :=
  let key := deriveReceiverKey C destinationStaticSecret packet.ephemeralX25519Pub
  match C.aeadDecrypt key packet.nonce [] packet.payload with
  | none => .error "Destination onion layer decryption failed"
  | some plaintext => .ok plaintext

/-! ## Ideal primitives -/

/-- A hash of 32 bytes that differs where the shared secret in it does, shared secrets with a key of the sender that
differ where the public keys do, and a cipher that opens nothing with another key. -/
structure Ideal (C : Crypto) : Prop where
  sha256_length : ∀ bs, (C.sha256 bs).length = 32
  sha256_inj : ∀ shared shared' eph : Bytes, shared.length = 32 → shared'.length = 32 →
    C.sha256 (onionDomain ++ shared ++ eph) = C.sha256 (onionDomain ++ shared' ++ eph) → shared = shared'
  dh_length : ∀ s pk : Bytes, s.length = 32 → pk.length = 32 → (C.dh s pk).length = 32
  dh_inj : ∀ s s' e : X25519Secret,
    C.dh s.1 (C.xPublic e.1) = C.dh s'.1 (C.xPublic e.1) → C.xPublic s.1 = C.xPublic s'.1
  other_key : ∀ key key' nonce plaintext : Bytes, key.length = 32 → key'.length = 32 → nonce.length = 12 → key ≠ key' →
    C.aeadDecrypt key' nonce [] (C.aeadEncrypt key nonce [] plaintext) = none

/-- `serde_json` round-trips the headers with this destination. -/
def HeaderRoundTrips (J : OnionHeaderJson) (addr : StdSocketAddr) (id : NodeId) : Prop :=
  ∀ innerPacket : OnionPacket, innerPacket.WellSized →
    ∃ bytes, J.print ⟨addr, id, innerPacket⟩ = .ok bytes ∧ J.parse bytes = .ok ⟨addr, id, innerPacket⟩

variable {C J} {s e other : X25519Secret}

/-- Sender and receiver derive one key. -/
theorem deriveReceiverKey_eq (hC : C.Correct) (s e : X25519Secret) :
    deriveReceiverKey C s.1 (C.xPublic e.1) = (deriveSharedKey C e.1 (C.xPublic s.1)).2 := by
  unfold deriveReceiverKey deriveSharedKey
  dsimp only
  rw [hC.dh_comm s.1 e.1 s.2 e.2]

/-- Another receiver derives another key. -/
theorem deriveReceiverKey_ne (hC : C.Correct) (hideal : Ideal C) (h : C.xPublic other.1 ≠ C.xPublic s.1) :
    (deriveSharedKey C e.1 (C.xPublic s.1)).2 ≠ deriveReceiverKey C other.1 (C.xPublic e.1) := by
  rw [← deriveReceiverKey_eq hC]
  intro hkey
  have hpub := hC.xPublic_length e.1 e.2
  have hshared := hideal.sha256_inj _ _ _ (hideal.dh_length _ _ s.2 hpub) (hideal.dh_length _ _ other.2 hpub) hkey
  exact h (hideal.dh_inj s other e hshared).symm

/-- What is sealed with the key of the one is opened by the one. -/
theorem opens_own (hC : C.Correct) (hideal : Ideal C) (nonce : { n : Bytes // n.length = 12 }) (plaintext : Bytes) :
    C.aeadDecrypt (deriveReceiverKey C s.1 (C.xPublic e.1)) nonce.1 []
      (C.aeadEncrypt (deriveSharedKey C e.1 (C.xPublic s.1)).2 nonce.1 [] plaintext) = some plaintext := by
  rw [deriveReceiverKey_eq hC]
  exact hC.aeadDecrypt_aeadEncrypt _ _ _ _ (hideal.sha256_length _) nonce.2

theorem opens_not_other (hC : C.Correct) (hideal : Ideal C) (h : C.xPublic other.1 ≠ C.xPublic s.1)
    (nonce : { n : Bytes // n.length = 12 }) (plaintext : Bytes) :
    C.aeadDecrypt (deriveReceiverKey C other.1 (C.xPublic e.1)) nonce.1 []
      (C.aeadEncrypt (deriveSharedKey C e.1 (C.xPublic s.1)).2 nonce.1 [] plaintext) = none :=
  hideal.other_key _ _ _ _ (hideal.sha256_length _) (hideal.sha256_length _) nonce.2 (deriveReceiverKey_ne hC hideal h)

/-! ## The way of a packet -/

/-- The packet for the destination. -/
def innerOf (C : Crypto) (destinationPub : Bytes) (payload : Bytes) (d : OnionDraw) (nonce : Bytes) : OnionPacket where
  ephemeralX25519Pub := C.xPublic d.finalEphemeral.1
  nonce := nonce
  payload := C.aeadEncrypt (deriveSharedKey C d.finalEphemeral.1 destinationPub).2 nonce [] payload

/-- The packet for the relay. -/
def outerOf (C : Crypto) (relayPub : Bytes) (headerBytes : Bytes) (d : OnionDraw) (nonce : Bytes) : OnionPacket where
  ephemeralX25519Pub := C.xPublic d.relayEphemeral.1
  nonce := nonce
  payload := C.aeadEncrypt (deriveSharedKey C d.relayEphemeral.1 relayPub).2 nonce [] headerBytes

/-- A packet is built of two nonces and the bytes of the header. -/
theorem build2hopOnion_eq_ok {destinationPub relayPub payload : Bytes} {relayAddr addr : StdSocketAddr} {id : NodeId}
    {d : OnionDraw} {packet : OnionPacket} :
    build2hopOnion C J destinationPub relayPub relayAddr addr id payload d = .ok packet ↔
      ∃ finalNonce relayNonce headerBytes, d.finalNonce = .ok finalNonce ∧ d.relayNonce = .ok relayNonce ∧
        J.print ⟨addr, id, innerOf C destinationPub payload d finalNonce.1⟩ = .ok headerBytes ∧
          packet = outerOf C relayPub headerBytes d relayNonce.1 := by
  constructor
  · intro h
    unfold build2hopOnion at h
    dsimp only at h
    split at h
    · cases h
    rename_i finalNonce hfinal
    split at h
    · cases h
    rename_i headerBytes hprint
    split at h
    · cases h
    rename_i relayNonce hrelay
    exact ⟨finalNonce, relayNonce, headerBytes, hfinal, hrelay, hprint, (Except.ok.inj h).symm⟩
  · rintro ⟨finalNonce, relayNonce, headerBytes, hfinal, hrelay, hprint, rfl⟩
    unfold build2hopOnion
    rw [hfinal]
    dsimp only
    unfold innerOf at hprint
    rw [show deriveSharedKey C d.finalEphemeral.1 destinationPub = (C.xPublic d.finalEphemeral.1,
      (deriveSharedKey C d.finalEphemeral.1 destinationPub).2) from rfl]
    dsimp only
    rw [hprint]
    dsimp only
    rw [hrelay]
    rfl

theorem wellSized_innerOf (hC : C.Correct) (destinationPub payload : Bytes) (d : OnionDraw)
    (nonce : { n : Bytes // n.length = 12 }) : (innerOf C destinationPub payload d nonce.1).WellSized :=
  ⟨hC.xPublic_length _ d.finalEphemeral.2, nonce.2⟩

theorem processAtRelay_outerOf (hC : C.Correct) (hideal : Ideal C) (relay : X25519Secret) (headerBytes : Bytes)
    (d : OnionDraw) (nonce : { n : Bytes // n.length = 12 }) {header : OnionRelayHeader}
    (hparse : J.parse headerBytes = .ok header) :
    processAtRelay C J relay.1 (outerOf C (C.xPublic relay.1) headerBytes d nonce.1) = .ok header := by
  unfold processAtRelay outerOf
  dsimp only
  rw [opens_own hC hideal nonce headerBytes]
  dsimp only
  rw [hparse]

theorem processAtDestination_innerOf (hC : C.Correct) (hideal : Ideal C) (destination : X25519Secret) (payload : Bytes)
    (d : OnionDraw) (nonce : { n : Bytes // n.length = 12 }) :
    processAtDestination C destination.1 (innerOf C (C.xPublic destination.1) payload d nonce.1) = .ok payload := by
  unfold processAtDestination innerOf
  dsimp only
  rw [opens_own hC hideal nonce payload]

/-- What becomes of a packet for this relay and this destination: it is built where the nonces can be drawn; the relay
reads the destination and a packet from it, of which the destination reads the payload; and nobody else does. -/
structure Delivers (C : Crypto) (J : OnionHeaderJson) (relay destination : X25519Secret) (addr : StdSocketAddr)
    (id : NodeId) (payload : Bytes) (d : OnionDraw) (built : Except String OnionPacket) : Prop where
  builds : (∀ e, d.finalNonce ≠ .error e) → (∀ e, d.relayNonce ≠ .error e) → ∃ packet, built = .ok packet
  delivers : ∀ packet, built = .ok packet → ∃ innerPacket,
    processAtRelay C J relay.1 packet = .ok ⟨addr, id, innerPacket⟩ ∧
      processAtDestination C destination.1 innerPacket = .ok payload ∧
      ∀ other : X25519Secret, C.xPublic other.1 ≠ C.xPublic destination.1 →
        ∃ e, processAtDestination C other.1 innerPacket = .error e
  no_other_relay : ∀ packet, built = .ok packet → ∀ other : X25519Secret, C.xPublic other.1 ≠ C.xPublic relay.1 →
    ∃ e, processAtRelay C J other.1 packet = .error e

/-- A packet for two hops goes to its destination by its relay, whatever is drawn for it. -/
theorem build2hopOnion_delivers (hC : C.Correct) (hideal : Ideal C) (relay destination : X25519Secret)
    (relayAddr addr : StdSocketAddr) (id : NodeId) (hJ : HeaderRoundTrips J addr id) (payload : Bytes) (d : OnionDraw) :
    Delivers C J relay destination addr id payload d
      (build2hopOnion C J (C.xPublic destination.1) (C.xPublic relay.1) relayAddr addr id payload d) := by
  refine ⟨?_, ?_, ?_⟩
  · intro hfinal hrelay
    cases hf : d.finalNonce with
    | error e => exact absurd hf (hfinal e)
    | ok finalNonce =>
      cases hr : d.relayNonce with
      | error e => exact absurd hr (hrelay e)
      | ok relayNonce =>
        obtain ⟨headerBytes, hprint, -⟩ := hJ _ (wellSized_innerOf hC (C.xPublic destination.1) payload d finalNonce)
        exact ⟨_, build2hopOnion_eq_ok.2 ⟨finalNonce, relayNonce, headerBytes, hf, hr, hprint, rfl⟩⟩
  · intro packet h
    obtain ⟨finalNonce, relayNonce, headerBytes, -, -, hprint, rfl⟩ := build2hopOnion_eq_ok.1 h
    obtain ⟨printed, hprinted, hparse⟩ := hJ _ (wellSized_innerOf hC (C.xPublic destination.1) payload d finalNonce)
    obtain rfl := Except.ok.inj (hprint.symm.trans hprinted)
    refine ⟨_, processAtRelay_outerOf hC hideal relay headerBytes d relayNonce hparse,
      processAtDestination_innerOf hC hideal destination payload d finalNonce, ?_⟩
    intro other hother
    refine ⟨"Destination onion layer decryption failed", ?_⟩
    unfold processAtDestination innerOf
    dsimp only
    rw [opens_not_other hC hideal hother finalNonce payload]
  · intro packet h other hother
    obtain ⟨finalNonce, relayNonce, headerBytes, -, -, -, rfl⟩ := build2hopOnion_eq_ok.1 h
    refine ⟨"Relay layer decryption failed", ?_⟩
    unfold processAtRelay outerOf
    dsimp only
    rw [opens_not_other hC hideal hother relayNonce headerBytes]

/-! ## A packet -/

/-- The header as `serde_json` prints it: an address as text, bytes as numbers. -/
def headerText : Codec (String × Bytes × Bytes × Bytes × Bytes) :=
  ((Json.utf8Text.sep (utf8 ",\"next_hop_id\":") (stops_append rfl)
    (Json.bytes.sep (utf8 ",\"inner_packet\":\x7b\"ephemeral_x25519_pub\":") (stops_append rfl)
      (Json.bytes.sep (utf8 ",\"nonce\":") (stops_append rfl)
        (Json.bytes.sep (utf8 ",\"payload\":") (stops_append rfl) Json.bytes)))).before
          (utf8 "\x7b\"next_hop_addr\":")).after (utf8 "\x7d\x7d") (stops_append rfl)

def headerJson : OnionHeaderJson where
  print h := .ok (headerText.print (h.nextHopAddr.display, h.nextHopId.bytes, h.innerPacket.ephemeralX25519Pub,
    h.innerPacket.nonce, h.innerPacket.payload))
  parse bytes :=
    match headerText.parseAll bytes with
    | none => .error "invalid type"
    | some (addr, id, ephemeralX25519Pub, nonce, payload) =>
      match StdSocketAddr.parse addr with
      | none => .error "invalid socket address syntax"
      | some addr =>
        if h : id.length = 20 ∧ ephemeralX25519Pub.length = 32 ∧ nonce.length = 12 then
          .ok ⟨addr, ⟨id, h.1⟩, ⟨ephemeralX25519Pub, nonce, payload⟩⟩
        else .error "invalid length"

/-- Headers with an address that is read as it was printed come back. -/
theorem headerRoundTrips {addr : StdSocketAddr} (h : StdSocketAddr.parse addr.display = some addr) (id : NodeId) :
    HeaderRoundTrips headerJson addr id := by
  intro innerPacket hsized
  refine ⟨_, rfl, ?_⟩
  unfold headerJson
  dsimp only
  rw [Codec.parseAll_print]
  dsimp only
  rw [h]
  dsimp only
  rw [dif_pos ⟨id.size, hsized.ephemeralX25519Pub, hsized.nonce⟩]

/-- The primitives with a hash that is the shared secret in it. -/
def agreeing : Crypto := { Crypto.transparent with sha256 := fun bs => (bs.drop 19 ++ List.replicate 32 0).take 32 }

theorem correct_agreeing : agreeing.Correct :=
  have h := Crypto.transparent_correct
  ⟨h.hkdf_length, h.edPublic_length, h.edPublic_valid, h.edSign_length, h.edVerify_edSign, h.xPublic_length, h.dh_comm,
    h.aeadDecrypt_aeadEncrypt⟩

theorem agreeing_sha256 (shared eph : Bytes) (h : shared.length = 32) :
    agreeing.sha256 (onionDomain ++ shared ++ eph) = shared := by
  show (((onionDomain ++ shared ++ eph).drop 19 ++ List.replicate 32 0).take 32) = shared
  have hdomain : onionDomain.length = 19 := by decide
  rw [List.append_assoc, ← hdomain, List.drop_left, List.append_assoc, ← h, List.take_left]

theorem ideal_agreeing : Ideal agreeing where
  sha256_length bs := by
    show ((bs.drop 19 ++ List.replicate 32 0).take 32).length = 32
    simp
  sha256_inj shared shared' eph h h' heq := by
    rwa [agreeing_sha256 shared eph h, agreeing_sha256 shared' eph h'] at heq
  dh_length s pk hs hpk := by
    show (List.zipWith (· ^^^ ·) s pk).length = 32
    rw [List.length_zipWith, hs, hpk]
    rfl
  dh_inj s s' e h := by
    have hs : s.1.length = e.1.length := s.2.trans e.2.symm
    have hs' : s'.1.length = e.1.length := s'.2.trans e.2.symm
    change List.zipWith (· ^^^ ·) s.1 e.1 = List.zipWith (· ^^^ ·) s'.1 e.1 at h
    show s.1 = s'.1
    rw [← NodeId.zipWith_xor_cancel hs, h, NodeId.zipWith_xor_cancel hs']
  other_key key key' nonce plaintext hkey hkey' _ hne := by
    show Crypto.transparent.aeadDecrypt key' nonce [] (key ++ [] ++ plaintext) = none
    simp only [Crypto.transparent, List.append_nil, ite_eq_right_iff]
    intro hprefix
    obtain ⟨rest, hrest⟩ := List.isPrefixOf_iff_prefix.1 hprefix
    exact absurd (List.append_inj_left hrest (hkey'.trans hkey.symm)).symm hne

theorem length_secretOf (b : UInt8) : (List.replicate 32 b).length = 32 := List.length_replicate

def secretOf (b : UInt8) : X25519Secret := ⟨List.replicate 32 b, length_secretOf b⟩

theorem length_onionNonce (b : UInt8) : (List.replicate 12 b).length = 12 := List.length_replicate

def onionDraw : OnionDraw where
  finalEphemeral := secretOf 3
  finalNonce := .ok ⟨List.replicate 12 4, length_onionNonce 4⟩
  relayEphemeral := secretOf 5
  relayNonce := .ok ⟨List.replicate 12 6, length_onionNonce 6⟩

/-- The destination and the relay of the packet. -/
def destinationAddr : StdSocketAddr := .v4 #v[203, 0, 113, 88] 9000

def relayAddr : StdSocketAddr := .v4 #v[198, 51, 100, 5] 8000

theorem length_destinationId : (List.replicate 20 (7 : UInt8)).length = 20 := List.length_replicate

def destinationId : NodeId := ⟨List.replicate 20 7, length_destinationId⟩

theorem build2hopOnion_delivers_hello :
    Delivers agreeing headerJson (secretOf 1) (secretOf 2) destinationAddr destinationId (utf8 "hello") onionDraw
      (build2hopOnion agreeing headerJson (agreeing.xPublic (secretOf 2).1) (agreeing.xPublic (secretOf 1).1) relayAddr
        destinationAddr destinationId (utf8 "hello") onionDraw) :=
  build2hopOnion_delivers correct_agreeing ideal_agreeing (secretOf 1) (secretOf 2) relayAddr destinationAddr
    destinationId (headerRoundTrips (StdSocketAddr.parse_display_v4 _ _) destinationId) (utf8 "hello") onionDraw

end OnionRouter

end NodeX.Kad
