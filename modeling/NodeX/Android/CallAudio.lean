/-
The voice frames of the Android client (`sendCallAudio`, `handleCallAudioDatagram` and their sealing), against those of
the other client. A Long stands for the eight bytes that are sent of it; the Android client compares sequence numbers
with their sign, the other one without.
-/
import NodeX.Android.Packets
import NodeX.Messenger.AudioStreams

namespace NodeX.Android

open NodeX.Lib Messenger AndroidMessageCrypto Kad.P2PTransportEngine

/-- The identity of the recovery phrase. -/
def Account.identity (P : Account) : UserIdentity P.C := .fromSeed P.C P.seed

namespace CallAudio

/-! ## Sealing -/

/-- `audioAad` -/
def aad (senderId recipientId : Bytes) (callId : String) (seq : UInt64) (sampleRate : UInt32) : Except Thrown Bytes :=
  let callBytes := utf8 callId
  (require (senderId.length = 20 ∧ recipientId.length = 20 ∧ 1 ≤ callBytes.length ∧ callBytes.length ≤ 128)).map
    fun _ => utf8 "NodeX-call-audio-v1" ++ senderId ++ recipientId ++ [UInt8.ofNat callBytes.length] ++ callBytes ++
      toBe 8 seq.toNat ++ toBe 4 sampleRate.toNat

variable (C : Crypto)

/-- `deriveAudioKey` -/
def deriveAudioKey (ikm nonce : Bytes) : Bytes := C.hkdf (some nonce) ikm (utf8 "NodeX-call-audio-v1")

/-- `sealCallAudio`, with the ephemeral secret it draws: the ephemeral public key and the ciphertext. -/
def sealCallAudio (seed recipientXPublic nonce plaintext senderId recipientId : Bytes) (callId : String) (seq : UInt64)
    (sampleRate : UInt32) (ephSecret : Bytes) : Except Thrown (Bytes × Bytes) := do
  require (recipientXPublic.length = 32 ∧ nonce.length = 12)
  let keys := identityKeys C seed
  let bound ← aad senderId recipientId callId seq sampleRate
  let key := deriveAudioKey C (C.dh ephSecret recipientXPublic ++ C.dh keys.xSecret recipientXPublic) nonce
  return (C.xPublic ephSecret, C.aeadEncrypt key nonce bound plaintext)

def openCallAudio (seed senderXPublic ephemeralPublic nonce ciphertext senderId recipientId : Bytes) (callId : String)
    (seq : UInt64) (sampleRate : UInt32) : Except Thrown Bytes := do
  require (senderXPublic.length = 32 ∧ ephemeralPublic.length = 32 ∧ nonce.length = 12)
  let keys := identityKeys C seed
  let key := deriveAudioKey C (C.dh keys.xSecret ephemeralPublic ++ C.dh keys.xSecret senderXPublic) nonce
  let bound ← aad senderId recipientId callId seq sampleRate
  match C.aeadDecrypt key nonce bound ciphertext with
  | some plain => return plain
  | none => throw .library

/-! ## Sending -/

variable (P : Account)

def sampleRate : UInt32 := 16000

/-- `sendCallAudio` up to the datagram, with the nonce and the ephemeral secret that are drawn. -/
def callAudioPacket (s : Phone) (contactId : String) (pcmData : Bytes) (seq : UInt64) (nonce ephSecret : Bytes) :
    Option Bytes :=
  let cleanContactId := clean P.K contactId
  let senderBytes := looseHexToBytes P.K P.localNodeIdHex 20
  let targetBytes := looseHexToBytes P.K cleanContactId 20
  if pcmData.isEmpty ∨ pcmData.length > 900 ∨ pcmData.length % 2 ≠ 0 then none
  else do
    let peerXKey ← s.getVerifiedPeerX25519Key P.K cleanContactId
    let callId := (← s.activeCall).callId
    match sealCallAudio P.C P.seed peerXKey nonce pcmData senderBytes targetBytes callId seq sampleRate ephSecret with
    | .error _ => none
    | .ok (ephemeralPublic, ciphertext) =>
      let callBytes := utf8 callId
      if callBytes.isEmpty ∨ callBytes.length > 128 then none
      else
        some ([0x4E, 0x58, 0x43, 0x41] ++ senderBytes ++ targetBytes ++ [UInt8.ofNat callBytes.length] ++ callBytes ++
          toBe 8 seq.toNat ++ toBe 4 sampleRate.toNat ++ nonce ++ ephemeralPublic ++ toBe 2 ciphertext.length ++
          ciphertext)

/-! ## Receiving -/

/-- The parts of a datagram. -/
structure Parts where
  senderHex : String
  callBytes : Bytes
  seq : UInt64
  sampleRate : UInt32
  nonce : Bytes
  ephemeralPublic : Bytes
  ciphertext : Bytes

/-- `copyOfRange`, within the bounds that were checked. -/
def range (data : Bytes) (start n : Nat) : Bytes := (data.drop start).take n

/-- What the checks of `handleCallAudioDatagram` let pass before the keys. -/
def partsOf (localNodeIdHex : String) (data : Bytes) : Option Parts :=
  let senderHex := bytesToHex (range data 4 20)
  let targetHex := bytesToHex (range data 24 20)
  let idLength := (data.getD 44 0).toNat
  let seqAt := 45 + idLength
  let sampleRate := UInt32.ofNat (unsigned data (seqAt + 8) 4)
  let ciphertextLength := unsigned data (seqAt + 56) 2
  if data.length < 120 then none
  else if targetHex ≠ localNodeIdHex ∨ senderHex = localNodeIdHex then none
  else if ¬(1 ≤ idLength ∧ idLength ≤ 128) then none
  else if data.length < 45 + idLength + 8 + 4 + 12 + 32 + 2 + 16 then none
  else if ¬(8000 ≤ sampleRate.toNat ∧ sampleRate.toNat ≤ 48000) then none
  else if ¬(16 ≤ ciphertextLength ∧ ciphertextLength ≤ 1100) ∨ data.length ≠ seqAt + 58 + ciphertextLength then none
  else some
    { senderHex, callBytes := range data 45 idLength, seq := UInt64.ofNat (unsigned data seqAt 8), sampleRate,
      nonce := range data (seqAt + 12) 12, ephemeralPublic := range data (seqAt + 24) 32,
      ciphertext := data.drop (seqAt + 58) }

/-- A Long of eight bytes. -/
def signed (seq : UInt64) : Int := Int.bmod seq.toNat (2 ^ 64)

/-- A frame as it is handed on. -/
structure Frame where
  seq : Int
  sampleRate : UInt32
  pcm : Bytes
deriving DecidableEq

/-- The plaintext of a datagram for this client, with the stream it is of. -/
def opened (s : Phone) (data : Bytes) : Option (Parts × String × Bytes) := do
  let p ← partsOf P.localNodeIdHex data
  let callId := P.K.decodeText p.callBytes
  let peerKey ← s.getVerifiedPeerX25519Key P.K p.senderHex
  match openCallAudio P.C P.seed peerKey p.ephemeralPublic p.nonce p.ciphertext (range data 4 20) (range data 24 20)
      callId p.seq p.sampleRate with
  | .error _ => none
  | .ok plaintext => if plaintext.length % 2 ≠ 0 then none else some (p, callId, plaintext)

/-- `handleCallAudioDatagram`: the state after it, and the frame that is handed on. -/
def handleCallAudioDatagram (s : Phone) (data : Bytes) (senderEndpoint : String) : Phone × Option Frame :=
  match opened P s data with
  | none => (s, none)
  | some (p, callId, plaintext) =>
    if ¬s.activeCall.any (fun c => c.isConnected && c.peerId == p.senderHex && c.callId == callId) then (s, none)
    else
      let s := s.recordEndpoint P p.senderHex senderEndpoint
      let streamKey := p.senderHex ++ ":" ++ callId
      let previous := s.lastCallAudioSequence.at? streamKey
      if previous.any fun last => signed p.seq ≤ last then (s, none)
      else if s.lastCallAudioSequence.list.length ≥ 4096 ∧ previous.isNone then (s, none)
      else
        ({ s with lastCallAudioSequence := s.lastCallAudioSequence.put streamKey (signed p.seq) },
          some { seq := signed p.seq, sampleRate := p.sampleRate, pcm := plaintext })

/-! ## What is laid down is found -/

section Layout

variable {senderId recipientId : NodeId} {callId : String} {seq : UInt64} {rate : UInt32} {nonce eph ciphertext : Bytes}

theorem range_of_at {data s : Bytes} {i n : Nat} (h : At data i s) (hn : s.length = n) : range data i n = s := hn ▸ h.2

/-- A frame as both clients lay it out passes the checks of this one. -/
theorem partsOf_audioBytes (seq : UInt64) {localNodeIdHex : String} (hme : recipientId.toHex = localNodeIdHex)
    (hother : senderId.toHex ≠ localNodeIdHex) (hpos : 0 < (utf8 callId).length) (hid : (utf8 callId).length ≤ 128)
    (hrate : audioRates rate.toNat = true) (hnonce : nonce.length = 12) (heph : eph.length = 32)
    (htag : 16 ≤ ciphertext.length) (hct : ciphertext.length ≤ 1100) :
    partsOf localNodeIdHex (audioBytes senderId recipientId callId seq rate nonce eph ciphertext) =
        some ⟨senderId.toHex, utf8 callId, seq, rate, nonce, eph, ciphertext⟩ ∧
      range (audioBytes senderId recipientId callId seq rate nonce eph ciphertext) 4 20 = senderId.bytes ∧
      range (audioBytes senderId recipientId callId seq rate nonce eph ciphertext) 24 20 = recipientId.bytes := by
  have hlen : (audioBytes senderId recipientId callId seq rate nonce eph ciphertext).length = _ :=
    length_audioBytes senderId recipientId seq hnonce heph
  have hparts : audioBytes senderId recipientId callId seq rate nonce eph ciphertext =
      audioMagic ++ (senderId.bytes ++ (recipientId.bytes ++ ([UInt8.ofNat (utf8 callId).length] ++ (utf8 callId ++
        (toBe 8 seq.toNat ++ (toBe 4 rate.toNat ++ (nonce ++ (eph ++
          (toBe 2 ciphertext.length ++ ciphertext))))))))) := by
    simp [audioBytes, audioHeader]
  have hat := at_zero_self (audioBytes senderId recipientId callId seq rate nonce eph ciphertext)
  generalize audioBytes senderId recipientId callId seq rate nonce eph ciphertext = packet at hlen hparts hat ⊢
  have hmagic : audioMagic.length = 4 := by decide
  nth_rewrite 2 [hparts] at hat
  simp only [at_append, List.length_singleton, length_toBe, hmagic, senderId.size, recipientId.size, hnonce, heph,
    Nat.reduceAdd] at hat
  obtain ⟨-, hsender, hrecipient, hidAt, hcall, hseq, hrateAt, hnonceAt, hephAt, hlenAt, hctAt⟩ := hat
  have hsender := range_of_at hsender senderId.size
  have hrecipient := range_of_at hrecipient recipientId.size
  have hidByte : (packet.getD 44 0).toNat = (utf8 callId).length := by
    rw [List.getD_eq_getElem?_getD, at_singleton.1 hidAt, Option.getD_some, UInt8.toNat_ofNat']
    omega
  have hseqRead := unsigned_of_at hseq (show seq.toNat < 256 ^ 8 from seq.toNat_lt)
  have hrateRead := unsigned_of_at hrateAt (show rate.toNat < 256 ^ 4 from rate.toNat_lt)
  have hlenRead := unsigned_of_at hlenAt (show ciphertext.length < 256 ^ 2 by omega)
  have hrest : packet.drop (45 + (utf8 callId).length + 58) = ciphertext := by
    rw [← List.take_of_length_le (l := packet.drop _) (i := ciphertext.length) (by
      rw [List.length_drop]
      omega)]
    exact hctAt.2
  -- the places of the parts, as the reader counts them
  have h56 : 45 + (utf8 callId).length + 8 + 4 + 12 + 32 = 45 + (utf8 callId).length + 56 := by omega
  have h12 : 45 + (utf8 callId).length + 8 + 4 = 45 + (utf8 callId).length + 12 := by omega
  have h24 : 45 + (utf8 callId).length + 8 + 4 + 12 = 45 + (utf8 callId).length + 24 := by omega
  rw [h56] at hlenRead
  rw [h12] at hnonceAt
  rw [h24] at hephAt
  have hrates : 8000 ≤ rate.toNat ∧ rate.toNat ≤ 48000 := by simpa [audioRates] using hrate
  have hto : bytesToHex recipientId.bytes = localNodeIdHex := hme
  have hfrom : bytesToHex senderId.bytes ≠ localNodeIdHex := hother
  refine ⟨?_, hsender, hrecipient⟩
  unfold partsOf
  simp only [hsender, hrecipient, hidByte, hrateRead, hlenRead, hseqRead, UInt32.ofNat_toNat, UInt64.ofNat_toNat, hrest,
    range_of_at hcall rfl, range_of_at hnonceAt hnonce, range_of_at hephAt heph]
  rw [if_neg (by omega), if_neg (by simp [hto, hfrom]), if_neg (by omega), if_neg (by omega), if_neg (by omega),
    if_neg (by omega)]
  rfl

end Layout

/-! ## Keys -/

section Keys

variable {C : Crypto} {seed : Bytes}

theorem aad_eq (senderId recipientId : NodeId) {callId : String} (seq : UInt64) (rate : UInt32)
    (hpos : 0 < (utf8 callId).length) (hid : (utf8 callId).length ≤ 128) :
    aad senderId.bytes recipientId.bytes callId seq rate =
      .ok (audioAad (senderId.bytes ++ recipientId.bytes)
        (audioHeader (UInt8.ofNat (utf8 callId).length) (utf8 callId) seq rate)) := by
  have hinfo : audioInfo = utf8 "NodeX-call-audio-v1" := rfl
  unfold aad
  dsimp only
  rw [@require_eq_ok _ _ () |>.2 ⟨senderId.size, recipientId.size, hpos, hid⟩]
  unfold audioAad audioHeader
  rw [hinfo]
  simp [Except.map]

/-- What is sealed here is sealed as the other client seals it. -/
theorem sealCallAudio_eq (recipientId : NodeId) {key nonce : Bytes} {callId : String} (samples : List UInt16)
    (seq : UInt64) (rate : UInt32) (ephSecret : Bytes) (hkey : key.length = 32) (hnonce : nonce.length = 12)
    (hpos : 0 < (utf8 callId).length) (hid : (utf8 callId).length ≤ 128) :
    sealCallAudio C seed key nonce (pcmBytes samples) (UserIdentity.fromSeed C seed).userId.bytes recipientId.bytes
        callId seq rate ephSecret =
      .ok (C.xPublic ephSecret, audioCiphertext (UserIdentity.fromSeed C seed) recipientId key callId samples rate seq
        nonce ephSecret) := by
  unfold sealCallAudio
  rw [require_bind ⟨hkey, hnonce⟩]
  dsimp only
  rw [aad_eq _ _ _ _ hpos hid]
  rfl

/-- What the other client sealed for this identity is opened. -/
theorem openCallAudio_audioCiphertext (hC : C.Correct) {friend : UserIdentity C} (hfriend : friend.WellSized)
    {nonce ephSecret : Bytes} {callId : String} (samples : List UInt16) (seq : UInt64) (rate : UInt32)
    (hnonce : nonce.length = 12) (heph : ephSecret.length = 32) (hpos : 0 < (utf8 callId).length)
    (hid : (utf8 callId).length ≤ 128) :
    openCallAudio C seed friend.x25519Public (C.xPublic ephSecret) nonce
        (audioCiphertext friend (UserIdentity.fromSeed C seed).userId (UserIdentity.fromSeed C seed).x25519Public callId
          samples rate seq nonce ephSecret)
        friend.userId.bytes (UserIdentity.fromSeed C seed).userId.bytes callId seq rate = .ok (pcmBytes samples) := by
  have hme := UserIdentity.wellSized_fromSeed hC seed
  have hlen : friend.x25519Public.length = 32 := by
    rw [friend.x25519Public_eq]
    exact hC.xPublic_length _ hfriend.x25519Secret
  have hephemeral : C.dh (identityKeys C seed).xSecret (C.xPublic ephSecret) =
      C.dh ephSecret (UserIdentity.fromSeed C seed).x25519Public :=
    hC.dh_comm _ _ hme.x25519Secret heph
  have hstatic : C.dh (identityKeys C seed).xSecret friend.x25519Public =
      C.dh friend.x25519Secret (UserIdentity.fromSeed C seed).x25519Public := by
    rw [friend.x25519Public_eq]
    exact hC.dh_comm _ _ hme.x25519Secret hfriend.x25519Secret
  have hopen : C.aeadDecrypt (deriveAudioKey C (C.dh ephSecret (UserIdentity.fromSeed C seed).x25519Public ++
      C.dh friend.x25519Secret (UserIdentity.fromSeed C seed).x25519Public) nonce) nonce
        (audioAad (friend.userId.bytes ++ (UserIdentity.fromSeed C seed).userId.bytes)
          (audioHeader (UInt8.ofNat (utf8 callId).length) (utf8 callId) seq rate))
        (audioCiphertext friend (UserIdentity.fromSeed C seed).userId (UserIdentity.fromSeed C seed).x25519Public callId
          samples rate seq nonce ephSecret) = some (pcmBytes samples) :=
    hC.aeadDecrypt_aeadEncrypt _ _ _ _ (hC.hkdf_length _ _ _) hnonce
  unfold openCallAudio
  rw [require_bind ⟨hlen, hC.xPublic_length _ heph, hnonce⟩]
  dsimp only
  rw [aad_eq _ _ _ _ hpos hid, hephemeral, hstatic]
  show (match C.aeadDecrypt _ _ _ _ with
    | some plain => Except.ok plain
    | none => throw Thrown.library) = _
  rw [hopen]

end Keys

/-! ## To the other client -/

theorem pcmBytes_pcmSamples : ∀ bs : Bytes, bs.length % 2 = 0 → pcmBytes (pcmSamples bs) = bs
  | [], _ => rfl
  | [_], h => absurd h (by simp)
  | lo :: hi :: rest, h => by
    have hrest : rest.length % 2 = 0 := by
      rw [List.length_cons, List.length_cons] at h
      omega
    have hsum : (lo.toUInt16 + hi.toUInt16 * 256).toNat = lo.toNat + hi.toNat * 256 := by
      have hlo := lo.toNat_lt
      have hhi := hi.toNat_lt
      simp only [UInt16.toNat_add, UInt16.toNat_mul, UInt8.toNat_toUInt16, UInt16.reduceToNat]
      omega
    have hlow : (lo.toUInt16 + hi.toUInt16 * 256).toUInt8 = lo := by
      apply UInt8.toNat_inj.1
      have hlo := lo.toNat_lt
      rw [UInt16.toNat_toUInt8, hsum]
      omega
    have hhigh : ((lo.toUInt16 + hi.toUInt16 * 256) >>> 8).toUInt8 = hi := by
      apply UInt8.toNat_inj.1
      have hlo := lo.toNat_lt
      have hhi := hi.toNat_lt
      rw [UInt16.toNat_toUInt8, UInt16.toNat_shiftRight, hsum, Nat.shiftRight_eq_div_pow]
      simp
      omega
    show [_, _] ++ pcmBytes (pcmSamples rest) = lo :: hi :: rest
    rw [pcmBytes_pcmSamples rest hrest, hlow, hhigh]
    rfl

variable {P : Account}

theorem callAudioPacket_eq_some (hK : Packets.ReadsHex P.K) (hme : P.localNodeIdHex = P.identity.userIdHex)
    {s : Phone} {contactId : String} {recipientId : NodeId} (hto : clean P.K contactId = recipientId.toHex)
    {pcmData : Bytes} {seq : UInt64} {nonce ephSecret packet : Bytes}
    (h : callAudioPacket P s contactId pcmData seq nonce ephSecret = some packet) :
    pcmData.length ≤ 900 ∧ pcmData.length % 2 = 0 ∧
      ∃ key call, s.getVerifiedPeerX25519Key P.K recipientId.toHex = some key ∧ s.activeCall = some call ∧
        nonce.length = 12 ∧ 0 < (utf8 call.callId).length ∧ (utf8 call.callId).length ≤ 128 ∧
          packet = audioBytes P.identity.userId recipientId call.callId seq sampleRate nonce
            (P.C.xPublic ephSecret) (audioCiphertext P.identity recipientId key call.callId
              (pcmSamples pcmData) sampleRate seq nonce ephSecret) := by
  unfold callAudioPacket at h
  dsimp only at h
  rw [hto, hme] at h
  split at h
  · cases h
  rename_i hpcm
  rw [not_or, not_or, not_not, Nat.not_lt] at hpcm
  obtain ⟨-, hlen, heven⟩ := hpcm
  obtain ⟨key, hkey, h⟩ := Option.bind_eq_some_iff.1 h
  obtain ⟨call, hcall, h⟩ := Option.bind_eq_some_iff.1 h
  split at h
  · cases h
  rename_i eph ciphertext hseal
  split at h
  · cases h
  rename_i hid
  rw [not_or, List.isEmpty_iff, Nat.not_lt] at hid
  have hpos := List.length_pos_of_ne_nil hid.1
  rw [hK.looseHexToBytes] at h hseal
  obtain ⟨hkeyLen, hnonce⟩ : key.length = 32 ∧ nonce.length = 12 := by
    unfold sealCallAudio at hseal
    obtain ⟨_, hrequired, -⟩ := thrown_bind_eq_ok.1 hseal
    exact require_eq_ok.1 hrequired
  have hown : looseHexToBytes P.K P.identity.userIdHex 20 = P.identity.userId.bytes :=
    hK.looseHexToBytes _
  rw [hown] at h hseal
  rw [← pcmBytes_pcmSamples pcmData heven] at hseal
  have hsealed := (sealCallAudio_eq recipientId (pcmSamples pcmData) seq sampleRate
    ephSecret hkeyLen hnonce hpos hid.2).symm.trans hseal
  obtain ⟨rfl, rfl⟩ := Prod.mk.inj (Except.ok.inj hsealed)
  refine ⟨hlen, heven, key, call, hkey, hcall, hnonce, hpos, hid.2, (Option.some.inj h).symm.trans ?_⟩
  have hmagic : [0x4E, 0x58, 0x43, 0x41] = audioMagic := by decide
  rw [hmagic, ← Account.identity]
  simp [audioBytes, audioHeader]

/-- The client is in a call of this id that this peer has answered. -/
def Talks (s : Phone) (peerId callId : String) : Prop :=
  s.activeCall.any (fun c => c.isConnected && c.peerId == peerId && c.callId == callId) = true

instance (s : Phone) (peerId callId : String) : Decidable (Talks s peerId callId) := inferInstanceAs (Decidable (_ = _))

/-- The number is later than the last one of its stream, and there is room if the stream is new. -/
def Later (sequences : KeyedMap String Int) (stream : String) (seq : UInt64) : Prop :=
  (∀ last ∈ sequences.at? stream, last < signed seq) ∧
    (sequences.list.length < 4096 ∨ (sequences.at? stream).isSome = true)

instance (sequences : KeyedMap String Int) (stream : String) (seq : UInt64) : Decidable (Later sequences stream seq) :=
  inferInstanceAs (Decidable ((∀ last ∈ sequences.at? stream, last < signed seq) ∧
    (sequences.list.length < 4096 ∨ (sequences.at? stream).isSome = true)))

theorem opened_of_parts {s : Phone} {data peerKey plaintext : Bytes} {p : Parts}
    (hparts : partsOf P.localNodeIdHex data = some p)
    (hkey : s.getVerifiedPeerX25519Key P.K p.senderHex = some peerKey)
    (hopen : openCallAudio P.C P.seed peerKey p.ephemeralPublic p.nonce p.ciphertext (range data 4 20)
      (range data 24 20) (P.K.decodeText p.callBytes) p.seq p.sampleRate = .ok plaintext)
    (heven : plaintext.length % 2 = 0) :
    opened P s data = some (p, P.K.decodeText p.callBytes, plaintext) := by
  unfold opened
  simp only [hparts, hkey, Option.bind_eq_bind, Option.bind_some, hopen, heven, ne_eq, not_true, if_false]

/-- What the client does with a datagram that it opened. -/
theorem handleCallAudioDatagram_of_opened {s : Phone} {data plaintext : Bytes} {p : Parts} {callId : String}
    (h : opened P s data = some (p, callId, plaintext)) (endpoint : String) :
    handleCallAudioDatagram P s data endpoint =
      if Talks s p.senderHex callId then
        if Later s.lastCallAudioSequence (p.senderHex ++ ":" ++ callId) p.seq then
          ({ s.recordEndpoint P p.senderHex endpoint with
              lastCallAudioSequence :=
                s.lastCallAudioSequence.put (p.senderHex ++ ":" ++ callId) (signed p.seq) },
            some ⟨signed p.seq, p.sampleRate, plaintext⟩)
        else (s.recordEndpoint P p.senderHex endpoint, none)
      else (s, none) := by
  have hsequences : (s.recordEndpoint P p.senderHex endpoint).lastCallAudioSequence = s.lastCallAudioSequence := rfl
  unfold handleCallAudioDatagram
  rw [h]
  dsimp only
  rw [hsequences]
  by_cases htalks : Talks s p.senderHex callId
  swap
  · exact (if_pos htalks).trans (if_neg htalks).symm
  refine (if_neg (not_not.2 htalks)).trans (Eq.trans ?_ (if_pos htalks).symm)
  cases hlast : s.lastCallAudioSequence.at? (p.senderHex ++ ":" ++ callId) with
  | none =>
    by_cases hroom : s.lastCallAudioSequence.list.length < 4096
    · have hlater : Later s.lastCallAudioSequence (p.senderHex ++ ":" ++ callId) p.seq :=
        ⟨by simp [hlast], .inl hroom⟩
      rw [if_pos hlater]
      simp [hroom]
    · have hlater : ¬Later s.lastCallAudioSequence (p.senderHex ++ ":" ++ callId) p.seq := by
        rintro ⟨-, hroom' | hsome⟩
        · exact hroom hroom'
        · simp [hlast] at hsome
      rw [if_neg hlater]
      simp [Nat.le_of_not_lt hroom]
  | some last =>
    have hlater : Later s.lastCallAudioSequence (p.senderHex ++ ":" ++ callId) p.seq ↔ last < signed p.seq := by
      unfold Later
      simp [hlast]
    simp only [hlater, Option.any_some, decide_eq_true_eq, Option.isNone_some, Bool.false_eq_true, and_false, if_false]
    by_cases hle : signed p.seq ≤ last
    · rw [if_pos hle, if_neg (Int.not_lt.2 hle)]
    · rw [if_neg hle, if_pos (Int.not_le.1 hle)]

section Sample

open Messenger.Voice

theorem keyOfHex_hexString {K : Kotlin} (h : Packets.ReadsHex K) {key : Bytes} (hlen : key.length = 32) :
    Phone.keyOfHex K (hexString key) = some key := by
  have hcount : (2 * key.length + 2 - 1) / 2 = key.length := by omega
  have hread : (chunked 2 (hexString key).toList).mapM
      (fun d => (K.toInt16 (String.ofList d)).map UInt8.ofInt) = some key := by
    unfold chunked
    rw [length_hexString, hcount, Packets.pieces_hexString, Packets.mapM_digits h]
  unfold Phone.keyOfHex
  rw [utf16Length_hexString, if_pos (by omega), hread]

/-- Alice's phone. -/
def aliceAccount : Account :=
  { BobsPhone.account (fun _ => none) with C := crypto, seed := List.replicate 32 9, localNodeIdHex := alice.userIdHex }

/-- Bob, whose keys were verified. -/
def bobContact : NodeContact where
  userIdHex := bob.userIdHex
  ed25519PublicKeyHex := hexString bob.verifyingKey
  x25519PublicKeyHex := hexString bob.x25519Public
  isIdentityVerified := true

/-- Alice is in a call with Bob. -/
def inCall : Phone where
  contacts := [bobContact]
  activeCall := some { peerId := bob.userIdHex, callId := "call-1", isIncoming := true, isConnected := true }

theorem readsHex_aliceAccount : Packets.ReadsHex aliceAccount.K := Packets.readsHex_plain

theorem key_inCall :
    inCall.getVerifiedPeerX25519Key aliceAccount.K bob.userIdHex = some bob.x25519Public := by
  have hlen : bob.x25519Public.length = 32 := by
    rw [bob.x25519Public_eq]
    exact correct.xPublic_length _ wellSized_bob.x25519Secret
  have hsame : aliceAccount.K.sameIgnoringCase bobContact.userIdHex bob.userIdHex = true := beq_self_eq_true _
  have hcontact : inCall.contact? aliceAccount.K bob.userIdHex = some bobContact :=
    @List.find?_cons_of_pos _ (fun c : NodeContact => aliceAccount.K.sameIgnoringCase c.userIdHex bob.userIdHex)
      bobContact [] hsame
  have hverified : bobContact.isIdentityVerified = true := rfl
  have hhex : bobContact.x25519PublicKeyHex = hexString bob.x25519Public := rfl
  unfold Phone.getVerifiedPeerX25519Key
  rw [hcontact, Option.bind_some, if_pos hverified, hhex, keyOfHex_hexString readsHex_aliceAccount hlen]

theorem bob_ne_alice : bob.userId ≠ aliceAccount.identity.userId := by decide +kernel

end Sample

end CallAudio

end NodeX.Android
