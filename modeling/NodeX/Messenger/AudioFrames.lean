/-
A voice frame from one user to another: what `send_call_audio` lays down part after part, the
listening task finds with its cursor, and opens. The cursor never leaves the packet, whatever came.
-/
import NodeX.Core.Buffer
import NodeX.Core.JsonText
import NodeX.Messenger.SendingKeys

namespace NodeX.Messenger

open NodeX.Lib

/-! ## Reading with a cursor -/

/-- An access into a packet, which panics out of range. -/
def access {α : Type} (x : Option α) : Outcome α := x.elim .panic .ok

@[simp] theorem access_some {α : Type} (a : α) : access (some a) = .ok a := rfl

/-- A check of a reader. -/
theorem guard_bind {α : Type} (p : Prop) [Decidable p] (f : Unit → Option α) :
    (guard p >>= f) = if p then f () else none := by
  unfold guard
  split <;> rfl

section Reading

variable {C : Crypto} (J : PayloadJson) (me : UserIdentity C) (packet : Bytes)

/-- The listening task up to the keys; `none` is `continue`. -/
def readAudio : Outcome (Option AudioPacket) :=
  if packet.length < 120 then .ok none
  else
    (access (slice? packet 0 4)).bind fun magic =>
    if magic ≠ audioMagic then .ok none
    else
      (access (id? packet 4)).bind fun senderId =>
      (access (id? packet 24)).bind fun recipientId =>
      (access (u8? packet 44)).bind fun idByte =>
      let idLen := idByte.toNat
      let min := 45 + idLen + 8 + 4 + 12 + 32 + 2 + 16
      if idLen = 0 ∨ idLen > 128 ∨ packet.length < min then .ok none
      else
        let cursor := 45
        (access (slice? packet cursor idLen)).bind fun callBytes =>
        let cursor := cursor + idLen
        (access (u64? packet cursor)).bind fun seq =>
        let cursor := cursor + 8
        (access (u32? packet cursor)).bind fun rate =>
        let cursor := cursor + 4
        if audioRates rate.toNat = false ∨ recipientId.toHex ≠ me.userIdHex then .ok none
        else
          (access (slice? packet cursor 12)).bind fun nonce =>
          let cursor := cursor + 12
          (access (slice? packet cursor 32)).bind fun eph =>
          let cursor := cursor + 32
          (access (u16? packet cursor)).bind fun ctLen =>
          let cursor := cursor + 2
          if ctLen.toNat < 16 ∨ ctLen.toNat > 1100 ∨ packet.length ≠ cursor + ctLen.toNat then .ok none
          else
            (access (slice? packet cursor (packet.length - cursor))).bind fun ciphertext =>
            .ok (some ⟨senderId, recipientId, idByte, J.utf8Lossy callBytes, seq, rate, nonce, eph, ciphertext⟩)

/-- Every access is within the packet, and what is read is what the checks let pass for this user. -/
theorem readAudio_eq :
    readAudio J me packet = .ok ((audioPacket J packet).filter fun p => p.recipientId = me.userId) := by
  unfold readAudio audioPacket
  simp only [guard_bind]
  by_cases hlen : packet.length < 120
  · rw [if_pos hlen, if_neg fun h => absurd h.1 (by omega)]
    rfl
  have hlen := Nat.le_of_not_lt hlen
  rw [if_neg (Nat.not_lt.2 hlen), slice?_of_le (show 0 + 4 ≤ packet.length by omega), List.drop_zero, access_some,
    Outcome.bind]
  by_cases hmagic : packet.take 4 = audioMagic
  swap
  · rw [if_pos hmagic, if_neg fun h => hmagic h.2]
    rfl
  rw [if_neg (not_not.2 hmagic), if_pos ⟨hlen, hmagic⟩]
  obtain ⟨senderId, hsender⟩ := exists_id? (show 4 + 20 ≤ packet.length by omega)
  obtain ⟨recipientId, hrecipient⟩ := exists_id? (show 24 + 20 ≤ packet.length by omega)
  obtain ⟨idByte, hid⟩ := exists_u8? (show 44 + 1 ≤ packet.length by omega)
  simp only [hsender, hrecipient, hid, access_some, Outcome.bind, Option.bind_eq_bind, Option.bind_some]
  by_cases hbounds : idByte.toNat = 0 ∨ idByte.toNat > 128 ∨
      packet.length < 45 + idByte.toNat + 8 + 4 + 12 + 32 + 2 + 16
  · rw [if_pos hbounds, if_neg (by omega)]
    rfl
  rw [if_neg hbounds, if_pos (by omega)]
  obtain ⟨seq, hseq⟩ := exists_u64? (show 45 + idByte.toNat + 8 ≤ packet.length by omega)
  obtain ⟨rate, hrate⟩ := exists_u32? (show 53 + idByte.toNat + 4 ≤ packet.length by omega)
  obtain ⟨ctLen, hct⟩ := exists_u16? (show 101 + idByte.toNat + 2 ≤ packet.length by omega)
  -- the cursor after each part
  have h53 : 45 + idByte.toNat + 8 = 53 + idByte.toNat := by omega
  have h57 : 53 + idByte.toNat + 4 = 57 + idByte.toNat := by omega
  have h69 : 57 + idByte.toNat + 12 = 69 + idByte.toNat := by omega
  have h101 : 69 + idByte.toNat + 32 = 101 + idByte.toNat := by omega
  have h103 : 101 + idByte.toNat + 2 = 103 + idByte.toNat := by omega
  simp only [h53, h57, h69, h101, h103, hseq, hrate, hct,
    slice?_of_le (show 45 + idByte.toNat ≤ packet.length by omega),
    slice?_of_le (show 57 + idByte.toNat + 12 ≤ packet.length by omega),
    slice?_of_le (show 69 + idByte.toNat + 32 ≤ packet.length by omega), access_some, Option.bind_some]
  by_cases hrates : audioRates rate.toNat = true
  swap
  · rw [if_pos (.inl (by simpa using hrates)), if_neg hrates]
    rfl
  rw [if_pos hrates]
  by_cases hme : recipientId = me.userId
  swap
  · have hhex : recipientId.toHex ≠ me.userIdHex := fun h => hme (NodeId.toHex_inj.1 h)
    rw [if_pos (.inr hhex)]
    split
    · rw [Option.filter_some, if_neg (by simpa using hme)]
    · rfl
  have hhex : recipientId.toHex = me.userIdHex := congrArg NodeId.toHex hme
  rw [if_neg (by simp [hrates, hhex])]
  by_cases hend : ctLen.toNat < 16 ∨ ctLen.toNat > 1100 ∨ packet.length ≠ 103 + idByte.toNat + ctLen.toNat
  · rw [if_pos hend, if_neg (by omega)]
    rfl
  · have htail : (packet.drop (103 + idByte.toNat)).length = packet.length - (103 + idByte.toNat) := List.length_drop
    rw [if_neg hend, if_pos (by omega), slice?_of_le (by omega), access_some, Option.filter_some,
      if_pos (by simpa using hme), List.take_of_length_le htail.le]

end Reading

/-! ## Samples -/

theorem length_pcmBytes (samples : List UInt16) : (pcmBytes samples).length = 2 * samples.length := by
  unfold pcmBytes
  induction samples with
  | nil => rfl
  | cons s samples ih =>
    rw [List.flatMap_cons, List.length_append, ih, List.length_cons]
    simp only [List.length_cons, List.length_nil]
    omega

theorem sample_of_bytes (s : UInt16) : s.toUInt8.toUInt16 + (s >>> 8).toUInt8.toUInt16 * 256 = s := by
  apply UInt16.toNat_inj.1
  have hs := s.toNat_lt
  simp [Nat.shiftRight_eq_div_pow]
  omega

theorem pcmSamples_pcmBytes : ∀ samples : List UInt16, pcmSamples (pcmBytes samples) = samples
  | [] => rfl
  | s :: samples => by
    unfold pcmBytes
    rw [List.flatMap_cons, List.cons_append, List.cons_append, List.nil_append, pcmSamples, sample_of_bytes]
    exact congrArg (s :: ·) (pcmSamples_pcmBytes samples)

/-! ## What is laid down is found -/

variable {C : Crypto} {J : PayloadJson}

/-- The parts of a frame, one after the other. -/
def audioBytes (senderId recipientId : NodeId) (callId : String) (seq : UInt64) (rate : UInt32)
    (nonce eph ciphertext : Bytes) : Bytes :=
  audioMagic ++ (senderId.bytes ++ recipientId.bytes) ++
    audioHeader (UInt8.ofNat (utf8 callId).length) (utf8 callId) seq rate ++ nonce ++ eph ++
    toBe 2 ciphertext.length ++ ciphertext

section

variable (senderId recipientId : NodeId) {callId : String} (seq : UInt64) {rate : UInt32} {nonce eph ciphertext : Bytes}

theorem length_audioBytes (hnonce : nonce.length = 12) (heph : eph.length = 32) :
    (audioBytes senderId recipientId callId seq rate nonce eph ciphertext).length =
      103 + (utf8 callId).length + ciphertext.length := by
  simp only [audioBytes, audioHeader, audioMagic, List.length_append, List.length_cons, length_toBe, senderId.size,
    recipientId.size, hnonce, heph]
  have hmagic : (utf8 "NXCA").length = 4 := by decide
  omega

/-- A frame within the limits passes every check of the reader. -/
theorem audioPacket_audioBytes (hlossy : J.utf8Lossy (utf8 callId) = callId) (hpos : 0 < (utf8 callId).length)
    (hid : (utf8 callId).length ≤ 128) (hrate : audioRates rate.toNat = true) (hnonce : nonce.length = 12)
    (heph : eph.length = 32) (htag : 16 ≤ ciphertext.length) (hct : ciphertext.length ≤ 1100) :
    audioPacket J (audioBytes senderId recipientId callId seq rate nonce eph ciphertext) =
      some ⟨senderId, recipientId, UInt8.ofNat (utf8 callId).length, callId, seq, rate, nonce, eph, ciphertext⟩ := by
  have hlen : (audioBytes senderId recipientId callId seq rate nonce eph ciphertext).length = _ :=
    length_audioBytes senderId recipientId seq hnonce heph
  have hparts : audioBytes senderId recipientId callId seq rate nonce eph ciphertext =
      audioMagic ++ (senderId.bytes ++ (recipientId.bytes ++ ([UInt8.ofNat (utf8 callId).length] ++ (utf8 callId ++
        (toBe 8 seq.toNat ++ (toBe 4 rate.toNat ++ (nonce ++ (eph ++
          (toBe 2 ciphertext.length ++ ciphertext))))))))) := by
    simp [audioBytes, audioHeader]
  have hat := at_zero_self (audioBytes senderId recipientId callId seq rate nonce eph ciphertext)
  generalize audioBytes senderId recipientId callId seq rate nonce eph ciphertext = packet at hlen hparts hat ⊢
  have hmagic : audioMagic.length = 4 := by decide
  nth_rewrite 2 [hparts] at hat
  simp only [at_append, List.length_singleton, length_toBe, hmagic, senderId.size, recipientId.size, hnonce, heph,
    Nat.reduceAdd] at hat
  obtain ⟨hm, hsender, hrecipient, hidAt, hcall, hseq, hrateAt, hnonceAt, hephAt, hlenAt, hctAt⟩ := hat
  have hidByte : (UInt8.ofNat (utf8 callId).length).toNat = (utf8 callId).length := by
    rw [UInt8.toNat_ofNat']
    omega
  have hctLen : (UInt16.ofNat ciphertext.length).toNat = ciphertext.length := by
    rw [UInt16.toNat_ofNat']
    omega
  rw [← hctLen] at hlenAt
  have htail : packet.drop (103 + (utf8 callId).length) = ciphertext := by
    have hcursor : 45 + (utf8 callId).length + 8 + 4 + 12 + 32 + 2 = 103 + (utf8 callId).length := by omega
    rw [hcursor] at hctAt
    rw [← List.take_of_length_le (l := packet.drop _) (i := ciphertext.length) (by
      rw [List.length_drop]
      omega)]
    exact hctAt.2
  have h53 : 45 + (utf8 callId).length + 8 = 53 + (utf8 callId).length := by omega
  have h57 : 53 + (utf8 callId).length + 4 = 57 + (utf8 callId).length := by omega
  have h69 : 57 + (utf8 callId).length + 12 = 69 + (utf8 callId).length := by omega
  have h101 : 69 + (utf8 callId).length + 32 = 101 + (utf8 callId).length := by omega
  rw [h53] at hrateAt hnonceAt hephAt hlenAt
  rw [h57] at hnonceAt hephAt hlenAt
  rw [h69] at hephAt hlenAt
  rw [h101] at hlenAt
  unfold audioPacket
  simp only [guard_bind, id?_eq_some.2 hsender, id?_eq_some.2 hrecipient, u8?_eq_some.2 hidAt, hidByte,
    slice?_eq_some_iff_at.2 ⟨rfl, hcall⟩, u64?_eq_some.2 hseq, u32?_eq_some.2 hrateAt,
    slice?_eq_some_iff_at.2 ⟨hnonce, hnonceAt⟩, slice?_eq_some_iff_at.2 ⟨heph, hephAt⟩, u16?_eq_some.2 hlenAt, hctLen,
    Option.bind_eq_bind, Option.bind_some, hlossy, htail]
  rw [if_pos ⟨by omega, hm.2⟩, if_pos (by omega), if_pos hrate, if_pos (by omega)]

end

/-! ## From one user to another -/

/-- What `send_call_audio` seals a frame's samples to. -/
def audioCiphertext (me : UserIdentity C) (recipientId : NodeId) (key : Bytes) (callId : String)
    (samples : List UInt16) (rate : UInt32) (seq : UInt64) (nonce ephSeed : Bytes) : Bytes :=
  C.aeadEncrypt (audioKey C nonce (C.dh ephSeed key) (C.dh me.x25519Secret key)) nonce
    (audioAad (me.userId.bytes ++ recipientId.bytes)
      (audioHeader (UInt8.ofNat (utf8 callId).length) (utf8 callId) seq rate)) (pcmBytes samples)

section Sent

variable {T : PresenceText} {me : UserIdentity C} {db : MessengerDb} {routing : Option (List Kad.Contact)}
  {recipientIdHex callId : String} {samples : List UInt16} {rate : UInt32} {seq : UInt64} {nonce ephSeed : Bytes}

/-- A frame that is sent is within the limits, and sealed to the key of a saved contact. -/
theorem callAudioFrame_eq_ok {addr : SocketAddr} {packet : Bytes}
    (h : callAudioFrame T me db routing recipientIdHex callId samples rate seq nonce ephSeed = .ok (addr, packet)) :
    (pcmBytes samples).length ≤ 900 ∧ 0 < (utf8 callId).length ∧ (utf8 callId).length ≤ 128 ∧
      audioRates rate.toNat = true ∧ ∃ recipientId c key, NodeId.fromHex recipientIdHex = .ok recipientId ∧
        db.contacts.lookup recipientIdHex = some c ∧ hexDecode c.x25519PubHex = .ok (some key) ∧
          packet = audioBytes me.userId recipientId callId seq rate nonce (C.xPublic ephSeed)
            (audioCiphertext me recipientId key callId samples rate seq nonce ephSeed) := by
  unfold callAudioFrame at h
  dsimp only at h
  split at h
  · cases h
  rename_i hframe
  simp only [Bool.or_eq_true, decide_eq_true_eq, List.isEmpty_iff, Bool.not_eq_true', not_or, not_lt,
    Bool.not_eq_false] at hframe
  obtain ⟨recipientId, hid, h⟩ := Outcome.bind_eq_ok.1 h
  cases hc : db.contacts.lookup recipientIdHex with
  | none =>
    rw [hc] at h
    cases h
  | some c =>
    rw [hc] at h
    obtain ⟨key, hkey, h⟩ := Outcome.bind_eq_ok.1 h
    cases key with
    | none => cases h
    | some key =>
      dsimp only at h
      split at h
      · cases h
      split at h
      · cases h
      rename_i hlong
      split at h
      · cases h
      obtain ⟨-, rfl⟩ := Prod.mk.inj (Outcome.ok.inj h)
      exact ⟨hframe.1.1, List.length_pos_of_ne_nil hframe.1.2, Nat.le_of_not_lt hlong, hframe.2, recipientId, c, key,
        Outcome.mapErr_eq_ok.1 hid, rfl, Outcome.mapErr_eq_ok.1 hkey, rfl⟩

/-- A frame within the limits for a contact with a key and an address goes out. -/
theorem callAudioFrame_of_key {recipientId : NodeId} {c : SavedContact} {key : Bytes} {addr : SocketAddr}
    (hpcm : (pcmBytes samples).length ≤ 900) (hpos : 0 < (utf8 callId).length) (hid : (utf8 callId).length ≤ 128)
    (hrate : audioRates rate.toNat = true) (hr : NodeId.fromHex recipientIdHex = .ok recipientId)
    (hc : db.contacts.lookup recipientIdHex = some c) (hkey : hexDecode c.x25519PubHex = .ok (some key))
    (hlen : key.length = 32) (haddr : T.parseAddr c.lastSeenAddr = some addr) :
    callAudioFrame T me db routing recipientIdHex callId samples rate seq nonce ephSeed =
      .ok (addr, audioBytes me.userId recipientId callId seq rate nonce (C.xPublic ephSeed)
        (audioCiphertext me recipientId key callId samples rate seq nonce ephSeed)) := by
  have hne : (utf8 callId).isEmpty = false := by
    rw [List.isEmpty_eq_false_iff]
    exact List.ne_nil_of_length_pos hpos
  unfold callAudioFrame
  dsimp only
  rw [if_neg (by simp [hne, hrate, hpcm]), hr, hc]
  dsimp only [Outcome.mapErr, Outcome.bind]
  rw [hkey]
  dsimp only
  rw [if_neg (not_not.2 hlen), if_neg (Nat.not_lt.2 hid), haddr]
  rfl

end Sent

/-- The recipient agrees on the key with the sender, in both directions of a contact. -/
theorem openAudio_audioCiphertext (hC : C.Correct) {alice bob : UserIdentity C} (halice : alice.WellSized)
    (hbob : bob.WellSized) {contacts : Finmap fun _ : String => SavedContact} {c : SavedContact}
    (hcontact : contacts.lookup alice.userIdHex = some c)
    (hkey : hexDecode c.x25519PubHex = .ok (some alice.x25519Public)) (callId : String) (samples : List UInt16)
    (rate : UInt32) (seq : UInt64) {nonce ephSeed : Bytes} (hnonce : nonce.length = 12) (heph : ephSeed.length = 32) :
    openAudio bob contacts ⟨alice.userId, bob.userId, UInt8.ofNat (utf8 callId).length, callId, seq, rate, nonce,
      C.xPublic ephSeed, audioCiphertext alice bob.userId bob.x25519Public callId samples rate seq nonce ephSeed⟩ =
        some (pcmBytes samples) := by
  have hlen : alice.x25519Public.length = 32 := by
    rw [alice.x25519Public_eq]
    exact hC.xPublic_length _ halice.x25519Secret
  have hephemeral : C.dh bob.x25519Secret (C.xPublic ephSeed) = C.dh ephSeed bob.x25519Public := by
    rw [bob.x25519Public_eq]
    exact hC.dh_comm _ _ hbob.x25519Secret heph
  have hstatic : C.dh bob.x25519Secret alice.x25519Public = C.dh alice.x25519Secret bob.x25519Public := by
    rw [alice.x25519Public_eq, bob.x25519Public_eq]
    exact hC.dh_comm _ _ hbob.x25519Secret halice.x25519Secret
  unfold openAudio
  rw [if_neg (not_not.2 rfl)]
  dsimp only
  rw [show contacts.lookup alice.userId.toHex = some c from hcontact]
  dsimp only
  rw [hkey]
  dsimp only
  rw [if_neg (not_not.2 hlen), hephemeral, hstatic]
  exact hC.aeadDecrypt_aeadEncrypt _ _ _ _ (hC.hkdf_length _ _ _) hnonce

/-! ## The sequence numbers -/

/-- The key of a stream in `audio_sequences`. -/
def streamKey (senderId : NodeId) (callId : String) : String := senderId.toHex ++ ":" ++ callId

/-- The number is later than the last one of its stream, and there is room if the stream is new. -/
def AudioSequences.Accepts (sequences : AudioSequences) (key : String) (seq : UInt64) : Prop :=
  (∀ last ∈ sequences.get? key, last.2 < seq) ∧
    (sequences.list.length < maxAudioStreams ∨ (sequences.get? key).isSome = true)

instance (sequences : AudioSequences) (key : String) (seq : UInt64) : Decidable (sequences.Accepts key seq) :=
  inferInstanceAs (Decidable ((∀ last ∈ sequences.get? key, last.2 < seq) ∧
    (sequences.list.length < maxAudioStreams ∨ (sequences.get? key).isSome = true)))

theorem any_not_later {last : Option (String × UInt64)} {seq : UInt64} :
    (last.any fun last => seq ≤ last.2) = true ↔ ¬∀ x ∈ last, x.2 < seq := by
  cases last <;> simp

theorem full_without {n : ℕ} {last : Option (String × UInt64)} :
    (n ≥ maxAudioStreams && last.isNone) = true ↔ ¬(n < maxAudioStreams ∨ last.isSome = true) := by
  cases last <;> simp

/-- Two early exits with one result. -/
theorem ite_of_checks {α : Type} {p q : Prop} [Decidable (¬p)] [Decidable (¬q)] [Decidable (p ∧ q)] (x y : α) :
    (if ¬p then y else if ¬q then y else x) = if p ∧ q then x else y := by
  by_cases hp : p
  · by_cases hq : q
    · rw [if_neg (not_not.2 hp), if_neg (not_not.2 hq), if_pos ⟨hp, hq⟩]
    · rw [if_neg (not_not.2 hp), if_pos hq, if_neg fun h => hq h.2]
  · rw [if_pos hp, if_neg fun h => hp h.1]

/-- What the task does with an authentic packet. -/
theorem receiveAudio_of_open {me : UserIdentity C} {contacts : Finmap fun _ : String => SavedContact}
    {packet plain : Bytes} {p : AudioPacket} (hp : audioPacket J packet = some p)
    (hopen : openAudio me contacts p = some plain) (sequences : AudioSequences) :
    receiveAudio J me contacts sequences packet =
      if sequences.Accepts (streamKey p.senderId p.callId) p.seq then
        (sequences.upsert (streamKey p.senderId p.callId, p.seq),
          if plain.length % 2 ≠ 0 then none
          else some ⟨p.senderId.toHex, p.callId, p.seq, p.rate, pcmSamples plain⟩)
      else (sequences, none) := by
  unfold receiveAudio AudioSequences.Accepts
  rw [hp]
  dsimp only
  rw [hopen]
  dsimp only
  rw [← streamKey]
  simp only [any_not_later, full_without]
  exact ite_of_checks _ _

/-- ChaCha20-Poly1305 adds a tag of sixteen bytes, whatever is bound to it. -/
def Tagged (C : Crypto) : Prop :=
  ∀ key nonce ad plaintext : Bytes, key.length = 32 → nonce.length = 12 →
    (C.aeadEncrypt key nonce ad plaintext).length = plaintext.length + 16

/-- Every frame that `send_call_audio` builds for a user, sealed to the key of that user, passes
every check of the user's listening task, whose contact has the sender's key; what it finds is the
sender, the call, the number, the rate and the samples; and it reports them if the number is later
than the last of the stream. No datagram makes the task reach out of the packet. -/
theorem receiveAudio_callAudioFrame (hC : C.Correct) (htag : Tagged C) (hlossy : ∀ s, J.utf8Lossy (utf8 s) = s)
    {alice bob : UserIdentity C} (halice : alice.WellSized) (hbob : bob.WellSized) {T : PresenceText}
    {db : MessengerDb} {routing : Option (List Kad.Contact)} {recipientIdHex callId : String} {samples : List UInt16}
    {rate : UInt32} {seq : UInt64} {nonce ephSeed : Bytes} {addr : SocketAddr} {packet : Bytes}
    (hnonce : nonce.length = 12) (heph : ephSeed.length = 32)
    (hsent : callAudioFrame T alice db routing recipientIdHex callId samples rate seq nonce ephSeed =
      .ok (addr, packet))
    (hrecipient : NodeId.fromHex recipientIdHex = .ok bob.userId)
    (hto : ∀ c ∈ db.contacts.lookup recipientIdHex, hexDecode c.x25519PubHex = .ok (some bob.x25519Public))
    {contacts : Finmap fun _ : String => SavedContact}
    (hfrom : ∃ c, contacts.lookup alice.userIdHex = some c ∧ hexDecode c.x25519PubHex = .ok (some alice.x25519Public)) :
    (∃ p, readAudio J bob packet = .ok (some p) ∧ p.senderId = alice.userId ∧ p.callId = callId ∧ p.seq = seq ∧
        p.rate = rate ∧ (openAudio bob contacts p).map pcmSamples = some samples) ∧
      (∀ sequences, receiveAudio J bob contacts sequences packet =
        if sequences.Accepts (streamKey alice.userId callId) seq then
          (sequences.upsert (streamKey alice.userId callId, seq), some ⟨alice.userIdHex, callId, seq, rate, samples⟩)
        else (sequences, none)) ∧
      ∀ datagram, readAudio J bob datagram ≠ .panic := by
  obtain ⟨hpcm, hpos, hid, hrate, recipientId, c, key, hr, hc, hkey, rfl⟩ := callAudioFrame_eq_ok hsent
  obtain rfl : recipientId = bob.userId := Outcome.ok.inj (hr.symm.trans hrecipient)
  obtain rfl : key = bob.x25519Public := Option.some.inj (Outcome.ok.inj (hkey.symm.trans (hto c hc)))
  obtain ⟨contact, hcontact, hsenderKey⟩ := hfrom
  have hephLen : (C.xPublic ephSeed).length = 32 := hC.xPublic_length _ heph
  have hctLen : (audioCiphertext alice bob.userId bob.x25519Public callId samples rate seq nonce ephSeed).length =
      (pcmBytes samples).length + 16 := htag _ _ _ _ (hC.hkdf_length _ _ _) hnonce
  have hp := audioPacket_audioBytes (J := J) alice.userId bob.userId seq (hlossy callId) hpos hid hrate hnonce hephLen
    (hctLen.symm ▸ Nat.le_add_left _ _) (by rw [hctLen]; omega)
  have hopen := openAudio_audioCiphertext hC halice hbob hcontact hsenderKey callId samples rate seq hnonce heph
  have hread := readAudio_eq J bob (audioBytes alice.userId bob.userId callId seq rate nonce (C.xPublic ephSeed)
    (audioCiphertext alice bob.userId bob.x25519Public callId samples rate seq nonce ephSeed))
  rw [hp, Option.filter_some, if_pos (decide_eq_true rfl)] at hread
  refine ⟨⟨_, hread, rfl, rfl, rfl, rfl, ?_⟩, fun sequences => ?_, fun datagram => ?_⟩
  · rw [hopen, Option.map_some, pcmSamples_pcmBytes]
  · have heven : ¬(pcmBytes samples).length % 2 ≠ 0 := by
      rw [length_pcmBytes]
      omega
    rw [receiveAudio_of_open hp hopen, pcmSamples_pcmBytes]
    simp only [if_neg heven]
    rfl
  · rw [readAudio_eq]
    exact fun h => by cases h

/-! ## Users who call each other -/

namespace Voice

/-- The primitives with a tag of sixteen bytes over the key, the nonce, what is bound and the plaintext. -/
def crypto : Crypto where
  __ := Crypto.transparent
  aeadEncrypt key nonce ad pt := mixBytes 16 (key ++ nonce ++ ad ++ pt) ++ pt
  aeadDecrypt key nonce ad ct :=
    if ct.take 16 = mixBytes 16 (key ++ nonce ++ ad ++ ct.drop 16) then some (ct.drop 16) else none

theorem tagged : Tagged crypto := by
  intro key nonce ad plaintext _ _
  show (mixBytes 16 _ ++ plaintext).length = plaintext.length + 16
  rw [List.length_append, mixBytes, leBytes_length, Nat.add_comm]

theorem correct : crypto.Correct where
  hkdf_length := Crypto.transparent_correct.hkdf_length
  edPublic_length := Crypto.transparent_correct.edPublic_length
  edPublic_valid := Crypto.transparent_correct.edPublic_valid
  edSign_length := Crypto.transparent_correct.edSign_length
  edVerify_edSign := Crypto.transparent_correct.edVerify_edSign
  xPublic_length := Crypto.transparent_correct.xPublic_length
  dh_comm := Crypto.transparent_correct.dh_comm
  aeadDecrypt_aeadEncrypt key nonce ad pt _ _ := by
    have hlen : (mixBytes 16 (key ++ nonce ++ ad ++ pt)).length = 16 := leBytes_length 16 _
    show (if (mixBytes 16 (key ++ nonce ++ ad ++ pt) ++ pt).take 16 = mixBytes 16 (key ++ nonce ++ ad ++
      (mixBytes 16 (key ++ nonce ++ ad ++ pt) ++ pt).drop 16) then
        some ((mixBytes 16 (key ++ nonce ++ ad ++ pt) ++ pt).drop 16) else none) = some pt
    rw [List.take_left' hlen, List.drop_left' hlen, if_pos rfl]

def alice : UserIdentity crypto := .fromSeed crypto (List.replicate 32 9)

def bob : UserIdentity crypto := .fromSeed crypto (List.replicate 32 5)

def mallory : UserIdentity crypto := .fromSeed crypto (List.replicate 32 7)

theorem wellSized_alice : alice.WellSized := UserIdentity.wellSized_fromSeed correct _

theorem wellSized_bob : bob.WellSized := UserIdentity.wellSized_fromSeed correct _

theorem wellSized_mallory : mallory.WellSized := UserIdentity.wellSized_fromSeed correct _

/-- The record of a user with the key they have. -/
def contactOf (user : UserIdentity crypto) : SavedContact :=
  { userIdHex := user.userIdHex, name := "", bio := "", ed25519PubHex := hexString user.verifyingKey
    x25519PubHex := hexString user.x25519Public, lastSeenAddr := "203.0.113.9:9000" }

theorem key_contactOf {user : UserIdentity crypto} (h : user.WellSized) :
    hexDecode (contactOf user).x25519PubHex = .ok (some user.x25519Public) := by
  refine hexDecode_hexString (List.ne_nil_of_length_eq_add_one (n := 31) ?_)
  rw [user.x25519Public_eq]
  exact correct.xPublic_length _ h.x25519Secret

/-- JSON is not looked at, and bytes are read as the text they are of. -/
def json : PayloadJson := { Talk.json [] with utf8Lossy := fun bs => (NodeX.Json.readUtf8 bs).getD "" }

theorem utf8Lossy_json (s : String) : json.utf8Lossy (utf8 s) = s := by
  show (NodeX.Json.readUtf8 (utf8 s)).getD "" = s
  rw [NodeX.Json.readUtf8_utf8]
  rfl

end Voice

open Voice in
/-- Alice calls Bob; each has the other as a contact. -/
theorem receiveAudio_callAudioFrame_alice :
    ∃ addr packet, callAudioFrame Talk.presenceText alice { contacts := .singleton bob.userIdHex (contactOf bob) } none
      bob.userIdHex "call-1" [1, 65535] 16000 7 (List.replicate 12 3) (List.replicate 32 4) = .ok (addr, packet) ∧
        (receiveAudio json bob (.singleton alice.userIdHex (contactOf alice)) ∅ packet).2 =
          some ⟨alice.userIdHex, "call-1", 7, 16000, [1, 65535]⟩ := by
  have hkey : bob.x25519Public.length = 32 := by
    rw [bob.x25519Public_eq]
    exact correct.xPublic_length _ wellSized_bob.x25519Secret
  have hsent : callAudioFrame Talk.presenceText alice { contacts := .singleton bob.userIdHex (contactOf bob) } none
      bob.userIdHex "call-1" [1, 65535] 16000 7 (List.replicate 12 3) (List.replicate 32 4) =
        .ok (ForeignCard.addr, _) :=
    callAudioFrame_of_key (by decide) (by decide) (by decide) (by decide) (NodeId.fromHex_toHex bob.userId)
      Finmap.lookup_singleton_eq (key_contactOf wellSized_bob) hkey rfl
  refine ⟨_, _, hsent, ?_⟩
  have hto : ∀ c ∈
      ({ contacts := .singleton bob.userIdHex (contactOf bob) } : MessengerDb).contacts.lookup bob.userIdHex,
      hexDecode c.x25519PubHex = .ok (some bob.x25519Public) := by
    intro c hc
    rw [Finmap.lookup_singleton_eq] at hc
    obtain rfl := Option.some.inj hc
    exact key_contactOf wellSized_bob
  have hall := receiveAudio_callAudioFrame correct tagged utf8Lossy_json wellSized_alice wellSized_bob
    List.length_replicate List.length_replicate hsent (NodeId.fromHex_toHex bob.userId) hto
    ⟨_, Finmap.lookup_singleton_eq, key_contactOf wellSized_alice⟩
  rw [hall.2.1 ∅, if_pos ⟨by simp, .inl (by decide)⟩]

end NodeX.Messenger
