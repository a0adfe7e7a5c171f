/-
The keys that the Android client holds over any run. Whoever sends what, and however it reaches the client, a contact
that is verified under the id of a key carries that key and the encryption key its owner signed with it.
-/
import NodeX.Android.Keys
import NodeX.Android.Slots

namespace NodeX.Android

open NodeX.Lib Messenger AndroidMessageCrypto Kad.P2PTransportEngine

namespace Keys

/-! ## What leaves the keys alone -/

/-- Who is verified was verified before, with the keys it has. -/
structure KeepsKeys (s t : Phone) : Prop where
  contacts : ∀ c ∈ t.contacts, c.isIdentityVerified = true → ∃ c' ∈ s.contacts, c'.isIdentityVerified = true ∧
    c'.userIdHex = c.userIdHex ∧ c'.ed25519PublicKeyHex = c.ed25519PublicKeyHex ∧
      c'.x25519PublicKeyHex = c.x25519PublicKeyHex
  verifiedContactKeys : t.verifiedContactKeys = s.verifiedContactKeys

theorem KeepsKeys.refl (s : Phone) : KeepsKeys s s := ⟨fun c hc hv => ⟨c, hc, hv, rfl, rfl, rfl⟩, rfl⟩

theorem KeepsKeys.trans {s t u : Phone} (h : KeepsKeys s t) (h' : KeepsKeys t u) : KeepsKeys s u := by
  refine ⟨?_, h'.verifiedContactKeys.trans h.verifiedContactKeys⟩
  intro c hc hv
  obtain ⟨c', hc', hv', hid', hed', hx'⟩ := h'.contacts c hc hv
  obtain ⟨c'', hc'', hv'', hid'', hed'', hx''⟩ := h.contacts c' hc' hv'
  exact ⟨c'', hc'', hv'', hid''.trans hid', hed''.trans hed', hx''.trans hx'⟩

theorem KeepsKeys.after {s t u : Phone} (h' : KeepsKeys t u) (h : KeepsKeys s t) : KeepsKeys s u := h.trans h'

theorem KeepsKeys.of_eq {s t : Phone} (hcontacts : t.contacts = s.contacts)
    (hkeys : t.verifiedContactKeys = s.verifiedContactKeys) : KeepsKeys s t := by
  refine ⟨?_, hkeys⟩
  rw [hcontacts]
  exact (KeepsKeys.refl s).contacts

section Repository

variable (O : OrgJson) (K : Kotlin) (me : String) (s : Phone)

theorem keepsKeys_updateContactEndpoint (peerId endpoint : String) :
    KeepsKeys s (s.updateContactEndpoint K peerId endpoint) := by
  refine ⟨?_, rfl⟩
  intro c hc hv
  obtain ⟨c', hc', rfl⟩ := List.mem_map.1 hc
  refine ⟨c', hc', ?_⟩
  split at hv
  · exact ⟨hv, by split <;> rfl, by split <;> rfl, by split <;> rfl⟩
  · exact ⟨hv, by split <;> rfl, by split <;> rfl, by split <;> rfl⟩

theorem keepsKeys_touchContact (lookup id : String) : KeepsKeys s (s.touchContact K lookup id) := by
  have hupdated : ((s.contact? K lookup).getD { userIdHex := id }).isIdentityVerified = true →
      (s.contact? K lookup).getD { userIdHex := id } ∈ s.contacts := by
    intro hv
    cases hfound : s.contact? K lookup with
    | none =>
      rw [hfound] at hv
      cases hv
    | some c =>
      unfold Phone.contact? at hfound
      exact List.mem_of_find?_eq_some hfound
  refine ⟨?_, rfl⟩
  intro c hc hv
  have hmem : c ∈ s.contacts := by
    unfold Phone.touchContact at hc
    dsimp only at hc
    split at hc
    · rename_i first rest hrest
      have hold : ∀ c ∈ first :: rest, c ∈ s.contacts := by
        rw [← hrest]
        intro c hc
        split at hc
        · exact List.mem_of_mem_eraseIdx hc
        · exact hc
      split at hc
      · rcases List.mem_cons.1 hc with rfl | hc
        · exact hold _ List.mem_cons_self
        rcases List.mem_cons.1 hc with rfl | hc
        · exact hupdated hv
        · exact hold _ (List.mem_cons_of_mem _ hc)
      · rcases List.mem_cons.1 hc with rfl | hc
        · exact hupdated hv
        · exact hold _ hc
    · rw [List.mem_singleton.1 hc] at hv ⊢
      exact hupdated hv
  exact ⟨c, hmem, hv, rfl, rfl, rfl⟩

theorem keepsKeys_addContact (id : String) : KeepsKeys s (s.addContact O K id) := by
  unfold Phone.addContact
  dsimp only
  split_ifs
  · exact .refl s
  · exact .refl s
  · refine ⟨?_, rfl⟩
    intro c hc hv
    rcases List.mem_cons.1 hc with rfl | hc
    · cases hv
    · exact ⟨c, hc, hv, rfl, rfl, rfl⟩

theorem keepsKeys_receiveIncomingMessage (m : ChatMessage) (saves : Bool) :
    KeepsKeys s (s.receiveIncomingMessage K me m saves).1 := by
  unfold Phone.receiveIncomingMessage
  dsimp only
  split_ifs
  · exact .refl s
  · exact .refl s
  · exact .refl s
  · exact keepsKeys_touchContact K s _ _
  · exact (keepsKeys_touchContact K s _ _).trans (.of_eq rfl rfl)

theorem keepsKeys_markMessageDelivered (peerId messageId : String) (saves : Bool) :
    KeepsKeys s (s.markMessageDelivered K peerId messageId saves) := by
  unfold Phone.markMessageDelivered
  split
  · exact .refl s
  · dsimp only
    split_ifs
    · exact .refl s
    · exact .of_eq rfl rfl

theorem keepsKeys_completeIncomingAttachment (peerId messageId localPath : String) (saves : Bool) :
    KeepsKeys s (s.completeIncomingAttachment peerId messageId localPath saves) := by
  unfold Phone.completeIncomingAttachment
  split
  · exact .refl s
  · exact .of_eq rfl rfl

theorem keepsKeys_addCallHistoryMessage (peerId text : String) (isIncoming : Bool) (x : Surroundings) :
    KeepsKeys s (s.addCallHistoryMessage K me peerId text isIncoming x) := by
  unfold Phone.addCallHistoryMessage
  dsimp only
  split
  · exact .refl s
  split
  · exact .refl s
  · exact (keepsKeys_touchContact K _ _ _).after (.of_eq rfl rfl)

theorem keepsKeys_onCallAnswered (peerId : String) : KeepsKeys s (s.onCallAnswered K peerId) := by
  unfold Phone.onCallAnswered
  split
  · exact .refl s
  · split_ifs
    · exact .refl s
    · exact .of_eq rfl rfl
    · exact .refl s

theorem keepsKeys_endCallFromRemote (x : Surroundings) : KeepsKeys s (s.endCallFromRemote K me x) := by
  unfold Phone.endCallFromRemote
  cases s.activeCall with
  | none => exact .of_eq rfl rfl
  | some call => exact (keepsKeys_addCallHistoryMessage K me s _ _ _ x).trans (.of_eq rfl rfl)

end Repository

section Payloads

variable (P : Account) (s : Phone)

theorem keepsKeys_recordEndpoint (peerId endpoint : String) : KeepsKeys s (s.recordEndpoint P peerId endpoint) := by
  unfold Phone.recordEndpoint
  exact (keepsKeys_updateContactEndpoint P.K _ peerId endpoint).after (.of_eq rfl rfl)

theorem keepsKeys_applySignal (signalType callerId callId callData : String) (x : Surroundings) :
    KeepsKeys s (s.applySignal P signalType callerId callId callData x) := by
  unfold Phone.applySignal
  dsimp only
  split
  · split
    · unfold Phone.receiveIncomingCall
      dsimp only
      exact (keepsKeys_addCallHistoryMessage P.K _ _ _ _ _ x).after (.of_eq rfl rfl)
    · exact .of_eq rfl rfl
  split
  · exact .of_eq rfl rfl
  split
  · split
    · exact (keepsKeys_onCallAnswered P.K _ _).after (.of_eq rfl rfl)
    · exact .of_eq rfl rfl
  split
  · split
    · exact (keepsKeys_endCallFromRemote P.K _ _ x).after (.of_eq rfl rfl)
    · exact .of_eq rfl rfl
  · exact .refl s

theorem keepsKeys_handleCallSignal (sig : Json) (sender : String) (x : Surroundings) :
    KeepsKeys s (s.handleCallSignal P sig sender x) := by
  have hremembered : ∀ callerId callId, KeepsKeys s (s.rememberEndedCall P.K P.firstEnded callerId callId) := by
    intro callerId callId
    unfold Phone.rememberEndedCall
    dsimp only
    split_ifs
    · exact .refl s
    all_goals exact .of_eq rfl rfl
  have hrest : ∀ (t : Phone) (b : Bool) (signalType callerId callId endpoint callData : String), KeepsKeys s t →
      KeepsKeys s (if b = true then t else
        if signalType ≠ "Offer" ∧ ¬t.activeCall.any (fun c => c.peerId == callerId && c.callId == callId) then t
        else (if Phone.isReachable endpoint then t.recordEndpoint P callerId endpoint else t).applySignal P signalType
          callerId callId callData x) := by
    intro t b signalType callerId callId endpoint callData ht
    split
    · exact ht
    split
    · exact ht
    refine KeepsKeys.trans ?_ (keepsKeys_applySignal P _ signalType callerId callId callData x)
    split
    · exact ht.trans (keepsKeys_recordEndpoint P t _ _)
    · exact ht
  unfold Phone.handleCallSignal
  dsimp only
  refine iteInduction (motive := KeepsKeys s) (fun _ => .refl s) fun _ => ?_
  refine iteInduction (motive := KeepsKeys s) (fun _ => .refl s) fun _ => ?_
  refine hrest _ _ _ _ _ _ _ ?_
  split
  · exact hremembered _ _
  split
  · exact .of_eq rfl rfl
  · exact .refl s

theorem keepsKeys_handleDirectPayload (payload : Json) (senderHex : String) (x : Surroundings) :
    KeepsKeys s (s.handleDirectPayload P payload senderHex x) := by
  unfold Phone.handleDirectPayload
  dsimp only
  split
  · exact .refl s
  split
  · split
    · unfold Phone.handleDeliveryReceipt
      split
      · exact .refl s
      · exact (keepsKeys_markMessageDelivered P.K _ _ _ _).after (.of_eq rfl rfl)
    · exact .refl s
  split
  · split
    · exact keepsKeys_handleCallSignal P s _ _ x
    · exact .refl s
  split
  · split
    · unfold Phone.handleManifest
      split
      · exact .refl s
      split
      · exact .refl s
      split
      · exact .refl s
      · exact (keepsKeys_receiveIncomingMessage P.K _ _ _ _).after (.of_eq rfl rfl)
    · exact .refl s
  · unfold Phone.handleMessage
    split
    · exact .refl s
    split
    · rename_i m hm
      have hreceived := keepsKeys_receiveIncomingMessage P.K P.localNodeIdHex s m x.savesMessages
      dsimp only
      split
      · exact hreceived.trans (.of_eq rfl rfl)
      · exact hreceived
    · exact .refl s

theorem keepsKeys_handleAttachmentDatagram (filesDir : String) (data : Bytes) (x : Surroundings) (disk : Disk) :
    KeepsKeys s (s.handleAttachmentDatagram P filesDir data x disk).1 := by
  have hfinish : ∀ (t : Phone) (id : String) (transfer : IncomingAttachment),
      KeepsKeys t (t.afterPart P filesDir id transfer x disk).1 := by
    intro t id transfer
    unfold Phone.afterPart
    split
    swap
    · exact .refl t
    unfold Phone.finishIncomingAttachment
    dsimp only
    split
    · exact .of_eq rfl rfl
    split
    · exact .of_eq rfl rfl
    split
    · exact .of_eq rfl rfl
    · exact (keepsKeys_completeIncomingAttachment _ _ _ _ _).after (.of_eq rfl rfl)
  unfold Phone.handleAttachmentDatagram
  split
  · exact .refl s
  split
  · dsimp only
    split
    · exact .refl s
    · exact (hfinish _ _ _).after (.of_eq rfl rfl)
  · exact hfinish _ _ _

theorem keepsKeys_handleCallAudioDatagram (data : Bytes) (senderEndpoint : String) :
    KeepsKeys s (CallAudio.handleCallAudioDatagram P s data senderEndpoint).1 := by
  unfold CallAudio.handleCallAudioDatagram
  split
  · exact .refl s
  · dsimp only
    split
    · exact .refl s
    split
    · exact keepsKeys_recordEndpoint P s _ _
    split
    · exact keepsKeys_recordEndpoint P s _ _
    · exact (keepsKeys_recordEndpoint P s _ _).trans (.of_eq rfl rfl)

end Payloads

/-! ## Whose keys they are -/

section Authentic

variable (P : Account) (seed : Bytes)

/-- The id of this seed. -/
def peerHex : String := hexString (identityKeys P.C seed).nodeId

/-- All that the client takes for a key of this peer is the peer's. -/
structure Authentic (s : Phone) : Prop where
  contacts : ∀ c ∈ s.contacts, c.isIdentityVerified = true → P.K.sameIgnoringCase c.userIdHex (peerHex P seed) = true →
    c.ed25519PublicKeyHex = hexString (identityKeys P.C seed).edPublic ∧
      c.x25519PublicKeyHex = hexString (identityKeys P.C seed).xPublic
  engine : ∀ keys, s.verifiedContactKeys.at? (peerHex P seed) = some keys →
    keys = ((identityKeys P.C seed).edPublic, (identityKeys P.C seed).xPublic)

/-- Nobody has another key with the id of this one, and what verifies under this one its owner's clients signed. -/
structure Unforgeable : Prop where
  edPublic_length : (identityKeys P.C seed).edPublic.length = 32
  xPublic_length : (identityKeys P.C seed).xPublic.length = 32
  ownId : ∀ ed, (P.C.hashNodeId ed).bytes = (identityKeys P.C seed).nodeId → ed = (identityKeys P.C seed).edPublic
  signed : ∀ m sig, P.C.edVerify (identityKeys P.C seed).edPublic m sig = true → ∃ k, Signed P seed k m

variable {P seed} {s t : Phone}

theorem Authentic.keep (h : Authentic P seed s) (hkeep : KeepsKeys s t) : Authentic P seed t := by
  constructor
  · intro c hc hv hsame
    obtain ⟨c', hc', hv', hid, hed, hx⟩ := hkeep.contacts c hc hv
    rw [← hid] at hsame
    rw [← hed, ← hx]
    exact h.contacts c' hc' hv' hsame
  · rw [hkeep.verifiedContactKeys]
    exact h.engine

theorem Authentic.updateVerifiedContactKeys (hT : HexTexts P.O P.K) (h : Authentic P seed s) {peerId : String}
    {ed x : Bytes} {refresh : Bool}
    (hkeys : P.K.sameIgnoringCase (clean P.K peerId) (peerHex P seed) = true →
      ed = (identityKeys P.C seed).edPublic ∧ x = (identityKeys P.C seed).xPublic) :
    Authentic P seed (s.updateVerifiedContactKeys P.C P.O P.K peerId ed x refresh) := by
  unfold Phone.updateVerifiedContactKeys
  split
  · exact h
  dsimp only
  split
  · exact h
  split
  · exact h
  have hknown : ∀ known : Phone, Authentic P seed known → Authentic P seed
      { known with contacts := known.contacts.map fun c =>
          if P.K.sameIgnoringCase c.userIdHex (clean P.K peerId) then
            { c with
              ed25519PublicKeyHex := hexString ed
              x25519PublicKeyHex := hexString x
              isIdentityVerified := true }
          else c } := by
    intro known h
    refine ⟨?_, h.engine⟩
    intro c hc hv hsame
    obtain ⟨c', hc', rfl⟩ := List.mem_map.1 hc
    by_cases hid : P.K.sameIgnoringCase c'.userIdHex (clean P.K peerId) = true
    · rw [if_pos hid] at hsame ⊢
      obtain ⟨rfl, rfl⟩ := hkeys (hT.same_trans _ _ _ (hT.same_symm _ _ hid) hsame)
      exact ⟨rfl, rfl⟩
    · rw [if_neg hid] at hv hsame ⊢
      exact h.contacts c' hc' hv hsame
  refine hknown _ ?_
  split
  · exact h.keep (keepsKeys_addContact P.O P.K s _)
  · exact h

/-- The keys of an envelope, as the engine reads them. -/
theorem HexTexts.getBytes (hT : HexTexts P.O P.K) {env : Json} {name : String} {bs : Bytes}
    (h : bytes P.O env name = .ok bs) (hlen : bs.length = 32) : Android.getBytes P env name = .ok bs := by
  unfold bytes at h
  unfold Android.getBytes
  split at h
  · cases h
  · rename_i items hitems
    rw [hitems]
    exact h
  · rename_i hex hhex
    have hread := hT.looseHexToBytes h
    rw [hlen] at hread
    rw [hhex]
    exact congrArg Except.ok hread
  · cases h

theorem parts_of_openEnvelope {env : Json} {clock : Clock} {opened : String × Json}
    (h : openEnvelope P.O P.C P.seed env clock = .ok opened) : ∃ p timestamp, partsOf P.O env = .ok p ∧
      opened.1 = hexString p.senderId ∧ p.senderId = (P.C.hashNodeId p.edPublic).bytes ∧ p.edPublic.length = 32 ∧
      p.senderXPublic.length = 32 ∧ p.recipientId.length = 20 ∧
      P.C.edVerify p.edPublic (envelopeSigningBytes p.senderId p.recipientId p.senderXPublic p.ephPublic p.nonce
        timestamp p.ciphertext) p.signature = true := by
  unfold openEnvelope at h
  split at h
  · cases h
  obtain ⟨p, hp, h⟩ := thrown_bind_eq_ok.1 h
  refine ⟨p, optLong P.O env "timestamp" 0, hp, ?_⟩
  unfold openParts at h
  dsimp only at h
  split_ifs at h with hsizes hid hrecipient htime hvalid hverify hdh
  have hopened : opened.1 = hexString p.senderId := by
    unfold openPayload at h
    split at h
    · cases h
    · split at h
      · cases h
      · rw [← Except.ok.inj h]
  obtain ⟨-, hed, hx, -, hrecipientLen, -⟩ := hsizes
  exact ⟨hopened, not_not.1 hid, hed, hx, hrecipientLen, hverify⟩

/-- An envelope under the id of the peer carries the peer's keys. -/
theorem keys_of_openEnvelope (hT : HexTexts P.O P.K) (hC : Unforgeable P seed) {env : Json} {clock : Clock}
    {opened : String × Json} (h : openEnvelope P.O P.C P.seed env clock = .ok opened) : ∃ ed x senderId,
      Android.getBytes P env "sender_ed25519_pub" = .ok ed ∧ Android.getBytes P env "sender_x25519_pub" = .ok x ∧
      opened.1 = hexString senderId ∧ (senderId = (identityKeys P.C seed).nodeId →
        ed = (identityKeys P.C seed).edPublic ∧ x = (identityKeys P.C seed).xPublic) := by
  obtain ⟨p, timestamp, hp, hopened, hid, hed, hx, hrecipient, hverify⟩ := parts_of_openEnvelope h
  have hread : bytes P.O env "sender_ed25519_pub" = .ok p.edPublic ∧
      bytes P.O env "sender_x25519_pub" = .ok p.senderXPublic := by
    unfold partsOf at hp
    obtain ⟨_, -, hp⟩ := thrown_bind_eq_ok.1 hp
    obtain ⟨_, hedRead, hp⟩ := thrown_bind_eq_ok.1 hp
    obtain ⟨_, hxRead, hp⟩ := thrown_bind_eq_ok.1 hp
    obtain ⟨_, -, hp⟩ := thrown_bind_eq_ok.1 hp
    obtain ⟨_, -, hp⟩ := thrown_bind_eq_ok.1 hp
    obtain ⟨_, -, hp⟩ := thrown_bind_eq_ok.1 hp
    obtain ⟨_, -, hp⟩ := thrown_bind_eq_ok.1 hp
    obtain ⟨_, -, hp⟩ := thrown_bind_eq_ok.1 hp
    obtain rfl := Except.ok.inj hp
    exact ⟨hedRead, hxRead⟩
  refine ⟨p.edPublic, p.senderXPublic, p.senderId, hT.getBytes hread.1 hed, hT.getBytes hread.2 hx, hopened, ?_⟩
  intro hpeer
  have hown := hC.ownId p.edPublic (hid.symm.trans hpeer)
  rw [hown] at hverify
  obtain ⟨k, hsigned⟩ := hC.signed _ _ hverify
  obtain rfl : k = .envelope := by
    rw [← purposeOf_signed hT hC.edPublic_length hC.xPublic_length hsigned]
    exact purposeOf_envelope ..
  refine ⟨hown, envelope_of_signed hsigned rfl ?_ hrecipient (hx.trans hC.xPublic_length.symm)⟩
  rw [hpeer, nodeId_length]

theorem openEnvelope_of_openedBy {env payload : Json} {senderHex endpoint verifiedSenderId : String} {clock : Clock}
    (h : openedBy P env senderHex endpoint clock = .ok (some (verifiedSenderId, payload))) :
    ∃ opened, openEnvelope P.O P.C P.seed env clock = .ok opened ∧ opened.1 = verifiedSenderId := by
  unfold openedBy at h
  split at h
  · cases h
  obtain ⟨actual, -, h⟩ := thrown_bind_eq_ok.1 h
  split at h
  · cases h
  cases hopen : openEnvelope P.O P.C P.seed env clock with
  | error e =>
    rw [hopen] at h
    cases h
  | ok opened =>
    rw [hopen] at h
    dsimp only at h
    split at h
    · cases h
    · exact ⟨opened, rfl, congrArg Prod.fst (Option.some.inj (Except.ok.inj h))⟩

theorem Authentic.handleEnvelopeObject (hT : HexTexts P.O P.K) (hC : Unforgeable P seed) (h : Authentic P seed s)
    {env : Json} {senderHex endpoint : String} {x : Surroundings}
    (ht : s.handleEnvelopeObject P env senderHex endpoint x = .ok t) : Authentic P seed t := by
  unfold Phone.handleEnvelopeObject at ht
  split at ht
  · cases ht
  · obtain rfl := Except.ok.inj ht
    exact h
  rename_i verifiedSenderId payload hopened
  obtain rfl := Except.ok.inj ht
  obtain ⟨opened, henvelope, rfl⟩ := openEnvelope_of_openedBy hopened
  obtain ⟨ed, xKey, senderId, hed, hx, hid, hkeys⟩ := keys_of_openEnvelope hT hC henvelope
  unfold Phone.takeEnvelope
  dsimp only
  rw [hed, hx]
  dsimp only
  have hendpoint : Authentic P seed
      (if isPeerEndpoint endpoint then s.recordEndpoint P opened.1 endpoint else s) := by
    split
    · exact h.keep (keepsKeys_recordEndpoint P s _ _)
    · exact h
  generalize (if isPeerEndpoint endpoint then s.recordEndpoint P opened.1 endpoint else s) = u at hendpoint ⊢
  have hmap : Authentic P seed { u with verifiedContactKeys := u.verifiedContactKeys.put opened.1 (ed, xKey) } := by
    refine ⟨hendpoint.contacts, ?_⟩
    intro keys hput
    rw [KeyedMap.at?_put] at hput
    split at hput
    · rename_i hsame
      rw [hid] at hsame
      have hbytes := congrArg (hexToBytes P.O) hsame
      rw [hexToBytes_hexString hT.digit, peerHex, hexToBytes_hexString hT.digit] at hbytes
      obtain ⟨rfl, rfl⟩ := hkeys (Except.ok.inj hbytes)
      exact (Option.some.inj hput).symm
    · exact hendpoint.engine keys hput
  have hown : P.K.sameIgnoringCase (clean P.K opened.1) (peerHex P seed) = true →
      ed = (identityKeys P.C seed).edPublic ∧ xKey = (identityKeys P.C seed).xPublic := by
    intro hsame
    rw [hid, hT.readsHex.clean] at hsame
    have hbytes := hT.same_hex _ _ hsame
    rw [hexToBytes_hexString hT.digit] at hbytes
    exact hkeys (Except.ok.inj hbytes)
  exact (hmap.updateVerifiedContactKeys hT hown).keep (keepsKeys_handleDirectPayload P _ _ _ _)

theorem Authentic.handleEntries (hT : HexTexts P.O P.K) (hC : Unforgeable P seed) {senderHex endpoint : String}
    {xs : Nat → Surroundings} : ∀ (entries : List Json) (n : Nat) {s : Phone}, Authentic P seed s →
      Authentic P seed (s.handleEntries P senderHex endpoint xs n entries)
  | [], _, _, h => h
  | entry :: rest, n, s, h => by
    cases entry with
    | object fields =>
      unfold Phone.handleEntries
      split
      · rename_i t ht
        exact Authentic.handleEntries hT hC rest (n + 1) (h.handleEnvelopeObject hT hC ht)
      · exact h
    | _ => exact h

theorem optString_of_getString {env : Json} {name text : String} (h : getString P.K.valueOf env name = .ok text) :
    optString P.K env name "" = text := by
  unfold getString at h
  unfold optString
  cases hopt : opt env name with
  | none =>
    rw [hopt] at h
    cases h
  | some v =>
    rw [hopt] at h
    cases v with
    | string s => exact Except.ok.inj h
    | _ => exact Except.ok.inj h

/-- A presence card under the id of the peer tells the peer's encryption key. -/
theorem keys_of_verifyPresence (hT : HexTexts P.O P.K) (hC : Unforgeable P seed) {obj : Json} {clock : Clock}
    (h : verifyPresence P obj clock = true) : ∃ userId xHex id,
      getString P.K.valueOf obj "user_id_hex" = .ok userId ∧ hexToBytes P.O (P.K.lowercase userId) = .ok id ∧
      getString P.K.valueOf obj "x25519_pub_hex" = .ok xHex ∧ (id = (identityKeys P.C seed).nodeId →
        P.K.lowercase xHex = hexString (identityKeys P.C seed).xPublic) := by
  have hcheck : checkPresence P obj clock = .ok true := by
    unfold verifyPresence at h
    split at h
    · rename_i valid hvalid
      rw [hvalid, h]
    · cases h
  unfold checkPresence at hcheck
  obtain ⟨userId, huserId, hcheck⟩ := thrown_bind_eq_ok.1 hcheck
  obtain ⟨endpoint, -, hcheck⟩ := thrown_bind_eq_ok.1 hcheck
  obtain ⟨ed, -, hcheck⟩ := thrown_bind_eq_ok.1 hcheck
  obtain ⟨xHex, hxHex, hcheck⟩ := thrown_bind_eq_ok.1 hcheck
  obtain ⟨online, -, hcheck⟩ := thrown_bind_eq_ok.1 hcheck
  obtain ⟨timestamp, -, hcheck⟩ := thrown_bind_eq_ok.1 hcheck
  obtain ⟨signature, -, hcheck⟩ := thrown_bind_eq_ok.1 hcheck
  split at hcheck
  · cases hcheck
  rename_i hbounds
  obtain ⟨id, hid, hcheck⟩ := thrown_bind_eq_ok.1 hcheck
  refine ⟨userId, xHex, id, huserId, hid, hxHex, ?_⟩
  intro hpeer
  split at hcheck
  · cases hcheck
  rename_i hhash
  split at hcheck
  · cases hcheck
  have hverify := Except.ok.inj hcheck
  rw [hC.ownId ed ((not_not.1 hhash).trans hpeer)] at hverify
  obtain ⟨k, hsigned⟩ := hC.signed _ _ hverify
  obtain rfl : k = .presence := by
    rw [← purposeOf_signed hT hC.edPublic_length hC.xPublic_length hsigned]
    exact purposeOf_presence ..
  simp only [not_or, not_not] at hbounds
  exact presence_of_signed hT hC.xPublic_length hsigned rfl (hT.lowercase_lowercase xHex) hbounds.2.2.1

theorem Authentic.handlePresence (hT : HexTexts P.O P.K) (hC : Unforgeable P seed) (h : Authentic P seed s) (obj : Json)
    (clock : Clock) : Authentic P seed (s.handlePresence P obj clock) := by
  have hendpoint : ∀ (b : Bool) (peerUid sAddr : String) (t : Phone), Authentic P seed t →
      Authentic P seed (if b = true then t.recordEndpoint P peerUid sAddr else t) := by
    intro b peerUid sAddr t ht
    split
    · exact ht.keep (keepsKeys_recordEndpoint P t _ _)
    · exact ht
  unfold Phone.handlePresence
  refine hendpoint _ _ _ _ ?_
  split
  swap
  · exact h
  rename_i hverified
  dsimp only
  split
  swap
  · exact h
  rename_i hhash
  obtain ⟨userId, xHex, id, huserId, hid, hxHex, hkeys⟩ := keys_of_verifyPresence hT hC hverified.1
  rw [optString_of_getString huserId] at hhash ⊢
  rw [optString_of_getString hxHex]
  -- the id was read without blanks around it
  have hclean : clean P.K userId = P.K.lowercase userId := by
    unfold clean
    rw [hT.lowercase_trim, hT.kotlinTrim hid]
  have hclean' : clean P.K (clean P.K userId) = P.K.lowercase userId := by
    rw [hclean]
    unfold clean
    rw [hT.kotlinTrim hid, hT.lowercase_lowercase]
  refine h.updateVerifiedContactKeys hT ?_
  rw [hclean']
  rw [hclean] at hhash
  intro hsame
  have hpeer := hT.same_hex _ _ hsame
  rw [hid] at hpeer
  have hlower := hkeys (Except.ok.inj hpeer)
  refine ⟨hC.ownId _ (hT.bytes_unique hhash hsame), ?_⟩
  have hx : clean P.K xHex = hexString (identityKeys P.C seed).xPublic := by
    unfold clean
    rw [hT.lowercase_trim, hlower, kotlinTrim_hexString]
  have hloose := hT.looseHexToBytes (hexToBytes_hexString hT.digit (identityKeys P.C seed).xPublic)
  rw [hC.xPublic_length] at hloose
  rw [hx, hloose]

theorem Authentic.processStorePayload (hT : HexTexts P.O P.K) (hC : Unforgeable P seed) (h : Authentic P seed s)
    (valueBytes : Bytes) (senderHex endpoint : String) (xs : Nat → Surroundings) :
    Authentic P seed (s.processStorePayload P valueBytes senderHex endpoint xs) :=
  h.handleEntries hT hC _ 0

theorem Authentic.handleIncomingPacket (hT : HexTexts P.O P.K) (hC : Unforgeable P seed) (h : Authentic P seed s)
    (filesDir : String) (data : Bytes) (endpoint : String) (xs : Nat → Surroundings) (disk : Disk) :
    Authentic P seed (s.handleIncomingPacket P filesDir data endpoint xs disk) := by
  unfold Phone.handleIncomingPacket
  split
  · exact h.keep (keepsKeys_handleAttachmentDatagram P s _ _ _ _)
  · exact h.keep (keepsKeys_handleCallAudioDatagram P s _ _)
  · split
    · exact h.processStorePayload hT hC _ _ _ _
    · unfold Phone.takeFound
      dsimp only
      split
      · split
        · exact h.handlePresence hT hC _ _
        · exact h
      · exact h.processStorePayload hT hC _ _ _ _
    · exact h
  · exact h

/-- An invite under the id of the peer carries the peer's keys. -/
theorem keys_of_readInvite (hT : HexTexts P.O P.K) (hC : Unforgeable P seed) {I : InvitePlatforms}
    (hlowercase : I.lowercase = P.K.lowercase) {inviteOrId : String}
    {clock : Clock} {r : ReadInvite} (h : readInvite P.C P.O I inviteOrId clock = some r)
    (hsame : P.K.sameIgnoringCase r.parsedId (peerHex P seed) = true) :
    r.inviteEdKey = hexString (identityKeys P.C seed).edPublic ∧
      r.inviteXKey = hexString (identityKeys P.C seed).xPublic := by
  unfold readInvite at h
  split at h
  · cases h
  rename_i invite hobject
  split at h
  swap
  · cases h
  rename_i hverified
  split at h
  swap
  · cases h
  rename_i id ed x hid hed hx
  have hr : r.parsedId = P.K.lowercase id ∧ r.inviteEdKey = P.K.lowercase ed ∧ r.inviteXKey = P.K.lowercase x := by
    rw [← hlowercase]
    dsimp only at h
    split_ifs at h
    rw [← Option.some.inj h]
    exact ⟨rfl, rfl, rfl⟩
  rw [hr.1] at hsame
  have hcheck : checkRustCompatibleInvite P.C P.O I invite clock = .ok true := by
    unfold verifyRustCompatibleInvite at hverified
    split at hverified
    · rename_i valid hvalid
      rw [hvalid, hverified]
    · cases hverified
  unfold checkRustCompatibleInvite at hcheck
  rw [hid, hed, hx] at hcheck
  obtain ⟨_, hid', hcheck⟩ := thrown_bind_eq_ok.1 hcheck
  obtain ⟨_, hed', hcheck⟩ := thrown_bind_eq_ok.1 hcheck
  obtain ⟨_, hx', hcheck⟩ := thrown_bind_eq_ok.1 hcheck
  obtain rfl := Except.ok.inj hid'
  obtain rfl := Except.ok.inj hed'
  obtain rfl := Except.ok.inj hx'
  obtain ⟨created, -, hcheck⟩ := thrown_bind_eq_ok.1 hcheck
  obtain ⟨expires, -, hcheck⟩ := thrown_bind_eq_ok.1 hcheck
  dsimp only at hcheck
  split at hcheck
  · cases hcheck
  rename_i hbounds
  obtain ⟨publicKey, -, hcheck⟩ := thrown_bind_eq_ok.1 hcheck
  obtain ⟨signatureHex, -, hcheck⟩ := thrown_bind_eq_ok.1 hcheck
  obtain ⟨signature, -, hcheck⟩ := thrown_bind_eq_ok.1 hcheck
  split at hcheck
  · cases hcheck
  obtain ⟨idBytes, hidBytes, hcheck⟩ := thrown_bind_eq_ok.1 hcheck
  split at hcheck
  · cases hcheck
  rename_i hhash
  split at hcheck
  · cases hcheck
  have hverify := Except.ok.inj hcheck
  simp only [not_or, not_not] at hbounds
  -- the id of the contact is the one the signature is of
  have hpeer : idBytes = (identityKeys P.C seed).nodeId := by
    have hlower := hT.hexToBytes_lowercase hidBytes
    rw [hT.same_hex _ _ hsame] at hlower
    exact (Except.ok.inj hlower).symm
  rw [hC.ownId publicKey ((not_not.1 hhash).trans hpeer)] at hverify
  obtain ⟨k, hsigned⟩ := hC.signed _ _ hverify
  have hsize : idBytes.length = 20 := by rw [hpeer, nodeId_length]
  obtain rfl : k = .invite := by
    rw [← purposeOf_signed hT hC.edPublic_length hC.xPublic_length hsigned]
    exact purposeOf_checked hT
      (.invite id ed x created expires idBytes hidBytes hsize hbounds.2.2.1 hbounds.2.2.2)
  obtain ⟨rfl, rfl⟩ := invite_of_signed hT hC.edPublic_length hC.xPublic_length hsigned rfl hidBytes hsize
    hbounds.2.2.1 hbounds.2.2.2
  rw [hr.2.1, hr.2.2, hT.lowercase, hT.lowercase]
  exact ⟨rfl, rfl⟩

theorem Authentic.addContactByText (hT : HexTexts P.O P.K) (hC : Unforgeable P seed) (h : Authentic P seed s)
    (I : InvitePlatforms) (inviteOrId : String) (clock : Clock) :
    Authentic P seed (s.addContactByText P I inviteOrId clock) := by
  unfold Phone.addContactByText
  dsimp only
  split
  · split
    · exact h
    rename_i r hread
    split
    · exact h
    refine ⟨?_, h.engine⟩
    intro c hc hv hsame
    rcases List.mem_cons.1 hc with rfl | hc
    · exact keys_of_readInvite hT hC rfl hread hsame
    · exact h.contacts c hc hv hsame
  split
  · exact h.keep (keepsKeys_addContact P.O P.K s _)
  · exact h.keep (keepsKeys_addContact P.O P.K s _)

end Authentic

/-! ## Runs -/

/-- What comes in, what the user adds, a change that the repository makes on its own, and the end of the engine. -/
inductive KeyEvent where
  | packet (data : Bytes) (senderEndpoint : String) (xs : Nat → Surroundings) (disk : Disk)
  | add (I : InvitePlatforms) (inviteOrId : String) (clock : Clock)
  | change (f : Phone → Phone) (keeps : ∀ s, KeepsKeys s (f s))
  | stop

def KeyEvent.step (P : Account) (filesDir : String) (s : Phone) : KeyEvent → Phone
  | packet data senderEndpoint xs disk => s.handleIncomingPacket P filesDir data senderEndpoint xs disk
  | add I inviteOrId clock => s.addContactByText P I inviteOrId clock
  | change f _ => f s
  | stop => s.stop

section Runs

variable {P : Account} {filesDir : String} {seed : Bytes} {s : Phone}

theorem Authentic.step (hT : HexTexts P.O P.K) (hC : Unforgeable P seed) (h : Authentic P seed s) (e : KeyEvent) :
    Authentic P seed (e.step P filesDir s) := by
  cases e with
  | packet data senderEndpoint xs disk =>
    show Authentic P seed (s.handleIncomingPacket P filesDir data senderEndpoint xs disk)
    exact h.handleIncomingPacket hT hC filesDir data senderEndpoint xs disk
  | add I inviteOrId clock =>
    show Authentic P seed (s.addContactByText P I inviteOrId clock)
    exact h.addContactByText hT hC I inviteOrId clock
  | change f keeps => exact h.keep (keeps s)
  | stop =>
    refine ⟨h.contacts, ?_⟩
    intro keys hkeys
    cases hkeys

/-- A key that the client finds for the peer. -/
theorem Authentic.keys (hT : HexTexts P.O P.K) (hC : Unforgeable P seed) (h : Authentic P seed s) :
    (∀ key, s.getVerifiedPeerEd25519Key P.K (peerHex P seed) = some key → key = (identityKeys P.C seed).edPublic) ∧
      ∀ key, s.verifiedPeerKey P.K (peerHex P seed) = some key → key = (identityKeys P.C seed).xPublic := by
  have hcontact : ∀ c, s.contact? P.K (peerHex P seed) = some c → c.isIdentityVerified = true →
      c.ed25519PublicKeyHex = hexString (identityKeys P.C seed).edPublic ∧
        c.x25519PublicKeyHex = hexString (identityKeys P.C seed).xPublic := by
    intro c hc hv
    unfold Phone.contact? at hc
    have hsame := List.find?_some hc
    exact h.contacts c (List.mem_of_find?_eq_some hc) hv hsame
  constructor
  · intro key hkey
    unfold Phone.getVerifiedPeerEd25519Key at hkey
    obtain ⟨c, hc, hread⟩ := Option.bind_eq_some_iff.1 hkey
    split at hread
    swap
    · cases hread
    rename_i hv
    rw [(hcontact c hc hv).1, CallAudio.keyOfHex_hexString hT.readsHex hC.edPublic_length] at hread
    exact (Option.some.inj hread).symm
  · intro key hkey
    unfold Phone.verifiedPeerKey at hkey
    rcases Option.or_eq_some_iff.1 hkey with hkey | ⟨-, hkey⟩
    · unfold Phone.getVerifiedPeerX25519Key at hkey
      obtain ⟨c, hc, hread⟩ := Option.bind_eq_some_iff.1 hkey
      split at hread
      swap
      · cases hread
      rename_i hv
      rw [(hcontact c hc hv).2, CallAudio.keyOfHex_hexString hT.readsHex hC.xPublic_length] at hread
      exact (Option.some.inj hread).symm
    · obtain ⟨keys, hkeys, rfl⟩ := Option.map_eq_some_iff.1 hkey
      rw [h.engine keys hkeys]

/-- Whatever comes in over any run, from whom and in whatever order: the key that the client checks a peer's signatures
with is the peer's own, and so is the one that it seals to. -/
theorem run_keys (hT : HexTexts P.O P.K) (hC : Unforgeable P seed) (hs : Authentic P seed s) (events : List KeyEvent) :
    (∀ key, (run (KeyEvent.step P filesDir) s events).getVerifiedPeerEd25519Key P.K (peerHex P seed) = some key →
        key = (identityKeys P.C seed).edPublic) ∧
      ∀ key, (run (KeyEvent.step P filesDir) s events).verifiedPeerKey P.K (peerHex P seed) = some key →
        key = (identityKeys P.C seed).xPublic := by
  have hrun : Authentic P seed (run (KeyEvent.step P filesDir) s events) :=
    run_induction (I := Authentic P seed) (fun _ e h => Authentic.step hT hC h e) events hs
  exact hrun.keys hT hC

end Runs

/-! ## A forged invite and a true one -/

section Sample

open Messenger.Sample

theorem edVerify_oneSignature {key m sig : Bytes} (h : oneSignature.edVerify key m sig = true) : m = inviteSigned := by
  unfold oneSignature at h
  dsimp only at h
  exact (of_decide_eq_true h).2.1

/-- Who links to what. -/
def links : InvitePlatforms where
  serde := ⟨fun _ => [], fun _ => none⟩
  encodeRust _ := ""
  encodeAndroid _ := ""
  decodeAndroid s := if s = "forged" then some [102] else if s = "true" then some [116] else none
  valueOf _ := ""
  lowercase := BobsPhone.lowercase

theorem adding_fits : 102000 < 2 ^ 63 := by decide

def adding : Clock := ⟨102000, adding_fits⟩

def inviteEvents : List KeyEvent :=
  [.add links "nodex://invite/forged" adding,
    .packet [0, 1] "203.0.113.7:5000" (fun _ => { clock := adding }) { isDir _ := true },
    .add links "nodex://invite/true" adding, .stop]

theorem unforgeable_carefulAccount : Unforgeable carefulAccount peerSeed where
  edPublic_length := by
    rw [identityKeys_oneSignature]
    decide +kernel
  xPublic_length := by
    rw [identityKeys_oneSignature]
    decide +kernel
  ownId ed h := by
    rw [identityKeys_oneSignature] at h ⊢
    change (oneSignature.hashNodeId ed).bytes = List.replicate 20 1 at h
    rw [hashNodeId_oneSignature] at h
    split at h
    · assumption
    · cases h
  signed m sig h := by
    have hm : m = inviteSigned := edVerify_oneSignature h
    rw [hm]
    exact ⟨.invite, signed_inviteSigned⟩

/-- The link that promised another key for replies got none in, the peer's own did. -/
theorem run_keys_invited :
    (run (KeyEvent.step carefulAccount BobsPhone.filesOfApp) {} inviteEvents).getVerifiedPeerEd25519Key
        carefulAccount.K (peerHex carefulAccount peerSeed) = some peersKeys.edPublic ∧
      (run (KeyEvent.step carefulAccount BobsPhone.filesOfApp) {} inviteEvents).verifiedPeerKey
        carefulAccount.K (peerHex carefulAccount peerSeed) = some peersKeys.xPublic := by
  have hstart : Authentic carefulAccount peerSeed {} := by
    refine ⟨fun c hc => absurd hc List.not_mem_nil, ?_⟩
    intro keys hkeys
    cases hkeys
  have hed : ((run (KeyEvent.step carefulAccount BobsPhone.filesOfApp) {} inviteEvents).getVerifiedPeerEd25519Key
      carefulAccount.K (peerHex carefulAccount peerSeed)).isSome = true := by
    decide +kernel
  have hx : ((run (KeyEvent.step carefulAccount BobsPhone.filesOfApp) {} inviteEvents).verifiedPeerKey
      carefulAccount.K (peerHex carefulAccount peerSeed)).isSome = true := by
    decide +kernel
  have hkeys := @run_keys carefulAccount BobsPhone.filesOfApp peerSeed {} hexTexts_carefulAccount
    unforgeable_carefulAccount hstart inviteEvents
  rw [identityKeys_oneSignature] at hkeys
  obtain ⟨ed, hed⟩ := Option.isSome_iff_exists.1 hed
  obtain ⟨x, hx⟩ := Option.isSome_iff_exists.1 hx
  rw [hed, hx, hkeys.1 ed hed, hkeys.2 x hx]
  exact ⟨rfl, rfl⟩

end Sample

end Keys

end NodeX.Android
