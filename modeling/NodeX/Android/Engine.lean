/-
The part of the state that belongs to the transport engine. The repository's operations leave it alone, and so each
handler changes only what it names.
-/
import NodeX.Android.Envelopes

namespace NodeX.Android

open NodeX.Lib Messenger AndroidMessageCrypto

/-- What `P2PTransportEngine` keeps. -/
structure Engine where
  seenMessageIds : List String
  contactEndpoints : KeyedMap String String
  verifiedContactKeys : KeyedMap String (Bytes × Bytes)
  lastCallAudioSequence : KeyedMap String Int
  remoteCallOfferHashes : KeyedMap String String
  endedCallIds : List String
  endedPrefs : List String
  incomingAttachments : KeyedMap String IncomingAttachment
  queue : DeliveryQueue

namespace Phone

def engine (s : Phone) : Engine :=
  { seenMessageIds := s.seenMessageIds
    contactEndpoints := s.contactEndpoints
    verifiedContactKeys := s.verifiedContactKeys
    lastCallAudioSequence := s.lastCallAudioSequence
    remoteCallOfferHashes := s.remoteCallOfferHashes
    endedCallIds := s.endedCallIds
    endedPrefs := s.endedPrefs
    incomingAttachments := s.incomingAttachments
    queue := s.queue }

/-! ## The repository -/

section Repository

variable (C : Crypto) (O : OrgJson) (K : Kotlin) (me : String) (s : Phone)

@[simp] theorem engine_saveMessages (succeeds : Bool) : (s.saveMessages succeeds).engine = s.engine := rfl

@[simp] theorem engine_updateContactEndpoint (peerId endpoint : String) :
    (s.updateContactEndpoint K peerId endpoint).engine = s.engine := rfl

@[simp] theorem engine_addContact (id : String) : (s.addContact O K id).engine = s.engine := by
  unfold addContact
  dsimp only
  split_ifs <;> rfl

@[simp] theorem engine_updateVerifiedContactKeys (peerId : String) (ed x : Bytes) (refresh : Bool) :
    (s.updateVerifiedContactKeys C O K peerId ed x refresh).engine = s.engine := by
  unfold updateVerifiedContactKeys
  split
  · rfl
  dsimp only
  split
  · rfl
  split
  · rfl
  change
    Phone.engine (if (s.contact? K (clean K peerId)).isNone then s.addContact O K (clean K peerId) else s) = s.engine
  split
  · exact engine_addContact O K s (clean K peerId)
  · rfl

@[simp] theorem engine_touchContact (lookup id : String) : (s.touchContact K lookup id).engine = s.engine := rfl

@[simp] theorem engine_receiveIncomingMessage (m : ChatMessage) (saves : Bool) :
    (s.receiveIncomingMessage K me m saves).1.engine = s.engine := by
  unfold receiveIncomingMessage
  dsimp only
  split_ifs <;> rfl

theorem incomingAttachments_receiveIncomingMessage (m : ChatMessage) (saves : Bool) :
    (s.receiveIncomingMessage K me m saves).1.incomingAttachments = s.incomingAttachments :=
  congrArg Engine.incomingAttachments (engine_receiveIncomingMessage ..)

@[simp] theorem engine_markMessageDelivered (peerId messageId : String) (saves : Bool) :
    (s.markMessageDelivered K peerId messageId saves).engine = s.engine := by
  unfold markMessageDelivered
  split
  · rfl
  · dsimp only
    split_ifs <;> rfl

@[simp] theorem engine_completeIncomingAttachment (peerId messageId localPath : String) (saves : Bool) :
    (s.completeIncomingAttachment peerId messageId localPath saves).engine = s.engine := by
  unfold completeIncomingAttachment
  split <;> rfl

@[simp] theorem engine_addCallHistoryMessage (peerId text : String) (isIncoming : Bool) (x : Surroundings) :
    (s.addCallHistoryMessage K me peerId text isIncoming x).engine = s.engine := by
  unfold addCallHistoryMessage
  dsimp only
  split_ifs <;> rfl

@[simp] theorem engine_receiveIncomingCall (peerId callId : String) (x : Surroundings) :
    (s.receiveIncomingCall K me peerId callId x).engine = s.engine := by
  unfold receiveIncomingCall
  rw [engine_addCallHistoryMessage]
  rfl

@[simp] theorem engine_onCallAnswered (peerId : String) : (s.onCallAnswered K peerId).engine = s.engine := by
  unfold onCallAnswered
  split
  · rfl
  · split_ifs <;> rfl

@[simp] theorem engine_endCallFromRemote (x : Surroundings) : (s.endCallFromRemote K me x).engine = s.engine := by
  unfold endCallFromRemote
  cases s.activeCall with
  | none => rfl
  | some current => exact engine_addCallHistoryMessage K me s current.peerId (callText current) current.isIncoming x

end Repository

/-! ## The handlers of payloads -/

variable (P : Account) (s : Phone)

theorem engine_handleDeliveryReceipt (receipt : Json) (sender : String) (x : Surroundings) :
    (s.handleDeliveryReceipt P receipt sender x).engine =
      { s.engine with queue := (s.handleDeliveryReceipt P receipt sender x).queue } := by
  unfold handleDeliveryReceipt
  split
  · rfl
  · rename_i messageId hreceipt
    have hmark := engine_markMessageDelivered P.K
      { s with queue := s.queue.acknowledge (sender ++ ":" ++ messageId) x.savesQueue } sender messageId x.savesMessages
    have hqueue := congrArg Engine.queue hmark
    dsimp only at hmark hqueue ⊢
    rw [hmark]
    exact congrArg (fun queue => { s.engine with queue }) hqueue.symm

theorem engine_handleManifest (payload manifest : Json) (sender msgId : String) (x : Surroundings) :
    (s.handleManifest P payload manifest sender msgId x).engine =
      { s.engine with
        incomingAttachments := (s.handleManifest P payload manifest sender msgId x).incomingAttachments } := by
  unfold handleManifest
  split
  · rfl
  · rename_i id size count hcheck
    split_ifs
    · rfl
    · rfl
    · dsimp only
      have hreceive := engine_receiveIncomingMessage P.K P.localNodeIdHex
        { s with incomingAttachments :=
            s.incomingAttachments.put id (.mk sender msgId manifest (List.replicate count none) x.clock.millis) }
        (manifestMessage P payload manifest sender msgId id size) x.savesMessages
      have hattachments := congrArg Engine.incomingAttachments hreceive
      rw [hreceive]
      exact congrArg (fun incomingAttachments => { s.engine with incomingAttachments }) hattachments.symm

/-- What a call signal may change. -/
theorem engine_applySignal (signalType callerId callId callData : String) (x : Surroundings) :
    (s.applySignal P signalType callerId callId callData x).engine =
      { s.engine with
        seenMessageIds := (s.applySignal P signalType callerId callId callData x).seenMessageIds
        remoteCallOfferHashes := (s.applySignal P signalType callerId callId callData x).remoteCallOfferHashes } := by
  have hmine : ∀ t u : Phone, t.engine = u.engine →
      u.engine = { s.engine with
        seenMessageIds := u.seenMessageIds, remoteCallOfferHashes := u.remoteCallOfferHashes } →
      t.engine = { s.engine with
        seenMessageIds := t.seenMessageIds, remoteCallOfferHashes := t.remoteCallOfferHashes } := by
    intro t u htu hu
    have hseen : t.seenMessageIds = u.seenMessageIds := congrArg Engine.seenMessageIds htu
    have hhashes : t.remoteCallOfferHashes = u.remoteCallOfferHashes := congrArg Engine.remoteCallOfferHashes htu
    rw [htu, hu, hseen, hhashes]
  unfold applySignal
  dsimp only
  split
  · split
    · exact hmine _ _ (engine_receiveIncomingCall ..) rfl
    · rfl
  split
  · rfl
  split
  · split
    · exact hmine _ _ (engine_onCallAnswered ..) rfl
    · rfl
  split
  · split
    · exact hmine _ _ (engine_endCallFromRemote ..) rfl
    · rfl
  · rfl

/-- What a call leaves alone. -/
structure BesideCalls (s t : Phone) : Prop where
  verifiedContactKeys : t.verifiedContactKeys = s.verifiedContactKeys
  lastCallAudioSequence : t.lastCallAudioSequence = s.lastCallAudioSequence
  incomingAttachments : t.incomingAttachments = s.incomingAttachments
  queue : t.queue = s.queue

theorem besideCalls_applySignal (signalType callerId callId callData : String) (x : Surroundings) :
    BesideCalls s (s.applySignal P signalType callerId callId callData x) := by
  have happly := engine_applySignal P s signalType callerId callId callData x
  exact ⟨congrArg Engine.verifiedContactKeys happly, congrArg Engine.lastCallAudioSequence happly,
    congrArg Engine.incomingAttachments happly, congrArg Engine.queue happly⟩

theorem besideCalls_handleCallSignal (sig : Json) (sender : String) (x : Surroundings) :
    BesideCalls s (s.handleCallSignal P sig sender x) := by
  have hrefl : BesideCalls s s := ⟨rfl, rfl, rfl, rfl⟩
  have hremember : ∀ callerId callId, BesideCalls s (s.rememberEndedCall P.K P.firstEnded callerId callId) := by
    intro callerId callId
    unfold rememberEndedCall
    dsimp only
    split_ifs
    · exact hrefl
    all_goals exact ⟨rfl, rfl, rfl, rfl⟩
  have hthen : ∀ t u : Phone, BesideCalls s t → BesideCalls t u → BesideCalls s u := fun t u ht hu =>
    ⟨hu.1.trans ht.1, hu.2.trans ht.2, hu.3.trans ht.3, hu.4.trans ht.4⟩
  have hrest : ∀ (t : Phone) (b : Bool) (signalType callerId callId endpoint callData : String), BesideCalls s t →
      BesideCalls s (if b = true then t else
        if signalType ≠ "Offer" ∧ ¬t.activeCall.any (fun c => c.peerId == callerId && c.callId == callId) then t
        else (if isReachable endpoint then t.recordEndpoint P callerId endpoint else t).applySignal P signalType
          callerId callId callData x) := by
    intro t b signalType callerId callId endpoint callData ht
    split
    · exact ht
    split
    · exact ht
    refine hthen _ _ ?_ (besideCalls_applySignal P _ signalType callerId callId callData x)
    split
    · exact hthen t _ ht ⟨rfl, rfl, rfl, rfl⟩
    · exact ht
  unfold handleCallSignal
  dsimp only
  refine iteInduction (motive := BesideCalls s) (fun _ => hrefl) fun _ => ?_
  refine iteInduction (motive := BesideCalls s) (fun _ => hrefl) fun _ => ?_
  refine hrest _ _ _ _ _ _ _ ?_
  split
  · exact hremember _ _
  split
  · exact ⟨rfl, rfl, rfl, rfl⟩
  · exact hrefl

theorem engine_handleMessage (payload : Json) (sender : String) (x : Surroundings) :
    (s.handleMessage P payload sender x).engine =
      { s.engine with seenMessageIds := (s.handleMessage P payload sender x).seenMessageIds } := by
  unfold handleMessage
  split
  · rfl
  · split
    · rename_i m hm
      have hreceive := engine_receiveIncomingMessage P.K P.localNodeIdHex s m x.savesMessages
      dsimp only
      split
      · have hmarked : ∀ t : Phone, t.engine = s.engine →
            (t.markSeen m.id).engine = { s.engine with seenMessageIds := (t.markSeen m.id).seenMessageIds } := by
          intro t ht
          rw [← ht]
          rfl
        exact hmarked _ hreceive
      · exact hreceive.trans (congrArg (fun seenMessageIds => { s.engine with seenMessageIds })
          (congrArg Engine.seenMessageIds hreceive).symm)
    · rfl

/-- A manifest adds a transfer that no part of has come, or nothing. -/
theorem incomingAttachments_handleManifest (payload manifest : Json) (sender msgId : String) (x : Surroundings) :
    (s.handleManifest P payload manifest sender msgId x).incomingAttachments = s.incomingAttachments ∨
      ∃ id count, s.incomingAttachments.at? id = none ∧
        (s.handleManifest P payload manifest sender msgId x).incomingAttachments = s.incomingAttachments.put id
          (.mk sender msgId manifest (List.replicate count none) x.clock.millis) := by
  unfold handleManifest
  split
  · exact .inl rfl
  · rename_i id size count hcheck
    split_ifs with hroom hknown
    · exact .inl rfl
    · exact .inl rfl
    · refine .inr ⟨id, count, ?_, incomingAttachments_receiveIncomingMessage ..⟩
      simpa [KeyedMap.at?] using hknown

end Phone

end NodeX.Android
