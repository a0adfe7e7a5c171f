/-
The messages that came in. Receipts and calls leave them as they are, and a payload adds at most the one message that it
carries.
-/
import NodeX.Android.Engine

namespace NodeX.Android

open NodeX.Lib Messenger AndroidMessageCrypto

namespace Phone

/-- The ids of the messages that came in, lines about calls apart. -/
def heard (s : Phone) (peerId : String) : List String :=
  ((s.conversation peerId).filter fun m => m.isIncoming && !m.ofCall).map (·.id)

/-- Nothing has come in and nothing is gone. -/
def SameHeard (s t : Phone) : Prop := ∀ peerId, t.heard peerId = s.heard peerId

variable {s t u : Phone}

theorem SameHeard.refl (s : Phone) : SameHeard s s := fun _ => rfl

theorem SameHeard.trans (h : SameHeard s t) (h' : SameHeard t u) : SameHeard s u :=
  fun peerId => (h' peerId).trans (h peerId)

theorem SameHeard.of_messages (h : t.messages = s.messages) : SameHeard s t := fun peerId => by
  unfold heard conversation
  rw [h]

theorem conversation_put (s : Phone) (k : String) (l : List ChatMessage) (peerId : String) :
    ({ s with messages := s.messages.put k l } : Phone).conversation peerId =
      if peerId = k then l else s.conversation peerId := by
  unfold conversation
  dsimp only
  rw [KeyedMap.at?_put]
  by_cases hkey : k = peerId
  · rw [if_pos hkey, if_pos hkey.symm, Option.getD_some]
  · rw [if_neg hkey, if_neg fun h => hkey h.symm]

/-- A conversation is written anew, with what came in as it was. -/
theorem sameHeard_put {k : String} {l : List ChatMessage}
    (h : (l.filter fun m => m.isIncoming && !m.ofCall).map (·.id) = s.heard k) :
    SameHeard s { s with messages := s.messages.put k l } := by
  intro peerId
  unfold heard
  rw [conversation_put]
  split
  · rename_i hkey
    rw [hkey]
    exact h
  · rfl

/-! ## Receipts -/

/-- A change that leaves the id, the direction and the kind of each message. -/
theorem heard_map {l : List ChatMessage} {f : ChatMessage → ChatMessage}
    (h : ∀ m, (f m).id = m.id ∧ (f m).isIncoming = m.isIncoming ∧ (f m).ofCall = m.ofCall) :
    ((l.map f).filter fun m => m.isIncoming && !m.ofCall).map (·.id) =
      (l.filter fun m => m.isIncoming && !m.ofCall).map (·.id) := by
  induction l with
  | nil => rfl
  | cons m l ih =>
    obtain ⟨hid, hincoming, hcall⟩ := h m
    rw [List.map_cons, List.filter_cons, List.filter_cons, hincoming, hcall]
    split
    · rw [List.map_cons, List.map_cons, ih, hid]
    · exact ih

theorem sameHeard_markMessageDelivered (K : Kotlin) (s : Phone) (peerId messageId : String) (saves : Bool) :
    SameHeard s (s.markMessageDelivered K peerId messageId saves) := by
  unfold markMessageDelivered
  split
  · exact .refl s
  · rename_i conversationId messages hfound
    have hat : s.messages.at? conversationId = some messages :=
      KeyedMap.at?_eq_some.2 (List.mem_of_find?_eq_some hfound)
    dsimp only
    split
    · exact .refl s
    · refine sameHeard_put ?_
      have hmap := heard_map (l := messages)
        (f := fun m => if m.id = messageId ∧ ¬m.isDelivered then { m with isDelivered := true } else m)
        fun m => by split <;> exact ⟨rfl, rfl, rfl⟩
      rw [hmap]
      unfold heard conversation
      rw [hat]
      rfl

theorem sameHeard_handleDeliveryReceipt (P : Account) (s : Phone) (receipt : Json) (sender : String)
    (x : Surroundings) :
    SameHeard s (s.handleDeliveryReceipt P receipt sender x) := by
  unfold handleDeliveryReceipt
  split
  · exact .refl s
  · exact SameHeard.trans (.of_messages rfl) (sameHeard_markMessageDelivered P.K _ _ _ _)

/-! ## Calls -/

theorem sameHeard_addCallHistoryMessage (K : Kotlin) (me : String) (s : Phone) (peerId text : String)
    (isIncoming : Bool) (x : Surroundings) : SameHeard s (s.addCallHistoryMessage K me peerId text isIncoming x) := by
  unfold addCallHistoryMessage
  dsimp only
  split
  · exact .refl s
  split
  · exact .refl s
  refine SameHeard.trans (sameHeard_put ?_) (.of_messages rfl)
  rw [List.filter_append, List.map_append]
  simp [heard]

theorem sameHeard_receiveIncomingCall (K : Kotlin) (me : String) (s : Phone) (peerId callId : String)
    (x : Surroundings) : SameHeard s (s.receiveIncomingCall K me peerId callId x) := by
  unfold receiveIncomingCall
  exact SameHeard.trans (.of_messages rfl) (sameHeard_addCallHistoryMessage K me _ _ _ _ x)

theorem sameHeard_endCallFromRemote (K : Kotlin) (me : String) (s : Phone) (x : Surroundings) :
    SameHeard s (s.endCallFromRemote K me x) := by
  unfold endCallFromRemote
  cases s.activeCall with
  | none => exact .of_messages rfl
  | some current => exact SameHeard.trans (sameHeard_addCallHistoryMessage K me s _ _ _ x) (.of_messages rfl)

theorem sameHeard_onCallAnswered (K : Kotlin) (s : Phone) (peerId : String) :
    SameHeard s (s.onCallAnswered K peerId) := by
  unfold onCallAnswered
  split
  · exact .refl s
  split
  · split
    · exact .refl s
    · exact .of_messages rfl
  · exact .refl s

theorem messages_rememberEndedCall (K : Kotlin) (first : List String → String) (s : Phone) (peerId callId : String) :
    (s.rememberEndedCall K first peerId callId).messages = s.messages := by
  unfold rememberEndedCall
  dsimp only
  split_ifs <;> rfl

theorem sameHeard_applySignal (P : Account) (s : Phone) (signalType callerId callId callData : String)
    (x : Surroundings) : SameHeard s (s.applySignal P signalType callerId callId callData x) := by
  unfold applySignal
  dsimp only
  split
  · split
    · exact SameHeard.trans (.of_messages rfl) (sameHeard_receiveIncomingCall P.K _ _ _ _ x)
    · exact .of_messages rfl
  split
  · exact .of_messages rfl
  split
  · split
    · exact SameHeard.trans (.of_messages rfl) (sameHeard_onCallAnswered P.K _ _)
    · exact .of_messages rfl
  split
  · split
    · exact SameHeard.trans (.of_messages rfl) (sameHeard_endCallFromRemote P.K _ _ x)
    · exact .of_messages rfl
  · exact .refl s

theorem sameHeard_handleCallSignal (P : Account) (s : Phone) (sig : Json) (sender : String) (x : Surroundings) :
    SameHeard s (s.handleCallSignal P sig sender x) := by
  have hrest : ∀ (t : Phone) (b : Bool) (signalType callerId callId endpoint callData : String), SameHeard s t →
      SameHeard s (if b = true then t else
        if signalType ≠ "Offer" ∧ ¬t.activeCall.any (fun c => c.peerId == callerId && c.callId == callId) then t
        else (if isReachable endpoint then t.recordEndpoint P callerId endpoint else t).applySignal P signalType
          callerId callId callData x) := by
    intro t b signalType callerId callId endpoint callData ht
    split
    · exact ht
    split
    · exact ht
    refine SameHeard.trans ?_ (sameHeard_applySignal P _ signalType callerId callId callData x)
    split
    · exact SameHeard.trans ht (.of_messages rfl)
    · exact ht
  unfold handleCallSignal
  dsimp only
  refine iteInduction (motive := SameHeard s) (fun _ => .refl s) fun _ => ?_
  refine iteInduction (motive := SameHeard s) (fun _ => .refl s) fun _ => ?_
  refine hrest _ _ _ _ _ _ _ ?_
  split
  · exact .of_messages (messages_rememberEndedCall P.K P.firstEnded s _ _)
  split
  · exact .of_messages rfl
  · exact .refl s

/-! ## Messages -/

variable (P : Account)

/-- What `receiveIncomingMessage` asks of a message by itself. -/
def isReceivable (m : ChatMessage) : Bool :=
  let cleanSender := clean P.K m.senderIdHex
  !isNoSender cleanSender && !P.K.sameIgnoringCase cleanSender (clean P.K P.localNodeIdHex) &&
    !(startsWith m.text "[Call Signal" || containsText m.text "\"call_signal\"")

/-- A message joins its sender's conversation if it can be received and none there has its id. -/
theorem heard_receiveIncomingMessage (s : Phone) {m : ChatMessage} (hincoming : m.isIncoming = true)
    (hcall : m.ofCall = false) (saves : Bool) (peerId : String) :
    (s.receiveIncomingMessage P.K P.localNodeIdHex m saves).1.heard peerId =
      if peerId = m.senderIdHex ∧ isReceivable P m = true ∧
          ((s.conversation m.senderIdHex).any fun m' => m'.id == m.id) = false then s.heard peerId ++ [m.id]
      else s.heard peerId := by
  unfold receiveIncomingMessage isReceivable
  dsimp only
  by_cases hsender : isNoSender (clean P.K m.senderIdHex) = true
  · simp [hsender]
  by_cases hself : P.K.sameIgnoringCase (clean P.K m.senderIdHex) (clean P.K P.localNodeIdHex) = true
  · simp [hself]
  by_cases hsignal : (startsWith m.text "[Call Signal" || containsText m.text "\"call_signal\"") = true
  · simp only [hsignal, if_true, Bool.not_true, Bool.and_false, Bool.false_eq_true, false_and, and_false, if_false]
    split_ifs
    rfl
  rw [if_neg hsender, if_neg hself, if_neg hsignal]
  simp only [hsender, hself, hsignal, Bool.not_false, Bool.and_self, true_and]
  have hconversation : (s.touchContact P.K (clean P.K m.senderIdHex) m.senderIdHex).conversation m.senderIdHex =
      s.conversation m.senderIdHex := rfl
  rw [hconversation]
  by_cases hknown : ((s.conversation m.senderIdHex).any fun m' => m'.id == m.id) = true
  · rw [if_pos hknown, if_neg (by simp [hknown])]
    rfl
  · rw [if_neg hknown]
    have hput : Phone.heard
          { s with messages := s.messages.put m.senderIdHex (s.conversation m.senderIdHex ++ [m]) } peerId =
        if peerId = m.senderIdHex then s.heard peerId ++ [m.id] else s.heard peerId := by
      unfold heard
      rw [conversation_put]
      split
      · rename_i hkey
        rw [hkey, List.filter_append, List.map_append]
        simp [hincoming, hcall]
      · rfl
    refine Eq.trans hput ?_
    rw [Bool.not_eq_true] at hknown
    simp only [hknown, and_true]

/-! ## Payloads -/

/-- A payload from a peer. -/
def isFromPeer (senderHex : String) : Bool :=
  !(isNoPeer (clean P.K senderHex) || P.K.sameIgnoringCase (clean P.K senderHex) P.localNodeIdHex)

/-- The attachment that a payload announces: its id, its size and the message, if the manifest is in order. -/
def announced (payload : Json) (sender : String) : Option (String × Int × ChatMessage) :=
  if has payload "delivery_receipt" || has payload "call_signal" then none
  else
    match getObject payload "attachment_manifest" with
    | .ok manifest =>
      match checkManifest P manifest with
      | .ok (id, size, _) =>
        some (id, size, manifestMessage P payload manifest sender (optString P.K payload "id" "") id size)
      | .error _ => none
    | .error _ => none

/-- The chat message that a payload is. -/
def spoken (payload : Json) (sender : String) (x : Surroundings) : Option ChatMessage :=
  if has payload "delivery_receipt" || has payload "call_signal" || has payload "attachment_manifest" then none
  else
    match messageOf P payload sender x with
    | .ok m => m
    | .error _ => none

/-- No message of this conversation has the id. -/
def isNew (s : Phone) (peerId id : String) : Bool := !(s.conversation peerId).any fun m => m.id == id

/-- The message that a payload adds. -/
def added (s : Phone) (payload : Json) (sender : String) (x : Surroundings) : Option ChatMessage :=
  match announced P payload sender with
  | some (id, size, m) => if s.hasRoom P size && (s.incomingAttachments.get? id).isNone then some m else none
  | none => (spoken P payload sender x).filter fun m => !s.seenMessageIds.contains m.id

theorem fields_of_messageOf {payload : Json} {sender : String} {x : Surroundings} {m : ChatMessage}
    (h : messageOf P payload sender x = .ok (some m)) :
    m.id = effectiveId P payload sender ∧ m.senderIdHex = sender ∧ m.isIncoming = true ∧ m.ofCall = false := by
  unfold messageOf at h
  dsimp only at h
  split at h
  · obtain ⟨vn, -, h⟩ := thrown_bind_eq_ok.1 h
    cases h
    exact ⟨rfl, rfl, rfl, rfl⟩
  split at h
  · obtain ⟨imgData, -, h⟩ := thrown_bind_eq_ok.1 h
    cases h
    exact ⟨rfl, rfl, rfl, rfl⟩
  split at h
  · obtain ⟨fData, -, h⟩ := thrown_bind_eq_ok.1 h
    cases h
    exact ⟨rfl, rfl, rfl, rfl⟩
  split at h
  · cases h
  · cases h
    exact ⟨rfl, rfl, rfl, rfl⟩

/-- The conversations after a message that is received, or none. -/
def heardWith (s : Phone) (m : Option ChatMessage) (peerId : String) : List String :=
  match m with
  | some m =>
    if peerId = m.senderIdHex ∧ isReceivable P m = true ∧ s.isNew m.senderIdHex m.id = true then
      s.heard peerId ++ [m.id]
    else s.heard peerId
  | none => s.heard peerId

theorem heard_handleManifest (s : Phone) (payload manifest : Json) (sender msgId : String) (x : Surroundings)
    (peerId : String) :
    (s.handleManifest P payload manifest sender msgId x).heard peerId =
      heardWith P s (match checkManifest P manifest with
        | .ok (id, size, _) =>
          if s.hasRoom P size && (s.incomingAttachments.get? id).isNone then
            some (manifestMessage P payload manifest sender msgId id size)
          else none
        | .error _ => none) peerId := by
  unfold handleManifest
  split
  · rename_i hcheck
    rw [hcheck]
    rfl
  · rename_i id size count hcheck
    rw [hcheck]
    dsimp only
    by_cases hroom : s.hasRoom P size = false
    · rw [if_pos hroom, hroom]
      rfl
    rw [if_neg hroom]
    rw [Bool.not_eq_false] at hroom
    by_cases hknown : (s.incomingAttachments.get? id).isSome = true
    · rw [if_pos hknown, hroom, if_neg (by simp [Option.isSome_iff_ne_none.1 hknown])]
      rfl
    · rw [if_neg hknown, hroom, if_pos (by simpa using hknown)]
      refine (heard_receiveIncomingMessage P _ rfl rfl x.savesMessages peerId).trans ?_
      simp only [heardWith, isNew, Bool.not_eq_true']
      rfl

theorem heard_handleMessage (s : Phone) (payload : Json) (sender : String) (x : Surroundings) (peerId : String) :
    (s.handleMessage P payload sender x).heard peerId =
      heardWith P s ((match messageOf P payload sender x with
        | .ok m => m
        | .error _ => none).filter fun m => !s.seenMessageIds.contains m.id) peerId := by
  cases hmessage : messageOf P payload sender x with
  | error e =>
    unfold handleMessage
    rw [hmessage]
    split <;> rfl
  | ok m =>
    cases m with
    | none =>
      unfold handleMessage
      rw [hmessage]
      split <;> rfl
    | some m =>
      obtain ⟨hid, hsender, hincoming, hcall⟩ := fields_of_messageOf P hmessage
      have hreceive := heard_receiveIncomingMessage P s hincoming hcall x.savesMessages peerId
      unfold handleMessage isKnown
      rw [hmessage, ← hid]
      by_cases hseen : s.seenMessageIds.contains m.id = true
      · rw [Option.filter_some, hseen]
        rfl
      rw [Bool.not_eq_true] at hseen
      rw [Option.filter_some, hseen, Bool.false_or, Bool.not_false, if_pos rfl]
      by_cases hpersisted : s.hasPersistedMessage sender m.id = true
      · -- then it stands in the conversation
        rw [if_pos hpersisted]
        have hold : s.isNew m.senderIdHex m.id = false := by
          unfold hasPersistedMessage at hpersisted
          obtain ⟨-, hany⟩ := Bool.and_eq_true_iff.1 hpersisted
          obtain ⟨m', hm', hsame⟩ := List.any_eq_true.1 hany
          rw [hsender, isNew, Bool.not_eq_false']
          exact List.any_eq_true.2 ⟨m', hm', (Bool.and_eq_true_iff.1 hsame).1⟩
        simp [heardWith, hold]
      · rw [if_neg hpersisted]
        have hreceived : (s.receiveIncomingMessage P.K P.localNodeIdHex m x.savesMessages).1.heard peerId =
            heardWith P s (some m) peerId := by
          rw [hreceive]
          simp only [heardWith, isNew, Bool.not_eq_true']
        rw [← hreceived]
        dsimp only
        split <;> rfl

/-- What a payload adds to the conversations. -/
theorem heard_handleDirectPayload (s : Phone) (payload : Json) (senderHex : String) (x : Surroundings)
    (peerId : String) :
    (s.handleDirectPayload P payload senderHex x).heard peerId =
      heardWith P s (if isFromPeer P senderHex then s.added P payload (clean P.K senderHex) x else none) peerId := by
  unfold handleDirectPayload isFromPeer added announced spoken
  dsimp only
  by_cases hpeer :
      (isNoPeer (clean P.K senderHex) || P.K.sameIgnoringCase (clean P.K senderHex) P.localNodeIdHex) = true
  · simp only [hpeer, if_true, Bool.not_true, Bool.false_eq_true, if_false]
    rfl
  rw [Bool.not_eq_true] at hpeer
  simp only [hpeer, Bool.false_eq_true, if_false, Bool.not_false, if_true]
  by_cases hreceipt : has payload "delivery_receipt" = true
  · simp only [hreceipt, if_true, Bool.true_or]
    split
    · exact sameHeard_handleDeliveryReceipt P s _ _ x peerId
    · rfl
  rw [Bool.not_eq_true] at hreceipt
  by_cases hsignal : has payload "call_signal" = true
  · simp only [hreceipt, hsignal, if_true, Bool.true_or, Bool.or_true, Bool.false_eq_true, if_false]
    split
    · exact sameHeard_handleCallSignal P s _ _ x peerId
    · rfl
  rw [Bool.not_eq_true] at hsignal
  simp only [hreceipt, hsignal, Bool.or_self, Bool.false_eq_true, if_false, Bool.false_or]
  by_cases hmanifest : has payload "attachment_manifest" = true
  · simp only [hmanifest, if_true]
    cases hobject : getObject payload "attachment_manifest" with
    | error e => rfl
    | ok manifest =>
      dsimp only
      rw [heard_handleManifest]
      cases checkManifest P manifest with
      | error e => rfl
      | ok r => rfl
  · rw [Bool.not_eq_true] at hmanifest
    have hnone : getObject payload "attachment_manifest" = .error .library := by
      unfold has at hmanifest
      unfold getObject
      rw [Option.isSome_eq_false_iff, Option.isNone_iff_eq_none] at hmanifest
      rw [hmanifest]
    simp only [hmanifest, hnone, Bool.false_eq_true, if_false]
    exact heard_handleMessage P s payload _ x peerId

end Phone

end NodeX.Android
