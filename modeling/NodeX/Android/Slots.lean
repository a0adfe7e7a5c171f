/-
The table of transfers that come in, of which there may be four. A transfer leaves it with its last part and in no other
way: its age is only asked of when a part comes, and a manifest that comes again is not told from a new one.
-/
import NodeX.Android.Attachments
import NodeX.Android.Heard
import NodeX.Android.MailboxEntries

namespace NodeX.Android

open NodeX.Lib Messenger AndroidMessageCrypto

variable (P : Account) (filesDir : String)

/-! ## What a payload does to the table -/

namespace Phone

/-- The id under which a payload opens a transfer. -/
def opened (s : Phone) (payload : Json) (senderHex : String) : Option String :=
  if isFromPeer P senderHex then
    match announced P payload (clean P.K senderHex) with
    | some (id, size, _) => if s.hasRoom P size && (s.incomingAttachments.get? id).isNone then some id else none
    | none => none
  else none

end Phone

/-- All parts have come. -/
def IncomingAttachment.isComplete (t : IncomingAttachment) : Bool := t.partFiles.all Option.isSome

/-- A transfer of this sender, just begun. -/
structure IsNewTransfer (t : IncomingAttachment) (sender : String) (now : Nat) : Prop where
  senderId : t.senderId = sender
  createdAt : t.createdAt = now
  incomplete : t.isComplete = false

/-- The table before and after a payload that opens a transfer under this id, or none. -/
inductive TableStep (before after : KeyedMap String IncomingAttachment) (sender : String) (now : Nat) :
    Option String → Prop
  | same (h : after = before) : TableStep before after sender now none
  | opens (id : String) (t : IncomingAttachment) (hid : before.at? id = none) (ht : IsNewTransfer t sender now)
      (h : after = before.put id t) : TableStep before after sender now (some id)

section Table

variable {P} {s : Phone}

theorem count_pos_of_checkManifest {manifest : Json} {id : String} {size : Int} {count : Nat}
    (h : Phone.checkManifest P manifest = .ok (id, size, count)) : 0 < count := by
  unfold Phone.checkManifest at h
  obtain ⟨_, -, h⟩ := thrown_bind_eq_ok.1 h
  obtain ⟨_, -, h⟩ := thrown_bind_eq_ok.1 h
  obtain ⟨n, -, h⟩ := thrown_bind_eq_ok.1 h
  obtain ⟨_, -, h⟩ := thrown_bind_eq_ok.1 h
  obtain ⟨_, -, h⟩ := thrown_bind_eq_ok.1 h
  obtain ⟨_, hcount, h⟩ := thrown_bind_eq_ok.1 h
  obtain ⟨_, -, h⟩ := thrown_bind_eq_ok.1 h
  obtain ⟨_, -, h⟩ := thrown_bind_eq_ok.1 h
  have hpos := (require_eq_ok.1 hcount).2.1
  cases h
  omega

theorem not_isComplete_replicate {count : Nat} (h : 0 < count) (senderId messageId : String) (manifest : Json)
    (createdAt : Int) :
    (IncomingAttachment.mk senderId messageId manifest (List.replicate count none) createdAt).isComplete = false := by
  obtain ⟨n, rfl⟩ := Nat.exists_eq_add_one.2 h
  rfl

/-- A manifest opens a transfer, or leaves the table as it is. -/
theorem tableStep_manifest (payload manifest : Json) (sender msgId : String) (x : Surroundings) :
    TableStep s.incomingAttachments (s.handleManifest P payload manifest sender msgId x).incomingAttachments sender
      x.clock.millis (match Phone.checkManifest P manifest with
        | .ok (id, size, _) => if s.hasRoom P size && (s.incomingAttachments.get? id).isNone then some id else none
        | .error _ => none) := by
  unfold Phone.handleManifest
  cases hcheck : Phone.checkManifest P manifest with
  | error e => exact .same rfl
  | ok checked =>
    obtain ⟨id, size, count⟩ := checked
    dsimp only
    by_cases hroom : s.hasRoom P size = false
    · rw [if_pos hroom, hroom]
      exact .same rfl
    rw [if_neg hroom]
    rw [Bool.not_eq_false] at hroom
    by_cases hknown : (s.incomingAttachments.get? id).isSome = true
    · rw [if_pos hknown, hroom, if_neg (by simp [Option.isSome_iff_ne_none.1 hknown])]
      exact .same rfl
    · rw [if_neg hknown, hroom, if_pos (by simpa using hknown)]
      refine .opens id _ (by simpa [KeyedMap.at?] using hknown) ⟨rfl, rfl, ?_⟩
        (congrArg Engine.incomingAttachments (Phone.engine_receiveIncomingMessage ..))
      exact not_isComplete_replicate (count_pos_of_checkManifest hcheck) _ _ _ _

/-- A payload opens a transfer, or leaves the table as it is. -/
theorem tableStep_payload (payload : Json) (senderHex : String) (x : Surroundings) :
    TableStep s.incomingAttachments (s.handleDirectPayload P payload senderHex x).incomingAttachments
      (clean P.K senderHex) x.clock.millis (s.opened P payload senderHex) := by
  unfold Phone.handleDirectPayload Phone.opened Phone.isFromPeer Phone.announced
  dsimp only
  by_cases hpeer : (Phone.isNoPeer (clean P.K senderHex) ||
      P.K.sameIgnoringCase (clean P.K senderHex) P.localNodeIdHex) = true
  · simp only [hpeer, if_true, Bool.not_true, Bool.false_eq_true, if_false]
    exact .same rfl
  rw [Bool.not_eq_true] at hpeer
  simp only [hpeer, Bool.false_eq_true, if_false, Bool.not_false, if_true]
  by_cases hreceipt : has payload "delivery_receipt" = true
  · simp only [hreceipt, if_true, Bool.true_or]
    split
    · exact .same (congrArg Engine.incomingAttachments (Phone.engine_handleDeliveryReceipt ..))
    · exact .same rfl
  rw [Bool.not_eq_true] at hreceipt
  by_cases hsignal : has payload "call_signal" = true
  · simp only [hreceipt, hsignal, if_true, Bool.or_true, Bool.false_eq_true, if_false]
    split
    · exact .same (Phone.besideCalls_handleCallSignal ..).incomingAttachments
    · exact .same rfl
  rw [Bool.not_eq_true] at hsignal
  simp only [hreceipt, hsignal, Bool.or_self, Bool.false_eq_true, if_false]
  by_cases hmanifest : has payload "attachment_manifest" = true
  · simp only [hmanifest, if_true]
    cases hobject : getObject payload "attachment_manifest" with
    | error e => exact .same rfl
    | ok manifest =>
      have h := tableStep_manifest (P := P) (s := s) payload manifest (clean P.K senderHex)
        (optString P.K payload "id" "") x
      dsimp only
      cases hcheck : Phone.checkManifest P manifest with
      | error e =>
        rw [hcheck] at h
        exact h
      | ok checked =>
        rw [hcheck] at h
        exact h
  · rw [Bool.not_eq_true] at hmanifest
    have hnone : getObject payload "attachment_manifest" = .error .library := by
      unfold has at hmanifest
      unfold getObject
      rw [Option.isSome_eq_false_iff, Option.isNone_iff_eq_none] at hmanifest
      rw [hmanifest]
    simp only [hmanifest, hnone, Bool.false_eq_true, if_false]
    exact .same (congrArg Engine.incomingAttachments (Phone.engine_handleMessage ..))

end Table

/-! ## The table over a run -/

/-- The phone, and the senders and ids of the transfers that have ended with a whole file. -/
structure Slots where
  phone : Phone := {}
  finished : List (String × String) := []

/-- What comes in, and the end of the engine. -/
inductive SlotEvent where
  | handle (e : AttachmentEvent)
  | stop

def AttachmentEvent.now : AttachmentEvent → Nat
  | payload _ _ x => x.clock.millis
  | datagram _ x _ => x.clock.millis

/-- `stop` -/
def Phone.stop (s : Phone) : Phone :=
  { s with
    contactEndpoints := ∅
    verifiedContactKeys := ∅
    lastCallAudioSequence := ∅
    remoteCallOfferHashes := ∅
    incomingAttachments := ∅
    queue := { s.queue with pendingDeliveries := ∅ } }

/-- The transfer that a datagram ends with a whole file. -/
def finishedBy (s : Phone) : AttachmentEvent → List (String × String)
  | .payload .. => []
  | .datagram data x disk =>
    match s.acceptedChunk P data x.clock with
    | none => []
    | some (id, _, transfer) =>
      let after := (s.handleAttachmentDatagram P filesDir data x disk).1
      if (after.incomingAttachments.at? id).isNone && disk.opensOutput &&
          disk.assembled.any (isIntact P transfer.manifest) then [(transfer.senderId, id)]
      else []

/-- A day. -/
def transferLifetimeMs : Int := 24 * 60 * 60 * 1000

namespace Slots

def step (s : Slots) : SlotEvent → Slots
  | .handle e => ⟨e.step P filesDir s.phone, finishedBy P filesDir s.phone e ++ s.finished⟩
  | .stop => { s with phone := s.phone.stop }

/-- A transfer that may take a slot: parts of it are missing, it is not older than a day and it has not ended before. -/
def isLive (now : Nat) (finished : List (String × String)) (id : String) (t : IncomingAttachment) : Bool :=
  !t.isComplete && decide ((now : Int) - t.createdAt ≤ transferLifetimeMs) && !finished.contains (t.senderId, id)

/-- The phone with nothing but live transfers. -/
def onlyLive (s : Slots) (now : Nat) : Phone :=
  { s.phone with incomingAttachments := s.phone.incomingAttachments.filter fun e => isLive now s.finished e.1 e.2 }

/-- After an event only live transfers take slots, and so there is room for a manifest if the live ones leave some. -/
structure Recycles (s : Slots) (e : AttachmentEvent) : Prop where
  live : ∀ id t, (s.step P filesDir (.handle e)).phone.incomingAttachments.at? id = some t →
    isLive e.now (s.step P filesDir (.handle e)).finished id t = true
  room : ∀ p senderHex x, e = .payload p senderHex x →
    ∀ size, s.phone.hasRoom P size = (s.onlyLive e.now).hasRoom P size

def Recycled (s : Slots) : SlotEvent → Prop
  | .handle e => s.Recycles P filesDir e
  | .stop => True

/-! ## When slots are free again -/

/-- No transfer under way is older than a day. -/
def Fresh (s : Slots) (now : Nat) : Prop :=
  ∀ id t, s.phone.incomingAttachments.at? id = some t → (now : Int) - t.createdAt ≤ transferLifetimeMs

/-- The part is stored now. -/
def stores (t : IncomingAttachment) (index : Nat) (disk : Disk) : Bool :=
  decide (t.partFiles[index]? = some none) && disk.storeFails.isNone

/-- The part is stored now, and all others are there. -/
def isLastPart (t : IncomingAttachment) (index : Nat) (disk : Disk) : Bool :=
  stores t index disk && (Phone.withPart t index "").isComplete

/-- No transfer is too old, none is opened that has ended before, and once the last part is stored its acknowledgement
is sent and all parts are found. -/
def Guarded (s : Slots) : SlotEvent → Prop
  | .handle (.payload p senderHex x) => s.Fresh x.clock.millis ∧
      ∀ id, s.phone.opened P p senderHex = some id → (clean P.K senderHex, id) ∉ s.finished
  | .handle (.datagram data x disk) => s.Fresh x.clock.millis ∧
      ∀ id index t, s.phone.acceptedChunk P data x.clock = some (id, index, t) → isLastPart t index disk = true →
        disk.sendsAck = true ∧ disk.partsExist = true
  | .stop => True

/-- Transfers under way are incomplete and have not ended before. -/
def Tidy (s : Slots) : Prop :=
  ∀ id t, s.phone.incomingAttachments.at? id = some t → t.isComplete = false ∧ (t.senderId, id) ∉ s.finished

variable {P filesDir} {s : Slots} {now : Nat}

theorem isLive_iff {finished : List (String × String)} {id : String} {t : IncomingAttachment} :
    isLive now finished id t = true ↔
      t.isComplete = false ∧ (now : Int) - t.createdAt ≤ transferLifetimeMs ∧ (t.senderId, id) ∉ finished := by
  simp [isLive, and_assoc]

theorem forall_isLive_iff (hs : s.Tidy) :
    (∀ id t, s.phone.incomingAttachments.at? id = some t → isLive now s.finished id t = true) ↔ s.Fresh now := by
  constructor
  · exact fun h id t ht => (isLive_iff.1 (h id t ht)).2.1
  · exact fun h id t ht => isLive_iff.2 ⟨(hs id t ht).1, h id t ht, (hs id t ht).2⟩

theorem onlyLive_eq (hs : s.Tidy) (h : s.Fresh now) : s.onlyLive now = s.phone := by
  have hall : s.phone.incomingAttachments.filter (fun e => isLive now s.finished e.1 e.2) =
      s.phone.incomingAttachments := by
    refine KeyedList.ext (List.filter_eq_self.2 fun e he => ?_)
    exact (forall_isLive_iff hs).2 h e.1 e.2 (KeyedMap.at?_eq_some.2 he)
  unfold onlyLive
  rw [hall]

/-! ## Payloads -/

theorem recycles_payload (hs : s.Tidy) (p : Json) (senderHex : String) (x : Surroundings) :
    s.Recycles P filesDir (.payload p senderHex x) ↔ s.Guarded P (.handle (.payload p senderHex x)) := by
  have hroom : s.Fresh x.clock.millis → ∀ p' senderHex' x', AttachmentEvent.payload p senderHex x =
      .payload p' senderHex' x' → ∀ size, s.phone.hasRoom P size =
        (s.onlyLive (AttachmentEvent.payload p senderHex x).now).hasRoom P size := by
    intro hfresh _ _ _ _ size
    change _ = (s.onlyLive x.clock.millis).hasRoom P size
    rw [onlyLive_eq hs hfresh]
  have htable := tableStep_payload (P := P) (s := s.phone) p senderHex x
  have hstep : (s.step P filesDir (.handle (.payload p senderHex x))).phone.incomingAttachments =
      (s.phone.handleDirectPayload P p senderHex x).incomingAttachments := rfl
  cases hopened : s.phone.opened P p senderHex with
  | none =>
    rw [hopened] at htable
    cases htable with
    | same hsame =>
      constructor
      · intro h
        refine ⟨(forall_isLive_iff hs).1 fun id t ht => h.live id t ?_, fun id hid => by simp [hopened] at hid⟩
        rw [hstep, hsame]
        exact ht
      · intro h
        refine ⟨fun id t ht => ?_, hroom h.1⟩
        rw [hstep, hsame] at ht
        exact (forall_isLive_iff hs).2 h.1 id t ht
  | some id =>
    rw [hopened] at htable
    cases htable with
    | opens _ t hid ht hput =>
      constructor
      · intro h
        refine ⟨fun id' t' ht' => ?_, fun id' hid' => ?_⟩
        · have hne : id ≠ id' := fun heq => by
            rw [← heq, hid] at ht'
            cases ht'
          refine (isLive_iff.1 (h.live id' t' ?_)).2.1
          rw [hstep, hput, KeyedMap.at?_put, if_neg hne]
          exact ht'
        · obtain rfl := Option.some.inj (hopened.symm.trans hid')
          rw [← ht.senderId]
          refine (isLive_iff.1 (h.live id t ?_)).2.2
          rw [hstep, hput, KeyedMap.at?_put, if_pos rfl]
      · intro h
        refine ⟨fun id' t' ht' => ?_, hroom h.1⟩
        rw [hstep, hput, KeyedMap.at?_put] at ht'
        split at ht'
        · rename_i heq
          obtain rfl := Option.some.inj ht'
          refine isLive_iff.2 ⟨ht.incomplete, ?_, ?_⟩
          · rw [ht.createdAt]
            change (x.clock.millis : Int) - x.clock.millis ≤ transferLifetimeMs
            rw [Int.sub_self]
            decide
          · rw [ht.senderId, ← heq]
            exact h.2 id hopened
        · exact (forall_isLive_iff hs).2 h.1 id' t' ht'

/-! ## Datagrams -/

theorem age_of_acceptedChunk {s : Phone} {data : Bytes} {clock : Clock} {id : String} {index : Nat}
    {t : IncomingAttachment} (h : s.acceptedChunk P data clock = some (id, index, t)) :
    (clock.millis : Int) - t.createdAt ≤ transferLifetimeMs := by
  unfold Phone.acceptedChunk at h
  dsimp only at h
  split at h
  · cases h
  split at h
  · cases h
  split at h
  · split at h
    · cases h
    split at h
    · cases h
    · split at h
      · cases h
      · rename_i hnot
        split at h
        · simp only [Option.some.injEq, Prod.mk.injEq] at h
          obtain ⟨-, -, rfl⟩ := h
          unfold transferLifetimeMs
          omega
        · cases h
  · cases h

theorem incomingAttachments_afterPart (s : Phone) (id : String) (t : IncomingAttachment) (x : Surroundings)
    (disk : Disk) :
    (s.afterPart P filesDir id t x disk).1.incomingAttachments =
      if t.isComplete = true ∧ disk.sendsAck = true ∧ disk.partsExist = true then s.incomingAttachments.erase id
      else s.incomingAttachments := by
  have hgoes : (disk.sendsAck && t.partFiles.all Option.isSome && disk.partsExist) = true ↔
      t.isComplete = true ∧ disk.sendsAck = true ∧ disk.partsExist = true := by
    simp [IncomingAttachment.isComplete, and_left_comm, and_assoc]
  unfold Phone.afterPart
  by_cases hends : t.isComplete = true ∧ disk.sendsAck = true ∧ disk.partsExist = true
  · rw [if_pos hends, if_pos (hgoes.2 hends)]
    unfold Phone.finishIncomingAttachment
    dsimp only
    split
    · rfl
    split
    · rfl
    split
    · rfl
    · exact congrArg Engine.incomingAttachments (Phone.engine_completeIncomingAttachment ..)
  · rw [if_neg hends, if_neg fun h => hends (hgoes.1 h)]

theorem isComplete_withPart (t : IncomingAttachment) (index : Nat) (a b : String) :
    (Phone.withPart t index a).isComplete = (Phone.withPart t index b).isComplete :=
  AttachmentEvent.all_isSome_set a b

/-- The table after a part of an incomplete transfer. -/
theorem incomingAttachments_datagram {s : Phone} {data : Bytes} {x : Surroundings} {id : String} {index : Nat}
    {t : IncomingAttachment} (disk : Disk) (haccepted : s.acceptedChunk P data x.clock = some (id, index, t))
    (hincomplete : t.isComplete = false) :
    (s.handleAttachmentDatagram P filesDir data x disk).1.incomingAttachments =
      if stores t index disk = false then s.incomingAttachments
      else if isLastPart t index disk = true ∧ disk.sendsAck = true ∧ disk.partsExist = true then
        (s.incomingAttachments.put id (Phone.withPart t index (partPath filesDir id index))).erase id
      else s.incomingAttachments.put id (Phone.withPart t index (partPath filesDir id index)) := by
  have hafter : ∀ (s : Phone) (t : IncomingAttachment),
      (s.afterPart P filesDir id t x disk).1.incomingAttachments = _ :=
    fun s t => incomingAttachments_afterPart s id t x disk
  unfold Phone.handleAttachmentDatagram isLastPart stores
  rw [haccepted]
  dsimp only
  by_cases hmissing : t.partFiles[index]? = some none
  · rw [if_pos hmissing]
    cases hfails : disk.storeFails with
    | some n => simp
    | none =>
      rw [isComplete_withPart t index "" (partPath filesDir id index)]
      let t' := Phone.withPart t index (partPath filesDir id index)
      have hstored := hafter { s with incomingAttachments := s.incomingAttachments.put id t' } t'
      simpa [hmissing] using hstored
  · rw [if_neg hmissing, hafter, hincomplete]
    simp [hmissing]

theorem recycles_datagram (hs : s.Tidy) (data : Bytes) (x : Surroundings) (disk : Disk) :
    s.Recycles P filesDir (.datagram data x disk) ↔ s.Guarded P (.handle (.datagram data x disk)) := by
  have hroom : ∀ p' senderHex' x', AttachmentEvent.datagram data x disk = .payload p' senderHex' x' →
      ∀ size, s.phone.hasRoom P size =
        (s.onlyLive (AttachmentEvent.datagram data x disk).now).hasRoom P size := fun _ _ _ h => by cases h
  have hrecycles : s.Recycles P filesDir (.datagram data x disk) ↔
      ∀ id t, (s.phone.handleAttachmentDatagram P filesDir data x disk).1.incomingAttachments.at? id = some t →
        isLive x.clock.millis (finishedBy P filesDir s.phone (.datagram data x disk) ++ s.finished) id t = true :=
    ⟨fun h => h.live, fun h => ⟨h, hroom⟩⟩
  rw [hrecycles]
  cases haccepted : s.phone.acceptedChunk P data x.clock with
  | none =>
    have hsame : s.phone.handleAttachmentDatagram P filesDir data x disk = (s.phone, []) := by
      unfold Phone.handleAttachmentDatagram
      rw [haccepted]
    have hnone : finishedBy P filesDir s.phone (.datagram data x disk) = [] := by
      unfold finishedBy
      dsimp only
      rw [haccepted]
    rw [hsame, hnone, List.nil_append]
    refine (forall_isLive_iff hs).trans ⟨fun h => ⟨h, fun id index t ht => ?_⟩, fun h => h.1⟩
    rw [haccepted] at ht
    cases ht
  | some accepted =>
    obtain ⟨id, index, t⟩ := accepted
    obtain ⟨hat, -⟩ := AttachmentEvent.acceptedChunk_eq_some haccepted
    obtain ⟨hincomplete, hnew⟩ := hs id t hat
    have hage := age_of_acceptedChunk haccepted
    have htable : (s.phone.handleAttachmentDatagram P filesDir data x disk).1.incomingAttachments = _ :=
      incomingAttachments_datagram disk haccepted hincomplete
    -- an event that leaves the transfer in the table ends none
    have hkeeps : ∀ t', (s.phone.handleAttachmentDatagram P filesDir data x disk).1.incomingAttachments.at? id =
        some t' → finishedBy P filesDir s.phone (.datagram data x disk) = [] := by
      intro t' ht'
      unfold finishedBy
      dsimp only
      rw [haccepted]
      dsimp only
      rw [ht']
      rfl
    have hguarded : s.Guarded P (.handle (.datagram data x disk)) ↔ s.Fresh x.clock.millis ∧
        (isLastPart t index disk = true → disk.sendsAck = true ∧ disk.partsExist = true) := by
      refine and_congr_right fun _ => ⟨fun h => h id index t haccepted, fun h id' index' t' h' => ?_⟩
      rw [haccepted] at h'
      cases h'
      exact h
    rw [hguarded]
    cases hstores : stores t index disk with
    | false =>
      rw [if_pos hstores] at htable
      rw [htable, hkeeps t (by rw [htable]; exact hat), List.nil_append]
      refine (forall_isLive_iff hs).trans ⟨fun h => ⟨h, fun hlast => ?_⟩, fun h => h.1⟩
      unfold isLastPart at hlast
      rw [hstores] at hlast
      cases hlast
    | true =>
      rw [if_neg (by rw [hstores]; simp)] at htable
      by_cases hends : isLastPart t index disk = true ∧ disk.sendsAck = true ∧ disk.partsExist = true
      · rw [if_pos hends] at htable
        have hother : ∀ id', (s.phone.handleAttachmentDatagram P filesDir data x disk).1.incomingAttachments.at? id' =
            if id = id' then none else s.phone.incomingAttachments.at? id' := by
          intro id'
          rw [htable, KeyedMap.at?_erase, KeyedMap.at?_put]
          split <;> rfl
        have hfinished : ∀ r ∈ finishedBy P filesDir s.phone (.datagram data x disk), r.2 = id := by
          intro r hr
          unfold finishedBy at hr
          dsimp only at hr
          rw [haccepted] at hr
          dsimp only at hr
          split at hr
          · rw [List.mem_singleton.1 hr]
          · cases hr
        constructor
        · refine fun h => ⟨fun id' t' ht' => ?_, fun _ => hends.2⟩
          by_cases heq : id = id'
          · rw [← heq, hat] at ht'
            obtain rfl := Option.some.inj ht'
            exact hage
          · exact (isLive_iff.1 (h id' t' (by rw [hother, if_neg heq]; exact ht'))).2.1
        · rintro ⟨hfresh, -⟩ id' t' ht'
          rw [hother] at ht'
          split at ht'
          · cases ht'
          · rename_i heq
            refine isLive_iff.2 ⟨(hs id' t' ht').1, hfresh id' t' ht', fun hmem => ?_⟩
            rcases List.mem_append.1 hmem with hmem | hmem
            · exact heq (hfinished _ hmem).symm
            · exact (hs id' t' ht').2 hmem
      · rw [if_neg hends] at htable
        have hput : ∀ id', (s.phone.handleAttachmentDatagram P filesDir data x disk).1.incomingAttachments.at? id' =
            if id = id' then some (Phone.withPart t index (partPath filesDir id index))
            else s.phone.incomingAttachments.at? id' := fun id' => by rw [htable, KeyedMap.at?_put]
        rw [hkeeps _ ((hput id).trans (if_pos rfl)), List.nil_append]
        have hcomplete :
            isLastPart t index disk = (Phone.withPart t index (partPath filesDir id index)).isComplete := by
          unfold isLastPart
          rw [hstores, Bool.true_and, isComplete_withPart]
        constructor
        · intro h
          have hlive := isLive_iff.1 (h id _ ((hput id).trans (if_pos rfl)))
          refine ⟨fun id' t' ht' => ?_, fun hlast => ?_⟩
          · by_cases heq : id = id'
            · rw [← heq, hat] at ht'
              obtain rfl := Option.some.inj ht'
              exact hage
            · exact (isLive_iff.1 (h id' t' (by rw [hput, if_neg heq]; exact ht'))).2.1
          · rw [hcomplete, hlive.1] at hlast
            cases hlast
        · rintro ⟨hfresh, hlast⟩ id' t' ht'
          rw [hput] at ht'
          split at ht'
          · rename_i heq
            obtain rfl := Option.some.inj ht'
            refine isLive_iff.2 ⟨?_, hage, heq ▸ hnew⟩
            rw [← hcomplete, Bool.eq_false_iff]
            exact fun h => hends ⟨h, hlast h⟩
          · exact (forall_isLive_iff hs).2 hfresh id' t' ht'

/-! ## Runs -/

theorem recycled_iff (hs : s.Tidy) (e : SlotEvent) : s.Recycled P filesDir e ↔ s.Guarded P e := by
  cases e with
  | handle e =>
    cases e with
    | payload p senderHex x => exact recycles_payload hs p senderHex x
    | datagram data x disk => exact recycles_datagram hs data x disk
  | stop => exact Iff.rfl

theorem tidy_step (e : SlotEvent) (h : s.Recycled P filesDir e) : (s.step P filesDir e).Tidy := by
  cases e with
  | handle e =>
    intro id t ht
    have hlive := isLive_iff.1 (h.live id t ht)
    exact ⟨hlive.1, hlive.2.2⟩
  | stop => exact fun id t ht => by cases ht

open BobsPhone NodeX.Sample Messenger.Sample

/-- Alice announces a file of one byte under this id. -/
def announcing (id : String) : Json :=
  .object [("id", .string id), ("attachment_manifest", .object [("version", .nat 1), ("attachment_id", .string id),
    ("file_name", .string "a.txt"), ("file_size", .nat 1), ("chunk_size", .nat 350), ("chunk_count", .nat 1),
    ("sha256", .string (hexString (Crypto.transparent.sha256 [65])))])]

theorem later_lt : 90001 < 2 ^ 40 := by decide

/-- More than a day after `arrival`. -/
def later : Surroundings := { clock := clockAfter 90001 later_lt }

def account : Account := BobsPhone.account fun _ => none

def fourAnnounced : List SlotEvent :=
  ["a1", "a2", "a3", "a4"].map fun id => .handle (.payload (announcing id) alice.userIdHex arrival)

end Slots

end NodeX.Android
