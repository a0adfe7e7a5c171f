/-
The delivered flag of a message to another user. The inbox sets it for a signed receipt of the recipient;
`send_file` and `send_voice_note` set it as soon as the transport has accepted the envelope.
-/
import NodeX.Messenger.Flow

namespace NodeX.Messenger

open NodeX.Lib

variable {C : Crypto} (J : PayloadJson) (T : PresenceText) {me : UserIdentity C}

/-- An outgoing message to one other user. -/
def IsDirect (me : UserIdentity C) (m : SavedChatMessage) : Prop :=
  m.incoming = false ∧ m.groupId = none ∧ isSelf me m.recipientIdHex = false

instance (m : SavedChatMessage) : Decidable (IsDirect me m) := inferInstanceAs (Decidable (_ ∧ _ ∧ _))

/-- Among the receipts is one for the message, signed by the recipient and from its envelope. -/
def Confirmed (receipts : List (Verified me × DeliveryReceipt)) (m : SavedChatMessage) : Prop :=
  ∃ p ∈ receipts, (p.1.payload J).deliveryReceipt = some p.2 ∧ p.2.messageId = m.id ∧
    p.1.senderHex = m.recipientIdHex ∧ p.2.verify C p.1.envelope.senderEd25519Pub = true

instance (receipts : List (Verified me × DeliveryReceipt)) (m : SavedChatMessage) :
    Decidable (Confirmed J receipts m) :=
  inferInstanceAs (Decidable (∃ p ∈ receipts, _))

namespace Client

/-- What is stored as delivered was confirmed by its recipient. -/
def DeliveredByReceipt (s : Client me) : Prop :=
  ∀ k m, s.db.message? k = some m → IsDirect me m → m.delivered = true → Confirmed J s.receipts m

/-- The transport does not accept a file or voice note to another user. -/
def NoAttachmentAccepted (s : Client me) : ClientAction → Prop
  | .finish i _ _ => ∀ a ∈ s.attempts[i]?, ∀ msg ∈ a.job.attachment?, isSelf me msg.recipientIdHex = false →
    a.sealed.isOk = false
  | _ => True

instance (s : Client me) : ∀ a, Decidable (s.NoAttachmentAccepted a)
  | .finish i _ _ => inferInstanceAs (Decidable (∀ a ∈ s.attempts[i]?, ∀ msg ∈ a.job.attachment?,
      isSelf me msg.recipientIdHex = false → a.sealed.isOk = false))
  | .receive .. | .handle .. | .audioFrame .. | .localOp .. | .sendMessage .. | .sendFile .. | .sendVoiceNote ..
  | .reactToMessage .. | .editMessage .. | .sendGroupMessage .. | .sendCallSignal .. | .sendCallAudio ..
  | .deleteMessagesForEveryone .. | .popPending .. | .transmit .. | .proceed .. | .restart .. =>
    inferInstanceAs (Decidable True)

/-! ## The invariant -/

/-- A message that is not a direct one, not delivered, or confirmed. -/
def Honest (receipts : List (Verified me × DeliveryReceipt)) (m : SavedChatMessage) : Prop :=
  IsDirect me m → m.delivered = true → Confirmed J receipts m

/-- The messages under way are not delivered, and the flag is honest wherever a message is stored. -/
def HonestInv (s : Client me) : Prop :=
  s.All (Honest J s.receipts) (Honest J s.receipts) (fun _ => True)
    (fun a => ∀ msg, a.job.message? = some msg → msg.delivered = false)
    (fun t => ∀ msg, t = .store msg → msg.delivered = false)

section Invariant

variable {J T} {s : Client me} {receipts receipts' : List (Verified me × DeliveryReceipt)} {m : SavedChatMessage}

theorem honest_of_undelivered (h : m.delivered = false) : Honest J receipts m := by
  intro _ hd
  rw [h] at hd
  cases hd

theorem honest_of_incoming (h : m.incoming = true) : Honest J receipts m := by
  rintro ⟨hout, -, -⟩
  rw [h] at hout
  cases hout

theorem honest_of_isSelf (h : isSelf me m.recipientIdHex = true) : Honest J receipts m := by
  rintro ⟨-, -, hother⟩
  rw [h] at hother
  cases hother

theorem honest_of_group {groupId : String} (h : m.groupId = some groupId) : Honest J receipts m := by
  rintro ⟨-, hdirect, -⟩
  rw [h] at hdirect
  cases hdirect

theorem Honest.mono (h : Honest J receipts m) (hsub : ∀ p ∈ receipts, p ∈ receipts') : Honest J receipts' m := by
  intro hd hdel
  obtain ⟨p, hp, hconf⟩ := h hd hdel
  exact ⟨p, hsub p hp, hconf⟩

/-- A receipt branch is taken for a receipt that verifies. -/
theorem branch_deliveryReceipt {e : EncryptedEnvelope} {p : ChatMessagePayload} {r : DeliveryReceipt}
    (h : branch J me e p = .deliveryReceipt r) :
    p.deliveryReceipt = some r ∧ r.verify C e.senderEd25519Pub = true := by
  unfold branch at h
  split at h
  · rename_i r' hr
    cases h
    exact Option.filter_eq_some_iff.1 hr
  · repeat' split at h
    all_goals cases h

/-- What handling makes of an honest message is honest, with the receipt it handled. -/
theorem honest_came {v : Verified me} {db : MessengerDb} {k : String}
    (hdb : ∀ k m, db.message? k = some m → Honest J receipts' m)
    (hr : ∀ r, branch J me v.envelope (v.payload J) = .deliveryReceipt r → (v, r) ∈ receipts')
    (h : Handled.Came J v db k m) : Honest J receipts' m := by
  cases h with
  | message hb => exact honest_of_incoming rfl
  | same hm => exact hdb k m hm
  | confirmed hm hb hid hrecipient hout =>
    -- the receipt handled now is the one asked for
    intro _ _
    obtain ⟨hp, hverify⟩ := branch_deliveryReceipt hb
    exact ⟨(v, _), hr _ hb, hp, hid.trans (MessengerDb.id_of_message? hm).symm, hrecipient.symm, hverify⟩
  | @reacted m₀ hm emoji reactor => exact fun hd hdel => hdb k m₀ hm hd hdel
  | @edited m₀ hm hb hid hauthor ts => exact fun hd hdel => hdb k m₀ hm hd hdel

variable (J T) in
theorem receipts_handle {e : EncryptedEnvelope} (now : Nat) (dht : Dht) (saved : Bool) {v : Verified me}
    (hv : s.inbox.admitted.find? (·.envelope = e) = some v) :
    (∀ p ∈ s.receipts, p ∈ (s.handle J T e now dht saved).receipts) ∧
      ∀ r, branch J me v.envelope (v.payload J) = .deliveryReceipt r →
        (v, r) ∈ (s.handle J T e now dht saved).receipts := by
  unfold handle
  rw [hv]
  dsimp only
  constructor
  · intro p hp
    split
    · exact List.mem_append_left _ hp
    · exact hp
  · intro r hr
    rw [hr]
    exact List.mem_append_right _ List.mem_cons_self

/-- The receipts stay, and the rest is as before. -/
theorem HonestInv.of_receipts {s' : Client me} (hr : s'.receipts = s.receipts)
    (h : s'.All (Honest J s.receipts) (Honest J s.receipts) (fun _ => True)
      (fun a => ∀ msg, a.job.message? = some msg → msg.delivered = false)
      (fun t => ∀ msg, t = .store msg → msg.delivered = false)) : HonestInv J s' := by
  unfold HonestInv
  rw [hr]
  exact h

theorem HonestInv.handle (h : HonestInv J s) (e : EncryptedEnvelope) (now : Nat) (dht : Dht) (saved : Bool) :
    HonestInv J (s.handle J T e now dht saved) := by
  cases hv : s.inbox.admitted.find? (·.envelope = e) with
  | none =>
    rw [Client.handle, hv]
    exact h
  | some v =>
    obtain ⟨hold, hnew⟩ := receipts_handle J T now dht saved hv
    have hmono := h.imp (fun m hm => hm.mono hold) (fun m hm => hm.mono hold) (fun _ hq => hq) (fun _ ha => ha)
      (fun _ ht => ht)
    refine hmono.handle (fun _ hm => hm) saved (fun v' hv' k m hcame => ?_) (fun _ _ _ _ hm => by cases hm)
    obtain rfl := Option.some.inj (hv.symm.trans hv')
    exact honest_came (fun k m hm => hmono.stored k m hm) hnew hcame

/-- No step but the end of an accepted attachment marks what no receipt confirms. -/
theorem HonestInv.step {a : ClientAction} (h : HonestInv J s) (hok : s.NoAttachmentAccepted a) :
    HonestInv J (s.step J T a) := by
  have hSD : ∀ m, Honest J s.receipts m → Honest J s.receipts m := fun _ hm => hm
  have honce : ∀ msg, Job.once.message? = some msg → msg.delivered = false := fun msg hm => by cases hm
  cases a with
  | handle e now dht saved => exact h.handle e now dht saved
  | receive e now => exact .of_receipts rfl (h.receive e now)
  | audioFrame packet => exact ⟨h.stored, h.saved, h.queue, h.attempts, h.todo⟩
  | localOp op saved =>
    refine .of_receipts (history_localOp op saved).1 (h.localOp hSD op saved fun m hm hd hdel => hm hd hdel)
  | sendMessage r text image now random x saved =>
    refine .of_receipts (receipts_step (by rintro _ _ _ _ ⟨⟩)) (h.sendMessage hSD x saved
      (fun hself => honest_of_isSelf hself) fun _ hmsg _ _ _ msg hm => ?_)
    cases hm
    rw [hmsg]
    rfl
  | sendFile r text manifest now random x =>
    refine .of_receipts (receipts_deliver ..) ((h.record _).deliver hSD x fun _ msg hm => ?_)
    cases hm
    rfl
  | sendVoiceNote r note now random x saved =>
    refine .of_receipts (receipts_step (by rintro _ _ _ _ ⟨⟩)) (h.sendVoiceNote hSD x saved
      (fun hself _ => honest_of_isSelf hself) fun _ _ hmsg _ _ msg hm => ?_)
    cases hm
    rw [hmsg]
    rfl
  | reactToMessage r id emoji now x saved =>
    exact .of_receipts (receipts_deliver ..) (h.reactToMessage hSD x saved (fun m hm hd hdel => hm hd hdel)
      fun _ => honce)
  | editMessage r id text now x saved =>
    exact .of_receipts (receipts_deliver ..) (h.editMessage hSD x saved (fun m _ hm hd hdel => hm hd hdel)
      fun _ _ _ => honce)
  | sendGroupMessage groupId text members now random saved =>
    exact .of_receipts (history_sendGroupMessage ..).1 (h.sendGroupMessage hSD saved (honest_of_group rfl)
      fun _ _ _ _ _ _ _ _ _ hm => by cases hm)
  | sendCallSignal r callId signalType text now random x =>
    exact .of_receipts (receipts_deliver ..) (h.deliver hSD x fun _ => honce)
  | sendCallAudio r callId samples rate seq routing nonce ephSeed => exact h
  | deleteMessagesForEveryone r ids now x saved =>
    exact .of_receipts (history_deleteMessagesForEveryone ..).1 (h.deleteMessagesForEveryone hSD x saved
      fun _ _ => honce)
  | popPending now x =>
    exact .of_receipts (history_popPending ..).1 (h.popPending hSD x fun _ _ _ _ msg hm => by cases hm)
  | transmit i => exact h
  | finish i now saved =>
    refine .of_receipts (history_finish ..).1 (h.finish now saved fun a ha hjob s' hs' =>
      hs'.afterAttempt hSD now saved (fun msg _ hm _ => honest_of_undelivered (hjob msg hm)) ?_
        (fun _ _ _ _ _ ht => by cases ht)
        (fun msg hm => ⟨?_, fun _ _ _ => trivial⟩) fun _ _ _ => trivial)
    · -- an accepted file or voice note is stored as delivered, so it must be the user's own chat
      intro msg e hmsg hsealed
      have hatt : a.job.attachment? = some msg := by rcases hmsg with hj | hj <;> rw [hj] <;> rfl
      refine honest_of_isSelf (eq_true_of_ne_false fun hother => ?_)
      have hfail := hok a ha msg hatt hother
      rw [hsealed] at hfail
      cases hfail
    · intro msg' hstore
      cases hstore
      exact hjob msg (by rw [hm]; rfl)
  | proceed j now x saved =>
    refine .of_receipts (history_proceed ..).1 (h.proceed hSD x saved (fun msg hw => honest_of_undelivered (hw msg rfl))
      (fun _ _ _ _ _ _ => trivial) (fun _ _ _ _ => honce) fun _ _ _ _ => honce)
  | restart now =>
    exact .of_receipts (history_restart now).1 (h.restart now h.saved fun _ _ _ _ _ _ _ _ => trivial)

end Invariant

/-- In every run whose file and voice transfers to others are not accepted, what is stored as delivered was confirmed
by a receipt of its recipient. -/
theorem run_deliveredByReceipt (as : List ClientAction)
    (h : Steps (step J T) NoAttachmentAccepted ({} : Client me) as) :
    DeliveredByReceipt J (run (step J T) ({} : Client me) as) := by
  have hinit : HonestInv J ({} : Client me) :=
    ⟨fun k m hm => (by cases hm), fun _ hd => (by cases hd), fun _ hq => (by cases hq), fun _ ha => (by cases ha),
      fun _ ht => by cases ht⟩
  have hrun : HonestInv J (run (step J T) ({} : Client me) as) :=
    run_invariant (I := HonestInv J) (fun s a hI ha => hI.step ha) hinit h
  exact hrun.stored

end Client

/-! ## A message and a file -/

namespace Acknowledged

open NodeX.Sample Talk

/-- Bob's receipt. -/
def receipt : EncryptedEnvelope :=
  encryptEnvelope .transparent bob alice.userId alice.x25519Public (print (receiptPayload bob messageId 1700000005))
    (List.replicate 32 2) (List.replicate 12 2) 1700000005

def texts : PayloadJson := json [receiptPayload bob messageId 1700000005]

def actions : List ClientAction :=
  .localOp (.addContact bobContact) true :: message ++ [
    .receive receipt 1700000006, .handle receipt 1700000006 (fun _ => .ok none) true]

def manifest : FileManifest :=
  { fileId := "f1", fileName := "a.pdf", fileSize := 3, mimeType := "application/pdf", sha256Root := "",
    chunkSize := 65536
    chunkCount := 1, chunkHashes := [""], encryptionKeyHex := "", thumbnailBase64 := none }

/-- A file for Bob, and the transport accepts the envelope. -/
def file : List ClientAction := [
  .sendFile bob.userIdHex "a.pdf" manifest 1700000000 7 (sealing 1700000000),
  .transmit 0, .finish 0 1700000001 true]

end Acknowledged

open Acknowledged Talk NodeX.Sample in
/-- A message that is delivered when Bob's receipt has come, and not before. -/
theorem Client.run_deliveredByReceipt_message :
    (((after texts message).db.message? messageId).map (·.delivered)) = some false ∧
      (((run (Client.step texts presenceText) ({} : Client alice) actions).db.message? messageId).map (·.delivered)) =
        some true ∧
      Client.DeliveredByReceipt texts (run (Client.step texts presenceText) ({} : Client alice) actions) := by
  obtain ⟨hbefore, hafter, hsteps⟩ :
      ((after texts message).db.message? messageId).map (·.delivered) = some false ∧
      ((run (Client.step texts presenceText) ({} : Client alice) actions).db.message? messageId).map (·.delivered) =
        some true ∧
      Steps (Client.step texts presenceText) Client.NoAttachmentAccepted ({} : Client alice) actions := by
    decide +kernel
  exact ⟨hbefore, hafter, Client.run_deliveredByReceipt texts presenceText actions hsteps⟩

open Acknowledged Talk NodeX.Sample in
/-- The file is stored as delivered, and no receipt has come. -/
theorem Client.run_deliveredByReceipt_file :
    (after texts file).receipts = [] ∧ ¬ Client.DeliveredByReceipt texts (after texts file) := by
  obtain ⟨hreceipts, hstored⟩ : (after texts file).receipts.isEmpty = true ∧
      ((after texts file).db.message? messageId).any (fun m => decide (IsDirect alice m) && m.delivered) = true := by
    decide +kernel
  have hnone := List.isEmpty_iff.1 hreceipts
  refine ⟨hnone, fun h => ?_⟩
  obtain ⟨m, hm, hm'⟩ := (Option.any_eq_true _ _).1 hstored
  obtain ⟨hdirect, hdelivered⟩ := Bool.and_eq_true_iff.1 hm'
  obtain ⟨p, hp, -⟩ := h messageId m hm (of_decide_eq_true hdirect) hdelivered
  rw [hnone] at hp
  cases hp

end NodeX.Messenger
