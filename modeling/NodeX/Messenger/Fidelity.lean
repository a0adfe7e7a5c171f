/-
What a retry carries. The first attempt's payload is made from the call's arguments, a retry's from the copy in the
outbox, and after a restart from the stored message; the recipient tells from a payload's fields whether it is a
message or an edit.
-/
import NodeX.Messenger.Flow
import NodeX.Messenger.Redelivery

namespace NodeX.Messenger

open NodeX.Lib

variable {C : Crypto} {J : PayloadJson} {T : PresenceText} {me : UserIdentity C}

/-! ## Messages as they were first sent -/

theorem isEmpty_newMessageId (me : UserIdentity C) (now : Nat) (random : UInt32) :
    (newMessageId me now random).isEmpty = false := by
  simp [newMessageId]

/-- The first attempt carried just what the stored message says, and it was no edit. -/
structure Original (sent : KeyedList ChatMessagePayload.id) (m : SavedChatMessage) : Prop where
  id : m.id.isEmpty = false
  unedited : m.isEdited = false
  first : sent.get? m.id = some (messagePayload m)

theorem Original.upsert {sent : KeyedList ChatMessagePayload.id} {m : SavedChatMessage} (h : Original sent m)
    {p : ChatMessagePayload} (hp : sent.get? p.id = none) : Original (sent.upsert p) m := by
  refine ⟨h.id, h.unedited, ?_⟩
  have hne : p.id ≠ m.id := by
    intro heq
    rw [heq, h.first] at hp
    cases hp
  rw [KeyedList.get?_upsert, if_neg hne, h.first]

/-- Only what the payload carries matters, not pins and reactions. -/
theorem Original.congr {sent : KeyedList ChatMessagePayload.id} {m m' : SavedChatMessage} (h : Original sent m)
    (hpayload : messagePayload m' = messagePayload m) : Original sent m' := by
  have hid : m'.id = m.id := congrArg ChatMessagePayload.id hpayload
  have hedited : m'.isEdited = m.isEdited := congrArg ChatMessagePayload.isEdited hpayload
  exact ⟨by rw [hid, h.id], by rw [hedited, h.unedited], by rw [hid, hpayload, h.first]⟩

/-- The payload of an unedited message is a new message at whoever gets it. -/
theorem branch_messagePayload (you : UserIdentity C) (e : EncryptedEnvelope) {m : SavedChatMessage}
    (h : m.isEdited = false) : branch J you e (messagePayload m) = .newMessage := by
  have hmessage : ((messagePayload m).isEdited && !(messagePayload m).id.isEmpty) = false := by
    rw [messagePayload, h, Bool.false_and]
  -- none of the fields that the branches before it look for is there
  exact if_neg (ne_true_of_eq_false hmessage)

/-! ## The recipient -/

/-- Nothing is stored under the id, and nothing retracted it. -/
def MessengerDb.Unseen (db : MessengerDb) (author id : String) : Prop :=
  db.message? id = none ∧ db.isTombstoned author id = false

/-- The payload has the manifest of the first one, and whoever has not seen the message and handles the payload in
an envelope of the author's stores the message, with the author's text and the attachments of the first payload. -/
structure Conveys (J : PayloadJson) (T : PresenceText) (me : UserIdentity C) (m : SavedChatMessage)
    (first payload : ChatMessagePayload) : Prop where
  fileManifest : payload.fileManifest = first.fileManifest
  stored : ∀ (you : UserIdentity C) (h : Handling you) (db : MessengerDb), h.v.payload J = payload →
    h.v.senderHex = me.userIdHex → db.Unseen me.userIdHex m.id →
    ∃ m', (h.apply J T db).message? m.id = some m' ∧ m'.text = m.text ∧ m'.imageBase64 = first.imageBase64 ∧
      m'.voiceNote = first.voiceNote ∧ m'.replyToId = first.replyToId ∧ m'.replySnippet = first.replySnippet

/-- The payload of a message that is as it was first sent conveys it. -/
theorem Original.conveys {sent : KeyedList ChatMessagePayload.id} {m : SavedChatMessage} (h : Original sent m) :
    Conveys J T me m (messagePayload m) (messagePayload m) := by
  refine ⟨rfl, fun you hd db hp hsender hunseen => ?_⟩
  have hbranch : hd.branch J = .newMessage := by
    rw [Handling.branch, hp]
    exact branch_messagePayload you _ h.unedited
  have hmessage : hd.message J = chatMessage you hd.v.envelope (messagePayload m) := by rw [Handling.message, hp]
  have hid : (hd.message J).id = m.id := by
    rw [hmessage, chatMessage]
    exact if_neg (by rw [messagePayload, h.id]; decide)
  refine ⟨hd.message J, ?_, ?_⟩
  · rw [message?_apply_of_newMessage hbranch, if_pos ⟨hid, hsender ▸ hunseen.2⟩]
  · rw [hmessage]
    exact ⟨rfl, rfl, rfl, rfl, rfl⟩

/-- A file that could not be sent at once. -/
def Attempt.failedFile (a : Attempt) : Bool :=
  match a.job, a.sealed with
  | .file _, .err _ => true
  | _, _ => false

namespace Client

/-- A packet of the retry worker's conveys the message as it is stored, where it is the user's own and waits for
the receipt. -/
def RetriesFaithfully (J : PayloadJson) (T : PresenceText) (s : Client me) : ClientAction → Prop
  | .transmit i => ∀ a ∈ s.attempts[i]?, ∀ item since, a.job = .retry item since →
    ∀ m, s.db.message? item.message.id = some m → m.incoming = false → m.delivered = false →
    ∃ first, s.sent.get? m.id = some first ∧ Conveys J T me m first a.payload
  | _ => True

/-- A message gets an id that none had; no message that waits for its receipt is edited, by the user or by an
envelope of its sender's; and no file that could not be sent at once is left to the outbox. -/
def KeepsPayload (J : PayloadJson) (s : Client me) : ClientAction → Prop
  | .sendMessage _ _ _ now random _ _ | .sendFile _ _ _ now random _ | .sendVoiceNote _ _ now random _ _ =>
    s.sent.get? (newMessageId me now random) = none
  | .editMessage _ id .. => ∀ m ∈ s.db.message? id, m.incoming = false → m.delivered = true
  | .handle e .. => ∀ v ∈ s.inbox.admitted.find? (·.envelope = e), branch J me v.envelope (v.payload J) = .edit →
    ∀ m ∈ s.db.message? (v.payload J).id, m.incoming = false → m.senderIdHex = v.senderHex → m.delivered = true
  | .finish i .. => ∀ a ∈ s.attempts[i]?, a.failedFile = false
  | _ => True

instance (s : Client me) : ∀ a, Decidable (s.KeepsPayload J a)
  | .sendMessage _ _ _ now random _ _ | .sendFile _ _ _ now random _ | .sendVoiceNote _ _ now random _ _ =>
    inferInstanceAs (Decidable (s.sent.get? (newMessageId me now random) = none))
  | .editMessage _ id .. =>
    inferInstanceAs (Decidable (∀ m ∈ s.db.message? id, m.incoming = false → m.delivered = true))
  | .handle e .. => inferInstanceAs (Decidable (∀ v ∈ s.inbox.admitted.find? (·.envelope = e),
      branch J me v.envelope (v.payload J) = .edit → ∀ m ∈ s.db.message? (v.payload J).id, m.incoming = false →
      m.senderIdHex = v.senderHex → m.delivered = true))
  | .finish i .. => inferInstanceAs (Decidable (∀ a ∈ s.attempts[i]?, a.failedFile = false))
  | .receive .. | .audioFrame .. | .localOp .. | .reactToMessage .. | .sendGroupMessage .. | .sendCallSignal ..
  | .sendCallAudio .. | .deleteMessagesForEveryone .. | .popPending .. | .transmit .. | .proceed .. | .restart .. =>
    inferInstanceAs (Decidable True)

/-! ## The invariant -/

/-- The user's own undelivered messages are as they were first sent, in memory and on disk, and so is every message
that the outbox has, an attempt may leave to it, or a task will store or queue. -/
def Unaltered (sent : KeyedList ChatMessagePayload.id) (s : Client me) : Prop :=
  s.All (fun m => m.incoming = false → m.delivered = false → Original sent m)
    (fun m => m.incoming = false → m.delivered = false → Original sent m)
    (fun q => Original sent q.message)
    (fun a => (∀ msg, a.job = .message msg ∨ a.job = .voiceNote msg → Original sent msg) ∧
      ∀ item since, a.job = .retry item since → Original sent item.message ∧ a.payload = messagePayload item.message)
    (fun t => ∀ msg, (t = .store msg ∨ ∃ r, t = .push msg r) → Original sent msg)

section Invariant

variable {s : Client me} {sent : KeyedList ChatMessagePayload.id}

theorem Unaltered.upsert (h : s.Unaltered sent) {p : ChatMessagePayload} (hp : sent.get? p.id = none) :
    s.Unaltered (sent.upsert p) :=
  h.imp (fun _ hm hin hdel => (hm hin hdel).upsert hp) (fun _ hm hin hdel => (hm hin hdel).upsert hp)
    (fun _ hq => hq.upsert hp)
    (fun _ ha => ⟨fun msg hjob => (ha.1 msg hjob).upsert hp, fun item since hjob =>
      ⟨(ha.2 item since hjob).1.upsert hp, (ha.2 item since hjob).2⟩⟩)
    fun _ ht msg hmsg => (ht msg hmsg).upsert hp

/-- A message that is made, and its payload noted. -/
theorem original_outgoing {msg : SavedChatMessage} (hid : msg.id.isEmpty = false) (hedited : msg.isEdited = false) :
    Original (sent.upsert (messagePayload msg)) msg :=
  ⟨hid, hedited, by rw [KeyedList.get?_upsert]; exact if_pos rfl⟩

/-- A payload that is noted and sent, for a message or none. -/
theorem Unaltered.recordDeliver {job : Job} {p : ChatMessagePayload} (h : s.Unaltered s.sent)
    (hnew : s.sent.get? p.id = none)
    (hjob : ∀ msg, job = .message msg ∨ job = .voiceNote msg → Original (s.sent.upsert p) msg)
    (hretry : ∀ item since, job ≠ .retry item since) (r : String) (x : Sealing) :
    ((s.record p).deliver J T job r p x).Unaltered ((s.record p).deliver J T job r p x).sent := by
  rw [sent_deliver]
  exact (All.record (h.upsert hnew) _).deliver (fun _ hm => hm) x fun _ =>
    ⟨hjob, fun item since hitem => absurd hitem (hretry item since)⟩

theorem Unaltered.sendMessage {r text : String} {image : Option String} {now : Nat} {random : UInt32} (x : Sealing)
    (saved : Bool) (h : s.Unaltered s.sent) (hnew : s.sent.get? (newMessageId me now random) = none) :
    (s.sendMessage J T r text image now random x saved).Unaltered
      (s.sendMessage J T r text image now random x saved).sent := by
  unfold Client.sendMessage
  split
  · exact h
  · dsimp only
    split
    · refine h.storeWithSelf (fun _ hm => hm) (fun _ hdel => ?_) saved
      cases hdel
    · refine h.recordDeliver ?_ (fun msg hjob => ?_) (by simp) r x
      · exact hnew
      · rcases hjob with hjob | hjob <;> cases hjob
        exact original_outgoing (isEmpty_newMessageId me now random) rfl

theorem Unaltered.sendVoiceNote {r : String} {note : VoiceNote} {now : Nat} {random : UInt32} (x : Sealing)
    (saved : Bool) (h : s.Unaltered s.sent) (hnew : s.sent.get? (newMessageId me now random) = none) :
    (s.sendVoiceNote J T r note now random x saved).Unaltered (s.sendVoiceNote J T r note now random x saved).sent := by
  unfold Client.sendVoiceNote
  dsimp only
  split
  · refine h.storeWithSelf (fun _ hm => hm) (fun _ hdel => ?_) saved
    cases hdel
  · refine h.recordDeliver ?_ (fun msg hjob => ?_) (by simp) r x
    · exact hnew
    · rcases hjob with hjob | hjob <;> cases hjob
      exact original_outgoing (isEmpty_newMessageId me now random) rfl

/-- A file's first payload is noted too; the message is not yet anywhere. -/
theorem Unaltered.sendFile {r text : String} {manifest : FileManifest} {now : Nat} {random : UInt32} (x : Sealing)
    (h : s.Unaltered s.sent) (hnew : s.sent.get? (newMessageId me now random) = none) :
    (s.sendFile J T r text manifest now random x).Unaltered (s.sendFile J T r text manifest now random x).sent := by
  refine h.recordDeliver ?_ (by simp) (by simp) r x
  exact hnew

/-- What comes in alters no message of the user's that waits for its receipt. -/
theorem Unaltered.handle (h : s.Unaltered sent) {e : EncryptedEnvelope} {now : Nat} {dht : Dht} (saved : Bool)
    (hok : s.KeepsPayload J (.handle e now dht saved)) : (s.handle J T e now dht saved).Unaltered sent := by
  refine All.handle h (fun _ hm => hm) saved (fun v hv k m hcame => ?_) fun _ _ _ msg hmsg => ?_
  · cases hcame with
    | message hb => exact fun hin => by cases hin
    | same hm => exact h.stored k m hm
    | confirmed hm => exact fun _ hdel => by cases hdel
    | @reacted m₀ hm => exact fun hin hdel => (h.stored k m₀ hm hin hdel).congr rfl
    | @edited m₀ hm hb hid hauthor =>
      -- by assumption the message its own sender edits is delivered
      intro hin hdel
      have hdelivered : m₀.delivered = true := hok v hv hb m₀ (hid ▸ hm) hin hauthor
      have hdel : m₀.delivered = false := hdel
      rw [hdelivered] at hdel
      cases hdel
  · rcases hmsg with hmsg | ⟨r, hmsg⟩ <;> cases hmsg

/-- A job that is sent once leaves nothing behind. -/
theorem once_unaltered (r : String) (payload : ChatMessagePayload) (sealed : Outcome EncryptedEnvelope MessengerError) :
    (∀ msg, (⟨.once, r, payload, sealed⟩ : Attempt).job = .message msg ∨
        (⟨.once, r, payload, sealed⟩ : Attempt).job = .voiceNote msg → Original sent msg) ∧
      ∀ item since, (⟨.once, r, payload, sealed⟩ : Attempt).job = .retry item since →
        Original sent item.message ∧ payload = messagePayload item.message := by
  refine ⟨fun msg hjob => ?_, fun _ _ hjob => by cases hjob⟩
  rcases hjob with hjob | hjob <;> cases hjob

/-- A text or voice note goes to the outbox as it was sent. -/
theorem Unaltered.finish {i now : Nat} (saved : Bool) (h : s.Unaltered sent)
    (hok : s.KeepsPayload J (.finish i now saved)) : (s.finish i now saved).Unaltered sent := by
  refine All.finish h now saved fun a ha hjob s' hs' => ?_
  have hfailed : ∀ msg e, a.job.message? = some msg → a.sealed = .err e → Original sent msg := by
    intro msg e hmsg he
    rcases hj : a.job with msg' | msg' | msg' | ⟨item, since⟩ | _ <;> rw [hj] at hmsg <;> cases hmsg
    · exact hjob.1 msg (.inl hj)
    · -- a file's first payload had a manifest, which no retry has
      have hfile : a.failedFile = false := hok a ha
      rw [Attempt.failedFile, hj, he] at hfile
      cases hfile
    · exact hjob.1 msg (.inr hj)
  refine hs'.afterAttempt (fun _ hm => hm) now saved (fun msg e hm he _ _ => hfailed msg e hm he)
    (fun _ _ _ _ _ hdel => ?_) (fun msg e hm he msg' hmsg' => ?_)
    (fun msg hm => ⟨fun msg' hmsg' => ?_, fun q hq _ => ?_⟩) fun item since hj => ?_
  · cases hdel
  · rcases hmsg' with hmsg' | ⟨r, hmsg'⟩ <;> cases hmsg'
    exact hfailed msg e hm he
  · rcases hmsg' with hmsg' | ⟨r, hmsg'⟩ <;> cases hmsg'
    exact hjob.1 msg (.inl hm)
  · rw [hq]
    exact hjob.1 msg (.inl hm)
  · rw [QueuedMessage.message_rescheduled]
    exact (hjob.2 item since hj).1

/-- No step that keeps the payloads alters a message that may be sent again. -/
theorem Unaltered.step {a : ClientAction} (h : s.Unaltered s.sent) (hok : s.KeepsPayload J a) :
    (s.step J T a).Unaltered (s.step J T a).sent := by
  have hSD : ∀ m : SavedChatMessage, (m.incoming = false → m.delivered = false → Original s.sent m) →
      m.incoming = false → m.delivered = false → Original s.sent m := fun _ hm => hm
  cases a with
  | receive e now => exact h.receive e now
  | handle e now dht saved =>
    have hsent : (s.handle J T e now dht saved).sent = s.sent := by
      unfold Client.handle
      split <;> rfl
    rw [Client.step, hsent]
    exact h.handle saved hok
  | audioFrame packet => exact ⟨h.stored, h.saved, h.queue, h.attempts, h.todo⟩
  | localOp op saved =>
    rw [Client.step, (history_localOp op saved).2]
    exact h.localOp hSD op saved fun m hm hin hdel => (hm hin hdel).congr rfl
  | sendMessage r text image now random x saved => exact h.sendMessage x saved hok
  | sendFile r text manifest now random x => exact h.sendFile x hok
  | sendVoiceNote r note now random x saved => exact h.sendVoiceNote x saved hok
  | reactToMessage r id emoji now x saved =>
    have hsent : (s.step J T (.reactToMessage r id emoji now x saved)).sent = s.sent := sent_deliver ..
    rw [hsent]
    exact h.reactToMessage hSD x saved (fun m hm hin hdel => (hm hin hdel).congr rfl) (once_unaltered r _)
  | editMessage r id text now x saved =>
    have hsent : (s.step J T (.editMessage r id text now x saved)).sent = s.sent := sent_deliver ..
    rw [hsent]
    refine h.editMessage hSD x saved (fun m hm _ hin hdel => ?_) fun _ _ => once_unaltered r _
    have hdelivered : m.delivered = true := hok m hm hin
    have hdel : m.delivered = false := hdel
    rw [hdelivered] at hdel
    cases hdel
  | sendGroupMessage groupId text members now random saved =>
    rw [Client.step, (history_sendGroupMessage ..).2]
    refine h.sendGroupMessage hSD saved (fun _ hdel => ?_) fun _ _ _ _ _ _ _ _ msg hmsg => ?_
    · cases hdel
    · rcases hmsg with hmsg | ⟨r, hmsg⟩ <;> cases hmsg
  | sendCallSignal r callId signalType text now random x =>
    rw [Client.step, sent_deliver]
    exact h.deliver hSD x (once_unaltered r _)
  | sendCallAudio r callId samples rate seq routing nonce ephSeed => exact h
  | deleteMessagesForEveryone r ids now x saved =>
    rw [Client.step, (history_deleteMessagesForEveryone ..).2]
    exact h.deleteMessagesForEveryone hSD x saved fun _ => once_unaltered r _
  | popPending now x =>
    rw [Client.step, (history_popPending ..).2]
    refine h.popPending hSD x fun q hq _ _ => ⟨fun msg hjob => ?_, fun item since hjob => ?_⟩
    · rcases hjob with hjob | hjob <;> cases hjob
    · cases hjob
      exact ⟨h.queue q hq, rfl⟩
  | transmit i => exact h
  | finish i now saved =>
    rw [Client.step, (history_finish ..).2]
    exact h.finish saved hok
  | proceed j now x saved =>
    rw [Client.step, (history_proceed ..).2]
    refine h.proceed hSD x saved (fun msg hw _ _ => hw msg (.inl rfl)) (fun msg r hw q hq _ => ?_)
      (fun member _ _ => once_unaltered member _) fun r _ _ => once_unaltered r _
    rw [hq]
    exact hw msg (.inr ⟨r, rfl⟩)
  | restart now =>
    rw [Client.step, (history_restart now).2]
    refine h.restart now h.saved fun db hdb m hm hpending q hq _ => ?_
    -- the file has own undelivered messages as they were first sent
    rw [isPending] at hpending
    simp only [Bool.and_eq_true, Bool.not_eq_true'] at hpending
    rw [hq]
    exact h.saved db hdb m.id m (KeyedList.mem_iff_get?.1 hm) hpending.1.1 hpending.1.2

/-- What the retry worker sends is the message as it is stored and as it was first sent. -/
theorem Unaltered.retriesFaithfully (h : s.Unaltered s.sent) (a : ClientAction) : s.RetriesFaithfully J T a := by
  cases a with
  | transmit i =>
    intro a ha item since hjob m hm hin hdel
    obtain ⟨hitem, hpayload⟩ := (h.attempts a (List.mem_of_getElem? ha)).2 item since hjob
    have hstored := h.stored _ m hm hin hdel
    have hid : m.id = item.message.id := MessengerDb.id_of_message? hm
    have hsame : messagePayload item.message = messagePayload m := by
      have hfirst := hitem.first
      rw [← hid, hstored.first] at hfirst
      exact (Option.some.inj hfirst).symm
    refine ⟨messagePayload m, hstored.first, ?_⟩
    rw [hpayload, hsame]
    exact hstored.conveys
  | _ => exact trivial

end Invariant

variable (J T)

/-- In every run whose steps keep the payloads, every packet of the retry worker's conveys the message. -/
theorem run_retriesFaithfully (as : List ClientAction)
    (h : Steps (step J T) (KeepsPayload J) ({} : Client me) as) :
    Steps (step J T) (RetriesFaithfully J T) ({} : Client me) as := by
  have hinit : Unaltered (∅ : KeyedList ChatMessagePayload.id) ({} : Client me) :=
    ⟨fun k m hm => (by cases hm), fun _ hd => (by cases hd), fun _ hq => (by cases hq), fun _ ha => (by cases ha),
      fun _ ht => by cases ht⟩
  exact steps_of_invariant (I := fun s : Client me => s.Unaltered s.sent) (fun s a hI ha => hI.step ha)
    (fun s a hI _ => hI.retriesFaithfully a) hinit h

end Client

/-! ## A message sent again, and one edited before -/

namespace Retried

open NodeX.Sample Talk

/-- What the first attempt carried. -/
def payload : ChatMessagePayload := { id := messageId, text := "Hello Bob" }

def texts : PayloadJson := json [payload]

/-- The message goes out again, before a restart and after it. -/
def again : List ClientAction :=
  .localOp (.addContact bobContact) true :: message ++ [
    .popPending 1700000010 (sealing 1700000010), .transmit 0, .restart 1700000020,
    .popPending 1700000030 (sealing 1700000030), .transmit 0]

/-- Alice edits the message before Bob's receipt comes, and then the retry worker takes it out of the outbox. -/
def edited : List ClientAction :=
  .localOp (.addContact bobContact) true :: message ++ [
    .editMessage bob.userIdHex messageId "Hello Robert" 1700000005 (sealing 1700000005) true,
    .popPending 1700000010 (sealing 1700000010)]

def afterEdit : Client alice := run (Client.step texts presenceText) {} edited

/-- The envelope of the retry, at Bob's. -/
def received : Handling bob where
  v := ⟨encryptEnvelope .transparent alice bob.userId bob.x25519Public (print payload) (List.replicate 32 1)
    (List.replicate 12 1) 1700000010, print payload,
    decryptEnvelope_encryptEnvelope Crypto.transparent_correct wellSized_alice wellSized_bob _ List.length_replicate
      List.length_replicate _⟩
  now := 1700000011
  dht _ := .ok none

end Retried

open Retried Talk NodeX.Sample in
theorem Client.run_retriesFaithfully_again :
    Steps (Client.step texts presenceText) (Client.RetriesFaithfully texts presenceText) ({} : Client alice) again :=
  Client.run_retriesFaithfully texts presenceText again (by decide +kernel)

open Retried Talk NodeX.Sample in
/-- The retry of the edited message brings Bob the old text. -/
theorem Client.run_retriesFaithfully_edited :
    ¬ Steps (Client.step texts presenceText) (Client.RetriesFaithfully texts presenceText) ({} : Client alice)
      (edited ++ [.transmit 1]) := by
  intro h
  obtain ⟨hretry, hstored, hread, hsender, hgot⟩ :
      (afterEdit.attempts[1]?).any (fun a => a.payload = payload && a.isRetryOf messageId) = true ∧
      (afterEdit.db.message? messageId).any (fun m => m.text = "Hello Robert" && !m.incoming && !m.delivered) = true ∧
      received.v.payload texts = payload ∧ received.v.senderHex = alice.userIdHex ∧
      ((received.apply texts presenceText {}).message? messageId).map (·.text) = some "Hello Bob" := by decide +kernel
  obtain ⟨a, ha, hretry⟩ := (Option.any_eq_true _ _).1 hretry
  obtain ⟨hpayload, hretry⟩ := Bool.and_eq_true_iff.1 hretry
  have hpayload := of_decide_eq_true hpayload
  obtain ⟨item, since, hjob, hitem⟩ := Attempt.exists_retry hretry
  obtain ⟨m, hm, hown⟩ := (Option.any_eq_true _ _).1 hstored
  simp only [Bool.and_eq_true, decide_eq_true_eq, Bool.not_eq_true'] at hown
  obtain ⟨⟨htext, hin⟩, hdel⟩ := hown
  have hstep : afterEdit.RetriesFaithfully texts presenceText (.transmit 1) := ((steps_concat ..).1 h).2
  obtain ⟨first, -, hconveys⟩ := hstep a ha item since hjob m (by rw [hitem, hm]) hin hdel
  -- Bob, who has seen nothing of Alice's, handles the retry
  have hid : m.id = messageId := MessengerDb.id_of_message? hm
  obtain ⟨m', hm', htext', -⟩ := hconveys.stored bob received {} (hread.trans hpayload.symm) hsender
    ⟨rfl, by rw [hid]; rfl⟩
  rw [hid] at hm'
  rw [hm', Option.map_some, htext', htext] at hgot
  exact absurd hgot (by decide)

end NodeX.Messenger
