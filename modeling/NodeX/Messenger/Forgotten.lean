/-
Deleting an own message that no receipt has confirmed. The database forgets it, on disk too; the outbox has a copy of
its own, which nothing takes back, and so have the attempts under way and the tasks that are yet to queue it.
-/
import NodeX.Messenger.Flow

namespace NodeX.Messenger

open NodeX.Lib

variable {C : Crypto} {J : PayloadJson} {T : PresenceText} {me : UserIdentity C}

/-! ## Copies of a message -/

/-- The attempt is for the message, and at its end the outbox or the database may get it. -/
def Job.carries (k : String) : Job → Bool
  | .message msg | .file msg | .voiceNote msg => msg.id = k
  | .retry item _ => item.message.id = k
  | .once => false

def Todo.carries (k : String) : Todo → Bool
  | .store msg | .push msg _ => msg.id = k
  | .deliver .. | .receipt .. => false

theorem Job.id_ne_of_message? {k : String} {job : Job} (h : job.carries k = false) {msg : SavedChatMessage}
    (hm : job.message? = some msg) : msg.id ≠ k := by
  cases job <;> cases hm <;> exact of_decide_eq_false h

namespace Client

/-- The calls that delete messages, and whether the database file is written. -/
inductive IsDeletion : Bool → ClientAction → Prop
  | deleteMessage (saved : Bool) (id : String) : IsDeletion saved (.localOp (.deleteMessage id) saved)
  | deleteMessages (saved : Bool) (ids : List String) : IsDeletion saved (.localOp (.deleteMessages ids) saved)
  | deleteMessagesForEveryone (saved : Bool) (r : String) (ids : List String) (now : UInt64) (x : Sealing) :
    IsDeletion saved (.deleteMessagesForEveryone r ids now x saved)
  | clearChat (saved : Bool) (contact : String) : IsDeletion saved (.localOp (.clearMessagesForContact contact) saved)
  | deleteContact (saved : Bool) (contact : String) : IsDeletion saved (.localOp (.deleteContact contact) saved)

/-- The call removes the message from the database, where it is the user's own and not delivered. -/
def Deletes (J : PayloadJson) (T : PresenceText) (k : String) (saved : Bool) (s : Client me) (a : ClientAction) :
    Prop :=
  IsDeletion saved a ∧ (∃ m, s.db.message? k = some m ∧ m.incoming = false ∧ m.delivered = false) ∧
    (s.step J T a).db.message? k = none

/-- Nothing but the database has the message: no copy in the outbox is still to be sent, no attempt with it is
under way, and no task will store or queue it. -/
def Settled (k : String) (s : Client me) : Prop :=
  (∀ q ∈ s.queue, q.message.id = k → q.status ≠ .sending) ∧ (∀ a ∈ s.attempts, a.job.carries k = false) ∧
    ∀ t ∈ s.todo, t.carries k = false

/-- No other message gets the id; and where the deletion did not reach the disk, no start reads a file that still
has the message. -/
def Quiet (k : String) (saved : Bool) (s : Client me) : ClientAction → Prop
  | .sendMessage _ _ _ now random _ _ | .sendFile _ _ _ now random _ | .sendVoiceNote _ _ now random _ _ =>
    newMessageId me now random ≠ k
  | .restart _ => saved = false → ∀ db ∈ s.disk, ∀ m, db.message? k = some m → isPending me m = false
  | _ => True

/-- The retry worker sends the message. -/
def Retransmits (k : String) (s : Client me) : ClientAction → Prop
  | .transmit i => ∃ a ∈ s.attempts[i]?, a.sealed.isOk = true ∧
      ∃ item since, a.job = .retry item since ∧ item.message.id = k
  | _ => False

/-! ## The invariant -/

/-- What is stored under the id is nothing that waits for a receipt, and nothing else has it. -/
def Forgotten (k : String) (saved : Bool) (s : Client me) : Prop :=
  s.All (fun m => m.id = k → isPending me m = false) (fun m => saved = true → m.id = k → isPending me m = false)
    (fun q => q.message.id = k → q.status ≠ .sending) (fun a => a.job.carries k = false) (fun t => t.carries k = false)

section Invariant

variable {s : Client me} {k : String} {saved : Bool}

theorem isPending_of_incoming {m : SavedChatMessage} (h : m.incoming = true) : isPending me m = false := by
  rw [isPending, h]
  rfl

theorem isPending_of_delivered {m : SavedChatMessage} (h : m.delivered = true) : isPending me m = false := by
  rw [isPending, h, Bool.not_true, Bool.and_false]
  rfl

/-- A deletion that is written leaves the same on disk as in memory. -/
theorem disk_of_isDeletion {a : ClientAction} (h : IsDeletion true a) :
    (s.step J T a).disk = some (s.step J T a).db := by
  cases h with
  | deleteMessage id => rfl
  | deleteMessages ids => rfl
  | clearChat contact => rfl
  | deleteContact contact => rfl
  | deleteMessagesForEveryone r ids now x =>
    rw [step, Client.deleteMessagesForEveryone]
    split <;> rfl

/-- A deletion queues nothing, and begins an attempt with a tombstone at most. -/
theorem All.of_isDeletion {Q : QueuedMessage → Prop} {A : Attempt → Prop} {W : Todo → Prop} {a : ClientAction}
    (hdel : IsDeletion saved a) (h : s.All (fun _ => True) (fun _ => True) Q A W)
    (hA : ∀ r payload sealed, A ⟨.once, r, payload, sealed⟩) :
    (s.step J T a).All (fun _ => True) (fun _ => True) Q A W := by
  have hSD : ∀ m : SavedChatMessage, True → True := fun _ hm => hm
  cases hdel with
  | deleteMessage id => exact h.localOp hSD (.deleteMessage id) saved fun _ hm => hm
  | deleteMessages ids => exact h.localOp hSD (.deleteMessages ids) saved fun _ hm => hm
  | clearChat contact => exact h.localOp hSD (.clearMessagesForContact contact) saved fun _ hm => hm
  | deleteContact contact => exact h.localOp hSD (.deleteContact contact) saved fun _ hm => hm
  | deleteMessagesForEveryone r ids now x => exact h.deleteMessagesForEveryone hSD x saved fun _ => hA r _

/-- Where nothing but the database had it, the message is forgotten. -/
theorem Forgotten.of_deletes {a : ClientAction} (hdel : s.Deletes J T k saved a) (hs : s.Settled k) :
    Forgotten k saved (s.step J T a) := by
  obtain ⟨hcall, -, hgone⟩ := hdel
  obtain ⟨hqueue, hattempts, htodo⟩ := hs
  have hrest := All.of_isDeletion (J := J) (T := T) hcall
    ⟨fun _ _ _ => trivial, fun _ _ _ _ _ => trivial, hqueue, hattempts, htodo⟩ fun _ _ _ => rfl
  have hnone : ∀ k' m, (s.step J T a).db.message? k' = some m → m.id ≠ k := by
    intro k' m hm hid
    rw [← MessengerDb.id_of_message? hm, hid, hgone] at hm
    cases hm
  -- in memory nothing has the id any more, and on disk neither if the deletion is saved
  refine ⟨fun k' m hm hid => absurd hid (hnone k' m hm), fun d hd k' m hm hsaved hid => ?_, hrest.queue, hrest.attempts,
    hrest.todo⟩
  subst hsaved
  rw [disk_of_isDeletion hcall] at hd
  obtain rfl := Option.some.inj hd
  exact absurd hid (hnone k' m hm)

/-- A quiet step leaves the message forgotten. -/
theorem Forgotten.step {a : ClientAction} (h : Forgotten k saved s) (hok : s.Quiet k saved a) :
    Forgotten k saved (s.step J T a) := by
  have hSD : ∀ m : SavedChatMessage, (m.id = k → isPending me m = false) →
      saved = true → m.id = k → isPending me m = false := fun _ hm _ => hm
  cases a with
  | receive e now => exact h.receive e now
  | handle e now dht saved' =>
    refine h.handle hSD saved' (fun v _ k' m hcame => ?_) fun _ _ _ => rfl
    cases hcame with
    | message hb => exact fun _ => isPending_of_incoming rfl
    | same hm => exact h.stored k' m hm
    | confirmed hm => exact fun _ => isPending_of_delivered rfl
    | @reacted m₀ hm => exact h.stored k' m₀ hm
    | @edited m₀ hm => exact h.stored k' m₀ hm
  | audioFrame packet => exact ⟨h.stored, h.saved, h.queue, h.attempts, h.todo⟩
  | localOp op saved' => exact h.localOp hSD op saved' fun m hm => hm
  | sendMessage r text image now random x saved' =>
    refine h.sendMessage hSD x saved' (fun _ _ => isPending_of_delivered rfl) fun _ hmsg _ _ _ => ?_
    rw [hmsg]
    exact decide_eq_false hok
  | sendFile r text manifest now random x =>
    exact (h.record _).deliver hSD x fun _ => decide_eq_false hok
  | sendVoiceNote r note now random x saved' =>
    refine h.sendVoiceNote hSD x saved' (fun _ _ _ => isPending_of_delivered rfl) fun _ _ hmsg _ _ => ?_
    rw [hmsg]
    exact decide_eq_false hok
  | reactToMessage r id emoji now x saved' => exact h.reactToMessage hSD x saved' (fun m hm => hm) fun _ => rfl
  | editMessage r id text now x saved' => exact h.editMessage hSD x saved' (fun m _ hm => hm) fun _ _ _ => rfl
  | sendGroupMessage groupId text members now random saved' =>
    exact h.sendGroupMessage hSD saved' (fun _ => isPending_of_delivered rfl) fun _ _ _ _ _ _ _ _ => rfl
  | sendCallSignal r callId signalType text now random x => exact h.deliver hSD x fun _ => rfl
  | sendCallAudio r callId samples rate seq routing nonce ephSeed => exact h
  | deleteMessagesForEveryone r ids now x saved' => exact h.deleteMessagesForEveryone hSD x saved' fun _ _ => rfl
  | popPending now x =>
    -- what is popped is still to be sent, and so is no copy of the message
    refine h.popPending hSD x fun q hq hstatus _ => decide_eq_false fun hid => ?_
    exact h.queue q hq hid hstatus
  | transmit i => exact h
  | finish i now saved' =>
    refine h.finish now saved' fun a _ hjob s' hs' => hs'.afterAttempt hSD now saved'
      (fun msg _ hm _ hid => absurd hid (Job.id_ne_of_message? hjob hm))
      (fun msg e hm _ => fun _ => isPending_of_delivered rfl)
      (fun msg _ hm _ => decide_eq_false (Job.id_ne_of_message? hjob hm)) (fun msg hm => ?_) fun item since hm => ?_
    · have hne : msg.id ≠ k := Job.id_ne_of_message? hjob (by rw [hm]; rfl)
      exact ⟨decide_eq_false hne, fun q hq _ hid => absurd (hq ▸ hid) hne⟩
    · rw [hm] at hjob
      intro hid
      rw [QueuedMessage.message_rescheduled] at hid
      exact absurd hid (of_decide_eq_false hjob)
  | proceed j now x saved' =>
    refine h.proceed hSD x saved' (fun msg hw hid => absurd hid (of_decide_eq_false hw)) (fun msg r hw q hq _ hid => ?_)
      (fun _ _ _ _ => rfl) fun _ _ _ _ => rfl
    exact absurd (hq ▸ hid) (of_decide_eq_false hw)
  | restart now =>
    have hdisk : ∀ db ∈ s.disk, ∀ k' m, db.message? k' = some m → m.id = k → isPending me m = false := by
      intro db hdb k' m hm hid
      -- the deletion reached the disk, or the file is known to be without the message
      cases saved with
      | true => exact h.saved db hdb k' m hm rfl hid
      | false =>
        rw [← MessengerDb.id_of_message? hm, hid] at hm
        exact hok rfl db hdb m hm
    refine h.restart now hdisk fun db hdb m hm hpending q hq _ hid => ?_
    rw [hdisk db hdb m.id m (KeyedList.mem_iff_get?.1 hm) (hq ▸ hid)] at hpending
    cases hpending

end Invariant

variable (J T)

/-- Once an own undelivered message is deleted that nothing but the database has, no later step of the retry worker
sends it, whatever is received, sent, deleted, or restarted in between. -/
theorem run_neverSentAgain (s : Client me) (k : String) (saved : Bool) (d : ClientAction) (as : List ClientAction)
    (hd : s.Deletes J T k saved d) (hs : s.Settled k) (has : Steps (step J T) (Quiet k saved) (s.step J T d) as) :
    Steps (step J T) (fun s a => ¬ s.Retransmits k a) (s.step J T d) as := by
  refine steps_of_invariant (I := Forgotten k saved) (fun s a h ha => h.step ha) (fun s a h _ => ?_)
    (Forgotten.of_deletes hd hs) has
  cases a with
  | transmit i =>
    rintro ⟨a, ha, -, item, since, hjob, hid⟩
    have hfree := h.attempts a (List.mem_of_getElem? ha)
    rw [hjob] at hfree
    exact of_decide_eq_false hfree hid
  | _ => exact fun h => h

end Client

/-! ## A message given up, and one still queued -/

namespace Unsent

open NodeX.Sample Talk

/-- A message of Alice's that Bob has not confirmed. -/
def unconfirmed : SavedChatMessage := outgoing alice messageId bob.userIdHex "Hello Bob" 1700000000

/-- It went out seven times and is given up. -/
def givenUp : Client alice :=
  { inbox := { db := MessengerDb.addMessage {} unconfirmed }
    queue := [{ message := unconfirmed, recipientId := bob.userIdHex, attempts := 6, status := .failed
                nextRetryAt := 1700000132 }] }

/-- Alice's message has been sent once. -/
def queued : Client alice := after (json []) message

def deletion : ClientAction := .localOp (.deleteMessage messageId) true

/-- The worker looks at the outbox, before a restart and after it. -/
def retries : List ClientAction := [
  .popPending 1700000700 (sealing 1700000700), .transmit 0, .restart 1700000800,
  .popPending 1700000900 (sealing 1700000900), .transmit 0]

end Unsent

open Unsent Talk NodeX.Sample in
theorem Client.run_neverSentAgain_givenUp :
    Steps (Client.step (json []) presenceText) (fun s a => ¬ s.Retransmits messageId a)
      (givenUp.step (json []) presenceText deletion) retries := by
  have hthere : givenUp.db.message? messageId = some unconfirmed := by decide +kernel
  have hgone : (givenUp.step (json []) presenceText deletion).db.message? messageId = none := by decide +kernel
  have hqueue : ∀ q ∈ givenUp.queue, q.message.id = messageId → q.status ≠ .sending := by decide +kernel
  exact Client.run_neverSentAgain (json []) presenceText givenUp messageId true deletion retries
    ⟨.deleteMessage true messageId, ⟨unconfirmed, hthere, rfl, rfl⟩, hgone⟩
    ⟨hqueue, fun _ ha => (by cases ha), fun _ ht => by cases ht⟩
    ⟨trivial, trivial, fun h => (by cases h), trivial, trivial, trivial⟩

open Unsent Talk NodeX.Sample in
/-- Alice deletes a message that waits for Bob's receipt, and the worker sends it again. -/
theorem Client.run_neverSentAgain_queued :
    queued.Deletes (json []) presenceText messageId true deletion ∧
      Steps (Client.step (json []) presenceText) (Client.Quiet messageId true)
        (queued.step (json []) presenceText deletion) retries ∧
      ¬ Steps (Client.step (json []) presenceText) (fun s a => ¬ s.Retransmits messageId a)
        (queued.step (json []) presenceText deletion) retries := by
  obtain ⟨hthere, hgone, hsent⟩ :
      (queued.db.message? messageId).any (fun m => !m.incoming && !m.delivered) = true ∧
      (queued.step (json []) presenceText deletion).db.message? messageId = none ∧
      ((run (Client.step (json []) presenceText) (queued.step (json []) presenceText deletion)
        [.popPending 1700000700 (sealing 1700000700)]).attempts[0]?).any (fun a => a.sealed.isOk &&
          a.isRetryOf messageId) = true := by
    decide +kernel
  obtain ⟨m, hm, hown⟩ := (Option.any_eq_true _ _).1 hthere
  simp only [Bool.and_eq_true, Bool.not_eq_true'] at hown
  refine ⟨⟨.deleteMessage true messageId, ⟨m, hm, hown⟩, hgone⟩,
    ⟨trivial, trivial, fun h => (by cases h), trivial, trivial, trivial⟩, fun h => ?_⟩
  rw [retries, steps_cons, steps_cons] at h
  rw [run_cons, run_nil] at hsent
  obtain ⟨a, ha, hretry⟩ := (Option.any_eq_true _ _).1 hsent
  obtain ⟨hok, hretry⟩ := Bool.and_eq_true_iff.1 hretry
  exact h.2.1 ⟨a, ha, hok, Attempt.exists_retry hretry⟩

end NodeX.Messenger
