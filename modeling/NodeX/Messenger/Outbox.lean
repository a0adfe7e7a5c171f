/-
`message_queue.rs`: the queue of outgoing messages and the worker that takes a message out, tries to
deliver it and puts it back. While it tries, the message is in neither place where a receipt looks for it.
-/
import NodeX.Lib.Runs
import NodeX.Messenger.Types

namespace NodeX.Messenger

open NodeX.Lib

/-! ## The queue -/

def maxRetryAttempts : Nat := 6

def maxQueuedMessages : Nat := 100

inductive MessageStatus where
  | composing | sending | sent | delivered | read | failed | expired
deriving DecidableEq

structure QueuedMessage where
  message : SavedChatMessage
  recipientId : String
  attempts : Nat := 0
  status : MessageStatus := .sending
  nextRetryAt : Nat
deriving DecidableEq

namespace QueuedMessage

def isDue (now : Nat) (q : QueuedMessage) : Bool := q.status = .sending && q.nextRetryAt ≤ now

/-- The item as `schedule_retry` puts it back: given up, or due again after a pause that doubles. -/
def rescheduled (now : Nat) (q : QueuedMessage) : QueuedMessage :=
  if q.attempts ≥ maxRetryAttempts then { q with status := .failed }
  else { q with nextRetryAt := now + min (2 ^ min q.attempts 5) 32, status := .sending }

@[simp] theorem message_rescheduled (now : Nat) (q : QueuedMessage) : (q.rescheduled now).message = q.message := by
  unfold rescheduled
  split <;> rfl

@[simp] theorem recipientId_rescheduled (now : Nat) (q : QueuedMessage) :
    (q.rescheduled now).recipientId = q.recipientId := by
  unfold rescheduled
  split <;> rfl

end QueuedMessage

/-- `saturating_add` of `u64`. -/
def saturatingAdd (a b : Nat) : Nat := min (a + b) (2 ^ 64 - 1)

abbrev MessageQueue := List QueuedMessage

namespace MessageQueue

/-- `push_after`: not if the id is queued already, and not beyond the limit. -/
def pushAfter (queue : MessageQueue) (msg : SavedChatMessage) (recipientId : String) (delaySecs now : Nat) :
    MessageQueue :=
  if queue.any fun q => q.message.id = msg.id then queue
  else if queue.length ≥ maxQueuedMessages then queue
  else queue ++ [{ message := msg, recipientId, nextRetryAt := saturatingAdd now delaySecs }]

def push (queue : MessageQueue) (msg : SavedChatMessage) (recipientId : String) (now : Nat) : MessageQueue :=
  queue.pushAfter msg recipientId 0 now

/-- The first item that is due, with the attempt counted, and the queue without it. -/
def popPending (queue : MessageQueue) (now : Nat) : Option (QueuedMessage × MessageQueue) :=
  (queue.find? (·.isDue now)).map fun item => ({ item with attempts := item.attempts + 1 }, queue.eraseP (·.isDue now))

def scheduleRetry (queue : MessageQueue) (queued : QueuedMessage) (now : Nat) : MessageQueue :=
  queue ++ [queued.rescheduled now]

/-- The first item with the id is removed. -/
def markDelivered (queue : MessageQueue) (messageId : String) : MessageQueue :=
  queue.eraseP (·.message.id = messageId)

/-! ## What is in it -/

variable {queue queue' : MessageQueue} {q q' : QueuedMessage} {now : Nat}

theorem mem_pushAfter {msg : SavedChatMessage} {recipientId : String} {delaySecs : Nat}
    (h : q ∈ queue.pushAfter msg recipientId delaySecs now) :
    q ∈ queue ∨ q = { message := msg, recipientId, nextRetryAt := saturatingAdd now delaySecs } := by
  unfold pushAfter at h
  split at h
  · exact .inl h
  · split at h
    · exact .inl h
    · rcases List.mem_append.1 h with h | h
      · exact .inl h
      · exact .inr (List.mem_singleton.1 h)

/-- A message that is not queued is turned away by a full queue only. -/
theorem pushAfter_of_not_mem {msg : SavedChatMessage} (h : ∀ q ∈ queue, q.message.id ≠ msg.id) (recipientId : String)
    (delaySecs now : Nat) : queue.pushAfter msg recipientId delaySecs now =
      if queue.length ≥ maxQueuedMessages then queue
      else queue ++ [{ message := msg, recipientId, nextRetryAt := saturatingAdd now delaySecs }] := by
  unfold pushAfter
  rw [if_neg]
  intro hany
  obtain ⟨q, hq, hid⟩ := List.any_eq_true.1 hany
  exact h q hq (of_decide_eq_true hid)

/-- What is popped was in the queue, and the rest was. -/
theorem popPending_eq_some (h : queue.popPending now = some (q, queue')) :
    (∃ item ∈ queue, item.isDue now = true ∧ q = { item with attempts := item.attempts + 1 }) ∧
      queue' = queue.eraseP (·.isDue now) := by
  unfold popPending at h
  obtain ⟨item, hitem, heq⟩ := Option.map_eq_some_iff.1 h
  obtain ⟨rfl, rfl⟩ := Prod.mk.inj heq
  exact ⟨⟨item, List.mem_of_find?_eq_some hitem, List.find?_some hitem, rfl⟩, rfl⟩

theorem mem_scheduleRetry (h : q' ∈ queue.scheduleRetry q now) : q' ∈ queue ∨ q' = q.rescheduled now := by
  rcases List.mem_append.1 h with h | h
  · exact .inl h
  · exact .inr (List.mem_singleton.1 h)

theorem mem_of_mem_markDelivered {messageId : String} (h : q ∈ queue.markDelivered messageId) : q ∈ queue :=
  List.mem_of_mem_eraseP h

theorem countP_eraseP {α : Type} (p : α → Bool) : ∀ l : List α, (l.eraseP p).countP p = l.countP p - 1
  | [] => rfl
  | x :: l => by
    by_cases hx : p x = true
    · rw [List.eraseP_cons_of_pos hx, List.countP_cons_of_pos hx, Nat.add_sub_cancel]
    · rw [List.eraseP_cons_of_neg hx, List.countP_cons_of_neg hx, List.countP_cons_of_neg hx, countP_eraseP p l]

/-- One call of `mark_delivered` clears exactly the ids that are queued at most once. -/
theorem markDelivered_clears_iff (queue : MessageQueue) (messageId : String) :
    (∀ q ∈ queue.markDelivered messageId, q.message.id ≠ messageId) ↔
      queue.countP (·.message.id = messageId) ≤ 1 := by
  have hzero : (∀ q ∈ queue.markDelivered messageId, q.message.id ≠ messageId) ↔
      (queue.markDelivered messageId).countP (·.message.id = messageId) = 0 := by
    rw [List.countP_eq_zero]
    simp only [decide_eq_true_eq, ne_eq]
  rw [hzero]
  unfold markDelivered
  rw [countP_eraseP]
  omega

end MessageQueue

/-! ## The queue and its workers -/

/-- The queue, and what the retry worker took out of it and has not put back. -/
structure Outbox where
  queue : MessageQueue := []
  inFlight : List QueuedMessage := []
deriving DecidableEq

inductive OutboxAction where
  | push (msg : SavedChatMessage) (recipientId : String) (delaySecs now : Nat)
  | popPending (now : Nat)
  /-- The attempt with the `i`-th item in flight is over. -/
  | scheduleRetry (i now : Nat)
  | markDelivered (messageId : String)

namespace Outbox

def step (s : Outbox) : OutboxAction → Outbox
  | .push msg recipientId delaySecs now => { s with queue := s.queue.pushAfter msg recipientId delaySecs now }
  | .popPending now =>
    match s.queue.popPending now with
    | none => s
    | some (item, queue) => { queue, inFlight := s.inFlight ++ [item] }
  | .scheduleRetry i now =>
    match s.inFlight[i]? with
    | none => s
    | some item => { queue := s.queue.scheduleRetry item now, inFlight := s.inFlight.eraseIdx i }
  | .markDelivered messageId => { s with queue := s.queue.markDelivered messageId }

/-- No copy of the message is queued or in flight. -/
def Free (messageId : String) (s : Outbox) : Prop :=
  (∀ q ∈ s.queue, q.message.id ≠ messageId) ∧ ∀ q ∈ s.inFlight, q.message.id ≠ messageId

/-- The action does not push the message. -/
def NotPush (messageId : String) : OutboxAction → Prop
  | .push msg _ _ _ => msg.id ≠ messageId
  | _ => True

variable {s : Outbox} {messageId : String}

/-- Only a push brings a message that is nowhere in the outbox. -/
theorem Free.step (h : Free messageId s) : ∀ {a : OutboxAction}, NotPush messageId a → Free messageId (s.step a)
  | .push msg recipientId delaySecs now, ha => by
    constructor
    · intro q hq
      rcases MessageQueue.mem_pushAfter hq with hq | rfl
      · exact h.1 q hq
      · exact ha
    · exact h.2
  | .popPending now, _ => by
    unfold Outbox.step
    simp only
    split
    · exact h
    · rename_i item queue hpop
      obtain ⟨⟨item', hitem', -, rfl⟩, rfl⟩ := MessageQueue.popPending_eq_some hpop
      constructor
      · intro q hq
        exact h.1 q (List.mem_of_mem_eraseP hq)
      · intro q hq
        rcases List.mem_append.1 hq with hq | hq
        · exact h.2 q hq
        · obtain rfl := List.mem_singleton.1 hq
          exact h.1 item' hitem'
  | .scheduleRetry i now, _ => by
    unfold Outbox.step
    simp only
    split
    · exact h
    · rename_i item hitem
      constructor
      · intro q hq
        rcases MessageQueue.mem_scheduleRetry hq with hq | rfl
        · exact h.1 q hq
        · rw [QueuedMessage.message_rescheduled]
          exact h.2 item (List.mem_of_getElem? hitem)
      · intro q hq
        exact h.2 q (List.mem_of_mem_eraseIdx hq)
  | .markDelivered id, _ => ⟨fun q hq => h.1 q (MessageQueue.mem_of_mem_markDelivered hq), h.2⟩

/-- From now on the message is never queued and never popped, as long as it is not pushed. -/
def Gone (messageId : String) (s : Outbox) : Prop :=
  ∀ as : List OutboxAction, (∀ a ∈ as, NotPush messageId a) →
    (∀ q ∈ (run Outbox.step s as).queue, q.message.id ≠ messageId) ∧
      ∀ now q queue, (run Outbox.step s as).queue.popPending now = some (q, queue) → q.message.id ≠ messageId

/-- In any state, `mark_delivered` is final exactly if no attempt with the message is in flight and it is queued
at most once. -/
theorem markDelivered_final_iff (s : Outbox) (messageId : String) :
    Gone messageId (s.step (.markDelivered messageId)) ↔
      (∀ q ∈ s.inFlight, q.message.id ≠ messageId) ∧ s.queue.countP (·.message.id = messageId) ≤ 1 := by
  constructor
  · intro h
    refine ⟨fun q hq heq => ?_, ?_⟩
    · obtain ⟨i, hi⟩ := List.getElem?_of_mem hq
      -- the attempt in flight ends and puts its item back
      have hback := (h [.scheduleRetry i 0] (by simp [NotPush])).1 (q.rescheduled 0)
      refine hback ?_ (by rw [QueuedMessage.message_rescheduled, heq])
      rw [run_cons, run_nil, Outbox.step, Outbox.step]
      simp only [hi]
      exact List.mem_append_right _ List.mem_cons_self
    · exact (MessageQueue.markDelivered_clears_iff s.queue messageId).1 (h [] (by simp)).1
  · rintro ⟨hflight, hcount⟩ as has
    -- removed from the queue and not in flight, it is nowhere
    have hfree : Free messageId (s.step (.markDelivered messageId)) :=
      ⟨(MessageQueue.markDelivered_clears_iff s.queue messageId).2 hcount, hflight⟩
    have hrun : Free messageId (run Outbox.step (s.step (.markDelivered messageId)) as) :=
      run_invariant (I := Free messageId) (fun _ _ hI ha => hI.step ha) hfree (steps_of_mem has)
    refine ⟨hrun.1, fun now q queue hpop => ?_⟩
    obtain ⟨⟨item, hitem, -, rfl⟩, -⟩ := MessageQueue.popPending_eq_some hpop
    exact hrun.1 item hitem

/-- A message sent to a peer, with no receipt yet. -/
def sample : SavedChatMessage :=
  { id := "m1", senderIdHex := "a", recipientIdHex := "b", text := "hi", timestamp := 100, incoming := false
    delivered := false }

/-- Pushed, popped by the worker, and confirmed while the attempt is under way. -/
def confirmedInFlight : Outbox := run step {} [.push sample "b" 8 100, .popPending 108, .markDelivered "m1"]

/-- When the attempt ends the message is back in the queue, and popped again. -/
theorem markDelivered_final_inFlight : ¬ Gone "m1" confirmedInFlight := by
  intro h
  have hback := (h [.scheduleRetry 0 108] (by simp [NotPush])).1
  exact absurd hback (by decide)

end Outbox

end NodeX.Messenger
