/-
The limit of the outbox over the life of several processes: when the queue stays within
`MAX_QUEUED_MESSAGES`, and a new message is turned away only by messages that are still retried.
-/
import NodeX.Messenger.Outbox

namespace NodeX.Messenger

open NodeX.Lib

namespace Outbox

/-! ## Runs over several processes -/

/-- What `start` does with the unconfirmed messages it finds: one push after the other. -/
def reload (pending : List (SavedChatMessage × Nat)) : List OutboxAction :=
  pending.map fun p => .push p.1 p.1.recipientIdHex 0 p.2

inductive Event where
  | act (a : OutboxAction)
  /-- A new process, with a new queue; an attempt under way dies with the old one. -/
  | restart (pending : List (SavedChatMessage × Nat))

def Event.step (s : Outbox) : Event → Outbox
  | .act a => s.step a
  | .restart pending => run Outbox.step {} (reload pending)

/-! ## The limit -/

/-- The messages queued or in flight that can still be retried. -/
def retriable (s : Outbox) : Nat := (s.queue ++ s.inFlight).countP (·.status = .sending)

/-- The entries that are given up and keep their place in the queue. -/
def failed (s : Outbox) : Nat := s.queue.countP (·.status = .failed)

/-- An undelivered message that is neither queued nor in flight. -/
def IsNew (s : Outbox) (msg : SavedChatMessage) : Prop := msg.delivered = false ∧ Free msg.id s

/-- A push after which the message is not queued. -/
def Refused (s : Outbox) (msg : SavedChatMessage) (recipientId : String) (delaySecs now : Nat) : Prop :=
  ∀ q ∈ (s.step (.push msg recipientId delaySecs now)).queue, q.message.id ≠ msg.id

/-- The queue is within the limit after the action, and a push of a new message is refused only
for as many messages that can still be retried. -/
def WithinLimit (s : Outbox) (a : OutboxAction) : Prop :=
  (s.step a).queue.length ≤ maxQueuedMessages ∧
    match a with
    | .push msg recipientId delaySecs now =>
      s.IsNew msg → s.Refused msg recipientId delaySecs now → maxQueuedMessages ≤ s.retriable
    | _ => True

/-- The same of every push of a start. -/
def Event.WithinLimit (s : Outbox) : Event → Prop
  | .act a => s.WithinLimit a
  | .restart pending => Steps Outbox.step Outbox.WithinLimit {} (reload pending)

/-- An attempt that ends finds a free place; and a new message that finds none finds no more
entries given up than attempts under way. -/
def HasRoom (s : Outbox) : OutboxAction → Prop
  | .push msg _ _ _ => s.IsNew msg → s.queue.length < maxQueuedMessages ∨ s.failed ≤ s.inFlight.length
  | .scheduleRetry i _ => i < s.inFlight.length → s.queue.length < maxQueuedMessages
  | _ => True

def Event.HasRoom (s : Outbox) : Event → Prop
  | .act a => s.HasRoom a
  | .restart _ => True

/-! ## The statuses in the outbox -/

/-- Queued entries are waiting or given up; what is in flight is waiting. -/
structure Statuses (s : Outbox) : Prop where
  queued : ∀ q ∈ s.queue, q.status = .sending ∨ q.status = .failed
  inFlight : ∀ q ∈ s.inFlight, q.status = .sending

theorem statuses_empty : Statuses {} where
  queued _ hq := absurd hq List.not_mem_nil
  inFlight _ hq := absurd hq List.not_mem_nil

variable {s : Outbox}

theorem Statuses.step (h : s.Statuses) (a : OutboxAction) : (s.step a).Statuses := by
  cases a with
  | push msg recipientId delaySecs now =>
    constructor
    · intro q hq
      rcases MessageQueue.mem_pushAfter hq with hq | rfl
      · exact h.queued q hq
      · exact .inl rfl
    · exact h.inFlight
  | popPending now =>
    unfold Outbox.step
    dsimp only
    split
    · exact h
    · rename_i item queue hpop
      obtain ⟨⟨item', hitem', hdue, rfl⟩, rfl⟩ := MessageQueue.popPending_eq_some hpop
      constructor
      · intro q hq
        exact h.queued q (List.mem_of_mem_eraseP hq)
      · intro q hq
        rcases List.mem_append.1 hq with hq | hq
        · exact h.inFlight q hq
        · -- only what is waiting is due
          obtain rfl := List.mem_singleton.1 hq
          simp only [QueuedMessage.isDue, Bool.and_eq_true, decide_eq_true_eq] at hdue
          exact hdue.1
  | scheduleRetry i now =>
    unfold Outbox.step
    dsimp only
    split
    · exact h
    · constructor
      · intro q hq
        rcases MessageQueue.mem_scheduleRetry hq with hq | rfl
        · exact h.queued q hq
        · unfold QueuedMessage.rescheduled
          split
          · exact .inr rfl
          · exact .inl rfl
      · intro q hq
        exact h.inFlight q (List.mem_of_mem_eraseIdx hq)
  | markDelivered id =>
    exact ⟨fun q hq => h.queued q (MessageQueue.mem_of_mem_markDelivered hq), h.inFlight⟩

/-- Every entry is waiting or given up, and all that is in flight can be retried. -/
theorem Statuses.retriable_add_failed (h : s.Statuses) :
    s.retriable + s.failed = s.queue.length + s.inFlight.length := by
  unfold retriable failed
  rw [List.countP_append, List.countP_eq_length.2 fun q hq => decide_eq_true (h.inFlight q hq)]
  have hfailed : s.queue.countP (·.status = .failed) = s.queue.countP fun q => !decide (q.status = .sending) := by
    refine List.countP_congr fun q hq => ?_
    rcases h.queued q hq with hs | hs <;> simp [hs]
  have hlen := List.length_eq_countP_add_countP (fun q : QueuedMessage => decide (q.status = .sending)) (l := s.queue)
  simp only [decide_not, decide_eq_true_eq] at hfailed hlen
  omega

/-! ## One step -/

variable {msg : SavedChatMessage} {recipientId : String} {delaySecs now : Nat}

theorem length_step_push (h : s.queue.length ≤ maxQueuedMessages) :
    (s.step (.push msg recipientId delaySecs now)).queue.length ≤ maxQueuedMessages := by
  show (s.queue.pushAfter msg recipientId delaySecs now).length ≤ _
  unfold MessageQueue.pushAfter
  split
  · exact h
  · split
    · exact h
    · rename_i hroom
      rw [List.length_append, List.length_singleton]
      omega

theorem length_step_popPending : (s.step (.popPending now)).queue.length ≤ s.queue.length := by
  unfold Outbox.step
  dsimp only
  split
  · exact Nat.le_refl _
  · rename_i item queue hpop
    rw [(MessageQueue.popPending_eq_some hpop).2]
    exact List.length_eraseP_le

theorem length_step_markDelivered (id : String) : (s.step (.markDelivered id)).queue.length ≤ s.queue.length :=
  List.length_eraseP_le

/-- An attempt that ends puts its entry back, whatever the length of the queue. -/
theorem length_step_scheduleRetry (i : Nat) :
    (s.step (.scheduleRetry i now)).queue.length = s.queue.length + if i < s.inFlight.length then 1 else 0 := by
  unfold Outbox.step
  dsimp only
  by_cases hi : i < s.inFlight.length
  · rw [List.getElem?_eq_getElem hi, if_pos hi]
    exact List.length_append
  · rw [List.getElem?_eq_none (by omega), if_neg hi]
    rfl

/-- A message that is not queued is turned away exactly by a full queue. -/
theorem refused_iff (hnew : s.IsNew msg) :
    s.Refused msg recipientId delaySecs now ↔ maxQueuedMessages ≤ s.queue.length := by
  have hstep : (s.step (.push msg recipientId delaySecs now)).queue =
      if s.queue.length ≥ maxQueuedMessages then s.queue
      else s.queue ++ [{ message := msg, recipientId, nextRetryAt := saturatingAdd now delaySecs }] :=
    MessageQueue.pushAfter_of_not_mem hnew.2.1 recipientId delaySecs now
  unfold Refused
  rw [hstep]
  split
  · rename_i hfull
    exact ⟨fun _ => hfull, fun _ => hnew.2.1⟩
  · rename_i hroom
    refine iff_of_false (fun h => ?_) hroom
    exact h _ (List.mem_append_right _ List.mem_cons_self) rfl

/-- With the statuses as they are and the queue within its limit, a step keeps to the limit
exactly if it finds room. -/
theorem withinLimit_iff (hs : s.Statuses) (hlen : s.queue.length ≤ maxQueuedMessages) (a : OutboxAction) :
    s.WithinLimit a ↔ s.HasRoom a := by
  have hcount := hs.retriable_add_failed
  cases a with
  | push msg recipientId delaySecs now =>
    unfold WithinLimit HasRoom
    rw [and_iff_right (length_step_push hlen)]
    refine forall_congr' fun hnew => ?_
    rw [refused_iff hnew]
    -- a full queue holds as many retriable messages as it has entries not given up
    omega
  | popPending now =>
    exact ⟨fun _ => trivial, fun _ => ⟨Nat.le_trans length_step_popPending hlen, trivial⟩⟩
  | scheduleRetry i now =>
    unfold WithinLimit HasRoom
    rw [and_iff_left trivial, length_step_scheduleRetry]
    split <;> omega
  | markDelivered id =>
    exact ⟨fun _ => trivial, fun _ => ⟨Nat.le_trans (length_step_markDelivered id) hlen, trivial⟩⟩

/-! ## Runs -/

/-- The statuses, and the limit. -/
def Bounded (s : Outbox) : Prop := s.Statuses ∧ s.queue.length ≤ maxQueuedMessages

theorem Bounded.step (h : s.Bounded) {a : OutboxAction} (ha : s.WithinLimit a) : (s.step a).Bounded :=
  ⟨h.1.step a, ha.1⟩

theorem bounded_empty : Bounded {} := ⟨statuses_empty, Nat.zero_le _⟩

/-- Bounded, with nothing given up. -/
def Fresh (s : Outbox) : Prop := s.Bounded ∧ s.failed = 0

theorem Fresh.push (h : s.Fresh) (msg : SavedChatMessage) (recipientId : String) (delaySecs now : Nat) :
    (s.step (.push msg recipientId delaySecs now)).Fresh := by
  refine ⟨⟨h.1.1.step _, length_step_push h.1.2⟩, ?_⟩
  have hzero := h.2
  unfold failed at hzero ⊢
  rw [List.countP_eq_zero] at hzero ⊢
  intro q hq
  rcases MessageQueue.mem_pushAfter hq with hq | rfl
  · exact hzero q hq
  · exact Bool.false_ne_true

/-- A start pushes into an outbox where nothing is given up. -/
theorem steps_reload (pending : List (SavedChatMessage × Nat)) :
    Steps Outbox.step Outbox.WithinLimit {} (reload pending) := by
  have hpush : Steps Outbox.step (fun _ a => ∃ m r d t, a = .push m r d t) {} (reload pending) := by
    refine steps_of_mem fun a ha => ?_
    obtain ⟨p, -, rfl⟩ := List.mem_map.1 ha
    exact ⟨_, _, _, _, rfl⟩
  refine steps_of_invariant (I := Fresh) ?_ ?_ ⟨bounded_empty, rfl⟩ hpush
  · rintro s a hs ⟨m, r, d, t, rfl⟩
    exact hs.push m r d t
  · rintro s a hs ⟨m, r, d, t, rfl⟩
    rw [withinLimit_iff hs.1.1 hs.1.2]
    intro _
    exact .inr (by rw [hs.2]; exact Nat.zero_le _)

theorem Event.withinLimit_iff (hs : s.Bounded) (e : Event) : e.WithinLimit s ↔ e.HasRoom s := by
  cases e with
  | act a => exact Outbox.withinLimit_iff hs.1 hs.2 a
  | restart pending => exact iff_of_true (steps_reload pending) trivial

theorem Event.bounded_step (hs : s.Bounded) {e : Event} (he : e.WithinLimit s) : (e.step s).Bounded := by
  cases e with
  | act a => exact hs.step he
  | restart pending => exact run_invariant (I := Bounded) (fun _ _ h ha => h.step ha) bounded_empty he

/-- In every run from the empty outbox, over any pushes, pops, retries, confirmations and restarts:
the queue keeps within the limit and refuses a new message only for as many that can still be
retried, exactly if every step finds room. -/
theorem run_capacity_iff (es : List Event) :
    Steps Event.step (fun s e => e.WithinLimit s) {} es ↔ Steps Event.step (fun s e => e.HasRoom s) {} es :=
  steps_iff_of_invariant (fun _ e hs => Event.withinLimit_iff hs e) (fun _ _ hs he => Event.bounded_step hs he) es
    bounded_empty

/-! ## One too many -/

/-- Messages with different ids. -/
def numbered (n : Nat) : SavedChatMessage :=
  { sample with id := String.ofList (List.replicate n 'm') }

theorem numbered_id_inj {m n : Nat} (h : (numbered m).id = (numbered n).id) : m = n := by
  have hlen := congrArg (fun s => s.toList.length) h
  simpa [numbered] using hlen

/-- As many messages as the queue takes, one of them popped, one more pushed, and the attempt over. -/
def crowded : List Event :=
  ((List.range maxQueuedMessages).map fun n => .act (.push (numbered n) "b" 0 0)) ++
    [.act (.popPending 0), .act (.push (numbered maxQueuedMessages) "b" 0 0), .act (.scheduleRetry 0 0)]

def holding (n : Nat) : Outbox :=
  { queue := (List.range n).map fun n => { message := numbered n, recipientId := "b", nextRetryAt := 0 } }

theorem length_holding (n : Nat) : (holding n).queue.length = n := by
  unfold holding
  rw [List.length_map, List.length_range]

theorem not_mem_holding (n : Nat) : ∀ q ∈ (holding n).queue, q.message.id ≠ (numbered n).id := by
  intro q hq hid
  obtain ⟨i, hi, rfl⟩ := List.mem_map.1 hq
  have hin := numbered_id_inj hid
  rw [List.mem_range] at hi
  omega

theorem run_numbered : ∀ n ≤ maxQueuedMessages,
    run Event.step {} ((List.range n).map fun n => .act (.push (numbered n) "b" 0 0)) = holding n
  | 0, _ => rfl
  | n + 1, hn => by
    rw [List.range_succ, List.map_append, run_append, run_numbered n (by omega), List.map_singleton, run_cons, run_nil]
    show Outbox.mk (MessageQueue.pushAfter _ _ _ _ _) _ = _
    rw [MessageQueue.pushAfter_of_not_mem (not_mem_holding n), if_neg (by rw [length_holding]; omega)]
    unfold holding
    rw [List.range_succ, List.map_append, List.map_singleton]
    rfl

/-- From a full queue: one entry popped, a new message in its place, and the attempt over. -/
theorem length_overfull (hfull : s.queue.length = maxQueuedMessages) {t : Nat} {q : QueuedMessage} (hq : q ∈ s.queue)
    (hdue : q.isDue t = true) {msg : SavedChatMessage} (hmsg : ∀ q ∈ s.queue, q.message.id ≠ msg.id)
    (hin : s.inFlight = []) :
    (run Outbox.step s [.popPending t, .push msg "b" 0 t, .scheduleRetry 0 t]).queue.length =
      maxQueuedMessages + 1 := by
  obtain ⟨item, hfind⟩ := Option.isSome_iff_exists.1 (List.find?_isSome.2 ⟨q, hq, hdue⟩)
  have hpop : s.step (.popPending t) =
      { queue := s.queue.eraseP (·.isDue t), inFlight := [{ item with attempts := item.attempts + 1 }] } := by
    simp only [Outbox.step, MessageQueue.popPending, hfind, Option.map_some, hin, List.nil_append]
  have hlen : (s.queue.eraseP (·.isDue t)).length = maxQueuedMessages - 1 := by
    rw [List.length_eraseP_of_mem hq hdue, hfull]
  have hpush : ((s.step (.popPending t)).step (.push msg "b" 0 t)).queue.length = maxQueuedMessages := by
    rw [hpop]
    show (MessageQueue.pushAfter _ _ _ _ _).length = _
    rw [MessageQueue.pushAfter_of_not_mem fun q' hq' => hmsg q' (List.mem_of_mem_eraseP hq'), hlen, if_neg (by decide),
      List.length_append, hlen]
    rfl
  rw [run_cons, run_cons, run_cons, run_nil, length_step_scheduleRetry, hpush, hpop]
  rfl

theorem run_capacity_crowded : ¬ Steps Event.step (fun s e => e.WithinLimit s) {} crowded := by
  intro h
  unfold crowded at h
  rw [steps_append, run_numbered _ (Nat.le_refl _)] at h
  -- the limit after the last of the three steps
  have hlast := h.2.2.2.1.1
  have hfirst : { message := numbered 0, recipientId := "b", nextRetryAt := 0 } ∈ (holding maxQueuedMessages).queue :=
    List.mem_map.2 ⟨0, List.mem_range.2 (by decide), rfl⟩
  have hover := length_overfull (t := 0) (length_holding _) hfirst rfl (not_mem_holding _) rfl
  rw [run_cons, run_cons, run_cons, run_nil] at hover
  exact absurd (Nat.le_trans (Nat.le_of_eq hover.symm) hlast) (by decide)

end Outbox

end NodeX.Messenger
