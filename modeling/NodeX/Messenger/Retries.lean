/-
The outbox over whole runs, as long as no id is pushed twice and the clock does not go back: what it
holds, how often and how soon after each other an id is popped, and that giving up is final.
-/
import NodeX.Messenger.Outbox

namespace NodeX.Messenger

open NodeX.Lib

namespace MessageQueue

/-- `pop_pending` takes the first item of the queue that is due, if there is one. -/
def TakesFirst (queue : MessageQueue) (now : Nat) : Prop :=
  match queue.popPending now with
  | none => ∀ q ∈ queue, q.isDue now = false
  | some (item, rest) => ∃ front q back, queue = front ++ q :: back ∧ rest = front ++ back ∧
      (∀ x ∈ front, x.isDue now = false) ∧ q.isDue now = true ∧ item = { q with attempts := q.attempts + 1 }

theorem takesFirst (queue : MessageQueue) (now : Nat) : queue.TakesFirst now := by
  unfold TakesFirst popPending
  cases h : queue.find? (·.isDue now) with
  | none =>
    rw [Option.map_none]
    exact fun q hq => by simpa using List.find?_eq_none.1 h q hq
  | some q =>
    obtain ⟨hdue, front, back, rfl, hfront⟩ := List.find?_eq_some_iff_append.1 h
    rw [Option.map_some]
    refine ⟨front, q, back, rfl, ?_, fun x hx => by simpa using hfront x hx, hdue, rfl⟩
    rw [List.eraseP_append_right _ fun x hx => by simpa using hfront x hx, List.eraseP_cons_of_pos hdue]

end MessageQueue

namespace Outbox

/-! ## What happened -/

/-- Everything that is queued or in flight. -/
def held (s : Outbox) : List QueuedMessage := s.queue ++ s.inFlight

def heldIds (s : Outbox) : List String := s.held.map (·.message.id)

/-- The item that an action pops, with the time. -/
def popped (s : Outbox) : OutboxAction → Option (Nat × QueuedMessage)
  | .popPending now => (s.queue.popPending now).map fun p => (now, p.1)
  | _ => none

/-- All that is popped in a run. -/
def pops (s : Outbox) : List OutboxAction → List (Nat × QueuedMessage)
  | [] => []
  | a :: as => (s.popped a).toList ++ (s.step a).pops as

theorem pops_concat (s : Outbox) (as : List OutboxAction) (a : OutboxAction) :
    s.pops (as ++ [a]) = s.pops as ++ ((run step s as).popped a).toList := by
  induction as generalizing s with
  | nil => simp [pops]
  | cons b as ih => rw [List.cons_append, pops, pops, ih, run_cons, List.append_assoc]

/-- The times at which an id was popped. -/
def timesOf (id : String) (log : List (Nat × QueuedMessage)) : List Nat :=
  (log.filter fun x => x.2.message.id = id).map Prod.fst

theorem timesOf_concat (id : String) (log : List (Nat × QueuedMessage)) (now : Nat) (q : QueuedMessage) :
    timesOf id (log ++ [(now, q)]) = if q.message.id = id then timesOf id log ++ [now] else timesOf id log := by
  unfold timesOf
  rw [List.filter_append, List.map_append, List.filter_singleton]
  by_cases h : q.message.id = id <;> simp [h]

end Outbox

namespace OutboxAction

/-- The id that an action pushes. -/
def pushedId? : OutboxAction → Option String
  | push msg _ _ _ => some msg.id
  | _ => none

/-- The clock of an action. -/
def time? : OutboxAction → Option Nat
  | push _ _ _ now => some now
  | popPending now => some now
  | scheduleRetry _ now => some now
  | markDelivered _ => none

end OutboxAction

namespace Outbox

/-! ## One step -/

theorem mem_between {x q : QueuedMessage} {front back : List QueuedMessage} (h : x ∈ front ++ back) :
    x ∈ front ++ q :: back :=
  (List.mem_append.1 h).elim (List.mem_append_left _) fun h => List.mem_append_right _ (List.mem_cons_of_mem _ h)

/-- What an action leaves of what is held, and of what it pushes. -/
def Keeps (s : Outbox) (a : OutboxAction) : Prop :=
  (∀ id ∈ s.heldIds, id ∈ (s.step a).heldIds ∨ a = .markDelivered id) ∧
    ∀ id ∈ a.pushedId?, id ∈ (s.step a).heldIds ∨ s.queue.length ≥ maxQueuedMessages

variable {s : Outbox}

theorem step_push (s : Outbox) (msg : SavedChatMessage) (recipientId : String) (delaySecs now : Nat) :
    (msg.id ∈ s.heldIds ∨ s.queue.length ≥ maxQueuedMessages) ∧ s.step (.push msg recipientId delaySecs now) = s ∨
      s.step (.push msg recipientId delaySecs now) =
        { s with
          queue := s.queue ++ [{ message := msg, recipientId, nextRetryAt := saturatingAdd now delaySecs }] } := by
  unfold step MessageQueue.pushAfter
  dsimp only
  split
  · rename_i hany
    obtain ⟨q, hq, hid⟩ := List.any_eq_true.1 hany
    refine .inl ⟨.inl ?_, rfl⟩
    exact List.mem_map.2 ⟨q, List.mem_append_left _ hq, of_decide_eq_true hid⟩
  · split
    · rename_i hfull
      exact .inl ⟨.inr hfull, rfl⟩
    · exact .inr rfl

theorem step_popPending (s : Outbox) (now : Nat) :
    s.popped (.popPending now) = none ∧ s.step (.popPending now) = s ∨
      ∃ front q back, s.queue = front ++ q :: back ∧ q.isDue now = true ∧
        s.popped (.popPending now) = some (now, { q with attempts := q.attempts + 1 }) ∧
          s.step (.popPending now) =
            { queue := front ++ back, inFlight := s.inFlight ++ [{ q with attempts := q.attempts + 1 }] } := by
  have hfirst := s.queue.takesFirst now
  unfold MessageQueue.TakesFirst at hfirst
  unfold popped step
  dsimp only
  cases hpop : s.queue.popPending now with
  | none => exact .inl ⟨rfl, rfl⟩
  | some p =>
    obtain ⟨item, rest⟩ := p
    rw [hpop] at hfirst
    obtain ⟨front, q, back, hqueue, rfl, -, hdue, rfl⟩ := hfirst
    exact .inr ⟨front, q, back, hqueue, hdue, rfl, rfl⟩

theorem step_scheduleRetry (s : Outbox) (i now : Nat) :
    s.step (.scheduleRetry i now) = s ∨
      ∃ front q back, s.inFlight = front ++ q :: back ∧
        s.step (.scheduleRetry i now) = { queue := s.queue ++ [q.rescheduled now], inFlight := front ++ back } := by
  unfold step
  dsimp only
  cases hi : s.inFlight[i]? with
  | none => exact .inl rfl
  | some q =>
    obtain ⟨hlt, rfl⟩ := List.getElem?_eq_some_iff.1 hi
    refine .inr ⟨s.inFlight.take i, s.inFlight[i], s.inFlight.drop (i + 1), ?_, ?_⟩
    · rw [← List.drop_eq_getElem_cons, List.take_append_drop]
    · rw [← List.eraseIdx_eq_take_drop_succ]
      rfl

/-- A receipt takes one item out of the queue, with the id it names. -/
theorem step_markDelivered (s : Outbox) (messageId : String) :
    s.step (.markDelivered messageId) = s ∨
      ∃ front q back, s.queue = front ++ q :: back ∧ q.message.id = messageId ∧
        s.step (.markDelivered messageId) = { s with queue := front ++ back } := by
  unfold step MessageQueue.markDelivered
  dsimp only
  by_cases h : ∃ q ∈ s.queue, decide (q.message.id = messageId) = true
  · obtain ⟨q, hq, hid⟩ := h
    obtain ⟨x, front, back, -, hx, hqueue, herase⟩ :=
      List.exists_of_eraseP (p := fun q => q.message.id = messageId) hq hid
    refine .inr ⟨front, x, back, hqueue, of_decide_eq_true hx, ?_⟩
    rw [herase]
  · push Not at h
    rw [List.eraseP_of_forall_not h]
    exact .inl rfl

theorem keeps (s : Outbox) (a : OutboxAction) : s.Keeps a := by
  unfold Keeps heldIds held
  cases a with
  | push msg recipientId delaySecs now =>
    rcases step_push s msg recipientId delaySecs now with ⟨hheld, hstep⟩ | hstep
    · rw [hstep]
      refine ⟨fun id hid => .inl hid, ?_⟩
      rintro id ⟨⟩
      exact hheld
    · rw [hstep]
      constructor
      · intro id hid
        refine .inl ?_
        simp only [List.map_append, List.mem_append] at hid ⊢
        tauto
      · rintro id ⟨⟩
        exact .inl (by simp)
  | popPending now =>
    refine ⟨fun id hid => .inl ?_, by simp [OutboxAction.pushedId?]⟩
    rcases step_popPending s now with ⟨-, hstep⟩ | ⟨front, q, back, hqueue, -, -, hstep⟩
    · rwa [hstep]
    · rw [hstep]
      rw [hqueue] at hid
      simp only [List.map_append, List.map_cons, List.map_nil, List.mem_append, List.mem_cons] at hid ⊢
      tauto
  | scheduleRetry i now =>
    refine ⟨fun id hid => .inl ?_, by simp [OutboxAction.pushedId?]⟩
    rcases step_scheduleRetry s i now with hstep | ⟨front, q, back, hflight, hstep⟩
    · rwa [hstep]
    · rw [hstep]
      rw [hflight] at hid
      simp only [List.map_append, List.map_cons, List.map_nil, List.mem_append, List.mem_cons,
        QueuedMessage.message_rescheduled] at hid ⊢
      tauto
  | markDelivered messageId =>
    refine ⟨fun id hid => ?_, by simp [OutboxAction.pushedId?]⟩
    rcases step_markDelivered s messageId with hstep | ⟨front, q, back, hqueue, hq, hstep⟩
    · exact .inl (by rwa [hstep])
    · rw [hstep]
      rw [hqueue] at hid
      simp only [List.map_append, List.map_cons, List.mem_append, List.mem_cons] at hid ⊢
      by_cases heq : id = q.message.id
      · exact .inr (by rw [heq, hq])
      · tauto

/-! ## What a run keeps -/

/-- At most six times, and after the `k`-th time a pause of `min (2 ^ k) 32` seconds. -/
def Spaced (ts : List Nat) : Prop :=
  ts.length ≤ maxRetryAttempts ∧ ∀ (k : ℕ) (h : k + 1 < ts.length), ts[k] + min (2 ^ (k + 1)) 32 ≤ ts[k + 1]

theorem spaced_nil : Spaced [] := ⟨Nat.zero_le _, fun k h => absurd h (by simp)⟩

theorem Spaced.concat {ts : List Nat} (h : Spaced ts) {now : Nat} (hlt : ts.length < maxRetryAttempts)
    (hlast : ∀ t ∈ ts.getLast?, t + min (2 ^ ts.length) 32 ≤ now) : Spaced (ts ++ [now]) := by
  refine ⟨by simpa using hlt, fun k hk => ?_⟩
  rw [List.length_append, List.length_singleton] at hk
  by_cases hkt : k + 1 < ts.length
  · rw [List.getElem_append_left (by omega), List.getElem_append_left hkt]
    exact h.2 k hkt
  · have hk : k + 1 = ts.length := by omega
    rw [List.getElem_append_left (by omega), List.getElem_append_right (by omega), List.getElem_singleton, hk]
    refine hlast _ ?_
    rw [List.getLast?_eq_getElem?]
    exact List.getElem?_eq_some_iff.2 ⟨by omega, by congr 1; omega⟩

/-- What holds of the outbox, the ids that were pushed, the times that were read and the items popped so far. -/
structure Disciplined (ids : List String) (ts : List Nat) (log : List (Nat × QueuedMessage)) (s : Outbox) : Prop where
  nodup : s.heldIds.Nodup
  pushed : ∀ id ∈ s.heldIds, id ∈ ids
  popped : ∀ x ∈ log, x.2.message.id ∈ ids ∧ x.1 ∈ ts
  counted : ∀ q ∈ s.held, q.attempts = (timesOf q.message.id log).length
  /-- an item that may be popped has an attempt left, and its pause is over by the time it is due -/
  queued : ∀ q ∈ s.queue, q.status = .sending → q.attempts < maxRetryAttempts ∧
    ∀ t ∈ (timesOf q.message.id log).getLast?, t + min (2 ^ q.attempts) 32 ≤ q.nextRetryAt
  spaced : ∀ id, Spaced (timesOf id log)

variable {ids : List String} {ts : List Nat} {log : List (Nat × QueuedMessage)}

theorem disciplined_start : Disciplined [] [] [] {} :=
  ⟨List.nodup_nil, by simp [heldIds, held], by simp, by simp [held], by simp, fun _ => spaced_nil⟩

/-- Nothing changed, but perhaps an id was pushed and turned away, or a time was read. -/
theorem Disciplined.mono (h : Disciplined ids ts log s) (ids' : List String) (ts' : List Nat) :
    Disciplined (ids ++ ids') (ts ++ ts') log s where
  nodup := h.nodup
  pushed id hid := List.mem_append_left _ (h.pushed id hid)
  popped x hx := ⟨List.mem_append_left _ (h.popped x hx).1, List.mem_append_left _ (h.popped x hx).2⟩
  counted := h.counted
  queued := h.queued
  spaced := h.spaced

theorem Disciplined.mono_time (h : Disciplined ids ts log s) (now : Nat) : Disciplined ids (ts ++ [now]) log s := by
  have hmono := h.mono [] [now]
  rwa [List.append_nil] at hmono

theorem timesOf_eq_nil {id : String} (h : ∀ x ∈ log, x.2.message.id ≠ id) : timesOf id log = [] := by
  unfold timesOf
  rw [List.map_eq_nil_iff, List.filter_eq_nil_iff]
  exact fun x hx => by simpa using h x hx

theorem mem_timesOf {id : String} {t : Nat} (h : t ∈ timesOf id log) : ∃ x ∈ log, x.1 = t := by
  obtain ⟨x, hx, rfl⟩ := List.mem_map.1 h
  exact ⟨x, (List.mem_filter.1 hx).1, rfl⟩

theorem Disciplined.push (h : Disciplined ids ts log s) {msg : SavedChatMessage} (hnew : msg.id ∉ ids)
    (recipientId : String) (nextRetryAt now : Nat) :
    Disciplined (ids ++ [msg.id]) (ts ++ [now]) log
      { s with queue := s.queue ++ [{ message := msg, recipientId, nextRetryAt }] } := by
  let item : QueuedMessage := { message := msg, recipientId, nextRetryAt }
  have hperm : (s.queue ++ [item] ++ s.inFlight).Perm (item :: s.held) := by
    rw [List.append_assoc]
    exact List.perm_middle
  have hids := hperm.map (·.message.id)
  have hnone : timesOf msg.id log = [] := timesOf_eq_nil fun x hx heq => hnew (heq ▸ (h.popped x hx).1)
  have hmono := h.mono [msg.id] [now]
  constructor
  · exact hids.nodup_iff.2 (List.nodup_cons.2 ⟨fun hmem => hnew (h.pushed _ hmem), h.nodup⟩)
  · intro id hid
    rcases List.mem_cons.1 (hids.mem_iff.1 hid) with rfl | hid
    · exact List.mem_append_right _ (List.mem_singleton_self _)
    · exact hmono.pushed id hid
  · exact hmono.popped
  · intro q hq
    rcases List.mem_cons.1 (hperm.mem_iff.1 hq) with rfl | hq
    · rw [hnone]
      rfl
    · exact h.counted q hq
  · intro q hq
    rcases List.mem_append.1 hq with hq | hq
    · exact h.queued q hq
    · obtain rfl := List.mem_singleton.1 hq
      intro _
      rw [hnone]
      exact ⟨by simp [maxRetryAttempts], by simp⟩
  · exact h.spaced

theorem Disciplined.pop (h : Disciplined ids ts log s) {front back : MessageQueue} {q : QueuedMessage} {now : Nat}
    (hqueue : s.queue = front ++ q :: back) (hdue : q.isDue now = true) :
    Disciplined ids (ts ++ [now]) (log ++ [(now, { q with attempts := q.attempts + 1 })])
      { queue := front ++ back, inFlight := s.inFlight ++ [{ q with attempts := q.attempts + 1 }] } := by
  have hsending : q.status = .sending := by
    unfold QueuedMessage.isDue at hdue
    exact of_decide_eq_true (Bool.and_eq_true_iff.1 hdue).1
  have hready : q.nextRetryAt ≤ now := by
    unfold QueuedMessage.isDue at hdue
    exact of_decide_eq_true (Bool.and_eq_true_iff.1 hdue).2
  have hperm : s.held.Perm (q :: (front ++ back ++ s.inFlight)) := by
    unfold held
    rw [hqueue, List.append_assoc, List.append_assoc]
    exact List.perm_middle
  have hperm' : (front ++ back ++ (s.inFlight ++ [{ q with attempts := q.attempts + 1 }])).Perm
      ({ q with attempts := q.attempts + 1 } :: (front ++ back ++ s.inFlight)) := by
    rw [← List.append_assoc]
    exact List.perm_append_singleton _ _
  have hids := hperm.map (·.message.id)
  have hids' := hperm'.map (·.message.id)
  have hnodup := hids.nodup_iff.1 h.nodup
  have hother : ∀ x ∈ front ++ back ++ s.inFlight, q.message.id ≠ x.message.id := by
    intro x hx heq
    exact (List.nodup_cons.1 hnodup).1 (List.mem_map.2 ⟨x, hx, heq.symm⟩)
  have hmem : ∀ x ∈ front ++ back ++ s.inFlight, x ∈ s.held := fun x hx => hperm.mem_iff.2 (List.mem_cons_of_mem _ hx)
  have hq : q ∈ s.queue := hqueue ▸ List.mem_append_right _ List.mem_cons_self
  have hcount := h.counted q (List.mem_append_left _ hq)
  obtain ⟨hleft, hpause⟩ := h.queued q hq hsending
  constructor
  · exact hids'.nodup_iff.2 hnodup
  · intro id hid
    exact h.pushed id (hids.mem_iff.2 (hids'.mem_iff.1 hid))
  · intro x hx
    rcases List.mem_append.1 hx with hx | hx
    · exact ⟨(h.popped x hx).1, List.mem_append_left _ (h.popped x hx).2⟩
    · obtain rfl := List.mem_singleton.1 hx
      exact ⟨h.pushed _ (List.mem_map.2 ⟨q, List.mem_append_left _ hq, rfl⟩), by simp⟩
  · intro x hx
    rw [timesOf_concat]
    rcases List.mem_cons.1 (hperm'.mem_iff.1 hx) with rfl | hx
    · rw [if_pos rfl, List.length_append, ← hcount]
      rfl
    · rw [if_neg (hother x hx)]
      exact h.counted x (hmem x hx)
  · intro x hx
    have hx' : x ∈ front ++ back ++ s.inFlight := List.mem_append_left _ hx
    rw [timesOf_concat, if_neg (hother x hx')]
    refine h.queued x ?_
    rw [hqueue]
    exact mem_between hx
  · intro id
    rw [timesOf_concat]
    split
    · rename_i hid
      dsimp only at hid
      subst hid
      refine (h.spaced _).concat (hcount ▸ hleft) fun t ht => ?_
      rw [← hcount]
      exact le_trans (hpause t ht) hready
    · exact h.spaced id

/-- What is rescheduled has the pause that its attempts ask for, counted from a time after its last pop. -/
theorem Disciplined.reschedule (h : Disciplined ids ts log s) {front back : List QueuedMessage} {q : QueuedMessage}
    {now : Nat} (hflight : s.inFlight = front ++ q :: back) (hnow : ∀ t ∈ ts, t ≤ now) :
    Disciplined ids (ts ++ [now]) log { queue := s.queue ++ [q.rescheduled now], inFlight := front ++ back } := by
  have hperm : (s.queue ++ [q.rescheduled now] ++ (front ++ back)).Perm
      (q.rescheduled now :: (s.queue ++ (front ++ back))) := by
    rw [List.append_assoc]
    exact List.perm_middle
  have hperm' : s.held.Perm (q :: (s.queue ++ (front ++ back))) := by
    unfold held
    rw [hflight, ← List.append_assoc, ← List.append_assoc]
    exact List.perm_middle
  have hids : ((s.queue ++ [q.rescheduled now] ++ (front ++ back)).map (·.message.id)).Perm s.heldIds := by
    refine (hperm.map (·.message.id)).trans ?_
    rw [List.map_cons, QueuedMessage.message_rescheduled]
    exact (hperm'.map (·.message.id)).symm
  have hattempts : (q.rescheduled now).attempts = q.attempts := by
    unfold QueuedMessage.rescheduled
    split <;> rfl
  have hq : q ∈ s.held := List.mem_append_right _ (hflight ▸ List.mem_append_right _ List.mem_cons_self)
  constructor
  · exact hids.nodup_iff.2 h.nodup
  · exact fun id hid => h.pushed id (hids.mem_iff.1 hid)
  · exact (h.mono_time now).popped
  · intro x hx
    rcases List.mem_cons.1 (hperm.mem_iff.1 hx) with rfl | hx
    · rw [hattempts, QueuedMessage.message_rescheduled]
      exact h.counted q hq
    · exact h.counted x (hperm'.mem_iff.2 (List.mem_cons_of_mem _ hx))
  · intro x hx
    rcases List.mem_append.1 hx with hx | hx
    · exact h.queued x hx
    · obtain rfl := List.mem_singleton.1 hx
      intro hsending
      rw [hattempts, QueuedMessage.message_rescheduled]
      unfold QueuedMessage.rescheduled at hsending ⊢
      split at hsending
      · cases hsending
      · rename_i hleft
        rw [if_neg hleft]
        refine ⟨Nat.lt_of_not_le hleft, fun t ht => ?_⟩
        obtain ⟨y, hy, rfl⟩ := mem_timesOf (List.mem_of_getLast? ht)
        have hle := hnow _ (h.popped y hy).2
        have hfive : min q.attempts 5 = q.attempts := by
          unfold maxRetryAttempts at hleft
          omega
        rw [hfive]
        exact Nat.add_le_add_right hle _
  · exact h.spaced

theorem Disciplined.delivered (h : Disciplined ids ts log s) {front back : MessageQueue} {q : QueuedMessage}
    (hqueue : s.queue = front ++ q :: back) : Disciplined ids ts log { s with queue := front ++ back } := by
  have hsub : (front ++ back).Sublist s.queue := by
    rw [hqueue]
    exact (List.Sublist.refl _).append (List.sublist_cons_self _ _)
  have hheld : (front ++ back ++ s.inFlight).Sublist s.held := hsub.append (List.Sublist.refl _)
  exact ⟨h.nodup.sublist (hheld.map _), fun id hid => h.pushed id ((hheld.map _).subset hid), h.popped,
    fun x hx => h.counted x (hheld.subset hx), fun x hx => h.queued x (hsub.subset hx), h.spaced⟩

/-- One action, which pushes no id that was pushed before and reads no time from before. -/
theorem Disciplined.step (h : Disciplined ids ts log s) {a : OutboxAction} (hnew : ∀ id ∈ a.pushedId?, id ∉ ids)
    (htime : ∀ now ∈ a.time?, ∀ t ∈ ts, t ≤ now) :
    Disciplined (ids ++ a.pushedId?.toList) (ts ++ a.time?.toList) (log ++ (s.popped a).toList) (s.step a) := by
  cases a with
  | push msg recipientId delaySecs now =>
    simp only [Outbox.popped, Option.toList_none, List.append_nil]
    rcases step_push s msg recipientId delaySecs now with ⟨-, hstep⟩ | hstep
    · rw [hstep]
      exact h.mono _ _
    · rw [hstep]
      exact h.push (hnew _ rfl) recipientId _ now
  | popPending now =>
    simp only [OutboxAction.pushedId?, Option.toList_none, List.append_nil]
    rcases step_popPending s now with ⟨hnone, hstep⟩ | ⟨front, q, back, hqueue, hdue, hpop, hstep⟩
    · rw [hstep, hnone, Option.toList_none, List.append_nil]
      exact h.mono_time now
    · rw [hstep, hpop]
      exact h.pop hqueue hdue
  | scheduleRetry i now =>
    simp only [OutboxAction.pushedId?, Outbox.popped, Option.toList_none, List.append_nil]
    rcases step_scheduleRetry s i now with hstep | ⟨front, q, back, hflight, hstep⟩
    · rw [hstep]
      exact h.mono_time now
    · rw [hstep]
      exact h.reschedule hflight (htime now rfl)
  | markDelivered messageId =>
    simp only [OutboxAction.pushedId?, OutboxAction.time?, Outbox.popped, Option.toList_none, List.append_nil]
    rcases step_markDelivered s messageId with hstep | ⟨front, q, back, hqueue, -, hstep⟩
    · rwa [hstep]
    · rw [hstep]
      exact h.delivered hqueue

/-- The ids that a run pushes. -/
def pushedIds (as : List OutboxAction) : List String := as.filterMap OutboxAction.pushedId?

/-- The times that a run reads off the clock. -/
def times (as : List OutboxAction) : List Nat := as.filterMap OutboxAction.time?

theorem filterMap_concat {α β : Type} (f : α → Option β) (as : List α) (a : α) :
    (as ++ [a]).filterMap f = as.filterMap f ++ (f a).toList := by
  rw [List.filterMap_append]
  cases h : f a <;> simp [h]

theorem disciplined_run {as : List OutboxAction} (hpush : (pushedIds as).Nodup)
    (htime : (times as).Pairwise (· ≤ ·)) :
    Disciplined (pushedIds as) (times as) (pops {} as) (run step {} as) := by
  induction as using List.reverseRecOn with
  | nil => exact disciplined_start
  | append_singleton as a ih =>
    unfold pushedIds at hpush ⊢
    unfold times at htime ⊢
    rw [filterMap_concat] at hpush htime ⊢
    obtain ⟨hpushed, -, hnew⟩ := List.nodup_append.1 hpush
    obtain ⟨htimes, -, hlater⟩ := List.pairwise_append.1 htime
    rw [filterMap_concat, pops_concat, run_concat]
    refine (ih hpushed htimes).step (fun id hid hmem => ?_) fun now hnow t ht => ?_
    · exact hnew id hmem id (Option.mem_toList.2 hid) rfl
    · exact hlater t ht now (Option.mem_toList.2 hnow)

/-! ## Given up -/

/-- Every copy of a message that is queued was given up, and none is in flight. -/
def GivenUp (id : String) (s : Outbox) : Prop :=
  (∀ q ∈ s.queue, q.message.id = id → q.status = .failed) ∧ ∀ q ∈ s.inFlight, q.message.id ≠ id

theorem GivenUp.not_popped {id : String} (h : GivenUp id s) (a : OutboxAction) :
    ∀ x ∈ s.popped a, x.2.message.id ≠ id := by
  intro x hx hid
  cases a with
  | popPending now =>
    rcases step_popPending s now with ⟨hnone, -⟩ | ⟨front, q, back, hqueue, hdue, hpop, -⟩
    · rw [hnone] at hx
      cases hx
    · rw [hpop] at hx
      obtain rfl := Option.some.inj hx
      have hfailed := h.1 q (hqueue ▸ List.mem_append_right _ List.mem_cons_self) hid
      unfold QueuedMessage.isDue at hdue
      rw [hfailed] at hdue
      simp at hdue
  | push msg recipientId delaySecs now => cases hx
  | scheduleRetry i now => cases hx
  | markDelivered messageId => cases hx

theorem GivenUp.step {id : String} (h : GivenUp id s) {a : OutboxAction} (hpush : NotPush id a) :
    GivenUp id (s.step a) := by
  cases a with
  | push msg recipientId delaySecs now =>
    rcases step_push s msg recipientId delaySecs now with ⟨-, hstep⟩ | hstep
    · rwa [hstep]
    · rw [hstep]
      refine ⟨fun q hq hid => ?_, h.2⟩
      rcases List.mem_append.1 hq with hq | hq
      · exact h.1 q hq hid
      · obtain rfl := List.mem_singleton.1 hq
        exact absurd hid hpush
  | popPending now =>
    have hnot := h.not_popped (.popPending now)
    rcases step_popPending s now with ⟨-, hstep⟩ | ⟨front, q, back, hqueue, -, hpop, hstep⟩
    · rwa [hstep]
    · rw [hstep]
      refine ⟨fun x hx => h.1 x ?_, fun x hx => ?_⟩
      · rw [hqueue]
        exact mem_between hx
      · rcases List.mem_append.1 hx with hx | hx
        · exact h.2 x hx
        · obtain rfl := List.mem_singleton.1 hx
          exact hnot _ hpop
  | scheduleRetry i now =>
    rcases step_scheduleRetry s i now with hstep | ⟨front, q, back, hflight, hstep⟩
    · rwa [hstep]
    · rw [hstep]
      refine ⟨fun x hx hid => ?_, fun x hx => h.2 x ?_⟩
      · rcases List.mem_append.1 hx with hx | hx
        · exact h.1 x hx hid
        · obtain rfl := List.mem_singleton.1 hx
          rw [QueuedMessage.message_rescheduled] at hid
          exact absurd hid (h.2 q (hflight ▸ List.mem_append_right _ List.mem_cons_self))
      · rw [hflight]
        exact mem_between hx
  | markDelivered messageId =>
    rcases step_markDelivered s messageId with hstep | ⟨front, q, back, hqueue, -, hstep⟩
    · rwa [hstep]
    · rw [hstep]
      refine ⟨fun x hx => h.1 x ?_, h.2⟩
      rw [hqueue]
      exact mem_between hx

theorem GivenUp.pops {id : String} : ∀ {s : Outbox} {as : List OutboxAction}, GivenUp id s →
    (∀ a ∈ as, NotPush id a) → ∀ x ∈ s.pops as, x.2.message.id ≠ id
  | _, [], _, _, x, hx => by cases hx
  | s, a :: as, h, hpush, x, hx => by
    rcases List.mem_append.1 hx with hx | hx
    · exact h.not_popped a x (Option.mem_toList.1 hx)
    · exact (h.step (hpush a List.mem_cons_self)).pops (fun b hb => hpush b (List.mem_cons_of_mem _ hb)) x hx

theorem notPush_of_notMem {id : String} {as : List OutboxAction} (h : id ∉ pushedIds as) : ∀ a ∈ as, NotPush id a := by
  intro a ha
  cases a with
  | push msg recipientId delaySecs now =>
    intro hid
    exact h (List.mem_filterMap.2 ⟨_, ha, congrArg some hid⟩)
  | popPending now => trivial
  | scheduleRetry i now => trivial
  | markDelivered messageId => trivial

/-! ## The discipline -/

/-- In every run that pushes no id twice, while the clock does not go back: each id is held at most
once, and lost by a receipt or a refused push only; it is popped at most six times, each time after
the pause that the attempts so far ask for; what was given up is never popped; and what is popped is
the first that is due. -/
theorem run_retryDiscipline {as : List OutboxAction} (hpush : (pushedIds as).Nodup)
    (htime : (times as).Pairwise (· ≤ ·)) :
    (run step {} as).heldIds.Nodup ∧ Steps step Keeps {} as ∧ (∀ id, Spaced (timesOf id (pops {} as))) ∧
      (∀ pre post, as = pre ++ post → ∀ q ∈ (run step {} pre).queue, q.status = .failed →
        ∀ x ∈ (run step {} pre).pops post, x.2.message.id ≠ q.message.id) ∧
      ∀ now, (run step {} as).queue.TakesFirst now := by
  have h := disciplined_run hpush htime
  refine ⟨h.nodup, steps_of_forall keeps {} as, h.spaced, ?_, fun now => MessageQueue.takesFirst _ now⟩
  rintro pre post rfl q hq hfailed
  unfold pushedIds at hpush
  unfold times at htime
  rw [List.filterMap_append] at hpush htime
  obtain ⟨hpre, -, hapart⟩ := List.nodup_append.1 hpush
  have hd := disciplined_run hpre (List.pairwise_append.1 htime).1
  have hnodup := hd.nodup
  unfold heldIds held at hnodup
  rw [List.map_append] at hnodup
  have hheld := List.nodup_append.1 hnodup
  have hgiven : GivenUp q.message.id (run step {} pre) := by
    refine ⟨fun x hx hid => ?_, fun x hx hid => ?_⟩
    · rw [List.inj_on_of_nodup_map hheld.1 hx hq hid]
      exact hfailed
    · exact hheld.2.2 _ (List.mem_map_of_mem hq) _ (List.mem_map_of_mem hx) hid.symm
  have hid : q.message.id ∈ pushedIds pre := hd.pushed _ (List.mem_map_of_mem (List.mem_append_left _ hq))
  exact hgiven.pops (notPush_of_notMem fun hpost => hapart _ hid _ hpost rfl)

/-- Pushed with a delay, tried twice, and confirmed before the third time. -/
theorem run_retryDiscipline_twice :
    let as : List OutboxAction := [.push sample "b" 8 100, .popPending 108, .scheduleRetry 0 108, .popPending 110,
      .scheduleRetry 0 110, .markDelivered "m1", .popPending 120]
    Spaced (timesOf "m1" (pops {} as)) ∧ timesOf "m1" (pops {} as) = [108, 110] := by
  intro as
  exact ⟨(@run_retryDiscipline as (by decide) (by decide)).2.2.1 "m1", by decide⟩

end Outbox

end NodeX.Messenger
