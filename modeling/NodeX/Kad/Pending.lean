/-
What stands in the pending map. An entry belongs to the running attempt of its call, whose channel is still empty;
the reply, a closed channel, a failed send and the deadline each take it out again. A future that is dropped does not.
-/
import NodeX.Kad.Noninterference

namespace NodeX.Kad

open NodeX.Lib

/-! ## Calls and their entries -/

/-- The call an entry was made by. -/
def PendingCall.callId (e : PendingCall) : CallId := ⟨e.requestId, e.task⟩

namespace CallPhase

/-- The call has not returned, and its future was not dropped. -/
def inProgress : CallPhase → Bool
  | .done _ | .dropped => false
  | .starting | .sending | .waiting | .sendFailed _ | .canceled | .timedOut => true

/-- The phases in which an attempt's entry may be in the map; the dropped calls are counted in on demand. -/
def registered (orDropped : Bool) : CallPhase → Bool
  | .sending | .waiting | .sendFailed _ | .timedOut => true
  | .dropped => orDropped
  | .starting | .canceled | .done _ => false

theorem registered_of_false {d : Bool} {p : CallPhase} (h : p.registered false = true) : p.registered d = true := by
  cases p with
  | dropped => cases h
  | _ => exact h

theorem inProgress_of_registered {p : CallPhase} (h : p.registered false = true) : p.inProgress = true := by
  cases p with
  | dropped => cases h
  | starting | canceled | done => cases h
  | _ => rfl

theorem registered_of_inProgress {p : CallPhase} (h : p.registered true = true) (hp : p.inProgress = true) :
    p.registered false = true := by
  cases p with
  | dropped => cases hp
  | _ => exact h

theorem inProgress_of_ne_dropped {p : CallPhase} (h : p.registered true = true) (hp : p ≠ .dropped) :
    p.inProgress = true := by
  cases p with
  | dropped => exact absurd rfl hp
  | starting | canceled | done => cases h
  | _ => rfl

end CallPhase

namespace Call

/-- The entry is that of the call's running attempt. -/
structure Attached (orDropped : Bool) (e : PendingCall) (c : Call) : Prop where
  target : c.target = e.expectedAddr
  attempt : c.attempt = e.attempt
  channel : c.channel = .empty
  phase : c.phase.registered orDropped = true

variable {d : Bool} {e : PendingCall} {c : Call}

theorem Attached.mono (h : Attached false e c) : Attached d e c :=
  ⟨h.target, h.attempt, h.channel, CallPhase.registered_of_false h.phase⟩

theorem Attached.inProgress (h : Attached false e c) : c.phase.inProgress = true :=
  CallPhase.inProgress_of_registered h.phase

theorem Attached.of_inProgress (h : Attached true e c) (hc : c.phase.inProgress = true) : Attached false e c :=
  ⟨h.target, h.attempt, h.channel, CallPhase.registered_of_inProgress h.phase hc⟩

theorem Attached.afterSend (localId : NodeId) (error : Option String) (h : Attached d e c) :
    Attached d e (c.afterSend localId error) := by
  unfold Call.afterSend
  split
  · split
    · exact ⟨h.target, h.attempt, h.channel, rfl⟩
    · exact ⟨h.target, h.attempt, h.channel, rfl⟩
  · exact h

/-- The channel is empty, so that only the deadline can end the wait. -/
theorem Attached.poll (deadline : Bool) (h : Attached d e c) : Attached d e (c.poll deadline) := by
  unfold Call.poll
  split
  · rename_i hc
    rw [h.channel] at hc
    cases hc
  · rename_i hc
    rw [h.channel] at hc
    cases hc
  · split
    · exact ⟨h.target, h.attempt, h.channel, rfl⟩
    · exact h
  · exact h

theorem Attached.drop (h : Attached true e c) : Attached true e c.drop := by
  unfold Call.drop
  split
  · exact h
  · exact ⟨h.target, h.attempt, h.channel, rfl⟩

theorem not_attached_drop : ¬ Attached false e c.drop := by
  intro hdrop
  have hp := hdrop.phase
  unfold Call.drop at hp
  split at hp
  · rename_i hc
    rw [hc] at hp
    cases hp
  · cases hp

end Call

/-! ## The map -/

namespace NetworkManager

variable {s : NetworkManager} {id : CallId} {d : Bool}

theorem call?_modifyCall (s : NetworkManager) (id id' : CallId) (f : Call → Call) (hf : ∀ c, (f c).id = c.id) :
    (s.modifyCall id f hf).call? id' = if id = id' then (s.call? id').map f else s.call? id' := by
  unfold call? modifyCall
  rw [KeyedList.get?_modify]

/-- The entry under the request id is gone, whatever was there. -/
theorem get?_pending_take (s : NetworkManager) (r r' : UInt64) (channel : PendingCall → Channel) :
    (s.take r channel).pending.get? r' = if r = r' then none else s.pending.get? r' := by
  unfold take
  split
  · rename_i hnone
    split
    · rename_i hr
      rw [← hr, hnone]
    · rfl
  · exact KeyedList.get?_erase ..

/-- A call under another request id is as it was. -/
theorem call?_take_of_ne {r : UInt64} (hr : id.requestId ≠ r) (s : NetworkManager) (channel : PendingCall → Channel) :
    (s.take r channel).call? id = s.call? id := (AgreeOn.take_other (Ne.symm hr) channel).calls id.task

/-- A call under the request id has at most its channel resolved. -/
theorem call?_take {c : Call} {r : UInt64} {channel : PendingCall → Channel}
    (h : (s.take r channel).call? id = some c) :
    ∃ c₀, s.call? id = some c₀ ∧
      (c = c₀ ∨ ∃ e, s.pending.get? r = some e ∧ e.callId = id ∧ c = c₀.resolve e.attempt (channel e)) := by
  unfold take at h
  split at h
  · exact ⟨c, h, .inl rfl⟩
  · rename_i e he
    rw [call?_modifyCall] at h
    have hr : e.requestId = r := KeyedList.key_of_get? he
    split at h
    · rename_i hid
      obtain ⟨c₀, hc₀, rfl⟩ := Option.map_eq_some_iff.1 h
      refine ⟨c₀, hc₀, .inr ⟨e, he, ?_, rfl⟩⟩
      rw [← hid, ← hr]
      rfl
    · exact ⟨c, h, .inl rfl⟩

theorem call?_take_of_some {c : Call} (h : s.call? id = some c) (r : UInt64) (channel : PendingCall → Channel) :
    ∃ c', (s.take r channel).call? id = some c' ∧ c'.target = c.target ∧ c'.attempt = c.attempt := by
  unfold take
  split
  · exact ⟨c, h, rfl, rfl⟩
  · rw [call?_modifyCall]
    split
    · refine ⟨_, congrArg (Option.map _) h, ?_, ?_⟩ <;> (unfold Call.resolve; split <;> rfl)
    · exact ⟨c, h, rfl, rfl⟩

/-- What registering does, if it does anything: the entry under the request id goes, and the call opens its channel
with an entry of its own. -/
theorem register_cases (s : NetworkManager) (id : CallId) :
    s.register id = s ∨
      ∃ c s', s.call? id = some c ∧
        s' = (s.take id.requestId fun _ => .closed).modifyCall id Call.opened Call.id_opened ∧
        s.register id = { s' with pending := s'.pending.upsert ⟨id.requestId, c.target, id.task, c.attempt⟩ } := by
  unfold register
  split
  · exact .inl rfl
  · rename_i c hc
    split
    · exact .inr ⟨c, _, hc, rfl, rfl⟩
    · exact .inl rfl

theorem unregister_cases (s : NetworkManager) (id : CallId) :
    s.unregister id = s ∨
      s.unregister id =
        (s.take id.requestId fun _ => .closed).modifyCall id Call.afterUnregister Call.id_afterUnregister := by
  unfold unregister
  split
  · exact .inl rfl
  · split
    · exact .inr rfl
    · exact .inl rfl

/-- The manager once a datagram was read, before what it says is handled. -/
def received (crc32 : Bytes → UInt32) (s : NetworkManager) (srcAddr : SocketAddr) (bytes : Bytes) (now : Nat) :
    NetworkManager :=
  { s with assembler := (receive crc32 s.assembler srcAddr bytes now).1, clock := now }

theorem datagram_cases (crc32 : Bytes → UInt32) (s : NetworkManager) (srcAddr : SocketAddr) (bytes : Bytes)
    (now : Nat) :
    s.datagram crc32 srcAddr bytes now = s.received crc32 srcAddr bytes now ∨
      ∃ msg, (receive crc32 s.assembler srcAddr bytes now).2 = some msg ∧ msg.isResponse = true ∧
        s.datagram crc32 srcAddr bytes now = (s.received crc32 srcAddr bytes now).dispatch srcAddr msg := by
  unfold datagram
  dsimp only
  split
  · exact .inl rfl
  · rename_i msg hmsg
    split
    · rename_i hresponse
      exact .inr ⟨msg, hmsg, hresponse, rfl⟩
    · exact .inl rfl

/-- Every entry is attached to a call. -/
def AllAttached (orDropped : Bool) (s : NetworkManager) : Prop :=
  ∀ r e, s.pending.get? r = some e → ∃ c, s.call? e.callId = some c ∧ c.Attached orDropped e

namespace AllAttached

theorem empty (d : Bool) : AllAttached d {} := by
  intro r e he
  cases he

theorem mono (h : s.AllAttached false) : s.AllAttached d := by
  intro r e he
  obtain ⟨c, hc, ha⟩ := h r e he
  exact ⟨c, hc, ha.mono⟩

theorem modifyCall (h : s.AllAttached d) {f : Call → Call} {hf : ∀ c, (f c).id = c.id}
    (hkeep : ∀ e c, s.pending.get? id.requestId = some e → e.callId = id → c.Attached d e → (f c).Attached d e) :
    (s.modifyCall id f hf).AllAttached d := by
  intro r e he
  obtain ⟨c, hc, ha⟩ := h r e he
  rw [call?_modifyCall]
  split
  · rename_i hid
    have hr : e.requestId = r := KeyedList.key_of_get? he
    refine ⟨f c, by rw [hc]; rfl, hkeep e c ?_ hid.symm ha⟩
    rw [hid, show e.callId.requestId = r from hr]
    exact he
  · exact ⟨c, hc, ha⟩

theorem take (h : s.AllAttached d) (r : UInt64) (channel : PendingCall → Channel) :
    (s.take r channel).AllAttached d := by
  intro r' e he
  rw [get?_pending_take] at he
  split at he
  · cases he
  · rename_i hr
    obtain ⟨c, hc, ha⟩ := h r' e he
    refine ⟨c, ?_, ha⟩
    rw [call?_take_of_ne ?_, hc]
    have hr' : e.requestId = r' := KeyedList.key_of_get? he
    rw [show e.callId.requestId = r' from hr']
    exact fun heq => hr heq.symm

/-- With its entry out of the map, a call can be changed in any way. -/
theorem modifyCall_take (h : s.AllAttached d) (id : CallId) (channel : PendingCall → Channel) {f : Call → Call}
    (hf : ∀ c, (f c).id = c.id) : ((s.take id.requestId channel).modifyCall id f hf).AllAttached d := by
  refine (h.take id.requestId channel).modifyCall fun e c he => ?_
  rw [get?_pending_take, if_pos rfl] at he
  cases he

theorem start (h : s.AllAttached d) (c : Call) : (s.start c).AllAttached d := by
  unfold NetworkManager.start
  split
  · exact h
  · rename_i hnew
    intro r e he
    obtain ⟨c₀, hc₀, ha⟩ := h r e he
    refine ⟨c₀, ?_, ha⟩
    unfold NetworkManager.call?
    rw [KeyedList.get?_upsert, if_neg]
    · exact hc₀
    · intro hid
      rw [hid, hc₀] at hnew
      exact hnew rfl

/-- The new entry is that of the attempt that opens its channel. -/
theorem register (h : s.AllAttached d) (id : CallId) : (s.register id).AllAttached d := by
  rcases s.register_cases id with hr | ⟨c, s', hc, rfl, hr⟩
  · rwa [hr]
  · rw [hr]
    have hopened := h.modifyCall_take id (fun _ => .closed) Call.id_opened
    intro r e he
    rw [KeyedList.get?_upsert] at he
    split at he
    · obtain rfl := Option.some.inj he
      obtain ⟨c', hc', htarget, hattempt⟩ := call?_take_of_some hc id.requestId fun _ => Channel.closed
      refine ⟨c'.opened, ?_, htarget, hattempt, rfl, rfl⟩
      show (NetworkManager.modifyCall _ id Call.opened Call.id_opened).call? id = some c'.opened
      rw [call?_modifyCall, if_pos rfl, hc']
      rfl
    · exact hopened r e he

theorem unregister (h : s.AllAttached d) (id : CallId) : (s.unregister id).AllAttached d := by
  rcases s.unregister_cases id with hu | hu
  · rwa [hu]
  · rw [hu]
    exact h.modifyCall_take id (fun _ => .closed) Call.id_afterUnregister

theorem datagram (h : s.AllAttached d) (crc32 : Bytes → UInt32) (srcAddr : SocketAddr) (bytes : Bytes) (now : Nat) :
    (s.datagram crc32 srcAddr bytes now).AllAttached d := by
  have hs : (s.received crc32 srcAddr bytes now).AllAttached d := h
  rcases s.datagram_cases crc32 srcAddr bytes now with hd | ⟨msg, -, -, hd⟩
  · rwa [hd]
  · rw [hd]
    exact hs.take msg.requestId _

end AllAttached

variable {crc32 : Bytes → UInt32} {localId : NodeId}

/-- Every step but the drop of a future keeps the entries attached; a drop does where dropped calls count. -/
theorem AllAttached.step (h : s.AllAttached d) (a : Action) (ha : d = true ∨ ∀ id, a ≠ .drop id) :
    (s.step crc32 localId a).AllAttached d := by
  cases a with
  | start id target payload maxRetries => exact h.start _
  | register id => exact h.register id
  | sent id error => exact h.modifyCall fun e c _ _ => Call.Attached.afterSend localId error
  | poll id deadline => exact h.modifyCall fun e c _ _ => Call.Attached.poll deadline
  | unregister id => exact h.unregister id
  | drop id =>
    rcases ha with rfl | ha
    · exact h.modifyCall fun e c _ _ => Call.Attached.drop
    · exact absurd rfl (ha id)
  | datagram srcAddr bytes now => exact h.datagram crc32 srcAddr bytes now

/-! ## Leaks -/

/-- The pending map has entries only for calls that are still in progress. -/
def NoLeaks (s : NetworkManager) : Prop :=
  ∀ e ∈ s.pending.list, (s.call? e.callId).any (·.phase.inProgress) = true

instance (s : NetworkManager) : Decidable s.NoLeaks := inferInstanceAs (Decidable (∀ e ∈ s.pending.list, _))

/-- A future that is dropped has no entry in the map. -/
def DropsUnregistered (s : NetworkManager) : Action → Prop
  | .drop id => ∀ e ∈ s.pending.list, e.callId ≠ id
  | _ => True

theorem AllAttached.noLeaks_iff (h : s.AllAttached true) : s.NoLeaks ↔ s.AllAttached false := by
  constructor
  · intro hs r e he
    obtain ⟨c, hc, ha⟩ := h r e he
    have hin := hs e (KeyedList.mem_of_get? he)
    rw [hc] at hin
    exact ⟨c, hc, ha.of_inProgress hin⟩
  · intro hs e he
    obtain ⟨c, hc, ha⟩ := hs e.requestId e (KeyedList.mem_iff_get?.1 he)
    rw [hc]
    exact ha.inProgress

/-- A drop leaks the entry that its call has. -/
theorem AllAttached.drop_iff (h : s.AllAttached false) (id : CallId) :
    (s.modifyCall id Call.drop Call.id_drop).AllAttached false ↔ ∀ e ∈ s.pending.list, e.callId ≠ id := by
  constructor
  · rintro hdrop e he rfl
    obtain ⟨c, hc, ha⟩ := hdrop e.requestId e (KeyedList.mem_iff_get?.1 he)
    rw [call?_modifyCall, if_pos rfl] at hc
    obtain ⟨c₀, -, rfl⟩ := Option.map_eq_some_iff.1 hc
    exact Call.not_attached_drop ha
  · intro hfree
    exact h.modifyCall fun e c he hid => absurd hid (hfree e (KeyedList.mem_of_get? he))

theorem AllAttached.noLeaks_step_iff (h : s.AllAttached false) (a : Action) :
    (s.step crc32 localId a).NoLeaks ↔ s.DropsUnregistered a := by
  rw [(h.mono.step a (.inl rfl)).noLeaks_iff]
  cases a with
  | drop id => exact h.drop_iff id
  | _ => exact iff_of_true (h.step _ (.inr fun id => by simp)) trivial

/-- In a run from the start the pending map has entries only for calls in progress, all the way, exactly if no future
is dropped while its own entry is in the map. -/
theorem run_noLeaks_iff (crc32 : Bytes → UInt32) (localId : NodeId) (as : List Action) :
    Steps (step crc32 localId) (fun s a => (step crc32 localId s a).NoLeaks) {} as ↔
      Steps (step crc32 localId) DropsUnregistered {} as := by
  refine steps_iff_of_invariant (fun s a h => AllAttached.noLeaks_step_iff h a) (fun s a h hleaks => ?_) as
    (AllAttached.empty false)
  exact (AllAttached.noLeaks_iff (h.mono.step a (.inl rfl))).1 hleaks

open Forged in
/-- The search for a value has it from another peer and drops the call while it waits. -/
theorem run_noLeaks_dropped :
    ¬ ∀ (crc32 : Bytes → UInt32) (localId : NodeId) (as : List Action), (run (step crc32 localId) {} as).NoLeaks :=
  fun h => absurd (h crc32 (nodeId 1) (calling ++ [.drop call])) (by decide)

end NetworkManager

end NodeX.Kad
