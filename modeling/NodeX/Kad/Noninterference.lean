/-
Calls and strangers: the outcome of a call under two runs that agree on the call's own steps and on the
datagrams from one address, and differ in anything else.

Strangers reach a call in two ways. A reply that carries its request id takes its entry out of the pending
map whoever sends it, so the call is canceled and the genuine reply finds nothing. And the assembler counts
everybody's unfinished messages against the limits, so that a first chunk of the target's reply may find no
room. Where neither happens the outcome is the same.
-/
import NodeX.Kad.Rpc

namespace NodeX.Kad

open NodeX.Lib

/-! ## What the two runs share -/

/-- The steps of the calls under a request id, and the datagrams from an address. -/
def Action.visible (r : UInt64) (t : SocketAddr) : Action → Bool
  | .start id _ _ _ | .register id | .sent id _ | .poll id _ | .unregister id | .drop id => id.requestId = r
  | .datagram srcAddr _ _ => srcAddr = t

section Model

variable (crc32 : Bytes → UInt32) (localId : NodeId)

/-- The datagram completes a response to the request id. -/
def answers (asm : ChunkAssembler) (srcAddr : SocketAddr) (bytes : Bytes) (now : Nat) (r : UInt64) : Bool :=
  (receive crc32 asm srcAddr bytes now).2.any fun msg => msg.isResponse && msg.requestId = r

/-- If the datagram is a first chunk, the limits are to it what they would be without the messages of others. -/
def limitsOwn (asm : ChunkAssembler) (srcAddr : SocketAddr) (bytes : Bytes) (now : Nat) : Bool :=
  match UdpChunk.fromBytes bytes with
  | .error _ => true
  | .ok chunk =>
    (asm.alive? now (srcAddr, chunk.messageId)).isSome ||
      (asm.cleanupExpired now).hasRoom srcAddr == ((asm.cleanupExpired now).only srcAddr).hasRoom srcAddr

/-- The clock does not go back; no datagram from elsewhere completes a response to the request id while that is
in the map; and the limits are to the address's own chunks what they would be without the messages of others. -/
def Undisturbed (r : UInt64) (t : SocketAddr) (s : NetworkManager) : Action → Prop
  | .datagram srcAddr bytes now =>
    s.clock ≤ now ∧
      if srcAddr = t then limitsOwn s.assembler srcAddr bytes now = true
      else answers crc32 s.assembler srcAddr bytes now r = true → s.pending.get? r = none
  | _ => True

instance Undisturbed.decidable (r : UInt64) (t : SocketAddr) (s : NetworkManager) :
    ∀ a, Decidable (Undisturbed crc32 r t s a)
  | .start .. | .register _ | .sent .. | .poll .. | .unregister _ | .drop _ => isTrue trivial
  | .datagram srcAddr bytes now => inferInstanceAs (Decidable (s.clock ≤ now ∧
      if srcAddr = t then limitsOwn s.assembler srcAddr bytes now = true
      else answers crc32 s.assembler srcAddr bytes now r = true → s.pending.get? r = none))

end Model

/-! ## Assemblers that agree on one sender -/

/-- From a moment on the assemblers hold the same messages of the sender. -/
structure ChunkAssembler.Agree (t : SocketAddr) (since : Nat) (asm asm' : ChunkAssembler) : Prop where
  timeout : asm.reassemblyTimeout = asm'.reassemblyTimeout
  alive : ∀ now ≥ since, ∀ id, asm.alive? now (t, id) = asm'.alive? now (t, id)

namespace ChunkAssembler.Agree

variable {crc32 : Bytes → UInt32} {t srcAddr : SocketAddr} {since now : Nat} {asm asm' asm'' : ChunkAssembler}
  {chunk : UdpChunk} {bytes : Bytes}

theorem refl (asm : ChunkAssembler) : Agree t since asm asm := ⟨rfl, fun _ _ _ => rfl⟩

theorem symm (h : Agree t since asm asm') : Agree t since asm' asm :=
  ⟨h.timeout.symm, fun now hn id => (h.alive now hn id).symm⟩

theorem trans (h : Agree t since asm asm') (h' : Agree t since asm' asm'') : Agree t since asm asm'' :=
  ⟨h.timeout.trans h'.timeout, fun now hn id => (h.alive now hn id).trans (h'.alive now hn id)⟩

theorem mono {since' : Nat} (h : Agree t since asm asm') (hs : since ≤ since') : Agree t since' asm asm' :=
  ⟨h.timeout, fun now hn id => h.alive now (Nat.le_trans hs hn) id⟩

/-- What an assembler holds under a key once it has let the expired go decides what is alive there later. -/
theorem alive?_of_assembly? {key : AssemblyKey} {now' : Nat} (hnow : now ≤ now')
    (htime : asm'.reassemblyTimeout = asm.reassemblyTimeout) (h : asm'.assembly? key = asm.alive? now key) :
    asm'.alive? now' key = asm.alive? now' key := by
  rw [← asm.alive?_cleanupExpired hnow key]
  unfold ChunkAssembler.alive?
  rw [h, htime, ChunkAssembler.assembly?_cleanupExpired]
  rfl

/-- A chunk of another sender changes nothing about this one. -/
theorem addChunk_other (hsrc : srcAddr ≠ t) {p : ChunkAssembler × Option Bytes}
    (h : asm.addChunk crc32 srcAddr chunk now = .ok p) : Agree t now p.1 asm :=
  ⟨ChunkAssembler.addChunk_timeout h, fun _ hn _ => alive?_of_assembly? hn (ChunkAssembler.addChunk_timeout h)
    (ChunkAssembler.addChunk_other h fun heq => hsrc (congrArg Prod.fst heq))⟩

/-- A chunk of the sender does the same in both, if it meets a message of its own or the same limits. -/
theorem addChunk_own (ha : Agree t now asm asm')
    (hroom : (asm.alive? now (t, chunk.messageId)).isSome ∨
      (asm.cleanupExpired now).hasRoom t = (asm'.cleanupExpired now).hasRoom t)
    {p p' : ChunkAssembler × Option Bytes} (h : asm.addChunk crc32 t chunk now = .ok p)
    (h' : asm'.addChunk crc32 t chunk now = .ok p') : p.2 = p'.2 ∧ Agree t now p.1 p'.1 := by
  have hown := ChunkAssembler.addChunk_own crc32 asm t chunk now
  have hown' := ChunkAssembler.addChunk_own crc32 asm' t chunk now
  -- only the message of the chunk and the room left for the address matter
  have hsame : PendingAssembly.addChunk crc32 (asm.alive? now (t, chunk.messageId)) ((asm.cleanupExpired now).hasRoom t)
      chunk now = PendingAssembly.addChunk crc32 (asm'.alive? now (t, chunk.messageId))
        ((asm'.cleanupExpired now).hasRoom t) chunk now := by
    rw [← ha.alive now (Nat.le_refl _)]
    rcases hroom with hfound | hroom
    · exact PendingAssembly.addChunk_room crc32 hfound _ _ chunk now
    · rw [hroom]
  rw [h, Outcome.map] at hown
  rw [h', Outcome.map] at hown'
  obtain ⟨hassembly, hout⟩ := Prod.mk.inj (Outcome.ok.inj (hown.trans (hsame.trans hown'.symm)))
  have htime := ChunkAssembler.addChunk_timeout h
  have htime' := ChunkAssembler.addChunk_timeout h'
  refine ⟨hout, htime.trans (ha.timeout.trans htime'.symm), fun now' hn id => ?_⟩
  -- a chunk leaves the other messages of its sender as they are
  by_cases hid : (t, chunk.messageId) = (t, id)
  · obtain rfl : chunk.messageId = id := congrArg Prod.snd hid
    unfold ChunkAssembler.alive?
    rw [hassembly, htime, htime', ha.timeout]
  · rw [alive?_of_assembly? hn htime (ChunkAssembler.addChunk_other h hid),
      alive?_of_assembly? hn htime' (ChunkAssembler.addChunk_other h' hid), ha.alive now' hn]

variable (crc32) in
/-- A datagram of another address changes nothing about this one. -/
theorem receive_other (hsrc : srcAddr ≠ t) (asm : ChunkAssembler) (bytes : Bytes) (now : Nat) :
    Agree t now (receive crc32 asm srcAddr bytes now).1 asm := by
  unfold receive
  split
  · exact refl asm
  · split
    · split
      · exact refl asm
      · split
        · rename_i h
          exact addChunk_other hsrc h
        · exact refl asm
        · exact refl asm
    · exact refl asm

variable (crc32) in
/-- A datagram of the address makes the same of both assemblers, if the limits are to it what its own messages
make them. -/
theorem receive_own (ha : Agree t now asm asm') (hl : limitsOwn asm t bytes now = true)
    (hl' : limitsOwn asm' t bytes now = true) :
    (receive crc32 asm t bytes now).2 = (receive crc32 asm' t bytes now).2 ∧
      Agree t now (receive crc32 asm t bytes now).1 (receive crc32 asm' t bytes now).1 := by
  unfold receive
  split
  · exact ⟨rfl, ha⟩
  · split
    · cases hc : UdpChunk.fromBytes bytes with
      | error e => exact ⟨rfl, ha⟩
      | ok chunk =>
        have hroom : (asm.alive? now (t, chunk.messageId)).isSome ∨
            (asm.cleanupExpired now).hasRoom t = (asm'.cleanupExpired now).hasRoom t := by
          unfold limitsOwn at hl hl'
          rw [hc] at hl hl'
          simp only [Bool.or_eq_true, beq_iff_eq] at hl hl'
          rcases hl with hfound | hl
          · exact .inl hfound
          · rcases hl' with hfound | hl'
            · exact .inl (ha.alive now (Nat.le_refl _) chunk.messageId ▸ hfound)
            · have hroom := ChunkAssembler.hasRoom_only fun id => ha.alive now (Nat.le_refl _) id
              exact .inr (hl.trans (hroom.trans hl'.symm))
        obtain ⟨p, hp⟩ := UdpChunk.addChunk_fromBytes crc32 asm t hc now
        obtain ⟨p', hp'⟩ := UdpChunk.addChunk_fromBytes crc32 asm' t hc now
        obtain ⟨hout, hagree⟩ := addChunk_own ha hroom hp hp'
        simp only [hp, hp', hout]
        exact ⟨trivial, hagree⟩
    · exact ⟨rfl, ha⟩

end ChunkAssembler.Agree

/-! ## Managers that agree on one request id -/

namespace NetworkManager

/-- The same calls under the request id, and the same entry in the map. -/
structure AgreeOn (r : UInt64) (s s' : NetworkManager) : Prop where
  calls : ∀ task, s.call? ⟨r, task⟩ = s'.call? ⟨r, task⟩
  pending : s.pending.get? r = s'.pending.get? r

namespace AgreeOn

variable {r : UInt64} {s s' s'' : NetworkManager} {id : CallId}

theorem refl (s : NetworkManager) : AgreeOn r s s := ⟨fun _ => rfl, rfl⟩

theorem symm (h : AgreeOn r s s') : AgreeOn r s' s := ⟨fun task => (h.calls task).symm, h.pending.symm⟩

theorem trans (h : AgreeOn r s s') (h' : AgreeOn r s' s'') : AgreeOn r s s'' :=
  ⟨fun task => (h.calls task).trans (h'.calls task), h.pending.trans h'.pending⟩

theorem call? (h : AgreeOn r s s') (hid : id.requestId = r) : s.call? id = s'.call? id := by
  subst hid
  exact h.calls id.task

/-! ### The same step on both sides -/

theorem modifyCall (h : AgreeOn r s s') (id : CallId) {f : Call → Call} (hf : ∀ c, (f c).id = c.id) :
    AgreeOn r (s.modifyCall id f hf) (s'.modifyCall id f hf) := by
  refine ⟨fun task => ?_, h.pending⟩
  have hc : s.calls.get? ⟨r, task⟩ = s'.calls.get? ⟨r, task⟩ := h.calls task
  unfold NetworkManager.call? NetworkManager.modifyCall
  rw [KeyedList.get?_modify, KeyedList.get?_modify, hc]

theorem erase (h : AgreeOn r s s') (r' : UInt64) :
    AgreeOn r { s with pending := s.pending.erase r' } { s' with pending := s'.pending.erase r' } := by
  refine ⟨h.calls, ?_⟩
  simp only [KeyedList.get?_erase, h.pending]

theorem upsert (h : AgreeOn r s s') (e : PendingCall) :
    AgreeOn r { s with pending := s.pending.upsert e } { s' with pending := s'.pending.upsert e } := by
  refine ⟨h.calls, ?_⟩
  simp only [KeyedList.get?_upsert, h.pending]

theorem take (h : AgreeOn r s s') (channel : PendingCall → Channel) :
    AgreeOn r (s.take r channel) (s'.take r channel) := by
  unfold NetworkManager.take
  rw [← h.pending]
  split
  · exact h
  · exact (h.erase r).modifyCall _ _

theorem start (h : AgreeOn r s s') (c : Call) (hc : c.id.requestId = r) : AgreeOn r (s.start c) (s'.start c) := by
  unfold NetworkManager.start
  rw [h.call? hc]
  split
  · exact h
  · refine ⟨fun task => ?_, h.pending⟩
    have hcalls : s.calls.get? ⟨r, task⟩ = s'.calls.get? ⟨r, task⟩ := h.calls task
    unfold NetworkManager.call?
    rw [KeyedList.get?_upsert, KeyedList.get?_upsert, hcalls]

theorem register (h : AgreeOn r s s') (hid : id.requestId = r) : AgreeOn r (s.register id) (s'.register id) := by
  unfold NetworkManager.register
  rw [h.call? hid]
  split
  · exact h
  · split
    · subst hid
      exact ((h.take _).modifyCall id Call.id_opened).upsert _
    · exact h

theorem unregister (h : AgreeOn r s s') (hid : id.requestId = r) : AgreeOn r (s.unregister id) (s'.unregister id) := by
  unfold NetworkManager.unregister
  rw [h.call? hid]
  split
  · exact h
  · split
    · subst hid
      exact (h.take _).modifyCall id Call.id_afterUnregister
    · exact h

/-! ### A step under another request id -/

theorem modifyCall_other (hid : id.requestId ≠ r) {f : Call → Call} (hf : ∀ c, (f c).id = c.id) :
    AgreeOn r (s.modifyCall id f hf) s := by
  refine ⟨fun task => ?_, rfl⟩
  unfold NetworkManager.call? NetworkManager.modifyCall
  rw [KeyedList.get?_modify, if_neg fun h => hid (congrArg CallId.requestId h)]

theorem take_other {r' : UInt64} (hr : r' ≠ r) (channel : PendingCall → Channel) : AgreeOn r (s.take r' channel) s := by
  unfold NetworkManager.take
  split
  · exact refl s
  · refine (modifyCall_other hr _).trans ⟨fun _ => rfl, ?_⟩
    simp only [KeyedList.get?_erase, if_neg hr]

theorem start_other {c : Call} (hc : c.id.requestId ≠ r) : AgreeOn r (s.start c) s := by
  unfold NetworkManager.start
  split
  · exact refl s
  · refine ⟨fun task => ?_, rfl⟩
    unfold NetworkManager.call?
    rw [KeyedList.get?_upsert, if_neg fun h => hc (congrArg CallId.requestId h)]

theorem upsert_other {e : PendingCall} (he : e.requestId ≠ r) :
    AgreeOn r { s with pending := s.pending.upsert e } s := by
  refine ⟨fun _ => rfl, ?_⟩
  simp only [KeyedList.get?_upsert, if_neg he]

theorem register_other (hid : id.requestId ≠ r) : AgreeOn r (s.register id) s := by
  unfold NetworkManager.register
  split
  · exact refl s
  · split
    · exact (upsert_other hid).trans ((modifyCall_other hid Call.id_opened).trans (take_other hid _))
    · exact refl s

theorem unregister_other (hid : id.requestId ≠ r) : AgreeOn r (s.unregister id) s := by
  unfold NetworkManager.unregister
  split
  · exact refl s
  · split
    · exact (modifyCall_other hid Call.id_afterUnregister).trans (take_other hid _)
    · exact refl s

end AgreeOn

end NetworkManager

/-! ## Two runs -/

namespace NetworkManager

section Runs

variable {crc32 : Bytes → UInt32} {localId : NodeId} {r : UInt64} {t : SocketAddr}

/-- The managers agree on the request id and on the address. -/
structure Agree (r : UInt64) (t : SocketAddr) (s s' : NetworkManager) : Prop where
  on : AgreeOn r s s'
  assembler : ChunkAssembler.Agree t (max s.clock s'.clock) s.assembler s'.assembler

theorem Agree.symm {s s' : NetworkManager} (h : Agree r t s s') : Agree r t s' s :=
  ⟨h.on.symm, Nat.max_comm s.clock s'.clock ▸ h.assembler.symm⟩

/-! ### What leaves the assembler and the clock alone -/

@[simp] theorem assembler_take (s : NetworkManager) (r' : UInt64) (channel : PendingCall → Channel) :
    (s.take r' channel).assembler = s.assembler := by
  unfold take
  split <;> rfl

@[simp] theorem clock_take (s : NetworkManager) (r' : UInt64) (channel : PendingCall → Channel) :
    (s.take r' channel).clock = s.clock := by
  unfold take
  split <;> rfl

variable (crc32 localId) in
/-- Only datagrams reach the assembler and carry a clock reading. -/
theorem step_of_call (s : NetworkManager) : ∀ a : Action, (∀ srcAddr bytes now, a ≠ .datagram srcAddr bytes now) →
    (step crc32 localId s a).assembler = s.assembler ∧ (step crc32 localId s a).clock = s.clock
  | .start .., _ => by
    simp only [step, start]
    split <;> exact ⟨rfl, rfl⟩
  | .register id, _ => by
    simp only [step, register]
    split
    · exact ⟨rfl, rfl⟩
    · split
      · exact ⟨assembler_take s id.requestId _, clock_take s id.requestId _⟩
      · exact ⟨rfl, rfl⟩
  | .sent .., _ => ⟨rfl, rfl⟩
  | .poll .., _ => ⟨rfl, rfl⟩
  | .unregister id, _ => by
    simp only [step, unregister]
    split
    · exact ⟨rfl, rfl⟩
    · split
      · exact ⟨assembler_take s id.requestId _, clock_take s id.requestId _⟩
      · exact ⟨rfl, rfl⟩
  | .drop _, _ => ⟨rfl, rfl⟩
  | .datagram srcAddr bytes now, h => absurd rfl (h srcAddr bytes now)

theorem clock_datagram (s : NetworkManager) (srcAddr : SocketAddr) (bytes : Bytes) (now : Nat) :
    (s.datagram crc32 srcAddr bytes now).clock = now := by
  unfold datagram dispatch
  simp only
  split
  · rfl
  · split
    · rw [clock_take]
    · rfl

theorem assembler_datagram (s : NetworkManager) (srcAddr : SocketAddr) (bytes : Bytes) (now : Nat) :
    (s.datagram crc32 srcAddr bytes now).assembler = (receive crc32 s.assembler srcAddr bytes now).1 := by
  unfold datagram dispatch
  simp only
  split
  · rfl
  · split
    · rw [assembler_take]
    · rfl

/-! ### One step -/

/-- A step of a call under the request id, on both sides. -/
theorem AgreeOn.step_own {s s' : NetworkManager} (h : AgreeOn r s s') : ∀ a : Action,
    (∀ srcAddr bytes now, a ≠ .datagram srcAddr bytes now) → a.visible r t = true →
      AgreeOn r (step crc32 localId s a) (step crc32 localId s' a)
  | .start _ _ _ _, _, hv => h.start _ (of_decide_eq_true hv)
  | .register _, _, hv => h.register (of_decide_eq_true hv)
  | .sent id _, _, _ => h.modifyCall id _
  | .poll id _, _, _ => h.modifyCall id _
  | .unregister _, _, hv => h.unregister (of_decide_eq_true hv)
  | .drop id, _, _ => h.modifyCall id _
  | .datagram srcAddr bytes now, hn, _ => absurd rfl (hn srcAddr bytes now)

/-- A step of a call under another request id. -/
theorem AgreeOn.step_other (s : NetworkManager) : ∀ a : Action,
    (∀ srcAddr bytes now, a ≠ .datagram srcAddr bytes now) → a.visible r t = false →
      AgreeOn r (step crc32 localId s a) s
  | .start _ _ _ _, _, hv => AgreeOn.start_other (of_decide_eq_false hv)
  | .register _, _, hv => AgreeOn.register_other (of_decide_eq_false hv)
  | .sent _ _, _, hv => AgreeOn.modifyCall_other (of_decide_eq_false hv) _
  | .poll _ _, _, hv => AgreeOn.modifyCall_other (of_decide_eq_false hv) _
  | .unregister _, _, hv => AgreeOn.unregister_other (of_decide_eq_false hv)
  | .drop _, _, hv => AgreeOn.modifyCall_other (of_decide_eq_false hv) _
  | .datagram srcAddr bytes now, hn, _ => absurd rfl (hn srcAddr bytes now)

/-- A datagram from the address does the same on both sides. -/
theorem Agree.datagram_own {s s' : NetworkManager} {bytes : Bytes} {now : Nat} (h : Agree r t s s')
    (hs : s.clock ≤ now) (hs' : s'.clock ≤ now) (hl : limitsOwn s.assembler t bytes now = true)
    (hl' : limitsOwn s'.assembler t bytes now = true) :
    Agree r t (s.datagram crc32 t bytes now) (s'.datagram crc32 t bytes now) := by
  obtain ⟨hmsg, hasm⟩ := ChunkAssembler.Agree.receive_own crc32 (h.assembler.mono (Nat.max_le.2 ⟨hs, hs'⟩))
    hl hl'
  refine ⟨?_, ?_⟩
  · unfold datagram dispatch
    simp only [← hmsg]
    split
    · exact ⟨h.on.calls, h.on.pending⟩
    · rename_i msg _
      have hon : AgreeOn r { s with assembler := (receive crc32 s.assembler t bytes now).1, clock := now }
          { s' with assembler := (receive crc32 s'.assembler t bytes now).1, clock := now } :=
        ⟨h.on.calls, h.on.pending⟩
      split
      · by_cases hr : msg.requestId = r
        · rw [hr]
          exact hon.take _
        · exact (AgreeOn.take_other hr _).trans (hon.trans (AgreeOn.take_other hr _).symm)
      · exact hon
  · rw [clock_datagram, clock_datagram, Nat.max_self, assembler_datagram, assembler_datagram]
    exact hasm

/-- A datagram from elsewhere that takes no entry of the request id leaves all that matters to it alone. -/
theorem Agree.datagram_other {s s' : NetworkManager} {srcAddr : SocketAddr} {bytes : Bytes} {now : Nat}
    (h : Agree r t s s') (hsrc : srcAddr ≠ t) (hs : s.clock ≤ now)
    (hr : answers crc32 s.assembler srcAddr bytes now r = true → s.pending.get? r = none) :
    Agree r t (s.datagram crc32 srcAddr bytes now) s' := by
  refine ⟨AgreeOn.trans ?_ h.on, ?_⟩
  · have hon : AgreeOn r { s with assembler := (receive crc32 s.assembler srcAddr bytes now).1, clock := now } s :=
      ⟨fun _ => rfl, rfl⟩
    unfold answers at hr
    unfold datagram dispatch
    simp only
    split
    · exact hon
    · rename_i msg hmsg
      split
      · rename_i hresponse
        refine AgreeOn.trans ?_ hon
        -- a forged reply with the request id finds nothing to take
        by_cases hid : msg.requestId = r
        · rw [hmsg] at hr
          have hnone := hr (by simp [hresponse, hid])
          subst hid
          unfold take
          rw [show NetworkManager.pending _ = s.pending from rfl, hnone]
          exact AgreeOn.refl _
        · exact AgreeOn.take_other hid _
      · exact hon
  · rw [clock_datagram, assembler_datagram]
    have hown := ChunkAssembler.Agree.receive_other crc32 hsrc s.assembler bytes now
    exact (hown.mono (Nat.le_max_left now s'.clock)).trans (h.assembler.mono (by omega))

/-- Two runs with the same steps of the calls under a request id and the same datagrams from an address, both
undisturbed, end with the same result of each of those calls. -/
theorem run_noninterference (crc32 : Bytes → UInt32) (localId : NodeId) (s : NetworkManager) (id : CallId)
    (t : SocketAddr) (as bs : List Action)
    (hsame : as.filter (Action.visible id.requestId t) = bs.filter (Action.visible id.requestId t))
    (ha : Steps (step crc32 localId) (Undisturbed crc32 id.requestId t) s as)
    (hb : Steps (step crc32 localId) (Undisturbed crc32 id.requestId t) s bs) :
    (run (step crc32 localId) s as).result? id = (run (step crc32 localId) s bs).result? id := by
  -- what is not visible is a step of another call, or a datagram from elsewhere
  have hidden : ∀ (u u' : NetworkManager) (a : Action), (!a.visible id.requestId t) = true →
      Agree id.requestId t u u' → Undisturbed crc32 id.requestId t u a →
        Agree id.requestId t (step crc32 localId u a) u' := by
    intro u u' a hv hag hok
    rw [Bool.not_eq_true'] at hv
    by_cases hd : ∀ srcAddr bytes now, a ≠ .datagram srcAddr bytes now
    · obtain ⟨hasm, hclock⟩ := step_of_call crc32 localId u a hd
      exact ⟨(AgreeOn.step_other u a hd hv).trans hag.on, by rw [hasm, hclock]; exact hag.assembler⟩
    · push Not at hd
      obtain ⟨srcAddr, bytes, now, rfl⟩ := hd
      have hsrc : srcAddr ≠ t := of_decide_eq_false hv
      obtain ⟨hclock, hr⟩ := hok
      rw [if_neg hsrc] at hr
      exact hag.datagram_other hsrc hclock hr
  have hend := unwinding (R := Agree id.requestId t) hidden
    (fun u u' a hv hag hok => (hidden u' u a hv hag.symm hok).symm)
    (fun u u' a hv hag hok hok' => by
      rw [Bool.not_eq_false'] at hv
      by_cases hd : ∀ srcAddr bytes now, a ≠ .datagram srcAddr bytes now
      · obtain ⟨hasm, hclock⟩ := step_of_call crc32 localId u a hd
        obtain ⟨hasm', hclock'⟩ := step_of_call crc32 localId u' a hd
        exact ⟨hag.on.step_own a hd hv, by rw [hasm, hclock, hasm', hclock']; exact hag.assembler⟩
      · push Not at hd
        obtain ⟨srcAddr, bytes, now, rfl⟩ := hd
        obtain rfl : srcAddr = t := of_decide_eq_true hv
        obtain ⟨hclock, hl⟩ := hok
        obtain ⟨hclock', hl'⟩ := hok'
        rw [if_pos rfl] at hl hl'
        exact hag.datagram_own hclock hclock' hl hl')
    as bs (by simpa only [Bool.not_not] using hsame) ⟨AgreeOn.refl s, ChunkAssembler.Agree.refl _⟩ ha hb
  unfold result?
  rw [hend.on.calls]

end Runs

/-! ## A forged reply -/

namespace Forged

/-- CRC-32 with the reflected polynomial, bit by bit. -/
def crc32 (bs : Bytes) : UInt32 :=
  let shift (c : UInt32) : UInt32 := if c &&& 1 = 1 then (c >>> 1) ^^^ 0xEDB88320 else c >>> 1
  (bs.foldl (fun c b => (List.range 8).foldl (fun c _ => shift c) (c ^^^ b.toUInt32)) 0xFFFFFFFF) ^^^ 0xFFFFFFFF

def nodeId (b : UInt8) : NodeId := ⟨List.replicate 20 b, List.length_replicate⟩

def expectedPeer : SocketAddr := { ip := .v4 #v[192, 168, 1, 50], port := 9000 }

def attackerPeer : SocketAddr := { ip := .v4 #v[198, 51, 100, 77], port := 9000 }

def call : CallId := { requestId := 7, task := 0 }

def pong (requestId : UInt64) : Bytes :=
  ((RpcMessage.mk requestId (nodeId 2) .pong).encode.toOption).getD []

def calling : List Action := [.start call expectedPeer .ping 1, .register call, .sent call none]

def ending : List Action := [.poll call false, .unregister call]

/-- The peer answers. -/
def answered : List Action := calling ++ [.datagram expectedPeer (pong 7) 2] ++ ending

/-- A stranger answers first, with the call's request id. -/
def forged : List Action :=
  calling ++ [.datagram attackerPeer (pong 7) 1, .datagram expectedPeer (pong 7) 2] ++ ending

/-- The two chunks of the peer's answer. -/
def part (idx : UInt16) (raw : Bytes) : Bytes :=
  (UdpChunk.mk (.replicate 16 5) idx 2 (crc32 raw) "" (some raw)).toBytes

/-- The peer answers in two chunks. -/
def chunked : List Action :=
  calling ++ [.datagram expectedPeer (part 0 ((pong 7).take 20)) 2,
    .datagram expectedPeer (part 1 ((pong 7).drop 20)) 5] ++ ending

/-- Meanwhile a stranger sends a chunk under the same message id, a reply to another request, and the forged reply
when all is over. -/
def chunkedBeside : List Action :=
  calling ++ [.datagram attackerPeer (part 1 ((pong 7).drop 20)) 1,
    .datagram expectedPeer (part 0 ((pong 7).take 20)) 2,
    .datagram attackerPeer (pong 8) 3, .datagram expectedPeer (part 1 ((pong 7).drop 20)) 5,
    .datagram attackerPeer (pong 7) 6] ++ ending

end Forged

open Forged in
/-- Without the stranger the call returns the answer; with it the call is canceled. -/
theorem run_noninterference_forged :
    answered.filter (Action.visible call.requestId expectedPeer) =
        forged.filter (Action.visible call.requestId expectedPeer) ∧
      (run (step crc32 (nodeId 1)) {} answered).result? call =
        some (.ok { requestId := 7, senderId := nodeId 2, payload := .pong }) ∧
      (run (step crc32 (nodeId 1)) {} forged).result? call = some (.error "[RPC] Channel canceled") := by
  decide +kernel

open Forged in
theorem run_noninterference_chunked :
    (run (step crc32 (nodeId 1)) {} chunked).result? call =
      (run (step crc32 (nodeId 1)) {} chunkedBeside).result? call :=
  run_noninterference crc32 (nodeId 1) {} call expectedPeer chunked chunkedBeside (by decide +kernel)
    (by decide +kernel) (by decide +kernel)

end NetworkManager

end NodeX.Kad
