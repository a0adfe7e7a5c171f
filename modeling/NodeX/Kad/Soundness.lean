/-
Where the replies come from. A call that returns one has it from a datagram of the address it called, which arrived
while the call's entry was in the pending map; and the entry goes with the reply, so that no datagram serves two calls.
-/
import NodeX.Kad.Pending

namespace NodeX.Kad

open NodeX.Lib

/-! ## Steps of a call -/

namespace Call

/-- The call has the reply: it returned it, or will find it in its channel. -/
def HoldsReply (reply : RpcMessage) (c : Call) : Prop :=
  c.phase = .done (.ok reply) ∨ c.channel = .reply reply ∧ c.phase ≠ .dropped

/-- The later call has the same target, and no reply that the earlier one has not. -/
structure NoNews (c c' : Call) : Prop where
  target : c'.target = c.target
  reply : ∀ reply, c'.HoldsReply reply → c.HoldsReply reply

variable {c c' c'' : Call}

theorem result?_eq_some {result : Except String RpcMessage} : c.result? = some result ↔ c.phase = .done result := by
  unfold result?
  split
  · rename_i hc
    rw [hc, Option.some_inj, CallPhase.done.injEq]
  · rename_i hnot
    exact iff_of_false (by simp) (hnot result)

theorem NoNews.refl (c : Call) : NoNews c c := ⟨rfl, fun _ h => h⟩

theorem NoNews.trans (h : NoNews c c') (h' : NoNews c' c'') : NoNews c c'' :=
  ⟨h'.target.trans h.target, fun reply hr => h.reply reply (h'.reply reply hr)⟩

/-- Going on without returning a reply is none. -/
theorem NoNews.of_phase (htarget : c'.target = c.target) (hchannel : c'.channel = c.channel)
    (hdone : ∀ reply, c'.phase ≠ .done (.ok reply)) (hdropped : c.phase ≠ .dropped) : NoNews c c' := by
  refine ⟨htarget, fun reply h => ?_⟩
  rcases h with h | ⟨h, -⟩
  · exact absurd h (hdone reply)
  · exact .inr ⟨hchannel ▸ h, hdropped⟩

theorem noNews_opened (c : Call) : NoNews c c.opened := by
  refine ⟨rfl, fun reply h => ?_⟩
  rcases h with h | ⟨h, -⟩
  · cases h
  · cases h

theorem noNews_afterSend (localId : NodeId) (error : Option String) (c : Call) :
    NoNews c (c.afterSend localId error) := by
  unfold afterSend
  split
  · rename_i hc
    split
    · exact .of_phase rfl rfl (by simp) (by simp [hc])
    · exact .of_phase rfl rfl (by simp) (by simp [hc])
  · exact .refl c

/-- What a wait ends with was in the channel. -/
theorem noNews_poll (deadline : Bool) (c : Call) : NoNews c (c.poll deadline) := by
  unfold poll
  split
  · rename_i msg hc hchannel
    refine ⟨rfl, fun reply h => .inr ⟨?_, by simp [hc]⟩⟩
    rcases h with h | ⟨h, -⟩
    · cases h
      exact hchannel
    · exact h
  · rename_i hc _
    exact .of_phase rfl rfl (by simp) (by simp [hc])
  · rename_i hc _
    split
    · exact .of_phase rfl rfl (by simp) (by simp [hc])
    · exact .refl c
  · exact .refl c

theorem noNews_afterUnregister (c : Call) : NoNews c c.afterUnregister := by
  unfold afterUnregister
  split
  · rename_i hc
    exact .of_phase rfl rfl (by simp) (by simp [hc])
  · rename_i hc
    exact .of_phase rfl rfl (by simp) (by simp [hc])
  · rename_i hc
    split
    · exact .of_phase rfl rfl (by simp) (by simp [hc])
    · exact .of_phase rfl rfl (by simp) (by simp [hc])
  · exact .refl c

theorem noNews_drop (c : Call) : NoNews c c.drop := by
  unfold drop
  split
  · exact .refl c
  · refine ⟨rfl, fun reply h => ?_⟩
    rcases h with h | ⟨-, h⟩
    · cases h
    · exact absurd rfl h

theorem noNews_resolve_closed (attempt : Nat) (c : Call) : NoNews c (c.resolve attempt .closed) := by
  unfold resolve
  split
  · refine ⟨rfl, fun reply h => ?_⟩
    rcases h with h | ⟨h, -⟩
    · exact .inl h
    · cases h
  · exact .refl c

end Call

/-! ## Steps of the manager -/

namespace NetworkManager

variable {s s' s'' : NetworkManager} {id : CallId}

/-- Every call of the later state was there before, and has no reply that it had not. -/
def NoNews (s s' : NetworkManager) : Prop :=
  ∀ id c', s'.call? id = some c' → ∃ c, s.call? id = some c ∧ c.NoNews c'

namespace NoNews

theorem refl (s : NetworkManager) : NoNews s s := fun _ c hc => ⟨c, hc, .refl c⟩

theorem trans (h : NoNews s s') (h' : NoNews s' s'') : NoNews s s'' := by
  intro id c'' hc''
  obtain ⟨c', hc', hnews'⟩ := h' id c'' hc''
  obtain ⟨c, hc, hnews⟩ := h id c' hc'
  exact ⟨c, hc, hnews.trans hnews'⟩

theorem modifyCall (s : NetworkManager) (id : CallId) {f : Call → Call} (hf : ∀ c, (f c).id = c.id)
    (hnews : ∀ c : Call, c.NoNews (f c)) : NoNews s (s.modifyCall id f hf) := by
  intro id' c' hc'
  rw [call?_modifyCall] at hc'
  split at hc'
  · obtain ⟨c, hc, rfl⟩ := Option.map_eq_some_iff.1 hc'
    exact ⟨c, hc, hnews c⟩
  · exact ⟨c', hc', .refl c'⟩

theorem take_closed (s : NetworkManager) (r : UInt64) : NoNews s (s.take r fun _ => .closed) := by
  intro id c' hc'
  obtain ⟨c, hc, rfl | ⟨e, -, -, rfl⟩⟩ := call?_take hc'
  · exact ⟨c', hc, .refl c'⟩
  · exact ⟨c, hc, c.noNews_resolve_closed e.attempt⟩

theorem register (s : NetworkManager) (id : CallId) : NoNews s (s.register id) := by
  rcases s.register_cases id with hr | ⟨c, s', -, rfl, hr⟩
  · rw [hr]
    exact refl s
  · rw [hr]
    exact (take_closed s id.requestId).trans (modifyCall _ id Call.id_opened Call.noNews_opened)

theorem unregister (s : NetworkManager) (id : CallId) : NoNews s (s.unregister id) := by
  rcases s.unregister_cases id with hu | hu
  · rw [hu]
    exact refl s
  · rw [hu]
    exact (take_closed s id.requestId).trans (modifyCall _ id Call.id_afterUnregister Call.noNews_afterUnregister)

end NoNews

variable {crc32 : Bytes → UInt32} {localId : NodeId} {reply : RpcMessage}

/-- The datagram, arriving in the state, is the reply to the call: it decodes to a response with the call's request
id, the call is in progress with its entry in the map, and the datagram comes from the address called. -/
structure Answers (crc32 : Bytes → UInt32) (s : NetworkManager) (srcAddr : SocketAddr) (bytes : Bytes) (now : Nat)
    (id : CallId) (reply : RpcMessage) : Prop where
  decoded : (receive crc32 s.assembler srcAddr bytes now).2 = some reply
  response : reply.isResponse = true
  requestId : reply.requestId = id.requestId
  registered : ∃ e, s.pending.get? id.requestId = some e ∧ e.callId = id
  inProgress : ∃ c, s.call? id = some c ∧ c.phase.inProgress = true ∧ c.target = srcAddr

/-- A datagram answers one call. -/
theorem Answers.unique {srcAddr srcAddr' : SocketAddr} {bytes bytes' : Bytes} {now now' : Nat} {id' : CallId}
    {reply' : RpcMessage} (h : Answers crc32 s srcAddr bytes now id reply)
    (h' : Answers crc32 s srcAddr' bytes' now' id' reply')
    (hsame : Action.datagram srcAddr bytes now = .datagram srcAddr' bytes' now') : id = id' := by
  cases hsame
  have hreply : reply = reply' := Option.some.inj (h.decoded.symm.trans h'.decoded)
  obtain ⟨e, he, hid⟩ := h.registered
  obtain ⟨e', he', hid'⟩ := h'.registered
  rw [← h.requestId, hreply, h'.requestId, he'] at he
  rw [← hid, ← hid', Option.some.inj he]

/-- The one step that brings a call a reply is a datagram that answers it. -/
theorem call?_dispatch {srcAddr : SocketAddr} {bytes : Bytes} {now : Nat} {msg : RpcMessage} {c' : Call}
    (hs : s.AllAttached true) (hdecoded : (receive crc32 s.assembler srcAddr bytes now).2 = some msg)
    (hresponse : msg.isResponse = true)
    (hc' : ((s.received crc32 srcAddr bytes now).dispatch srcAddr msg).call? id = some c') :
    ∃ c, s.call? id = some c ∧ c'.target = c.target ∧
      ∀ reply, c'.HoldsReply reply → c.HoldsReply reply ∨ Answers crc32 s srcAddr bytes now id reply := by
  obtain ⟨c, hc, rfl | ⟨e, he, hid, rfl⟩⟩ := call?_take hc'
  · exact ⟨c', hc, rfl, fun _ h => .inl h⟩
  · refine ⟨c, hc, ?_, fun reply h => ?_⟩
    · unfold Call.resolve
      split <;> rfl
    · obtain ⟨c₀, hc₀, ha⟩ := hs _ e he
      rw [hid] at hc₀
      obtain rfl : c = c₀ := Option.some.inj (hc.symm.trans hc₀)
      split at h
      · rename_i hsrc
        -- the channel was empty, so that the reply in it is this one
        unfold Call.resolve at h
        rw [if_pos ⟨ha.attempt, ha.channel⟩] at h
        rcases h with h | ⟨h, hdropped⟩
        · exact .inl (.inl h)
        · obtain rfl : msg = reply := Channel.reply.inj h
          have hrequest : msg.requestId = id.requestId := by
            rw [← hid]
            exact (KeyedList.key_of_get? he).symm
          exact .inr ⟨hdecoded, hresponse, hrequest, ⟨e, hrequest ▸ he, hid⟩, c, hc,
            CallPhase.inProgress_of_ne_dropped ha.phase hdropped, ha.target.trans hsrc⟩
      · exact .inl ((c.noNews_resolve_closed e.attempt).reply reply h)

/-- A call after a step: new, and it has no reply; or there before, with a reply that it had or that came now. -/
theorem call?_step {a : Action} {c' : Call} (hs : s.AllAttached true)
    (hc' : (s.step crc32 localId a).call? id = some c') :
    (∃ target payload maxRetries, a = .start id target payload maxRetries ∧ s.call? id = none ∧
        c'.target = target.routable ∧ ∀ reply, ¬ c'.HoldsReply reply) ∨
      ∃ c, s.call? id = some c ∧ c'.target = c.target ∧ ∀ reply, c'.HoldsReply reply → c.HoldsReply reply ∨
        ∃ srcAddr bytes now, a = .datagram srcAddr bytes now ∧ Answers crc32 s srcAddr bytes now id reply := by
  have hold : ∀ {s' : NetworkManager}, s.NoNews s' → s'.call? id = some c' → ∃ c, s.call? id = some c ∧
      c'.target = c.target ∧ ∀ reply, c'.HoldsReply reply → c.HoldsReply reply ∨
        ∃ srcAddr bytes now, a = .datagram srcAddr bytes now ∧ Answers crc32 s srcAddr bytes now id reply := by
    intro s' hnews hc'
    obtain ⟨c, hc, h⟩ := hnews id c' hc'
    exact ⟨c, hc, h.target, fun reply hr => .inl (h.reply reply hr)⟩
  cases a with
  | start id' target payload maxRetries =>
    have hstart : s.step crc32 localId (.start id' target payload maxRetries) =
        s.start { id := id', target := target.routable, payload, maxRetries } := rfl
    rw [hstart] at hc'
    unfold NetworkManager.start at hc'
    split at hc'
    · exact .inr (hold (.refl s) hc')
    · rename_i hnew
      unfold NetworkManager.call? at hc'
      rw [KeyedList.get?_upsert] at hc'
      split at hc'
      · rename_i hid
        obtain rfl := Option.some.inj hc'
        obtain rfl : id' = id := hid
        refine .inl ⟨target, payload, maxRetries, rfl, Option.not_isSome_iff_eq_none.1 hnew, rfl, fun reply h => ?_⟩
        rcases h with h | ⟨h, -⟩
        · cases h
        · cases h
      · exact .inr (hold (.refl s) hc')
  | register id' => exact .inr (hold (.register s id') hc')
  | sent id' error => exact .inr (hold (.modifyCall s id' _ (Call.noNews_afterSend localId error)) hc')
  | poll id' deadline => exact .inr (hold (.modifyCall s id' _ (Call.noNews_poll deadline)) hc')
  | unregister id' => exact .inr (hold (.unregister s id') hc')
  | drop id' => exact .inr (hold (.modifyCall s id' _ Call.noNews_drop) hc')
  | datagram srcAddr bytes now =>
    right
    change (s.datagram crc32 srcAddr bytes now).call? id = some c' at hc'
    rcases s.datagram_cases crc32 srcAddr bytes now with hd | ⟨msg, hdecoded, hresponse, hd⟩
    · rw [hd] at hc'
      exact hold (.refl s) hc'
    · rw [hd] at hc'
      obtain ⟨c, hc, htarget, hreply⟩ := call?_dispatch hs hdecoded hresponse hc'
      refine ⟨c, hc, htarget, fun reply h => ?_⟩
      rcases hreply reply h with h | h
      · exact .inl h
      · exact .inr ⟨srcAddr, bytes, now, rfl, h⟩

/-! ## Runs -/

/-- Whom the call was made to. -/
def calledAt (as : List Action) (id : CallId) : Option SocketAddr :=
  as.findSome? fun
    | .start id' target _ _ => if id' = id then some target else none
    | _ => none

/-- The action at the position is a datagram that answers the call, from the address it was made to. -/
def RepliedAt (crc32 : Bytes → UInt32) (localId : NodeId) (as : List Action) (n : ℕ) (id : CallId)
    (reply : RpcMessage) : Prop :=
  ∃ target bytes now, calledAt as id = some target ∧ as[n]? = some (.datagram target.routable bytes now) ∧
    Answers crc32 (run (step crc32 localId) {} (as.take n)) target.routable bytes now id reply

theorem calledAt_concat (as : List Action) (a : Action) (id : CallId) :
    calledAt (as ++ [a]) id = (calledAt as id).or (calledAt [a] id) := List.findSome?_append

/-- A run that goes on has its replies where they were. -/
theorem RepliedAt.concat {as : List Action} {n : ℕ} (h : RepliedAt crc32 localId as n id reply) (a : Action) :
    RepliedAt crc32 localId (as ++ [a]) n id reply := by
  obtain ⟨target, bytes, now, htarget, hn, h⟩ := h
  have hlt : n < as.length := (List.getElem?_eq_some_iff.1 hn).1
  refine ⟨target, bytes, now, ?_, ?_, ?_⟩
  · rw [calledAt_concat, htarget, Option.some_or]
  · rw [List.getElem?_append_left hlt, hn]
  · rw [List.take_append_of_le_length hlt.le]
    exact h

/-- Two calls have their replies from two datagrams. -/
theorem RepliedAt.unique {as : List Action} {n : ℕ} {id' : CallId} {reply' : RpcMessage}
    (h : RepliedAt crc32 localId as n id reply) (h' : RepliedAt crc32 localId as n id' reply') : id = id' := by
  obtain ⟨target, bytes, now, -, hn, h⟩ := h
  obtain ⟨target', bytes', now', -, hn', h'⟩ := h'
  exact h.unique h' (Option.some.inj (hn.symm.trans hn'))

/-- After the actions: the entries are attached, every call is one that was made, and replies were received. -/
structure History (crc32 : Bytes → UInt32) (localId : NodeId) (as : List Action) (s : NetworkManager) : Prop where
  attached : s.AllAttached true
  notCalled : ∀ id, s.call? id = none → calledAt as id = none
  called : ∀ id c, s.call? id = some c → ∃ target, calledAt as id = some target ∧ c.target = target.routable
  replied : ∀ id c reply, s.call? id = some c → c.HoldsReply reply → ∃ n, RepliedAt crc32 localId as n id reply

theorem History.nil : History crc32 localId [] {} where
  attached := .empty true
  notCalled _ _ := rfl
  called _ _ h := by cases h
  replied _ _ _ h := by cases h

theorem call?_modifyCall_eq_none {id' : CallId} {f : Call → Call} (hf : ∀ c, (f c).id = c.id) :
    (s.modifyCall id f hf).call? id' = none ↔ s.call? id' = none := by
  rw [call?_modifyCall]
  split
  · exact Option.map_eq_none_iff
  · rfl

theorem call?_take_eq_none {r : UInt64} {channel : PendingCall → Channel} :
    (s.take r channel).call? id = none ↔ s.call? id = none := by
  unfold take
  split
  · rfl
  · exact call?_modifyCall_eq_none _

/-- No step forgets a call, and the start of one makes it. -/
theorem call?_step_eq_none {a : Action} (h : (s.step crc32 localId a).call? id = none) :
    s.call? id = none ∧ calledAt [a] id = none := by
  cases a with
  | start id' target payload maxRetries =>
    change (s.start _).call? id = none at h
    unfold NetworkManager.start at h
    split at h
    · rename_i hsome
      refine ⟨h, ?_⟩
      have hid : id' ≠ id := by
        rintro rfl
        rw [h] at hsome
        cases hsome
      simp [calledAt, hid]
    · unfold NetworkManager.call? at h
      rw [KeyedList.get?_upsert] at h
      split at h
      · cases h
      · rename_i hid
        exact ⟨h, by simpa [calledAt] using hid⟩
  | register id' =>
    refine ⟨?_, rfl⟩
    change (s.register id').call? id = none at h
    rcases s.register_cases id' with hr | ⟨c, s', -, rfl, hr⟩
    · rwa [hr] at h
    · rw [hr] at h
      exact call?_take_eq_none.1 ((call?_modifyCall_eq_none Call.id_opened).1 h)
  | sent id' error => exact ⟨(call?_modifyCall_eq_none _).1 h, rfl⟩
  | poll id' deadline => exact ⟨(call?_modifyCall_eq_none _).1 h, rfl⟩
  | unregister id' =>
    refine ⟨?_, rfl⟩
    change (s.unregister id').call? id = none at h
    rcases s.unregister_cases id' with hu | hu
    · rwa [hu] at h
    · rw [hu] at h
      exact call?_take_eq_none.1 ((call?_modifyCall_eq_none Call.id_afterUnregister).1 h)
  | drop id' => exact ⟨(call?_modifyCall_eq_none _).1 h, rfl⟩
  | datagram srcAddr bytes now =>
    refine ⟨?_, rfl⟩
    change (s.datagram crc32 srcAddr bytes now).call? id = none at h
    rcases s.datagram_cases crc32 srcAddr bytes now with hd | ⟨msg, -, -, hd⟩
    · rw [hd] at h
      exact h
    · rw [hd] at h
      have hnone := call?_take_eq_none.1 h
      exact hnone

theorem History.step {as : List Action} (a : Action)
    (hs : History crc32 localId as (run (NetworkManager.step crc32 localId) {} as)) :
    History crc32 localId (as ++ [a]) ((run (NetworkManager.step crc32 localId) {} as).step crc32 localId a) where
  attached := hs.attached.step a (.inl rfl)
  notCalled id h := by
    obtain ⟨hnone, ha⟩ := call?_step_eq_none h
    rw [calledAt_concat, hs.notCalled id hnone, ha]
    rfl
  called id c' hc' := by
    rcases call?_step hs.attached hc' with ⟨target, payload, maxRetries, rfl, hnone, htarget, -⟩ | ⟨c, hc, htarget, -⟩
    · refine ⟨target, ?_, htarget⟩
      rw [calledAt_concat, hs.notCalled id hnone]
      simp [calledAt]
    · obtain ⟨target, hcalled, hroutable⟩ := hs.called id c hc
      refine ⟨target, ?_, htarget.trans hroutable⟩
      rw [calledAt_concat, hcalled, Option.some_or]
  replied id c' reply hc' hr := by
    rcases call?_step hs.attached hc' with ⟨-, -, -, -, -, -, hno⟩ | ⟨c, hc, -, hreply⟩
    · exact absurd hr (hno reply)
    · rcases hreply reply hr with h | ⟨srcAddr, bytes, now, rfl, h⟩
      · obtain ⟨n, hn⟩ := hs.replied id c reply hc h
        exact ⟨n, hn.concat a⟩
      · -- the reply is in the datagram handled last
        obtain ⟨target, hcalled, hroutable⟩ := hs.called id c hc
        obtain ⟨c₀, hc₀, -, hsrc⟩ := h.inProgress
        obtain rfl : c = c₀ := Option.some.inj (hc.symm.trans hc₀)
        rw [← hsrc, hroutable] at h ⊢
        refine ⟨as.length, target, bytes, now, ?_, ?_, ?_⟩
        · rw [calledAt_concat, hcalled, Option.some_or]
        · rw [List.getElem?_concat_length]
        · rw [List.take_left']
          · exact h
          · rfl

/-- A call that returned a reply has it from a datagram of the run: there is one for each such call, from the address
the call was made to, or this host where that is unspecified; it decoded to a response with the call's request id
while the call was in progress and its entry in the map; and no two calls share one. -/
theorem run_replied (crc32 : Bytes → UInt32) (localId : NodeId) (as : List Action) :
    ∃ source : CallId → ℕ,
      (∀ id reply, (run (step crc32 localId) {} as).result? id = some (.ok reply) →
        RepliedAt crc32 localId as (source id) id reply) ∧
      ∀ id id' reply reply', (run (step crc32 localId) {} as).result? id = some (.ok reply) →
        (run (step crc32 localId) {} as).result? id' = some (.ok reply') → source id = source id' → id = id' := by
  have hs : History crc32 localId as (run (step crc32 localId) {} as) :=
    run_history (I := History crc32 localId) .nil (fun as a h _ => h.step a) as
      (steps_of_forall (fun _ _ => trivial) _ _)
  have hreplied : ∀ id, ∃ n, ∀ reply, (run (step crc32 localId) {} as).result? id = some (.ok reply) →
      RepliedAt crc32 localId as n id reply := by
    intro id
    by_cases h : ∃ reply, (run (step crc32 localId) {} as).result? id = some (.ok reply)
    · obtain ⟨reply, hreply⟩ := h
      obtain ⟨c, hc, hresult⟩ := Option.bind_eq_some_iff.1 hreply
      obtain ⟨n, hn⟩ := hs.replied id c reply hc (.inl (Call.result?_eq_some.1 hresult))
      refine ⟨n, fun reply' hreply' => ?_⟩
      obtain rfl : reply = reply' := by
        rw [hreply] at hreply'
        exact Except.ok.inj (Option.some.inj hreply')
      exact hn
    · exact ⟨0, fun reply hreply => absurd ⟨reply, hreply⟩ h⟩
  choose source hsource using hreplied
  refine ⟨source, hsource, fun id id' reply reply' h h' heq => ?_⟩
  have hn := hsource id reply h
  rw [heq] at hn
  exact hn.unique (hsource id' reply' h')

section Sample

open Forged

def anyHost : SocketAddr := { ip := .v4 #v[0, 0, 0, 0], port := 9000 }

def thisHost : SocketAddr := { ip := .localhost, port := 9000 }

/-- A peer on this host is called at the address it listens on, and answers from another. -/
def answeredHere : List Action :=
  [.start call anyHost .ping 1, .register call, .sent call none, .datagram thisHost (pong 7) 1, .poll call false]

theorem run_replied_anyHost :
    ¬ ∀ (crc32 : Bytes → UInt32) (localId : NodeId) (as : List Action) (id : CallId) (target : SocketAddr)
      (reply : RpcMessage), calledAt as id = some target →
        (run (step crc32 localId) {} as).result? id = some (.ok reply) →
          ∃ bytes now, Action.datagram target bytes now ∈ as := by
  intro h
  have hresult : calledAt answeredHere call = some anyHost ∧
      (run (step crc32 (nodeId 1)) {} answeredHere).result? call = some (.ok ⟨7, nodeId 2, .pong⟩) := by
    decide +kernel
  obtain ⟨bytes, now, hmem⟩ := h crc32 (nodeId 1) answeredHere call anyHost _ hresult.1 hresult.2
  have hhosts : anyHost ≠ thisHost := by decide
  simp [answeredHere, hhosts] at hmem

end Sample

end NetworkManager

end NodeX.Kad
