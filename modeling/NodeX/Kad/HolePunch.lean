/-
`hole_punch.rs` beside the receive loop of `rpc.rs`. A verified punch listens on the socket that the receive loop
reads, so that several `recv_from` calls can be pending on it. A datagram is handed to one of them, whichever; the
receive loop drops a `NODEXACK`, which decodes as no message, and a punch drops everything else.
-/
import NodeX.Kad.Rpc

namespace NodeX.Kad

open NodeX.Lib

structure Datagram where
  bytes : Bytes
  src : SocketAddr
deriving DecidableEq

/-! ## Punches -/

namespace HolePuncher

def probeMagic : Bytes := utf8 "NODEXHP1"

def ackMagic : Bytes := utf8 "NODEXACK"

def probe (nonce : Vector UInt8 16) : Bytes := probeMagic ++ nonce.toList

/-- The response to a packet, if that is a probe. -/
def respondToProbe (packet : Bytes) : Option Bytes :=
  if packet.length ≠ 24 ∨ packet.take 8 ≠ probeMagic then none else some (ackMagic ++ packet.drop 8)

/-- The bytes are the response to the probe with the nonce. -/
def isAck (nonce : Vector UInt8 16) (bytes : Bytes) : Bool :=
  bytes.length = 24 && bytes.take 8 = ackMagic && (bytes.drop 8).take 16 = nonce.toList

/-- The buffer of a punch has 64 bytes; what it cuts off decides nothing. -/
theorem isAck_take (nonce : Vector UInt8 16) (bytes : Bytes) : isAck nonce (bytes.take 64) = isAck nonce bytes := by
  by_cases hlen : bytes.length ≤ 64
  · rw [List.take_of_length_le hlen]
  · unfold isAck
    have hlen' : bytes.length ≠ 24 := by omega
    have htake : min 64 bytes.length ≠ 24 := by omega
    simp [htake, hlen']

/-- What answers a probe is the response to it. -/
theorem isAck_respondToProbe (nonce : Vector UInt8 16) :
    ∃ response, respondToProbe (probe nonce) = some response ∧ isAck nonce response = true := by
  have hmagic : probeMagic.length = 8 := by decide
  have hack : ackMagic.length = 8 := by decide
  have hnonce : nonce.toList.length = 16 := by simp
  refine ⟨ackMagic ++ nonce.toList, ?_, ?_⟩
  · unfold respondToProbe probe
    rw [if_neg, List.drop_left' hmagic]
    rintro (hlen | htake)
    · simp [hmagic] at hlen
    · exact htake (List.take_left' hmagic)
  · unfold isAck
    rw [List.take_left' hack, List.drop_left' hack, List.take_of_length_le hnonce.le, List.length_append, hack, hnonce]
    simp

end HolePuncher

/-- Where a punch is: sending its probes, listening for responses, or at its end. -/
inductive PunchPhase where
  | sending
  | listening
  | returned
deriving DecidableEq

/-- A call of `punch_candidates_verified`; `received` is what its `recv_from` has returned. -/
structure Punch where
  id : Nat
  nonce : Vector UInt8 16
  candidates : List SocketAddr
  phase : PunchPhase := .sending
  verified : List SocketAddr := []
  received : List Datagram := []

namespace Punch

/-- The last probe is sent. -/
def listen (p : Punch) : Punch := if p.phase = .sending then { p with phase := .listening } else p

/-- A pending `recv_from` fails, or its 250 ms are over, or the caller drops the future. -/
def stop (p : Punch) : Punch := { p with phase := .returned }

/-- What a datagram adds to the verified addresses. -/
def verify (p : Punch) (d : Datagram) : List SocketAddr :=
  if HolePuncher.isAck p.nonce (d.bytes.take 64) && p.candidates.contains d.src && !p.verified.contains d.src then
    p.verified ++ [d.src]
  else p.verified

/-- The pending `recv_from` returns a datagram. -/
def recv (d : Datagram) (p : Punch) : Punch := { p with verified := p.verify d, received := p.received ++ [d] }

/-- The punch has not returned, and the datagram is the response to its probes. -/
def expects (p : Punch) (d : Datagram) : Bool := p.phase ≠ .returned && HolePuncher.isAck p.nonce d.bytes

theorem id_listen (p : Punch) : p.listen.id = p.id := by
  unfold listen
  split <;> rfl

theorem id_stop (p : Punch) : p.stop.id = p.id := rfl

theorem id_recv (d : Datagram) (p : Punch) : (p.recv d).id = p.id := rfl

/-- A response from a candidate that reaches its punch makes the candidate a verified one. -/
theorem mem_verified_recv {p : Punch} {d : Datagram} (h : p.expects d = true) (hsrc : d.src ∈ p.candidates) :
    d.src ∈ (p.recv d).verified := by
  have hack : HolePuncher.isAck p.nonce (d.bytes.take 64) = true := by
    rw [HolePuncher.isAck_take]
    exact (Bool.and_eq_true_iff.1 h).2
  show d.src ∈ p.verify d
  unfold verify
  split
  · simp
  · rename_i hne
    by_contra hnew
    exact hne (by simp [hack, hsrc, hnew])

end Punch

/-! ## The socket -/

/-- Where the receive loop is: waiting in `recv_from`, busy with a datagram, or asleep after an error. -/
inductive LoopPhase where
  | receiving
  | handling (d : Datagram)
  | sleeping
deriving DecidableEq

/-- The socket with what reads it; `dispatched` is what the `recv_from` of the receive loop has returned. -/
structure SharedSocket where
  manager : NetworkManager := {}
  loop : LoopPhase := .receiving
  punches : KeyedList Punch.id := ∅
  buffer : List Datagram := []
  dispatched : List Datagram := []

/-- Who has a `recv_from` on the socket. -/
inductive Reader where
  | receiveLoop
  | punch (id : Nat)
deriving DecidableEq

inductive SocketAction where
  /-- A call goes on. -/
  | call (a : Action)
  /-- `punch_candidates_verified` draws a nonce. -/
  | punch (id : Nat) (nonce : Vector UInt8 16) (candidates : List SocketAddr)
  /-- A punch has sent its probes. -/
  | probesSent (id : Nat)
  /-- A datagram arrives. -/
  | arrive (d : Datagram)
  /-- The datagram that arrived first is handed to a reader. -/
  | recv (r : Reader)
  /-- The receive loop is done with its datagram. -/
  | handled (now : Nat)
  /-- The `recv_from` of the receive loop fails. -/
  | recvFailed
  /-- The receive loop has slept. -/
  | wake
  /-- A punch returns, or is dropped. -/
  | stop (id : Nat)

namespace SharedSocket

/-- The reader waits in `recv_from`. -/
def isPending (s : SharedSocket) : Reader → Bool
  | .receiveLoop => s.loop = .receiving
  | .punch id => (s.punches.get? id).any (·.phase = .listening)

/-- The `recv_from` of a reader returns the datagram. -/
def hand (s : SharedSocket) (d : Datagram) : Reader → SharedSocket
  | .receiveLoop => { s with loop := .handling d, dispatched := s.dispatched ++ [d] }
  | .punch id => { s with punches := s.punches.modify id (Punch.recv d) (Punch.id_recv d) }

/-- A `recv_from` returns what arrived first, if there is anything. -/
def recv (s : SharedSocket) (r : Reader) : SharedSocket :=
  match s.buffer with
  | [] => s
  | d :: rest => if s.isPending r then { s with buffer := rest }.hand d r else s

/-- A punch begins, under an id that no task has. -/
def punch (s : SharedSocket) (p : Punch) : SharedSocket :=
  if (s.punches.get? p.id).isSome then s else { s with punches := s.punches.upsert p }

/-- The receive loop sleeps for 10 ms when its `recv_from` fails, and goes on. -/
def recvFailed (s : SharedSocket) : SharedSocket := if s.loop = .receiving then { s with loop := .sleeping } else s

def wake (s : SharedSocket) : SharedSocket := if s.loop = .sleeping then { s with loop := .receiving } else s

section Model

variable (crc32 : Bytes → UInt32) (localId : NodeId)

/-- A step of a call; datagrams come over the socket only. -/
def call (s : SharedSocket) : Action → SharedSocket
  | .datagram .. => s
  | a => { s with manager := s.manager.step crc32 localId a }

/-- The receive loop dispatches the datagram in hand. -/
def handled (s : SharedSocket) (now : Nat) : SharedSocket :=
  match s.loop with
  | .handling d => { s with manager := s.manager.datagram crc32 d.src d.bytes now, loop := .receiving }
  | .receiving | .sleeping => s

def step (s : SharedSocket) : SocketAction → SharedSocket
  | .call a => s.call crc32 localId a
  | .punch id nonce candidates => s.punch { id, nonce, candidates }
  | .probesSent id => { s with punches := s.punches.modify id Punch.listen Punch.id_listen }
  | .arrive d => { s with buffer := s.buffer ++ [d] }
  | .recv r => s.recv r
  | .handled now => s.handled crc32 now
  | .recvFailed => s.recvFailed
  | .wake => s.wake
  | .stop id => { s with punches := s.punches.modify id Punch.stop Punch.id_stop }

end Model

/-! ## Who gets a datagram -/

/-- From the one state to the other the datagram went where it belongs: to the receive loop if no running punch waits
for it, and to every running punch that waits for it from this address. -/
structure Delivered (s s' : SharedSocket) (d : Datagram) : Prop where
  dispatched : (∀ p ∈ s.punches, p.expects d = false) → s'.dispatched = s.dispatched ++ [d]
  reached : ∀ p ∈ s.punches, p.expects d = true → d.src ∈ p.candidates →
    ∃ p', s'.punches.get? p.id = some p' ∧ p'.received = p.received ++ [d]

/-- Whichever pending reader is handed the datagram, it goes where it belongs. -/
def NotStolen (s : SharedSocket) : SocketAction → Prop
  | .recv _ => ∀ d rest, s.buffer = d :: rest → ∀ r, s.isPending r = true → Delivered s (s.recv r) d
  | _ => True

/-- The datagram handed over is not a response a punch waits for from this address, if the receive loop has a
`recv_from` pending. It is the response to a running punch, and to no other one from this address, if a punch has. -/
def Undisputed (s : SharedSocket) : SocketAction → Prop
  | .recv _ => ∀ d rest, s.buffer = d :: rest →
      (s.loop = .receiving → ∀ p ∈ s.punches, p.expects d = true → d.src ∉ p.candidates) ∧
      ∀ q ∈ s.punches, q.phase = .listening →
        (∃ p ∈ s.punches, p.expects d = true) ∧
          ∀ p ∈ s.punches, p.expects d = true → d.src ∈ p.candidates → p.id = q.id
  | _ => True

variable {crc32 : Bytes → UInt32} {localId : NodeId} {s : SharedSocket} {d : Datagram} {rest : List Datagram}
  {r : Reader}

theorem recv_of_pending (hbuf : s.buffer = d :: rest) (hr : s.isPending r = true) :
    s.recv r = { s with buffer := rest }.hand d r := by
  simp [recv, hbuf, hr]

theorem get?_hand_punch (s : SharedSocket) (d : Datagram) (rest : List Datagram) (id id' : Nat) :
    ({ s with buffer := rest }.hand d (.punch id)).punches.get? id' =
      if id = id' then (s.punches.get? id').map (Punch.recv d) else s.punches.get? id' :=
  KeyedList.get?_modify _ _ _ _ (Punch.id_recv d)

theorem isPending_punch {q : Punch} (hq : q ∈ s.punches) (hphase : q.phase = .listening) :
    s.isPending (.punch q.id) = true := by
  show (s.punches.get? q.id).any _ = true
  rw [KeyedList.mem_iff_get?.1 hq]
  simp [hphase]

/-- The receive loop is the right one for what no punch waits for. -/
theorem delivered_receiveLoop_iff (hbuf : s.buffer = d :: rest) (hloop : s.loop = .receiving) :
    Delivered s (s.recv .receiveLoop) d ↔
      ∀ p ∈ s.punches, p.expects d = true → d.src ∉ p.candidates := by
  rw [recv_of_pending hbuf (by simp [isPending, hloop])]
  constructor
  · rintro ⟨-, hreached⟩ p hp hexpects hsrc
    obtain ⟨p', hp', hreceived⟩ := hreached p hp hexpects hsrc
    -- the punches are as they were
    obtain rfl := Option.some.inj (hp'.symm.trans (KeyedList.mem_iff_get?.1 hp))
    simp at hreceived
  · intro h
    exact ⟨fun _ => rfl, fun p hp hexpects hsrc => absurd hsrc (h p hp hexpects)⟩

/-- A punch is the right one for the responses to itself. -/
theorem delivered_punch_iff (hbuf : s.buffer = d :: rest) {q : Punch} (hq : q ∈ s.punches)
    (hphase : q.phase = .listening) :
    Delivered s (s.recv (.punch q.id)) d ↔
      (∃ p ∈ s.punches, p.expects d = true) ∧
        ∀ p ∈ s.punches, p.expects d = true → d.src ∈ p.candidates → p.id = q.id := by
  rw [recv_of_pending hbuf (isPending_punch hq hphase)]
  constructor
  · rintro ⟨hdispatched, hreached⟩
    constructor
    · by_contra hnone
      push Not at hnone
      have hloop := hdispatched fun p hp => Bool.eq_false_iff.2 (hnone p hp)
      simp [hand] at hloop
    · intro p hp hexpects hsrc
      obtain ⟨p', hp', hreceived⟩ := hreached p hp hexpects hsrc
      by_contra hne
      rw [get?_hand_punch, if_neg fun h : q.id = p.id => hne h.symm, KeyedList.mem_iff_get?.1 hp] at hp'
      obtain rfl := Option.some.inj hp'
      simp at hreceived
  · rintro ⟨⟨p, hp, hexpects⟩, hown⟩
    refine ⟨fun hnone => ?_, fun p hp hexpects hsrc => ?_⟩
    · rw [hnone p hp] at hexpects
      cases hexpects
    · refine ⟨p.recv d, ?_, rfl⟩
      rw [get?_hand_punch, if_pos (hown p hp hexpects hsrc).symm, KeyedList.mem_iff_get?.1 hp]
      rfl

theorem notStolen_iff (s : SharedSocket) (a : SocketAction) : s.NotStolen a ↔ s.Undisputed a := by
  cases a with
  | recv r =>
    constructor
    · intro h d rest hbuf
      refine ⟨fun hloop => ?_, fun q hq hphase => ?_⟩
      · exact (delivered_receiveLoop_iff hbuf hloop).1 (h d rest hbuf .receiveLoop (by simp [isPending, hloop]))
      · exact (delivered_punch_iff hbuf hq hphase).1 (h d rest hbuf _ (isPending_punch hq hphase))
    · rintro h d rest hbuf (_ | id) hr
      · have hloop : s.loop = .receiving := of_decide_eq_true hr
        exact (delivered_receiveLoop_iff hbuf hloop).2 ((h d rest hbuf).1 hloop)
      · obtain ⟨q, hq, hphase⟩ := (Option.any_eq_true ..).1 hr
        obtain rfl := KeyedList.key_of_get? hq
        have hmem := KeyedList.mem_of_get? hq
        have hlistening : q.phase = .listening := of_decide_eq_true hphase
        exact (delivered_punch_iff hbuf hmem hlistening).2 ((h d rest hbuf).2 q hmem hlistening)
  | _ => exact Iff.rfl

/-! ## Runs -/

/-- In a run every datagram goes where it belongs, whichever pending reader it is handed to, exactly if no datagram
is handed over while a reader that it does not belong to waits as well. -/
theorem run_notStolen_iff (crc32 : Bytes → UInt32) (localId : NodeId) (s : SharedSocket) (as : List SocketAction) :
    Steps (step crc32 localId) NotStolen s as ↔ Steps (step crc32 localId) Undisputed s as :=
  steps_congr notStolen_iff s as

theorem size_candidate : (#[203, 0, 113, 9] : Array UInt8).size = 4 := rfl

def candidatePeer : SocketAddr := { ip := .v4 ⟨#[203, 0, 113, 9], size_candidate⟩, port := 9001 }

def storingPeer : SocketAddr := { ip := .v4 #v[192, 0, 2, 30], port := 9002 }

theorem length_storer : (List.replicate 20 (2 : UInt8)).length = 20 := List.length_replicate

/-- A peer deposits an envelope. -/
def storeRequest : Datagram :=
  let id : NodeId := ⟨List.replicate 20 2, length_storer⟩
  { bytes := ((RpcMessage.mk 7 id (.store id (utf8 "[]"))).encode.toOption).getD [], src := storingPeer }

open HolePuncher in
/-- A punch listens when a request arrives and is handed to it; the receive loop never sees the request. -/
theorem run_notStolen_request :
    ¬ ∀ (crc32 : Bytes → UInt32) (localId : NodeId) (as : List SocketAction),
        Steps (step crc32 localId) NotStolen {} as := by
  intro h
  have hrun := h (fun _ => 0) ⟨List.replicate 20 1, List.length_replicate⟩
    [.punch 1 (Vector.replicate 16 5) [candidatePeer], .probesSent 1, .arrive storeRequest, .recv (.punch 1)]
  have hgone := (hrun.2.2.2.1 storeRequest [] rfl (.punch 1) (by decide)).dispatched
  have hnone : ∀ p ∈ (run (step (fun _ => 0) ⟨List.replicate 20 1, List.length_replicate⟩) {}
      [.punch 1 (Vector.replicate 16 5) [candidatePeer], .probesSent 1, .arrive storeRequest]).punches.list,
      p.expects storeRequest = false := by decide
  exact absurd (hgone hnone) (by decide)

/-! ## What the manager is fed -/

/-- The datagram the receive loop has in hand. -/
def inHand : LoopPhase → List Datagram
  | .handling d => [d]
  | .receiving | .sleeping => []

/-- The datagram of a step of the manager. -/
def datagram? : Action → Option Datagram
  | .datagram src bytes _ => some { bytes, src }
  | _ => none

variable (crc32 localId) in
/-- The manager took the steps `trace`, whose datagrams are those dispatched so far but for the one in hand. -/
structure Fed (s : SharedSocket) (trace : List Action) : Prop where
  manager : s.manager = run (NetworkManager.step crc32 localId) {} trace
  dispatched : s.dispatched = trace.filterMap datagram? ++ inHand s.loop

theorem Fed.extend {trace : List Action} (h : Fed crc32 localId s trace) (a : Action) (ha : datagram? a = none) :
    ∃ trace', Fed crc32 localId { s with manager := s.manager.step crc32 localId a } trace' := by
  refine ⟨trace ++ [a], ?_, ?_⟩
  · rw [run_concat, ← h.manager]
  · rw [List.filterMap_append]
    simpa [ha] using h.dispatched

theorem Fed.call {trace : List Action} (h : Fed crc32 localId s trace) : ∀ a : Action,
    ∃ trace', Fed crc32 localId (s.call crc32 localId a) trace'
  | .datagram .. => ⟨trace, h⟩
  | .start id target payload maxRetries => h.extend (.start id target payload maxRetries) rfl
  | .register id => h.extend (.register id) rfl
  | .sent id error => h.extend (.sent id error) rfl
  | .poll id deadline => h.extend (.poll id deadline) rfl
  | .unregister id => h.extend (.unregister id) rfl
  | .drop id => h.extend (.drop id) rfl

theorem Fed.recv {trace : List Action} (h : Fed crc32 localId s trace) (r : Reader) :
    Fed crc32 localId (s.recv r) trace := by
  unfold SharedSocket.recv
  split
  · exact h
  · split
    · rename_i hr
      cases r with
      | punch id => exact ⟨h.manager, h.dispatched⟩
      | receiveLoop =>
        have hloop : s.loop = .receiving := of_decide_eq_true hr
        have hd := h.dispatched
        rw [hloop] at hd
        exact ⟨h.manager, by simp [hand, hd, inHand]⟩
    · exact h

theorem Fed.handled {trace : List Action} (h : Fed crc32 localId s trace) (now : Nat) :
    ∃ trace', Fed crc32 localId (s.handled crc32 now) trace' := by
  unfold SharedSocket.handled
  split
  · rename_i d hloop
    have hd := h.dispatched
    rw [hloop] at hd
    refine ⟨trace ++ [.datagram d.src d.bytes now], ?_, ?_⟩
    · rw [run_concat, ← h.manager]
      rfl
    · simpa [List.filterMap_append, datagram?, inHand] using hd
  · exact ⟨trace, h⟩
  · exact ⟨trace, h⟩

/-- The receive loop rests without a datagram in hand. -/
theorem Fed.idle {trace : List Action} (h : Fed crc32 localId s trace) {loop : LoopPhase}
    (hloop : inHand s.loop = inHand loop) : Fed crc32 localId { s with loop } trace :=
  ⟨h.manager, hloop ▸ h.dispatched⟩

theorem Fed.step {trace : List Action} (h : Fed crc32 localId s trace) (a : SocketAction) :
    ∃ trace', Fed crc32 localId (s.step crc32 localId a) trace' := by
  cases a with
  | call a => exact h.call a
  | recv r => exact ⟨trace, h.recv r⟩
  | handled now => exact h.handled now
  | probesSent id | arrive d | stop id => exact ⟨trace, h.manager, h.dispatched⟩
  | punch id nonce candidates =>
    refine ⟨trace, ?_⟩
    show Fed crc32 localId (s.punch _) trace
    unfold SharedSocket.punch
    split
    · exact h
    · exact ⟨h.manager, h.dispatched⟩
  | recvFailed =>
    refine ⟨trace, ?_⟩
    show Fed crc32 localId s.recvFailed trace
    unfold SharedSocket.recvFailed
    split
    · rename_i hloop
      exact h.idle (by rw [hloop]; rfl)
    · exact h
  | wake =>
    refine ⟨trace, ?_⟩
    show Fed crc32 localId s.wake trace
    unfold SharedSocket.wake
    split
    · rename_i hloop
      exact h.idle (by rw [hloop]; rfl)
    · exact h

/-- After every run the manager is where the calls and the dispatched datagrams alone take it. -/
theorem run_fed (crc32 : Bytes → UInt32) (localId : NodeId) (as : List SocketAction) :
    ∃ trace, Fed crc32 localId (run (step crc32 localId) {} as) trace :=
  run_induction (I := fun s => ∃ trace, Fed crc32 localId s trace)
    (fun _ a h => h.elim fun _ hfed => hfed.step a) as ⟨[], rfl, rfl⟩

end SharedSocket

/-! ## How long a punch listens -/

/-- What comes of a pending `recv_from`, and how many milliseconds after the call. -/
structure Wait where
  gap : ℕ
  result : Except Unit Datagram

/-- The datagram of a wait within the 250 ms that the loop waits for it. -/
def Wait.inTime? (x : Wait) : Option Datagram := if x.gap < 250 then x.result.toOption else none

namespace Punch

/-- One turn of the listening loop. -/
def turn (p : Punch) (x : Wait) : Punch :=
  if p.phase = .listening then
    match x.inTime? with
    | some d => p.recv d
    | none => p.stop
  else p

/-- The punch after `n` turns; each waits 250 ms anew. -/
def after (p : Punch) (stream : ℕ → Wait) (n : ℕ) : Punch := run turn p ((List.range n).map stream)

/-- The probes are sent, and nothing has come yet. -/
def start (nonce : Vector UInt8 16) (candidates : List SocketAddr) : Punch :=
  listen { id := 0, nonce, candidates }

/-- There is a number of datagrams after which the punch has returned, whatever comes and whenever. -/
def Ends (nonce : Vector UInt8 16) (candidates : List SocketAddr) : Prop :=
  ∃ bound : ℕ, ∀ stream : ℕ → Wait, ∃ n, ((start nonce candidates).after stream n).phase = .returned ∧
    ((start nonce candidates).after stream n).received.length ≤ bound

variable {p : Punch} {stream : ℕ → Wait}

theorem after_succ (p : Punch) (stream : ℕ → Wait) (n : ℕ) :
    p.after stream (n + 1) = (p.after stream n).turn (stream n) := by
  unfold after
  rw [List.range_succ, List.map_append]
  exact run_concat ..

/-- As long as something comes within 250 ms of the last, the punch listens on, and takes it all. -/
theorem after_of_inTime (hp : p.phase = .listening) {n : ℕ} (h : ∀ k < n, (stream k).inTime?.isSome = true) :
    (p.after stream n).phase = .listening ∧ (p.after stream n).received.length = p.received.length + n := by
  induction n with
  | zero => exact ⟨hp, rfl⟩
  | succ n ih =>
    obtain ⟨hphase, hlength⟩ := ih fun k hk => h k (Nat.lt_succ_of_lt hk)
    obtain ⟨d, hd⟩ := Option.isSome_iff_exists.1 (h n (Nat.lt_succ_self n))
    rw [after_succ, turn, if_pos hphase, hd]
    refine ⟨hphase, ?_⟩
    show ((p.after stream n).received ++ [d]).length = _
    rw [List.length_append, hlength]
    rfl

/-- A punch returns exactly if once nothing comes for 250 ms, or the socket fails. -/
theorem returned_iff (hp : p.phase = .listening) :
    (∃ n, (p.after stream n).phase = .returned) ↔ ∃ n, (stream n).inTime? = none := by
  constructor
  · rintro ⟨n, hn⟩
    by_contra! hbusy
    rw [(after_of_inTime hp fun k _ => Option.isSome_iff_ne_none.2 (hbusy k)).1] at hn
    cases hn
  · intro hsilent
    -- the first silence
    classical
    let n := Nat.find hsilent
    have hbefore : ∀ k < n, (stream k).inTime?.isSome = true :=
      fun k hk => Option.isSome_iff_ne_none.2 (Nat.find_min hsilent hk)
    refine ⟨n + 1, ?_⟩
    rw [after_succ, turn, if_pos (after_of_inTime hp hbefore).1, Nat.find_spec hsilent]
    rfl

/-- One datagram after the other, `gap` milliseconds apart. -/
def steady (gap : ℕ) (d : Datagram) : ℕ → Wait := fun _ => { gap, result := .ok d }

theorem listening_steady (hp : p.phase = .listening) {gap : ℕ} (hgap : gap < 250) (d : Datagram) (n : ℕ) :
    (p.after (steady gap d) n).phase ≠ .returned := by
  intro hn
  obtain ⟨k, hk⟩ := (returned_iff hp).1 ⟨n, hn⟩
  unfold Wait.inTime? steady at hk
  rw [if_pos hgap] at hk
  cases hk

/-- For no candidates does a punch end after a number of datagrams: a steady stream of requests,
none of them a response, keeps it listening. -/
theorem not_ends (nonce : Vector UInt8 16) (candidates : List SocketAddr) : ¬Ends nonce candidates := by
  rintro ⟨bound, hbound⟩
  obtain ⟨n, hn, -⟩ := hbound (steady 249 SharedSocket.storeRequest)
  exact listening_steady rfl (by decide) _ n hn

/-- A punch to one candidate, while another peer sends a request every 100 ms. -/
theorem not_ends_requests :
    ¬∀ (nonce : Vector UInt8 16) (candidates : List SocketAddr), Ends nonce candidates := by
  intro h
  obtain ⟨bound, hbound⟩ := h (Vector.replicate 16 5) [SharedSocket.candidatePeer]
  obtain ⟨n, hn, -⟩ := hbound (steady 100 SharedSocket.storeRequest)
  exact listening_steady rfl (by decide) _ n hn

end Punch

end NodeX.Kad
