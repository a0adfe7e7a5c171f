/-
`rpc.rs`: the network manager. A call registers its request id in the pending map, sends its request and
waits on a channel; the receive loop takes the sender of the channel out of the map when a reply with the
id arrives. Every point at which a task gives way is a step of its own: what the network and the clock do
(whether sending failed, whether the deadline is over, which datagram arrives when) is in the action.

The request handler, the routing table and the metrics are left out: no call reads them. The calls the
receive loop makes to probe a full bucket are calls like any other.
-/
import NodeX.Kad.Chunking
import NodeX.Kad.Wire
import NodeX.Lib.Runs

namespace NodeX.Kad

open NodeX.Lib

/-! ## Calls -/

/-- A call in the code is a task; tasks may draw the same request id. -/
structure CallId where
  requestId : UInt64
  task : Nat
deriving DecidableEq

/-- The channel of the current attempt: empty, with a reply in it, or closed because its sender is gone. -/
inductive Channel where
  | empty
  | reply (msg : RpcMessage)
  | closed
deriving DecidableEq

/-- Where a call is: about to register, sending, waiting on its channel, about to take its registration back
after sending failed, after its channel closed or after the deadline, at its end, or given up by its caller. -/
inductive CallPhase where
  | starting
  | sending
  | waiting
  | sendFailed (e : String)
  | canceled
  | timedOut
  | done (result : Except String RpcMessage)
  | dropped
deriving DecidableEq

structure Call where
  id : CallId
  target : SocketAddr
  payload : RpcPayload
  maxRetries : Nat
  attempt : Nat := 0
  channel : Channel := .empty
  phase : CallPhase := .starting
deriving DecidableEq

/-- An entry of the pending map: whose reply is expected, and which attempt of which task has the other end of
the channel. -/
structure PendingCall where
  requestId : UInt64
  expectedAddr : SocketAddr
  task : Nat
  attempt : Nat
deriving DecidableEq

structure NetworkManager where
  calls : KeyedList Call.id := ∅
  pending : KeyedList PendingCall.requestId := ∅
  assembler : ChunkAssembler := { reassemblyTimeout := 30 * 1000000000 }
  clock : Nat := 0

inductive Action where
  /-- `call` draws a request id. -/
  | start (id : CallId) (target : SocketAddr) (payload : RpcPayload) (maxRetries : Nat)
  /-- An attempt opens a channel and registers. -/
  | register (id : CallId)
  /-- `send_message` returns; the text is that of the socket's error. -/
  | sent (id : CallId) (error : Option String)
  /-- The call is polled, before or after its deadline. -/
  | poll (id : CallId) (deadline : Bool)
  /-- The call takes its registration back. -/
  | unregister (id : CallId)
  /-- The future of the call is dropped. -/
  | drop (id : CallId)
  /-- The receive loop handles a datagram. -/
  | datagram (srcAddr : SocketAddr) (bytes : Bytes) (now : Nat)
deriving DecidableEq

/-! ## Receiving -/

def chunkThreshold : Nat := 1100

/-- Voice frames, which are handed on unread. -/
def voiceMagic : Bytes := utf8 "NXCA"

/-- The message the receive loop makes of a datagram. -/
def receive (crc32 : Bytes → UInt32) (asm : ChunkAssembler) (srcAddr : SocketAddr) (bytes : Bytes) (now : Nat) :
    ChunkAssembler × Option RpcMessage :=
  if bytes.take 4 = voiceMagic then (asm, none)
  else if bytes.take 4 = binaryMagic then
    match UdpChunk.fromBytes bytes with
    | .error _ => (asm, none)
    | .ok chunk =>
      match asm.addChunk crc32 srcAddr chunk now with
      | .ok (asm, complete) => (asm, complete.bind fun bytes => (RpcMessage.decode bytes).toOption)
      | .err _ | .panic => (asm, none)
  else (asm, (RpcMessage.decode bytes).toOption)

namespace Call

def message (localId : NodeId) (c : Call) : RpcMessage :=
  { requestId := c.id.requestId, senderId := localId, payload := c.payload }

/-- `send_message`: what there is to send, or the error. -/
def send (localId : NodeId) (c : Call) (error : Option String) : Except String Unit :=
  match (c.message localId).encode, error with
  | .error e, _ => .error e
  | .ok _, none => .ok ()
  | .ok bytes, some e =>
    .error ((if bytes.length > chunkThreshold then "[NET] Chunk send failed to " else "[NET] Send failed to ") ++
      c.target.display ++ ": " ++ e)

/-- The end of `send_message`. -/
def afterSend (localId : NodeId) (error : Option String) (c : Call) : Call :=
  match c.phase with
  | .sending =>
    match c.send localId error with
    | .ok () => { c with phase := .waiting }
    | .error e => { c with phase := .sendFailed e }
  | _ => c

/-- `timeout(timeout_dur, rx)` polled: the channel first, then the deadline. -/
def poll (deadline : Bool) (c : Call) : Call :=
  match c.phase, c.channel with
  | .waiting, .reply msg => { c with phase := .done (.ok msg) }
  | .waiting, .closed => { c with phase := .canceled }
  | .waiting, .empty => if deadline then { c with phase := .timedOut } else c
  | _, _ => c

/-- The registration is about to be taken back. -/
def isFailing (c : Call) : Bool :=
  match c.phase with
  | .sendFailed _ | .canceled | .timedOut => true
  | _ => false

/-- What follows once the registration is taken back. -/
def afterUnregister (c : Call) : Call :=
  match c.phase with
  | .sendFailed e => { c with phase := .done (.error e) }
  | .canceled => { c with phase := .done (.error "[RPC] Channel canceled") }
  | .timedOut =>
    if c.attempt = c.maxRetries then
      { c with phase := .done (.error ("RPC call to " ++ c.target.display ++ " timed out after retries")) }
    else { c with attempt := c.attempt + 1, phase := .starting }
  | _ => c

/-- The future is dropped before it is at its end. -/
def drop (c : Call) : Call :=
  match c.phase with
  | .done _ => c
  | _ => { c with phase := .dropped }

/-- What the sender of an attempt's channel leaves in it. -/
def resolve (attempt : Nat) (channel : Channel) (c : Call) : Call :=
  if c.attempt = attempt ∧ c.channel = .empty then { c with channel } else c

/-- An attempt opens its channel. -/
def opened (c : Call) : Call := { c with channel := .empty, phase := .sending }

/-- What the call returned. -/
def result? (c : Call) : Option (Except String RpcMessage) :=
  match c.phase with
  | .done result => some result
  | _ => none

theorem id_afterSend (localId : NodeId) (error : Option String) (c : Call) : (c.afterSend localId error).id = c.id := by
  unfold afterSend
  repeat' split
  all_goals rfl

theorem id_poll (deadline : Bool) (c : Call) : (c.poll deadline).id = c.id := by
  unfold poll
  repeat' split
  all_goals rfl

theorem id_afterUnregister (c : Call) : c.afterUnregister.id = c.id := by
  unfold afterUnregister
  repeat' split
  all_goals rfl

theorem id_drop (c : Call) : c.drop.id = c.id := by
  unfold drop
  split <;> rfl

theorem id_resolve (attempt : Nat) (channel : Channel) (c : Call) : (c.resolve attempt channel).id = c.id := by
  unfold resolve
  split <;> rfl

theorem id_opened (c : Call) : c.opened.id = c.id := rfl

end Call

/-! ## Steps -/

namespace NetworkManager

def call? (s : NetworkManager) (id : CallId) : Option Call := s.calls.get? id

/-- What the call with the id returned, once it has. -/
def result? (s : NetworkManager) (id : CallId) : Option (Except String RpcMessage) := (s.call? id).bind Call.result?

/-- The call with the id goes on. -/
def modifyCall (s : NetworkManager) (id : CallId) (f : Call → Call) (hf : ∀ c, (f c).id = c.id) : NetworkManager :=
  { s with calls := s.calls.modify id f hf }

/-- The entry under a request id is taken out of the map, and its sender leaves this in its channel. -/
def take (s : NetworkManager) (requestId : UInt64) (channel : PendingCall → Channel) : NetworkManager :=
  match s.pending.get? requestId with
  | none => s
  | some e =>
    { s with pending := s.pending.erase requestId }.modifyCall ⟨requestId, e.task⟩ (Call.resolve e.attempt (channel e))
      (Call.id_resolve _ _)

/-- A call begins, under an id that no task has. -/
def start (s : NetworkManager) (c : Call) : NetworkManager :=
  if (s.call? c.id).isSome then s else { s with calls := s.calls.upsert c }

/-- An attempt registers; what was registered under its request id is dropped. -/
def register (s : NetworkManager) (id : CallId) : NetworkManager :=
  match s.call? id with
  | none => s
  | some c =>
    if c.phase = .starting then
      let e : PendingCall :=
        { requestId := id.requestId, expectedAddr := c.target, task := id.task, attempt := c.attempt }
      let s := (s.take id.requestId fun _ => .closed).modifyCall id Call.opened Call.id_opened
      { s with pending := s.pending.upsert e }
    else s

/-- A failing attempt removes what is registered under its request id. -/
def unregister (s : NetworkManager) (id : CallId) : NetworkManager :=
  match s.call? id with
  | none => s
  | some c =>
    if c.isFailing then
      (s.take id.requestId fun _ => .closed).modifyCall id Call.afterUnregister Call.id_afterUnregister
    else s

/-- The receive loop with a response: the entry is taken out of the map before its address is looked at. -/
def dispatch (s : NetworkManager) (srcAddr : SocketAddr) (msg : RpcMessage) : NetworkManager :=
  s.take msg.requestId fun e => if e.expectedAddr = srcAddr then .reply msg else .closed

/-- The receive loop with a datagram. -/
def datagram (crc32 : Bytes → UInt32) (s : NetworkManager) (srcAddr : SocketAddr) (bytes : Bytes) (now : Nat) :
    NetworkManager :=
  let received := receive crc32 s.assembler srcAddr bytes now
  let s := { s with assembler := received.1, clock := now }
  match received.2 with
  | none => s
  | some msg => if msg.isResponse then s.dispatch srcAddr msg else s

def step (crc32 : Bytes → UInt32) (localId : NodeId) (s : NetworkManager) : Action → NetworkManager
  | .start id target payload maxRetries => s.start { id, target := target.routable, payload, maxRetries }
  | .register id => s.register id
  | .sent id error => s.modifyCall id (Call.afterSend localId error) (Call.id_afterSend localId error)
  | .poll id deadline => s.modifyCall id (Call.poll deadline) (Call.id_poll deadline)
  | .unregister id => s.unregister id
  | .drop id => s.modifyCall id Call.drop Call.id_drop
  | .datagram srcAddr bytes now => s.datagram crc32 srcAddr bytes now

end NetworkManager

end NodeX.Kad
