/-
The messages of `rpc.rs` and the form `core-ffi` gives them on the wire. A datagram is read in two
steps: into the fields the bytes hold, then into a message, where the contacts of a reply are checked.
Of a contact's row of twenty slots only the slots in use are kept, so their number is their count.
-/
import NodeX.Core.Net

namespace NodeX.Kad

/-! ## Constants -/

def idSize : Nat := 20

def maxValueSize : Nat := 65536

def maxContacts : Nat := 20

def msgPing : UInt8 := 1

def msgPong : UInt8 := 2

def msgStore : UInt8 := 3

def msgStoreAck : UInt8 := 4

def msgFindNode : UInt8 := 5

def msgFindNodeResp : UInt8 := 6

def msgFindValue : UInt8 := 7

def msgFindValueResp : UInt8 := 8

/-- The type, the request id and the sender id in front of every message. -/
def headerSize : Nat := 1 + 8 + idSize

/-- An id, an address type, sixteen bytes of address and a port. -/
def contactSize : Nat := idSize + 1 + 16 + 2

/-! ## What the bytes hold -/

structure CSerializedContact where
  id : NodeId
  ipType : UInt8
  ip : Vector UInt8 16
  port : UInt16
deriving DecidableEq

inductive CMessagePayload where
  | none
  | store (key : NodeId) (valueLen : UInt32) (value : Bytes)
  | storeAck (status : UInt8)
  | findNode (targetId : NodeId)
  | findNodeResp (contacts : List CSerializedContact)
  | findValue (key : NodeId)
  | findValueResp (hasValue : UInt8) (valueLen : UInt32) (value : Bytes) (contacts : List CSerializedContact)
deriving DecidableEq

structure CMessage where
  msgType : UInt8
  requestId : UInt64
  senderId : NodeId
  payload : CMessagePayload
deriving DecidableEq

/-! ## Encoding -/

def encodeContact (c : CSerializedContact) : Bytes :=
  c.id.bytes ++ [c.ipType] ++ c.ip.toList ++ toBe 2 c.port.toNat

/-- A count and that many contacts, at most `maxContacts`. -/
def encodeContacts (contacts : List CSerializedContact) : Bytes :=
  let used := contacts.take maxContacts
  UInt8.ofNat used.length :: used.flatMap encodeContact

/-- A length and that many bytes of a value. -/
def encodeValue (valueLen : UInt32) (value : Bytes) : Bytes :=
  let vlen := min (min valueLen.toNat value.length) maxValueSize
  toBe 4 vlen ++ value.take vlen

def encodePayload (msgType : UInt8) : CMessagePayload → Option Bytes
  | .none => if msgType ≠ msgPing ∧ msgType ≠ msgPong then none else some []
  | .store key valueLen value => some (key.bytes ++ encodeValue valueLen value)
  | .storeAck status => some [status]
  | .findNode targetId => some targetId.bytes
  | .findNodeResp contacts => some (encodeContacts contacts)
  | .findValue key => some key.bytes
  | .findValueResp hasValue valueLen value contacts =>
    some (hasValue :: (if hasValue ≠ 0 then encodeValue valueLen value else []) ++ encodeContacts contacts)

/-- `ffi_encode_message` into a buffer of `room` bytes: nothing for the negative result. -/
def ffiEncodeMessage (msg : CMessage) (room : Nat) : Option Bytes := do
  let payload ← encodePayload msg.msgType msg.payload
  let bytes := [msg.msgType] ++ toBe 8 msg.requestId.toNat ++ msg.senderId.bytes ++ payload
  if bytes.length ≤ room then some bytes else none

/-! ## Decoding -/

def contact? (buf : Bytes) (cursor : Nat) : Option CSerializedContact := do
  let id ← id? buf cursor
  let ipType ← u8? buf (cursor + idSize)
  let ip ← array? 16 buf (cursor + idSize + 1)
  let port ← u16? buf (cursor + idSize + 17)
  return { id, ipType, ip, port }

def contactsFrom? (buf : Bytes) (cursor : Nat) : Nat → Option (List CSerializedContact)
  | 0 => some []
  | count + 1 => do
    let c ← contact? buf cursor
    let rest ← contactsFrom? buf (cursor + contactSize) count
    return c :: rest

/-- The count, cut to `maxContacts`, and that many contacts. -/
def contacts? (buf : Bytes) (cursor : Nat) : Option (List CSerializedContact) := do
  let count ← u8? buf cursor
  contactsFrom? buf (cursor + 1) (min count.toNat maxContacts)

/-- The length and the value: an error where it is over the limit or does not fit the buffer. -/
def value? (buf : Bytes) (cursor : Nat) : Option (UInt32 × Bytes) := do
  let vlen ← u32? buf cursor
  if vlen.toNat > maxValueSize then none else
  let value ← slice? buf (cursor + 4) vlen.toNat
  return (vlen, value)

def payload? (buf : Bytes) (cursor : Nat) (msgType : UInt8) : Option CMessagePayload :=
  if msgType = msgPing ∨ msgType = msgPong then some .none
  else if msgType = msgStore then do
    let key ← id? buf cursor
    let (valueLen, value) ← value? buf (cursor + idSize)
    return .store key valueLen value
  else if msgType = msgStoreAck then (u8? buf cursor).map .storeAck
  else if msgType = msgFindNode then (id? buf cursor).map .findNode
  else if msgType = msgFindNodeResp then (contacts? buf cursor).map .findNodeResp
  else if msgType = msgFindValue then (id? buf cursor).map .findValue
  else if msgType = msgFindValueResp then do
    let hasValue ← u8? buf cursor
    if hasValue ≠ 0 then
      let (valueLen, value) ← value? buf (cursor + 1)
      let contacts ← contacts? buf (cursor + 5 + value.length)
      return .findValueResp hasValue valueLen value contacts
    else
      let contacts ← contacts? buf (cursor + 1)
      return .findValueResp hasValue 0 [] contacts
  else none

/-- `ffi_decode_message`. -/
def ffiDecodeMessage (buf : Bytes) : Option CMessage := do
  let msgType ← u8? buf 0
  let requestId ← u64? buf 1
  let senderId ← id? buf 9
  let payload ← payload? buf headerSize msgType
  return { msgType, requestId, senderId, payload }

/-! ## Messages -/

/-- A contact, without the moment it was last seen, which no message carries. -/
structure Contact where
  id : NodeId
  addr : SocketAddr
deriving DecidableEq

inductive RpcPayload where
  | ping
  | pong
  | store (key : NodeId) (value : Bytes)
  | storeAck (ok : Bool)
  | findNode (targetId : NodeId)
  | findNodeResp (contacts : List Contact)
  | findValue (key : NodeId)
  | findValueResp (value : Option Bytes) (contacts : List Contact)
deriving DecidableEq

structure RpcMessage where
  requestId : UInt64
  senderId : NodeId
  payload : RpcPayload
deriving DecidableEq

def contactToC (c : Contact) : CSerializedContact :=
  match c.addr.ip with
  | .v4 o => { id := c.id, ipType := 4, ip := o ++ Vector.replicate 12 (0 : UInt8), port := c.addr.port }
  | .v6 o => { id := c.id, ipType := 6, ip := o, port := c.addr.port }

def cToContact (c : CSerializedContact) : Except String Contact :=
  if c.port = 0 then .error "Port 0 is invalid for contact"
  else if c.ipType = 4 then
    let ip := IpAddr.v4 (c.ip.take 4)
    if ip.isUnspecified || ip.isBroadcast || ip.isMulticast then
      .error ("Unroutable IPv4 address: " ++ ip.display)
    else .ok { id := c.id, addr := { ip, port := c.port } }
  else if c.ipType = 6 then
    let ip := IpAddr.v6 c.ip
    if ip.isUnspecified || ip.isMulticast then .error ("Unroutable IPv6 address: " ++ ip.display)
    else .ok { id := c.id, addr := { ip, port := c.port } }
  else .error ("Invalid ip_type: " ++ toString c.ipType.toNat)

namespace RpcMessage

def tooLarge (value : Bytes) : String :=
  "Value too large: " ++ toString value.length ++ " > " ++ toString maxValueSize

def toCPayload : RpcPayload → Except String (UInt8 × CMessagePayload)
  | .ping => .ok (msgPing, .none)
  | .pong => .ok (msgPong, .none)
  | .store key value =>
    if value.length > maxValueSize then .error (tooLarge value)
    else .ok (msgStore, .store key (UInt32.ofNat value.length) value)
  | .storeAck ok => .ok (msgStoreAck, .storeAck (if ok then 0 else 1))
  | .findNode targetId => .ok (msgFindNode, .findNode targetId)
  | .findNodeResp contacts => .ok (msgFindNodeResp, .findNodeResp ((contacts.take maxContacts).map contactToC))
  | .findValue key => .ok (msgFindValue, .findValue key)
  | .findValueResp (some value) _ =>
    if value.length > maxValueSize then .error (tooLarge value)
    else .ok (msgFindValueResp, .findValueResp 1 (UInt32.ofNat value.length) value [])
  | .findValueResp none contacts =>
    .ok (msgFindValueResp, .findValueResp 0 0 [] ((contacts.take maxContacts).map contactToC))

/-- `to_c_message`. -/
def toCMessage (m : RpcMessage) : Except String CMessage := do
  let (msgType, payload) ← toCPayload m.payload
  return { msgType, requestId := m.requestId, senderId := m.senderId, payload }

def fromCPayload (msgType : UInt8) (payload : CMessagePayload) : Except String RpcPayload :=
  if msgType = msgPing then .ok .ping
  else if msgType = msgPong then .ok .pong
  else if msgType = msgStore then
    match payload with
    | .store key valueLen value =>
      if valueLen.toNat > maxValueSize then .error "Store value len exceeds max" else .ok (.store key value)
    | _ => .error "Mismatched payload for MSG_STORE"
  else if msgType = msgStoreAck then
    match payload with
    | .storeAck status => .ok (.storeAck (status = 0))
    | _ => .error "Mismatched payload for MSG_STORE_ACK"
  else if msgType = msgFindNode then
    match payload with
    | .findNode targetId => .ok (.findNode targetId)
    | _ => .error "Mismatched payload for MSG_FIND_NODE"
  else if msgType = msgFindNodeResp then
    match payload with
    | .findNodeResp contacts => (contacts.mapM cToContact).map .findNodeResp
    | _ => .error "Mismatched payload for MSG_FIND_NODE_RESP"
  else if msgType = msgFindValue then
    match payload with
    | .findValue key => .ok (.findValue key)
    | _ => .error "Mismatched payload for MSG_FIND_VALUE"
  else if msgType = msgFindValueResp then
    match payload with
    | .findValueResp hasValue valueLen value contacts =>
      if hasValue ≠ 0 then
        if valueLen.toNat > maxValueSize then .error "Value len exceeds max"
        else .ok (.findValueResp (some value) [])
      else (contacts.mapM cToContact).map (.findValueResp none)
    | _ => .error "Mismatched payload for MSG_FIND_VALUE_RESP"
  else .error ("Unknown message type: " ++ toString msgType.toNat)

/-- `from_c_message`. -/
def fromCMessage (c : CMessage) : Except String RpcMessage := do
  let payload ← fromCPayload c.msgType c.payload
  return { requestId := c.requestId, senderId := c.senderId, payload }

/-- The buffer `encode` gives the encoder. -/
def estimatedSize : RpcPayload → Nat
  | .store _ value => 64 + value.length
  | .findValueResp (some value) _ => 64 + value.length
  | _ => 1024

def encode (m : RpcMessage) : Except String Bytes := do
  let c ← m.toCMessage
  match ffiEncodeMessage c (estimatedSize m.payload) with
  | some bytes => .ok bytes
  | none => .error "encode_message failed with code -1"

def decode (bytes : Bytes) : Except String RpcMessage :=
  match ffiDecodeMessage bytes with
  | some c => fromCMessage c
  | none => .error "decode_message failed with code -1"

def isResponse (m : RpcMessage) : Bool :=
  match m.payload with
  | .pong | .storeAck _ | .findNodeResp _ | .findValueResp _ _ => true
  | .ping | .store _ _ | .findNode _ | .findValue _ => false

/-! ## Reading a STORE -/

theorem decode_eq_ok {buf : Bytes} {m : RpcMessage} :
    decode buf = .ok m ↔ ∃ c, ffiDecodeMessage buf = some c ∧ fromCMessage c = .ok m := by
  unfold decode
  cases ffiDecodeMessage buf <;> simp

/-- Only a STORE is read as one. -/
theorem fromCPayload_store {msgType : UInt8} {payload : CMessagePayload} {key : NodeId} {value : Bytes}
    (h : fromCPayload msgType payload = .ok (.store key value)) :
    msgType = msgStore ∧ ∃ vlen, payload = .store key vlen value := by
  unfold fromCPayload at h
  by_cases hs : msgType = msgStore
  · subst hs
    rw [if_neg (by decide), if_neg (by decide), if_pos rfl] at h
    split at h
    · split at h
      · cases h
      · cases h
        exact ⟨rfl, _, rfl⟩
    · cases h
  · rw [if_neg hs] at h
    -- no other type gives a STORE
    have hmap : ∀ (contacts : List CSerializedContact) (f : List Contact → RpcPayload),
        (∀ cs, f cs ≠ .store key value) → (contacts.mapM cToContact).map f ≠ .ok (.store key value) := by
      intro contacts f hf hcontra
      cases hm : contacts.mapM cToContact with
      | error e =>
        rw [hm] at hcontra
        cases hcontra
      | ok cs =>
        rw [hm] at hcontra
        exact hf cs (Except.ok.inj hcontra)
    repeat' split at h
    all_goals first
      | cases h
      | exact absurd h (hmap _ _ fun cs hcs => by cases hcs)

/-- Where the parts of a STORE are. -/
theorem decode_store {buf : Bytes} {requestId : UInt64} {senderId key : NodeId} {value : Bytes}
    (h : decode buf = .ok ⟨requestId, senderId, .store key value⟩) :
    u8? buf 0 = some msgStore ∧ id? buf headerSize = some key ∧
      ∃ vlen, u32? buf (headerSize + idSize) = some vlen ∧
        slice? buf (headerSize + idSize + 4) vlen.toNat = some value := by
  obtain ⟨c, hc, hm⟩ := decode_eq_ok.1 h
  unfold fromCMessage at hm
  cases hp : fromCPayload c.msgType c.payload with
  | error e =>
    rw [hp] at hm
    cases hm
  | ok payload =>
    rw [hp] at hm
    have hstore : payload = .store key value := congrArg RpcMessage.payload (Except.ok.inj hm)
    obtain ⟨htype, vlen, hpayload⟩ := fromCPayload_store (hstore ▸ hp)
    unfold ffiDecodeMessage at hc
    simp only [Option.bind_eq_bind, Option.bind_eq_some_iff, Option.pure_def, Option.some.injEq] at hc
    obtain ⟨ty, hty, rid, -, sid, -, pl, hpl, rfl⟩ := hc
    dsimp only at htype hpayload
    subst htype hpayload
    unfold payload? at hpl
    rw [if_neg (by decide), if_pos rfl] at hpl
    simp only [value?, Option.bind_eq_bind, Option.bind_eq_some_iff, Option.pure_def, Option.some.injEq] at hpl
    obtain ⟨k, hk, ⟨len, v⟩, ⟨len', hlen, hv⟩, heq⟩ := hpl
    split at hv
    · cases hv
    · obtain ⟨w, hw, hlv⟩ := Option.bind_eq_some_iff.1 hv
      cases hlv
      cases heq
      exact ⟨hty, hk, _, hlen, hw⟩

end RpcMessage

end NodeX.Kad
