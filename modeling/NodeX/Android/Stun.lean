/-
What the Android phone makes of a packet: a chunk waits for the others, and the message they make is a packet again.
And the endpoint that its presence is signed for (`parseStunResponse`): a response is found by its type and the cookie
of the protocol; that it answers a request of the phone is not asked, where the desktop client asks for it.
-/
import NodeX.Kad.AndroidChunks

namespace NodeX.Android

open NodeX.Lib Kad Kad.P2PTransportEngine

/-! ## Responses -/

theorem size_quad (a b c d : UInt8) : #[a, b, c, d].size = 4 := rfl

/-- The IPv4 address of an attribute with its value at this place, plain or mixed with the cookie. -/
def addressAt (data : Bytes) (value : Nat) (xor : Bool) : SocketAddr :=
  let octet (i : Nat) (key : UInt8) : UInt8 := (data[value + 4 + i]?).getD 0 ^^^ if xor then key else 0
  { ip := .v4 ⟨#[octet 0 0x21, octet 1 0x12, octet 2 0xA4, octet 3 0x42], size_quad _ _ _ _⟩
    port := UInt16.ofNat (unsigned data (value + 2) 2) ^^^ if xor then 0x2112 else 0 }

def attrMappedAddress : Nat := 0x0001

def attrXorMappedAddress : Nat := 0x0020

/-- The loop over the attributes: the first address of IPv4. -/
def attributes (data : Bytes) (stop offset : Nat) : Option SocketAddr :=
  if offset + 4 ≤ stop then
    let attrType := unsigned data offset 2
    let attrLen := unsigned data (offset + 2) 2
    let value := offset + 4
    if stop < value + attrLen then none
    else if (attrType = attrXorMappedAddress ∨ attrType = attrMappedAddress) ∧ 8 ≤ attrLen ∧
        data[value + 1]? = some 0x01 then
      some (addressAt data value (attrType = attrXorMappedAddress))
    else attributes data stop (value + attrLen + if 0 < attrLen % 4 then 4 - attrLen % 4 else 0)
  else none
termination_by stop - offset

def bindingResponse : Nat := 0x0101

def stunMagicCookie : Nat := 0x2112A442

/-- The endpoint that `parseStunResponse` takes. -/
def parseStunResponse (data : Bytes) : Option SocketAddr :=
  if data.length < 20 then none
  else if unsigned data 0 2 ≠ bindingResponse then none
  else if unsigned data 4 4 ≠ stunMagicCookie then none
  else attributes data (min (20 + unsigned data 2 2) data.length) 20

def transactionId (data : Bytes) : Bytes := (data.drop 8).take 12

/-- `StunClient::parse_binding_response` -/
def parseBindingResponse (buf : Bytes) (tid : Vector UInt8 12) : Option SocketAddr :=
  if buf.length < 20 then none
  else if unsigned buf 0 2 ≠ bindingResponse then none
  else if unsigned buf 4 4 ≠ stunMagicCookie ∨ transactionId buf ≠ tid.toList then none
  else attributes buf (min (20 + unsigned buf 2 2) buf.length) 20

/-- The two parsers differ in nothing but the id. -/
theorem parseBindingResponse_eq_some {buf : Bytes} {tid : Vector UInt8 12} {addr : SocketAddr} :
    parseBindingResponse buf tid = some addr ↔ parseStunResponse buf = some addr ∧ transactionId buf = tid.toList := by
  unfold parseBindingResponse parseStunResponse
  split_ifs with hlen htype hboth hmagic hmagic
  · simp
  · simp
  · simp
  · have hid : transactionId buf ≠ tid.toList := hboth.resolve_left fun h => h (not_not.1 hmagic)
    simp [hid]
  · exact absurd (.inl hmagic) hboth
  · have hid : transactionId buf = tid.toList := not_not.1 fun h => hboth (.inr h)
    simp [hid]

/-! ## Packets -/

/-- `NXCK` -/
def isChunk (data : Bytes) : Bool := decide (28 ≤ data.length) && data.take 4 == [0x4E, 0x58, 0x43, 0x4B]

def isStun (data : Bytes) : Bool :=
  decide (20 ≤ data.length) && data.take 2 == [0x01, 0x01] && (data.drop 4).take 4 == [0x21, 0x12, 0xA4, 0x42]

/-- A message that is complete leaves an assembly less, or is shorter than the chunk that brought it. -/
theorem processIncomingChunk_shrinks {crc32 : Bytes → UInt32} {active active' : Assemblies} {data full : Bytes}
    {senderKey : String} {now : Nat}
    (h : processIncomingChunk crc32 active data senderKey now = (active', some full)) :
    active'.list.length < active.list.length ∨
      active'.list.length ≤ active.list.length ∧ full.length < data.length := by
  have hexpired : (removeExpired active now).list.length ≤ active.list.length := List.length_filter_le _ _
  unfold processIncomingChunk at h
  split at h
  · cases h
  dsimp only at h
  split at h
  · cases h
  split at h
  · cases h
  generalize removeExpired active now = fresh at h hexpired
  generalize senderKey ++ ":" ++ bytesToHex ((data.drop 4).take 16) = key at h
  generalize unsigned data 22 2 = count at h
  generalize unsigned data 20 2 = index at h
  unfold addPart at h
  dsimp only at h
  split at h
  · cases h
  split at h
  · cases h
  split at h
  · rename_i hroom hcount hfull
    obtain ⟨rfl, hout⟩ := Prod.mk.inj h
    cases hfound : fresh.get? key with
    | some e =>
      have hperm := (KeyedList.perm_erase hfound).length_eq
      rw [List.length_cons] at hperm
      left
      omega
    | none =>
      have herase : (fresh.erase key).list.length ≤ fresh.list.length := List.eraseP_sublist.length_le
      rw [hfound] at hout hfull
      refine .inr ⟨herase.trans hexpired, ?_⟩
      -- a single part, so the message is its payload
      have hone : count = 1 := hfull.symm
      subst hone
      unfold ChunkAssembly.full at hout
      dsimp only at hout
      split at hout
      · cases hout
      obtain ⟨parts, hparts, rfl⟩ := Option.map_eq_some_iff.1 hout
      obtain ⟨part, hpart, hrest⟩ := Option.bind_eq_some_iff.1 hparts
      obtain rfl : [part] = parts := Option.some.inj hrest
      obtain ⟨p, hp, rfl⟩ := Option.map_eq_some_iff.1 hpart
      rcases mem_upsert Prod.fst (KeyedList.mem_of_get? hp) with rfl | hmem
      · simp only [List.flatten_cons, List.flatten_nil, List.append_nil, List.length_drop]
        omega
      · cases hmem
  · cases h

/-- What a packet holds in the end: a chunk waits for the others, and the message they make is a packet again. -/
def unwrap (crc32 : Bytes → UInt32) (active : Assemblies) (data : Bytes) (senderKey : String) (now : Nat) :
    Assemblies × Option Bytes :=
  if isChunk data then
    match _h : processIncomingChunk crc32 active data senderKey now with
    | (active', some full) => unwrap crc32 active' full senderKey now
    | (active', none) => (active', none)
  else (active, some data)
termination_by (active.list.length, data.length)
decreasing_by
  rcases processIncomingChunk_shrinks _h with hless | ⟨hle, hless⟩
  · exact Prod.Lex.left _ _ hless
  · rcases hle.lt_or_eq with hlt | heq
    · exact Prod.Lex.left _ _ hlt
    · rw [heq]
      exact Prod.Lex.right _ hless

/-! ## Calls within calls -/

/-- What `handleIncomingPacket` takes a packet for, in the order of its tests. -/
inductive PacketKind where
  | empty
  | attachmentAck
  | attachment
  | callAudio
  | chunk
  | stun
  | message
deriving DecidableEq

def packetKind (data : Bytes) : PacketKind :=
  if data.isEmpty then .empty
  else if 8 ≤ data.length ∧ data.take 4 = [0x4E, 0x58, 0x41, 0x41] then .attachmentAck
  else if 4 ≤ data.length ∧ data.take 4 = [0x4E, 0x58, 0x41, 0x54] then .attachment
  else if 4 ≤ data.length ∧ data.take 4 = [0x4E, 0x58, 0x43, 0x41] then .callAudio
  else if isChunk data then .chunk
  else if isStun data then .stun
  else .message

theorem packetKind_eq_chunk_iff (data : Bytes) : packetKind data = .chunk ↔ isChunk data = true := by
  constructor
  · intro h
    unfold packetKind at h
    split_ifs at h with _ _ _ _ hchunk
    exact hchunk
  · intro h
    have hmagic : 28 ≤ data.length ∧ data.take 4 = [0x4E, 0x58, 0x43, 0x4B] := by
      unfold isChunk at h
      simpa using h
    have hne : ¬data.isEmpty = true := by
      rintro hempty
      rw [List.isEmpty_iff.1 hempty] at hmagic
      exact absurd hmagic.1 (by decide)
    unfold packetKind
    rw [if_neg hne, if_neg, if_neg, if_neg, if_pos h]
    all_goals
      rintro ⟨-, hother⟩
      rw [hmagic.2] at hother
      exact absurd hother (by decide)

/-- A call of `handleIncomingPacket`: the assemblies it finds, its packet, and what the clock says. -/
structure PacketCall where
  active : Assemblies
  data : Bytes
  now : Nat

namespace PacketCall

variable {crc32 : Bytes → UInt32} {senderKey : String} {c c' : PacketCall}

/-- The call hands its packet to `processIncomingChunk`, and the message that comes of it to another call. -/
def Nests (crc32 : Bytes → UInt32) (senderKey : String) (c c' : PacketCall) : Prop :=
  packetKind c.data = .chunk ∧ processIncomingChunk crc32 c.active c.data senderKey c.now = (c'.active, some c'.data)

theorem length_le_of_processIncomingChunk {active active' : Assemblies} {data full : Bytes} {now : Nat}
    (h : processIncomingChunk crc32 active data senderKey now = (active', some full)) : data.length ≤ 528 := by
  unfold processIncomingChunk at h
  split at h
  · cases h
  dsimp only at h
  split at h
  · cases h
  · rename_i hchecks
    push Not at hchecks
    exact hchecks.2.2

/-- What a call has left: its assemblies, and the bytes of its packet as far as a chunk can have them. -/
def weight (c : PacketCall) : Nat := 529 * c.active.list.length + min c.data.length 528

theorem Nests.weight_lt (h : Nests crc32 senderKey c c') : c'.weight < c.weight := by
  have hlen := length_le_of_processIncomingChunk h.2
  unfold weight
  rcases processIncomingChunk_shrinks h.2 with hless | ⟨hle, hless⟩
  · omega
  · omega

theorem wellFounded_nests (crc32 : Bytes → UInt32) (senderKey : String) :
    WellFounded fun c' c => Nests crc32 senderKey c c' :=
  Subrelation.wf (fun h => h.weight_lt) (measure weight).wf

/-- Of calls each within the one before, there are no more than the first one has left. -/
theorem length_le_weight {cs : List PacketCall} (h : List.IsChain (Nests crc32 senderKey) (c :: cs)) :
    cs.length ≤ c.weight := by
  induction cs generalizing c with
  | nil => exact Nat.zero_le _
  | cons d cs ih =>
    obtain ⟨hfirst, hrest⟩ := List.isChain_cons_cons.1 h
    have hlen := ih hrest
    have hlt := hfirst.weight_lt
    rw [List.length_cons]
    omega

/-- Whatever the packets and the assemblies are, and whatever the clock says to each call: a call within a call has a
shorter packet or finds fewer assemblies, calls within calls come to an end, and there are at most so many of them. -/
theorem nested_calls_end (crc32 : Bytes → UInt32) (senderKey : String) :
    (∀ c c', Nests crc32 senderKey c c' →
      c'.data.length < c.data.length ∨ c'.active.list.length < c.active.list.length) ∧
    (WellFounded fun c' c => Nests crc32 senderKey c c') ∧
    ∀ c cs, List.IsChain (Nests crc32 senderKey) (c :: cs) → cs.length ≤ 529 * c.active.list.length + 528 := by
  refine ⟨fun c c' h => ?_, wellFounded_nests crc32 senderKey, fun c cs h => ?_⟩
  · rcases processIncomingChunk_shrinks h.2 with hless | ⟨-, hless⟩
    · exact .inr hless
    · exact .inl hless
  · have hweight := length_le_weight h
    unfold weight at hweight
    omega

/-- `unwrap` is what the last of the calls has, where the clock says the same to all of them. -/
theorem exists_chain_unwrap (crc32 : Bytes → UInt32) (active : Assemblies) (data : Bytes) (senderKey : String)
    (now : Nat) {message : Bytes} (h : (unwrap crc32 active data senderKey now).2 = some message) :
    ∃ cs : List PacketCall, List.IsChain (Nests crc32 senderKey) (⟨active, data, now⟩ :: cs) ∧
      ((⟨active, data, now⟩ : PacketCall) :: cs).getLast? =
        some ⟨(unwrap crc32 active data senderKey now).1, message, now⟩ := by
  fun_induction unwrap crc32 active data senderKey now with
  | case1 active data hchunk active' full hstep ih =>
    obtain ⟨cs, hchain, hlast⟩ := ih h
    refine ⟨⟨active', full, now⟩ :: cs, List.isChain_cons_cons.2 ⟨⟨?_, hstep⟩, hchain⟩, ?_⟩
    · exact (packetKind_eq_chunk_iff data).2 hchunk
    · rw [List.getLast?_cons_cons]
      exact hlast
  | case2 active data hchunk active' hstep => cases h
  | case3 active data hchunk =>
    obtain rfl := Option.some.inj h
    exact ⟨[], List.isChain_singleton _, rfl⟩

end PacketCall

/-! ## Datagrams -/

/-- What comes from a source, and when. -/
structure Incoming where
  data : Bytes
  senderKey : String
  now : Nat

structure Transport where
  myPublicEndpoint : String := ""
  activeAssemblies : Assemblies := ∅

namespace Transport

variable (crc32 : Bytes → UInt32) (stunTransactionId : Vector UInt8 12)

/-- The response that a datagram brings. -/
def response (s : Transport) (a : Incoming) : Option Bytes :=
  (unwrap crc32 s.activeAssemblies a.data a.senderKey a.now).2.filter isStun

/-- `handleIncomingPacket`; packets of other kinds leave the endpoint as it is. -/
def handleIncomingPacket (s : Transport) (a : Incoming) : Transport :=
  let activeAssemblies := (unwrap crc32 s.activeAssemblies a.data a.senderKey a.now).1
  match (s.response crc32 a).bind parseStunResponse with
  | some addr => { activeAssemblies, myPublicEndpoint := addr.display }
  | none => { s with activeAssemblies }

/-- The request that `sendStunBindingRequest` sends. -/
def bindingRequest : Bytes := [0x00, 0x01, 0x00, 0x00, 0x21, 0x12, 0xA4, 0x42] ++ stunTransactionId.toList

/-- The address that `publishPresence` signs. -/
def presenceAddr (s : Transport) (localPort : Nat) : String :=
  if s.myPublicEndpoint.isEmpty then "0.0.0.0:" ++ toString localPort else s.myPublicEndpoint

/-- The endpoint changes only for an answer to a request. -/
def AnswersOnly (s : Transport) (a : Incoming) : Prop :=
  (s.handleIncomingPacket crc32 a).myPublicEndpoint ≠ s.myPublicEndpoint →
    ∃ data ∈ s.response crc32 a, transactionId data = (bindingRequest stunTransactionId).drop 8

/-- A response that names another endpoint has the id of the requests. -/
def Asked (s : Transport) (a : Incoming) : Prop :=
  ∀ data ∈ s.response crc32 a, ∀ addr ∈ parseStunResponse data, addr.display ≠ s.myPublicEndpoint →
    transactionId data = stunTransactionId.toList

variable {crc32 stunTransactionId}

theorem drop_bindingRequest : (bindingRequest stunTransactionId).drop 8 = stunTransactionId.toList := rfl

theorem answersOnly_iff (s : Transport) (a : Incoming) :
    AnswersOnly crc32 stunTransactionId s a ↔ Asked crc32 stunTransactionId s a := by
  unfold AnswersOnly Asked handleIncomingPacket
  rw [drop_bindingRequest]
  cases hresponse : s.response crc32 a with
  | none => simp
  | some data =>
    rw [Option.bind_some]
    cases hparse : parseStunResponse data with
    | none => simp [hparse]
    | some addr => simp [hparse]

/-- From any sources: the endpoint changes only for answers to the phone's requests exactly if every response that
names another endpoint has their id. -/
theorem run_answersOnly_iff (crc32 : Bytes → UInt32) (stunTransactionId : Vector UInt8 12) (s : Transport)
    (as : List Incoming) :
    Steps (handleIncomingPacket crc32) (AnswersOnly crc32 stunTransactionId) s as ↔
      Steps (handleIncomingPacket crc32) (Asked crc32 stunTransactionId) s as :=
  steps_congr answersOnly_iff s as

/-! ## A response of a stranger -/

namespace Stranger

/-- A response to nobody, with an address in it. -/
def reply : Bytes :=
  [0x01, 0x01, 0, 12, 0x21, 0x12, 0xA4, 0x42] ++ List.replicate 12 0 ++ [0, 1, 0, 8, 0, 1, 0x23, 0x28, 203, 0, 113, 9]

theorem parseStunResponse_reply : parseStunResponse reply = some (addressAt reply 24 false) := by
  unfold parseStunResponse
  rw [if_neg (by decide), if_neg (by decide), if_neg (by decide), attributes, if_pos (by decide)]
  dsimp only
  rw [if_neg (by decide), if_pos (by decide)]
  decide +kernel

theorem response_reply (crc32 : Bytes → UInt32) (senderKey : String) (now : Nat) :
    ({} : Transport).response crc32 ⟨reply, senderKey, now⟩ = some reply := by
  have hchunk : ¬isChunk reply = true := by decide
  unfold Transport.response
  rw [unwrap, if_neg hchunk]
  rfl

end Stranger

open Stranger in
/-- The phone takes an address that a stranger made up. -/
theorem run_answersOnly_stranger :
    ¬∀ (crc32 : Bytes → UInt32) (stunTransactionId : Vector UInt8 12) (as : List Incoming),
    Steps (handleIncomingPacket crc32) (AnswersOnly crc32 stunTransactionId) {} as := by
  intro h
  have hstep := (h (fun _ => 0) (Vector.replicate 12 7) [⟨reply, "198.51.100.7:3478", 0⟩]).1
  have hchanged : (({} : Transport).handleIncomingPacket (fun _ => 0)
      ⟨reply, "198.51.100.7:3478", 0⟩).myPublicEndpoint = "203.0.113.9:9000" := by
    unfold handleIncomingPacket
    rw [response_reply, Option.bind_some, parseStunResponse_reply]
    decide
  obtain ⟨data, hdata, hid⟩ := hstep (by rw [hchanged]; decide)
  rw [response_reply] at hdata
  cases hdata
  exact absurd hid (by decide)

end Transport

end NodeX.Android
