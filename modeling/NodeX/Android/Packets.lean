/-
The RPC packets of `P2PTransportEngine.kt`, which the Android client writes and reads with code of its own, against the
codec of the other nodes. A Long and its eight bytes are one request id here.
-/
import NodeX.Android.Envelopes
import NodeX.Android.Stun
import NodeX.Kad.Mailbox
import NodeX.Kad.Replies

namespace NodeX.Android

open NodeX.Lib Messenger AndroidMessageCrypto Kad Kad.P2PTransportEngine

namespace Packets

/-! ## Writing -/

variable (K : Kotlin) (localNodeIdHex : String)

/-- The type, the request id and the own id in front of every packet. -/
def header (msgType : UInt8) (reqId : UInt64) : Bytes :=
  [msgType] ++ toBe 8 reqId.toNat ++ looseHexToBytes K localNodeIdHex 20

/-- `sendKeepAlivePing` and `sendDirectPingTo` -/
def pingPacket (reqId : UInt64) : Bytes := header K localNodeIdHex msgPing reqId

/-- `sendPong` -/
def pongPacket (reqId : UInt64) : Bytes := header K localNodeIdHex msgPong reqId

/-- `sendStoreAck` -/
def storeAckPacket (reqId : UInt64) : Bytes := header K localNodeIdHex msgStoreAck reqId ++ [0]

/-- `sendFindValue`; the keys are of twenty bytes. -/
def findValuePacket (reqId : UInt64) (key : NodeId) : Bytes := header K localNodeIdHex msgFindValue reqId ++ key.bytes

/-- `buildStorePacketWithKeyBytes` -/
def storePacket (reqId : UInt64) (key : NodeId) (valueBytes : Bytes) : Bytes :=
  header K (clean K localNodeIdHex) msgStore reqId ++ key.bytes ++ toBe 4 valueBytes.length ++ valueBytes

/-! ## Reading -/

/-- What a packet asks of the client or tells it. -/
inductive Packet where
  | ping (reqId : UInt64)
  | pong
  | store (reqId : UInt64) (senderHex : String) (valueBytes : Bytes)
  | missing (reqId : UInt64)
  | found (senderHex : String) (valueBytes : Bytes)
  | nothing
deriving DecidableEq

def reqIdOf (data : Bytes) : UInt64 := UInt64.ofNat (beNat ((data.drop 1).take 8))

def senderHexOf (data : Bytes) : String := bytesToHex ((data.drop 9).take 20)

/-- A length, negative ones taken as zero, and that many bytes. Where their end is not an Int, something is thrown. -/
def valueFrom (data : Bytes) (i : Nat) : Option Bytes :=
  let valueLen := (Int.bmod (unsigned data i 4) (2 ^ 32)).toNat
  if i + 4 + valueLen < 2 ^ 31 ∧ i + 4 + valueLen ≤ data.length then some ((data.drop (i + 4)).take valueLen) else none

/-- The branches of `handleIncomingPacket` by the type of the message. -/
def readPacket (data : Bytes) : Packet :=
  if data.head? = some msgPing then
    if 9 ≤ data.length then .ping (reqIdOf data) else .nothing
  else if data.head? = some msgPong then .pong
  else if data.head? = some msgStore then
    if 53 ≤ data.length then
      if K.sameIgnoringCase (senderHexOf data) localNodeIdHex then .nothing
      else
        match valueFrom data 49 with
        | some valueBytes => .store (reqIdOf data) (senderHexOf data) valueBytes
        | none => .nothing
    else .nothing
  else if data.head? = some msgFindValueResp then
    if 30 ≤ data.length then
      if data.getD 29 0 = 0 then .missing (reqIdOf data)
      else if 34 ≤ data.length then
        match valueFrom data 30 with
        | some valueBytes => .found (senderHexOf data) valueBytes
        | none => .nothing
      else .nothing
    else .nothing
  else .nothing

/-- `handleIncomingPacket`, where a packet is taken for a message of the table. -/
def takePacket (data : Bytes) : Option Packet :=
  if packetKind data = .message then some (readPacket K localNodeIdHex data) else none

/-! ## The own id -/

/-- What is relied on: the text of an id is lower case, and its digits are read in pairs. -/
structure ReadsHex : Prop where
  lowercase : ∀ bs : Bytes, K.lowercase (hexString bs) = hexString bs
  toInt16 : ∀ b : UInt8, K.toInt16 (String.ofList [hexDigit (b >>> 4), hexDigit (b &&& 15)]) = some b.toNat

variable {K} {localNodeIdHex}

theorem ReadsHex.clean (h : ReadsHex K) (bs : Bytes) : Android.clean K (hexString bs) = hexString bs := by
  unfold Android.clean
  rw [kotlinTrim_hexString, h.lowercase]

theorem ofInt_toNat (b : UInt8) : UInt8.ofInt b.toNat = b := by
  have hlt := b.toNat_lt
  rw [UInt8.ofInt, Int.emod_eq_of_lt (by omega) (by omega)]
  simp

theorem pieces_hexString : ∀ bs : Bytes, pieces 2 bs.length (hexString bs).toList =
    bs.map fun (b : UInt8) => [hexDigit (b >>> 4), hexDigit (b &&& 15)]
  | [] => rfl
  | b :: bs => by
    rw [toList_hexString_cons, List.length_cons, pieces]
    exact congrArg (_ :: ·) (pieces_hexString bs)

theorem mapM_digits (h : ReadsHex K) : ∀ bs : Bytes,
    (bs.map fun (b : UInt8) => [hexDigit (b >>> 4), hexDigit (b &&& 15)]).mapM
      (fun d => (K.toInt16 (String.ofList d)).map UInt8.ofInt) = some bs
  | [] => rfl
  | b :: bs => by
    rw [List.map_cons, List.mapM_cons, h.toInt16, mapM_digits h bs]
    show some (UInt8.ofInt b.toNat :: bs) = _
    rw [ofInt_toNat]

theorem ReadsHex.looseHexToBytes (h : ReadsHex K) (id : NodeId) : looseHexToBytes K id.toHex 20 = id.bytes := by
  have hread : (chunked 2 (hexString id.bytes).toList).mapM
      (fun d => (K.toInt16 (String.ofList d)).map UInt8.ofInt) = some id.bytes := by
    have hcount : (2 * id.bytes.length + 2 - 1) / 2 = id.bytes.length := by omega
    unfold chunked
    rw [length_hexString, hcount, pieces_hexString, mapM_digits h]
  have hhex : id.toHex = hexString id.bytes := rfl
  unfold Android.looseHexToBytes
  dsimp only
  rw [hhex, h.clean, hread, Option.getD_some, id.size, Nat.sub_self, List.replicate_zero, List.append_nil,
    List.take_of_length_le id.size.le]

/-! ## What a node reads -/

theorem ReadsHex.header (h : ReadsHex K) (me : NodeId) (msgType : UInt8) (reqId : UInt64) :
    Packets.header K me.toHex msgType reqId = [msgType] ++ toBe 8 reqId.toNat ++ me.bytes := by
  unfold Packets.header
  rw [h.looseHexToBytes]

/-- A packet that is laid out as the codec lays out these fields. -/
theorem decode_of_onWire {msgType : UInt8} {fields : CMessagePayload} {bytes : Bytes} {payload : RpcPayload}
    (hwire : OnWire msgType fields bytes) (hread : RpcMessage.fromCPayload msgType fields = .ok payload)
    (requestId : UInt64) (senderId : NodeId) :
    RpcMessage.decode ([msgType] ++ toBe 8 requestId.toNat ++ senderId.bytes ++ bytes) =
      .ok { requestId, senderId, payload } := by
  rw [RpcMessage.decode_eq_ok]
  refine ⟨_, ffiDecodeMessage_of_onWire hwire, ?_⟩
  unfold RpcMessage.fromCMessage
  rw [hread]
  rfl

theorem decode_findValuePacket (h : ReadsHex K) (me : NodeId) (reqId : UInt64) (key : NodeId) :
    RpcMessage.decode (findValuePacket K me.toHex reqId key) = .ok ⟨reqId, me, .findValue key⟩ := by
  unfold findValuePacket
  rw [h.header]
  exact decode_of_onWire (.findValue key) rfl reqId me

/-- What the client writes is read by every node as what it is meant to be, with the id of the client; a value is
taken up to the limit. -/
theorem packets_decode (h : ReadsHex K) (me : NodeId) (reqId : UInt64) :
    RpcMessage.decode (pingPacket K me.toHex reqId) = .ok ⟨reqId, me, .ping⟩ ∧
      RpcMessage.decode (pongPacket K me.toHex reqId) = .ok ⟨reqId, me, .pong⟩ ∧
      RpcMessage.decode (storeAckPacket K me.toHex reqId) = .ok ⟨reqId, me, .storeAck true⟩ ∧
      (∀ key, RpcMessage.decode (findValuePacket K me.toHex reqId key) = .ok ⟨reqId, me, .findValue key⟩) ∧
      ∀ key valueBytes,
        RpcMessage.decode (storePacket K me.toHex reqId key valueBytes) = .ok ⟨reqId, me, .store key valueBytes⟩ ↔
          valueBytes.length ≤ maxValueSize := by
  have hempty : ∀ l : Bytes, l = l ++ [] := fun l => (List.append_nil l).symm
  have hclean : clean K me.toHex = me.toHex := h.clean me.bytes
  refine ⟨?_, ?_, ?_, ?_, ?_⟩
  · unfold pingPacket
    rw [h.header, hempty (_ ++ me.bytes)]
    exact decode_of_onWire ⟨rfl, fun _ _ => rfl⟩ rfl reqId me
  · unfold pongPacket
    rw [h.header, hempty (_ ++ me.bytes)]
    exact decode_of_onWire ⟨rfl, fun _ _ => rfl⟩ rfl reqId me
  · unfold storeAckPacket
    rw [h.header]
    exact decode_of_onWire (.storeAck 0) rfl reqId me
  · exact decode_findValuePacket h me reqId
  · intro key valueBytes
    constructor
    · intro hdec
      exact (RpcMessage.withinLimits_of_decode hdec).1
    · intro hlen
      have hread : RpcMessage.fromCPayload msgStore
          (.store key (UInt32.ofNat valueBytes.length) valueBytes) = .ok (.store key valueBytes) := by
        show (if (UInt32.ofNat valueBytes.length).toNat > maxValueSize then _ else _) = _
        rw [toNat_valueLen hlen, if_neg (by omega)]
      unfold storePacket
      rw [hclean, h.header, List.append_assoc (_ ++ me.bytes ++ key.bytes), List.append_assoc (_ ++ me.bytes)]
      exact decode_of_onWire (.store key hlen) hread reqId me

/-! ## What the client reads -/

/-- A request id whose bytes are where the type, the class and the cookie of a STUN response are. -/
def looksLikeStun (requestId : UInt64) : Bool :=
  (toBe 8 requestId.toNat).take 1 == [0x01] && ((toBe 8 requestId.toNat).drop 3).take 4 == [0x21, 0x12, 0xA4, 0x42]

/-- What a message of a node is to the client. -/
def expected (K : Kotlin) (localNodeIdHex : String) (m : RpcMessage) : Packet :=
  match m.payload with
  | .ping => .ping m.requestId
  | .pong => .pong
  | .store _ value =>
    if K.sameIgnoringCase m.senderId.toHex localNodeIdHex then .nothing
    else .store m.requestId m.senderId.toHex value
  | .findValueResp (some value) _ => .found m.senderId.toHex value
  | .findValueResp none _ => .missing m.requestId
  | .storeAck _ | .findNode _ | .findNodeResp _ | .findValue _ => .nothing

theorem exists_toBe_eight (n : Nat) : ∃ a b c d e f g i, toBe 8 n = [a, b, c, d, e, f, g, i] :=
  ⟨_, _, _, _, _, _, _, _, rfl⟩

theorem isStun_header {msgType : UInt8} {requestId : UInt64} {rest : Bytes} (hlen : 11 ≤ rest.length) :
    isStun ([msgType] ++ toBe 8 requestId.toNat ++ rest) = (msgType == 1 && looksLikeStun requestId) := by
  obtain ⟨a, b, c, d, e, f, g, i, hbytes⟩ := exists_toBe_eight requestId.toNat
  have hsize : decide (20 ≤ ([msgType] ++ [a, b, c, d, e, f, g, i] ++ rest).length) = true := by
    simp only [List.length_append, List.length_cons, List.length_nil, decide_eq_true_eq]
    omega
  unfold isStun looksLikeStun
  rw [hbytes, hsize]
  simp [Bool.and_assoc]

/-- What does not begin with the first letter of a magic is a message, or a STUN response. -/
theorem packetKind_cons {b : UInt8} (hb : b ≠ 0x4E) (l : Bytes) :
    packetKind (b :: l) = if isStun (b :: l) = true then .stun else .message := by
  have hmagic : ∀ x y z, (b :: l).take 4 ≠ [0x4E, x, y, z] := by
    intro x y z h
    exact hb (List.cons.inj h).1
  have hchunk : isChunk (b :: l) = false := by
    unfold isChunk
    rw [Bool.and_eq_false_iff]
    right
    simpa using hmagic 0x58 0x43 0x4B
  unfold packetKind
  rw [if_neg (by simp), if_neg fun h => hmagic _ _ _ h.2, if_neg fun h => hmagic _ _ _ h.2,
    if_neg fun h => hmagic _ _ _ h.2, if_neg (by rw [hchunk]; exact Bool.false_ne_true)]

/-- Only a PING can be taken for something else. -/
theorem packetKind_header {msgType : UInt8} {requestId : UInt64} {rest : Bytes} (htype : msgType ≠ 0x4E)
    (hlen : 11 ≤ rest.length) :
    packetKind ([msgType] ++ toBe 8 requestId.toNat ++ rest) =
      if msgType = msgPing ∧ looksLikeStun requestId = true then .stun else .message := by
  have hstun := @isStun_header msgType requestId rest hlen
  have hkind := packetKind_cons htype (toBe 8 requestId.toNat ++ rest)
  rw [← List.cons_append, ← List.singleton_append, hstun] at hkind
  rw [hkind]
  exact if_congr (by simp [msgPing]) rfl rfl

section Layout

variable {msgType : UInt8} {requestId : UInt64} {senderId : NodeId} {fields : Bytes}

theorem reqIdOf_header : reqIdOf ([msgType] ++ toBe 8 requestId.toNat ++ senderId.bytes ++ fields) = requestId := by
  have hbytes : (([msgType] ++ toBe 8 requestId.toNat ++ senderId.bytes ++ fields).drop 1).take 8 =
      toBe 8 requestId.toNat := by
    rw [List.append_assoc, List.append_assoc]
    exact List.take_left' (length_toBe 8 _)
  unfold reqIdOf
  rw [hbytes, beNat_toBe, Nat.mod_eq_of_lt (show requestId.toNat < 256 ^ 8 from requestId.toNat_lt)]
  exact UInt64.ofNat_toNat

theorem senderHexOf_header :
    senderHexOf ([msgType] ++ toBe 8 requestId.toNat ++ senderId.bytes ++ fields) = senderId.toHex := by
  have hfront : ([msgType] ++ toBe 8 requestId.toNat).length = 9 := by
    rw [List.length_append, length_toBe, List.length_singleton]
  have hbytes : (([msgType] ++ toBe 8 requestId.toNat ++ senderId.bytes ++ fields).drop 9).take 20 =
      senderId.bytes := by
    rw [List.append_assoc, List.drop_left' hfront, List.take_left' senderId.size]
  unfold senderHexOf
  rw [hbytes]
  rfl

theorem length_header :
    ([msgType] ++ toBe 8 requestId.toNat ++ senderId.bytes).length = 29 := by
  rw [List.length_append, List.length_append, length_toBe, List.length_singleton, senderId.size]

/-- A value of a size that nodes send, behind anything. -/
theorem valueFrom_append {front value back : Bytes} {i : Nat} (hfront : front.length = i) (hi : i ≤ 49)
    (hlen : value.length ≤ maxValueSize) :
    valueFrom (front ++ (toBe 4 value.length ++ value ++ back)) i = some value := by
  have hmax : maxValueSize = 65536 := rfl
  have hread : unsigned (front ++ (toBe 4 value.length ++ value ++ back)) i 4 = value.length := by
    unfold unsigned
    rw [List.drop_left' hfront, List.append_assoc, List.take_left' (length_toBe 4 _), beNat_toBe,
      Nat.mod_eq_of_lt (by omega)]
  have hint : (Int.bmod (value.length : Int) (2 ^ 32)).toNat = value.length := by
    rw [Int.bmod_eq_of_le (by omega) (by omega), Int.toNat_natCast]
  have hdrop : ((front ++ (toBe 4 value.length ++ value ++ back)).drop (i + 4)).take value.length = value := by
    rw [← List.drop_drop, List.drop_left' hfront, List.append_assoc, List.drop_left' (length_toBe 4 _),
      List.take_left' rfl]
  unfold valueFrom
  simp only [hread, hint, hdrop]
  rw [if_pos]
  simp only [List.length_append, length_toBe, hfront]
  omega

end Layout

/-- How a message lies in the bytes that `encode` makes of it. -/
theorem layout_of_encode {m : RpcMessage} {bytes : Bytes} (h : m.encode = .ok bytes) : ∃ msgType fields payload,
    RpcMessage.toCPayload m.payload = .ok (msgType, fields) ∧ encodePayload msgType fields = some payload ∧
      bytes = [msgType] ++ toBe 8 m.requestId.toNat ++ m.senderId.bytes ++ payload := by
  cases hfields : RpcMessage.toCPayload m.payload with
  | error e =>
    unfold RpcMessage.encode RpcMessage.toCMessage at h
    rw [hfields] at h
    cases h
  | ok p =>
    obtain ⟨msgType, fields⟩ := p
    have henc := (RpcMessage.encode_eq_ok hfields).1 h
    unfold ffiEncodeMessage at henc
    obtain ⟨payload, hpayload, hroom⟩ := Option.bind_eq_some_iff.1 henc
    dsimp only at hroom
    split at hroom
    · exact ⟨msgType, fields, payload, rfl, hpayload, (Option.some.inj hroom).symm⟩
    · cases hroom

theorem type_of_toCPayload {p : RpcPayload} {msgType : UInt8} {fields : CMessagePayload}
    (h : RpcMessage.toCPayload p = .ok (msgType, fields)) :
    msgType ≠ 0x4E ∧ (msgType = msgPing ↔ p = .ping) := by
  cases p with
  | ping =>
    cases h
    exact ⟨by decide, iff_of_true rfl rfl⟩
  | store key value =>
    obtain ⟨-, h⟩ := RpcPayload.of_not_tooLarge h
    cases h
    exact ⟨by decide, iff_of_false (by decide) (by simp)⟩
  | findValueResp value contacts =>
    cases value with
    | none =>
      cases h
      exact ⟨by decide, iff_of_false (by decide) (by simp)⟩
    | some value =>
      obtain ⟨-, h⟩ := RpcPayload.of_not_tooLarge h
      cases h
      exact ⟨by decide, iff_of_false (by decide) (by simp)⟩
  | _ =>
    cases h
    exact ⟨by decide, iff_of_false (by decide) (by simp)⟩

/-- The type of a message and what follows its header. -/
theorem readPacket_encode {m : RpcMessage} {bytes : Bytes} (h : m.encode = .ok bytes) :
    readPacket K localNodeIdHex bytes = expected K localNodeIdHex m := by
  obtain ⟨msgType, fields, payload, hfields, hpayload, rfl⟩ := layout_of_encode h
  have hid : ∀ ty rest, reqIdOf ([ty] ++ toBe 8 m.requestId.toNat ++ m.senderId.bytes ++ rest) = m.requestId :=
    fun _ _ => reqIdOf_header
  have hsender : ∀ ty rest, senderHexOf ([ty] ++ toBe 8 m.requestId.toNat ++ m.senderId.bytes ++ rest) =
      m.senderId.toHex := fun _ _ => senderHexOf_header
  have hhead : ([msgType] ++ toBe 8 m.requestId.toNat ++ m.senderId.bytes ++ payload).head? = some msgType := rfl
  have hsize : ([msgType] ++ toBe 8 m.requestId.toNat ++ m.senderId.bytes ++ payload).length =
      29 + payload.length := by rw [List.length_append, length_header]
  unfold readPacket
  rw [hhead, hid, hsender, hsize]
  unfold expected
  cases hm : m.payload with
  | ping =>
    rw [hm] at hfields
    cases hfields
    rw [if_pos rfl, if_pos (by omega)]
  | pong =>
    rw [hm] at hfields
    cases hfields
    rw [if_neg (by decide), if_pos rfl]
  | store key value =>
    rw [hm] at hfields
    simp only [RpcMessage.toCPayload] at hfields
    split at hfields
    · cases hfields
    · rename_i hlen
      cases hfields
      have hlen : value.length ≤ maxValueSize := by omega
      obtain rfl : key.bytes ++ encodeValue (UInt32.ofNat value.length) value = payload := Option.some.inj hpayload
      have hvalue : valueFrom ([msgStore] ++ toBe 8 m.requestId.toNat ++ m.senderId.bytes ++
          (key.bytes ++ (toBe 4 value.length ++ value))) 49 = some value := by
        have hfront : ([msgStore] ++ toBe 8 m.requestId.toNat ++ m.senderId.bytes ++ key.bytes).length = 49 := by
          rw [List.length_append, length_header, key.size]
        have happend := @valueFrom_append _ _ [] 49 hfront (by omega) hlen
        rwa [List.append_nil, List.append_assoc] at happend
      have hroom : 53 ≤ 29 + (key.bytes ++ encodeValue (UInt32.ofNat value.length) value).length := by
        rw [encodeValue_eq hlen, List.length_append, List.length_append, length_toBe, key.size]
        omega
      rw [if_neg (by decide), if_neg (by decide), if_pos rfl, if_pos hroom, encodeValue_eq hlen, hvalue]
  | storeAck ok =>
    rw [hm] at hfields
    cases hfields
    rw [if_neg (by decide), if_neg (by decide), if_neg (by decide), if_neg (by decide)]
  | findNode targetId =>
    rw [hm] at hfields
    cases hfields
    rw [if_neg (by decide), if_neg (by decide), if_neg (by decide), if_neg (by decide)]
  | findNodeResp contacts =>
    rw [hm] at hfields
    cases hfields
    rw [if_neg (by decide), if_neg (by decide), if_neg (by decide), if_neg (by decide)]
  | findValue key =>
    rw [hm] at hfields
    cases hfields
    rw [if_neg (by decide), if_neg (by decide), if_neg (by decide), if_neg (by decide)]
  | findValueResp value contacts =>
    rw [hm] at hfields
    have hat : ∀ rest : Bytes, ([msgFindValueResp] ++ toBe 8 m.requestId.toNat ++ m.senderId.bytes ++
        rest).getD 29 0 = rest[0]?.getD 0 := by
      intro rest
      rw [List.getD_eq_getElem?_getD, List.getElem?_append_right (by rw [length_header]), length_header]
    cases value with
    | none =>
      cases hfields
      obtain rfl : 0 :: encodeContacts ((contacts.take maxContacts).map contactToC) = payload :=
        Option.some.inj hpayload
      rw [if_neg (by decide), if_neg (by decide), if_neg (by decide), if_pos rfl,
        if_pos (by rw [List.length_cons]; omega), hat]
      rfl
    | some value =>
      simp only [RpcMessage.toCPayload] at hfields
      split at hfields
      · cases hfields
      · rename_i hlen
        cases hfields
        have hlen : value.length ≤ maxValueSize := by omega
        obtain rfl : 1 :: encodeValue (UInt32.ofNat value.length) value ++ encodeContacts [] = payload :=
          Option.some.inj hpayload
        have hvalue : valueFrom ([msgFindValueResp] ++ toBe 8 m.requestId.toNat ++ m.senderId.bytes ++
            (1 :: (toBe 4 value.length ++ value) ++ encodeContacts [])) 30 = some value := by
          have hfront : ([msgFindValueResp] ++ toBe 8 m.requestId.toNat ++ m.senderId.bytes ++ [1]).length = 30 := by
            rw [List.length_append, length_header, List.length_singleton]
          have happend := @valueFrom_append _ _ (encodeContacts []) 30 hfront (by omega) hlen
          rwa [List.append_assoc _ [1]] at happend
        have hroom : 34 ≤ 29 + (1 :: encodeValue (UInt32.ofNat value.length) value ++ encodeContacts []).length := by
          rw [encodeValue_eq hlen, List.length_append, List.length_cons, List.length_append, length_toBe]
          omega
        have hhas : (1 :: encodeValue (UInt32.ofNat value.length) value ++ encodeContacts [])[0]?.getD 0 ≠ 0 := by
          show (1 : UInt8) ≠ 0
          decide
        rw [if_neg (by decide), if_neg (by decide), if_neg (by decide), if_pos rfl, if_pos (by omega), hat, if_neg hhas,
          if_pos hroom, encodeValue_eq hlen, hvalue]

/-- What a node sends is taken for a message, except for a PING whose request id has the marks of a STUN response. -/
theorem packetKind_encode {m : RpcMessage} {bytes : Bytes} (h : m.encode = .ok bytes) :
    packetKind bytes = .message ↔ ¬(m.payload = .ping ∧ looksLikeStun m.requestId = true) := by
  obtain ⟨msgType, fields, payload, hfields, -, rfl⟩ := layout_of_encode h
  have htype := type_of_toCPayload hfields
  have hkind := @packetKind_header msgType m.requestId (m.senderId.bytes ++ payload) htype.1 (by
    rw [List.length_append, m.senderId.size]
    omega)
  rw [← List.append_assoc] at hkind
  rw [hkind, ← htype.2]
  split
  · rename_i hstun
    simp [hstun]
  · rename_i hstun
    simp only [hstun, not_false_eq_true]

def tcpBufferSize : Nat := 65536

/-- The value of a STORE is complete. A length whose end is not an Int counts as reached. -/
def complete (buf : Bytes) : Bool :=
  let stop := 53 + (Int.bmod (unsigned buf 49 4) (2 ^ 32)).toNat
  decide (53 ≤ buf.length) && decide (buf.head? = some msgStore) &&
    (decide (2 ^ 31 ≤ stop) || decide (stop ≤ buf.length))

/-- The loop of `handleTcpClient`: what is in the buffer at its end, of the reads that the stream comes in. -/
def readTcp (buf : Bytes) : List Bytes → Bytes
  | [] => buf
  | read :: reads =>
    if buf.length < tcpBufferSize then
      let buf := buf ++ read.take (tcpBufferSize - buf.length)
      if complete buf then buf else readTcp buf reads
    else buf

/-- The loop ends with a STORE that is complete, or with all there is room for. -/
theorem readTcp_spec : ∀ {reads : List Bytes} {buf : Bytes}, buf.length ≤ tcpBufferSize →
    ∃ rest, (buf ++ reads.flatten).take tcpBufferSize = readTcp buf reads ++ rest ∧
      (rest = [] ∨ complete (readTcp buf reads) = true)
  | [], buf, hbuf => by
    refine ⟨[], ?_, .inl rfl⟩
    simp [readTcp, List.take_of_length_le hbuf]
  | read :: reads, buf, hbuf => by
    unfold readTcp
    split
    · rename_i hroom
      dsimp only
      have hlen : (buf ++ read.take (tcpBufferSize - buf.length)).length ≤ tcpBufferSize := by
        rw [List.length_append, List.length_take]
        omega
      have hstream : (buf ++ (read :: reads).flatten).take tcpBufferSize =
          (buf ++ read.take (tcpBufferSize - buf.length) ++ reads.flatten).take tcpBufferSize := by
        have hleft : tcpBufferSize - buf.length - read.length =
            tcpBufferSize - (buf.length + min (tcpBufferSize - buf.length) read.length) := by omega
        rw [List.flatten_cons, List.take_append, List.take_of_length_le hbuf, List.take_append, List.take_append,
          List.take_of_length_le hlen, List.length_append, List.length_take, hleft, List.append_assoc]
      rw [hstream]
      split
      · rename_i hcomplete
        refine ⟨reads.flatten.take (tcpBufferSize - (buf ++ read.take (tcpBufferSize - buf.length)).length), ?_,
          .inr hcomplete⟩
        rw [List.take_append, List.take_of_length_le hlen]
      · exact readTcp_spec hlen
    · rename_i hfull
      refine ⟨[], ?_, .inl rfl⟩
      have hfull : buf.length = tcpBufferSize := by omega
      rw [List.append_nil, List.take_left' hfull]

theorem take_drop_append {l rest : Bytes} {i n : Nat} (h : i + n ≤ l.length) :
    ((l ++ rest).drop i).take n = (l.drop i).take n := by
  rw [List.drop_append_of_le_length (by omega), List.take_append_of_le_length (by rw [List.length_drop]; omega)]

theorem readPacket_store {tail : Bytes} (h : 53 ≤ (msgStore :: tail).length) :
    readPacket K localNodeIdHex (msgStore :: tail) =
      if K.sameIgnoringCase (senderHexOf (msgStore :: tail)) localNodeIdHex then .nothing
      else ((valueFrom (msgStore :: tail) 49).map
        (Packet.store (reqIdOf (msgStore :: tail)) (senderHexOf (msgStore :: tail)))).getD .nothing := by
  have hhead : (msgStore :: tail).head? = some msgStore := rfl
  unfold readPacket
  rw [hhead, if_neg (by decide), if_neg (by decide), if_pos rfl, if_pos h]
  cases valueFrom (msgStore :: tail) 49 with
  | none => rfl
  | some valueBytes => rfl

/-- What lies behind a STORE that is complete makes no difference. -/
theorem takePacket_append {buf : Bytes} (h : complete buf = true) (rest : Bytes) :
    takePacket K localNodeIdHex (buf ++ rest) = takePacket K localNodeIdHex buf := by
  unfold complete at h
  dsimp only at h
  rw [Bool.and_eq_true, Bool.and_eq_true, decide_eq_true_eq, decide_eq_true_eq, Bool.or_eq_true, decide_eq_true_eq,
    decide_eq_true_eq] at h
  obtain ⟨⟨hlen, hhead⟩, hstop⟩ := h
  obtain ⟨tail, rfl⟩ : ∃ tail, buf = msgStore :: tail := by
    cases buf with
    | nil => cases hhead
    | cons b tail => exact ⟨tail, by rw [Option.some.inj hhead]⟩
  have hmessage : ∀ l : Bytes, packetKind (msgStore :: l) = .message := by
    intro l
    rw [packetKind_cons (by decide), if_neg]
    simp [isStun, msgStore]
  have hid : reqIdOf (msgStore :: tail ++ rest) = reqIdOf (msgStore :: tail) := by
    unfold reqIdOf
    rw [take_drop_append (by omega)]
  have hsender : senderHexOf (msgStore :: tail ++ rest) = senderHexOf (msgStore :: tail) := by
    unfold senderHexOf
    rw [take_drop_append (by omega)]
  have hvalue : valueFrom (msgStore :: tail ++ rest) 49 = valueFrom (msgStore :: tail) 49 := by
    have hread : unsigned (msgStore :: tail ++ rest) 49 4 = unsigned (msgStore :: tail) 49 4 := by
      unfold unsigned
      rw [take_drop_append (by omega)]
    unfold valueFrom
    dsimp only
    rw [hread]
    generalize (Int.bmod (unsigned (msgStore :: tail) 49 4 : Int) (2 ^ 32)).toNat = valueLen at hstop ⊢
    rcases hstop with hstop | hstop
    · rw [if_neg (by omega), if_neg (by omega)]
    · rw [take_drop_append (by omega)]
      exact if_congr (by rw [List.length_append]; omega) rfl rfl
  have hlong : 53 ≤ (msgStore :: (tail ++ rest)).length := by
    rw [← List.cons_append, List.length_append]
    omega
  unfold takePacket
  rw [hmessage, List.cons_append, hmessage, readPacket_store hlong, readPacket_store hlen, ← List.cons_append, hid,
    hsender, hvalue]

/-- What a node that is asked for a key at this moment has. -/
def answer (J : ValueJson) (t : RoutingTable) (st : Storage) (reqId : UInt64) (key : NodeId) (now : Nat) : Packet :=
  ((handleFindValue J st key now).2.map (Packet.found t.localId.toHex)).getD (.missing reqId)

theorem expected_findValueReply (J : ValueJson) (t : RoutingTable) (st : Storage) (reqId : UInt64) (key : NodeId)
    (now : Nat) : expected K localNodeIdHex (findValueReply J t st reqId key now).2 = answer J t st reqId key now ∧
      (findValueReply J t st reqId key now).2.payload ≠ .ping := by
  unfold answer findValueReply
  rcases handleFindValue J st key now with ⟨st', value | value⟩
  · exact ⟨rfl, fun h => by cases h⟩
  · exact ⟨rfl, fun h => by cases h⟩

/-- No message is longer than a STORE of the largest value. -/
theorem length_le_of_encode {m : RpcMessage} {bytes : Bytes} (h : m.encode = .ok bytes) : bytes.length ≤ 65589 := by
  have hsmall : RpcMessage.estimatedSize m.payload ≤ 1024 → bytes.length ≤ 65589 := by
    intro hsize
    obtain ⟨msgType, fields, -, hfields, -⟩ := layout_of_encode h
    have hroom := (RpcMessage.encode_eq_ok hfields).1 h
    unfold ffiEncodeMessage at hroom
    obtain ⟨payload, -, hroom⟩ := Option.bind_eq_some_iff.1 hroom
    dsimp only at hroom
    split at hroom
    · obtain rfl := Option.some.inj hroom
      omega
    · cases hroom
  have hmax : maxValueSize = 65536 := rfl
  cases hm : m.payload with
  | store key value =>
    obtain ⟨msgType, fields, payload, hfields, hpayload, rfl⟩ := layout_of_encode h
    rw [hm] at hfields
    obtain ⟨hlen, hfields⟩ := RpcPayload.of_not_tooLarge hfields
    cases hfields
    obtain rfl : key.bytes ++ encodeValue (UInt32.ofNat value.length) value = payload := Option.some.inj hpayload
    rw [List.length_append, length_header, encodeValue_eq hlen, List.length_append, List.length_append, length_toBe,
      key.size]
    omega
  | findValueResp value contacts =>
    cases value with
    | none =>
      refine hsmall ?_
      rw [hm]
      exact le_refl 1024
    | some value =>
      obtain ⟨msgType, fields, payload, hfields, hpayload, rfl⟩ := layout_of_encode h
      rw [hm] at hfields
      obtain ⟨hlen, hfields⟩ := RpcPayload.of_not_tooLarge hfields
      cases hfields
      obtain rfl : 1 :: encodeValue (UInt32.ofNat value.length) value ++ encodeContacts [] = payload :=
        Option.some.inj hpayload
      rw [List.length_append, length_header, encodeValue_eq hlen, List.length_append, List.length_cons,
        List.length_append, length_toBe, length_encodeContacts, List.length_nil, Nat.min_zero, Nat.zero_mul]
      omega
  | _ =>
    refine hsmall ?_
    rw [hm]
    exact le_refl 1024

/-- What is put together from the chunks of a message, whatever the order in which they came. -/
theorem arrive_splitData {crc32 : Bytes → UInt32} {messageId : Vector UInt8 16} {data : Bytes}
    (hlen : data.length ≤ 65589) {active : Assemblies} {senderKey : String} {start : Nat}
    {before : List (Arrival String)} {last : Arrival String}
    (h : Delivered crc32 active senderKey messageId ((UdpChunk.splitData crc32 messageId data).map UdpChunk.toBytes)
      start before last) :
    (arrive crc32 (run (fun active a => (arrive crc32 active a).1) active before) last).2 = some data := by
  have hcount : (UdpChunk.payloads data).length ≤ 256 := by
    rw [UdpChunk.length_payloads]
    unfold chunkPayloadSize
    omega
  exact (Kad.Delivered.completes (assembles hcount (by omega)) (fun hfresh => .inl ⟨hfresh, rfl⟩) h).2

section Sample

open NodeX.Sample Messenger.Sample Kad.Sample RpcMessage.Sample

/-- A platform on which no array is known. -/
def plain : Kotlin := BobsPhone.kotlin fun _ => none

theorem readsHex_plain : ReadsHex plain where
  lowercase := BobsPhone.lowercase_hex
  toInt16 := forall_uint8 (p := fun b => plain.toInt16 (String.ofList [hexDigit (b >>> 4), hexDigit (b &&& 15)]) =
    some b.toNat) (by decide +kernel)

theorem packets_decode_store :
    RpcMessage.decode (storePacket plain mailboxKey.toHex 7 mailboxKey [91, 93]) =
      .ok ⟨7, mailboxKey, .store mailboxKey [91, 93]⟩ :=
  ((packets_decode readsHex_plain mailboxKey 7).2.2.2.2 mailboxKey [91, 93]).2 (by decide)

/-- A PING with the request id `0x0100002112A44200`. -/
def markedPing : RpcMessage := { requestId := 0x0100002112A44200, senderId := mailboxKey, payload := .ping }

/-- A table that knows nobody. -/
def lonely : RoutingTable := { localId := mailboxKey }

end Sample

end Packets

end NodeX.Android
