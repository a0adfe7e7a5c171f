/-
What is encoded is decoded again. The encoder lays the parts of a message down one after the other and the decoder
finds each at its place, so a message comes back as it was sent, without what no message carries: the moment a
contact was last seen, the flow info and scope id of its address, and the contacts beside a value.
-/
import NodeX.Core.Buffer
import NodeX.Kad.Wire

namespace NodeX.Kad

open NodeX.Lib

/-! ## Contacts -/

/-- `c_to_contact` takes the contact as it is sent. -/
def Contact.Accepted (c : Contact) : Prop := ∃ c', cToContact (contactToC c) = .ok c'

theorem take_append_replicate (o : Vector UInt8 4) : (o ++ Vector.replicate 12 (0 : UInt8)).take 4 = o := by
  ext i hi
  rw [Vector.getElem_take, Vector.getElem_append_left (by omega)]

/-- The checks a contact passes at the receiver, which gets it back unchanged. -/
theorem cToContact_contactToC {c c' : Contact} : cToContact (contactToC c) = .ok c' ↔
    c' = c ∧ c.addr.port ≠ 0 ∧ c.addr.ip.isUnspecified = false ∧ c.addr.ip.isBroadcast = false ∧
      c.addr.ip.isMulticast = false := by
  obtain ⟨id, ip, port⟩ := c
  cases ip with
  | v4 o =>
    have htake := take_append_replicate o
    unfold cToContact contactToC
    simp only [htake]
    by_cases hport : port = 0
    · simp [hport]
    · rw [if_neg hport, if_true]
      cases (IpAddr.v4 o).isUnspecified <;> cases (IpAddr.v4 o).isBroadcast <;> cases (IpAddr.v4 o).isMulticast
      case false.false.false => simp [hport, @eq_comm _ c']
      all_goals simp
  | v6 o =>
    have hbroadcast : (IpAddr.v6 o).isBroadcast = false := rfl
    unfold cToContact contactToC
    simp only [hbroadcast]
    by_cases hport : port = 0
    · simp [hport]
    · rw [if_neg hport, if_neg (by decide), if_true]
      cases (IpAddr.v6 o).isUnspecified <;> cases (IpAddr.v6 o).isMulticast
      case false.false => simp [hport, @eq_comm _ c']
      all_goals simp

theorem Contact.Accepted.eq {c : Contact} (h : c.Accepted) : cToContact (contactToC c) = .ok c := by
  obtain ⟨c', hc'⟩ := h
  obtain ⟨rfl, -⟩ := cToContact_contactToC.1 hc'
  exact hc'

theorem Contact.accepted_iff {c : Contact} : c.Accepted ↔ c.addr.port ≠ 0 ∧ c.addr.ip.isUnspecified = false ∧
    c.addr.ip.isBroadcast = false ∧ c.addr.ip.isMulticast = false := by
  constructor
  · intro h
    exact (cToContact_contactToC.1 h.eq).2
  · intro h
    exact ⟨c, cToContact_contactToC.2 ⟨rfl, h⟩⟩

/-- A contact that was received would be accepted again. -/
theorem Contact.accepted_of_cToContact {row : CSerializedContact} {c : Contact} (h : cToContact row = .ok c) :
    c.Accepted := by
  rw [Contact.accepted_iff]
  unfold cToContact at h
  split at h
  · cases h
  · rename_i hport
    split at h
    · dsimp only at h
      split at h
      · cases h
      · rename_i hip
        cases h
        simp only [Bool.or_eq_true, not_or, Bool.not_eq_true] at hip
        exact ⟨hport, hip.1.1, hip.1.2, hip.2⟩
    · split at h
      · dsimp only at h
        split at h
        · cases h
        · rename_i hip
          cases h
          simp only [Bool.or_eq_true, not_or, Bool.not_eq_true] at hip
          exact ⟨hport, hip.1, rfl, hip.2⟩
      · cases h

theorem mapM_cToContact : ∀ {contacts : List Contact}, (∀ c ∈ contacts, c.Accepted) →
    (contacts.map contactToC).mapM cToContact = .ok contacts
  | [], _ => rfl
  | c :: contacts, h => by
    obtain ⟨hc, hcs⟩ := List.forall_mem_cons.1 h
    rw [List.map_cons, List.mapM_cons, hc.eq, mapM_cToContact hcs]
    rfl

theorem mapM_cToContact_ok : ∀ {rows : List CSerializedContact} {contacts : List Contact},
    rows.mapM cToContact = .ok contacts → contacts.length = rows.length ∧ ∀ c ∈ contacts, c.Accepted
  | [], contacts, h => by
    obtain rfl : [] = contacts := Except.ok.inj h
    exact ⟨rfl, List.forall_mem_nil _⟩
  | row :: rows, contacts, h => by
    rw [List.mapM_cons] at h
    cases hrow : cToContact row with
    | error e =>
      rw [hrow] at h
      cases h
    | ok c =>
      rw [hrow] at h
      cases hrows : rows.mapM cToContact with
      | error e =>
        rw [hrows] at h
        cases h
      | ok cs =>
        rw [hrows] at h
        obtain rfl : c :: cs = contacts := Except.ok.inj h
        obtain ⟨hlen, hcs⟩ := mapM_cToContact_ok hrows
        exact ⟨by rw [List.length_cons, List.length_cons, hlen],
          List.forall_mem_cons.2 ⟨Contact.accepted_of_cToContact hrow, hcs⟩⟩

theorem accepted_of_mapM {rows : List CSerializedContact} {contacts : List Contact}
    (h : rows.mapM cToContact = .ok contacts) : ∀ row ∈ rows, ∃ c, cToContact row = .ok c := by
  induction rows generalizing contacts with
  | nil => exact List.forall_mem_nil _
  | cons row rows ih =>
    rw [List.mapM_cons] at h
    cases hrow : cToContact row with
    | error e =>
      rw [hrow] at h
      cases h
    | ok c =>
      rw [hrow] at h
      cases hrows : rows.mapM cToContact with
      | error e =>
        rw [hrows] at h
        cases h
      | ok cs => exact List.forall_mem_cons.2 ⟨⟨c, hrow⟩, ih hrows⟩

/-! ## Parts at their places -/

variable {buf : Bytes} {i : Nat}

@[simp] theorem length_encodeContact (c : CSerializedContact) : (encodeContact c).length = contactSize := by
  simp only [encodeContact, List.length_append, c.id.size, List.length_singleton, Vector.length_toList, length_toBe,
    contactSize, idSize]

theorem contact?_of_at {c : CSerializedContact} (h : At buf i (encodeContact c)) : contact? buf i = some c := by
  unfold encodeContact at h
  rw [at_append, at_append, at_append] at h
  obtain ⟨⟨⟨hid, hty⟩, hip⟩, hport⟩ := h
  simp only [List.length_append, c.id.size, List.length_singleton, Vector.length_toList] at hty hip hport
  unfold contact? idSize
  rw [id?_eq_some.2 hid, u8?_eq_some.2 hty, array?_eq_some.2 hip, u16?_eq_some.2 hport]
  rfl

theorem contactsFrom?_of_at : ∀ {rows : List CSerializedContact} {i : Nat}, At buf i (rows.flatMap encodeContact) →
    contactsFrom? buf i rows.length = some rows
  | [], _, _ => rfl
  | row :: rows, i, h => by
    rw [List.flatMap_cons, at_append, length_encodeContact] at h
    rw [List.length_cons, contactsFrom?, contact?_of_at h.1, contactsFrom?_of_at h.2]
    rfl

theorem length_contactsFrom? : ∀ {count i : Nat} {rows : List CSerializedContact},
    contactsFrom? buf i count = some rows → rows.length = count
  | 0, _, rows, h => by
    obtain rfl : [] = rows := Option.some.inj h
    rfl
  | count + 1, i, rows, h => by
    simp only [contactsFrom?, Option.bind_eq_bind, Option.bind_eq_some_iff, Option.pure_def, Option.some.injEq] at h
    obtain ⟨c, -, rest, hrest, rfl⟩ := h
    rw [List.length_cons, length_contactsFrom? hrest]

theorem contacts?_of_at {rows : List CSerializedContact} (hlen : rows.length ≤ maxContacts)
    (h : At buf i (encodeContacts rows)) : contacts? buf i = some rows := by
  unfold encodeContacts at h
  rw [List.take_of_length_le hlen, at_cons] at h
  have hmax : maxContacts = 20 := rfl
  have hcount : min (UInt8.ofNat rows.length).toNat maxContacts = rows.length := by
    rw [UInt8.toNat_ofNat']
    omega
  unfold contacts?
  rw [u8?_eq_some.2 h.1]
  show contactsFrom? buf (i + 1) (min (UInt8.ofNat rows.length).toNat maxContacts) = some rows
  rw [hcount]
  exact contactsFrom?_of_at h.2

theorem length_contacts? {rows : List CSerializedContact} (h : contacts? buf i = some rows) :
    rows.length ≤ maxContacts := by
  unfold contacts? at h
  obtain ⟨count, -, hrows⟩ := Option.bind_eq_some_iff.1 h
  rw [length_contactsFrom? hrows]
  exact Nat.min_le_right _ _

theorem toNat_valueLen {value : Bytes} (hlen : value.length ≤ maxValueSize) :
    (UInt32.ofNat value.length).toNat = value.length := by
  have hmax : maxValueSize = 65536 := rfl
  rw [UInt32.toNat_ofNat']
  omega

theorem encodeValue_eq {value : Bytes} (hlen : value.length ≤ maxValueSize) :
    encodeValue (UInt32.ofNat value.length) value = toBe 4 value.length ++ value := by
  unfold encodeValue
  dsimp only
  rw [toNat_valueLen hlen, Nat.min_self, Nat.min_eq_left hlen, List.take_length]

theorem value?_of_at {value : Bytes} (hlen : value.length ≤ maxValueSize)
    (h : At buf i (toBe 4 value.length ++ value)) : value? buf i = some (UInt32.ofNat value.length, value) := by
  rw [at_append, length_toBe, ← toNat_valueLen hlen] at h
  unfold value?
  rw [u32?_eq_some.2 h.1]
  show (if (UInt32.ofNat value.length).toNat > maxValueSize then none else _) = _
  rw [toNat_valueLen hlen, if_neg (by omega), slice?_eq_some_iff_at.2 ⟨rfl, h.2⟩]
  rfl

theorem length_value? {len : UInt32} {value : Bytes} (h : value? buf i = some (len, value)) :
    value.length ≤ maxValueSize := by
  simp only [value?, Option.bind_eq_bind, Option.bind_eq_some_iff] at h
  obtain ⟨vlen, -, h⟩ := h
  split at h
  · cases h
  · simp only [Option.bind_eq_some_iff, Option.pure_def, Option.some.injEq, Prod.mk.injEq] at h
    obtain ⟨v, hv, -, rfl⟩ := h
    rw [length_of_slice? hv]
    omega

/-! ## Payloads -/

namespace RpcPayload

/-- What of a payload a message carries: no contacts beside a value. -/
def carried : RpcPayload → RpcPayload
  | .findValueResp (some value) _ => .findValueResp (some value) []
  | p => p

/-- The values and contact lists are within the limits, and the receiver accepts every contact. -/
def WithinLimits : RpcPayload → Prop
  | .store _ value => value.length ≤ maxValueSize
  | .findNodeResp contacts => contacts.length ≤ maxContacts ∧ ∀ c ∈ contacts, c.Accepted
  | .findValueResp value contacts =>
    (∀ v ∈ value, v.length ≤ maxValueSize) ∧ contacts.length ≤ maxContacts ∧ ∀ c ∈ contacts, c.Accepted
  | _ => True

end RpcPayload

/-- The fields of a message of this type are these bytes on the wire, wherever they end. -/
structure OnWire (msgType : UInt8) (fields : CMessagePayload) (bytes : Bytes) : Prop where
  encode : encodePayload msgType fields = some bytes
  decode : ∀ buf : Bytes, At buf headerSize bytes → payload? buf headerSize msgType = some fields

namespace OnWire

variable {value : Bytes} {rows : List CSerializedContact}

theorem store (key : NodeId) (hlen : value.length ≤ maxValueSize) :
    OnWire msgStore (.store key (UInt32.ofNat value.length) value)
      (key.bytes ++ (toBe 4 value.length ++ value)) where
  encode := by
    show some (key.bytes ++ encodeValue (UInt32.ofNat value.length) value) = _
    rw [encodeValue_eq hlen]
  decode buf hat := by
    rw [at_append, key.size] at hat
    show (id? buf headerSize >>= fun key => value? buf (headerSize + 20) >>= fun p =>
      some (CMessagePayload.store key p.1 p.2)) = _
    rw [id?_eq_some.2 hat.1, value?_of_at hlen hat.2]
    rfl

theorem storeAck (status : UInt8) : OnWire msgStoreAck (.storeAck status) [status] where
  encode := rfl
  decode buf hat := by
    show (u8? buf headerSize).map CMessagePayload.storeAck = _
    rw [u8?_eq_some.2 hat]
    rfl

theorem findNode (targetId : NodeId) : OnWire msgFindNode (.findNode targetId) targetId.bytes where
  encode := rfl
  decode buf hat := by
    show (id? buf headerSize).map CMessagePayload.findNode = _
    rw [id?_eq_some.2 hat]
    rfl

theorem findValue (key : NodeId) : OnWire msgFindValue (.findValue key) key.bytes where
  encode := rfl
  decode buf hat := by
    show (id? buf headerSize).map CMessagePayload.findValue = _
    rw [id?_eq_some.2 hat]
    rfl

theorem findNodeResp (hlen : rows.length ≤ maxContacts) :
    OnWire msgFindNodeResp (.findNodeResp rows) (encodeContacts rows) where
  encode := rfl
  decode buf hat := by
    show (contacts? buf headerSize).map CMessagePayload.findNodeResp = _
    rw [contacts?_of_at hlen hat]
    rfl

/-- The first byte of a FIND_VALUE reply says whether a value or the contacts come next. -/
theorem payload?_findValueResp {buf : Bytes} {hasValue : UInt8} (h : u8? buf headerSize = some hasValue) :
    payload? buf headerSize msgFindValueResp = if hasValue ≠ 0 then
        value? buf (headerSize + 1) >>= fun p => contacts? buf (headerSize + 5 + p.2.length) >>= fun rows =>
          some (.findValueResp hasValue p.1 p.2 rows)
      else contacts? buf (headerSize + 1) >>= fun rows => some (.findValueResp hasValue 0 [] rows) := by
  show (u8? buf headerSize >>= fun hasValue => if hasValue ≠ 0 then
    value? buf (headerSize + 1) >>= fun p => contacts? buf (headerSize + 5 + p.2.length) >>= fun rows =>
      some (CMessagePayload.findValueResp hasValue p.1 p.2 rows)
    else contacts? buf (headerSize + 1) >>= fun rows => some (.findValueResp hasValue 0 [] rows)) = _
  rw [h]
  rfl

theorem found (hlen : value.length ≤ maxValueSize) :
    OnWire msgFindValueResp (.findValueResp 1 (UInt32.ofNat value.length) value [])
      (1 :: ((toBe 4 value.length ++ value) ++ encodeContacts [])) where
  encode := by
    show some (1 :: encodeValue (UInt32.ofNat value.length) value ++ encodeContacts []) = _
    rw [encodeValue_eq hlen]
    rfl
  decode buf hat := by
    rw [at_cons, at_append, List.length_append, length_toBe] at hat
    have hplace : headerSize + 5 + value.length = headerSize + 1 + (4 + value.length) := by omega
    have hcontacts := contacts?_of_at (Nat.zero_le _) hat.2.2
    rw [← hplace] at hcontacts
    rw [payload?_findValueResp (u8?_eq_some.2 hat.1), if_pos (by decide), value?_of_at hlen hat.2.1]
    show (contacts? buf (headerSize + 5 + value.length) >>= fun rows =>
      some (CMessagePayload.findValueResp 1 (UInt32.ofNat value.length) value rows)) = _
    rw [hcontacts]
    rfl

theorem notFound (hlen : rows.length ≤ maxContacts) :
    OnWire msgFindValueResp (.findValueResp 0 0 [] rows) (0 :: encodeContacts rows) where
  encode := rfl
  decode buf hat := by
    rw [at_cons] at hat
    rw [payload?_findValueResp (u8?_eq_some.2 hat.1), if_neg (by decide), contacts?_of_at hlen hat.2]
    rfl

end OnWire

theorem length_encodeContacts (rows : List CSerializedContact) :
    (encodeContacts rows).length = 1 + min maxContacts rows.length * contactSize := by
  unfold encodeContacts
  rw [List.length_cons, List.length_flatMap]
  simp only [length_encodeContact, List.map_const', List.sum_replicate, smul_eq_mul, List.length_take]
  omega

/-- A full contact list fits the buffer the encoder gives a message without a value. -/
theorem encodeContacts_fits (rows : List CSerializedContact) :
    headerSize + (1 + (encodeContacts rows).length) ≤ 1024 := by
  have hrows := Nat.mul_le_mul_right contactSize (Nat.min_le_left maxContacts rows.length)
  rw [length_encodeContacts]
  simp only [headerSize, idSize, maxContacts, contactSize] at hrows ⊢
  omega

/-- Whatever payload is not refused goes over the wire, in the buffer the encoder gives it. -/
theorem onWire_of_toCPayload {p : RpcPayload} {msgType : UInt8} {fields : CMessagePayload}
    (h : RpcMessage.toCPayload p = .ok (msgType, fields)) :
    ∃ bytes, OnWire msgType fields bytes ∧ headerSize + bytes.length ≤ RpcMessage.estimatedSize p := by
  have hrows : ∀ contacts : List Contact, ((contacts.take maxContacts).map contactToC).length ≤ maxContacts := by
    intro contacts
    rw [List.length_map, List.length_take]
    exact Nat.min_le_left _ _
  cases p with
  | ping =>
    cases h
    exact ⟨[], ⟨rfl, fun _ _ => rfl⟩, by decide⟩
  | pong =>
    cases h
    exact ⟨[], ⟨rfl, fun _ _ => rfl⟩, by decide⟩
  | store key value =>
    simp only [RpcMessage.toCPayload] at h
    split at h
    · cases h
    · rename_i hlen
      cases h
      refine ⟨_, .store key (by omega), ?_⟩
      simp only [List.length_append, length_toBe, key.size, RpcMessage.estimatedSize, headerSize, idSize]
      omega
  | storeAck ok =>
    cases h
    exact ⟨_, .storeAck _, show 30 ≤ 1024 by omega⟩
  | findNode targetId =>
    cases h
    refine ⟨_, .findNode targetId, ?_⟩
    rw [targetId.size]
    show 49 ≤ 1024
    omega
  | findNodeResp contacts =>
    cases h
    have hfits := encodeContacts_fits ((contacts.take maxContacts).map contactToC)
    refine ⟨_, .findNodeResp (hrows contacts), ?_⟩
    show headerSize + _ ≤ 1024
    omega
  | findValue key =>
    cases h
    refine ⟨_, .findValue key, ?_⟩
    rw [key.size]
    show 49 ≤ 1024
    omega
  | findValueResp value contacts =>
    cases value with
    | some value =>
      simp only [RpcMessage.toCPayload] at h
      split at h
      · cases h
      · rename_i hlen
        cases h
        refine ⟨_, .found (by omega), ?_⟩
        rw [List.length_cons, List.length_append, List.length_append, length_toBe, length_encodeContacts]
        show 29 + _ ≤ 64 + value.length
        simp only [List.length_nil, Nat.min_zero, Nat.zero_mul]
        omega
    | none =>
      cases h
      have hfits := encodeContacts_fits ((contacts.take maxContacts).map contactToC)
      refine ⟨_, .notFound (hrows contacts), ?_⟩
      rw [List.length_cons]
      show headerSize + _ ≤ 1024
      omega

/-- A payload within the limits is not refused, and read as it is carried. -/
theorem read_of_withinLimits {p : RpcPayload} (h : p.WithinLimits) : ∃ msgType fields,
    RpcMessage.toCPayload p = .ok (msgType, fields) ∧ RpcMessage.fromCPayload msgType fields = .ok p.carried := by
  have hrows : ∀ contacts : List Contact, contacts.length ≤ maxContacts → (∀ c ∈ contacts, c.Accepted) →
      ((contacts.take maxContacts).map contactToC).mapM cToContact = .ok contacts := by
    intro contacts hlen hacc
    rw [List.take_of_length_le hlen]
    exact mapM_cToContact hacc
  cases p with
  | ping => exact ⟨_, _, rfl, rfl⟩
  | pong => exact ⟨_, _, rfl, rfl⟩
  | store key value =>
    have hlen : value.length ≤ maxValueSize := h
    refine ⟨_, _, if_neg (by omega), ?_⟩
    show (if (UInt32.ofNat value.length).toNat > maxValueSize then _ else _) = _
    rw [toNat_valueLen hlen]
    exact if_neg (by omega)
  | storeAck ok => exact ⟨_, _, rfl, by cases ok <;> rfl⟩
  | findNode targetId => exact ⟨_, _, rfl, rfl⟩
  | findNodeResp contacts =>
    refine ⟨_, _, rfl, ?_⟩
    show (((contacts.take maxContacts).map contactToC).mapM cToContact).map RpcPayload.findNodeResp = _
    rw [hrows contacts h.1 h.2]
    rfl
  | findValue key => exact ⟨_, _, rfl, rfl⟩
  | findValueResp value contacts =>
    cases value with
    | some value =>
      have hlen : value.length ≤ maxValueSize := h.1 value rfl
      refine ⟨_, _, if_neg (by omega), ?_⟩
      show (if (UInt32.ofNat value.length).toNat > maxValueSize then _ else _) = _
      rw [toNat_valueLen hlen]
      exact if_neg (by omega)
    | none =>
      refine ⟨_, _, rfl, ?_⟩
      show (((contacts.take maxContacts).map contactToC).mapM cToContact).map (RpcPayload.findValueResp none) = _
      rw [hrows contacts h.2.1 h.2.2]
      rfl

/-! ## Messages -/

theorem ffiDecodeMessage_of_onWire {msgType : UInt8} {requestId : UInt64} {senderId : NodeId}
    {fields : CMessagePayload} {bytes : Bytes} (h : OnWire msgType fields bytes) :
    ffiDecodeMessage ([msgType] ++ toBe 8 requestId.toNat ++ senderId.bytes ++ bytes) =
      some { msgType, requestId, senderId, payload := fields } := by
  have hat := at_zero_self ([msgType] ++ toBe 8 requestId.toNat ++ senderId.bytes ++ bytes)
  generalize hbuf : [msgType] ++ toBe 8 requestId.toNat ++ senderId.bytes ++ bytes = buf at hat
  rw [← hbuf, at_append, at_append, at_append, hbuf] at hat
  obtain ⟨⟨⟨htype, hrequest⟩, hsender⟩, hbytes⟩ := hat
  simp only [List.length_append, List.length_singleton, length_toBe, senderId.size] at hrequest hsender hbytes
  unfold ffiDecodeMessage
  rw [u8?_eq_some.2 htype, u64?_eq_some.2 hrequest, id?_eq_some.2 hsender]
  show (payload? buf headerSize msgType >>= fun payload => some (CMessage.mk msgType requestId senderId payload)) = _
  rw [h.decode buf hbytes]
  rfl

namespace RpcMessage

/-- What of a message is carried. -/
def carried (m : RpcMessage) : RpcMessage := { m with payload := m.payload.carried }

theorem encode_eq_ok {m : RpcMessage} {msgType : UInt8} {fields : CMessagePayload} {bytes : Bytes}
    (h : toCPayload m.payload = .ok (msgType, fields)) : m.encode = .ok bytes ↔
      ffiEncodeMessage { msgType, requestId := m.requestId, senderId := m.senderId, payload := fields }
        (estimatedSize m.payload) = some bytes := by
  unfold encode toCMessage
  rw [h]
  dsimp only [bind, Except.bind, pure, Except.pure]
  cases ffiEncodeMessage { msgType, requestId := m.requestId, senderId := m.senderId, payload := fields }
    (estimatedSize m.payload) with
  | some bytes' => rw [Except.ok.injEq, Option.some.injEq]
  | none =>
    constructor
    · intro h
      cases h
    · intro h
      cases h

/-- What is not refused is encoded, and decoded to what its fields are read as. -/
theorem decode_encode_of_toCPayload {m : RpcMessage} {msgType : UInt8} {fields : CMessagePayload}
    (h : toCPayload m.payload = .ok (msgType, fields)) : ∃ bytes, m.encode = .ok bytes ∧
      decode bytes = (fromCPayload msgType fields).map fun payload => { m with payload } := by
  obtain ⟨bytes, hwire, hsize⟩ := onWire_of_toCPayload h
  refine ⟨[msgType] ++ toBe 8 m.requestId.toNat ++ m.senderId.bytes ++ bytes, ?_, ?_⟩
  · have henc : ffiEncodeMessage { msgType, requestId := m.requestId, senderId := m.senderId, payload := fields }
        (estimatedSize m.payload) = some ([msgType] ++ toBe 8 m.requestId.toNat ++ m.senderId.bytes ++ bytes) := by
      unfold ffiEncodeMessage
      rw [hwire.encode]
      refine if_pos ?_
      simp only [List.length_append, List.length_singleton, length_toBe, m.senderId.size, headerSize, idSize] at hsize ⊢
      omega
    exact (encode_eq_ok h).2 henc
  · unfold decode
    rw [ffiDecodeMessage_of_onWire hwire]
    show fromCMessage _ = _
    unfold fromCMessage
    cases fromCPayload msgType fields <;> rfl

theorem decode_encode {m : RpcMessage} (h : m.payload.WithinLimits) :
    ∃ bytes, m.encode = .ok bytes ∧ decode bytes = .ok m.carried := by
  obtain ⟨msgType, fields, hfields, hread⟩ := read_of_withinLimits h
  obtain ⟨bytes, henc, hdec⟩ := decode_encode_of_toCPayload hfields
  rw [hread] at hdec
  exact ⟨bytes, henc, hdec⟩

end RpcMessage

/-! ## What was decoded -/

namespace CMessagePayload

/-- The bounds the decoder checks or cuts to. -/
def Bounded : CMessagePayload → Prop
  | .store _ _ value => value.length ≤ maxValueSize
  | .findNodeResp rows => rows.length ≤ maxContacts
  | .findValueResp _ _ value rows => value.length ≤ maxValueSize ∧ rows.length ≤ maxContacts
  | _ => True

theorem bounded_of_payload? {buf : Bytes} {i : Nat} {msgType : UInt8} {fields : CMessagePayload}
    (h : payload? buf i msgType = some fields) : fields.Bounded := by
  unfold payload? at h
  rcases ite_eq_iff.1 h with ⟨-, h⟩ | ⟨-, h⟩
  · cases h
    trivial
  rcases ite_eq_iff.1 h with ⟨-, h⟩ | ⟨-, h⟩
  · obtain ⟨key, -, h⟩ := Option.bind_eq_some_iff.1 h
    obtain ⟨⟨len, value⟩, hvalue, h⟩ := Option.bind_eq_some_iff.1 h
    cases h
    exact length_value? hvalue
  rcases ite_eq_iff.1 h with ⟨-, h⟩ | ⟨-, h⟩
  · obtain ⟨status, -, rfl⟩ := Option.map_eq_some_iff.1 h
    trivial
  rcases ite_eq_iff.1 h with ⟨-, h⟩ | ⟨-, h⟩
  · obtain ⟨id, -, rfl⟩ := Option.map_eq_some_iff.1 h
    trivial
  rcases ite_eq_iff.1 h with ⟨-, h⟩ | ⟨-, h⟩
  · obtain ⟨rows, hrows, rfl⟩ := Option.map_eq_some_iff.1 h
    exact length_contacts? hrows
  rcases ite_eq_iff.1 h with ⟨-, h⟩ | ⟨-, h⟩
  · obtain ⟨id, -, rfl⟩ := Option.map_eq_some_iff.1 h
    trivial
  rcases ite_eq_iff.1 h with ⟨-, h⟩ | ⟨-, h⟩
  · obtain ⟨hasValue, -, h⟩ := Option.bind_eq_some_iff.1 h
    dsimp only at h
    split at h
    · obtain ⟨⟨len, value⟩, hvalue, h⟩ := Option.bind_eq_some_iff.1 h
      obtain ⟨rows, hrows, h⟩ := Option.bind_eq_some_iff.1 h
      cases h
      exact ⟨length_value? hvalue, length_contacts? hrows⟩
    · obtain ⟨rows, hrows, h⟩ := Option.bind_eq_some_iff.1 h
      cases h
      exact ⟨Nat.zero_le _, length_contacts? hrows⟩
  · cases h

end CMessagePayload

/-- Rows that were read are contacts to send. -/
theorem map_mapM_ok {rows : List CSerializedContact} {f : List Contact → RpcPayload} {p : RpcPayload}
    (h : (rows.mapM cToContact).map f = .ok p) (hrows : rows.length ≤ maxContacts) :
    ∃ contacts, p = f contacts ∧ contacts.length ≤ maxContacts ∧ ∀ c ∈ contacts, c.Accepted := by
  cases hm : rows.mapM cToContact with
  | error e =>
    rw [hm] at h
    cases h
  | ok contacts =>
    rw [hm] at h
    obtain ⟨hlen, hacc⟩ := mapM_cToContact_ok hm
    exact ⟨contacts, (Except.ok.inj h).symm, hlen ▸ hrows, hacc⟩

/-- What was read is within the limits, and carried as it is. -/
theorem withinLimits_of_fromCPayload {msgType : UInt8} {fields : CMessagePayload} {p : RpcPayload}
    (h : RpcMessage.fromCPayload msgType fields = .ok p) (hbound : fields.Bounded) :
    p.WithinLimits ∧ p.carried = p := by
  unfold RpcMessage.fromCPayload at h
  rcases ite_eq_iff.1 h with ⟨-, h⟩ | ⟨-, h⟩
  · cases h
    exact ⟨trivial, rfl⟩
  rcases ite_eq_iff.1 h with ⟨-, h⟩ | ⟨-, h⟩
  · cases h
    exact ⟨trivial, rfl⟩
  rcases ite_eq_iff.1 h with ⟨-, h⟩ | ⟨-, h⟩
  · split at h
    · split at h
      · cases h
      · cases h
        exact ⟨hbound, rfl⟩
    · cases h
  rcases ite_eq_iff.1 h with ⟨-, h⟩ | ⟨-, h⟩
  · split at h
    · cases h
      exact ⟨trivial, rfl⟩
    · cases h
  rcases ite_eq_iff.1 h with ⟨-, h⟩ | ⟨-, h⟩
  · split at h
    · cases h
      exact ⟨trivial, rfl⟩
    · cases h
  rcases ite_eq_iff.1 h with ⟨-, h⟩ | ⟨-, h⟩
  · split at h
    · obtain ⟨contacts, rfl, hcontacts⟩ := map_mapM_ok h hbound
      exact ⟨hcontacts, rfl⟩
    · cases h
  rcases ite_eq_iff.1 h with ⟨-, h⟩ | ⟨-, h⟩
  · split at h
    · cases h
      exact ⟨trivial, rfl⟩
    · cases h
  rcases ite_eq_iff.1 h with ⟨-, h⟩ | ⟨-, h⟩
  · split at h
    · split at h
      · split at h
        · cases h
        · cases h
          exact ⟨⟨fun v hv => Option.mem_some_iff.1 hv ▸ hbound.1, Nat.zero_le _, List.forall_mem_nil _⟩, rfl⟩
      · obtain ⟨contacts, rfl, hcontacts⟩ := map_mapM_ok h hbound.2
        exact ⟨⟨fun v hv => absurd hv (Option.not_mem_none v), hcontacts⟩, rfl⟩
    · cases h
  · cases h

namespace RpcMessage

theorem withinLimits_of_decode {buf : Bytes} {m : RpcMessage} (h : decode buf = .ok m) :
    m.payload.WithinLimits ∧ m.carried = m := by
  obtain ⟨c, hc, hm⟩ := decode_eq_ok.1 h
  simp only [ffiDecodeMessage, Option.bind_eq_bind, Option.bind_eq_some_iff, Option.pure_def,
    Option.some.injEq] at hc
  obtain ⟨msgType, -, requestId, -, senderId, -, fields, hfields, rfl⟩ := hc
  unfold fromCMessage at hm
  cases hp : fromCPayload msgType fields with
  | error e =>
    rw [hp] at hm
    cases hm
  | ok p =>
    rw [hp] at hm
    obtain rfl := Except.ok.inj hm
    obtain ⟨hlimits, hcarried⟩ := withinLimits_of_fromCPayload hp (CMessagePayload.bounded_of_payload? hfields)
    refine ⟨hlimits, ?_⟩
    unfold carried
    dsimp only
    rw [hcarried]

/-- A message within the limits is encoded, and decoded as it is carried; and what is decoded, whatever bytes it
came from, is encoded, and decoded as the same message. -/
theorem roundTrip :
    (∀ m : RpcMessage, m.payload.WithinLimits → ∃ bytes, m.encode = .ok bytes ∧ decode bytes = .ok m.carried) ∧
      ∀ (buf : Bytes) (m : RpcMessage), decode buf = .ok m →
        ∃ bytes, m.encode = .ok bytes ∧ decode bytes = .ok m := by
  constructor
  · intro m h
    exact decode_encode h
  · intro buf m h
    obtain ⟨hlimits, hcarried⟩ := withinLimits_of_decode h
    obtain ⟨bytes, henc, hdec⟩ := decode_encode hlimits
    exact ⟨bytes, henc, hcarried ▸ hdec⟩

namespace Sample

def peer : Contact where
  id := ⟨List.replicate 20 3, List.length_replicate⟩
  addr := { ip := .v4 #v[192, 168, 1, 51], port := 9000 }

def reply : RpcMessage where
  requestId := 7
  senderId := ⟨List.replicate 20 2, List.length_replicate⟩
  payload := .findNodeResp [peer]

/-- A reply with a value, flagged by another number than 1, with a contact nobody looks at and a byte behind. -/
def oddReply : Bytes :=
  [msgFindValueResp] ++ toBe 8 7 ++ List.replicate 20 2 ++ [9] ++ toBe 4 2 ++ [104, 105] ++
    encodeContacts [contactToC peer] ++ [0]

def found : RpcMessage := { reply with payload := .findValueResp (some [104, 105]) [] }

theorem accepted_peer : peer.Accepted := Contact.accepted_iff.2 (by decide +kernel)

end Sample

open RpcMessage.Sample in
theorem roundTrip_reply : (∃ bytes, reply.encode = .ok bytes ∧ decode bytes = .ok reply) ∧
    ∃ bytes, found.encode = .ok bytes ∧ decode bytes = .ok found :=
  ⟨roundTrip.1 reply ⟨by decide, List.forall_mem_singleton.2 accepted_peer⟩,
    roundTrip.2 oddReply found (by decide)⟩

end RpcMessage

end NodeX.Kad
