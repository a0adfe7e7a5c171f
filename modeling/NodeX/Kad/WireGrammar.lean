/-
What `decode` accepts: a prefix of the datagram in the form of a message, and nothing of what comes after it. The
decoder is written here once more with the accesses of `ffi_decode_message`, which panic out of range, and its own
length checks; behind these no access is out of range.
-/
import NodeX.Kad.WireRoundTrip

namespace NodeX.Kad

open NodeX.Lib

/-! ## The form of a message -/

/-- The checks on a contact that is used. -/
structure Usable (row : CSerializedContact) (c : Contact) : Prop where
  id : c.id = row.id
  port : c.addr.port = row.port
  port_ne : row.port ≠ 0
  ip : row.ipType = 4 ∧ c.addr.ip = .v4 (row.ip.take 4) ∨ row.ipType = 6 ∧ c.addr.ip = .v6 row.ip
  specified : c.addr.ip.isUnspecified = false
  unicast : c.addr.ip.isMulticast = false
  narrow : c.addr.ip.isBroadcast = false

/-- A count and as many contacts, at most `maxContacts`. -/
def rowsText (count : UInt8) (rows : List CSerializedContact) : Bytes := count :: rows.flatMap encodeContact

/-- A length and as many bytes. -/
def valueText (value : Bytes) : Bytes := toBe 4 value.length ++ value

/-- The payload of each type. -/
inductive PayloadText : UInt8 → Bytes → RpcPayload → Prop where
  | ping : PayloadText msgPing [] .ping
  | pong : PayloadText msgPong [] .pong
  | store (key : NodeId) (value : Bytes) (hvalue : value.length ≤ maxValueSize) :
    PayloadText msgStore (key.bytes ++ valueText value) (.store key value)
  | storeAck (status : UInt8) : PayloadText msgStoreAck [status] (.storeAck (status = 0))
  | findNode (targetId : NodeId) : PayloadText msgFindNode targetId.bytes (.findNode targetId)
  | findNodeResp (count : UInt8) (rows : List CSerializedContact) (contacts : List Contact)
    (hrows : rows.length = min count.toNat maxContacts) (husable : List.Forall₂ Usable rows contacts) :
    PayloadText msgFindNodeResp (rowsText count rows) (.findNodeResp contacts)
  | findValue (key : NodeId) : PayloadText msgFindValue key.bytes (.findValue key)
  | found (hasValue : UInt8) (hfound : hasValue ≠ 0) (value : Bytes) (hvalue : value.length ≤ maxValueSize)
    (count : UInt8) (rows : List CSerializedContact) (hrows : rows.length = min count.toNat maxContacts) :
    PayloadText msgFindValueResp (hasValue :: (valueText value ++ rowsText count rows)) (.findValueResp (some value) [])
  | notFound (count : UInt8) (rows : List CSerializedContact) (contacts : List Contact)
    (hrows : rows.length = min count.toNat maxContacts) (husable : List.Forall₂ Usable rows contacts) :
    PayloadText msgFindValueResp (0 :: rowsText count rows) (.findValueResp none contacts)

/-- A header and a payload. -/
def MessageText (text : Bytes) (m : RpcMessage) : Prop :=
  ∃ msgType payload, text = [msgType] ++ toBe 8 m.requestId.toNat ++ m.senderId.bytes ++ payload ∧
    PayloadText msgType payload m.payload

/-! ## Contacts -/

theorem cToContact_eq_ok {row : CSerializedContact} {c : Contact} : cToContact row = .ok c ↔ Usable row c := by
  obtain ⟨id, ip, port⟩ := c
  unfold cToContact
  constructor
  · intro h
    split at h
    · cases h
    · rename_i hport
      split at h
      · rename_i htype
        dsimp only at h
        split at h
        · cases h
        · rename_i hip
          cases h
          simp only [Bool.or_eq_true, not_or, Bool.not_eq_true] at hip
          exact ⟨rfl, rfl, hport, .inl ⟨htype, rfl⟩, hip.1.1, hip.2, hip.1.2⟩
      · split at h
        · rename_i htype
          dsimp only at h
          split at h
          · cases h
          · rename_i hip
            cases h
            simp only [Bool.or_eq_true, not_or, Bool.not_eq_true] at hip
            exact ⟨rfl, rfl, hport, .inr ⟨htype, rfl⟩, hip.1, hip.2, rfl⟩
        · cases h
  · rintro ⟨hid, hport, hne, hip, hspecified, hunicast, hnarrow⟩
    dsimp only at hid hport hip hspecified hunicast hnarrow
    subst hid hport
    rw [if_neg hne]
    rcases hip with ⟨htype, rfl⟩ | ⟨htype, rfl⟩
    · rw [if_pos htype]
      simp only [hspecified, hunicast, hnarrow]
      rfl
    · rw [if_neg (by rw [htype]; decide), if_pos htype]
      simp only [hspecified, hunicast]
      rfl

theorem mapM_cToContact_eq_ok : ∀ {rows : List CSerializedContact} {contacts : List Contact},
    rows.mapM cToContact = .ok contacts ↔ List.Forall₂ Usable rows contacts
  | [], contacts => by
    constructor
    · intro h
      obtain rfl : [] = contacts := Except.ok.inj h
      exact .nil
    · intro h
      cases h
      rfl
  | row :: rows, contacts => by
    rw [List.mapM_cons]
    constructor
    · intro h
      cases hrow : cToContact row with
      | error e =>
        rw [hrow] at h
        cases h
      | ok c =>
        rw [hrow] at h
        cases hrows : rows.mapM cToContact with
        | error e =>
          rw [hrows] at h
          cases h
        | ok cs =>
          rw [hrows] at h
          obtain rfl : c :: cs = contacts := Except.ok.inj h
          exact .cons (cToContact_eq_ok.1 hrow) (mapM_cToContact_eq_ok.1 hrows)
    · intro h
      cases h with
      | cons hrow hrows =>
        rw [cToContact_eq_ok.2 hrow, mapM_cToContact_eq_ok.2 hrows]
        rfl

/-! ## What the bytes hold -/

/-- The fields the bytes of a payload hold. -/
inductive FieldsText : UInt8 → Bytes → CMessagePayload → Prop where
  | ping : FieldsText msgPing [] .none
  | pong : FieldsText msgPong [] .none
  | store (key : NodeId) (value : Bytes) (hvalue : value.length ≤ maxValueSize) :
    FieldsText msgStore (key.bytes ++ valueText value) (.store key (UInt32.ofNat value.length) value)
  | storeAck (status : UInt8) : FieldsText msgStoreAck [status] (.storeAck status)
  | findNode (targetId : NodeId) : FieldsText msgFindNode targetId.bytes (.findNode targetId)
  | findNodeResp (count : UInt8) (rows : List CSerializedContact) (hrows : rows.length = min count.toNat maxContacts) :
    FieldsText msgFindNodeResp (rowsText count rows) (.findNodeResp rows)
  | findValue (key : NodeId) : FieldsText msgFindValue key.bytes (.findValue key)
  | found (hasValue : UInt8) (hfound : hasValue ≠ 0) (value : Bytes) (hvalue : value.length ≤ maxValueSize)
    (count : UInt8) (rows : List CSerializedContact) (hrows : rows.length = min count.toNat maxContacts) :
    FieldsText msgFindValueResp (hasValue :: (valueText value ++ rowsText count rows))
      (.findValueResp hasValue (UInt32.ofNat value.length) value rows)
  | notFound (count : UInt8) (rows : List CSerializedContact) (hrows : rows.length = min count.toNat maxContacts) :
    FieldsText msgFindValueResp (0 :: rowsText count rows) (.findValueResp 0 0 [] rows)

variable {buf : Bytes} {i : Nat}

theorem contact?_eq_some {c : CSerializedContact} : contact? buf i = some c ↔ At buf i (encodeContact c) := by
  refine ⟨fun h => ?_, contact?_of_at⟩
  simp only [contact?, Option.bind_eq_bind, Option.bind_eq_some_iff, Option.pure_def, Option.some.injEq] at h
  obtain ⟨id, hid, ipType, hty, ip, hip, port, hport, rfl⟩ := h
  unfold encodeContact
  rw [at_append, at_append, at_append]
  simp only [List.length_append, id.size, List.length_singleton, Vector.length_toList]
  exact ⟨⟨⟨id?_eq_some.1 hid, u8?_eq_some.1 hty⟩, array?_eq_some.1 hip⟩, u16?_eq_some.1 hport⟩

theorem contactsFrom?_eq_some : ∀ {count i : Nat} {rows : List CSerializedContact}, i ≤ buf.length →
    (contactsFrom? buf i count = some rows ↔ rows.length = count ∧ At buf i (rows.flatMap encodeContact))
  | 0, i, rows, hi => by
    rw [contactsFrom?, List.length_eq_zero_iff, Option.some.injEq]
    constructor
    · rintro rfl
      exact ⟨rfl, at_iff_append.2 ⟨buf.take i, buf.drop i, (List.take_append_drop i buf).symm, by simp [hi]⟩⟩
    · rintro ⟨rfl, -⟩
      rfl
  | count + 1, i, rows, hi => by
    simp only [contactsFrom?, Option.bind_eq_bind, Option.bind_eq_some_iff, Option.pure_def, Option.some.injEq]
    constructor
    · rintro ⟨c, hc, rest, hrest, rfl⟩
      have hat := contact?_eq_some.1 hc
      have hnext : i + contactSize ≤ buf.length := by
        have hlen := hat.1
        rwa [length_encodeContact] at hlen
      obtain ⟨hlen, hrows⟩ := (contactsFrom?_eq_some hnext).1 hrest
      rw [List.flatMap_cons, at_append, length_encodeContact]
      exact ⟨by rw [List.length_cons, hlen], hat, hrows⟩
    · rintro ⟨hlen, hat⟩
      cases rows with
      | nil => cases hlen
      | cons c rows =>
        rw [List.flatMap_cons, at_append, length_encodeContact] at hat
        have hnext : i + contactSize ≤ buf.length := by
          have hlen := hat.1.1
          rwa [length_encodeContact] at hlen
        exact ⟨c, contact?_eq_some.2 hat.1, rows,
          (contactsFrom?_eq_some hnext).2 ⟨Nat.succ.inj hlen, hat.2⟩, rfl⟩

theorem contacts?_eq_some {rows : List CSerializedContact} : contacts? buf i = some rows ↔
    ∃ count : UInt8, rows.length = min count.toNat maxContacts ∧ At buf i (rowsText count rows) := by
  unfold contacts? rowsText
  simp only [Option.bind_eq_bind, Option.bind_eq_some_iff]
  constructor
  · rintro ⟨count, hcount, hrows⟩
    have hat := u8?_eq_some.1 hcount
    obtain ⟨hlen, hrest⟩ := (contactsFrom?_eq_some hat.1).1 hrows
    exact ⟨count, hlen, at_cons.2 ⟨hat, hrest⟩⟩
  · rintro ⟨count, hlen, hat⟩
    obtain ⟨hcount, hrest⟩ := at_cons.1 hat
    exact ⟨count, u8?_eq_some.2 hcount, (contactsFrom?_eq_some hcount.1).2 ⟨hlen, hrest⟩⟩

theorem value?_eq_some {len : UInt32} {value : Bytes} : value? buf i = some (len, value) ↔
    len = UInt32.ofNat value.length ∧ value.length ≤ maxValueSize ∧ At buf i (valueText value) := by
  constructor
  · intro h
    have hmax := length_value? h
    simp only [value?, Option.bind_eq_bind, Option.bind_eq_some_iff] at h
    obtain ⟨vlen, hlen, h⟩ := h
    split at h
    · cases h
    · simp only [Option.bind_eq_some_iff, Option.pure_def, Option.some.injEq, Prod.mk.injEq] at h
      obtain ⟨v, hv, rfl, rfl⟩ := h
      obtain ⟨hsize, hat⟩ := slice?_eq_some_iff_at.1 hv
      refine ⟨by rw [hsize, UInt32.ofNat_toNat], hmax, ?_⟩
      unfold valueText
      rw [at_append, length_toBe, hsize]
      exact ⟨u32?_eq_some.1 hlen, hat⟩
  · rintro ⟨rfl, hmax, hat⟩
    exact value?_of_at hmax hat

theorem at_nil_of_le (hi : i ≤ buf.length) : At buf i [] := ⟨hi, rfl⟩

/-- The decoder reads off the fields of a payload that stands at the place, and of no other. -/
theorem payload?_eq_some {msgType : UInt8} {fields : CMessagePayload} (hi : i ≤ buf.length) :
    payload? buf i msgType = some fields ↔ ∃ text, FieldsText msgType text fields ∧ At buf i text := by
  constructor
  · intro h
    unfold payload? at h
    split at h
    · rename_i hping
      cases h
      rcases hping with rfl | rfl
      · exact ⟨[], .ping, at_nil_of_le hi⟩
      · exact ⟨[], .pong, at_nil_of_le hi⟩
    split at h
    · rename_i hty
      subst hty
      simp only [Option.bind_eq_bind, Option.bind_eq_some_iff, Option.pure_def, Option.some.injEq] at h
      obtain ⟨key, hkey, ⟨len, value⟩, hvalue, rfl⟩ := h
      obtain ⟨rfl, hmax, hat⟩ := value?_eq_some.1 hvalue
      refine ⟨_, .store key value hmax, at_append.2 ⟨id?_eq_some.1 hkey, ?_⟩⟩
      rwa [key.size]
    split at h
    · rename_i hty
      subst hty
      obtain ⟨status, hstatus, rfl⟩ := Option.map_eq_some_iff.1 h
      exact ⟨_, .storeAck status, u8?_eq_some.1 hstatus⟩
    split at h
    · rename_i hty
      subst hty
      obtain ⟨target, htarget, rfl⟩ := Option.map_eq_some_iff.1 h
      exact ⟨_, .findNode target, id?_eq_some.1 htarget⟩
    split at h
    · rename_i hty
      subst hty
      obtain ⟨rows, hrows, rfl⟩ := Option.map_eq_some_iff.1 h
      obtain ⟨count, hlen, hat⟩ := contacts?_eq_some.1 hrows
      exact ⟨_, .findNodeResp count rows hlen, hat⟩
    split at h
    · rename_i hty
      subst hty
      obtain ⟨key, hkey, rfl⟩ := Option.map_eq_some_iff.1 h
      exact ⟨_, .findValue key, id?_eq_some.1 hkey⟩
    split at h
    · rename_i hty
      subst hty
      simp only [Option.bind_eq_bind, Option.bind_eq_some_iff] at h
      obtain ⟨hasValue, hhas, h⟩ := h
      split at h
      · rename_i hfound
        simp only [Option.bind_eq_some_iff, Option.pure_def, Option.some.injEq] at h
        obtain ⟨⟨len, value⟩, hvalue, rows, hrows, rfl⟩ := h
        obtain ⟨rfl, hmax, hat⟩ := value?_eq_some.1 hvalue
        obtain ⟨count, hlen, hrat⟩ := contacts?_eq_some.1 hrows
        refine ⟨_, .found hasValue hfound value hmax count rows hlen, at_cons.2 ⟨u8?_eq_some.1 hhas, ?_⟩⟩
        refine at_append.2 ⟨hat, ?_⟩
        have hplace : i + 5 + value.length = i + 1 + (valueText value).length := by
          rw [valueText, List.length_append, length_toBe]
          omega
        rwa [← hplace]
      · rename_i hzero
        simp only [Option.bind_eq_some_iff, Option.pure_def, Option.some.injEq] at h
        obtain ⟨rows, hrows, rfl⟩ := h
        obtain ⟨count, hlen, hat⟩ := contacts?_eq_some.1 hrows
        obtain rfl : hasValue = 0 := not_not.1 hzero
        exact ⟨_, .notFound count rows hlen, at_cons.2 ⟨u8?_eq_some.1 hhas, hat⟩⟩
    · cases h
  · rintro ⟨text, hfields, hat⟩
    unfold payload?
    cases hfields with
    | ping => rfl
    | pong => rfl
    | store key value hmax =>
      obtain ⟨hkey, hvalue⟩ := at_append.1 hat
      rw [key.size] at hvalue
      rw [if_neg (by decide), if_pos rfl, id?_eq_some.2 hkey]
      show (value? buf (i + 20)).bind _ = _
      rw [value?_eq_some.2 ⟨rfl, hmax, hvalue⟩]
      rfl
    | storeAck status =>
      rw [if_neg (by decide), if_neg (by decide), if_pos rfl, u8?_eq_some.2 hat]
      rfl
    | findNode target =>
      rw [if_neg (by decide), if_neg (by decide), if_neg (by decide), if_pos rfl, id?_eq_some.2 hat]
      rfl
    | findNodeResp count rows hlen =>
      rw [if_neg (by decide), if_neg (by decide), if_neg (by decide), if_neg (by decide), if_pos rfl,
        contacts?_eq_some.2 ⟨count, hlen, hat⟩]
      rfl
    | findValue key =>
      rw [if_neg (by decide), if_neg (by decide), if_neg (by decide), if_neg (by decide), if_neg (by decide),
        if_pos rfl, id?_eq_some.2 hat]
      rfl
    | found hasValue hfound value hmax count rows hlen =>
      obtain ⟨hhas, hrest⟩ := at_cons.1 hat
      obtain ⟨hvalue, hrows⟩ := at_append.1 hrest
      have hplace : i + 1 + (valueText value).length = i + 5 + value.length := by
        rw [valueText, List.length_append, length_toBe]
        omega
      rw [hplace] at hrows
      rw [if_neg (by decide), if_neg (by decide), if_neg (by decide), if_neg (by decide), if_neg (by decide),
        if_neg (by decide), if_pos rfl, u8?_eq_some.2 hhas]
      show (if hasValue ≠ 0 then _ else _) = _
      rw [if_pos hfound, value?_eq_some.2 ⟨rfl, hmax, hvalue⟩]
      show (contacts? buf (i + 5 + value.length)).bind _ = _
      rw [contacts?_eq_some.2 ⟨count, hlen, hrows⟩]
      rfl
    | notFound count rows hlen =>
      obtain ⟨hhas, hrows⟩ := at_cons.1 hat
      rw [if_neg (by decide), if_neg (by decide), if_neg (by decide), if_neg (by decide), if_neg (by decide),
        if_neg (by decide), if_pos rfl, u8?_eq_some.2 hhas]
      show (contacts? buf (i + 1)).bind _ = _
      rw [contacts?_eq_some.2 ⟨count, hlen, hrows⟩]
      rfl

/-- What the fields say: a contact is checked where it is used. -/
theorem payloadText_iff {msgType : UInt8} {text : Bytes} {p : RpcPayload} : PayloadText msgType text p ↔
    ∃ fields, FieldsText msgType text fields ∧ RpcMessage.fromCPayload msgType fields = .ok p := by
  have hcontacts : ∀ (rows : List CSerializedContact) (f : List Contact → RpcPayload),
      (rows.mapM cToContact).map f = .ok p ↔ ∃ contacts, List.Forall₂ Usable rows contacts ∧ f contacts = p := by
    intro rows f
    constructor
    · intro h
      cases hrows : rows.mapM cToContact with
      | error e =>
        rw [hrows] at h
        cases h
      | ok contacts =>
        rw [hrows] at h
        exact ⟨contacts, mapM_cToContact_eq_ok.1 hrows, Except.ok.inj h⟩
    · rintro ⟨contacts, husable, rfl⟩
      rw [mapM_cToContact_eq_ok.2 husable]
      rfl
  constructor
  · intro h
    cases h with
    | ping => exact ⟨_, .ping, rfl⟩
    | pong => exact ⟨_, .pong, rfl⟩
    | store key value hmax =>
      refine ⟨_, .store key value hmax, ?_⟩
      show (if (UInt32.ofNat value.length).toNat > maxValueSize then _ else _) = _
      rw [toNat_valueLen hmax, if_neg (by omega)]
    | storeAck status => exact ⟨_, .storeAck status, rfl⟩
    | findNode target => exact ⟨_, .findNode target, rfl⟩
    | findNodeResp count rows contacts hlen husable =>
      exact ⟨_, .findNodeResp count rows hlen, (hcontacts rows _).2 ⟨contacts, husable, rfl⟩⟩
    | findValue key => exact ⟨_, .findValue key, rfl⟩
    | found hasValue hfound value hmax count rows hlen =>
      refine ⟨_, .found hasValue hfound value hmax count rows hlen, ?_⟩
      show (if hasValue ≠ 0 then _ else _) = _
      rw [if_pos hfound, toNat_valueLen hmax, if_neg (by omega)]
    | notFound count rows contacts hlen husable =>
      exact ⟨_, .notFound count rows hlen, (hcontacts rows _).2 ⟨contacts, husable, rfl⟩⟩
  · rintro ⟨fields, hfields, h⟩
    cases hfields with
    | ping =>
      cases h
      exact .ping
    | pong =>
      cases h
      exact .pong
    | store key value hmax =>
      have hp : (if (UInt32.ofNat value.length).toNat > maxValueSize then
          Except.error "Store value len exceeds max" else .ok (RpcPayload.store key value)) = .ok p := h
      rw [toNat_valueLen hmax, if_neg (by omega)] at hp
      cases hp
      exact .store key value hmax
    | storeAck status =>
      cases h
      exact .storeAck status
    | findNode target =>
      cases h
      exact .findNode target
    | findNodeResp count rows hlen =>
      obtain ⟨contacts, husable, rfl⟩ := (hcontacts rows _).1 h
      exact .findNodeResp count rows contacts hlen husable
    | findValue key =>
      cases h
      exact .findValue key
    | found hasValue hfound value hmax count rows hlen =>
      have hp : (if hasValue ≠ 0 then
          if (UInt32.ofNat value.length).toNat > maxValueSize then Except.error "Value len exceeds max"
          else .ok (RpcPayload.findValueResp (some value) [])
        else (rows.mapM cToContact).map (.findValueResp none)) = .ok p := h
      rw [if_pos hfound, toNat_valueLen hmax, if_neg (by omega)] at hp
      cases hp
      exact .found hasValue hfound value hmax count rows hlen
    | notFound count rows hlen =>
      obtain ⟨contacts, husable, rfl⟩ := (hcontacts rows _).1 h
      exact .notFound count rows contacts hlen husable

namespace RpcMessage

theorem ffiDecodeMessage_eq_some {c : CMessage} : ffiDecodeMessage buf = some c ↔ ∃ text,
    FieldsText c.msgType text c.payload ∧
      At buf 0 ([c.msgType] ++ toBe 8 c.requestId.toNat ++ c.senderId.bytes ++ text) := by
  simp only [ffiDecodeMessage, Option.bind_eq_bind, Option.bind_eq_some_iff, Option.pure_def, Option.some.injEq]
  constructor
  · rintro ⟨msgType, htype, requestId, hrequest, senderId, hsender, payload, hpayload, rfl⟩
    have hid := id?_eq_some.1 hsender
    have hheader : headerSize ≤ buf.length := by
      have hlen := hid.1
      rwa [senderId.size] at hlen
    obtain ⟨text, hfields, hat⟩ := (payload?_eq_some hheader).1 hpayload
    refine ⟨text, hfields, ?_⟩
    simp only [at_append, List.length_append, List.length_singleton, length_toBe, senderId.size]
    exact ⟨⟨⟨u8?_eq_some.1 htype, u64?_eq_some.1 hrequest⟩, hid⟩, hat⟩
  · rintro ⟨text, hfields, hat⟩
    obtain ⟨msgType, requestId, senderId, payload⟩ := c
    simp only [at_append, List.length_append, List.length_singleton, length_toBe, senderId.size] at hat
    obtain ⟨⟨⟨htype, hrequest⟩, hsender⟩, hpayload⟩ := hat
    have hheader : headerSize ≤ buf.length := by
      have hlen := hsender.1
      rwa [senderId.size] at hlen
    exact ⟨msgType, u8?_eq_some.2 htype, requestId, u64?_eq_some.2 hrequest, senderId, id?_eq_some.2 hsender, payload,
      (payload?_eq_some hheader).2 ⟨text, hfields, hpayload⟩, rfl⟩

theorem fromCMessage_eq_ok {c : CMessage} {m : RpcMessage} : fromCMessage c = .ok m ↔
    m.requestId = c.requestId ∧ m.senderId = c.senderId ∧ fromCPayload c.msgType c.payload = .ok m.payload := by
  unfold fromCMessage
  cases hp : fromCPayload c.msgType c.payload with
  | error e =>
    constructor
    · intro h
      cases h
    · rintro ⟨-, -, h⟩
      cases h
  | ok p =>
    constructor
    · intro h
      cases h
      exact ⟨rfl, rfl, rfl⟩
    · rintro ⟨hrequest, hsender, hpayload⟩
      obtain rfl := Except.ok.inj hpayload
      rw [← hrequest, ← hsender]
      rfl

/-- A datagram is a message exactly if it begins with one. -/
theorem decode_eq_ok_iff {m : RpcMessage} : decode buf = .ok m ↔
    ∃ text rest, buf = text ++ rest ∧ MessageText text m := by
  rw [decode_eq_ok]
  constructor
  · rintro ⟨c, hc, hm⟩
    obtain ⟨text, hfields, hat⟩ := ffiDecodeMessage_eq_some.1 hc
    obtain ⟨hrequest, hsender, hpayload⟩ := fromCMessage_eq_ok.1 hm
    obtain ⟨front, rest, hbuf, hfront⟩ := at_iff_append.1 hat
    obtain rfl := List.length_eq_zero_iff.1 hfront
    refine ⟨_, rest, hbuf, c.msgType, text, ?_, payloadText_iff.2 ⟨c.payload, hfields, hpayload⟩⟩
    rw [hrequest, hsender]
  · rintro ⟨text, rest, rfl, msgType, payload, rfl, hpayload⟩
    obtain ⟨fields, hfields, hp⟩ := payloadText_iff.1 hpayload
    exact ⟨⟨msgType, m.requestId, m.senderId, fields⟩,
      ffiDecodeMessage_eq_some.2 ⟨payload, hfields, at_iff_append.2 ⟨[], rest, rfl, rfl⟩⟩,
      fromCMessage_eq_ok.2 ⟨rfl, rfl, hp⟩⟩

end RpcMessage

/-! ## The accesses of the decoder -/

/-- An access out of range panics. -/
def orPanic {α : Type} : Option α → Outcome α Int
  | some a => .ok a
  | none => .panic

def CSerializedContact.default : CSerializedContact where
  id := ⟨List.replicate idSize 0, List.length_replicate⟩
  ipType := 0
  ip := Vector.replicate 16 0
  port := 0

namespace Indexed

def contact (buf : Bytes) (cursor : Nat) : Outcome CSerializedContact Int :=
  (orPanic (id? buf cursor)).bind fun id =>
    (orPanic (u8? buf (cursor + idSize))).bind fun ipType =>
      (orPanic (array? 16 buf (cursor + idSize + 1))).bind fun ip =>
        (orPanic (u16? buf (cursor + idSize + 17))).bind fun port => .ok { id, ipType, ip, port }

/-- The loop that fills the slots from the `i`-th on. -/
def fill (buf : Bytes) : Nat → Nat → Nat → List CSerializedContact → Outcome (List CSerializedContact) Int
  | _, _, 0, slots => .ok slots
  | cursor, i, count + 1, slots =>
    (contact buf cursor).bind fun c =>
      if i < slots.length then fill buf (cursor + contactSize) (i + 1) count (slots.set i c) else .panic

/-- The slots in use. -/
def contacts (buf : Bytes) (cursor : Nat) : Outcome (List CSerializedContact) Int :=
  if buf.length < cursor + 1 then .err (-1)
  else
    (orPanic (u8? buf cursor)).bind fun n =>
      let count := min n.toNat maxContacts
      if buf.length < cursor + 1 + count * contactSize then .err (-1)
      else (fill buf (cursor + 1) 0 count (List.replicate maxContacts .default)).map (List.take count)

/-- The value behind its length, of which the four bytes are there. -/
def value (buf : Bytes) (cursor : Nat) : Outcome (UInt32 × Bytes) Int :=
  (orPanic (u32? buf cursor)).bind fun vlen =>
    if vlen.toNat > maxValueSize ∨ buf.length < cursor + 4 + vlen.toNat then .err (-1)
    else (orPanic (slice? buf (cursor + 4) vlen.toNat)).bind fun value => .ok (vlen, value)

def payload (buf : Bytes) (cursor : Nat) (msgType : UInt8) : Outcome CMessagePayload Int :=
  if msgType = msgPing ∨ msgType = msgPong then .ok .none
  else if msgType = msgStore then
    if buf.length < cursor + idSize + 4 then .err (-1)
    else
      (orPanic (id? buf cursor)).bind fun key =>
        (value buf (cursor + idSize)).bind fun v => .ok (.store key v.1 v.2)
  else if msgType = msgStoreAck then
    if buf.length < cursor + 1 then .err (-1) else (orPanic (u8? buf cursor)).map .storeAck
  else if msgType = msgFindNode then
    if buf.length < cursor + idSize then .err (-1) else (orPanic (id? buf cursor)).map .findNode
  else if msgType = msgFindNodeResp then (contacts buf cursor).map .findNodeResp
  else if msgType = msgFindValue then
    if buf.length < cursor + idSize then .err (-1) else (orPanic (id? buf cursor)).map .findValue
  else if msgType = msgFindValueResp then
    if buf.length < cursor + 1 then .err (-1)
    else
      (orPanic (u8? buf cursor)).bind fun hasValue =>
        if hasValue ≠ 0 then
          if buf.length < cursor + 1 + 4 then .err (-1)
          else
            (value buf (cursor + 1)).bind fun v =>
              (contacts buf (cursor + 5 + v.2.length)).map (.findValueResp hasValue v.1 v.2)
        else (contacts buf (cursor + 1)).map (.findValueResp hasValue 0 [])
  else .err (-1)

/-- `ffi_decode_message` with its accesses. -/
def ffiDecodeMessage (buf : Bytes) : Outcome CMessage Int :=
  if buf.length < headerSize then .err (-1)
  else
    (orPanic (u8? buf 0)).bind fun msgType =>
      (orPanic (u64? buf 1)).bind fun requestId =>
        (orPanic (id? buf 9)).bind fun senderId =>
          (payload buf headerSize msgType).bind fun payload => .ok { msgType, requestId, senderId, payload }

/-- `decode` with the accesses of `ffi_decode_message`. -/
def decode (buf : Bytes) : Outcome RpcMessage :=
  match ffiDecodeMessage buf with
  | .ok c =>
    match RpcMessage.fromCMessage c with
    | .ok m => .ok m
    | .error e => .err e
  | .err res => .err ("decode_message failed with code " ++ toString res)
  | .panic => .panic

/-! ### Behind the checks -/

/-- The decoder without accesses fails where the checks do. -/
def orErr {α : Type} : Option α → Outcome α Int
  | some a => .ok a
  | none => .err (-1)

theorem slice?_none {n : Nat} (h : buf.length < i + n) : slice? buf i n = none := by
  unfold slice?
  rw [if_neg (by omega)]

theorem u8?_none (h : buf.length < i + 1) : u8? buf i = none := List.getElem?_eq_none (by omega)

theorem id?_none (h : buf.length < i + idSize) : id? buf i = none := by
  cases hid : id? buf i with
  | none => rfl
  | some id =>
    have hlen := (id?_eq_some.1 hid).1
    rw [id.size] at hlen
    exact absurd hlen (Nat.not_le.2 h)

theorem exists_contact? (h : i + contactSize ≤ buf.length) : ∃ c, contact? buf i = some c := by
  have hsize : contactSize = idSize + 19 := rfl
  obtain ⟨id, hid⟩ := exists_id? (show i + idSize ≤ buf.length by omega)
  obtain ⟨ipType, hty⟩ := exists_u8? (show i + idSize + 1 ≤ buf.length by omega)
  obtain ⟨ip, hip⟩ := exists_slice? (show i + idSize + 1 + 16 ≤ buf.length by omega)
  obtain ⟨hlen, hat⟩ := slice?_eq_some_iff_at.1 hip
  obtain ⟨port, hport⟩ := exists_slice? (show i + idSize + 17 + 2 ≤ buf.length by omega)
  have harray : array? 16 buf (i + idSize + 1) = some ⟨ip.toArray, by rw [List.size_toArray, hlen]⟩ :=
    array?_eq_some.2 hat
  refine ⟨⟨id, ipType, ⟨ip.toArray, by rw [List.size_toArray, hlen]⟩, UInt16.ofNat (beNat port)⟩, ?_⟩
  unfold contact? u16?
  rw [hid, hty, harray, hport]
  rfl

theorem contact_eq {c : CSerializedContact} (h : contact? buf i = some c) : contact buf i = .ok c := by
  simp only [contact?, Option.bind_eq_bind, Option.bind_eq_some_iff, Option.pure_def, Option.some.injEq] at h
  obtain ⟨id, hid, ipType, hty, ip, hip, port, hport, rfl⟩ := h
  unfold contact
  rw [hid, hty, hip, hport]
  rfl

/-- As many contacts as fit are read. -/
theorem exists_contactsFrom? : ∀ {count i : Nat}, i + count * contactSize ≤ buf.length →
    ∃ rows, contactsFrom? buf i count = some rows
  | 0, _, _ => ⟨[], rfl⟩
  | count + 1, i, h => by
    rw [Nat.succ_mul] at h
    obtain ⟨c, hc⟩ := exists_contact? (show i + contactSize ≤ buf.length by omega)
    obtain ⟨rows, hrows⟩ := exists_contactsFrom? (show i + contactSize + count * contactSize ≤ buf.length by omega)
    refine ⟨c :: rows, ?_⟩
    rw [contactsFrom?, hc, hrows]
    rfl

theorem fits_of_contactsFrom? : ∀ {count i : Nat} {rows : List CSerializedContact}, i ≤ buf.length →
    contactsFrom? buf i count = some rows → i + count * contactSize ≤ buf.length := by
  intro count i rows hi h
  obtain ⟨hlen, hat⟩ := (contactsFrom?_eq_some hi).1 h
  have hfit := hat.1
  have hflat : (rows.flatMap encodeContact).length = count * contactSize := by
    rw [List.length_flatMap, ← hlen]
    simp
  rwa [hflat] at hfit

/-- The loop fills the slots one after the other. -/
theorem fill_eq : ∀ {count cursor i : Nat} {slots rows : List CSerializedContact},
    contactsFrom? buf cursor count = some rows → i + count ≤ slots.length →
    fill buf cursor i count slots = .ok (slots.take i ++ rows ++ slots.drop (i + count))
  | 0, cursor, i, slots, rows, h, hi => by
    obtain rfl : [] = rows := Option.some.inj h
    rw [fill, List.append_nil, Nat.add_zero, List.take_append_drop]
  | count + 1, cursor, i, slots, rows, h, hi => by
    simp only [contactsFrom?, Option.bind_eq_bind, Option.bind_eq_some_iff, Option.pure_def, Option.some.injEq] at h
    obtain ⟨c, hc, rest, hrest, rfl⟩ := h
    have hslots : (i + 1) + count ≤ (slots.set i c).length := by
      rw [List.length_set]
      omega
    have htake : (slots.set i c).take (i + 1) = slots.take i ++ [c] := by
      rw [List.take_add_one, List.take_set_of_le (Nat.le_refl i), List.getElem?_set_self (by omega)]
      rfl
    have hdrop : (slots.set i c).drop (i + 1 + count) = slots.drop (i + (count + 1)) := by
      rw [List.drop_set_of_lt (by omega)]
      congr 1
      omega
    rw [fill, contact_eq hc, Outcome.bind, if_pos (by omega), fill_eq hrest hslots, htake, hdrop]
    simp

theorem contacts_eq (buf : Bytes) (cursor : Nat) : contacts buf cursor = orErr (contacts? buf cursor) := by
  unfold contacts contacts?
  by_cases hlen : buf.length < cursor + 1
  · rw [if_pos hlen, u8?_none hlen]
    rfl
  · rw [if_neg hlen]
    obtain ⟨n, hn⟩ := exists_u8? (show cursor + 1 ≤ buf.length by omega)
    rw [hn]
    show (if buf.length < cursor + 1 + min n.toNat maxContacts * contactSize then _ else _) =
      orErr (contactsFrom? buf (cursor + 1) (min n.toNat maxContacts))
    cases hrows : contactsFrom? buf (cursor + 1) (min n.toNat maxContacts) with
    | none =>
      rw [if_pos]
      · rfl
      · by_contra hfit
        obtain ⟨rows, hrows'⟩ := exists_contactsFrom? (Nat.not_lt.1 hfit)
        rw [hrows] at hrows'
        cases hrows'
    | some rows =>
      have hfit := fits_of_contactsFrom? (by omega) hrows
      rw [if_neg (by omega), fill_eq hrows (by rw [List.length_replicate]; omega), List.take_zero, List.nil_append,
        Outcome.map, ← length_contactsFrom? hrows, List.take_left]
      rfl

theorem value_eq (h : i + 4 ≤ buf.length) : value buf i = orErr (value? buf i) := by
  obtain ⟨vlen, hvlen⟩ : ∃ vlen, u32? buf i = some vlen := by
    obtain ⟨s, hs⟩ := exists_slice? h
    unfold u32?
    rw [hs]
    exact ⟨_, rfl⟩
  unfold value value?
  rw [hvlen]
  show (if vlen.toNat > maxValueSize ∨ _ then _ else _) = orErr (if vlen.toNat > maxValueSize then _ else _)
  by_cases hmax : vlen.toNat > maxValueSize
  · rw [if_pos (.inl hmax), if_pos hmax]
    rfl
  · rw [if_neg hmax]
    by_cases hfit : buf.length < i + 4 + vlen.toNat
    · rw [if_pos (.inr hfit), slice?_none hfit]
      rfl
    · rw [if_neg (not_or.2 ⟨hmax, hfit⟩)]
      obtain ⟨v, hv⟩ := exists_slice? (Nat.not_lt.1 hfit)
      rw [hv]
      rfl

theorem value?_none (h : buf.length < i + 4) : value? buf i = none := by
  unfold value? u32?
  rw [slice?_none h]
  rfl

theorem orErr_bind {α β : Type} (x : Option α) (f : α → Option β) :
    orErr (x.bind f) = (orErr x).bind fun a => orErr (f a) := by
  cases x <;> rfl

theorem orErr_map {α β : Type} (x : Option α) (f : α → β) : orErr (x.map f) = (orErr x).map f := by
  cases x <;> rfl

/-- A check of the length in front of an access. -/
theorem checked_map {α β : Type} {n : Nat} {x : Option α} (f : α → β) (hnone : buf.length < n → x = none)
    (hsome : n ≤ buf.length → ∃ a, x = some a) :
    (if buf.length < n then .err (-1) else (orPanic x).map f) = orErr (x.map f) := by
  by_cases h : buf.length < n
  · rw [if_pos h, hnone h]
    rfl
  · rw [if_neg h]
    obtain ⟨a, rfl⟩ := hsome (by omega)
    rfl

theorem payload_eq (buf : Bytes) (cursor : Nat) (msgType : UInt8) :
    payload buf cursor msgType = orErr (payload? buf cursor msgType) := by
  unfold payload payload?
  split
  · rfl
  split
  · by_cases hlen : buf.length < cursor + idSize + 4
    · rw [if_pos hlen, value?_none hlen]
      cases id? buf cursor <;> rfl
    · rw [if_neg hlen]
      obtain ⟨key, hkey⟩ := exists_id? (show cursor + idSize ≤ buf.length by omega)
      rw [hkey, value_eq (by omega)]
      cases value? buf (cursor + idSize) <;> rfl
  split
  · exact checked_map _ u8?_none exists_u8?
  split
  · exact checked_map _ id?_none exists_id?
  split
  · rw [contacts_eq, orErr_map]
  split
  · exact checked_map _ id?_none exists_id?
  split
  · by_cases hlen : buf.length < cursor + 1
    · rw [if_pos hlen, u8?_none hlen]
      rfl
    · rw [if_neg hlen]
      obtain ⟨hasValue, hhas⟩ := exists_u8? (show cursor + 1 ≤ buf.length by omega)
      rw [hhas]
      show (if hasValue ≠ 0 then _ else _) = orErr (if hasValue ≠ 0 then _ else _)
      split
      · by_cases hvalue : buf.length < cursor + 1 + 4
        · rw [if_pos hvalue, value?_none hvalue]
          rfl
        · rw [if_neg hvalue, value_eq (by omega)]
          cases hv : value? buf (cursor + 1) with
          | none => rfl
          | some v =>
            show (contacts buf (cursor + 5 + v.2.length)).map _ = orErr ((contacts? buf _).bind _)
            rw [contacts_eq, orErr_bind]
            cases contacts? buf (cursor + 5 + v.2.length) <;> rfl
      · rw [contacts_eq]
        cases contacts? buf (cursor + 1) <;> rfl
  · rfl

/-- Behind the checks no access is out of range. -/
theorem ffiDecodeMessage_eq (buf : Bytes) : ffiDecodeMessage buf = orErr (NodeX.Kad.ffiDecodeMessage buf) := by
  have hsize : headerSize = 9 + idSize := rfl
  unfold ffiDecodeMessage NodeX.Kad.ffiDecodeMessage
  by_cases hlen : buf.length < headerSize
  · rw [if_pos hlen, id?_none (show buf.length < 9 + idSize by omega)]
    cases u8? buf 0 <;> cases u64? buf 1 <;> rfl
  · rw [if_neg hlen]
    obtain ⟨msgType, hty⟩ := exists_u8? (show 0 + 1 ≤ buf.length by omega)
    have hid : idSize = 20 := rfl
    obtain ⟨s, hs⟩ := exists_slice? (show 1 + 8 ≤ buf.length by omega)
    obtain ⟨senderId, hsender⟩ := exists_id? (show 9 + idSize ≤ buf.length by omega)
    unfold u64?
    rw [hty, hs, hsender, Option.map_some]
    show (payload buf headerSize msgType).bind _ = orErr ((payload? buf headerSize msgType).bind _)
    rw [payload_eq, orErr_bind]
    cases payload? buf headerSize msgType <;> rfl

theorem decode_eq (buf : Bytes) : decode buf =
    match RpcMessage.decode buf with
    | .ok m => .ok m
    | .error e => .err e := by
  unfold decode RpcMessage.decode
  rw [ffiDecodeMessage_eq]
  cases NodeX.Kad.ffiDecodeMessage buf <;> rfl

/-- No access is out of range, a datagram is a message exactly if it begins with one, and what comes after it makes no
difference. -/
theorem decode_exact (buf : Bytes) : decode buf ≠ .panic ∧
    (∀ m, decode buf = .ok m ↔ ∃ text rest, buf = text ++ rest ∧ MessageText text m) ∧
    ∀ text rest m, buf = text ++ rest → MessageText text m → ∀ rest', decode (text ++ rest') = decode buf := by
  have hok : ∀ (bytes : Bytes) (m : RpcMessage), decode bytes = .ok m ↔
      ∃ text rest, bytes = text ++ rest ∧ MessageText text m := by
    intro bytes m
    rw [← RpcMessage.decode_eq_ok_iff, decode_eq]
    cases RpcMessage.decode bytes <;> simp
  refine ⟨?_, hok buf, fun text rest m hbuf hm rest' => ?_⟩
  · rw [decode_eq]
    cases RpcMessage.decode buf <;> simp
  · rw [(hok buf m).2 ⟨text, rest, hbuf, hm⟩, (hok (text ++ rest') m).2 ⟨text, rest', rfl, hm⟩]

end Indexed

end NodeX.Kad
