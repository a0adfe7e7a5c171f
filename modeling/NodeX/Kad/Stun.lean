/-
`stun.rs`: the Binding Request and the parser of its response. Every access to the buffer is checked here, so that a
read behind its end is a panic. A response is written out as its attributes one after the other, each padded to four
bytes; the parser returns the address of the first that has one.
-/
import NodeX.Core.Buffer

namespace NodeX.Kad

open NodeX.Lib

namespace StunClient

/-! ## The parser -/

def stunMagicCookie : UInt32 := 0x2112A442

def bindingRequest : UInt16 := 0x0001

def bindingResponse : UInt16 := 0x0101

def attrMappedAddress : UInt16 := 0x0001

def attrXorMappedAddress : UInt16 := 0x0020

def buildBindingRequest (transactionId : Vector UInt8 12) : Bytes :=
  toBe 2 bindingRequest.toNat ++ [0, 0] ++ toBe 4 stunMagicCookie.toNat ++ transactionId.toList

/-- An access to a buffer, which panics behind its end. -/
def checked {α : Type} : Option α → Outcome α
  | some a => .ok a
  | none => .panic

/-- `Ipv4Addr::from` of a number. -/
def ipv4OfNumber (ip : UInt32) : IpAddr :=
  .v4 #v[(ip >>> 24).toUInt8, (ip >>> 16).toUInt8, (ip >>> 8).toUInt8, ip.toUInt8]

/-- The address in the value of an attribute; only IPv4 is looked for. -/
def addressIn (attrType : UInt16) (attrVal : Bytes) : Outcome (Option SocketAddr) :=
  if attrType = attrXorMappedAddress ∧ 8 ≤ attrVal.length then
    (checked (u8? attrVal 1)).bind fun family =>
      if family = 1 then
        (checked (u16? attrVal 2)).bind fun xorPort =>
          (checked (u32? attrVal 4)).map fun xorIp =>
            some ⟨ipv4OfNumber (xorIp ^^^ stunMagicCookie), xorPort ^^^ (stunMagicCookie >>> 16).toUInt16⟩
      else .ok none
  else if attrType = attrMappedAddress ∧ 8 ≤ attrVal.length then
    (checked (u8? attrVal 1)).bind fun family =>
      if family = 1 then
        (checked (u16? attrVal 2)).bind fun port =>
          (checked (array? 4 attrVal 4)).map fun ip => some ⟨.v4 ip, port⟩
      else .ok none
  else .ok none

/-- What fills an attribute up to four bytes. -/
def paddingOf (attrLen : Nat) : Nat := (4 - attrLen % 4) % 4

/-- The loop over the attributes up to `stop`. -/
def attributes (buf : Bytes) (stop offset : Nat) : Outcome (Option SocketAddr) :=
  if offset + 4 ≤ stop then
    (checked (u16? buf offset)).bind fun attrType =>
      (checked (u16? buf (offset + 2))).bind fun attrLen =>
        let value := offset + 4
        if stop < value + attrLen.toNat then .ok none
        else
          (checked (slice? buf value attrLen.toNat)).bind fun attrVal =>
            (addressIn attrType attrVal).bind fun found =>
              match found with
              | some addr => .ok (some addr)
              | none => attributes buf stop (value + (attrLen.toNat + paddingOf attrLen.toNat))
  else .ok none
termination_by stop - offset

def parseBindingResponse (buf : Bytes) (transactionId : Vector UInt8 12) : Outcome (Option SocketAddr) :=
  if buf.length < 20 then .ok none
  else
    (checked (u16? buf 0)).bind fun msgType =>
      if msgType ≠ bindingResponse then .ok none
      else
        (checked (u16? buf 2)).bind fun msgLen =>
          (checked (u32? buf 4)).bind fun magic =>
            (checked (slice? buf 8 12)).bind fun respTid =>
              if magic ≠ stunMagicCookie ∨ respTid ≠ transactionId.toList then .ok none
              else attributes buf (min (20 + msgLen.toNat) buf.length) 20

/-! ## Responses -/

/-- An attribute as it is sent. -/
structure StunAttribute where
  attrType : UInt16
  value : Bytes
  padding : Bytes
  length_value : value.length < 2 ^ 16
  length_padding : padding.length = paddingOf value.length

/-- The address in a value of at least eight bytes; in an XOR-MAPPED-ADDRESS each byte is mixed with one of the
cookie. -/
def addressOf (attrType : UInt16) : Bytes → Option SocketAddr
  | _ :: family :: p :: q :: i :: j :: k :: l :: _ =>
    if family ≠ 1 then none
    else if attrType = attrXorMappedAddress then
      some ⟨.v4 #v[i ^^^ 0x21, j ^^^ 0x12, k ^^^ 0xA4, l ^^^ 0x42], UInt16.ofNat (beNat [p ^^^ 0x21, q ^^^ 0x12])⟩
    else if attrType = attrMappedAddress then some ⟨.v4 #v[i, j, k, l], UInt16.ofNat (beNat [p, q])⟩
    else none
  | _ => none

namespace StunAttribute

def bytes (a : StunAttribute) : Bytes :=
  toBe 2 a.attrType.toNat ++ toBe 2 a.value.length ++ a.value ++ a.padding

/-- The IPv4 address that an attribute tells. -/
def address? (a : StunAttribute) : Option SocketAddr := addressOf a.attrType a.value

end StunAttribute

/-- A Binding Response: any attributes, as many as the length in the header can tell. -/
structure StunResponse where
  attributes : List StunAttribute
  length_attributes : (attributes.flatMap StunAttribute.bytes).length < 2 ^ 16

namespace StunResponse

def bytes (r : StunResponse) (transactionId : Vector UInt8 12) : Bytes :=
  toBe 2 bindingResponse.toNat ++ toBe 2 (r.attributes.flatMap StunAttribute.bytes).length ++
    toBe 4 stunMagicCookie.toNat ++ transactionId.toList ++ r.attributes.flatMap StunAttribute.bytes

/-- The first address that an attribute tells. -/
def address? (r : StunResponse) : Option SocketAddr := r.attributes.findSome? StunAttribute.address?

end StunResponse

/-- What makes a datagram the response to a request with this id. -/
structure IsResponseTo (buf : Bytes) (transactionId : Vector UInt8 12) : Prop where
  length : 20 ≤ buf.length
  msgType : At buf 0 (toBe 2 bindingResponse.toNat)
  magic : At buf 4 (toBe 4 stunMagicCookie.toNat)
  tid : At buf 8 transactionId.toList

/-! ## No read behind the end -/

section Reads

variable {α : Type}

theorem checked_eq_ok {x : Option α} {a : α} : checked x = .ok a ↔ x = some a := by
  cases x <;> simp [checked]

theorem exists_checked {x : Option α} (h : ∃ a, x = some a) : ∃ a, checked x = .ok a := by
  obtain ⟨a, ha⟩ := h
  exact ⟨a, checked_eq_ok.2 ha⟩

end Reads

/-! ## Addresses -/

theorem ofNat_xor_cookie (p q : UInt8) :
    UInt16.ofNat (beNat [p, q]) ^^^ (stunMagicCookie >>> 16).toUInt16 =
      UInt16.ofNat (beNat [p ^^^ 0x21, q ^^^ 0x12]) := by
  have hp := p.toNat_lt
  have hq := q.toNat_lt
  have hp' := (p ^^^ 0x21).toNat_lt
  have hq' := (q ^^^ 0x12).toNat_lt
  have hkey : (stunMagicCookie >>> 16).toUInt16.toNat = 0x2112 := by decide
  have hhigh := Nat.xor_div_two_pow (a := p.toNat * 256 + q.toNat) (b := 0x2112) (n := 8)
  have hlow := Nat.xor_mod_two_pow (a := p.toNat * 256 + q.toNat) (b := 0x2112) (n := 8)
  have hdiv : (p.toNat * 256 + q.toNat) / 2 ^ 8 = p.toNat := by omega
  have hmod : (p.toNat * 256 + q.toNat) % 2 ^ 8 = q.toNat := by omega
  rw [hdiv, show 0x2112 / 2 ^ 8 = (0x21 : UInt8).toNat from rfl, ← UInt8.toNat_xor] at hhigh
  rw [hmod, show 0x2112 % 2 ^ 8 = (0x12 : UInt8).toNat from rfl, ← UInt8.toNat_xor] at hlow
  refine UInt16.toNat_inj.1 ?_
  rw [UInt16.toNat_xor, hkey, UInt16.toNat_ofNat', UInt16.toNat_ofNat']
  simp only [beNat, List.foldl_cons, List.foldl_nil, Nat.zero_mul, Nat.zero_add]
  rw [Nat.mod_eq_of_lt (by omega), Nat.mod_eq_of_lt (by omega)]
  omega

/-- The bytes of a number are those it was read from. -/
theorem toUInt8_ofNat_beNat (i j k l : UInt8) :
    (UInt32.ofNat (beNat [i, j, k, l]) >>> 24).toUInt8 = i ∧ (UInt32.ofNat (beNat [i, j, k, l]) >>> 16).toUInt8 = j ∧
      (UInt32.ofNat (beNat [i, j, k, l]) >>> 8).toUInt8 = k ∧ (UInt32.ofNat (beNat [i, j, k, l])).toUInt8 = l := by
  have hi := i.toNat_lt
  have hj := j.toNat_lt
  have hk := k.toNat_lt
  have hl := l.toNat_lt
  refine ⟨?_, ?_, ?_, ?_⟩
  all_goals
    refine UInt8.toNat_inj.1 ?_
    simp [beNat, Nat.shiftRight_eq_div_pow] <;> omega

theorem ipv4OfNumber_xor_cookie (i j k l : UInt8) :
    ipv4OfNumber (UInt32.ofNat (beNat [i, j, k, l]) ^^^ stunMagicCookie) =
      .v4 #v[i ^^^ 0x21, j ^^^ 0x12, k ^^^ 0xA4, l ^^^ 0x42] := by
  obtain ⟨hi, hj, hk, hl⟩ := toUInt8_ofNat_beNat i j k l
  unfold ipv4OfNumber
  simp only [UInt32.shiftRight_xor, UInt32.toUInt8_xor, hi, hj, hk, hl]
  rfl

/-- The parser finds the address of a value, and reads nothing behind its end. -/
theorem addressIn_eq (attrType : UInt16) (attrVal : Bytes) :
    addressIn attrType attrVal = .ok (addressOf attrType attrVal) := by
  have hne : attrMappedAddress ≠ attrXorMappedAddress := by decide
  unfold addressIn
  match attrVal with
  | b :: family :: p :: q :: i :: j :: k :: l :: rest =>
    have hlen : 8 ≤ (b :: family :: p :: q :: i :: j :: k :: l :: rest).length := by simp
    have hfamily : u8? (b :: family :: p :: q :: i :: j :: k :: l :: rest) 1 = some family := rfl
    have hport : u16? (b :: family :: p :: q :: i :: j :: k :: l :: rest) 2 = some (UInt16.ofNat (beNat [p, q])) := by
      simp [u16?, slice?]
    have hip : u32? (b :: family :: p :: q :: i :: j :: k :: l :: rest) 4 =
        some (UInt32.ofNat (beNat [i, j, k, l])) := by
      simp [u32?, slice?]
    have hoctets : array? 4 (b :: family :: p :: q :: i :: j :: k :: l :: rest) 4 = some #v[i, j, k, l] :=
      array?_eq_some.2 ⟨by simp, rfl⟩
    rw [hfamily, hport, hip, hoctets]
    simp only [hlen, and_true, checked, Outcome.bind, Outcome.map, addressOf, ipv4OfNumber_xor_cookie,
      ofNat_xor_cookie]
    by_cases hf : family = 1
    · by_cases hxor : attrType = attrXorMappedAddress
      · simp [hf, hxor]
      · by_cases hmapped : attrType = attrMappedAddress
        · simp [hf, hmapped, hne]
        · simp [hf, hxor, hmapped]
    · by_cases hxor : attrType = attrXorMappedAddress
      · simp [hf, hxor]
      · by_cases hmapped : attrType = attrMappedAddress
        · simp [hf, hmapped, hne]
        · simp [hf, hxor, hmapped]
  | [] | [_] | [_, _] | [_, _, _] | [_, _, _, _] | [_, _, _, _, _] | [_, _, _, _, _, _] | [_, _, _, _, _, _, _] =>
    simp [addressOf]

/-! ## The loop -/

/-- The loop reads nothing behind the end. -/
theorem exists_attributes {buf : Bytes} {stop : Nat} (hstop : stop ≤ buf.length) (offset : Nat) :
    ∃ found, attributes buf stop offset = .ok found := by
  induction hn : stop - offset using Nat.strong_induction_on generalizing offset with
  | _ n ih =>
    rw [attributes]
    split
    · rename_i hoffset
      obtain ⟨attrType, htype⟩ := exists_checked (exists_u16? (show offset + 2 ≤ buf.length by omega))
      obtain ⟨attrLen, hattrLen⟩ := exists_checked (exists_u16? (show offset + 2 + 2 ≤ buf.length by omega))
      rw [htype, hattrLen]
      simp only [Outcome.bind]
      split
      · exact ⟨none, rfl⟩
      · rename_i hvalue
        obtain ⟨attrVal, hval⟩ := exists_checked (exists_slice? (show offset + 4 + attrLen.toNat ≤ buf.length by omega))
        rw [hval]
        simp only [addressIn_eq]
        cases addressOf attrType attrVal with
        | some addr => exact ⟨some addr, rfl⟩
        | none => exact ih _ (by omega) _ rfl
    · exact ⟨none, rfl⟩

/-- The attribute at the cursor is looked at, and the loop goes on behind its padding. -/
theorem attributes_step {buf : Bytes} {stop offset : Nat} (a : StunAttribute) (hat : At buf offset a.bytes)
    (hstop : offset + a.bytes.length ≤ stop) :
    attributes buf stop offset = match a.address? with
      | some addr => .ok (some addr)
      | none => attributes buf stop (offset + a.bytes.length) := by
  have hlen : a.bytes.length = 4 + (a.value.length + paddingOf a.value.length) := by
    simp [StunAttribute.bytes, a.length_padding]
    omega
  unfold StunAttribute.bytes at hat
  rw [at_append, at_append, at_append] at hat
  obtain ⟨⟨⟨htype, hsize⟩, hvalue⟩, -⟩ := hat
  rw [length_toBe] at hsize
  rw [List.length_append, length_toBe, length_toBe] at hvalue
  have hread : u16? buf (offset + 2) = some (UInt16.ofNat a.value.length) := by
    rw [u16?_eq_some, UInt16.toNat_ofNat', Nat.mod_eq_of_lt a.length_value]
    exact hsize
  have hslice : slice? buf (offset + 4) a.value.length = some a.value := slice?_eq_some_iff_at.2 ⟨rfl, hvalue⟩
  have hnat : (UInt16.ofNat a.value.length).toNat = a.value.length := by
    rw [UInt16.toNat_ofNat', Nat.mod_eq_of_lt a.length_value]
  rw [attributes, if_pos (by omega), u16?_eq_some.2 htype, hread]
  simp only [checked, Outcome.bind, hnat]
  rw [if_neg (by omega), hslice, hlen]
  simp only [addressIn_eq, StunAttribute.address?, Nat.add_assoc]

/-- The loop over attributes that stand one after the other finds the first address. -/
theorem attributes_eq {buf : Bytes} : ∀ (as : List StunAttribute) (offset : Nat),
    At buf offset (as.flatMap StunAttribute.bytes) →
      attributes buf (offset + (as.flatMap StunAttribute.bytes).length) offset =
        .ok (as.findSome? StunAttribute.address?)
  | [], offset, _ => by
    rw [attributes, if_neg (by simp)]
    rfl
  | a :: as, offset, h => by
    rw [List.flatMap_cons] at h ⊢
    obtain ⟨ha, has⟩ := at_append.1 h
    have hstep := @attributes_step buf
      (offset + (a.bytes ++ as.flatMap StunAttribute.bytes).length) offset a ha (by
        rw [List.length_append]
        omega)
    rw [hstep, List.findSome?_cons]
    cases a.address? with
    | some addr => rfl
    | none =>
      have ih := attributes_eq as (offset + a.bytes.length) has
      rwa [List.length_append, ← Nat.add_assoc]

/-! ## Responses -/

/-- No datagram makes the parser read behind its end, and what it takes an address from is a response to the
request. -/
theorem parseBindingResponse_total (buf : Bytes) (transactionId : Vector UInt8 12) :
    ∃ found, parseBindingResponse buf transactionId = .ok found ∧
      (found.isSome → IsResponseTo buf transactionId) := by
  unfold parseBindingResponse
  split
  · exact ⟨none, rfl, fun h => by cases h⟩
  · rename_i hlen
    obtain ⟨msgType, htype⟩ := exists_checked (exists_u16? (show 0 + 2 ≤ buf.length by omega))
    rw [htype]
    simp only [Outcome.bind]
    split
    · exact ⟨none, rfl, fun h => by cases h⟩
    · rename_i hresponse
      obtain ⟨msgLen, hmsgLen⟩ := exists_checked (exists_u16? (show 2 + 2 ≤ buf.length by omega))
      obtain ⟨magic, hmagic⟩ := exists_checked (exists_u32? (show 4 + 4 ≤ buf.length by omega))
      obtain ⟨respTid, htid⟩ := exists_checked (exists_slice? (show 8 + 12 ≤ buf.length by omega))
      rw [hmsgLen, hmagic, htid]
      simp only
      split
      · exact ⟨none, rfl, fun h => by cases h⟩
      · rename_i hmatch
        obtain ⟨hcookie, hid⟩ := not_or.1 hmatch
        obtain ⟨found, hfound⟩ := exists_attributes (Nat.min_le_right (20 + msgLen.toNat) buf.length) 20
        refine ⟨found, hfound, fun _ => ⟨by omega, ?_, ?_, ?_⟩⟩
        · rw [← not_not.1 hresponse]
          exact u16?_eq_some.1 (checked_eq_ok.1 htype)
        · rw [← not_not.1 hcookie]
          exact u32?_eq_some.1 (checked_eq_ok.1 hmagic)
        · rw [← not_not.1 hid]
          exact (slice?_eq_some_iff_at.1 (checked_eq_ok.1 htid)).2

/-- A response that is written out is read as its first address, whatever follows it in the datagram. -/
theorem parseBindingResponse_bytes (r : StunResponse) (transactionId : Vector UInt8 12) (trailing : Bytes) :
    parseBindingResponse (r.bytes transactionId ++ trailing) transactionId = .ok r.address? := by
  have htidLen : transactionId.toList.length = 12 := Vector.length_toList
  have hlen : (r.bytes transactionId).length = 20 + (r.attributes.flatMap StunAttribute.bytes).length := by
    simp only [StunResponse.bytes, List.length_append, length_toBe, htidLen]
  have hat : At (r.bytes transactionId ++ trailing) 0 (r.bytes transactionId) :=
    at_iff_append.2 ⟨[], trailing, rfl, rfl⟩
  conv at hat => arg 3; unfold StunResponse.bytes
  rw [at_append, at_append, at_append, at_append] at hat
  obtain ⟨⟨⟨⟨htype, hsize⟩, hmagic⟩, htid⟩, hattributes⟩ := hat
  simp only [List.length_append, length_toBe, htidLen, Nat.zero_add, Nat.reduceAdd] at hsize hmagic htid hattributes
  have hread : u16? (r.bytes transactionId ++ trailing) 2 =
      some (UInt16.ofNat (r.attributes.flatMap StunAttribute.bytes).length) := by
    rw [u16?_eq_some, UInt16.toNat_ofNat', Nat.mod_eq_of_lt r.length_attributes]
    exact hsize
  have hnat : (UInt16.ofNat (r.attributes.flatMap StunAttribute.bytes).length).toNat =
      (r.attributes.flatMap StunAttribute.bytes).length := by
    rw [UInt16.toNat_ofNat', Nat.mod_eq_of_lt r.length_attributes]
  have hslice : slice? (r.bytes transactionId ++ trailing) 8 12 = some transactionId.toList :=
    slice?_eq_some_iff_at.2 ⟨htidLen, htid⟩
  unfold parseBindingResponse
  rw [if_neg (by rw [List.length_append]; omega), u16?_eq_some.2 htype, hread, u32?_eq_some.2 hmagic, hslice]
  simp only [checked, Outcome.bind, hnat, ne_eq, not_true_eq_false, or_self, if_false]
  rw [Nat.min_eq_left (by rw [List.length_append]; omega)]
  exact attributes_eq r.attributes 20 hattributes

/-- For every datagram the parser ends without a read behind its end, takes an address from a response to the request
only, and of a response that is well-formed the first address. -/
theorem parseBindingResponse_correct (buf : Bytes) (transactionId : Vector UInt8 12) :
    (∃ found, parseBindingResponse buf transactionId = .ok found ∧
        (found.isSome → IsResponseTo buf transactionId)) ∧
      ∀ (r : StunResponse) (trailing : Bytes), buf = r.bytes transactionId ++ trailing →
        parseBindingResponse buf transactionId = .ok r.address? := by
  refine ⟨parseBindingResponse_total buf transactionId, ?_⟩
  rintro r trailing rfl
  exact parseBindingResponse_bytes r transactionId trailing

/-- A request is no response. -/
theorem parseBindingResponse_request (transactionId other : Vector UInt8 12) :
    parseBindingResponse (buildBindingRequest transactionId) other = .ok none := by
  have hat : At (buildBindingRequest transactionId) 0 (toBe 2 bindingRequest.toNat) :=
    at_iff_append.2 ⟨[], _, List.append_assoc .., rfl⟩
  unfold parseBindingResponse
  split
  · rfl
  · rw [u16?_eq_some.2 hat]
    rfl

end StunClient

end NodeX.Kad
